import ReviewDiagnostics.Proofs.Choice

/-!
# Findings in parts

What checking an object, a list or a choice finds, said part by part: a required field that is not there,
something in a property that is there, a field that is not declared, something in an item or by an
alternative.
-/

namespace ReviewDiagnostics.Proofs.Parts

open Conformity

variable {o : Options} {about : About} {path : String} {fields : Fields}
  {properties : List (String × Schema)} {f : Finding}

/-! ## Objects -/

theorem mem_errors_checkRequired_iff {name : String} :
    f ∈ (checkRequired path fields properties (.string name)).errors ↔
      fields.has name = false ∧ f = .expecting (Path.join path (.name name)) .requiredPropertyMissing
        .null (missingText (Schema.property? properties name)) := by
  rw [checkRequired]
  cases hname : fields.has name with
  | false => simp [checkRequired.missing]
  | true => simp

theorem mem_errors_checkProperty_iff {p : String × Schema} :
    f ∈ (checkProperty o path fields p).errors ↔
      ∃ c, fields.get? p.1 = some c ∧ f ∈ (check o p.2 (Path.join path (.name p.1)) c).errors := by
  rw [checkProperty]
  cases fields.get? p.1 with
  | none => simp
  | some c => simp

theorem eq_of_mem_errors_checkUnknown {additional : Bool}
    (hf : f ∈ (checkUnknown path fields properties additional o).errors) :
    ∃ p ∈ fields, f = .expecting (Path.join path (.name p.1)) .unknownProperty p.2
      "property not present" := by
  rw [checkUnknown] at hf
  split at hf
  · cases hf
  · obtain ⟨p, hp, hf⟩ := Outcome.mem_errors_join_map.mp hf
    split at hf
    · exact ⟨p, (List.mem_filter.mp hp).1, List.mem_singleton.mp hf⟩
    · cases hf

theorem mem_errors_object_iff {required : List Document} {additional : Bool} :
    f ∈ (check o (.object about required properties additional) path (.object fields)).errors ↔
      (∃ name ∈ required, f ∈ (checkRequired path fields properties name).errors) ∨
      (∃ p ∈ properties, ∃ c, fields.get? p.1 = some c ∧
        f ∈ (check o p.2 (Path.join path (.name p.1)) c).errors) ∨
      f ∈ (checkUnknown path fields properties additional o).errors := by
  simp only [check_object_eq, Outcome.errors_append, List.mem_append, Outcome.mem_errors_join_map,
    mem_errors_checkProperty_iff]

/-! ## Lists and choices -/

theorem mem_errors_array_iff {item : Schema} {items : List Document} :
    f ∈ (check o (.array about (some item)) path (.array items)).errors ↔
      ∃ i, ∃ hi : i < items.length, f ∈ (check o item (Path.join path (.index i)) items[i]).errors := by
  rw [check, Outcome.mem_errors_join_mapIdx]

theorem mem_errors_oneOf {alternatives : List Schema} {uri : Option Document} {d : Document}
    (hf : f ∈ (check o (.oneOf about alternatives uri) path d).errors) :
    f = .expecting path .oneofValidationFailed d "a schema with at least one alternative" ∨
      ∃ s ∈ alternatives, f ∈ (check o s path d).errors := by
  rw [check_oneOf_eq] at hf
  refine (Choice.mem_errors_choose hf).imp_right ?_
  rintro ⟨t, ht, hf⟩
  obtain ⟨s, hs, rfl⟩ := List.mem_map.mp ht
  exact ⟨s, hs, hf⟩

end ReviewDiagnostics.Proofs.Parts
