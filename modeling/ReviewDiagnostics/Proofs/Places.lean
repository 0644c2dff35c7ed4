import ReviewDiagnostics.Proofs.Parts
import ReviewDiagnostics.Validation.Refinement

/-!
# Places of findings

Whatever is found while a value is checked lies at the path of the value or below it.  The text of a
path below another one begins with that one's text.
-/

namespace ReviewDiagnostics

/-- Codes of findings about a field that is not there. -/
def Code.isAbsence : Code → Bool
  | .requiredPropertyMissing | .missingDiagnosticMessage | .missingDiagnosticLocation
  | .invalidRange => true
  | _ => false

/-- A finding about a value at a path that is there. -/
structure Blames (path : String) (d : Document) (f : Finding) : Prop where
  path : f.path = path
  value : f.value = d
  present : f.code.isAbsence = false

namespace Proofs.Places

open Conformity Parts

/-- A finding at a path or below it. -/
def Below (path : String) (f : Finding) : Prop :=
  path.toList <+: f.path.toList

theorem prefix_join (path : String) (step : Segment) :
    path.toList <+: (Path.join path step).toList := by
  cases step with
  | name s =>
      rw [Path.join]
      split
      · rename_i hpath
        simp [hpath]
      · simp [toString, List.append_assoc]
  | index n => simp [Path.join, toString, List.append_assoc]

theorem below_of_path {path : String} {f : Finding} (h : f.path = path) : Below path f := by
  obtain rfl := h
  exact List.prefix_refl _

theorem below_of_join {path : String} {step : Segment} {f : Finding}
    (h : Below (Path.join path step) f) : Below path f :=
  (prefix_join path step).trans h

/-! ## Values without parts -/

theorem blames_mismatch {path : String} {d : Document} {kind : Kind} {f : Finding}
    (hf : f ∈ (mismatch path d kind).errors) : Blames path d f := by
  obtain rfl := List.mem_singleton.mp hf
  exact ⟨rfl, rfl, rfl⟩

theorem blames_when {test : Except Fault Bool} {path : String} {d : Document} {g f : Finding}
    (hg : Blames path d g) (hf : f ∈ (Conformity.when test (.ofError g)).errors) :
    Blames path d f := by
  rw [Conformity.when.eq_def] at hf
  split at hf
  · simp at hf
  · exact List.mem_singleton.mp hf ▸ hg
  · simp at hf

theorem blames_checkMinLength {path s : String} {min? : Option Document} {f : Finding}
    (hf : f ∈ (checkMinLength path s min?).errors) : Blames path (.string s) f := by
  cases min? with
  | none => simp [checkMinLength] at hf
  | some min =>
      rw [checkMinLength] at hf
      split at hf
      · obtain rfl := List.mem_singleton.mp hf
        exact ⟨rfl, rfl, rfl⟩
      · exact blames_when ⟨rfl, rfl, rfl⟩ hf

theorem blames_checkMaxLength {path s : String} {max? : Option Document} {f : Finding}
    (hf : f ∈ (checkMaxLength path s max?).errors) : Blames path (.string s) f := by
  cases max? with
  | none => simp [checkMaxLength] at hf
  | some max =>
      rw [checkMaxLength] at hf
      exact blames_when ⟨rfl, rfl, rfl⟩ hf

theorem blames_checkPattern {path s : String} {pattern? : Option Document} {f : Finding}
    (hf : f ∈ (checkPattern path s pattern?).errors) : Blames path (.string s) f := by
  rw [checkPattern.eq_def] at hf
  split at hf
  · simp at hf
  · split at hf
    · simp at hf
    · split at hf
      · simp at hf
      · obtain rfl := List.mem_singleton.mp hf
        exact ⟨rfl, rfl, rfl⟩
  · simp at hf

theorem blames_checkText {path s : String} {limits : TextLimits} {f : Finding}
    (hf : f ∈ (checkText path s limits).errors) : Blames path (.string s) f := by
  have hfurther (hf : f ∈ (checkMinLength path s limits.minLength ++
      (checkMaxLength path s limits.maxLength ++ checkPattern path s limits.pattern)).errors) :
      Blames path (.string s) f := by
    simp only [Outcome.errors_append, List.mem_append] at hf
    rcases hf with hf | hf | hf
    · exact blames_checkMinLength hf
    · exact blames_checkMaxLength hf
    · exact blames_checkPattern hf
  rw [checkText.eq_def] at hf
  dsimp only at hf
  split at hf
  · exact hfurther hf
  · split at hf
    · exact hfurther hf
    · split at hf
      · simp at hf
      · obtain rfl := List.mem_singleton.mp hf
        exact ⟨rfl, rfl, rfl⟩

theorem blames_checkBound {path sign : String} {code : Code} {value bound : Document}
    {exceeded : Except Fault Bool} {f : Finding} (hcode : code.isAbsence = false)
    (hf : f ∈ (checkBound path code sign value bound exceeded).errors) : Blames path value f := by
  rw [checkBound.eq_def] at hf
  split at hf
  · simp at hf
  · simp at hf
  · split at hf
    · simp at hf
    · obtain rfl := List.mem_singleton.mp hf
      exact ⟨rfl, rfl, hcode⟩

theorem blames_checkNumber {path : String} {value : Document} {minimum maximum : Option Document}
    {f : Finding} (hf : f ∈ (checkNumber path value minimum maximum).errors) :
    Blames path value f := by
  rw [checkNumber.eq_def, Outcome.errors_append, List.mem_append] at hf
  rcases hf with hf | hf
  · cases minimum with
    | none => simp at hf
    | some min => exact blames_checkBound rfl hf
  · cases maximum with
    | none => simp at hf
    | some max => exact blames_checkBound rfl hf

/-! ## Values with parts -/

theorem path_missing {place expected : String} {f : Finding}
    (hf : f ∈ (checkRequired.missing place expected).errors) : f.path = place := by
  simp_all [checkRequired.missing]

theorem path_checkRequired {path name : String} {fields : Fields}
    {properties : List (String × Schema)} {f : Finding}
    (hf : f ∈ (checkRequired path fields properties (.string name)).errors) :
    f.path = Path.join path (.name name) := by
  obtain ⟨-, rfl⟩ := mem_errors_checkRequired_iff.mp hf
  rfl

theorem below_checkRequired {path : String} {fields : Fields} {properties : List (String × Schema)}
    {name : Document} {f : Finding} (hf : f ∈ (checkRequired path fields properties name).errors) :
    Below path f := by
  cases name with
  | string name => exact below_of_join (below_of_path (path_checkRequired hf))
  | int n => exact below_of_join (below_of_path (path_missing hf))
  | bool b =>
      rw [Below, path_missing hf]
      simp [toString, List.append_assoc]
  | array items => simp [checkRequired] at hf
  | object fields => simp [checkRequired] at hf
  | null | float x =>
      rw [checkRequired] at hf
      split at hf
      · simp at hf
      · rw [Below, path_missing hf]
        simp [toString, List.append_assoc]
      all_goals simp

theorem path_checkUnknown {path : String} {fields : Fields} {properties : List (String × Schema)}
    {additional : Bool} {o : Options} {f : Finding}
    (hf : f ∈ (checkUnknown path fields properties additional o).errors) :
    ∃ p ∈ fields, f.path = Path.join path (.name p.1) := by
  obtain ⟨p, hp, rfl⟩ := eq_of_mem_errors_checkUnknown hf
  exact ⟨p, hp, rfl⟩

theorem below_check {s : Schema} {o : Options} {path : String} {d : Document} {f : Finding}
    (hf : f ∈ (check o s path d).errors) : Below path f := by
  induction s using Schema.induction generalizing path d with
  | string about limits =>
      cases d with
      | string t => exact below_of_path (blames_checkText hf).path
      | _ => exact below_of_path (blames_mismatch hf).path
  | number about minimum maximum =>
      rw [check] at hf
      split at hf
      · exact below_of_path (blames_checkNumber hf).path
      · exact below_of_path (blames_mismatch hf).path
  | boolean | null | anyArray =>
      rw [check] at hf
      split at hf
      · simp at hf
      · exact below_of_path (blames_mismatch hf).path
  | object about required properties additional ih =>
      cases d with
      | object fields =>
          rcases mem_errors_object_iff.mp hf with ⟨name, -, hf⟩ | ⟨p, hp, c, -, hf⟩ | hf
          · exact below_checkRequired hf
          · exact below_of_join (ih p hp hf)
          · obtain ⟨p, -, hpath⟩ := path_checkUnknown hf
            exact below_of_join (below_of_path hpath)
      | _ => exact below_of_path (blames_mismatch hf).path
  | array about item ih =>
      cases d with
      | array items =>
          obtain ⟨i, hi, hf⟩ := mem_errors_array_iff.mp hf
          exact below_of_join (ih hf)
      | _ => exact below_of_path (blames_mismatch hf).path
  | oneOf about alternatives uri ih =>
      rcases mem_errors_oneOf hf with rfl | ⟨s, hs, hf⟩
      · exact below_of_path rfl
      · exact ih s hs hf

/-! ## The second look -/

theorem exists_of_mem_ordinal {path name : String} {fields : Fields} {f : Finding}
    (hf : f ∈ (Refinement.ordinal path fields name).errors) :
    ∃ d, fields.get? name = some d ∧ d.kind? = some .number ∧ d.less (.int 1) = true ∧
      f = .of (Refinement.inField path name) .invalidPosition d
        (.string s!"positive integer (1-based {name} number)") (.int 1) := by
  rw [Refinement.ordinal] at hf
  split at hf
  · cases hf
  · rename_i d hd
    split at hf
    · rename_i hbelow
      simp only [Bool.and_eq_true, decide_eq_true_eq] at hbelow
      exact ⟨d, hd, hbelow.1, hbelow.2, List.mem_singleton.mp hf⟩
    · cases hf

theorem exists_of_mem_severity {path : String} {fields : Fields} {f : Finding}
    (hf : f ∈ (Refinement.severity path fields).errors) :
    ∃ d, fields.get? "severity" = some d ∧ Refinement.isSeverity d = false ∧
      f = .expecting (Refinement.inField path "severity") .invalidSeverity d
        Refinement.severityText := by
  rw [Refinement.severity] at hf
  split at hf
  · cases hf
  · rename_i d hd
    split at hf
    · cases hf
    · rename_i hother
      exact ⟨d, hd, by simpa using hother, List.mem_singleton.mp hf⟩

theorem below_ordinal {path name : String} {fields : Fields} {f : Finding}
    (hf : f ∈ (Refinement.ordinal path fields name).errors) : Below path f := by
  obtain ⟨d, -, -, -, rfl⟩ := exists_of_mem_ordinal hf
  exact @below_of_join path (.name name) _ (below_of_path rfl)

theorem below_position {path : String} {d : Document} {f : Finding}
    (hf : f ∈ (Refinement.position path d).errors) : Below path f := by
  cases d with
  | object fields =>
      rw [Refinement.position, Outcome.errors_append, List.mem_append] at hf
      rcases hf with hf | hf <;> exact below_ordinal hf
  | _ => simp [Refinement.position] at hf

theorem below_range {path : String} {d : Document} {f : Finding}
    (hf : f ∈ (Refinement.range path d).errors) : Below path f := by
  cases d with
  | object fields =>
      rw [Refinement.range, Outcome.errors_append, List.mem_append] at hf
      rcases hf with hf | hf
      · have hstart : Below (Path.join path (.name "start")) f := by
          split at hf
          · exact below_of_path (by simp_all [Refinement.inField])
          · exact below_position hf
        exact below_of_join hstart
      · exact below_of_join (below_position hf)
  | _ => simp [Refinement.range] at hf

theorem below_location {path : String} {d : Document} {f : Finding}
    (hf : f ∈ (Refinement.location path d).errors) : Below path f := by
  cases d with
  | object fields => exact below_of_join (below_range hf)
  | _ => simp [Refinement.location] at hf

theorem below_field_of_diagnostic {path : String} {fields : Fields} {f : Finding}
    (hf : f ∈ (Refinement.diagnostic path fields).errors) :
    ∃ name ∈ ["message", "location", "severity"], Below (Refinement.inField path name) f := by
  rw [Refinement.diagnostic, Outcome.errors_append, Outcome.errors_append, List.mem_append,
    List.mem_append] at hf
  rcases hf with hf | hf | hf
  · refine ⟨"message", by simp, below_of_path ?_⟩
    split at hf <;> simp_all
  · refine ⟨"location", by simp, ?_⟩
    split at hf
    · exact below_of_path (by simp_all)
    · exact below_location hf
  · obtain ⟨d, -, -, rfl⟩ := exists_of_mem_severity hf
    exact ⟨"severity", by simp, below_of_path rfl⟩

theorem below_item {path : String} {d : Document} {f : Finding}
    (hf : f ∈ (Refinement.item path d).errors) : Below path f := by
  cases d with
  | object fields =>
      rw [Refinement.item] at hf
      split at hf
      · obtain ⟨name, -, hbelow⟩ := below_field_of_diagnostic hf
        exact below_of_join hbelow
      · simp at hf
  | _ => simp [Refinement.item] at hf

end Proofs.Places

end ReviewDiagnostics
