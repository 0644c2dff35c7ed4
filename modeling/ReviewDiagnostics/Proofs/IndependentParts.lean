import ReviewDiagnostics.Proofs.Conformance
import ReviewDiagnostics.Proofs.FormatParts
import ReviewDiagnostics.Proofs.Strictness

/-!
# Parts that do not influence each other

What is found in one part of a value stands together among what is found in the value, between findings that
the part has no bearing on.  Hence another value in its place changes that stretch and nothing before or
behind it.  This is so where no schema on the way is a choice between alternatives.
-/

namespace ReviewDiagnostics

/-- A document with another value where a path leads to. -/
def Document.replaceAt (d : Document) (steps : List Segment) (value : Document) : Document :=
  match steps with
  | [] => value
  | step :: rest =>
    match d.child? step with
    | some c => d.putChild step (c.replaceAt rest value)
    | none => d

/-- An object declares no property twice. -/
def Schema.DeclaresOnce (s : Schema) : Prop := (s.properties.map (·.1)).Nodup

instance : DecidablePred Schema.DeclaresOnce := fun s =>
  inferInstanceAs (Decidable (s.properties.map (·.1)).Nodup)

namespace Proofs.IndependentParts

open Conformity Origins Outcome Slots

variable {o : Options} {s t : Schema} {d c value : Document} {path name other : String} {step : Segment}
  {steps rest : List Segment} {fields : Fields} {items : List Document} {properties : List (String × Schema)}
  {p : String × Schema} {i : Nat}

/-! ## Replacing a part -/

private theorem put_of_get? (h : fields.get? name = some value) : fields.put name value = fields := by
  induction fields with
  | nil => cases h
  | cons p fields ih =>
      obtain ⟨k, v⟩ := p
      rw [Fields.get?] at h
      rw [Fields.put]
      split at h
      · rename_i hk
        rw [if_pos hk, Option.some.inj h]
      · rename_i hk
        rw [if_neg hk, ih h]

theorem putChild_of_child? (h : d.child? step = some c) : d.putChild step c = d := by
  cases d with
  | object fields =>
      cases step with
      | name s => exact congrArg Document.object (put_of_get? h)
      | index n => rfl
  | array items =>
      cases step with
      | name s => rfl
      | index n =>
          rw [Document.child?] at h
          split at h
          · obtain ⟨hlt, rfl⟩ := List.getElem?_eq_some_iff.mp h
            exact congrArg Document.array (List.set_getElem_self hlt)
          · cases h
  | _ => rfl

theorem replaceAt_cons (h : d.child? step = some c) :
    d.replaceAt (step :: rest) value = d.putChild step (c.replaceAt rest value) := by
  rw [Document.replaceAt, h]

theorem replaceAt_append (h : d.slot? steps = some (some c)) :
    d.replaceAt (steps ++ rest) value = d.replaceAt steps (c.replaceAt rest value) := by
  induction steps generalizing d with
  | nil =>
      obtain rfl := Option.some.inj (Option.some.inj h)
      rfl
  | cons step steps ih =>
      rw [slot?_cons] at h
      split at h
      · rename_i x hchild
        rw [List.cons_append, replaceAt_cons hchild, replaceAt_cons hchild, ih h]
      · split at h <;> cases h

theorem replaceAt_self (h : d.slot? steps = some (some c)) : d.replaceAt steps c = d := by
  induction steps generalizing d with
  | nil => exact (Option.some.inj (Option.some.inj h)).symm
  | cons step rest ih =>
      rw [slot?_cons] at h
      split at h
      · rename_i x hchild
        rw [replaceAt_cons hchild, ih h, putChild_of_child? hchild]
      · split at h <;> cases h

theorem set?_eq_replaceAt (hsteps : steps ≠ []) (h : d.slot? steps = some (some c)) (value : Document) :
    d.set? steps value = some (d.replaceAt steps value) := by
  induction steps generalizing d with
  | nil => exact (hsteps rfl).elim
  | cons step rest ih =>
      rw [slot?_cons] at h
      split at h
      · rename_i x hchild
        rw [replaceAt_cons hchild]
        cases rest with
        | nil => exact set?_singleton (.inl (by simp [hchild]))
        | cons next more => exact set?_cons hchild (ne_null_of_slot? h) (ih (List.cons_ne_nil _ _) h)
      · split at h <;> cases h

/-! ## What a part has no bearing on -/

theorem has_put_of_get? (h : fields.get? name = some c) (value : Document) (other : String) :
    (fields.put name value).has other = fields.has other := by
  rw [Fields.has_eq_isSome_get?, Fields.has_eq_isSome_get?]
  by_cases hother : other = name
  · rw [hother, Fields.get?_put_self, h]
    rfl
  · rw [Fields.get?_put_of_ne value hother]

theorem filter_put {keeps : String × Document → Bool} (h : ∀ v, keeps (name, v) = false) (fields : Fields)
    (value : Document) : (fields.put name value).filter keeps = fields.filter keeps := by
  induction fields with
  | nil => rw [Fields.put, List.filter_cons_of_neg (by simp [h])]
  | cons p fields ih =>
      obtain ⟨k, v⟩ := p
      rw [Fields.put]
      split
      · rename_i hk
        subst hk
        rw [List.filter_cons_of_neg (by simp [h]), List.filter_cons_of_neg (by simp [h])]
      · rw [List.filter_cons, List.filter_cons, ih]

private theorem checkRequired_put (h : fields.get? name = some c) (value d : Document) :
    checkRequired path (fields.put name value) properties d = checkRequired path fields properties d := by
  cases d with
  | string text => rw [checkRequired, checkRequired, has_put_of_get? h]
  | _ => rfl

theorem map_checkRequired_put (h : fields.get? name = some c) (value : Document) (required : List Document) :
    required.map (checkRequired path (fields.put name value) properties) =
      required.map (checkRequired path fields properties) :=
  List.map_congr_left fun d _ => checkRequired_put h value d

theorem checkUnknown_put (hp : p ∈ properties) (value : Document) {additional : Bool} :
    checkUnknown path (fields.put p.1 value) properties additional o =
      checkUnknown path fields properties additional o := by
  have hdeclared : (Schema.property? properties p.1).isSome :=
    Conformance.isSome_property?_iff.mpr ⟨p, hp, rfl⟩
  rw [checkUnknown, checkUnknown, filter_put fun v => by simpa using hdeclared]

private theorem checkProperty_put_of_ne (h : p.1 ≠ name) (value : Document) :
    checkProperty o path (fields.put name value) p = checkProperty o path fields p := by
  rw [checkProperty, checkProperty, Fields.get?_put_of_ne value h]

theorem map_checkProperty_put (h : name ∉ properties.map (·.1)) (value : Document) :
    properties.map (checkProperty o path (fields.put name value)) =
      properties.map (checkProperty o path fields) := by
  refine List.map_congr_left fun p hp => checkProperty_put_of_ne (fun heq => h ?_) value
  exact heq ▸ List.mem_map_of_mem hp

private theorem checkProperty_put (value : Document) :
    checkProperty o path (fields.put p.1 value) p = check o p.2 (Path.join path (.name p.1)) value := by
  rw [checkProperty, Fields.get?_put_self]

theorem exists_checkProperties_put (o : Options) (path : String) (fields : Fields)
    (hdistinct : (properties.map (·.1)).Nodup) (hp : p ∈ properties) :
    ∃ before after, ∀ value, checkProperties o properties path (fields.put p.1 value) =
      before ++ (check o p.2 (Path.join path (.name p.1)) value ++ after) := by
  obtain ⟨first, last, rfl⟩ := List.append_of_mem hp
  rw [List.map_append, List.map_cons, List.nodup_append, List.nodup_cons] at hdistinct
  obtain ⟨-, ⟨hlast, -⟩, hapart⟩ := hdistinct
  have hfirst : p.1 ∉ first.map (·.1) := fun hmem => hapart _ hmem _ List.mem_cons_self rfl
  refine ⟨join (first.map (checkProperty o path fields)), join (last.map (checkProperty o path fields)),
    fun value => ?_⟩
  rw [checkProperties_eq_join, List.map_append, List.map_cons, join_append, join_cons, checkProperty_put,
    map_checkProperty_put hfirst, map_checkProperty_put hlast]

private theorem exists_check_items_set (f : Nat → Document → Outcome) (hi : i < items.length) :
    ∃ before after, ∀ value, join ((items.set i value).mapIdx f) = before ++ (f i value ++ after) := by
  refine ⟨join ((items.mapIdx f).take i), join ((items.mapIdx f).drop (i + 1)), fun value => ?_⟩
  rw [List.mapIdx_set, List.set_eq_take_append_cons_drop, if_pos (by simpa using hi), join_append, join_cons]

/-! ## Parts of any depth -/

/-- What is found in a part stands between outcomes that do not depend on it. -/
theorem exists_check_replaceAt (o : Options) (path : String) (hform : s.Throughout Schema.OneForm)
    (hdistinct : s.Throughout Schema.DeclaresOnce) (h : LeadsTo s d steps t c) :
    ∃ before after, ∀ value, check o s path (d.replaceAt steps value) =
      before ++ (check o t (steps.foldl Path.join path) value ++ after) := by
  induction h generalizing path with
  | refl =>
      refine ⟨clean, clean, fun value => ?_⟩
      rw [clean_append, append_clean]
      rfl
  | @property about required properties additional fields p c _ _ steps hp hc _ ih =>
      obtain ⟨before, after, hpart⟩ := ih (Path.join path (.name p.1)) (throughout_property hform hp)
        (throughout_property hdistinct hp)
      have hnames : (properties.map (·.1)).Nodup := of_throughout hdistinct
      obtain ⟨first, last, hproperties⟩ := exists_checkProperties_put o path fields hnames hp
      refine ⟨join (required.map (checkRequired path fields properties)) ++ (first ++ before),
        after ++ (last ++ checkUnknown path fields properties additional o), fun value => ?_⟩
      have hchild : (Document.object fields).child? (.name p.1) = some c := hc
      rw [replaceAt_cons hchild, Document.putChild, check, map_checkRequired_put hc, hproperties, hpart,
        checkUnknown_put hp]
      simp only [append_assoc, List.foldl_cons]
  | @item about item items i c _ _ steps hc _ ih =>
      obtain ⟨before, after, hpart⟩ := ih (Path.join path (.index i)) (throughout_item hform)
        (throughout_item hdistinct)
      obtain ⟨first, last, hitems⟩ := exists_check_items_set
        (fun i x => check o item (Path.join path (.index i)) x) (List.getElem?_eq_some_iff.mp hc).1
      refine ⟨first ++ before, after ++ last, fun value => ?_⟩
      have hchild : (Document.array items).child? (.index i) = some c := by
        rw [Document.child?, if_pos (Int.natCast_nonneg _), Int.toNat_natCast, hc]
      rw [replaceAt_cons hchild, Document.putChild, check, Int.toNat_natCast, hitems, hpart]
      simp only [append_assoc, List.foldl_cons]
  | alternative => exact (of_throughout hform rfl).elim

/-! ## Findings -/

theorem oneForm_of_throughout_components (hs : s.Throughout (· ∈ ReviewFormat.components)) :
    s.Throughout Schema.OneForm :=
  throughout_imp FormatParts.kind?_inner hs

theorem declaresOnce_of_throughout_components (hs : s.Throughout (· ∈ ReviewFormat.components)) :
    s.Throughout Schema.DeclaresOnce :=
  throughout_imp (by decide +kernel) hs

/-- The findings in a part stand together in those in the value, and another value in its place changes them
only. -/
theorem exists_validateField_replaceAt (hform : s.Throughout Schema.OneForm)
    (hdistinct : s.Throughout Schema.DeclaresOnce) (h : LeadsTo s d steps t c) (o : Options) (path : String) :
    d.replaceAt steps c = d ∧ ∃ before after : List Finding, ∀ value,
      (steps ≠ [] → d.set? steps value = some (d.replaceAt steps value)) ∧
      (∀ v, Validator.validateField o s path (d.replaceAt steps value) = .ok v →
        ∃ u, Validator.validateField o t (steps.foldl Path.join path) value = .ok u ∧
          v.errors = before ++ u.errors ++ after) ∧
      (∀ v u, Validator.validateField o s path d = .ok v →
        Validator.validateField o t (steps.foldl Path.join path) value = .ok u →
        ∃ w, Validator.validateField o s path (d.replaceAt steps value) = .ok w) ∧
      (s.WellTyped → ∃ v, Validator.validateField o s path (d.replaceAt steps value) = .ok v) := by
  have hslot := slot?_of_leadsTo h
  obtain ⟨before, after, hcheck⟩ := exists_check_replaceAt o path hform hdistinct h
  have hself := replaceAt_self hslot
  refine ⟨hself, before.errors, after.errors, fun value => ⟨fun hsteps => set?_eq_replaceAt hsteps hslot value,
    fun v hv => ?_, fun v u hv hu => ?_, fun hs => ⟨_, Conformance.validateField_eq hs o path _⟩⟩⟩
  · rw [Validator.validateField, hcheck] at hv
    obtain ⟨hfault, rfl⟩ := verdict_eq_ok_iff.mp hv
    rw [fault_append, fault_append, Option.or_eq_none_iff, Option.or_eq_none_iff] at hfault
    exact ⟨_, verdict_of_fault_eq_none hfault.2.1, by simp⟩
  · rw [← hself, Validator.validateField, hcheck] at hv
    obtain ⟨hfault, -⟩ := verdict_eq_ok_iff.mp hv
    obtain ⟨hpart, -⟩ := verdict_eq_ok_iff.mp hu
    rw [fault_append, fault_append, Option.or_eq_none_iff, Option.or_eq_none_iff] at hfault
    refine ⟨_, verdict_of_fault_eq_none ?_⟩
    rw [hcheck, fault_append, fault_append, hpart, hfault.1, hfault.2.2]
    rfl

/-- Whatever a range starts with, the rest of a location is found fault with all the same. -/
theorem exists_validateField_start : ∃ before after : List Finding, ∀ start, ∃ v u,
    Validator.validateField .standard ReviewFormat.location "location" (.object [("path", .string ""),
      ("range", .object [("start", start), ("end", .int 7)])]) = .ok v ∧
    Validator.validateField .standard ReviewFormat.position "location.range.start" start = .ok u ∧
    v.errors = before ++ u.errors ++ after := by
  have hleads : LeadsTo ReviewFormat.location (.object [("path", .string ""),
      ("range", .object [("start", .object [("line", .int 0)]), ("end", .int 7)])])
      [.name "range", .name "start"] ReviewFormat.position (.object [("line", .int 0)]) :=
    .property (p := ("range", ReviewFormat.range)) (by simp) rfl
      (.property (p := ("start", ReviewFormat.position)) (by simp) rfl .refl)
  obtain ⟨-, before, after, h⟩ := exists_validateField_replaceAt
    (oneForm_of_throughout_components FormatParts.throughout_location)
    (declaresOnce_of_throughout_components FormatParts.throughout_location) hleads .standard "location"
  refine ⟨before, after, fun start => ?_⟩
  obtain ⟨-, hpart, -, hanswer⟩ := h start
  obtain ⟨v, hv⟩ := hanswer WellTyped.wellTyped_location
  obtain ⟨u, hu, herrors⟩ := hpart v hv
  exact ⟨v, u, hv, hu, herrors⟩

end Proofs.IndependentParts

end ReviewDiagnostics
