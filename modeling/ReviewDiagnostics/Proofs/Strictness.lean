import ReviewDiagnostics.Proofs.Comparison
import ReviewDiagnostics.Proofs.Conformance
import ReviewDiagnostics.Proofs.FormatParts

/-!
# What the options change

The options bear on unknown properties alone.  Two checks of one value with different options are related
part by part: what they say about the parts of an object they say about the object, and what they say
about the alternatives of a choice they say about the choice, as far as the same alternative is reported
on.  Three relations are carried through in this way: equal findings, findings only where there were
findings before, and findings that differ by the unknown properties.
-/

namespace ReviewDiagnostics

/-- A check under some options finds unknown properties only if one under others does. -/
def Options.Laxer (lax strict : Options) : Prop :=
  lax.strict = true → strict.strict = true ∧ (strict.allowExtra = true → lax.allowExtra = true)

/-- Whether a finding is about a property that is not declared. -/
def Finding.isUnknown (f : Finding) : Bool := decide (f.code = .unknownProperty)

/-- Whether a notice is about a property that is not declared. -/
def Notice.isUnknown (n : Notice) : Bool := decide (n.code = .unknownProperty)

/-- A schema that is no choice between alternatives. -/
def Schema.OneForm (s : Schema) : Prop := s.kind? ≠ none

/-- Whether a schema lets objects have fields that it does not declare. -/
def Schema.letsPass : Schema → Bool
  | .object _ _ _ additional => additional
  | _ => true

namespace Outcome

/-- An outcome that does not speak of unknown properties. -/
structure Known (x : Outcome) : Prop where
  errors : ∀ f ∈ x.errors, f.isUnknown = false
  warnings : x.warnings = []

/-- Where the stricter of two outcomes is clean, the laxer one is. -/
def Relaxes (lax strict : Outcome) : Prop :=
  strict.fault = none → lax.fault = none ∧ (strict.errors = [] → lax.errors = [])

/-- The stricter of two outcomes makes findings of the notices of unknown properties. -/
structure Hardens (strict lax : Outcome) : Prop where
  known : strict.errors.filter (!·.isUnknown) = lax.errors
  unknown : (strict.errors.filter (·.isUnknown)).map (·.path) =
    (lax.warnings.filter (·.isUnknown)).map (·.path)
  fault : strict.fault = lax.fault

end Outcome

/-- A relation between the outcomes of two checks with different options that goes from the parts of a
value to the value. -/
structure Carries (P : Schema → Prop) (o o' : Options) (R : Outcome → Outcome → Prop) : Prop where
  known : ∀ {x : Outcome}, x.Known → R x x
  append : ∀ {a b x y : Outcome}, R a x → R b y → R (a ++ b) (x ++ y)
  unknown : ∀ {about : About} {required : List Document} {properties : List (String × Schema)}
    {additional : Bool} (path : String) (fields : Fields), P (.object about required properties additional) →
    R (Conformity.checkUnknown path fields properties additional o)
      (Conformity.checkUnknown path fields properties additional o')
  choose : ∀ {about : About} {alternatives : List Schema} {uri : Option Document} {path : String}
    {d : Document} {f g : Schema → Outcome}, P (.oneOf about alternatives uri) →
    (∀ s ∈ alternatives, R (f s) (g s)) →
    R (Conformity.choose path d (alternatives.map fun s => (s, f s)))
      (Conformity.choose path d (alternatives.map fun s => (s, g s)))

namespace Proofs.Strictness

open Comparison Conformity Origins Outcome

variable {o o' : Options} {s : Schema} {d value bound : Document} {path text : String} {x : Outcome}
  {limit? low? high? : Option Document} {limits : TextLimits} {fields : Fields}
  {properties : List (String × Schema)} {additional : Bool}

/-! ## Checks that no option bears on -/

theorem known_clean : clean.Known := ⟨by simp, rfl⟩

theorem known_ofFault (f : Fault) : (ofFault f).Known := ⟨by simp, rfl⟩

theorem known_ofError {f : Finding} (h : f.isUnknown = false) : (ofError f).Known :=
  ⟨by simpa using h, rfl⟩

theorem known_append {y : Outcome} (hx : x.Known) (hy : y.Known) : (x ++ y).Known where
  errors := List.forall_mem_append.mpr ⟨hx.errors, hy.errors⟩
  warnings := by rw [warnings_append, hx.warnings, hy.warnings, List.append_nil]

theorem known_when {test : Except Fault Bool} (h : x.Known) : (when test x).Known := by
  match test with
  | .error f => exact known_ofFault f
  | .ok true => exact h
  | .ok false => exact known_clean

theorem known_mismatch (path : String) (d : Document) (kind : Kind) : (mismatch path d kind).Known :=
  known_ofError rfl

theorem known_checkMinLength : (checkMinLength path text limit?).Known := by
  cases limit? with
  | none => exact known_clean
  | some limit =>
      rw [checkMinLength]
      split
      · exact known_ofError rfl
      · exact known_when (known_ofError rfl)

theorem known_checkMaxLength : (checkMaxLength path text limit?).Known := by
  cases limit? with
  | none => exact known_clean
  | some limit => exact known_when (known_ofError rfl)

theorem known_checkPattern : (checkPattern path text limit?).Known := by
  rw [checkPattern.eq_def]
  split
  · exact known_clean
  · split
    · exact known_ofFault _
    · split
      · exact known_clean
      · exact known_ofError rfl
  · exact known_ofFault _

theorem known_checkText : (checkText path text limits).Known := by
  have hfurther := known_append (@known_checkMinLength path text limits.minLength)
    (known_append (@known_checkMaxLength path text limits.maxLength)
      (@known_checkPattern path text limits.pattern))
  rw [checkText]
  split
  · exact hfurther
  · split
    · exact hfurther
    · split
      · exact known_ofFault _
      · exact known_ofError rfl

theorem known_checkBound {code : Code} {sign : String} {exceeded : Except Fault Bool}
    (hcode : code ≠ .unknownProperty) : (checkBound path code sign value bound exceeded).Known := by
  rw [checkBound.eq_def]
  split
  · exact known_ofFault _
  · exact known_clean
  · split
    · exact known_ofFault _
    · exact known_ofError (decide_eq_false hcode)

theorem known_checkNumber : (checkNumber path value low? high?).Known := by
  rw [checkNumber.eq_def]
  refine known_append ?_ ?_
  · split
    · exact known_clean
    · exact known_checkBound (by decide)
  · split
    · exact known_clean
    · exact known_checkBound (by decide)

theorem known_checkRequired (name : Document) : (checkRequired path fields properties name).Known := by
  rw [checkRequired.eq_def]
  split
  · split
    · exact known_clean
    · exact known_ofError rfl
  · exact known_ofError rfl
  · exact known_ofError rfl
  · exact known_ofFault _
  · exact known_ofFault _
  · split
    · exact known_ofFault _
    · exact known_ofError rfl

/-! ## From the parts to the whole -/

/-- A relation that goes from the parts of a value to the value holds of the checks of every value. -/
theorem check_related {P : Schema → Prop} {R : Outcome → Outcome → Prop} (h : Carries P o o' R)
    (hs : s.Throughout P) (path : String) (d : Document) :
    R (check o s path d) (check o' s path d) := by
  induction s using Schema.induction generalizing path d with
  | string about limits =>
      cases d with
      | string text => exact h.known known_checkText
      | _ => exact h.known (known_mismatch _ _ _)
  | number about minimum maximum =>
      rw [check, check]
      split
      · exact h.known known_checkNumber
      · exact h.known (known_mismatch _ _ _)
  | boolean | null | anyArray =>
      rw [check, check]
      split
      · exact h.known known_clean
      · exact h.known (known_mismatch _ _ _)
  | object about required properties additional ih =>
      cases d with
      | object fields =>
          rw [check_object_eq, check_object_eq]
          have hrequired := join_map (l := required) (h.known known_clean) h.append
            fun name _ => h.known (@known_checkRequired path fields properties name)
          have hproperties : ∀ p ∈ properties,
              R (checkProperty o path fields p) (checkProperty o' path fields p) := by
            intro p hp
            rw [checkProperty, checkProperty]
            split
            · exact ih p hp (throughout_property hs hp) _ _
            · exact h.known known_clean
          refine h.append hrequired (h.append ?_ (h.unknown path fields (of_throughout hs)))
          exact join_map (h.known known_clean) h.append hproperties
      | _ => exact h.known (known_mismatch _ _ _)
  | array about item ih =>
      cases d with
      | array items =>
          rw [check, check]
          refine join_mapIdx (h.known known_clean) h.append rfl fun i x y hx hy => ?_
          obtain rfl := Option.some.inj (hx.symm.trans hy)
          exact ih (throughout_item hs) _ _
      | _ => exact h.known (known_mismatch _ _ _)
  | oneOf about alternatives uri ih =>
      rw [check_oneOf_eq, check_oneOf_eq]
      exact h.choose (of_throughout hs) fun t ht => ih t ht (throughout_alternative hs ht) _ _

theorem throughout_any (s : Schema) : s.Throughout fun _ => True :=
  throughout_of_inner (fun _ _ _ _ => trivial) trivial

/-! ## Unknown properties that are let pass -/

theorem letsPass_parts : ∀ u ∈ ReviewFormat.parts, u.letsPass = true := by decide +kernel

theorem letsPass_document : ReviewFormat.document.Throughout fun u => u.letsPass = true :=
  throughout_imp letsPass_parts FormatParts.throughout_document

theorem checkUnknown_of_letsPass {about : About} {required : List Document} (hextra : o.allowExtra = true)
    (h : (Schema.object about required properties additional).letsPass = true) :
    checkUnknown path fields properties additional o = clean := by
  obtain rfl : additional = true := h
  rw [checkUnknown, hextra, Bool.and_self, Bool.or_true, if_pos rfl]

private theorem carries_letsPass (hextra : o.allowExtra = true) :
    Carries (fun u => u.letsPass = true) o o fun x _ => ∀ f ∈ x.errors, f.isUnknown = false where
  known := Known.errors
  append := fun hx hy => List.forall_mem_append.mpr ⟨hx, hy⟩
  unknown := fun _ _ h => by
    rw [checkUnknown_of_letsPass hextra h]
    exact known_clean.errors
  choose := fun _ halternatives f hf => by
    rcases Choice.mem_errors_choose hf with rfl | ⟨t, ht, hf⟩
    · rfl
    · obtain ⟨s, hs, rfl⟩ := List.mem_map.mp ht
      exact halternatives s hs f hf

theorem code_ne_unknown_of_letsPass (hextra : o.allowExtra = true)
    (hs : s.Throughout fun u => u.letsPass = true) {f : Finding} (hf : f ∈ (check o s path d).errors) :
    f.code ≠ .unknownProperty :=
  of_decide_eq_false (check_related (carries_letsPass hextra) hs path d f hf)

/-! ## Unknown properties as notices -/

theorem errors_checkUnknown_of_lax (h : o.strict = false) :
    (checkUnknown path fields properties additional o).errors = [] := by
  refine Conformance.errors_checkUnknown_eq_nil_iff.mpr fun hrefuses => ?_
  cases h.symm.trans hrefuses.1

theorem carries_lax (hlax : o.strict = false) (hlax' : o'.strict = false) :
    Carries (fun _ => True) o o' (Matches Eq fun _ _ => True) where
  known := fun _ => matches_refl compares_eq compares_any _
  append := matches_append compares_eq compares_any
  unknown := fun _ _ _ => by
    refine ⟨?_, trivial, ?_⟩
    · rw [errors_checkUnknown_of_lax hlax, errors_checkUnknown_of_lax hlax']
    · rw [WellTyped.fault_checkUnknown, WellTyped.fault_checkUnknown]
  choose := fun _ halternatives =>
    matches_choose compares_eq compares_any (fun h => by rw [h]) (measuresAlike_refl _) rfl halternatives

/-! ## Laxer options -/

private theorem relaxes_settle {f g : Schema → Outcome} {best? best'? : Option Candidate}
    {tried : List Schema}
    (hbest : ∀ b ∈ best?, b.outcome.errors ≠ []) (htried : ∀ s ∈ tried, Relaxes (g s) (f s)) :
    Relaxes (settle path d best'? (tried.map fun s => (s, g s)))
      (settle path d best? (tried.map fun s => (s, f s))) := by
  -- The two have come through the same alternatives, and the stricter one has failed at all of them.
  induction tried generalizing best? best'? with
  | nil =>
      intro _
      refine ⟨?_, fun hclean => ?_⟩
      · cases best'? <;> rfl
      · cases best? with
        | none => cases hclean
        | some b => exact (hbest b rfl hclean).elim
  | cons s tried ih =>
      obtain ⟨hs, htried⟩ := List.forall_mem_cons.mp htried
      intro hfault
      rw [List.map_cons] at hfault
      have hstrict : (f s).fault = none := Choice.fault_of_settle hfault
      obtain ⟨hlax, herrors⟩ := hs hstrict
      rw [List.map_cons, List.map_cons]
      by_cases hclean : (g s).errors = []
      · rw [Choice.settle_of_clean hlax hclean]
        exact ⟨rfl, fun _ => rfl⟩
      · have hfailed : (f s).errors ≠ [] := mt herrors hclean
        rw [Choice.settle_of_failed hstrict hfailed] at hfault ⊢
        rw [Choice.settle_of_failed hlax hclean]
        exact ih (Choice.errors_closer_ne_nil hbest hfailed) htried hfault

theorem carries_laxer (h : o'.Laxer o) : Carries (fun _ => True) o o' fun x y => Relaxes y x where
  known := fun _ hfault => ⟨hfault, id⟩
  append := fun hax hby hfault => by
    rw [fault_append, Option.or_eq_none_iff] at hfault
    obtain ⟨hx, hxerrors⟩ := hax hfault.1
    obtain ⟨hy, hyerrors⟩ := hby hfault.2
    refine ⟨by rw [fault_append, hx, hy]; rfl, fun herrors => ?_⟩
    rw [errors_append, List.append_eq_nil_iff] at herrors ⊢
    exact ⟨hxerrors herrors.1, hyerrors herrors.2⟩
  unknown := fun _ _ _ _ => by
    refine ⟨WellTyped.fault_checkUnknown, fun herrors => ?_⟩
    rw [Conformance.errors_checkUnknown_eq_nil_iff] at herrors ⊢
    rintro ⟨hstrict, hextra⟩
    obtain ⟨hstricter, hallow⟩ := h hstrict
    refine herrors ⟨hstricter, hextra.imp_right fun hlax => ?_⟩
    rw [Bool.eq_false_iff] at hlax ⊢
    exact mt hallow hlax
  choose := fun _ halternatives =>
    choose_of_settle (R := fun x y => Relaxes y x) (measuresAlike_refl _) (fun hfault => ⟨hfault, id⟩)
      (relaxes_settle (by simp) fun s hs => halternatives s (mem_likeliest.mp hs))

/-! ## Unknown properties as findings -/

theorem hardens_known (h : x.Known) : x.Hardens x where
  known := List.filter_eq_self.mpr fun f hf => by rw [h.errors f hf]; rfl
  unknown := by
    rw [h.warnings, List.filter_eq_nil_iff.mpr fun f hf => by simp [h.errors f hf]]
    rfl
  fault := rfl

theorem hardens_append {a b x y : Outcome} (hax : a.Hardens x) (hby : b.Hardens y) :
    (a ++ b).Hardens (x ++ y) where
  known := by rw [errors_append, errors_append, List.filter_append, hax.known, hby.known]
  unknown := by
    rw [errors_append, warnings_append, List.filter_append, List.filter_append, List.map_append,
      List.map_append, hax.unknown, hby.unknown]
  fault := by rw [fault_append, fault_append, hax.fault, hby.fault]

theorem hardens_checkUnknown (extra : Bool) :
    (checkUnknown path fields properties additional ⟨true, extra⟩).Hardens
      (checkUnknown path fields properties additional ⟨false, extra⟩) := by
  rw [checkUnknown, checkUnknown]
  split
  · exact hardens_known known_clean
  · exact join_map (hardens_known known_clean) hardens_append fun p _ => ⟨rfl, rfl, rfl⟩

theorem carries_strict (extra : Bool) : Carries Schema.OneForm ⟨true, extra⟩ ⟨false, extra⟩ Hardens where
  known := hardens_known
  append := hardens_append
  unknown := fun _ _ _ => hardens_checkUnknown extra
  choose := fun hform _ => (hform rfl).elim

/-! ## Verdicts -/

theorem verdict_map_of_fault {α : Type} {x y : Outcome} {p q : Verdict → α} (hfault : x.fault = y.fault)
    (h : p ⟨x.errors, x.warnings⟩ = q ⟨y.errors, y.warnings⟩) : x.verdict.map p = y.verdict.map q := by
  rw [verdict, verdict, hfault]
  split
  · rfl
  · exact congrArg Except.ok h

theorem exists_verdict_of_relaxes {x y : Outcome} {v : Verdict} (h : Relaxes y x) (hv : x.verdict = .ok v)
    (hclean : v.errors = []) : ∃ w, y.verdict = .ok w ∧ w.errors = [] := by
  cases hfault : x.fault with
  | some fault =>
      rw [verdict, hfault] at hv
      cases hv
  | none =>
      obtain ⟨hlax, herrors⟩ := h hfault
      rw [verdict_of_fault_eq_none hfault] at hv
      obtain rfl := Except.ok.inj hv
      exact ⟨_, verdict_of_fault_eq_none hlax, herrors hclean⟩

/-- Options only ever add strictness.  Checks that are not strict find the same, whatever they let pass
with a notice.  What a strict check finds nothing wrong with no check that is not strict does, and what the
strictest check finds nothing wrong with no check does.  Without choices the findings of a strict check are
those of the check that is not, and besides one for every notice of an unknown property, in the same
order. -/
theorem options_only_add_strictness (s : Schema) (path : String) (d : Document) :
    (∀ extra extra', (Validator.validateField ⟨false, extra⟩ s path d).map (·.errors) =
      (Validator.validateField ⟨false, extra'⟩ s path d).map (·.errors)) ∧
    (∀ extra extra' v, Validator.validateField ⟨true, extra⟩ s path d = .ok v → v.errors = [] →
      ∃ w, Validator.validateField ⟨false, extra'⟩ s path d = .ok w ∧ w.errors = []) ∧
    (∀ o v, Validator.validateField ⟨true, false⟩ s path d = .ok v → v.errors = [] →
      ∃ w, Validator.validateField o s path d = .ok w ∧ w.errors = []) ∧
    (s.Throughout Schema.OneForm → ∀ extra,
      (Validator.validateField ⟨true, extra⟩ s path d).map (·.errors.filter (!·.isUnknown)) =
        (Validator.validateField ⟨false, extra⟩ s path d).map (·.errors) ∧
      (Validator.validateField ⟨true, extra⟩ s path d).map
          (fun v => (v.errors.filter (·.isUnknown)).map (·.path)) =
        (Validator.validateField ⟨false, extra⟩ s path d).map
          fun v => (v.warnings.filter (·.isUnknown)).map (·.path)) := by
  have hrelaxes {lax strict : Options} (h : lax.Laxer strict) :=
    check_related (carries_laxer h) (throughout_any s) path d
  refine ⟨?lax, ?strict, ?strictest, ?unknown⟩
  case lax =>
    intro extra extra'
    have hsame : Matches Eq (fun _ _ => True) (check ⟨false, extra⟩ s path d)
        (check ⟨false, extra'⟩ s path d) :=
      check_related (carries_lax rfl rfl) (throughout_any s) path d
    exact verdict_map_of_fault hsame.fault hsame.errors
  case strict =>
    intro extra extra' v hv hclean
    have hlaxer : Options.Laxer ⟨false, extra'⟩ ⟨true, extra⟩ := fun h => (by cases h)
    exact exists_verdict_of_relaxes (hrelaxes hlaxer) hv hclean
  case strictest =>
    intro o v hv hclean
    have hlaxer : Options.Laxer o ⟨true, false⟩ := fun _ => ⟨rfl, fun h => (by cases h)⟩
    exact exists_verdict_of_relaxes (hrelaxes hlaxer) hv hclean
  case unknown =>
    intro hform extra
    have hhardens := check_related (carries_strict extra) hform path d
    exact ⟨verdict_map_of_fault hhardens.fault hhardens.known,
      verdict_map_of_fault hhardens.fault hhardens.unknown⟩

/-- A position with a field of another name, and one without. -/
theorem options_of_position_with_note :
    (∃ w, Validator.validateField ⟨false, false⟩ ReviewFormat.position "at"
      (.object [("line", .int 1), ("note", .string "n")]) = .ok w ∧ w.errors = []) ∧
    (∃ w, Validator.validateField ⟨false, true⟩ ReviewFormat.position "at"
      (.object [("line", .int 1)]) = .ok w ∧ w.errors = []) ∧
    ReviewFormat.position.Throughout Schema.OneForm ∧
    (Validator.validateField ⟨true, false⟩ ReviewFormat.position "at"
        (.object [("line", .int 1), ("note", .string "n")])).map
        (fun v => (v.errors.filter (·.isUnknown)).map (·.path)) = .ok ["at.note"] := by
  have hform : ReviewFormat.position.Throughout Schema.OneForm :=
    throughout_imp FormatParts.kind?_inner FormatParts.throughout_position
  obtain ⟨-, hstrict, -, hunknown⟩ := options_only_add_strictness ReviewFormat.position "at"
    (.object [("line", .int 1), ("note", .string "n")])
  obtain ⟨-, -, hstrictest, -⟩ := options_only_add_strictness ReviewFormat.position "at"
    (.object [("line", .int 1)])
  refine ⟨hstrict true false _ rfl rfl, hstrictest ⟨false, true⟩ _ rfl rfl, hform, ?_⟩
  rw [(hunknown hform false).2]
  rfl

end Proofs.Strictness

end ReviewDiagnostics
