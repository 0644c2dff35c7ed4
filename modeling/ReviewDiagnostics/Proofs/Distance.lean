import ReviewDiagnostics.Proofs.Ranking
import ReviewDiagnostics.Proofs.Rounding
import ReviewDiagnostics.Proofs.Agreement

/-!
# Closeness to the forms of the review format

How close a document is to a form of the review format is a sum over what checking it finds: every
finding takes it away, a wrong kind and a missing field more than others.  Where a document has none of
the three forms, these sums and the likelihoods decide which of them it is judged by.
-/

namespace ReviewDiagnostics.Proofs.Distance

-- Sums start from the zero of the core library, as in the definitions.
attribute [local instance (2000)] Zero.ofOfNat0

open Conformance Conformity Ranking ReviewFormat WellTyped

variable {o : Options} {d item : Document} {fields : Fields} {items : List Document}
  {codes : List Code}

/-! ## Distances -/

/-- How far findings with these codes take a document away from a form. -/
def distance (codes : List Code) : Int :=
  5 * codes.length + 50 * codes.count .typeMismatch + 30 * codes.count .requiredPropertyMissing -
    2 * codes.countP Closeness.isStructural

theorem three_mul_length_le_distance (codes : List Code) : 3 * codes.length ≤ distance codes := by
  have hstructural : codes.countP Closeness.isStructural ≤ codes.length := List.countP_le_length
  rw [distance]
  omega

theorem sum_finding_terms (codes : List Code) :
    (([("base", Closeness.base), ("errors", codes.length * Closeness.perError),
      ("type_mismatches", codes.count .typeMismatch * Closeness.perTypeMismatch),
      ("required_missing", codes.count .requiredPropertyMissing * Closeness.perRequiredMissing),
      ("structural_errors", codes.countP Closeness.isStructural * Closeness.perStructural)] :
        List (String × Int)).map (·.2)).sum = 100 - distance codes := by
  simp only [List.map_cons, List.map_nil, List.sum_cons, List.sum_nil, distance, Closeness.base,
    Closeness.perError, Closeness.perTypeMismatch, Closeness.perRequiredMissing,
    Closeness.perStructural]
  omega

theorem score_array {about : About} {item? : Option Schema} :
    Closeness.score (.array about item?) (.array items) codes = 100 - distance codes := by
  rw [Closeness.score, Closeness.terms.eq_def, List.map_append, List.map_append, List.sum_append,
    List.sum_append, sum_finding_terms]
  exact (Int.add_zero _).trans (Int.add_zero _)

theorem score_object {about : About} {required : List Document}
    {properties : List (String × Schema)} {additional : Bool} :
    Closeness.score (.object about required properties additional) (.object fields) codes =
      100 - distance codes + ((Closeness.fieldTerms required fields).map (·.2)).sum := by
  rw [Closeness.score, Closeness.terms.eq_def, List.map_append, List.map_append, List.sum_append,
    List.sum_append, sum_finding_terms]
  exact congrArg (· + _) (Int.add_zero _)

theorem score_diagnostic : Closeness.score diagnostic (.object fields) codes =
    100 - distance codes + (if fields.has "message" then 10 else 0) +
      (if fields.has "location" then 10 else 0) := by
  rw [diagnostic, score_object]
  cases hmessage : fields.has "message" <;> cases hlocation : fields.has "location" <;>
    simp [Closeness.fieldTerms, Schema.requires, names, hmessage, hlocation,
      Closeness.messagePresent, Closeness.locationPresent]
  omega

theorem score_diagnosticResult (hshaped : Closeness.diagnosticShaped fields = true) :
    Closeness.score diagnosticResult (.object fields) codes = 55 - distance codes := by
  have hlist := SecondLook.has_diagnostics_of_diagnosticShaped hshaped
  rw [diagnosticResult, score_object]
  simp [Closeness.fieldTerms, Schema.requires, names, hshaped, hlist, Closeness.withoutDiagnostics,
    Closeness.looksLikeDiagnostic]
  omega

theorem distance_append (codes more : List Code) :
    distance (codes ++ more) = distance codes + distance more := by
  simp only [distance, List.length_append, List.count_append, List.countP_append]
  omega

/-- How far what is found in a part takes a document away from a form. -/
def outcomeDistance (x : Outcome) : Int := distance (x.errors.map (·.code))

theorem outcomeDistance_append (x y : Outcome) :
    outcomeDistance (x ++ y) = outcomeDistance x + outcomeDistance y := by
  rw [outcomeDistance, Outcome.errors_append, List.map_append, distance_append]
  rfl

theorem outcomeDistance_join (outcomes : List Outcome) :
    outcomeDistance (Outcome.join outcomes) = (outcomes.map outcomeDistance).sum := by
  induction outcomes with
  | nil => rfl
  | cons x outcomes ih => rw [Outcome.join_cons, outcomeDistance_append, ih, List.map_cons, List.sum_cons]

private theorem outcomeDistance_required (path name : String) (properties : List (String × Schema)) :
    outcomeDistance (checkRequired path fields properties (.string name)) =
      if fields.has name then 0 else 35 := by
  rw [checkRequired]
  split <;> rfl

theorem outcomeDistance_object {path : String} {about : About} {texts : List String}
    {properties : List (String × Schema)} {additional : Bool} :
    outcomeDistance (check o (.object about (names texts) properties additional) path (.object fields)) =
      (texts.map fun name => if fields.has name then 0 else 35).sum +
        ((properties.map fun p => outcomeDistance (checkProperty o path fields p)).sum +
          outcomeDistance (checkUnknown path fields properties additional o)) := by
  have hrequired : outcomeDistance ∘ checkRequired path fields properties ∘ Document.string =
      fun name => if fields.has name then 0 else 35 :=
    funext fun name => outcomeDistance_required path name properties
  rw [check_object_eq, outcomeDistance_append, outcomeDistance_append,
    outcomeDistance_join, outcomeDistance_join, List.map_map, names, List.map_map, List.map_map, ← hrequired]
  rfl

/-! ## Likelihoods -/

theorem score_nonneg (s : Schema) (d : Document) : 0 ≤ Likelihood.score s d := by
  rw [Likelihood.score, Likelihood.clamp]
  grind

private theorem total_mismatch : Likelihood.total [("type_mismatch", 0)] = 0 := by decide +kernel

theorem score_eq_zero {s : Schema} (h : s.admitsKind d = false) : Likelihood.score s d = 0 := by
  have hterms : Likelihood.terms s d = [("type_mismatch", 0)] := by
    cases s with
    | oneOf => cases h
    | object =>
        cases d with
        | object fields => cases h
        | _ => rfl
    | array about item? =>
        cases d with
        | array items => cases h
        | _ => rfl
    | string | number | boolean | null => simp [Likelihood.terms, h]
  rw [Likelihood.score, hterms, total_mismatch]
  rfl

theorem score_diagnosticArray_pos : 0 < Likelihood.score diagnosticArray (.array (item :: items)) := by
  have hweight : 0 ≤ Likelihood.firstItemWeight := Rounding.toPrecision_nonneg (by decide +kernel)
  have hitem : 0 ≤ toPrecision (Likelihood.score diagnostic item * Likelihood.firstItemWeight) :=
    Rounding.toPrecision_nonneg (Rat.mul_nonneg (score_nonneg _ _) hweight)
  have hkind : toPrecision (toPrecision (0 + Likelihood.typeMatch) + Likelihood.arrayMatch) = 25 := by
    decide +kernel
  have htotal : Likelihood.total (Likelihood.terms diagnosticArray (.array (item :: items))) =
      toPrecision
        (25 + toPrecision (Likelihood.score diagnostic item * Likelihood.firstItemWeight)) := by
    rw [← hkind]
    rfl
  have hpos := Rounding.toPrecision_pos
    (q := 25 + toPrecision (Likelihood.score diagnostic item * Likelihood.firstItemWeight))
    (by grind)
  rw [Likelihood.score, htotal, Likelihood.clamp]
  grind

/-! ## The form that a document is judged by -/

/-- A form with what checking a whole document against it gives. -/
def tried (o : Options) (d : Document) (s : Schema) : Schema × Outcome :=
  (s, check o s "" d)

/-- What is found about a document that has none of the three forms is what is found about one of them,
which no form that is declared later overtakes, and which overtakes those that are declared before. -/
theorem errors_document_cases (h : ¬ Conforms o document d) :
    ((check o document "" d).errors = (check o diagnostic "" d).errors ∧
      ¬ Overtakes d (tried o d diagnosticArray) (tried o d diagnostic) ∧
      ¬ Overtakes d (tried o d diagnosticResult) (tried o d diagnostic)) ∨
    ((check o document "" d).errors = (check o diagnosticArray "" d).errors ∧
      Overtakes d (tried o d diagnosticArray) (tried o d diagnostic) ∧
      ¬ Overtakes d (tried o d diagnosticResult) (tried o d diagnosticArray)) ∨
    ((check o document "" d).errors = (check o diagnosticResult "" d).errors ∧
      Overtakes d (tried o d diagnosticResult) (tried o d diagnostic) ∧
      Overtakes d (tried o d diagnosticResult) (tried o d diagnosticArray)) := by
  have htried : checkAlternatives o [diagnostic, diagnosticArray, diagnosticResult] "" d =
      [diagnostic, diagnosticArray, diagnosticResult].map (tried o d) :=
    checkAlternatives_eq_map ..
  have hnamed : ∀ t ∈ [diagnostic, diagnosticArray, diagnosticResult].map (tried o d),
      Likelihood.misnamed t.1 d = false := by
    rw [List.forall_mem_map]
    exact fun s hs => misnamed_eq_false (wellTyped_form hs) d
  have hfailed : ∀ t ∈ [diagnostic, diagnosticArray, diagnosticResult].map (tried o d),
      t.2.fault = none ∧ t.2.errors ≠ [] := by
    rw [List.forall_mem_map]
    intro s hs
    refine ⟨fault_check (wellTyped_form hs) o "" d, fun hclean => h (.oneOf hs ?_)⟩
    exact (errors_check_eq_nil_iff (wellTyped_form hs) o "" d).mp hclean
  obtain ⟨x, hx, herrors, hprecedes⟩ :=
    exists_errors_choose "" hnamed hfailed (List.cons_ne_nil _ _)
  simp only [List.map_cons, List.map_nil, List.zipIdx_cons, List.zipIdx_nil,
    List.forall_mem_cons] at hprecedes
  obtain ⟨hdiagnostic, hlist, hresult, -⟩ := hprecedes
  rw [document, check, htried, herrors]
  simp only [List.map_cons, List.map_nil, List.zipIdx_cons, List.zipIdx_nil, List.mem_cons,
    List.not_mem_nil, or_false] at hx
  rcases hx with rfl | rfl | rfl
  · exact .inl ⟨rfl, not_overtakes_of_precedes hlist, not_overtakes_of_precedes hresult⟩
  · exact .inr (.inl ⟨rfl, overtakes_of_precedes hdiagnostic (by decide),
      not_overtakes_of_precedes hresult⟩)
  · exact .inr (.inr ⟨rfl, overtakes_of_precedes hdiagnostic (by decide),
      overtakes_of_precedes hlist (by decide)⟩)

/-- Every document is judged by one of the three forms. -/
theorem exists_judged (o : Options) (d : Document) :
    ∃ s ∈ [diagnostic, diagnosticArray, diagnosticResult],
      (check o document "" d).errors = (check o s "" d).errors := by
  by_cases hconforms : Conforms o document d
  · cases id hconforms with
    | @oneOf _ _ _ s _ hs hform =>
        refine ⟨s, hs, ?_⟩
        rw [(errors_check_eq_nil_iff wellTyped_document o "" d).mpr hconforms,
          (errors_check_eq_nil_iff (wellTyped_form hs) o "" d).mpr hform]
  · rcases errors_document_cases hconforms with ⟨herrors, -, -⟩ | ⟨herrors, -, -⟩ | ⟨herrors, -, -⟩
    · exact ⟨_, by simp, herrors⟩
    · exact ⟨_, by simp, herrors⟩
    · exact ⟨_, by simp, herrors⟩

theorem errors_document_of_result
    (hwrong : ∀ s ∈ [diagnostic, diagnosticArray, diagnosticResult],
      (check o s "" d).errors.isEmpty = false)
    (hdiagnostic : Overtakes d (tried o d diagnosticResult) (tried o d diagnostic))
    (hlist : Overtakes d (tried o d diagnosticResult) (tried o d diagnosticArray)) :
    (check o document "" d).errors = (check o diagnosticResult "" d).errors := by
  have hunfit : ¬ Conforms o document d := by
    intro h
    cases h with
    | @oneOf _ _ _ s _ hs hconforms =>
        have hsome := hwrong s hs
        rw [(errors_check_eq_nil_iff (wellTyped_form hs) o "" d).mpr hconforms] at hsome
        contradiction
  rcases errors_document_cases hunfit with ⟨-, -, hnot⟩ | ⟨-, -, hnot⟩ | ⟨herrors, -, -⟩
  · exact (hnot hdiagnostic).elim
  · exact (hnot hlist).elim
  · exact herrors

end ReviewDiagnostics.Proofs.Distance
