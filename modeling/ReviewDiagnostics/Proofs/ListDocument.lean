import ReviewDiagnostics.Proofs.Distance
import ReviewDiagnostics.Proofs.Places

/-!
# Lists of diagnostics

A list that is not clean is judged as a list of diagnostics only as long as its findings do not take it
too far away from this form.  Beyond that distance it is judged as something that should have been an
object, and the findings about its items are replaced by one about the whole list.
-/

namespace ReviewDiagnostics.Proofs.ListDocument

open Agreement Conformance Conformity Distance Places Ranking ReviewFormat WellTyped

variable {o : Options} {items : List Document}

/-- What checking each item of a list as a diagnostic finds. -/
def itemFindings (o : Options) (items : List Document) : List Finding :=
  (items.mapIdx fun i x => check o diagnostic (Path.join "" (.index i)) x).flatMap (·.errors)

/-- The finding that a list should have been an object. -/
def rootFinding (items : List Document) : Finding :=
  .expecting "" .typeMismatch (.array items) "object"

theorem mem_itemFindings {f : Finding} : f ∈ itemFindings o items ↔
    ∃ i, ∃ hi : i < items.length,
      f ∈ (check o diagnostic (Path.join "" (.index i)) items[i]).errors := by
  simp only [itemFindings, List.mem_flatMap, List.mem_mapIdx]
  constructor
  · rintro ⟨_, ⟨i, hi, rfl⟩, hf⟩
    exact ⟨i, hi, hf⟩
  · rintro ⟨i, hi, hf⟩
    exact ⟨_, ⟨i, hi, rfl⟩, hf⟩

theorem forall_mem_itemFindings {P : Finding → Prop} : (∀ f ∈ itemFindings o items, P f) ↔
    ∀ i, ∀ hi : i < items.length,
      ∀ f ∈ (check o diagnostic (Path.join "" (.index i)) items[i]).errors, P f := by
  simp only [mem_itemFindings]
  exact ⟨fun h i hi f hf => h f ⟨i, hi, hf⟩, fun h f ⟨i, hi, hf⟩ => h i hi f hf⟩

theorem errors_diagnosticArray :
    (check o diagnosticArray "" (.array items)).errors = itemFindings o items := by
  rw [diagnosticArray, check, Outcome.errors_join, itemFindings]

/-! ## The form that a list is judged by -/

private theorem itemFindings_eq_nil_of_conforms (h : Conforms o document (.array items)) :
    itemFindings o items = [] := by
  rw [← errors_diagnosticArray, errors_check_eq_nil_iff wellTyped_diagnosticArray]
  rcases conforms_document_iff.mp h with h | h | h
  · cases h
  · exact h
  · cases h

theorem errors_document_array (hitems : items ≠ []) :
    (check o document "" (.array items)).errors =
      if distance ((itemFindings o items).map (·.code)) ≤ 155 then itemFindings o items
      else [rootFinding items] := by
  by_cases hconforms : Conforms o document (.array items)
  · rw [itemFindings_eq_nil_of_conforms hconforms, if_pos (by decide),
      (errors_check_eq_nil_iff wellTyped_document o "" _).mpr hconforms]
  · have hdiagnostic : closeness (.array items) (tried o (.array items) diagnostic) = -55 := rfl
    have hlist : closeness (.array items) (tried o (.array items) diagnosticArray) =
        100 - distance ((itemFindings o items).map (·.code)) := by
      rw [closeness, tried, errors_diagnosticArray, diagnosticArray, score_array]
    have hresult : closeness (.array items) (tried o (.array items) diagnosticResult) = -55 := rfl
    have hlikely : 0 < Likelihood.score diagnosticArray (.array items) := by
      obtain ⟨item, rest, rfl⟩ := List.exists_cons_of_ne_nil hitems
      exact score_diagnosticArray_pos
    have hcases := errors_document_cases hconforms
    simp only [Overtakes, hdiagnostic, hlist, hresult] at hcases
    have hunlikely : Likelihood.score diagnostic (.array items) = 0 := score_eq_zero rfl
    have hunlikelyResult : Likelihood.score diagnosticResult (.array items) = 0 := score_eq_zero rfl
    simp only [tried, hunlikely, hunlikelyResult] at hcases
    rcases hcases with ⟨herrors, hnear, -⟩ | ⟨herrors, hnear, -⟩ | ⟨herrors, -, hnear⟩
    · rw [herrors, if_neg (by grind)]
      rfl
    · rw [herrors, if_pos (by grind), errors_diagnosticArray]
    · rw [herrors, if_neg (by grind)]
      rfl

/-! ## What is kept about the items -/

theorem path_ne_root {i : Nat} {f : Finding} (h : Below (Path.join "" (.index i)) f) : f.path ≠ "" := by
  intro hroot
  rw [Below, hroot] at h
  have hempty := List.prefix_nil.mp h
  simp [Path.join, toString] at hempty

theorem path_ne_root_of_itemFindings {f : Finding} (hf : f ∈ itemFindings o items) : f.path ≠ "" := by
  obtain ⟨i, hi, hf⟩ := mem_itemFindings.mp hf
  exact path_ne_root (below_check hf)

theorem path_ne_root_of_node {f : Finding} (hf : f ∈ (Refinement.node "" (.array items)).errors) :
    f.path ≠ "" := by
  obtain ⟨i, hi, hf⟩ := Outcome.mem_errors_join_mapIdx.mp hf
  exact path_ne_root (below_item hf)

/-- Everything found about the items of a list is kept exactly as long as it does not take the list
further than 155 away from a list of diagnostics, or the second look finds something at the same paths.
Beyond that distance, and only there, the list itself is reported as something else than an object. -/
theorem item_paths_kept_iff (o : Options) (items : List Document) (hitems : items ≠ []) :
    ∃ v, Validator.validate ⟨o, document⟩ (.array items) = .ok v ∧
      ((∀ i, ∀ hi : i < items.length, ∃ w,
          Validator.validateField o diagnostic (Path.join "" (.index i)) items[i] = .ok w ∧
          ∀ g ∈ w.errors, ∃ f ∈ v.errors, f.path = g.path) ↔
        distance ((itemFindings o items).map (·.code)) ≤ 155 ∨
          ∀ g ∈ itemFindings o items, ∃ f ∈ (Refinement.node "" (.array items)).errors,
            f.path = g.path) ∧
      (rootFinding items ∈ v.errors ↔ 155 < distance ((itemFindings o items).map (·.code))) := by
  have hadmitted : Validator.rejection? (.array items) = none := by
    cases items with
    | nil => contradiction
    | cons => rfl
  refine ⟨_, validate_eq hadmitted, ?_, ?_⟩
  · simp only [validateField_eq wellTyped_diagnostic, Except.ok.injEq, exists_eq_left',
      errors_document_array hitems, Merging.exists_path_mergeFindings_iff, ← forall_mem_itemFindings]
    by_cases hdistance : distance ((itemFindings o items).map (·.code)) ≤ 155
    · rw [if_pos hdistance]
      exact iff_of_true (fun g hg => .inl ⟨g, hg, rfl⟩) (.inl hdistance)
    · rw [if_neg hdistance, or_iff_right hdistance]
      refine forall₂_congr fun g hg => or_iff_right ?_
      rintro ⟨f, hf, hpath⟩
      obtain rfl := List.mem_singleton.mp hf
      exact path_ne_root_of_itemFindings hg hpath.symm
  · rw [errors_document_array hitems, Merging.mem_mergeFindings]
    have hspecific : rootFinding items ∉ (Refinement.node "" (.array items)).errors := fun h =>
      path_ne_root_of_node h rfl
    by_cases hdistance : distance ((itemFindings o items).map (·.code)) ≤ 155
    · rw [if_pos hdistance, or_iff_left hspecific]
      refine iff_of_false (fun h => ?_) (Int.not_lt.mpr hdistance)
      exact path_ne_root_of_itemFindings h.1 rfl
    · rw [if_neg hdistance]
      refine iff_of_true (.inl ⟨by simp, ?_⟩) (Int.not_le.mp hdistance)
      rw [List.any_eq_false]
      intro s hs hsupersedes
      exact path_ne_root_of_node hs (Merging.path_eq_of_supersedes hsupersedes)

/-- Two numbers in a list are both reported. -/
theorem item_paths_kept_of_two_numbers :
    [Document.int 1, .int 2] ≠ [] ∧
    ∃ v, Validator.validate Validator.standard (.array [.int 1, .int 2]) = .ok v ∧
      ∀ i, ∀ hi : i < [Document.int 1, .int 2].length, ∃ w,
        Validator.validateField .standard diagnostic (Path.join "" (.index i))
          [Document.int 1, .int 2][i] = .ok w ∧
        ∀ g ∈ w.errors, ∃ f ∈ v.errors, f.path = g.path := by
  refine ⟨by simp, ?_⟩
  obtain ⟨v, hv, hkept, -⟩ := item_paths_kept_iff .standard [.int 1, .int 2] (by simp)
  exact ⟨v, hv, hkept.mpr (.inl (by decide))⟩

/-- Of three numbers in a list none is reported. -/
theorem not_item_paths_kept_of_three_numbers :
    ∃ v w, Validator.validate Validator.standard (.array [.int 1, .int 2, .int 3]) = .ok v ∧
      Validator.validateField .standard diagnostic (Path.join "" (.index 0)) (.int 1) = .ok w ∧
      (∃ g ∈ w.errors, ∀ f ∈ v.errors, f.path ≠ g.path) ∧
      v.errors = [rootFinding [.int 1, .int 2, .int 3]] := by
  have herrors : (check .standard document "" (.array [.int 1, .int 2, .int 3])).errors =
      [rootFinding [.int 1, .int 2, .int 3]] := by
    rw [errors_document_array (by simp), if_neg (by decide)]
  have hmerged : mergeFindings
      (check .standard document "" (.array [.int 1, .int 2, .int 3])).errors
      (Refinement.node "" (.array [.int 1, .int 2, .int 3])).errors =
        [rootFinding [.int 1, .int 2, .int 3]] := by
    rw [herrors]
    rfl
  refine ⟨_, _, validate_eq rfl, validateField_eq wellTyped_diagnostic .standard _ _, ?_, hmerged⟩
  refine ⟨.expecting (Path.join "" (.index 0)) .typeMismatch (.int 1) "object",
    List.mem_singleton_self _, ?_⟩
  rw [hmerged]
  intro f hf hpath
  obtain rfl := List.mem_singleton.mp hf
  exact path_ne_root (below_of_path rfl) hpath.symm

end ReviewDiagnostics.Proofs.ListDocument
