import ReviewDiagnostics.Proofs.Distance
import ReviewDiagnostics.Proofs.Places

/-!
# Objects that read as a single diagnostic

An object with one of the fields of a diagnostic and without a field `diagnostics` reads as a single
diagnostic.  It is judged as one only if its findings do not take it too far away: a result without its
list is a constant distance away from every such object, and so is a list.
-/

namespace ReviewDiagnostics.Proofs.SingleDiagnostic

open Agreement Conformance Conformity Distance Parts Places Ranking ReviewFormat SecondLook WellTyped

variable {o : Options} {fields : Fields}

/-! ## The form that an object is judged by -/

/-- How close fields are to a single diagnostic. -/
def nearDiagnostic (o : Options) (fields : Fields) : Int :=
  100 - distance ((check o diagnostic "" (.object fields)).errors.map (·.code)) +
    (if fields.has "message" then 10 else 0) + (if fields.has "location" then 10 else 0)

/-- How close fields that read as a single diagnostic are to a result. -/
def nearResult (o : Options) (fields : Fields) : Int :=
  55 - distance ((check o diagnosticResult "" (.object fields)).errors.map (·.code))

/-- A single diagnostic is the closest form. -/
def DiagnosticClosest (o : Options) (fields : Fields) : Prop :=
  -55 ≤ nearDiagnostic o fields ∧
    (nearResult o fields < nearDiagnostic o fields ∨ nearResult o fields = nearDiagnostic o fields ∧
      Likelihood.score diagnosticResult (.object fields) ≤
        Likelihood.score diagnostic (.object fields))

/-- A list is the closest form. -/
def ListClosest (o : Options) (fields : Fields) : Prop :=
  nearDiagnostic o fields < -55 ∧
    (nearResult o fields < -55 ∨ nearResult o fields = -55 ∧
      Likelihood.score diagnosticResult (.object fields) = 0)

theorem diagnosticClosest_of_clean
    (h : (check o diagnostic "" (.object fields)).errors = []) : DiagnosticClosest o fields := by
  have hresult := three_mul_length_le_distance
    ((check o diagnosticResult "" (.object fields)).errors.map (·.code))
  have hnear : 100 ≤ nearDiagnostic o fields := by
    have hnone : distance [] = 0 := rfl
    rw [nearDiagnostic, h, List.map_nil, hnone]
    split <;> split <;> omega
  rw [DiagnosticClosest, nearResult]
  omega

private theorem conforms_diagnostic_of_shaped (hshaped : Closeness.diagnosticShaped fields = true)
    (h : Conforms o document (.object fields)) : Conforms o diagnostic (.object fields) := by
  rcases conforms_document_iff.mp h with h | h | h
  · exact h
  · cases h
  · have hlist := has_of_conforms "diagnostics" h (by simp)
    rw [has_diagnostics_of_diagnosticShaped hshaped] at hlist
    contradiction

theorem errors_document_object (o : Options) (fields : Fields)
    (hshaped : Closeness.diagnosticShaped fields = true) :
    (DiagnosticClosest o fields ∧ (check o document "" (.object fields)).errors =
      (check o diagnostic "" (.object fields)).errors) ∨
    (ListClosest o fields ∧ (check o document "" (.object fields)).errors =
      [.expecting "" .typeMismatch (.object fields) "array"]) ∨
    (¬ DiagnosticClosest o fields ∧ ¬ ListClosest o fields ∧
      (check o document "" (.object fields)).errors =
        (check o diagnosticResult "" (.object fields)).errors) := by
  by_cases hconforms : Conforms o document (.object fields)
  · have hclean : (check o diagnostic "" (.object fields)).errors = [] :=
      (errors_check_eq_nil_iff wellTyped_diagnostic o "" _).mpr
        (conforms_diagnostic_of_shaped hshaped hconforms)
    refine .inl ⟨diagnosticClosest_of_clean hclean, ?_⟩
    rw [hclean, errors_check_eq_nil_iff wellTyped_document]
    exact hconforms
  · have hdiagnostic : closeness (.object fields) (tried o (.object fields) diagnostic) =
        nearDiagnostic o fields := by
      rw [closeness, tried, score_diagnostic, nearDiagnostic]
    have hlist : closeness (.object fields) (tried o (.object fields) diagnosticArray) = -55 := rfl
    have hresult : closeness (.object fields) (tried o (.object fields) diagnosticResult) =
        nearResult o fields := by
      rw [closeness, tried, score_diagnosticResult hshaped, nearResult]
    have hunlikely : Likelihood.score diagnosticArray (.object fields) = 0 := score_eq_zero rfl
    have hlikely := score_nonneg diagnostic (.object fields)
    have hlikelyResult := score_nonneg diagnosticResult (.object fields)
    have hcases := errors_document_cases hconforms
    simp only [Overtakes, hdiagnostic, hlist, hresult] at hcases
    simp only [tried, hunlikely] at hcases
    simp only [DiagnosticClosest, ListClosest]
    rcases hcases with ⟨herrors, hnear, hfar⟩ | ⟨herrors, hnear, hfar⟩ | ⟨herrors, hnear, hfar⟩
    · exact .inl ⟨by grind, herrors⟩
    · exact .inr (.inl ⟨by grind, herrors⟩)
    · exact .inr (.inr ⟨by grind, by grind, herrors⟩)

/-! ## The path of the list -/

theorem path_ne_list {name : String} {f : Finding} (h : Below (Path.join "" (.name name)) f)
    (hname : ¬ name.toList <+: "diagnostics".toList) : f.path ≠ "diagnostics" := by
  intro hpath
  rw [Below, hpath] at h
  exact hname h

theorem path_ne_list_of_diagnostic (hlist : fields.has "diagnostics" = false) {f : Finding}
    (hf : f ∈ (check o diagnostic "" (.object fields)).errors) : f.path ≠ "diagnostics" := by
  rcases mem_errors_object_iff.mp hf with ⟨name, hname, hf⟩ | ⟨p, hp, c, -, hf⟩ | hf
  · simp only [names, List.map_cons, List.map_nil, List.mem_cons, List.not_mem_nil, or_false] at hname
    rcases hname with rfl | rfl <;> rw [path_checkRequired hf] <;> decide
  · have hname : p.1 ∈ ["message", "location", "severity", "source", "code", "suggestions",
        "original_output", "related_locations"] := List.mem_map_of_mem (f := (·.1)) hp
    have hdistinct : ∀ name ∈ ["message", "location", "severity", "source", "code", "suggestions",
        "original_output", "related_locations"], ¬ name.toList <+: "diagnostics".toList := by decide
    exact path_ne_list (below_check hf) (hdistinct p.1 hname)
  · obtain ⟨p, hp, hpath⟩ := path_checkUnknown hf
    intro hdiagnostics
    have hfield : p.1 = "diagnostics" := hpath.symm.trans hdiagnostics
    rw [Fields.has, List.any_eq_false] at hlist
    exact hlist p hp (beq_iff_eq.mpr hfield)

theorem path_ne_list_of_node (hshaped : Closeness.diagnosticShaped fields = true) {f : Finding}
    (hf : f ∈ (Refinement.node "" (.object fields)).errors) : f.path ≠ "diagnostics" := by
  rw [Refinement.node, if_pos hshaped] at hf
  obtain ⟨name, hname, hbelow⟩ := below_field_of_diagnostic hf
  have hdistinct : ∀ name ∈ ["message", "location", "severity"],
      ¬ name.toList <+: "diagnostics".toList := by decide
  exact path_ne_list hbelow (hdistinct name hname)

private theorem exists_path_list_of_result (hlist : fields.has "diagnostics" = false) :
    ∃ f ∈ (check o diagnosticResult "" (.object fields)).errors, f.path = "diagnostics" := by
  refine ⟨.expecting "diagnostics" .requiredPropertyMissing .null "array", ?_, rfl⟩
  exact mem_errors_object_iff.mpr (.inl ⟨.string "diagnostics", List.mem_singleton_self _,
    mem_errors_checkRequired_iff.mpr ⟨hlist, rfl⟩⟩)

/-- An object that reads as a single diagnostic is judged as one exactly if that is the closest form, or
if a list is and everything found about the diagnostic stands at the root or is found by the second look
too.  Otherwise the object is reported to lack a list. -/
theorem judged_as_diagnostic_iff (o : Options) (fields : Fields)
    (hshaped : Closeness.diagnosticShaped fields = true) :
    ∃ v w, Validator.validate ⟨o, document⟩ (.object fields) = .ok v ∧
      Validator.validateField o diagnostic "" (.object fields) = .ok w ∧
      (((∀ f ∈ v.errors, f.path ≠ "diagnostics") ∧
          ∀ g ∈ w.errors, ∃ f ∈ v.errors, f.path = g.path) ↔
        DiagnosticClosest o fields ∨ ListClosest o fields ∧
          ∀ g ∈ w.errors, g.path = "" ∨
            ∃ f ∈ (Refinement.node "" (.object fields)).errors, f.path = g.path) := by
  have hlist := has_diagnostics_of_diagnosticShaped hshaped
  have hadmitted : Validator.rejection? (.object fields) = none := by
    cases fields with
    | nil => cases hshaped
    | cons => rfl
  refine ⟨_, _, validate_eq hadmitted, validateField_eq wellTyped_diagnostic o "" _, ?_⟩
  have hmerged : ∀ generic : List Finding,
      (∀ f ∈ mergeFindings generic (Refinement.node "" (.object fields)).errors,
        f.path ≠ "diagnostics") ↔ ∀ f ∈ generic, f.path ≠ "diagnostics" := by
    intro generic
    constructor
    · intro h f hf hpath
      obtain ⟨g, hg, hgpath⟩ := Merging.exists_path_mergeFindings_iff.mpr (.inl ⟨f, hf, hpath⟩)
      exact h g hg hgpath
    · intro h f hf hpath
      rcases Merging.exists_path_mergeFindings_iff.mp ⟨f, hf, hpath⟩ with
        ⟨g, hg, hgpath⟩ | ⟨g, hg, hgpath⟩
      · exact h g hg hgpath
      · exact path_ne_list_of_node hshaped hg hgpath
  simp only [hmerged, Merging.exists_path_mergeFindings_iff]
  rcases errors_document_object o fields hshaped with
    ⟨hclosest, herrors⟩ | ⟨hclosest, herrors⟩ | ⟨hdiagnostic, hother, herrors⟩
  · rw [herrors]
    refine iff_of_true ⟨?_, fun g hg => .inl ⟨g, hg, rfl⟩⟩ (.inl hclosest)
    exact fun f hf => path_ne_list_of_diagnostic hlist hf
  · have hdiagnostic : ¬ DiagnosticClosest o fields := by
      rw [DiagnosticClosest]
      rw [ListClosest] at hclosest
      omega
    rw [herrors, or_iff_right hdiagnostic, and_iff_right hclosest]
    simp only [List.mem_singleton, forall_eq, exists_eq_left, Finding.path_expecting]
    rw [and_iff_right (by decide)]
    exact forall₂_congr fun g hg => or_congr_left eq_comm
  · refine iff_of_false (fun h => ?_) (fun h => ?_)
    · obtain ⟨f, hf, hpath⟩ := exists_path_list_of_result (o := o) hlist
      exact h.1 f (herrors ▸ hf) hpath
    · rcases h with h | h
      · exact hdiagnostic h
      · exact hother h.1

/-- A message alone is judged as a single diagnostic. -/
theorem judged_as_diagnostic_of_message :
    Closeness.diagnosticShaped [("message", .string "m")] = true ∧
    ∃ v w, Validator.validate Validator.standard (.object [("message", .string "m")]) = .ok v ∧
      Validator.validateField .standard diagnostic "" (.object [("message", .string "m")]) = .ok w ∧
      (∀ f ∈ v.errors, f.path ≠ "diagnostics") ∧
      ∀ g ∈ w.errors, ∃ f ∈ v.errors, f.path = g.path := by
  refine ⟨rfl, ?_⟩
  obtain ⟨v, w, hv, hw, hjudged⟩ :=
    judged_as_diagnostic_iff .standard [("message", .string "m")] rfl
  have hclosest : DiagnosticClosest .standard [("message", .string "m")] :=
    ⟨by decide, .inl (by decide)⟩
  exact ⟨v, w, hv, hw, hjudged.mpr (.inl hclosest)⟩

/-- Two numbers as suggestions make a diagnostic a result without its list. -/
theorem not_judged_as_diagnostic_of_two_suggestions :
    ∃ v w, Validator.validate Validator.standard (.object [("message", .string "m"),
        ("location", .object [("path", .string "p")]),
        ("suggestions", .array [.int 1, .int 2])]) = .ok v ∧
      Validator.validateField .standard diagnostic "" (.object [("message", .string "m"),
        ("location", .object [("path", .string "p")]),
        ("suggestions", .array [.int 1, .int 2])]) = .ok w ∧
      v.errors.map (·.path) = ["diagnostics"] ∧
      w.errors.map (·.path) = ["suggestions[0]", "suggestions[1]"] := by
  have hnearDiagnostic : nearDiagnostic .standard [("message", .string "m"),
      ("location", .object [("path", .string "p")]),
      ("suggestions", .array [.int 1, .int 2])] = 10 := by decide
  have hnearResult : nearResult .standard [("message", .string "m"),
      ("location", .object [("path", .string "p")]),
      ("suggestions", .array [.int 1, .int 2])] = 20 := by decide
  refine ⟨_, _, validate_eq rfl, validateField_eq wellTyped_diagnostic .standard "" _, ?_, rfl⟩
  rcases errors_document_object .standard [("message", .string "m"),
      ("location", .object [("path", .string "p")]), ("suggestions", .array [.int 1, .int 2])] rfl with
    ⟨hclosest, -⟩ | ⟨hclosest, -⟩ | ⟨-, -, herrors⟩
  · rw [DiagnosticClosest, hnearDiagnostic, hnearResult] at hclosest
    omega
  · rw [ListClosest, hnearDiagnostic] at hclosest
    omega
  · rw [herrors]
    rfl

end ReviewDiagnostics.Proofs.SingleDiagnostic
