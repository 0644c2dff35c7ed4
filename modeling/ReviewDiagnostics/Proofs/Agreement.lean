import ReviewDiagnostics.Proofs.Conformance
import ReviewDiagnostics.Proofs.Merging
import ReviewDiagnostics.Proofs.SecondLook

/-!
# The verdict on a document

The verdict is clean exactly if both looks at the document find nothing.  What conforms to the form of
a diagnostic is complete for the second look too, so that the two looks can only disagree below a field
`diagnostics`: the first look lets it pass as an unknown field of a diagnostic, the second one takes it
for the list of a result.
-/

namespace ReviewDiagnostics.Proofs.Agreement

open Conformance ReviewFormat SecondLook WellTyped

variable {o : Options} {d : Document} {fields : Fields}

/-! ## What conforms is complete -/

theorem conforms_property {about : About} {required : List Document}
    {properties : List (String × Schema)} {additional : Bool} {name : String} {s : Schema}
    (h : Conforms o (.object about required properties additional) (.object fields))
    (hs : (name, s) ∈ properties) (hd : fields.get? name = some d) : Conforms o s d :=
  (conforms_object_iff.mp h).2.1 (name, s) hs d hd

theorem has_of_conforms {about : About} {texts : List String} {properties : List (String × Schema)}
    {additional : Bool} (name : String)
    (h : Conforms o (.object about (names texts) properties additional) (.object fields))
    (hname : name ∈ texts) : fields.has name = true := by
  obtain ⟨s, hs, hfield⟩ :=
    (conforms_object_iff.mp h).1 (.string name) (List.mem_map_of_mem hname)
  rwa [Document.string.inj hs]

theorem exists_get?_of_has {name : String} (h : fields.has name = true) :
    ∃ d, fields.get? name = some d := by
  rw [Fields.has_eq_isSome_get?] at h
  exact Option.isSome_iff_exists.mp h

theorem isSeverity_of_conforms (h : Conforms o severity d) : Refinement.isSeverity d = true := by
  cases h with
  | string hlimits =>
      have henum := hlimits.enum _ rfl
      simpa [names, Refinement.isSeverity] using henum

theorem severityFits_of_conforms
    (h : ∀ d, fields.get? "severity" = some d → Conforms o severity d) : SeverityFits fields :=
  fun d hd => isSeverity_of_conforms (h d hd)

theorem ordinalFits_of_conforms {name : String}
    (h : ∀ d, fields.get? name = some d → Conforms o ordinal d) : OrdinalFits fields name := by
  intro d hd _
  cases h d hd with
  | number _ hminimum _ => exact hminimum _ rfl

theorem positionFits_of_conforms (h : Conforms o position d) : PositionFits d := by
  cases d with
  | object fields =>
      exact ⟨ordinalFits_of_conforms fun d hd => conforms_property h (by simp) hd,
        ordinalFits_of_conforms fun d hd => conforms_property h (by simp) hd⟩
  | _ => trivial

theorem fits_field {name : String} {Fits : Document → Prop} (hnull : Fits .null)
    (h : ∀ d, fields.get? name = some d → Fits d) : Fits (Document.field fields name) := by
  rw [Document.field]
  cases hd : fields.get? name with
  | none => exact hnull
  | some d => exact h d hd

private theorem rangeFits_of_conforms (h : Conforms o range d) : RangeFits d := by
  cases d with
  | object fields =>
      obtain ⟨start, hstart⟩ := exists_get?_of_has (has_of_conforms "start" h (by simp))
      refine ⟨⟨start, hstart, positionFits_of_conforms (conforms_property h (by simp) hstart)⟩, ?_⟩
      exact fits_field trivial fun d hd => positionFits_of_conforms (conforms_property h (by simp) hd)
  | _ => trivial

private theorem locationFits_of_conforms (h : Conforms o location d) : LocationFits d := by
  cases d with
  | object fields =>
      exact fits_field trivial fun d hd => rangeFits_of_conforms (conforms_property h (by simp) hd)
  | _ => trivial

theorem diagnosticFits_of_conforms (h : Conforms o diagnostic (.object fields)) :
    DiagnosticFits fields := by
  obtain ⟨place, hplace⟩ := exists_get?_of_has (has_of_conforms "location" h (by simp))
  refine ⟨has_of_conforms "message" h (by simp), ⟨place, hplace, ?_⟩, ?_⟩
  · exact locationFits_of_conforms (conforms_property h (by simp) hplace)
  · exact severityFits_of_conforms fun d hd => conforms_property h (by simp) hd

/-! ## The two looks together -/

/-- The value of a field `diagnostics` is a list, and the second look accepts its items. -/
def ListFits : Document → Prop
  | .object fields => Fields.has fields "diagnostics" = true →
    ∃ items, Fields.get? fields "diagnostics" = some (.array items) ∧ ∀ x ∈ items, NodeFits x
  | _ => True

theorem conforms_document_iff :
    Conforms o document d ↔
      Conforms o diagnostic d ∨ Conforms o diagnosticArray d ∨ Conforms o diagnosticResult d := by
  constructor
  · intro h
    cases h with
    | oneOf hs hconforms =>
        simp only [List.mem_cons, List.not_mem_nil, or_false] at hs
        rcases hs with rfl | rfl | rfl
        · exact .inl hconforms
        · exact .inr (.inl hconforms)
        · exact .inr (.inr hconforms)
  · rintro (h | h | h)
    · exact .oneOf (by simp) h
    · exact .oneOf (by simp) h
    · exact .oneOf (by simp) h

theorem fields_of_conforms_diagnostic (h : Conforms o diagnostic d) : ∃ fields, d = .object fields := by
  cases h with
  | object => exact ⟨_, rfl⟩

theorem diagnosticShaped_of_message (hmessage : fields.has "message" = true)
    (hlist : fields.has "diagnostics" = false) : Closeness.diagnosticShaped fields = true := by
  simp [Closeness.diagnosticShaped, hmessage, hlist]

theorem nodeFits_of_conforms_diagnostic (h : Conforms o diagnostic d)
    (hlist : ∀ fields : Fields, d = .object fields → fields.has "diagnostics" = false) :
    NodeFits d := by
  obtain ⟨fields, rfl⟩ := fields_of_conforms_diagnostic h
  have hfits := diagnosticFits_of_conforms h
  exact .diagnostic (diagnosticShaped_of_message hfits.message (hlist fields rfl)) hfits

theorem nodeFits_object_iff (hseverity : SeverityFits fields)
    (hfits : fields.has "diagnostics" = false → NodeFits (.object fields)) :
    NodeFits (.object fields) ↔ ListFits (.object fields) := by
  by_cases hlist : fields.has "diagnostics" = true
  · constructor
    · intro h _
      rw [Fields.has_eq_isSome_get?] at hlist
      cases h with
      | diagnostic hshaped _ =>
          have hnone := has_diagnostics_of_diagnosticShaped hshaped
          rw [Fields.has_eq_isSome_get?] at hnone
          simp_all
      | result hget hitems _ => exact ⟨_, hget, hitems⟩
      | other _ hnone => simp_all
      | scalar hobject _ => exact (hobject fields rfl).elim
    · intro h
      obtain ⟨items, hget, hitems⟩ := h hlist
      exact .result hget hitems hseverity
  · refine iff_of_true (hfits (by simpa using hlist)) ?_
    exact fun h => (hlist h).elim

theorem nodeFits_iff_of_conforms (h : Conforms o document d) : NodeFits d ↔ ListFits d := by
  rcases conforms_document_iff.mp h with h | h | h
  · obtain ⟨fields, rfl⟩ := fields_of_conforms_diagnostic h
    have hfits := diagnosticFits_of_conforms h
    exact nodeFits_object_iff hfits.severity fun hlist =>
      nodeFits_of_conforms_diagnostic h fun _ hd => Document.object.inj hd ▸ hlist
  · cases h with
    | array hitems =>
        refine iff_of_true (.array fun fields hfields _ => ?_) trivial
        exact diagnosticFits_of_conforms (hitems _ hfields)
  · cases h with
    | @object _ _ _ _ fields hrequired hproperties hdeclared =>
        have hresult : Conforms o diagnosticResult (.object fields) :=
          .object hrequired hproperties hdeclared
        refine nodeFits_object_iff ?_ fun hlist => ?_
        · exact severityFits_of_conforms fun d hd => conforms_property hresult (by simp) hd
        · have hhas := has_of_conforms "diagnostics" hresult (by simp)
          simp [hlist] at hhas

theorem has_diagnostics_of_refuses (ho : o.RefusesUnknown true)
    (h : Conforms o diagnostic (.object fields)) : fields.has "diagnostics" = false := by
  have hdeclared := (conforms_object_iff.mp h).2.2 ho (by simp)
  rw [Fields.has, List.any_eq_false]
  intro f hf hname
  obtain ⟨p, hp, hpname⟩ := hdeclared f hf
  rw [beq_iff_eq.mp hname] at hpname
  have hnames : p.1 ∈ ["message", "location", "severity", "source", "code", "suggestions",
      "original_output", "related_locations"] := List.mem_map_of_mem (f := (·.1)) hp
  rw [hpname] at hnames
  exact absurd hnames (by decide)

theorem listFits_of_refuses (ho : o.RefusesUnknown true) (h : Conforms o document d) :
    ListFits d := by
  rcases conforms_document_iff.mp h with h | h | h
  · obtain ⟨fields, rfl⟩ := fields_of_conforms_diagnostic h
    intro hlist
    rw [has_diagnostics_of_refuses ho h] at hlist
    contradiction
  · cases h with
    | array => trivial
  · cases h with
    | @object _ _ _ _ fields hrequired hproperties hdeclared =>
        intro hlist
        obtain ⟨list, hget⟩ := exists_get?_of_has hlist
        cases hproperties ("diagnostics", .array .nothing (some diagnostic)) (by simp) list hget with
        | @array _ _ items hitems =>
            refine ⟨items, hget, fun x hx => nodeFits_of_conforms_diagnostic (hitems x hx) ?_⟩
            rintro fields rfl
            exact has_diagnostics_of_refuses ho (hitems _ hx)

/-! ## The verdict -/

/-- Checking a document that is looked into has an answer, which merges what both looks find. -/
theorem validate_eq (hadmitted : Validator.rejection? d = none) :
    Validator.validate ⟨o, document⟩ d =
      .ok ⟨mergeFindings (Conformity.check o document "" d).errors (Refinement.node "" d).errors,
        (Conformity.check o document "" d).warnings ++ (Refinement.node "" d).warnings⟩ := by
  rw [Validator.validate, Validator.examine, hadmitted]
  exact Outcome.verdict_of_fault_eq_none (fault_check wellTyped_document o "" d)

theorem exists_validate (hadmitted : Validator.rejection? d = none) :
    ∃ v, Validator.validate ⟨o, document⟩ d = .ok v ∧
      (v.valid = true ↔ Conforms o document d ∧ NodeFits d) := by
  refine ⟨_, validate_eq hadmitted, ?_⟩
  rw [Verdict.valid, List.isEmpty_iff, Merging.mergeFindings_eq_nil_iff,
    errors_check_eq_nil_iff wellTyped_document, errors_node_eq_nil_iff]

/-- The second look agrees with the first one on what conforms, unless a field `diagnostics` of the
document holds anything but a list of items that it accepts.  Documents without this field, lists, and
documents that are checked strictly and without extra fields have the same verdict from both. -/
theorem valid_iff_conforms_and_listFits (o : Options) (d : Document)
    (hadmitted : Validator.rejection? d = none) :
    ∃ v w, Validator.validate ⟨o, document⟩ d = .ok v ∧
      Validator.validateField o document "" d = .ok w ∧
      (w.valid = true ↔
        Conforms o diagnostic d ∨ Conforms o diagnosticArray d ∨ Conforms o diagnosticResult d) ∧
      (v.valid = true ↔ w.valid = true ∧ ListFits d) ∧
      ((∀ fields : Fields, d = .object fields → fields.has "diagnostics" = false) ∨
        o.strict = true ∧ o.allowExtra = false → v.valid = w.valid) := by
  obtain ⟨v, hv, hvalid⟩ := exists_validate (o := o) hadmitted
  have hw := validateField_eq wellTyped_document o "" d
  have hclean : (Verdict.valid ⟨(Conformity.check o document "" d).errors,
      (Conformity.check o document "" d).warnings⟩) = true ↔ Conforms o document d := by
    rw [Verdict.valid, List.isEmpty_iff, errors_check_eq_nil_iff wellTyped_document]
  refine ⟨v, _, hv, hw, hclean.trans conforms_document_iff, ?_, ?_⟩
  · rw [hvalid, hclean]
    exact and_congr_right nodeFits_iff_of_conforms
  · intro h
    rw [Bool.eq_iff_iff, hvalid, hclean, and_iff_left_iff_imp]
    intro hconforms
    rw [nodeFits_iff_of_conforms hconforms]
    rcases h with hlist | ⟨hstrict, hextra⟩
    · cases d with
      | object fields => exact fun h => absurd h (by simp [hlist fields rfl])
      | _ => trivial
    · exact listFits_of_refuses ⟨hstrict, .inr hextra⟩ hconforms

/-- A diagnostic with an empty list of diagnostics has the same verdict from both looks. -/
theorem valid_of_diagnostic_with_empty_list :
    Validator.rejection? (.object [("message", .string "m"),
      ("location", .object [("path", .string "p")]), ("diagnostics", .array [])]) = none ∧
    ∃ v, Validator.validate Validator.standard (.object [("message", .string "m"),
      ("location", .object [("path", .string "p")]), ("diagnostics", .array [])]) = .ok v ∧
      v.valid = true := by
  refine ⟨rfl, ?_⟩
  obtain ⟨v, w, hv, -, hconforms, hvalid, -⟩ := valid_iff_conforms_and_listFits .standard
    (.object [("message", .string "m"), ("location", .object [("path", .string "p")]),
      ("diagnostics", .array [])]) rfl
  have hclean : w.valid = true :=
    hconforms.mpr (.inl ((errors_check_eq_nil_iff wellTyped_diagnostic .standard "" _).mp rfl))
  exact ⟨v, hv, hvalid.mpr ⟨hclean, fun _ => ⟨[], rfl, by simp⟩⟩⟩

/-- A diagnostic with a number for a list of diagnostics conforms, but its verdict is not clean. -/
theorem not_valid_of_diagnostic_with_number :
    Validator.rejection? (.object [("message", .string "m"),
      ("location", .object [("path", .string "p")]), ("diagnostics", .int 5)]) = none ∧
    ∃ v w, Validator.validate Validator.standard (.object [("message", .string "m"),
        ("location", .object [("path", .string "p")]), ("diagnostics", .int 5)]) = .ok v ∧
      Validator.validateField .standard document "" (.object [("message", .string "m"),
        ("location", .object [("path", .string "p")]), ("diagnostics", .int 5)]) = .ok w ∧
      v.valid = false ∧ w.valid = true := by
  refine ⟨rfl, ?_⟩
  obtain ⟨v, hv, hvalid⟩ := exists_validate (o := .standard) (d := .object [("message", .string "m"),
    ("location", .object [("path", .string "p")]), ("diagnostics", .int 5)]) rfl
  have hconforms : Conforms .standard document (.object [("message", .string "m"),
      ("location", .object [("path", .string "p")]), ("diagnostics", .int 5)]) :=
    conforms_document_iff.mpr
      (.inl ((errors_check_eq_nil_iff wellTyped_diagnostic .standard "" _).mp rfl))
  refine ⟨v, _, hv, validateField_eq wellTyped_document .standard "" _, ?_, ?_⟩
  · rw [Bool.eq_false_iff]
    intro h
    obtain ⟨items, hitems, -⟩ := (nodeFits_iff_of_conforms hconforms).mp (hvalid.mp h).2 rfl
    cases hitems
  · rw [Verdict.valid, List.isEmpty_iff]
    exact (errors_check_eq_nil_iff wellTyped_document .standard "" _).mpr hconforms

end ReviewDiagnostics.Proofs.Agreement
