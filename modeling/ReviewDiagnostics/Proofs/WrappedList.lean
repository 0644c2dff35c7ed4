import ReviewDiagnostics.Proofs.Agreement

/-!
# A list and the result that wraps it

Diagnostics may stand in a list of their own or in the list of a result.  The check asks the same of
them in both forms, but the second look does not: of the items of a list it looks at diagnostics alone,
while among those of a result it also takes an object with a field `diagnostics` for a result.  So the
two forms have the same verdict unless an accepted list has an item of that kind whose own list is not
accepted.
-/

namespace ReviewDiagnostics.Proofs.WrappedList

open Agreement Conformance ReviewFormat SecondLook WellTyped

variable {o : Options} {items : List Document}

/-- The result that wraps a list and says nothing else. -/
def wrapped (items : List Document) : Document := .object [("diagnostics", .array items)]

/-! ## What both forms ask of the items -/

theorem conforms_list_iff :
    Conforms o document (.array items) ↔ ∀ x ∈ items, Conforms o diagnostic x := by
  constructor
  · intro h
    rcases conforms_document_iff.mp h with h | h | h
    · cases h
    · cases h with
      | array hitems => exact hitems
    · cases h
  · intro hitems
    have hlist : Conforms o diagnosticArray (.array items) := .array hitems
    exact conforms_document_iff.mpr (.inr (.inl hlist))

theorem not_conforms_diagnostic_wrapped : ¬ Conforms o diagnostic (wrapped items) := by
  intro h
  have hmessage := has_of_conforms "message" h (by simp)
  have hmissing : Fields.has [("diagnostics", Document.array items)] "message" = false := by
    simp [Fields.has]
  rw [hmissing] at hmessage
  contradiction

theorem conforms_result_wrapped_iff :
    Conforms o diagnosticResult (wrapped items) ↔ ∀ x ∈ items, Conforms o diagnostic x := by
  constructor
  · intro h
    have hlist : Conforms o (.array .nothing (some diagnostic)) (.array items) :=
      @conforms_property o _ _ _ _ _ _ "diagnostics" _ h (by simp) rfl
    cases hlist with
    | array hitems => exact hitems
  · intro hitems
    refine .object ?required ?properties ?declared
    case required => simp [names, Fields.has]
    case properties =>
      simp only [List.forall_mem_cons, List.not_mem_nil, false_imp_iff, implies_true, and_true]
      refine ⟨?_, fun d hd => (by cases hd), fun d hd => (by cases hd)⟩
      rintro d ⟨⟩
      exact .array hitems
    case declared => simp

theorem conforms_wrapped_iff :
    Conforms o document (wrapped items) ↔ ∀ x ∈ items, Conforms o diagnostic x := by
  constructor
  · intro h
    rcases conforms_document_iff.mp h with h | h | h
    · exact (not_conforms_diagnostic_wrapped h).elim
    · cases h
    · exact conforms_result_wrapped_iff.mp h
  · intro hitems
    exact conforms_document_iff.mpr (.inr (.inr (conforms_result_wrapped_iff.mpr hitems)))

/-! ## The verdicts -/

theorem nodeFits_list (h : ∀ x ∈ items, Conforms o diagnostic x) : NodeFits (.array items) :=
  (nodeFits_iff_of_conforms (conforms_list_iff.mpr h)).mpr trivial

theorem nodeFits_wrapped_iff : NodeFits (wrapped items) ↔ ∀ x ∈ items, NodeFits x := by
  constructor
  · intro h
    cases h with
    | diagnostic hshaped _ => cases has_diagnostics_of_diagnosticShaped hshaped
    | result hlist hitems _ =>
        obtain rfl := Document.array.inj (Option.some.inj hlist)
        exact hitems
    | other _ hlist => cases hlist
    | scalar hobject _ => exact (hobject _ rfl).elim
  · intro hitems
    exact .result rfl hitems fun d hd => (by cases hd)

theorem exists_validate_list (o : Options) (items : List Document) (hitems : items ≠ []) :
    ∃ v, Validator.validate ⟨o, document⟩ (.array items) = .ok v ∧
      (v.valid = true ↔ ∀ x ∈ items, Conforms o diagnostic x) := by
  have hadmitted : Validator.rejection? (.array items) = none := by
    cases items with
    | nil => contradiction
    | cons => rfl
  obtain ⟨v, hv, hvalid⟩ := exists_validate (o := o) hadmitted
  refine ⟨v, hv, hvalid.trans ?_⟩
  rw [conforms_list_iff, and_iff_left_iff_imp]
  exact nodeFits_list

theorem exists_validate_wrapped (o : Options) (items : List Document) :
    ∃ w, Validator.validate ⟨o, document⟩ (wrapped items) = .ok w ∧
      (w.valid = true ↔ ∀ x ∈ items, Conforms o diagnostic x ∧ ListFits x) := by
  obtain ⟨w, hw, hvalid⟩ := exists_validate (o := o) (d := wrapped items) rfl
  have hfits {x : Document} (h : Conforms o diagnostic x) : NodeFits x ↔ ListFits x :=
    nodeFits_iff_of_conforms (conforms_document_iff.mpr (.inl h))
  refine ⟨w, hw, hvalid.trans ?_⟩
  rw [conforms_wrapped_iff, nodeFits_wrapped_iff]
  constructor
  · rintro ⟨hconforms, hnodes⟩ x hx
    exact ⟨hconforms x hx, (hfits (hconforms x hx)).mp (hnodes x hx)⟩
  · intro h
    exact ⟨fun x hx => (h x hx).1, fun x hx => (hfits (h x hx).1).mpr (h x hx).2⟩

/-- A result that wraps a list is valid exactly if the list is, and every item with a field `diagnostics`
has a list there that the second look accepts.  So the verdicts agree exactly if the list is not valid or
all items are like that; they agree wherever no item has that field, and wherever documents are checked
strictly and without extra fields. -/
theorem wrapped_valid_iff (o : Options) (items : List Document) (hitems : items ≠ []) :
    ∃ v w, Validator.validate ⟨o, document⟩ (.array items) = .ok v ∧
      Validator.validate ⟨o, document⟩ (wrapped items) = .ok w ∧
      (w.valid = true ↔ v.valid = true ∧ ∀ x ∈ items, ListFits x) ∧
      (v.valid = w.valid ↔ (v.valid = true → ∀ x ∈ items, ListFits x)) ∧
      ((∀ fields : Fields, .object fields ∈ items → fields.has "diagnostics" = false) ∨
        o.strict = true ∧ o.allowExtra = false → v.valid = w.valid) := by
  obtain ⟨v, hv, hlist⟩ := exists_validate_list o items hitems
  obtain ⟨w, hw, hresult⟩ := exists_validate_wrapped o items
  have hboth : w.valid = true ↔ v.valid = true ∧ ∀ x ∈ items, ListFits x := by
    rw [hresult, hlist]
    exact ⟨fun h => ⟨fun x hx => (h x hx).1, fun x hx => (h x hx).2⟩,
      fun h x hx => ⟨h.1 x hx, h.2 x hx⟩⟩
  have hagree : v.valid = w.valid ↔ (v.valid = true → ∀ x ∈ items, ListFits x) := by
    rw [Bool.eq_iff_iff, hboth]
    exact ⟨fun h hvalid => (h.mp hvalid).2, fun h => ⟨fun hvalid => ⟨hvalid, h hvalid⟩, And.left⟩⟩
  refine ⟨v, w, hv, hw, hboth, hagree, fun h => hagree.mpr fun hvalid x hx => ?_⟩
  rcases h with hnone | ⟨hstrict, hextra⟩
  · cases x with
    | object fields =>
        intro hfield
        rw [hnone fields hx] at hfield
        contradiction
    | _ => trivial
  · have hconforms := hlist.mp hvalid x hx
    exact listFits_of_refuses ⟨hstrict, .inr hextra⟩ (conforms_document_iff.mpr (.inl hconforms))

/-- A diagnostic with an empty list of diagnostics has one verdict in a list and in a result. -/
theorem wrapped_valid_of_empty_list :
    [Document.object [("message", .string "m"), ("location", .object [("path", .string "p")]),
      ("diagnostics", .array [])]] ≠ [] ∧
    ∃ v w, Validator.validate Validator.standard (.array [.object [("message", .string "m"),
        ("location", .object [("path", .string "p")]), ("diagnostics", .array [])]]) = .ok v ∧
      Validator.validate Validator.standard (wrapped [.object [("message", .string "m"),
        ("location", .object [("path", .string "p")]), ("diagnostics", .array [])]]) = .ok w ∧
      v.valid = w.valid := by
  refine ⟨List.cons_ne_nil _ _, ?_⟩
  obtain ⟨v, w, hv, hw, -, hagree, -⟩ := wrapped_valid_iff .standard
    [.object [("message", .string "m"), ("location", .object [("path", .string "p")]),
      ("diagnostics", .array [])]] (List.cons_ne_nil _ _)
  refine ⟨v, w, hv, hw, hagree.mpr fun _ => List.forall_mem_singleton.mpr fun _ => ?_⟩
  exact ⟨[], rfl, by simp⟩

/-- A diagnostic with a number for a list of diagnostics is let pass in a list, but not in a result. -/
theorem not_wrapped_valid_of_number :
    ∃ v w, Validator.validate Validator.standard (.array [.object [("message", .string "m"),
        ("location", .object [("path", .string "p")]), ("diagnostics", .int 5)]]) = .ok v ∧
      Validator.validate Validator.standard (wrapped [.object [("message", .string "m"),
        ("location", .object [("path", .string "p")]), ("diagnostics", .int 5)]]) = .ok w ∧
      v.valid = true ∧ w.valid = false := by
  obtain ⟨v, hv, hlist⟩ := exists_validate_list .standard
    [.object [("message", .string "m"), ("location", .object [("path", .string "p")]),
      ("diagnostics", .int 5)]] (List.cons_ne_nil _ _)
  obtain ⟨w, hw, hresult⟩ := exists_validate_wrapped .standard
    [.object [("message", .string "m"), ("location", .object [("path", .string "p")]),
      ("diagnostics", .int 5)]]
  refine ⟨v, w, hv, hw, ?_, ?_⟩
  · refine hlist.mpr (List.forall_mem_singleton.mpr ?_)
    exact (errors_check_eq_nil_iff wellTyped_diagnostic .standard "" _).mp rfl
  · rw [Bool.eq_false_iff]
    intro hvalid
    obtain ⟨list, hget, -⟩ := (List.forall_mem_singleton.mp (hresult.mp hvalid)).2 rfl
    cases hget

end ReviewDiagnostics.Proofs.WrappedList
