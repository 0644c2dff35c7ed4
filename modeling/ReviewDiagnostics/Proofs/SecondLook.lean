import ReviewDiagnostics.Validation.Refinement

/-!
# What the second look accepts

The second look at a document goes down from a result to the items of its list and tells diagnostics
from results by the fields that they have.  What it finds nothing wrong with is said here without
paths and findings.
-/

namespace ReviewDiagnostics.Proofs.SecondLook

open Refinement

/-- A line or a column is counted from one, if it is a number. -/
def OrdinalFits (fields : Fields) (name : String) : Prop :=
  ∀ d, fields.get? name = some d → d.kind? = some .number → d.less (.int 1) = false

/-- A position has a line and a column that fit, if it is an object. -/
def PositionFits : Document → Prop
  | .object fields => OrdinalFits fields "line" ∧ OrdinalFits fields "column"
  | _ => True

/-- A range has a start, and both its ends fit, if it is an object. -/
def RangeFits : Document → Prop
  | .object fields =>
    (∃ start, Fields.get? fields "start" = some start ∧ PositionFits start) ∧
      PositionFits (Document.field fields "end")
  | _ => True

/-- A location has a range that fits, if it is an object. -/
def LocationFits : Document → Prop
  | .object fields => RangeFits (Document.field fields "range")
  | _ => True

/-- A severity is one of the format. -/
def SeverityFits (fields : Fields) : Prop :=
  ∀ d, fields.get? "severity" = some d → isSeverity d = true

/-- A diagnostic is complete. -/
structure DiagnosticFits (fields : Fields) : Prop where
  message : fields.has "message" = true
  location : ∃ d, fields.get? "location" = some d ∧ LocationFits d
  severity : SeverityFits fields

/-- A document, or an item of the list of a result, that the second look accepts. -/
inductive NodeFits : Document → Prop
  | diagnostic {fields : Fields} (hshaped : Closeness.diagnosticShaped fields = true)
    (hfits : DiagnosticFits fields) : NodeFits (.object fields)
  | result {fields : Fields} {items : List Document}
    (hlist : fields.get? "diagnostics" = some (.array items)) (hitems : ∀ x ∈ items, NodeFits x)
    (hseverity : SeverityFits fields) : NodeFits (.object fields)
  | other {fields : Fields} (hshaped : Closeness.diagnosticShaped fields = false)
    (hlist : fields.get? "diagnostics" = none) : NodeFits (.object fields)
  | array {items : List Document} (hitems : ∀ fields, .object fields ∈ items →
      Closeness.diagnosticShaped fields = true → DiagnosticFits fields) : NodeFits (.array items)
  | scalar {d : Document} (hobject : ∀ fields, d ≠ .object fields)
    (harray : ∀ items, d ≠ .array items) : NodeFits d

/-! ## Diagnostics -/

theorem errors_ordinal_eq_nil_iff {path name : String} {fields : Fields} :
    (ordinal path fields name).errors = [] ↔ OrdinalFits fields name := by
  rw [ordinal, OrdinalFits]
  cases fields.get? name with
  | none => simp
  | some d =>
      by_cases hkind : d.kind? = some .number
      · by_cases hless : d.less (.int 1) = true <;> simp [hkind, hless]
      · simp [hkind]

theorem errors_position_eq_nil_iff {path : String} {d : Document} :
    (position path d).errors = [] ↔ PositionFits d := by
  cases d with
  | object fields =>
      rw [position, PositionFits, Outcome.errors_append, List.append_eq_nil_iff,
        errors_ordinal_eq_nil_iff, errors_ordinal_eq_nil_iff]
  | _ => exact iff_of_true rfl trivial

theorem errors_range_eq_nil_iff {path : String} {d : Document} :
    (range path d).errors = [] ↔ RangeFits d := by
  cases d with
  | object fields =>
      rw [range, RangeFits, Outcome.errors_append, List.append_eq_nil_iff,
        errors_position_eq_nil_iff]
      apply and_congr_left'
      cases Fields.get? fields "start" with
      | none => simp
      | some start => simp [errors_position_eq_nil_iff]
  | _ => exact iff_of_true rfl trivial

theorem errors_location_eq_nil_iff {path : String} {d : Document} :
    (location path d).errors = [] ↔ LocationFits d := by
  cases d with
  | object fields => rw [location, LocationFits, errors_range_eq_nil_iff]
  | _ => exact iff_of_true rfl trivial

theorem errors_severity_eq_nil_iff {path : String} {fields : Fields} :
    (severity path fields).errors = [] ↔ SeverityFits fields := by
  rw [severity, SeverityFits]
  cases fields.get? "severity" with
  | none => simp
  | some d => by_cases hd : isSeverity d = true <;> simp [hd]

theorem errors_diagnostic_eq_nil_iff {path : String} {fields : Fields} :
    (diagnostic path fields).errors = [] ↔ DiagnosticFits fields := by
  have hfits : DiagnosticFits fields ↔ fields.has "message" = true ∧
      (∃ d, fields.get? "location" = some d ∧ LocationFits d) ∧ SeverityFits fields :=
    ⟨fun h => ⟨h.message, h.location, h.severity⟩, fun h => ⟨h.1, h.2.1, h.2.2⟩⟩
  rw [hfits, diagnostic, Outcome.errors_append, Outcome.errors_append, List.append_eq_nil_iff,
    List.append_eq_nil_iff, errors_severity_eq_nil_iff]
  refine and_congr ?_ (and_congr_left' ?_)
  · by_cases h : fields.has "message" = true <;> simp [h]
  · cases fields.get? "location" with
    | none => simp
    | some d => simp [errors_location_eq_nil_iff]

/-! ## Nodes -/

theorem get?_of_has_eq_false {fields : Fields} {name : String} (h : fields.has name = false) :
    fields.get? name = none := by
  rw [Fields.has_eq_isSome_get?] at h
  exact Option.not_isSome_iff_eq_none.mp (by simp [h])

theorem has_diagnostics_of_diagnosticShaped {fields : Fields}
    (h : Closeness.diagnosticShaped fields = true) : fields.has "diagnostics" = false := by
  simp only [Closeness.diagnosticShaped, Bool.and_eq_true, Bool.not_eq_true'] at h
  exact h.1

theorem errors_item_eq_nil_iff {path : String} {d : Document} :
    (item path d).errors = [] ↔
      ∀ fields, d = .object fields → Closeness.diagnosticShaped fields = true →
        DiagnosticFits fields := by
  cases d with
  | object fields =>
      rw [item]
      by_cases hshaped : Closeness.diagnosticShaped fields = true
      · simp [hshaped, errors_diagnostic_eq_nil_iff]
      · simp [hshaped]
  | _ => simp [item]

/-- What the second look gives about the list of a result, if there is one. -/
def lookAtList (path : String) : Option Document → Outcome
  | none => .clean
  | some (.array []) => .ofWarning (.of path .emptyArray (some emptyText))
  | some (.array items) => nodes path 0 items
  | some d => .ofError (.expecting path .typeMismatch d "array")

theorem lookAtList_cons (path : String) (d : Document) (items : List Document) :
    lookAtList path (some (.array (d :: items))) = nodes path 0 (d :: items) := rfl

theorem listIn_eq_lookAtList (path : String) (fields : Fields) :
    listIn path fields = lookAtList path (fields.get? "diagnostics") := by
  induction fields with
  | nil => rfl
  | cons p fields ih =>
      obtain ⟨name, d⟩ := p
      rw [listIn.eq_def, Fields.get?]
      dsimp only
      split
      · cases d with
        | array items => cases items <;> rfl
        | _ => rfl
      · exact ih

mutual

theorem errors_node_eq_nil_iff (path : String) :
    (d : Document) → ((node path d).errors = [] ↔ NodeFits d)
  | .object fields => by
      rw [node]
      by_cases hshaped : Closeness.diagnosticShaped fields = true
      · have hlist := get?_of_has_eq_false (has_diagnostics_of_diagnosticShaped hshaped)
        rw [if_pos hshaped, errors_diagnostic_eq_nil_iff]
        exact ⟨.diagnostic hshaped, fun h => by cases h <;> simp_all⟩
      · rw [if_neg hshaped]
        by_cases hlist : Fields.has fields "diagnostics" = true
        · rw [if_pos hlist, Outcome.errors_append, List.append_eq_nil_iff,
            errors_listIn_eq_nil_iff _ fields hlist, errors_severity_eq_nil_iff]
          constructor
          · rintro ⟨⟨items, hget, hitems⟩, hseverity⟩
            exact .result hget hitems hseverity
          · intro h
            rw [Fields.has_eq_isSome_get?] at hlist
            cases h with
            | result hget hitems hseverity => exact ⟨⟨_, hget, hitems⟩, hseverity⟩
            | _ => simp_all
        · rw [if_neg hlist]
          exact iff_of_true rfl (.other (by simpa using hshaped)
            (get?_of_has_eq_false (by simpa using hlist)))
  | .array items => by
      rw [node, Outcome.errors_join_mapIdx_eq_nil_iff]
      constructor
      · intro h
        refine .array fun fields hfields hshaped => ?_
        obtain ⟨i, hi, hx⟩ := List.mem_iff_getElem.mp hfields
        exact errors_item_eq_nil_iff.mp (h i hi) fields hx hshaped
      · intro h i hi
        cases h with
        | array hitems =>
            exact errors_item_eq_nil_iff.mpr fun fields hx => hitems fields (hx ▸ List.getElem_mem hi)
        | scalar _ harray => exact (harray items rfl).elim
  | .null | .bool _ | .int _ | .float _ | .string _ => by
      exact iff_of_true rfl (.scalar (by simp) (by simp))

theorem errors_listIn_eq_nil_iff (path : String) :
    (fields : List (String × Document)) → Fields.has fields "diagnostics" = true →
      ((listIn path fields).errors = [] ↔
        ∃ items, Fields.get? fields "diagnostics" = some (.array items) ∧ ∀ x ∈ items, NodeFits x)
  | [], hlist => by simp [Fields.has] at hlist
  | (name, d) :: rest, hlist => by
      rw [listIn.eq_def, Fields.get?]
      dsimp only
      by_cases hname : name = "diagnostics"
      · rw [if_pos hname, if_pos hname]
        match d with
        | .array [] => simp
        | .array (x :: items) => simp [errors_nodes_eq_nil_iff path 0 (x :: items)]
        | .null | .bool _ | .int _ | .float _ | .string _ | .object _ => simp
      · rw [if_neg hname, if_neg hname]
        refine errors_listIn_eq_nil_iff path rest ?_
        simpa [Fields.has, hname] using hlist

theorem errors_nodes_eq_nil_iff (path : String) (i : Nat) :
    (items : List Document) → ((nodes path i items).errors = [] ↔ ∀ x ∈ items, NodeFits x)
  | [] => by simp [nodes]
  | d :: rest => by
      rw [nodes, Outcome.errors_append, List.append_eq_nil_iff, errors_node_eq_nil_iff _ d,
        errors_nodes_eq_nil_iff path (i + 1) rest, List.forall_mem_cons]

end

end ReviewDiagnostics.Proofs.SecondLook
