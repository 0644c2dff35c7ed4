import ReviewDiagnostics.Document.Path
import ReviewDiagnostics.Schema.ReviewFormat

/-!
# The forms of places

Which form the value at a path is to have follows from the path, whichever of its forms the document is judged
by, and whichever look comes to the place.  The places of a list are read as single diagnostics, and so are
the places of a list among them.  A list of diagnostics may stand in any object.
-/

namespace ReviewDiagnostics

/-- The list of a result. -/
def ReviewFormat.diagnosticList : Schema := .array .nothing (some ReviewFormat.diagnostic)

namespace Schema

/-- The form of a part.  The items of a list that stands where an object should are read as diagnostics. -/
def part? : Schema → Segment → Option Schema
  | .object _ _ properties _, .name name =>
    if name = "diagnostics" then some ReviewFormat.diagnosticList else property? properties name
  | .object _ _ _ _, .index _ => some ReviewFormat.diagnostic
  | .array _ item?, .index _ => item?
  | _, _ => none

/-- The form of the value at a path. -/
def form? (s : Schema) : List Segment → Option Schema
  | [] => some s
  | step :: rest =>
    match s.part? step with
    | some t => t.form? rest
    | none => none

end Schema

namespace Proofs.Forms

open Schema ReviewFormat

variable {s t : Schema} {step : Segment} {p q : List Segment} {name : String}

theorem form?_cons (h : s.part? step = some t) : s.form? (step :: p) = t.form? p := by
  rw [form?, h]

theorem exists_part?_of_form? (h : s.form? (step :: p) = some t) :
    ∃ u, s.part? step = some u ∧ u.form? p = some t := by
  rw [form?] at h
  split at h
  · rename_i u hu
    exact ⟨u, hu, h⟩
  · cases h

theorem form?_append (h : s.form? p = some t) : s.form? (p ++ q) = t.form? q := by
  induction p generalizing s with
  | nil => rw [Option.some.inj h, List.nil_append]
  | cons step p ih =>
      obtain ⟨u, hu, hrest⟩ := exists_part?_of_form? h
      rw [List.cons_append, form?_cons hu, ih hrest]

theorem form?_concat (h : s.form? p = some t) : s.form? (p ++ [step]) = t.part? step := by
  rw [form?_append h, form?]
  cases t.part? step <;> rfl

theorem part?_list {about : About} {required : List Document} {properties : List (String × Schema)}
    {additional : Bool} : (Schema.object about required properties additional).part?
      (.name "diagnostics") = some diagnosticList := rfl

theorem part?_property {about : About} {required : List Document}
    {properties : List (String × Schema)} {additional : Bool} (hname : name ≠ "diagnostics") :
    (Schema.object about required properties additional).part? (.name name) =
      property? properties name := by
  rw [part?, if_neg hname]

end Proofs.Forms

end ReviewDiagnostics
