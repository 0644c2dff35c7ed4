import ReviewDiagnostics.Validation.Conformity
import ReviewDiagnostics.Validation.Merge
import ReviewDiagnostics.Validation.Refinement

/-!
# Validation

A document is checked against a schema and looked at once more for what the review format says; the
findings of both are merged.
-/

namespace ReviewDiagnostics

/-- What documents are checked against, and how strictly. -/
structure Validator where
  options : Options
  schema : Schema

namespace Validator

def standard : Validator := ⟨.standard, ReviewFormat.document⟩

/-- The finding about a document that there is no point in looking into. -/
def rejection? : Document → Option Finding
  | .null => some (.expecting "" .nullInput .null "valid RDFormat data")
  | .string s =>
    if Text.allBlank s then some (.expecting "" .emptyInput (.string s) "non-empty RDFormat data")
    else none
  | .object [] => some (.expecting "" .emptyInput (.object []) "non-empty RDFormat object")
  | .array [] => some (.expecting "" .emptyArray (.array []) "non-empty array of diagnostics")
  | _ => none

/-- What both looks at a document give. -/
def examine (v : Validator) (d : Document) : Outcome :=
  match rejection? d with
  | some f =>
    { Outcome.clean with errors := [f], events := [.inputRejected f.code] }
  | none =>
    let generic := Conformity.check v.options v.schema "" d
    let specific := Refinement.node "" d
    let errors := mergeFindings generic.errors specific.errors
    let warnings := generic.warnings ++ specific.warnings
    { errors := errors
      warnings := warnings
      events := generic.events ++ [.checked errors.isEmpty errors.length warnings.length]
      fault := generic.fault }

def validate (v : Validator) (d : Document) : Except Fault Verdict :=
  (v.examine d).verdict

/-- The verdict on one value at a path, by a schema of its own. -/
def validateField (o : Options) (s : Schema) (path : String) (d : Document) : Except Fault Verdict :=
  (Conformity.check o s path d).verdict

end Validator

end ReviewDiagnostics
