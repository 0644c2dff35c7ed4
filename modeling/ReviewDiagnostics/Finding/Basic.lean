import ReviewDiagnostics.Finding.Code

/-!
# Findings

A finding is one broken rule at one place of a document, a notice is something odd that breaks no
rule, and a verdict is all that was found.
-/

namespace ReviewDiagnostics

/-- A broken rule.  `expected` says what should be there and `bound` which limit is exceeded; either
is null if there is nothing to say. -/
structure Finding where
  path : String
  code : Code
  message : String
  value : Document
  expected : Document
  bound : Document

/-- Something odd. -/
structure Notice where
  path : String
  code : Code
  message : String

/-- All that was found in a document. -/
structure Verdict where
  errors : List Finding
  warnings : List Notice

namespace Finding

def toDocument (f : Finding) : Document :=
  .object ([("path", .string f.path), ("code", .string f.code.name), ("message", .string f.message),
      ("value", f.value)] ++
    (match f.expected.present? with
      | none => []
      | some d => [("expected", d)]) ++
    (match f.bound.present? with
      | none => []
      | some d => [("constraint", d)]))

end Finding

namespace Notice

def toDocument (n : Notice) : Document :=
  .object [("path", .string n.path), ("code", .string n.code.name), ("message", .string n.message)]

end Notice

namespace Verdict

/-- Whether no rule is broken. -/
def valid (v : Verdict) : Bool := v.errors.isEmpty

def codesAt (v : Verdict) (path : String) : List Code :=
  (v.errors.filter (·.path == path)).map (·.code)

def fields (v : Verdict) : Fields :=
  [("valid", .bool v.valid), ("errors", .array (v.errors.map Finding.toDocument)),
    ("warnings", .array (v.warnings.map Notice.toDocument))]

end Verdict

end ReviewDiagnostics
