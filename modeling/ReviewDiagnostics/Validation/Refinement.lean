import ReviewDiagnostics.Document.Path
import ReviewDiagnostics.Resemblance
import ReviewDiagnostics.Schema.ReviewFormat
import ReviewDiagnostics.Validation.Outcome

/-!
# Refinement

A second look at a document knows the review format itself.  Wherever a node reads as a diagnostic or
as a result, its findings have codes of their own, which say more than those of the schema.
-/

namespace ReviewDiagnostics.Refinement

open Outcome

/-- An object that reads as a single diagnostic, complete or not. -/
def isDiagnosticLike : Document → Bool
  | .object fields => Closeness.diagnosticShaped fields
  | _ => false

def isResultLike : Document → Bool
  | .object fields => Fields.has fields "diagnostics"
  | _ => false

def isSeverity : Document → Bool
  | .string s => ReviewFormat.severities.contains s
  | _ => false

/-- What is expected of a severity. -/
def severityText : String :=
  "one of: " ++ ", ".intercalate ReviewFormat.severities

def inField (path name : String) : String :=
  Path.join path (.name name)

/-- The severity of a diagnostic or a result. -/
def severity (path : String) (fields : Fields) : Outcome :=
  match fields.get? "severity" with
  | none => clean
  | some d =>
    if isSeverity d then clean
    else ofError (.expecting (inField path "severity") .invalidSeverity d severityText)

/-- The line or the column of a position, which are counted from one.  What is no number is left to
the schema. -/
def ordinal (path : String) (fields : Fields) (name : String) : Outcome :=
  match fields.get? name with
  | none => clean
  | some d =>
    if d.kind? = some .number && d.less (.int 1) then
      ofError (.of (inField path name) .invalidPosition d
        (.string s!"positive integer (1-based {name} number)") (.int 1))
    else clean

/-- A position, if it is an object. -/
def position (path : String) : Document → Outcome
  | .object fields => ordinal path fields "line" ++ ordinal path fields "column"
  | _ => clean

/-- The range of a location, if it is an object. -/
def range (path : String) : Document → Outcome
  | .object fields =>
    (match Fields.get? fields "start" with
      | none =>
        ofError (.expecting (inField path "start") .invalidRange .null
          "position object with line number")
      | some d => position (inField path "start") d) ++
    position (inField path "end") (Document.field fields "end")
  | _ => clean

/-- The location of a diagnostic, if it is an object. -/
def location (path : String) : Document → Outcome
  | .object fields => range (inField path "range") (Document.field fields "range")
  | _ => clean

def diagnostic (path : String) (fields : Fields) : Outcome :=
  (if fields.has "message" then clean
    else ofError (.expecting (inField path "message") .missingDiagnosticMessage .null "string")) ++
  ((match fields.get? "location" with
    | none =>
      ofError (.expecting (inField path "location") .missingDiagnosticLocation .null "object")
    | some d => location (inField path "location") d) ++
  severity path fields)

/-- An item of a list, if it reads as a diagnostic. -/
def item (path : String) : Document → Outcome
  | .object fields => if Closeness.diagnosticShaped fields then diagnostic path fields else clean
  | _ => clean

/-- The notice that a result has an empty list. -/
def emptyText : String :=
  "Diagnostic result contains no diagnostics. This may be intentional but is unusual."

mutual

/-- A document, or an item of the list of a result. -/
def node (path : String) : Document → Outcome
  | .object fields =>
    if Closeness.diagnosticShaped fields then diagnostic path fields
    else if Fields.has fields "diagnostics" then
      listIn (inField path "diagnostics") fields ++ severity path fields
    else clean
  | .array items => join (items.mapIdx fun i d => item (Path.join path (.index i)) d)
  | _ => clean

/-- The list of a result, among its fields. -/
def listIn (path : String) : List (String × Document) → Outcome
  | [] => clean
  | (name, d) :: rest =>
    if name = "diagnostics" then
      match d with
      | .array [] => ofWarning (.of path .emptyArray (some emptyText))
      | .array items => nodes path 0 items
      | d => ofError (.expecting path .typeMismatch d "array")
    else listIn path rest

/-- The items of the list of a result, from an index on. -/
def nodes (path : String) (i : Nat) : List Document → Outcome
  | [] => clean
  | d :: rest => node (Path.join path (.index i)) d ++ nodes path (i + 1) rest

end

end ReviewDiagnostics.Refinement
