import ReviewDiagnostics.Finding.Basic

/-!
# Wording of findings

Each code has a sentence into which the place, the value, the expectation and the bound are filled.
-/

namespace ReviewDiagnostics

namespace Path

/-- The last name of a path, or its last index without the brackets. -/
def lastStep (path : String) : String :=
  let tail := (path.toList.reverse.takeWhile (· ≠ '.')).reverse
  if tail.getLast? = some ']' ∧ '[' ∈ tail then
    String.ofList (tail.dropLast.reverse.takeWhile (· ≠ '[')).reverse
  else String.ofList tail

end Path

/-- What is filled into a sentence. -/
structure Particulars where
  place : String
  value : String
  kind : String
  expected : String
  bound : String
  step : String
  length : Nat

namespace Particulars

/-- The place of a path in a sentence; the whole document has none. -/
def placeOf (path : String) : String :=
  if path = "" then "" else s!" at '{path}'"

/-- The text of a bound; a whole binary64 number is shown as a whole number. -/
def boundText : Document → String
  | .float x =>
    match x.toInt? with
    | some n => toString n
    | none => (Document.float x).shown
  | d => d.shown

def ofFinding (path : String) (value expected bound : Document) : Particulars where
  place := placeOf path
  value := value.shown
  kind := value.kindWord
  expected := if expected.truthy then expected.shown else "a different value"
  bound := boundText bound
  step := Path.lastStep path
  length := match value with
    | .string s => s.length
    | _ => 0

end Particulars

namespace Code

def sentence (p : Particulars) : Code → String
  | .nullInput => "Input cannot be null. Please provide valid RDFormat data."
  | .emptyInput => "Input cannot be empty. Please provide valid RDFormat data."
  | .invalidJson => s!"Input{p.place} is not valid JSON."
  | .typeMismatch => s!"Expected {p.expected}{p.place}, but got {p.kind}."
  | .oneofValidationFailed =>
    s!"Value{p.place} does not match any supported RDFormat structure (single diagnostic, array of diagnostics, or diagnostic result)."
  | .enumValidationFailed => s!"Invalid value '{p.value}'{p.place}. Expected {p.expected}."
  | .minLengthViolation =>
    s!"String{p.place} must be at least {p.bound} characters long, but got {p.length}."
  | .maxLengthViolation =>
    s!"String{p.place} must be at most {p.bound} characters long, but got {p.length}."
  | .patternMismatch =>
    s!"String{p.place} does not match the required format. Expected {p.expected}."
  | .emptyString => s!"String{p.place} cannot be empty. Please provide a non-empty value."
  | .minValueViolation => s!"Number{p.place} must be at least {p.bound}, but got {p.value}."
  | .maxValueViolation => s!"Number{p.place} must be at most {p.bound}, but got {p.value}."
  | .invalidNumber => s!"Value{p.place} is not a valid number: '{p.value}'."
  | .requiredPropertyMissing =>
    s!"Missing required property '{p.step}'{p.place}. This field is mandatory in RDFormat."
  | .unknownProperty =>
    s!"Unknown property '{p.step}'{p.place}. This property is not part of the RDFormat specification."
  | .invalidObjectStructure =>
    s!"Object{p.place} has an invalid structure. Expected {p.expected}."
  | .invalidArrayItem => s!"Array item{p.place} is invalid. Expected {p.expected}."
  | .emptyArray => s!"Array{p.place} cannot be empty. Expected {p.expected}."
  | .invalidSeverity =>
    s!"Severity{p.place} must be one of: UNKNOWN_SEVERITY, ERROR, WARNING, INFO. Got '{p.value}'."
  | .invalidLocation =>
    s!"Location{p.place} is invalid. A location must have a 'path' field and optionally a 'range' field."
  | .invalidRange =>
    s!"Range{p.place} is invalid. A range must have a 'start' position and optionally an 'end' position."
  | .invalidPosition => s!"Position{p.place} is invalid. Expected {p.expected}, got '{p.value}'."
  | .missingDiagnosticMessage =>
    s!"Diagnostic{p.place} is missing the required 'message' field. Every diagnostic must have a descriptive message."
  | .missingDiagnosticLocation =>
    s!"Diagnostic{p.place} is missing the required 'location' field. Every diagnostic must specify where the issue was found."

/-- The sentence of an oddity.  Codes that are not meant for notices have a general one. -/
def noticeSentence (p : Particulars) : Code → String
  | .unknownProperty =>
    s!"Property '{p.step}'{p.place} is not part of the RDFormat specification and will be ignored."
  | .emptyArray => s!"Array{p.place} is empty."
  | _ => s!"Validation failed{p.place}: {p.expected}."

end Code

/-- The finding that a rule is broken, with its sentence. -/
def Finding.of (path : String) (code : Code) (value expected bound : Document) : Finding where
  path := path
  code := code
  message := code.sentence (.ofFinding path value expected bound)
  value := value
  expected := expected
  bound := bound

/-- A finding with a description of what should be there and no bound. -/
def Finding.expecting (path : String) (code : Code) (value : Document) (expected : String) : Finding :=
  .of path code value (.string expected) .null

@[simp] theorem Finding.path_of (path : String) (code : Code) (value expected bound : Document) :
    (of path code value expected bound).path = path := rfl

@[simp] theorem Finding.code_of (path : String) (code : Code) (value expected bound : Document) :
    (of path code value expected bound).code = code := rfl

@[simp] theorem Finding.path_expecting (path : String) (code : Code) (value : Document)
    (expected : String) : (expecting path code value expected).path = path := rfl

@[simp] theorem Finding.code_expecting (path : String) (code : Code) (value : Document)
    (expected : String) : (expecting path code value expected).code = code := rfl

/-- The notice that something is odd, with its sentence unless another message is given. -/
def Notice.of (path : String) (code : Code) (message? : Option String) : Notice where
  path := path
  code := code
  message := message?.getD (code.noticeSentence (.ofFinding path .null .null .null))

end ReviewDiagnostics
