import ReviewDiagnostics.Fault

/-!
# Error codes

Every finding about a document has a code that says what kind of rule is broken.
-/

namespace ReviewDiagnostics

/-- What a finding is about. -/
inductive Code where
  | nullInput
  | emptyInput
  | invalidJson
  | typeMismatch
  | oneofValidationFailed
  | enumValidationFailed
  | minLengthViolation
  | maxLengthViolation
  | patternMismatch
  | emptyString
  | minValueViolation
  | maxValueViolation
  | invalidNumber
  | requiredPropertyMissing
  | unknownProperty
  | invalidObjectStructure
  | invalidArrayItem
  | emptyArray
  | invalidSeverity
  | invalidLocation
  | invalidRange
  | invalidPosition
  | missingDiagnosticMessage
  | missingDiagnosticLocation
  deriving DecidableEq

namespace Code

def name : Code → String
  | .nullInput => "NULL_INPUT"
  | .emptyInput => "EMPTY_INPUT"
  | .invalidJson => "INVALID_JSON"
  | .typeMismatch => "TYPE_MISMATCH"
  | .oneofValidationFailed => "ONEOF_VALIDATION_FAILED"
  | .enumValidationFailed => "ENUM_VALIDATION_FAILED"
  | .minLengthViolation => "MIN_LENGTH_VIOLATION"
  | .maxLengthViolation => "MAX_LENGTH_VIOLATION"
  | .patternMismatch => "PATTERN_MISMATCH"
  | .emptyString => "EMPTY_STRING"
  | .minValueViolation => "MIN_VALUE_VIOLATION"
  | .maxValueViolation => "MAX_VALUE_VIOLATION"
  | .invalidNumber => "INVALID_NUMBER"
  | .requiredPropertyMissing => "REQUIRED_PROPERTY_MISSING"
  | .unknownProperty => "UNKNOWN_PROPERTY"
  | .invalidObjectStructure => "INVALID_OBJECT_STRUCTURE"
  | .invalidArrayItem => "INVALID_ARRAY_ITEM"
  | .emptyArray => "EMPTY_ARRAY"
  | .invalidSeverity => "INVALID_SEVERITY"
  | .invalidLocation => "INVALID_LOCATION"
  | .invalidRange => "INVALID_RANGE"
  | .invalidPosition => "INVALID_POSITION"
  | .missingDiagnosticMessage => "MISSING_DIAGNOSTIC_MESSAGE"
  | .missingDiagnosticLocation => "MISSING_DIAGNOSTIC_LOCATION"

def all : List Code :=
  [Code.nullInput, .emptyInput, .invalidJson, .typeMismatch, .oneofValidationFailed,
    .enumValidationFailed, .minLengthViolation, .maxLengthViolation, .patternMismatch,
    .emptyString, .minValueViolation, .maxValueViolation, .invalidNumber,
    .requiredPropertyMissing, .unknownProperty, .invalidObjectStructure, .invalidArrayItem,
    .emptyArray, .invalidSeverity, .invalidLocation, .invalidRange, .invalidPosition,
    .missingDiagnosticMessage, .missingDiagnosticLocation]

def ofName? (s : String) : Option Code :=
  all.find? (·.name == s)

def ofDocument : Document → Except Fault Code
  | .string s =>
    match ofName? s with
    | some c => .ok c
    | none => .error (.unknownCode (.string s))
  | d => .error (.unknownCode d)

end Code

end ReviewDiagnostics
