import ReviewDiagnostics.Document.Path
import ReviewDiagnostics.Finding.Basic
import ReviewDiagnostics.Repair.Coercion

/-!
# Repair plans

For a finding and the value at its place, a plan is the value that should stand there instead, if
there is one.
-/

namespace ReviewDiagnostics

/-- How far repairs may go: basic ones keep what was meant, aggressive ones also replace blank texts and
move numbers into their bounds. -/
inductive FixLevel where
  | basic
  | aggressive
  deriving DecidableEq

namespace FixLevel

def name : FixLevel → String
  | .basic => "basic"
  | .aggressive => "aggressive"

def ofDocument : Document → Except Fault FixLevel
  | .string "basic" => .ok .basic
  | .string "aggressive" => .ok .aggressive
  | d => .error (.unknownFixLevel d.literal)

end FixLevel

namespace Repair

/-- Values for missing properties, by name. -/
def propertyDefaults : List (String × Document) :=
  [("message", .string "No message provided"),
    ("location", .object [("path", .string "unknown")]),
    ("path", .string "unknown"),
    ("line", .int 1),
    ("column", .int 1),
    ("severity", .string "UNKNOWN_SEVERITY"),
    ("diagnostics", .array []),
    ("name", .string "unknown")]

/-- Values for missing properties of a certain parent. -/
def parentDefaults : List ((String × String) × Document) :=
  [(("range", "start"), .object [("line", .int 1)])]

/-- Values for missing properties of a certain kind. -/
def kindDefault? : Kind → Option Document
  | .string => some (.string "")
  | .number => some (.int 0)
  | .array => some (.array [])
  | .object => some (.object [])
  | _ => none

/-- Values for blank texts, by name. -/
def textDefaults : List (String × String) :=
  [("message", "No message provided"), ("path", "unknown"), ("name", "unknown")]

def textFallback : String := "unknown"

def defaultMinimum : Int := 1
def defaultMaximum : Int := 1000

/-- Findings that only aggressive repairs deal with. -/
def isAggressive : Code → Bool
  | .emptyString | .minValueViolation | .maxValueViolation | .invalidPosition => true
  | _ => false

def property? (segments : List Segment) : Option String :=
  match segments.getLast? with
  | some (.name s) => some s
  | _ => none

/-- The name before the last one, if the path ends in a name. -/
def parent? (segments : List Segment) : Option String :=
  let names := segments.filterMap fun
    | .name s => some s
    | .index _ => none
  match property? segments with
  | some _ => names.dropLast.getLast?
  | none => none

/-- The value for a missing property: by parent and name, by name, or by the kind that is expected. -/
def missingDefault (segments : List Segment) (expected : Document) : Except Fault (Option Document) :=
  let byParent := do parentDefaults.lookup (← parent? segments, ← property? segments)
  let byName := do propertyDefaults.lookup (← property? segments)
  match byParent.or byName with
  | some d => .ok (some d)
  | none => do return (← Coercion.expectedKind? expected).bind kindDefault?

/-- A whole binary64 number as a whole number; every other value as it is. -/
def wholeBound : Document → Document
  | .float x =>
    match x.toInt? with
    | some n => .int n
    | none => .float x
  | d => d

/-- A decimal number at the start of a text: digits, a minus before them if there is one, and a
fraction after them if there is one. -/
def leadingDecimal? (cs : List Char) : Option Binary64 :=
  let (negative, cs) := match cs with
    | '-' :: rest => (true, rest)
    | rest => (false, rest)
  let whole := cs.takeWhile Text.isDecimalDigit
  let fraction := match cs.drop whole.length with
    | '.' :: rest => rest.takeWhile Text.isDecimalDigit
    | _ => []
  if whole.isEmpty then none
  else
    some (Binary64.ofDecimal negative
      (Text.ofDigits ((whole ++ fraction).filterMap Text.digitValue?)) (-fraction.length))

/-- The first number that follows a phrase in a text. -/
def numberAfter? (phrase : List Char) : List Char → Option Binary64
  | [] => none
  | c :: rest =>
    let here := if phrase.isPrefixOf (c :: rest) then leadingDecimal? ((c :: rest).drop phrase.length)
      else none
    here.or (numberAfter? phrase rest)

/-- The bound that a finding states, in a field of its own or in its message. -/
def bound (f : Finding) (phrase : String) (fallback : Int) : Document :=
  match f.bound with
  | .null =>
    match numberAfter? phrase.toList f.message.toList with
    | some x => wholeBound (.float x)
    | none => .int fallback
  | d => wholeBound d

/-- A number moved up to a bound; what is no number becomes the bound. -/
def atLeast (bound current : Document) : Except Fault Document :=
  if !current.isNumber then .ok bound
  else if !bound.isNumeric then .error .wrongKind
  else .ok (if bound.less current then current else bound)

/-- A number moved down to a bound; what is no number becomes the bound. -/
def atMost (bound current : Document) : Except Fault Document :=
  if !current.isNumber then .ok bound
  else if !bound.isNumeric then .error .wrongKind
  else .ok (if current.less bound then current else bound)

/-- A line or a column, which are counted from one. -/
def positionValue (segments : List Segment) (current : Document) : Option Document :=
  if property? segments = some "line" ∨ property? segments = some "column" then
    match current with
    | .string s =>
      match Text.parseNumber? s with
      | some n => some (if n.less (.int 1) then .int 1 else n)
      | none => some (.int 1)
    | d => if d.isNumber && !d.less (.int 1) then none else some (.int 1)
  else none

/-- The value that should stand at the path of a finding, given what stands there; `none` if it cannot
be repaired. -/
def plan (level : FixLevel) (f : Finding) (segments : List Segment) (current : Document) :
    Except Fault (Option Document) :=
  if segments.isEmpty ∨ (isAggressive f.code ∧ level ≠ .aggressive) then .ok none
  else
    match f.code with
    | .typeMismatch => do return Coercion.coerce (← Coercion.expectedKind? f.expected) current
    | .requiredPropertyMissing | .missingDiagnosticMessage | .missingDiagnosticLocation =>
      missingDefault segments f.expected
    | .invalidSeverity => .ok (some (.string (Severity.normalize current)))
    | .emptyString =>
      .ok (some (.string (((property? segments).bind fun s => textDefaults.lookup s).getD textFallback)))
    | .minValueViolation => some <$> atLeast (bound f "at least " defaultMinimum) current
    | .maxValueViolation => some <$> atMost (bound f "at most " defaultMaximum) current
    | .invalidPosition => .ok (positionValue segments current)
    | _ => .ok none

end Repair

end ReviewDiagnostics
