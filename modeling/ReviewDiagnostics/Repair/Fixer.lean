import ReviewDiagnostics.Logging.Event
import ReviewDiagnostics.Repair.Plan

/-!
# Repairs

Goes through the findings about a document, writes the planned values into it and keeps a record of
each repair.  Findings that cannot be repaired are left over.
-/

namespace ReviewDiagnostics

/-- A record of one repair. -/
structure AppliedFix where
  path : String
  message : String
  before : Document
  after : Document

def AppliedFix.toDocument (f : AppliedFix) : Document :=
  .object [("path", .string f.path), ("message", .string f.message), ("before", f.before),
    ("after", f.after)]

namespace Repair

def fixMessage (code : Code) (before after : Document) : String :=
  let b := before.display
  let a := after.display
  match code with
  | .typeMismatch =>
    let kind := match before with
      | .null => "undefined"
      | d => d.kindWord
    s!"Converted {kind} value '{b}' to {after.kindWord} '{a}'"
  | .requiredPropertyMissing | .missingDiagnosticMessage | .missingDiagnosticLocation =>
    s!"Added missing property with default value '{a}'"
  | .emptyString => s!"Replaced empty string with default value '{a}'"
  | .minValueViolation => s!"Adjusted value from {b} to minimum allowed value {a}"
  | .maxValueViolation => s!"Adjusted value from {b} to maximum allowed value {a}"
  | .invalidSeverity => s!"Normalized severity from '{b}' to '{a}'"
  | .invalidPosition => s!"Fixed invalid position value from {b} to {a}"
  | _ => s!"Fixed value from '{b}' to '{a}'"

/-- Whether there is a plan for a finding, given the value that it reports. -/
def canFix (level : FixLevel) (f : Finding) : Except Fault Bool := do
  return (← plan level f (← Path.parse f.path) f.value).isSome

/-- What one repair leads to. -/
structure Attempt where
  document : Document
  applied : Option AppliedFix
  events : List Event

/-- Repairs one finding. -/
def applyFix (level : FixLevel) (d : Document) (f : Finding) : Except Fault Attempt := do
  let segments ← Path.parse f.path
  let before := (← d.at? segments).getD .null
  match ← plan level f segments before with
  | none => return ⟨d, none, []⟩
  | some after =>
    match d.set? segments after with
    | none => return ⟨d, none, [.notWritable f.path]⟩
    | some d' =>
      return ⟨d', some ⟨f.path, fixMessage f.code before after, before, after⟩,
        [.fixed f.code f.path]⟩

/-- What a round of repairs leads to. -/
structure Round where
  document : Document
  applied : List AppliedFix
  remaining : List Finding
  events : List Event

/-- A round in which nothing has been done yet. -/
def Round.start (d : Document) : Round := ⟨d, [], [], []⟩

/-- A round with one more finding dealt with.  One that cannot even be planned for is left over. -/
def Round.step (level : FixLevel) (r : Round) (f : Finding) : Round :=
  match applyFix level r.document f with
  | .error reason =>
    { r with
      remaining := r.remaining ++ [f]
      events := r.events ++ [.fixFailed f.code f.path reason] }
  | .ok a =>
    match a.applied with
    | none => { r with remaining := r.remaining ++ [f], events := r.events ++ a.events }
    | some fix =>
      { r with
        document := a.document
        applied := r.applied ++ [fix]
        events := r.events ++ a.events }

/-- Deals with all findings, in order. -/
def fix (level : FixLevel) (d : Document) (findings : List Finding) : Round :=
  let r := findings.foldl (Round.step level) (.start d)
  { r with events := r.events ++ [.fixesApplied r.applied.length r.remaining.length] }

end Repair

end ReviewDiagnostics
