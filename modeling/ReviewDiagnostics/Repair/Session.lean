import ReviewDiagnostics.Repair.Fixer
import ReviewDiagnostics.Validation.Validator

/-!
# Repair sessions

Checking and repairing alternate until nothing is found, nothing can be repaired, or as many rounds
have passed as are allowed.
-/

namespace ReviewDiagnostics

/-- How a document is to be repaired.  A level that has no name, and a number of passes that is none, do
not matter until they are needed. -/
structure RepairRequest where
  enabled : Bool
  level : Except Fault FixLevel
  passes : Document

/-- The state of a document after checks and repairs. -/
structure Report where
  verdict : Verdict
  document : Document
  applied : List AppliedFix

namespace Report

/-- The fields of a report.  The document is part of it if it was repaired. -/
def fields (r : Report) : Fields :=
  r.verdict.fields ++
    if r.applied.isEmpty then []
    else [("fixedData", r.document), ("appliedFixes", .array (r.applied.map AppliedFix.toDocument))]

def toDocument (r : Report) : Document := .object r.fields

end Report

/-- What a session comes to, and what happened on the way. -/
structure Session where
  events : List Event
  result : Except Fault Report

namespace Session

/-- A session under way: the document, what the last check gave, the repairs so far and all events. -/
structure Progress where
  document : Document
  outcome : Outcome
  applied : List AppliedFix
  events : List Event

def Progress.start (v : Validator) (d : Document) : Progress :=
  let o := v.examine d
  ⟨d, o, [], o.events⟩

/-- At most `fuel` rounds, the first of them with the given number. -/
def Progress.rounds (v : Validator) (level : FixLevel) : Nat → Nat → Progress → Progress
  | 0, _, p => p
  | fuel + 1, number, p =>
    let r := Repair.fix level p.document p.outcome.errors
    if r.applied.isEmpty then { p with events := p.events ++ r.events }
    else
      let o := v.examine r.document
      let next : Progress :=
        ⟨r.document, o, p.applied ++ r.applied, p.events ++ r.events ++ o.events ++
          (if o.fault.isSome then [] else
            [.passCompleted number r.applied.length o.errors.length])⟩
      if o.fault.isSome || o.errors.isEmpty then next else rounds v level fuel (number + 1) next

def Progress.finish (p : Progress) : Session :=
  ⟨p.events, p.outcome.verdict.map fun v => ⟨v, p.document, p.applied⟩⟩

/-- The number of rounds that a document allows. -/
def passCount : Document → Except Fault Nat
  | .int n => .ok n.toNat
  | .bool b => .ok (if b then 1 else 0)
  | d => .error (.notCountable d)

/-- Checks a document and repairs it if that is asked for. -/
def run (v : Validator) (request : RepairRequest) (d : Document) : Session :=
  let p := Progress.start v d
  if p.outcome.fault.isSome || p.outcome.errors.isEmpty || !request.enabled then p.finish
  else
    match request.level, passCount request.passes with
    | .error f, _ => ⟨p.events, .error f⟩
    | .ok _, .error f => ⟨p.events, .error f⟩
    | .ok level, .ok passes => (p.rounds v level passes 1).finish

end Session

end ReviewDiagnostics
