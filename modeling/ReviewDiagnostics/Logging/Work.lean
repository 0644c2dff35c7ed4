import ReviewDiagnostics.Logging.Journal

/-!
# Pieces of work

A piece of work tells the log when it begins and when it ends, how long it took, and what it broke off
with.
-/

namespace ReviewDiagnostics

/-- A piece of work, with the level at which it is told of and what it is about. -/
structure Work where
  origin : String
  level : Level
  operation : String
  context : Fields

namespace Work

/-- A number of microseconds as seconds with two places; a half goes to the even neighbour. -/
def seconds (micros : Nat) : String :=
  let hundredths := Binary64.nearest micros 10000
  let places := Nat.toDigits 10 (hundredths % 100)
  let padded := if places.length < 2 then '0' :: places else places
  s!"{hundredths / 100}.{String.ofList padded}s"

/-- What is told at the beginning. -/
def begun (w : Work) : Record :=
  let context := ", ".intercalate (w.context.map fun (name, value) => s!"{name}={value.shown}")
  ⟨w.level, w.origin, s!"Starting: {w.operation} ({context})"⟩

/-- What is told at the end. -/
def completed (w : Work) (micros : Nat) : Record :=
  ⟨w.level, w.origin, s!"Completed: {w.operation} ({seconds micros})"⟩

/-- What is told when the work breaks off. -/
def failed (w : Work) (micros : Nat) (cause : String) : Record :=
  ⟨.error, w.origin, s!"Failed: {w.operation} ({seconds micros}) - {cause}"⟩

variable {m : Type → Type} [Monad m] [Host m] {ε α : Type}

/-- Carries work out and tells of it. -/
def during (w : Work) (j : Journal) (wording : ε → String) (body : ExceptT ε m α) : ExceptT ε m α :=
  ExceptT.mk do
    let start ← Host.clock
    j.tell w.begun
    let outcome ← body.run
    let micros := (← Host.clock) - start
    match outcome with
    | .ok _ => j.tell (w.completed micros)
    | .error fault => j.tell (w.failed micros (wording fault))
    return outcome

end Work

end ReviewDiagnostics
