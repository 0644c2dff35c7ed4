import ReviewDiagnostics.Pattern.CharSet

/-!
# Patterns

A pattern is a regular expression: sets of characters and positions, put together by sequence, choice
and repetition, with numbered groups whose text can be asked for again, with looks ahead and behind,
and with parts that are not reconsidered once they have matched.
-/

namespace ReviewDiagnostics

/-- A position without extent. -/
inductive Anchor where
  /-- Before the first character. -/
  | start
  /-- Before the first character of a line. -/
  | lineStart
  /-- After the last character, or before a line feed that is the last. -/
  | stop
  /-- After the last character of a line. -/
  | lineStop
  /-- After the last character. -/
  | veryEnd
  /-- Between a word character and something else (or not); nowhere in the empty text. -/
  | boundary (negated : Bool) (alphabet : Alphabet)
  deriving DecidableEq

/-- How a repetition chooses between its numbers of rounds. -/
inductive Greed where
  /-- As many as possible first. -/
  | greedy
  /-- As few as possible first. -/
  | lazy
  /-- As many as possible only. -/
  | possessive
  deriving DecidableEq

/-- A regular expression. -/
inductive Pattern where
  | empty
  | one (set : CharSet)
  | anchor (a : Anchor)
  | seq (p q : Pattern)
  | alt (p q : Pattern)
  /-- From `low` up to `high` rounds, without an upper limit if there is no `high`. -/
  | loop (greed : Greed) (low : Nat) (high : Option Nat) (p : Pattern)
  | group (number : Nat) (p : Pattern)
  /-- The text of a group once more, with a folding without regard to case. -/
  | again (number : Nat) (folding : Option Alphabet)
  /-- Whether a pattern matches here, or that many characters back; nothing is taken. -/
  | look (back : Option Nat) (expected : Bool) (p : Pattern)
  /-- The first way to match counts, whatever follows. -/
  | atomic (p : Pattern)
  /-- One of two patterns, according to whether a group has a text. -/
  | given (number : Nat) (yes no : Pattern)
  deriving DecidableEq

namespace Pattern

def set? : Pattern → Option CharSet
  | .one set => some set
  | _ => none

end Pattern

/-- How many characters a pattern takes: at least and, unless there is no limit, at most. -/
structure Extent where
  low : Nat
  high : Option Nat

namespace Extent

/-- No characters. -/
def zero : Extent := ⟨0, some 0⟩

def one : Extent := ⟨1, some 1⟩

def add (a b : Extent) : Extent :=
  ⟨a.low + b.low, match a.high, b.high with
    | some m, some n => some (m + n)
    | _, _ => none⟩

/-- Either extent. -/
def either (a b : Extent) : Extent :=
  ⟨min a.low b.low, match a.high, b.high with
    | some m, some n => some (max m n)
    | _, _ => none⟩

def times (a : Extent) (low : Nat) (high : Option Nat) : Extent :=
  ⟨a.low * low, match a.high, high with
    | some 0, _ | _, some 0 => some 0
    | some m, some n => some (m * n)
    | _, _ => none⟩

/-- The number of characters, if it is the same for all matches. -/
def fixed? (a : Extent) : Option Nat :=
  if a.high = some a.low then some a.low else none

end Extent

end ReviewDiagnostics
