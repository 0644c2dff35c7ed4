import ReviewDiagnostics.Number.Binary64

/-!
# Arithmetic on binary64 numbers

Each operation is exact on rationals, and its result is rounded once.
-/

namespace ReviewDiagnostics.Binary64

def opposite : Binary64 → Binary64
  | .finite negative scale fraction => .finite (!negative) scale fraction
  | .infinite negative => .infinite (!negative)
  | .nan => .nan

/-- The sum of two numbers.  A sum of nothing but zeros is the positive zero. -/
def plus (x y : Binary64) : Binary64 :=
  match x, y with
  | .infinite a, .infinite b => if a = b then .infinite a else .nan
  | .nan, _ | _, .nan => .nan
  | .infinite a, _ => .infinite a
  | _, .infinite b => .infinite b
  | x, y => round (x.toRat?.getD 0 + y.toRat?.getD 0)

/-- A number a positive whole number of times; the whole number is rounded first. -/
def times (x : Binary64) (n : Nat) : Binary64 :=
  match x.toRat?, (ofFraction false n 1).toRat? with
  | some a, some b => if a = 0 then x else round (a * b)
  | _, _ => x

end ReviewDiagnostics.Binary64
