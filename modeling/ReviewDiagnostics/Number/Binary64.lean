/-!
# Binary64 numbers

A floating-point number is kept by its fields, not as a machine word: sign, biased exponent and
fraction of a finite number, or one of the two infinities, or not-a-number.  Every value has one
representation, all arithmetic is exact on rationals, and `round` is the only place where precision
is lost.
-/

namespace ReviewDiagnostics

-- Powers are those of the core library, whatever else is imported.
attribute [local instance (2000)] instPowNat

/-- A binary64 number.  `scale` is the biased exponent; with `scale = 0` the number is
`fraction · 2^-1074`, otherwise `(2^52 + fraction) · 2^(scale - 1075)`. -/
inductive Binary64 where
  | nan
  | infinite (negative : Bool)
  | finite (negative : Bool) (scale : Fin 2047) (fraction : Fin (2 ^ (52 : Nat)))
  deriving DecidableEq

namespace Binary64

/-- The integer that a finite number is a power of two times of. -/
def significand (scale : Fin 2047) (fraction : Fin (2 ^ (52 : Nat))) : Nat :=
  if scale.val = 0 then fraction.val else 2 ^ (52 : Nat) + fraction.val

def exponent (scale : Fin 2047) : Int :=
  (max scale.val 1 : Nat) - 1075

def twoPow (e : Int) : Rat :=
  if 0 ≤ e then (2 ^ e.toNat : Nat) else mkRat 1 (2 ^ (-e).toNat)

def magnitude (scale : Fin 2047) (fraction : Fin (2 ^ (52 : Nat))) : Rat :=
  significand scale fraction * twoPow (exponent scale)

def toRat? : Binary64 → Option Rat
  | .finite negative scale fraction =>
    some (if negative then -magnitude scale fraction else magnitude scale fraction)
  | _ => none

/-- The integer nearest to `num / den`; a tie goes to the even one. -/
def nearest (num den : Nat) : Nat :=
  let q := num / den
  let r := num % den
  if 2 * r < den then q
  else if den < 2 * r then q + 1
  else q + q % 2

/-- The exponent `e` with `2^e ≤ num / den < 2^(e + 1)`, for positive `num` and `den`. -/
def floorLog2 (num den : Nat) : Int :=
  let e : Int := (num.log2 : Int) - den.log2
  let reached := if 0 ≤ e then den * 2 ^ e.toNat ≤ num else den ≤ num * 2 ^ (-e).toNat
  if reached then e else e - 1

/-- The number with significand `m ≤ 2^53` and exponent `u`, where `u` is `-1074` if `m < 2^52`;
infinite where no finite number is large enough. -/
def pack (negative : Bool) (m : Nat) (u : Int) : Binary64 :=
  if m < 2 ^ (52 : Nat) then .finite negative 0 ⟨m % 2 ^ (52 : Nat), Nat.mod_lt _ (by decide)⟩
  else
    let scale := (if m < 2 ^ (53 : Nat) then u + 1075 else u + 1076).toNat
    if h : scale < 2047 then .finite negative ⟨scale, h⟩ ⟨m % 2 ^ (52 : Nat), Nat.mod_lt _ (by decide)⟩
    else .infinite negative

/-- The number nearest to `num / den`; a tie goes to the even significand. -/
def ofFraction (negative : Bool) (num den : Nat) : Binary64 :=
  if num = 0 ∨ den = 0 then .finite negative 0 0
  else
    let u := max (floorLog2 num den - 52) (-1074)
    let m := if 0 ≤ u then nearest num (den * 2 ^ u.toNat) else nearest (num * 2 ^ (-u).toNat) den
    pack negative m u

def round (q : Rat) : Binary64 :=
  ofFraction (q.num < 0) q.num.natAbs q.den

/-- The number nearest to `c · 10^k`.  Exponents far beyond the range are cut off first, where the
result is zero or infinite already, so that no huge power is formed. -/
def ofDecimal (negative : Bool) (c : Nat) (k : Int) : Binary64 :=
  if c = 0 then .finite negative 0 0
  else if 310 < k then .infinite negative
  else if k + c.log2 < -400 then .finite negative 0 0
  else if 0 ≤ k then ofFraction negative (c * 10 ^ k.toNat) 1
  else ofFraction negative c (10 ^ (-k).toNat)

/-- The integer nearest in size that a finite whole number is; `none` for every other number. -/
def toInt? : Binary64 → Option Int
  | .finite negative scale fraction =>
    let e := exponent scale
    let m := significand scale fraction
    let size? :=
      if 0 ≤ e then some (m * 2 ^ e.toNat)
      else if m % 2 ^ (-e).toNat = 0 then some (m / 2 ^ (-e).toNat) else none
    size?.map fun n => if negative then -(n : Int) else n
  | _ => none

/-- Zero of either sign. -/
def isZero : Binary64 → Bool
  | .finite _ scale fraction => scale.val == 0 && fraction.val == 0
  | _ => false

end Binary64

/-- A number on the line of rationals with both infinities: what numbers are compared by. -/
inductive Quantity where
  | negInfinite
  | exact (q : Rat)
  | posInfinite
  deriving DecidableEq

namespace Quantity

def lt : Quantity → Quantity → Bool
  | .negInfinite, .negInfinite => false
  | .negInfinite, _ => true
  | .exact _, .negInfinite => false
  | .exact a, .exact b => a < b
  | .exact _, .posInfinite => true
  | .posInfinite, _ => false

end Quantity

/-- The place of a number on the extended line; not-a-number has none. -/
def Binary64.quantity? : Binary64 → Option Quantity
  | .nan => none
  | .infinite true => some .negInfinite
  | .infinite false => some .posInfinite
  | x => x.toRat?.map .exact

end ReviewDiagnostics
