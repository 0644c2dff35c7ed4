import ReviewDiagnostics.Number.Binary64

/-!
# Decimal text of binary64 numbers

A finite number is written from a decimal `digits · 10^exponent`.  Two ways of choosing that decimal
are used: the fewest digits that read back as the same number (`shortest`), and a fixed count of
significant digits (`significant`).  How it is then laid out, positionally or with an exponent, is a
`Layout`.
-/

namespace ReviewDiagnostics

-- Powers are those of the core library, whatever else is imported.
attribute [local instance (2000)] instPowNat

/-- The decimal `digits · 10^exponent`. -/
structure Decimal where
  digits : Nat
  exponent : Int
  deriving DecidableEq

namespace Decimal

/-- The number of decimal digits of a number. -/
def width (n : Nat) : Nat := (Nat.toDigits 10 n).length

/-- The exponent `p` with `10^p ≤ num / den < 10^(p + 1)`, for positive `num` and `den`. -/
def floorLog10 (num den : Nat) : Int :=
  if den ≤ num then (width (num / den) : Int) - 1 else -(width ((den - 1) / num) : Int)

/-- The decimal `c · 10^k` without the trailing zeros of `c`. -/
def dropZeros (c : Nat) (k : Int) : Decimal :=
  if c ≠ 0 ∧ c % 10 = 0 then dropZeros (c / 10) (k + 1) else ⟨c, k⟩
termination_by c
decreasing_by omega

/-- The decimal without trailing zeros of equal value. -/
def normal (d : Decimal) : Decimal :=
  dropZeros d.digits d.exponent

/-- The two neighbours of `num / den` on the grid of multiples of `10^k`: the lower one, and by how
much of `den'` the number exceeds it, with that unit `den'`. -/
def below (num den : Nat) (k : Int) : Nat × Nat × Nat :=
  if 0 ≤ k then
    let unit := den * 10 ^ k.toNat
    (num / unit, num % unit, unit)
  else
    let scaled := num * 10 ^ (-k).toNat
    (scaled / den, scaled % den, den)

/-- The multiple of `10^k` that reads back as `x`, the nearer one if both neighbours of `num / den`
do; of two equally near ones the even one. -/
def onGrid? (x : Binary64) (num den : Nat) (k : Int) : Option Decimal :=
  let (low, excess, unit) := below num den k
  let readsBack (c : Nat) : Bool := Binary64.ofDecimal false c k == x
  let lowFirst : Bool := 2 * excess < unit || (2 * excess == unit && low % 2 == 0)
  let nearer := if lowFirst then low else low + 1
  let farther := if lowFirst then low + 1 else low
  if readsBack nearer then some ⟨nearer, k⟩
  else if readsBack farther then some ⟨farther, k⟩
  else none

/-- The first grid with a multiple that reads back, from `count` digits to `count + fuel - 1`. -/
def search (x : Binary64) (num den : Nat) (top : Int) : Nat → Nat → Option Decimal
  | 0, _ => none
  | fuel + 1, count =>
    match onGrid? x num den (top - count + 1) with
    | some d => some d
    | none => search x num den top fuel (count + 1)

def exact (m : Nat) (e : Int) : Decimal :=
  if 0 ≤ e then ⟨m * 2 ^ e.toNat, 0⟩ else ⟨m * 5 ^ (-e).toNat, e⟩

/-- The decimal with the fewest digits that reads back as the number `m · 2^e`, and of these the
nearest.  Seventeen digits always suffice; the exact value stands behind them. -/
def shortest (scale : Fin 2047) (fraction : Fin (2 ^ (52 : Nat))) : Decimal :=
  let m := Binary64.significand scale fraction
  let e := Binary64.exponent scale
  if m = 0 then ⟨0, 0⟩
  else
    let num := if 0 ≤ e then m * 2 ^ e.toNat else m
    let den := if 0 ≤ e then 1 else 2 ^ (-e).toNat
    ((search (.finite false scale fraction) num den (floorLog10 num den) 17 1).getD (exact m e)).normal

/-- The decimal of `count` significant digits nearest to `num / den`; a tie goes to the even one. -/
def significant (count : Nat) (num den : Nat) : Decimal :=
  if num = 0 then ⟨0, 0⟩
  else
    let k := floorLog10 num den - count + 1
    let (low, excess, unit) := below num den k
    ⟨if 2 * excess < unit || (2 * excess == unit && low % 2 == 0) then low else low + 1, k⟩

/-- How a decimal is laid out: numbers below `10^upper` (and not below `10^-4`) stand positionally,
all others with an exponent; `point` asks for a fraction also of whole numbers. -/
structure Layout where
  upper : Int
  point : Bool

/-- Digits with a point after the first `whole` of them, without a point if nothing follows. -/
def pointed (ds : List Char) (whole : Nat) : List Char :=
  if ds.length ≤ whole then ds else ds.take whole ++ '.' :: ds.drop whole

/-- The sign and the at least two digits of an exponent. -/
def exponentText (p : Int) : List Char :=
  let ds := Nat.toDigits 10 p.natAbs
  (if p < 0 then '-' else '+') :: (if ds.length < 2 then '0' :: ds else ds)

/-- A decimal without trailing zeros as text. -/
def layOut (layout : Layout) (d : Decimal) : List Char :=
  let ds := Nat.toDigits 10 d.digits
  let top : Int := if d.digits = 0 then 0 else d.exponent + ds.length - 1
  if -4 ≤ top ∧ top < layout.upper then
    if 0 ≤ d.exponent then
      ds ++ List.replicate d.exponent.toNat '0' ++ (if layout.point then ['.', '0'] else [])
    else if 0 ≤ top then pointed ds (top.toNat + 1)
    else '0' :: '.' :: List.replicate ((-top).toNat - 1) '0' ++ ds
  else pointed ds 1 ++ 'e' :: exponentText top

/-- Numbers in documents and messages: positional below `10^16`, whole ones with `.0`. -/
def documentLayout : Layout := ⟨16, true⟩

/-- Bounds in descriptions: positional below a million, whole ones without a point. -/
def boundLayout : Layout := ⟨6, false⟩

end Decimal

namespace Binary64

/-- The texts of the numbers that have no digits. -/
structure Names where
  nan : String
  infinite : String

/-- A number as text, with the fewest digits that read back. -/
def text (names : Names) : Binary64 → List Char
  | .nan => names.nan.toList
  | .infinite negative => (if negative then ['-'] else []) ++ names.infinite.toList
  | .finite negative scale fraction =>
    (if negative then ['-'] else []) ++
      (Decimal.shortest scale fraction).layOut Decimal.documentLayout

/-- Names in messages. -/
def messageNames : Names := ⟨"nan", "inf"⟩

/-- Names in documents. -/
def documentNames : Names := ⟨"NaN", "Infinity"⟩

/-- A number with six significant digits, trailing zeros dropped. -/
def general : Binary64 → List Char
  | .finite negative scale fraction =>
    let m := significand scale fraction
    let e := exponent scale
    let num := if 0 ≤ e then m * 2 ^ e.toNat else m
    let den := if 0 ≤ e then 1 else 2 ^ (-e).toNat
    (if negative then ['-'] else []) ++
      (Decimal.significant 6 num den).normal.layOut Decimal.boundLayout
  | x => x.text messageNames

end Binary64

end ReviewDiagnostics
