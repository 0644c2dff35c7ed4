import ReviewDiagnostics.Number.Decimal
import ReviewDiagnostics.Text.Quoted

/-!
# Conversions

How a field of a log line is shown: as a text, a character, or a number in some notation, with a width
that is filled up and a precision.  What does not fit together, such as a text as a number, cannot be
shown at all.
-/

namespace ReviewDiagnostics

/-- What a record has in a field. -/
inductive FieldValue where
  | text (s : String)
  | number (n : Nat)
  /-- Something else, which is shown like this. -/
  | bare (s : String)

/-- How a field is to be shown. -/
structure Conversion where
  marks : List Char
  width : Nat
  precision : Option Nat
  letter : Char
  deriving DecidableEq

namespace Text

/-- A quoted text with ASCII characters only. -/
def quotedAscii (s : String) : String :=
  String.ofList ((quoted s).toList.flatMap fun c =>
    if c.toNat < 0x80 then [c]
    else if c.toNat < 0x100 then '\\' :: 'x' :: hex 2 c.toNat
    else if c.toNat < 0x10000 then '\\' :: 'u' :: hex 4 c.toNat
    else '\\' :: 'U' :: hex 8 c.toNat)

end Text

namespace Conversion

def maxExtent : Nat := 1000000000

/-- Fills a text up with blanks, on the left unless a minus sign asks for the right. -/
def fill (v : Conversion) (cs : List Char) : List Char :=
  let blanks := List.replicate (v.width - cs.length) ' '
  if v.marks.contains '-' then cs ++ blanks else blanks ++ cs

/-- A text that is cut to the precision and filled up. -/
def cut (v : Conversion) (s : String) : List Char :=
  v.fill (match v.precision with
    | some n => s.toList.take n
    | none => s.toList)

/-- The digits of a number behind what stands before them, filled up with zeros if they are asked
for. -/
def filled (v : Conversion) (before digits : List Char) : List Char :=
  let sign := if v.marks.contains '+' then ['+'] else if v.marks.contains ' ' then [' '] else []
  let before := sign ++ before
  if v.marks.contains '0' && !v.marks.contains '-' then
    before ++ List.replicate (v.width - before.length - digits.length) '0' ++ digits
  else v.fill (before ++ digits)

/-- A whole number in a base; a number sign asks for the mark of the base. -/
def whole (v : Conversion) (base : Nat) (mark : List Char) (n : Nat) : List Char :=
  let digits := Nat.toDigits base n
  let digits := if v.letter = 'X' then digits.map Char.toUpper else digits
  let digits := List.replicate (v.precision.getD 0 - digits.length) '0' ++ digits
  v.filled (if v.marks.contains '#' then mark else []) digits

/-- The decimal of `count` significant digits of a whole number: the digits, and the exponent of the
first. -/
def digitsOf (count n : Nat) : List Char × Nat :=
  if n = 0 then (List.replicate count '0', 0)
  else
    let d := Decimal.significant count n 1
    let digits := Nat.toDigits 10 d.digits
    (digits.take count, (d.exponent + digits.length - 1).toNat)

/-- Digits with a point after the first `count` of them; without places there is a point only if it is
asked for. -/
def pointed (point : Bool) (count : Nat) (digits : List Char) : List Char :=
  let places := digits.drop count
  digits.take count ++ (if places.isEmpty && !point then [] else '.' :: places)

/-- The zeros at the end of the places after the first `count` digits dropped. -/
def dropZeros (count : Nat) (digits : List Char) : List Char :=
  digits.take count ++ ((digits.drop count).reverse.dropWhile (· == '0')).reverse

/-- A whole number in one of the notations for real numbers. -/
def real (v : Conversion) (n : Nat) : List Char :=
  let point := v.marks.contains '#'
  let precision := v.precision.getD 6
  let exponential (digits : List Char) (top : Nat) :=
    pointed point 1 digits ++
      (if v.letter.isUpper then 'E' else 'e') :: Decimal.exponentText top
  let digits := match v.letter.toLower with
    | 'f' =>
      let ds := Nat.toDigits 10 n
      pointed point ds.length (ds ++ List.replicate precision '0')
    | 'e' =>
      let (ds, top) := digitsOf (precision + 1) n
      exponential ds top
    | _ =>
      let count := max precision 1
      let (ds, top) := digitsOf count n
      let trimmed (whole : Nat) := if point then ds else dropZeros whole ds
      if top < count then pointed point (top + 1) (trimmed (top + 1))
      else exponential (trimmed 1) top
  v.filled [] digits

/-- A value as it is to be shown; `none` if it cannot be shown so. -/
def show? (v : Conversion) (value : FieldValue) : Option (List Char) :=
  if maxExtent < v.width || v.precision.any (maxExtent < ·) then none
  else
    match v.letter, value with
    | 's', .text s => some (v.cut s)
    | 'r', .text s => some (v.cut (Text.quoted s))
    | 'a', .text s => some (v.cut (Text.quotedAscii s))
    | 'c', .text s => if s.length = 1 then some (v.fill s.toList) else none
    | 'c', .number n =>
      if (Char.ofNat n).toNat = n then some (v.fill [Char.ofNat n]) else none
    | letter, .bare s => if ['s', 'r', 'a'].contains letter then some (v.cut s) else none
    | letter, .number n =>
      match letter with
      | 's' | 'r' | 'a' => some (v.cut (toString n))
      | 'd' | 'i' | 'u' => some (v.whole 10 [] n)
      | 'o' => some (v.whole 8 ['0', 'o'] n)
      | 'x' => some (v.whole 16 ['0', 'x'] n)
      | 'X' => some (v.whole 16 ['0', 'X'] n)
      | 'e' | 'E' | 'f' | 'F' | 'g' | 'G' => (Binary64.round n).toInt?.map fun m => v.real m.toNat
      | _ => none
    | _, _ => none

end Conversion

end ReviewDiagnostics
