import ReviewDiagnostics.Number.Binary64
import ReviewDiagnostics.Text.DecimalDigit

/-!
# Number words

Numbers as people write them: decimal digits of any script, with single underscores between them, a
sign in front, and for binary64 numbers a point and an exponent.
-/

namespace ReviewDiagnostics.Text

/-- The digits that continue a number word after a digit, and what follows them; a single underscore
may stand before each. -/
def spanMoreDigits : List Char → List Nat × List Char
  | [] => ([], [])
  | '_' :: c :: rest =>
    match digitValue? c with
    | none => ([], '_' :: c :: rest)
    | some v =>
      let (vs, after) := spanMoreDigits rest
      (v :: vs, after)
  | c :: rest =>
    match digitValue? c with
    | none => ([], c :: rest)
    | some v =>
      let (vs, after) := spanMoreDigits rest
      (v :: vs, after)

/-- The digits at the start of a number word, and what follows them. -/
def spanDigits : List Char → List Nat × List Char
  | [] => ([], [])
  | c :: rest =>
    match digitValue? c with
    | none => ([], c :: rest)
    | some v =>
      let (vs, after) := spanMoreDigits rest
      (v :: vs, after)

/-- A sign, if there is one, as whether it is a minus; and what follows. -/
def spanSign : List Char → Bool × List Char
  | '-' :: rest => (true, rest)
  | '+' :: rest => (false, rest)
  | rest => (false, rest)

def ofDigits (digits : List Nat) : Nat :=
  digits.foldl (fun n v => n * 10 + v) 0

/-- The whole number that a word is, if it has no more digits than are read. -/
def wholeNumber? (word : List Char) : Option Int :=
  let (negative, rest) := spanSign word
  match spanDigits rest with
  | ([], _) => none
  | (digits, []) =>
    if maxDigits < digits.length then none
    else some (if negative then -(ofDigits digits : Int) else ofDigits digits)
  | _ => none

/-- The exponent that a number word ends in; zero if there is none. -/
def exponentEnd? : List Char → Option Int
  | [] => some 0
  | c :: rest =>
    if c = 'e' ∨ c = 'E' then
      let (negative, rest) := spanSign rest
      match spanDigits rest with
      | ([], _) => none
      | (digits, []) => some (if negative then -(ofDigits digits : Int) else ofDigits digits)
      | _ => none
    else none

/-- The binary64 number that a word with a point, an exponent or too many digits is. -/
def binary64? (word : List Char) : Option Binary64 :=
  let (negative, rest) := spanSign word
  let (whole, rest) := spanDigits rest
  let (fraction, rest) := match rest with
    | '.' :: rest => spanDigits rest
    | rest => ([], rest)
  if whole.isEmpty && fraction.isEmpty then none
  else (exponentEnd? rest).map fun e =>
    Binary64.ofDecimal negative (ofDigits (whole ++ fraction)) (e - fraction.length)

end ReviewDiagnostics.Text
