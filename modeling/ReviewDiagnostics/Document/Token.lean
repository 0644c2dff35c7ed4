import ReviewDiagnostics.Document.Basic
import ReviewDiagnostics.Text.DecimalDigit

/-!
# Tokens of written documents

A text is cut into tokens before it is read as a document.  Only four characters count as white
space between tokens.  A token may be broken (an unterminated text, a stray letter); no token
follows a broken one, because reading stops there at the latest.
-/

namespace ReviewDiagnostics

/-- What can be wrong at a position of a text. -/
inductive ReadCause where
  | valueExpected
  | extraData
  | nameExpected
  | colonExpected
  | commaExpected
  | unterminatedText
  | controlCharacter
  | badEscape
  | badUnicodeEscape
  | byteOrderMark
  deriving DecidableEq

/-- Why a text is not a document. -/
inductive ReadFault where
  /-- Something is wrong at a position, counted in characters from zero. -/
  | at (cause : ReadCause) (position : Nat)
  /-- The text has a constant for a number that is not finite. -/
  | constant (name : String)
  /-- A whole number has more digits than are read. -/
  | tooManyDigits (count : Nat)
  /-- Lists and objects are nested more deeply than are read. -/
  | tooDeep
  deriving DecidableEq

/-- A unit of a written document. -/
inductive Lexeme where
  | openList
  | closeList
  | openObject
  | closeObject
  | comma
  | colon
  | text (s : String)
  | scalar (d : Document)
  | brokenText (fault : ReadFault)
  /-- No token at all, or a number that cannot be read. -/
  | broken (fault : ReadFault)

/-- A unit and the position of its first character. -/
structure Token where
  start : Nat
  lexeme : Lexeme

namespace Lexeme

def isBroken : Lexeme → Bool
  | .brokenText _ | .broken _ => true
  | _ => false

/-- White space between tokens. -/
def isSpace (c : Char) : Bool :=
  c = ' ' || c = '\t' || c = '\n' || c = '\r'

def hexValue? (c : Char) : Option Nat :=
  if Text.isAsciiDigit c then some (c.toNat - '0'.toNat)
  else if 'a'.toNat ≤ c.toNat && c.toNat ≤ 'f'.toNat then some (c.toNat - 'a'.toNat + 10)
  else if 'A'.toNat ≤ c.toNat && c.toNat ≤ 'F'.toNat then some (c.toNat - 'A'.toNat + 10)
  else none

def hexQuad? (a b c d : Char) : Option Nat := do
  return (((← hexValue? a) * 16 + (← hexValue? b)) * 16 + (← hexValue? c)) * 16 + (← hexValue? d)

/-- The character that a single-letter escape stands for. -/
def unescape? (c : Char) : Option Char :=
  match c with
  | '"' => some '"'
  | '\\' => some '\\'
  | '/' => some '/'
  | 'b' => some '\x08'
  | 'f' => some '\x0c'
  | 'n' => some '\n'
  | 'r' => some '\r'
  | 't' => some '\t'
  | _ => none

/-- Code points from code units: a high surrogate and the low one after it make one character. -/
def joinUnits : List Nat → List Char
  | [] => []
  | [u] => [Char.ofNat u]
  | u :: v :: rest =>
    if 0xd800 ≤ u ∧ u < 0xdc00 ∧ 0xdc00 ≤ v ∧ v < 0xe000 then
      Char.ofNat (0x10000 + (u - 0xd800) * 0x400 + (v - 0xdc00)) :: joinUnits rest
    else Char.ofNat u :: joinUnits (v :: rest)

/-- The code units of a text whose opening quote stands at `opening`, read from `position` on, and
the number of characters up to and with the closing quote.  An escape by number needs a character
after its four digits. -/
def scanText (opening : Nat) : Nat → List Char → Except ReadFault (List Nat × Nat)
  | _, [] => .error (.at .unterminatedText opening)
  | _, '"' :: _ => .ok ([], 1)
  | _, ['\\'] => .error (.at .unterminatedText opening)
  | position, '\\' :: 'u' :: a :: b :: c :: d :: e :: rest =>
    match hexQuad? a b c d with
    | none => .error (.at .badUnicodeEscape (position + 1))
    | some u => do
      let (units, count) ← scanText opening (position + 6) (e :: rest)
      return (u :: units, count + 6)
  | position, '\\' :: 'u' :: _ => .error (.at .badUnicodeEscape (position + 1))
  | position, '\\' :: c :: rest =>
    match unescape? c with
    | none => .error (.at .badEscape position)
    | some e => do
      let (units, count) ← scanText opening (position + 2) rest
      return (e.toNat :: units, count + 2)
  | position, c :: rest =>
    if c.toNat < 0x20 then .error (.at .controlCharacter position)
    else do
      let (units, count) ← scanText opening (position + 1) rest
      return (c.toNat :: units, count + 1)

/-- The digits of an exponent and its sign, if a text continues with an exponent; and its length. -/
def scanExponent : List Char → Option (Int × Nat)
  | c :: rest =>
    if c = 'e' ∨ c = 'E' then
      let (negative, sign, digits) := match rest with
        | '-' :: r => (true, 1, r.takeWhile Text.isAsciiDigit)
        | '+' :: r => (false, 1, r.takeWhile Text.isAsciiDigit)
        | r => (false, 0, r.takeWhile Text.isAsciiDigit)
      if digits.isEmpty then none
      else
        let n : Nat := Nat.ofDigitChars 10 digits 0
        some (if negative then -n else n, 1 + sign + digits.length)
    else none
  | [] => none

/-- The digits of a fraction, if a text continues with one. -/
def scanFraction : List Char → List Char
  | '.' :: rest => rest.takeWhile Text.isAsciiDigit
  | _ => []

/-- The number at the start of an unsigned text with a digit in front, and its length.  A fraction
or an exponent makes it a binary64 number. -/
def scanNumber (negative : Bool) (cs : List Char) : Lexeme × Nat :=
  let whole := if cs.head? = some '0' then ['0'] else cs.takeWhile Text.isAsciiDigit
  let afterWhole := cs.drop whole.length
  let fraction := scanFraction afterWhole
  let fractionLength := if fraction.isEmpty then 0 else fraction.length + 1
  let exponent? := scanExponent (afterWhole.drop fractionLength)
  if fraction.isEmpty && exponent?.isNone then
    if Text.maxDigits < whole.length then (.broken (.tooManyDigits whole.length), whole.length)
    else
      let n : Nat := Nat.ofDigitChars 10 whole 0
      (.scalar (.int (if negative then -n else n)), whole.length)
  else
    let (e, exponentLength) := exponent?.getD (0, 0)
    let c := Nat.ofDigitChars 10 (whole ++ fraction) 0
    (.scalar (.float (Binary64.ofDecimal negative c (e - fraction.length))),
      whole.length + fractionLength + exponentLength)

/-- The unit that starts with a character, and its length. -/
def scan (position : Nat) (c : Char) (cs : List Char) : Lexeme × Nat :=
  let word (rest : String) (lexeme : Lexeme) : Lexeme × Nat :=
    if rest.toList.isPrefixOf cs then (lexeme, rest.length + 1)
    else (.broken (.at .valueExpected position), 1)
  match c with
  | '[' => (.openList, 1)
  | ']' => (.closeList, 1)
  | '\x7b' => (.openObject, 1)
  | '\x7d' => (.closeObject, 1)
  | ',' => (.comma, 1)
  | ':' => (.colon, 1)
  | 'n' => word "ull" (.scalar .null)
  | 't' => word "rue" (.scalar (.bool true))
  | 'f' => word "alse" (.scalar (.bool false))
  | 'N' => word "aN" (.broken (.constant "NaN"))
  | 'I' => word "nfinity" (.broken (.constant "Infinity"))
  | '"' =>
    match scanText position (position + 1) cs with
    | .ok (units, count) => (.text (String.ofList (joinUnits units)), count + 1)
    | .error fault => (.brokenText fault, 1)
  | '-' =>
    match cs with
    | d :: _ =>
      if Text.isAsciiDigit d then
        let (lexeme, count) := scanNumber true cs
        (lexeme, count + 1)
      else word "Infinity" (.broken (.constant "-Infinity"))
    | [] => (.broken (.at .valueExpected position), 1)
  | c =>
    if Text.isAsciiDigit c then scanNumber false (c :: cs)
    else (.broken (.at .valueExpected position), 1)

end Lexeme

/-- The tokens of a text that starts at a position. -/
def Token.cut (position : Nat) : List Char → List Token
  | [] => []
  | c :: cs =>
    if Lexeme.isSpace c then Token.cut (position + 1) cs
    else
      let (lexeme, count) := Lexeme.scan position c cs
      if lexeme.isBroken then [⟨position, lexeme⟩]
      else ⟨position, lexeme⟩ :: Token.cut (position + count) (cs.drop (count - 1))
termination_by cs => cs.length
decreasing_by
  · simp
  · simp only [List.length_drop, List.length_cons]
    omega

end ReviewDiagnostics
