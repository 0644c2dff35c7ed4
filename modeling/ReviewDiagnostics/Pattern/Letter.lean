import ReviewDiagnostics.Pattern.CharSet
import ReviewDiagnostics.Text.CharacterName

/-!
# Letters of written patterns

A written pattern is cut into letters: a character by itself or after a backslash.  This module reads
what stands for a single character in one: escapes, and sets in brackets.
-/

namespace ReviewDiagnostics

/-- Why a text is no pattern. -/
inductive PatternFault where
  | malformed
  /-- A repetition has more rounds than can be counted. -/
  | tooManyRounds
  /-- A number of rounds has too many digits to be read. -/
  | tooManyDigits (count : Nat)
  /-- The pattern is declared both for ASCII letters alone and for all letters. -/
  | mixedAlphabets
  deriving DecidableEq

namespace Pattern

/-- A character of a written pattern. -/
inductive Letter where
  | bare (c : Char)
  /-- After a backslash. -/
  | escaped (c : Char)
  | lone
  deriving DecidableEq

def letters : List Char → List Letter
  | [] => []
  | ['\\'] => [.lone]
  | '\\' :: c :: cs => .escaped c :: letters cs
  | c :: cs => .bare c :: letters cs

/-- At most `n` leading bare letters of a class, and what follows them. -/
def span (holds : Char → Bool) : (n : Nat) → List Letter → List Char × List Letter
  | n + 1, .bare c :: rest =>
    if holds c then
      let (cs, after) := span holds n rest
      (c :: cs, after)
    else ([], .bare c :: rest)
  | _, rest => ([], rest)

/-- The characters up to a bare closing mark, and what follows it.  There has to be at least one, and
none after a backslash. -/
def upTo (mark : Char) : List Letter → Except PatternFault (List Char × List Letter)
  | .bare c :: .bare d :: rest =>
    if c = mark then .error .malformed
    else if d = mark then .ok ([c], rest)
    else do
      let (cs, after) ← upTo mark (.bare d :: rest)
      return (c :: cs, after)
  | _ => .error .malformed

def isOctal (c : Char) : Bool := '0' ≤ c && c ≤ '7'

def isHex (c : Char) : Bool := Text.isAsciiDigit c || ('a' ≤ c && c ≤ 'f') || ('A' ≤ c && c ≤ 'F')

/-- The value of a digit in bases up to sixteen. -/
def hexValue (c : Char) : Nat :=
  if Text.isAsciiDigit c then c.toNat - '0'.toNat else c.toNat % 32 + 9

def ofDigits (base : Nat) (cs : List Char) : Nat :=
  cs.foldl (fun n c => n * base + hexValue c) 0

/-- What a letter of a set, or an escape, stands for: a code point or a class of characters. -/
abbrev Member := Nat ⊕ (Bool × CharClass)

/-- A class of characters by its letter; a capital negates it. -/
def classOf? : Char → Option (Bool × CharClass)
  | 'd' => some (false, .digit)
  | 'D' => some (true, .digit)
  | 's' => some (false, .blank)
  | 'S' => some (true, .blank)
  | 'w' => some (false, .word)
  | 'W' => some (true, .word)
  | _ => none

def control? : Char → Option Nat
  | 'a' => some 0x07
  | 'f' => some 0x0c
  | 'n' => some 0x0a
  | 'r' => some 0x0d
  | 't' => some 0x09
  | 'v' => some 0x0b
  | _ => none

/-- A code point by exactly `count` hexadecimal digits. -/
def byHex (count : Nat) (rest : List Letter) : Except PatternFault (Nat × List Letter) :=
  let (digits, after) := span isHex count rest
  let code := ofDigits 16 digits
  if digits.length = count ∧ code ≤ 0x10ffff then .ok (code, after) else .error .malformed

/-- A code point by its octal digits, of which `first` are read already.  It is at most 255. -/
def byOctal (first : List Char) (more : Nat) (rest : List Letter) :
    Except PatternFault (Nat × List Letter) :=
  let (digits, after) := span isOctal more rest
  let code := ofDigits 8 (first ++ digits)
  if code ≤ 0xff then .ok (code, after) else .error .malformed

/-- A code point by the name of its character in braces. -/
def byName : List Letter → Except PatternFault (Nat × List Letter)
  | .bare '\x7b' :: rest => do
    let (name, after) ← upTo '\x7d' rest
    match Text.namedCode? (String.ofList name) with
    | some code => return (code, after)
    | none => throw .malformed
  | _ => .error .malformed

/-- What an escaped character stands for that means the same inside and outside of sets, and what
follows it. -/
def escape (c : Char) (rest : List Letter) : Except PatternFault (Member × List Letter) :=
  match control? c, classOf? c with
  | some code, _ => .ok (.inl code, rest)
  | none, some named => .ok (.inr named, rest)
  | none, none =>
    match c with
    | 'N' => (byName rest).map fun (code, after) => (.inl code, after)
    | 'x' => (byHex 2 rest).map fun (code, after) => (.inl code, after)
    | 'u' => (byHex 4 rest).map fun (code, after) => (.inl code, after)
    | 'U' => (byHex 8 rest).map fun (code, after) => (.inl code, after)
    | c => if c.isAlphanum then .error .malformed else .ok (.inl c.toNat, rest)

/-- What the next letter of a set stands for, and what follows it. -/
def member : List Letter → Except PatternFault (Member × List Letter)
  | .bare c :: rest => .ok (.inl c.toNat, rest)
  | .escaped 'b' :: rest => .ok (.inl 0x08, rest)
  | .escaped c :: rest =>
    if isOctal c then (byOctal [c] 2 rest).map fun (code, after) => (.inl code, after)
    else escape c rest
  | _ => .error .malformed

/-- The item of a set that a member is by itself. -/
def Member.item (alphabet : Alphabet) : Member → SetItem
  | .inl code => .single code
  | .inr (negated, name) => .named negated name alphabet

/-- The items of a set up to its closing bracket, and what follows it.  A closing bracket in front is a
member, and a hyphen before the closing bracket is one.  The fuel bounds the members. -/
def setItems (alphabet : Alphabet) : (fuel : Nat) → (front : Bool) → List Letter →
    Except PatternFault (List SetItem × List Letter)
  | 0, _, _ => .error .malformed
  | fuel + 1, front, letters =>
    match front, letters with
    | false, .bare ']' :: rest => .ok ([], rest)
    | _, letters => do
      let (low, rest) ← member letters
      match rest with
      | .bare '-' :: .bare ']' :: after => return ([low.item alphabet, .single '-'.toNat], after)
      | .bare '-' :: rest =>
        let (high, rest) ← member rest
        match low, high with
        | .inl l, .inl h =>
          if h < l then throw .malformed
          let (items, after) ← setItems alphabet fuel false rest
          return (.range l h :: items, after)
        | _, _ => throw .malformed
      | rest =>
        let (items, after) ← setItems alphabet fuel false rest
        return (low.item alphabet :: items, after)

/-- A set after its opening bracket, and what follows it. -/
def bracketSet (alphabet : Alphabet) (folding : Option Alphabet) (letters : List Letter) :
    Except PatternFault (CharSet × List Letter) := do
  let (negated, letters) := match letters with
    | .bare '^' :: rest => (true, rest)
    | _ => (false, letters)
  let (items, after) ← setItems alphabet letters.length true letters
  match items.eraseDups with
  | [.single code] => return (.single negated code folding, after)
  | items => return (⟨negated, items, folding⟩, after)

end Pattern

end ReviewDiagnostics
