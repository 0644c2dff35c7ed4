import ReviewDiagnostics.Text.Blank
import ReviewDiagnostics.Text.DecimalDigit
import ReviewDiagnostics.Text.LowerCase
import ReviewDiagnostics.Text.Word

/-!
# Character sets

What a pattern asks of one character: a set of code points, ranges of them and named classes, or the
complement of such a set.  A set may disregard case.  Then a character counts as the lower case of it,
and it is in the set if that is the lower case of a member, or shares its upper case with one.
-/

namespace ReviewDiagnostics

/-- The letters that classes and case are about. -/
inductive Alphabet where
  | ascii
  | unicode
  deriving DecidableEq

/-- A named class of characters. -/
inductive CharClass where
  | digit
  | blank
  | word
  deriving DecidableEq

/-- A member of a character set. -/
inductive SetItem where
  | single (code : Nat)
  | range (low high : Nat)
  | named (negated : Bool) (name : CharClass) (alphabet : Alphabet)
  deriving DecidableEq

/-- A set of characters; with a folding it disregards case. -/
structure CharSet where
  negated : Bool
  items : List SetItem
  folding : Option Alphabet
  deriving DecidableEq

namespace Alphabet

def lower : Alphabet → Nat → Nat
  | .ascii => Text.lowerAsciiCode
  | .unicode => Text.lowerCode

/-- The lower-case letters that are the same as a lower-case letter without regard to case. -/
def sharers : Alphabet → Nat → List Nat
  | .ascii, n => [n]
  | .unicode, n => Text.sharers n

/-- The letters with this lower case that are not lower-case themselves. -/
def capitals : Alphabet → Nat → List Nat
  | .ascii, n => if 0x61 ≤ n && n ≤ 0x7a then [n - 32] else []
  | .unicode, n => Text.capitals n

end Alphabet

namespace CharClass

/-- Membership of a named class. -/
def has (name : CharClass) : Alphabet → Char → Bool
  | .unicode, c =>
    match name with
    | .digit => Text.isDecimalDigit c
    | .blank => Text.isBlank c
    | .word => Text.isWord c
  | .ascii, c =>
    match name with
    | .digit => Text.isAsciiDigit c
    | .blank => c == ' ' || (0x09 ≤ c.toNat && c.toNat ≤ 0x0d)
    | .word => c.isAlphanum || c == '_'

end CharClass

namespace SetItem

/-- Membership of one member of a set. -/
def has (item : SetItem) (c : Char) : Bool :=
  match item with
  | .single code => c.toNat == code
  | .range low high => low ≤ c.toNat && c.toNat ≤ high
  | .named negated name alphabet => name.has alphabet c != negated

/-- The last code point of the basic plane. -/
def lastBasic : Nat := 0xffff

/-- Membership without regard to case of a character that is in lower case already.  Beyond the basic
plane a single code point stands for itself alone, and a range for what it has or what has its upper
case there. -/
def hasFolded (item : SetItem) (alphabet : Alphabet) (c : Char) : Bool :=
  match item with
  | .single code =>
    if lastBasic < code then c.toNat == code
    else (alphabet.sharers c.toNat).contains (alphabet.lower code)
  | .range low high =>
    let within n := low ≤ n && n ≤ high
    (alphabet.sharers c.toNat).any (fun n =>
      (n :: alphabet.capitals n).any fun m => within m && m ≤ lastBasic) ||
    (lastBasic < high && (within c.toNat || within (Text.upperCode c.toNat)))
  | .named negated name a => name.has a c != negated

end SetItem

namespace CharSet

/-- Membership of a set.  Where case is disregarded, a single code point that is all of a set stands for
its lower case in every plane. -/
def has (s : CharSet) (c : Char) : Bool :=
  let found := match s.folding with
    | none => s.items.any (·.has c)
    | some alphabet =>
      let lowered := Char.ofNat (alphabet.lower c.toNat)
      match s.items with
      | [.single code] => (SetItem.single (alphabet.lower code)).hasFolded alphabet lowered
      | items => items.any (·.hasFolded alphabet lowered)
  found != s.negated

/-- The set of one code point, or of all others. -/
def single (negated : Bool) (code : Nat) (folding : Option Alphabet) : CharSet :=
  ⟨negated, [.single code], folding⟩

end CharSet

end ReviewDiagnostics
