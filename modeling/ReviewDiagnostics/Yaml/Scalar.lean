import ReviewDiagnostics.Fault
import ReviewDiagnostics.Number.Arithmetic
import ReviewDiagnostics.Number.Word
import ReviewDiagnostics.Text.Blank
import ReviewDiagnostics.Text.LowerCase
import ReviewDiagnostics.Yaml.Form
import ReviewDiagnostics.Yaml.Value

/-!
# Values of scalars

The value of a scalar depends on its tag.  A tag that was written may not fit the text that it stands
before, so that every reading here can fail.
-/

namespace ReviewDiagnostics

/-- Why a YAML text has no value. -/
inductive YamlFault where
  | malformed
  /-- The text is well formed, but a part of it makes no sense. -/
  | senseless (fault : Fault)

namespace Yaml

/-- The value of a digit in bases up to sixteen. -/
def digit? (base : Nat) (c : Char) : Option Nat :=
  let value? :=
    if 'a' ≤ c ∧ c ≤ 'f' then some (c.toNat - 'a'.toNat + 10)
    else if 'A' ≤ c ∧ c ≤ 'F' then some (c.toNat - 'A'.toNat + 10)
    else Text.digitValue? c
  value?.filter (· < base)

def ofDigits (base : Nat) (ds : List Nat) : Nat :=
  ds.foldl (fun n d => n * base + d) 0

def leadingDigits (base : Nat) : List Char → List Nat
  | [] => []
  | c :: cs =>
    match digit? base c with
    | some d => d :: leadingDigits base cs
    | none => []

/-- A word without the mark of its base. -/
def dropMark (base : Nat) : List Char → List Char
  | '0' :: c :: cs =>
    let marks := if base = 2 then ['b', 'B'] else if base = 8 then ['o', 'O']
      else if base = 16 then ['x', 'X'] else []
    if marks.contains c then cs else '0' :: c :: cs
  | cs => cs

/-- The whole number that a word is in a base. -/
def wholeNumber (base : Nat) (word : List Char) : Except YamlFault Int :=
  let (negative, cs) := Text.spanSign (Text.trim word)
  let cs := dropMark base cs
  let ds := leadingDigits base cs
  if base = 10 ∧ Text.maxDigits < ds.length then .error (.senseless (.tooManyDigits ds.length))
  else if ds.isEmpty ∨ ds.length < cs.length then
    .error (.senseless (.notWhole base (String.ofList word)))
  else .ok (if negative then -(ofDigits base ds : Int) else ofDigits base ds)

/-- The binary64 number that a word in lower case is. -/
def realNumber (word : List Char) : Except YamlFault Binary64 :=
  let trimmed := Text.trim word
  let (negative, cs) := Text.spanSign trimmed
  if cs = "inf".toList ∨ cs = "infinity".toList then .ok (.infinite negative)
  else if cs = "nan".toList then .ok .nan
  else match Text.binary64? trimmed with
    | some x => .ok x
    | none => .error (.senseless (.notReal (String.ofList word)))

def colonPieces : List Char → List (List Char)
  | [] => [[]]
  | c :: cs =>
    if c = ':' then [] :: colonPieces cs
    else match colonPieces cs with
      | [] => [[c]]
      | p :: ps => (c :: p) :: ps

/-- A word in which underscores do not count, as whether it begins with a minus, and what follows its
sign; there has to be something in it. -/
def signed (word : List Char) : Except YamlFault (Bool × List Char) :=
  match word.filter (· ≠ '_') with
  | [] => .error (.senseless .noDigits)
  | cs => .ok (Text.spanSign cs)

def readWhole (s : String) : Except YamlFault Int := do
  let (negative, cs) ← signed s.toList
  let n ←
    match cs with
    | [] => throw (.senseless .noDigits)
    | ['0'] => pure 0
    | '0' :: 'b' :: rest => wholeNumber 2 rest
    | '0' :: 'x' :: rest => wholeNumber 16 rest
    | '0' :: _ => wholeNumber 8 cs
    | _ =>
      if cs.contains ':' then do
        let parts ← (colonPieces cs).mapM (wholeNumber 10)
        pure (parts.foldl (fun n part => n * 60 + part) 0)
      else wholeNumber 10 cs
  return if negative then -n else n

/-- The number that parts of sixty denote, the last part first; each step is rounded. -/
def ofSixtieths : (unit : Nat) → (soFar : Binary64) → List Binary64 → Except YamlFault Binary64
  | _, soFar, [] => .ok soFar
  | unit, soFar, part :: parts =>
    match Binary64.ofFraction false unit 1 with
    | .infinite _ => .error (.senseless .tooLarge)
    | _ => ofSixtieths (unit * 60) (soFar.plus (part.times unit)) parts

def readReal (s : String) : Except YamlFault Value := do
  let (negative, cs) ← signed (Text.lower s).toList
  if cs = ".nan".toList then return .notNumber
  let x ←
    if cs = ".inf".toList then pure (.infinite false)
    else if cs.contains ':' then do
      let parts ← (colonPieces cs).mapM realNumber
      ofSixtieths 1 (.ofDecimal false 0 0) parts.reverse
    else realNumber cs
  return .float (if negative then x.opposite else x)

def readTruth (s : String) : Except YamlFault Bool :=
  let word := Text.lower s
  if ["yes", "true", "on"].contains word then .ok true
  else if ["no", "false", "off"].contains word then .ok false
  else .error (.senseless .notTruth)

def digit64? (c : Char) : Option Nat :=
  if 'A' ≤ c ∧ c ≤ 'Z' then some (c.toNat - 'A'.toNat)
  else if 'a' ≤ c ∧ c ≤ 'z' then some (c.toNat - 'a'.toNat + 26)
  else if '0' ≤ c ∧ c ≤ '9' then some (c.toNat - '0'.toNat + 52)
  else if c = '+' then some 62
  else if c = '/' then some 63
  else none

/-- The bytes that digits in base sixty-four denote, given how many digits of a group of four have been
read, the bits of the last of them that are still open, and the number of equals signs since.  Signs
that are no digits do not count.  A group that is not full has to be filled up with equals signs, and
then nothing after it counts. -/
def bytes64 : (place openBits pads : Nat) → List Char → Except YamlFault (List UInt8)
  | place, _, _, [] => if place = 0 then .ok [] else .error .malformed
  | place, openBits, pads, c :: cs =>
    if c = '=' then
      if 2 ≤ place ∧ 4 ≤ place + pads + 1 then .ok []
      else bytes64 place openBits (pads + 1) cs
    else match digit64? c with
      | none => bytes64 place openBits pads cs
      | some d =>
        match place with
        | 0 => bytes64 1 d 0 cs
        | 1 => (bytes64 2 (d % 16) 0 cs).map (UInt8.ofNat (openBits * 4 + d / 16) :: ·)
        | 2 => (bytes64 3 (d % 4) 0 cs).map (UInt8.ofNat (openBits * 16 + d / 4) :: ·)
        | _ => (bytes64 0 0 0 cs).map (UInt8.ofNat (openBits * 64 + d) :: ·)

def readBytes (s : String) : Except YamlFault (List UInt8) :=
  if s.toList.all fun c => c.toNat < 0x80 then bytes64 0 0 0 s.toList else .error .malformed

/-- A number of at least `low` and at most `high` digits at the start of a word, and what follows. -/
def spanNumber? (low high : Nat) (cs : List Char) : Option (Nat × List Char) :=
  let ds := (cs.take high).takeWhile Text.isAsciiDigit
  if ds.length < low then none
  else some (ofDigits 10 (ds.map fun c => c.toNat - '0'.toNat), cs.drop ds.length)

def spanAfter? (sign : Char) (low high : Nat) : List Char → Option (Nat × List Char)
  | c :: cs => if c = sign then spanNumber? low high cs else none
  | [] => none

/-- Whether nothing follows; a line break at the very end does not count. -/
def atLast (cs : List Char) : Bool := cs.isEmpty || cs == ['\n']

/-- The microseconds after the point of a second, and what follows. -/
def spanFraction : List Char → Nat × List Char
  | '.' :: cs =>
    let ds := cs.takeWhile Text.isAsciiDigit
    let six := (ds ++ List.replicate 6 '0').take 6
    (ofDigits 10 (six.map fun c => c.toNat - '0'.toNat), cs.drop ds.length)
  | cs => (0, cs)

/-- How far a clock is ahead, as it is said at the end of a moment: a letter for not at all, or a sign,
hours and minutes.  The outer option says whether the form is right. -/
def readAhead? (cs : List Char) : Option (Option Int) :=
  if atLast cs then some none
  else match cs.dropWhile fun c => c = ' ' ∨ c = '\t' with
    | 'Z' :: rest => if atLast rest then some (some 0) else none
    | sign :: rest =>
      if sign = '+' ∨ sign = '-' then do
        let (hours, rest) ← spanNumber? 1 2 rest
        let (minutes, rest) := (spanAfter? ':' 2 2 rest).getD (0, rest)
        let ahead : Int := hours * 60 + minutes
        if atLast rest then some (some (if sign = '-' then -ahead else ahead)) else none
      else none
    | [] => none

def readMoment? (cs : List Char) : Option Moment := do
  let (year, cs) ← spanNumber? 4 4 cs
  let (month, cs) ← spanAfter? '-' 1 2 cs
  let (day, cs) ← spanAfter? '-' 1 2 cs
  if atLast cs then return ⟨year, month, day, none⟩
  let cs ← match cs with
    | c :: rest =>
      if c = 'T' ∨ c = 't' then some rest
      else if c = ' ' ∨ c = '\t' then some (rest.dropWhile fun c => c = ' ' ∨ c = '\t')
      else none
    | [] => none
  let (hour, cs) ← spanNumber? 1 2 cs
  let (minute, cs) ← spanAfter? ':' 2 2 cs
  let (second, cs) ← spanAfter? ':' 2 2 cs
  let (microsecond, cs) := spanFraction cs
  return ⟨year, month, day, some ⟨hour, minute, second, microsecond, ← readAhead? cs⟩⟩

def readMoment (s : String) : Except YamlFault Moment :=
  match readMoment? s.toList with
  | none => .error (.senseless .noParts)
  | some m =>
    match m.check with
    | .error f => .error (.senseless (.notMoment f))
    | .ok () => .ok m

def Tag.valueOf (tag : Tag) (s : String) : Except YamlFault Value :=
  match tag with
  | .text => .ok (.string s)
  | .whole => (readWhole s).map .int
  | .real => readReal s
  | .truth => (readTruth s).map .bool
  | .nothing => .ok .null
  | .bytes => (readBytes s).map .bytes
  | .moment => (readMoment s).map (.moment · none)
  | _ => .error .malformed

/-- Whether a scalar without quotes is read as the text that it is. -/
def readsAsText (s : String) : Bool :=
  Tag.ofForm s == .text

end Yaml

end ReviewDiagnostics
