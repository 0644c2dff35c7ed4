import ReviewDiagnostics.Number.Decimal
import ReviewDiagnostics.Yaml.Cursor

/-!
# Printing YAML texts

Mappings and sequences are laid out in lines.  A text stands bare where it is read back as the same
text, between single quotes where that suffices, and between double quotes otherwise; long texts are
broken at blanks.  A key that is empty, long, or has a line break in it is marked as a key.

A value that stands in several places is written where it is met first, after an anchor; elsewhere its
name stands for it.  Anchors are numbered in the order in which values are met for the second time.
-/

namespace ReviewDiagnostics.Yaml

/-- The width after which a text is broken at its next blank. -/
def lineWidth : Nat := 80

/-- The characters that a text can be shown with as it is. -/
def isPlainChar (c : Char) : Bool :=
  c == '\n' || (' ' ≤ c && c ≤ '~')

/-- Whether a blank stands beside a line break, with the break first if `after`. -/
def blankBesideBreak (after : Bool) : List Char → Bool
  | a :: b :: cs =>
    (if after then isBreak a && b == ' ' else a == ' ' && isBreak b) || blankBesideBreak after (b :: cs)
  | _ => false

/-- Whether a colon ends a word or a number sign begins one, given the character before. -/
def hasMark (before : Option Char) : List Char → Bool
  | [] => false
  | c :: cs =>
    (c == ':' && cs.head?.all isGap) || (c == '#' && before.any isGap) || hasMark (some c) cs

/-- Whether the first characters of a text mean something else than a text. -/
def startsMarked (cs : List Char) : Bool :=
  "---".toList.isPrefixOf cs || "...".toList.isPrefixOf cs ||
    match cs with
    | [] => false
    | c :: rest =>
      "#,[]\x7b\x7d&*!|>'\"%@`".toList.contains c ||
        (rest.head?.all isGap && (c == '?' || c == ':' || c == '-'))

/-- Whether a text can stand without quotes. -/
def standsBare (s : String) : Bool :=
  let cs := s.toList
  let outer := [cs.head?, cs.getLast?].any fun c => c.any fun c => c == ' ' || isBreak c
  cs.all (fun c => isPlainChar c && !isBreak c) && !outer && !startsMarked cs && !hasMark none cs &&
    readsAsText s

/-- Whether a text can stand between single quotes. -/
def standsQuoted (cs : List Char) : Bool :=
  cs.all isPlainChar && !blankBesideBreak true cs && !blankBesideBreak false cs

/-- The origins of the values that have been met, and those of them that have been met again, latest
first. -/
structure Meetings where
  once : List Nat
  again : List Nat

namespace Meetings

/-- Meets a value of an origin.  Its parts are met the first time only. -/
def meet (m : Meetings) (origin? : Option Nat) (parts : Meetings → Meetings) : Meetings :=
  match origin? with
  | none => parts m
  | some n =>
    if !m.once.contains n then parts { m with once := n :: m.once }
    else if m.again.contains n then m
    else { m with again := n :: m.again }

mutual

def ofValue : Value → Meetings → Meetings
  | .list items origin?, m => m.meet origin? (ofValues items)
  | .row items, m => ofValues items m
  | .set items origin?, m => m.meet origin? (ofValues items)
  | .mapping pairs origin?, m => m.meet origin? (ofPairs pairs)
  | .moment _ origin?, m => m.meet origin? id
  | .again origin _, m => m.meet (some origin) id
  | _, m => m

def ofValues : List Value → Meetings → Meetings
  | [], m => m
  | x :: xs, m => ofValues xs (ofValue x m)

def ofPairs : List (Value × Value) → Meetings → Meetings
  | [], m => m
  | (k, x) :: rest, m => ofPairs rest (ofValue x (ofValue k m))

end

/-- The names of the values that stand in several places: numbers of three digits or more. -/
def names (m : Meetings) : List (Nat × List Char) :=
  m.again.reverse.zipIdx.map fun (origin, i) =>
    let digits := (toString (i + 1)).toList
    (origin, "id".toList ++ List.replicate (3 - digits.length) '0' ++ digits)

end Meetings

/-- What has been printed, last character first, and the column that it ends in. -/
structure Line where
  done : List Char
  column : Nat
  /-- It ends in a blank, or is at the start of a line. -/
  spaced : Bool
  /-- Nothing stands on the line but signs that more may follow on the same line. -/
  fresh : Bool
  /-- The names of the values that stand in several places, by their origins. -/
  names : List (Nat × List Char)
  /-- The origins of those of them that have been printed. -/
  anchored : List Nat

namespace Line

def start (names : List (Nat × List Char)) : Line := ⟨[], 0, true, true, names, []⟩

def add (l : Line) (cs : List Char) : Line :=
  { l with
    done := cs.reverse ++ l.done, column := l.column + cs.length, spaced := false, fresh := false }

def newLine (l : Line) (indent : Nat) : Line :=
  { l with
    done := List.replicate indent ' ' ++ '\n' :: l.done, column := indent, spaced := true, fresh := true }

/-- The line up to an indentation; a new one if something stands there already. -/
def toIndent (l : Line) (indent : Nat) : Line :=
  if !l.fresh || indent < l.column || (l.column == indent && !l.spaced) then l.newLine indent
  else if l.column < indent then
    { l with
      done := List.replicate (indent - l.column) ' ' ++ l.done, column := indent, spaced := true }
  else l

def space (l : Line) : Line :=
  if l.spaced then l else { l.add [' '] with spaced := true }

/-- The line with a word on it, set off by a blank. -/
def word (l : Line) (cs : List Char) : Line := l.space.add cs

/-- The line with the sign of an item, a key or a value on it, which more may follow after. -/
def sign (l : Line) (c : Char) : Line := { l.word [c] with fresh := l.fresh }

/-- The line with a value of an origin on it: its name if it has been printed before. -/
def value (l : Line) (origin? : Option Nat) (write : Line → Line) : Line :=
  match origin? with
  | none => write l
  | some n =>
    match l.names.lookup n with
    | none => write l
    | some name =>
      if l.anchored.contains n then l.word ('*' :: name)
      else write { l.word ('&' :: name) with anchored := n :: l.anchored }

end Line

/-- The parts of a text: runs of blanks, runs of line breaks, and what is between them. -/
def parts (cs : List Char) : List (List Char) :=
  cs.splitBy fun a b => (a == ' ') == (b == ' ') && isBreak a == isBreak b

/-- Prints the parts of a text.  A single blank after the width is left out in favour of a new line,
where `mayBreak` allows that; at either end of a quoted text it does not. -/
def writeParts (indent : Nat) (mayBreak bare : Bool) (first : Bool) : List (List Char) → Line → Line
  | [], l => l
  | part :: rest, l =>
    let l :=
      match part with
      | [' '] =>
        if mayBreak && lineWidth < l.column && (bare || (!first && !rest.isEmpty)) then
          l.newLine indent
        else l.add part
      | c :: _ =>
        if isBreak c then
          let breaks := (if c = '\n' then ['\n'] else []) ++ part
          { l with
            done := List.replicate indent ' ' ++ breaks.reverse ++ l.done
            column := indent
            spaced := false
            fresh := false }
        else l.add (if bare then part else part.flatMap fun c => if c = '\'' then ['\'', '\''] else [c])
      | [] => l
    writeParts indent mayBreak bare false rest l

def escapeLetters : List (Char × Char) :=
  [('\x00', '0'), ('\x07', 'a'), ('\x08', 'b'), ('\t', 't'), ('\n', 'n'), ('\x0b', 'v'), ('\x0c', 'f'),
    ('\r', 'r'), ('\x1b', 'e'), ('"', '"'), ('\\', '\\'), ('\x85', 'N'), ('\xa0', '_'), ('\u2028', 'L'),
    ('\u2029', 'P')]

def escapeText (c : Char) : List Char :=
  match escapeLetters.lookup c with
  | some letter => ['\\', letter]
  | none =>
    let digits (width : Nat) := (Text.hex width c.toNat).map Char.toUpper
    if c.toNat < 0x100 then '\\' :: 'x' :: digits 2
    else if c.toNat < 0x10000 then '\\' :: 'u' :: digits 4
    else '\\' :: 'U' :: digits 8

/-- Whether a character is escaped between double quotes. -/
def isEscaped (c : Char) : Bool :=
  c == '"' || c == '\\' || !(' ' ≤ c && c ≤ '~')

/-- Prints a text between double quotes, given the characters that are not written yet although they
have been gone over, how many characters have been gone over, and the length of the text.  After the
width the line is broken before a blank or beside an escape, with a backslash at its end; a blank at the
start of the next line has a backslash before it. -/
def writeEscaped (indent : Nat) (mayBreak : Bool) (length : Nat) :
    Nat → List Char → List Char → Line → Line
  | _, waiting, [], l => l.add waiting
  | index, waiting, c :: cs, l =>
    let escaped := isEscaped c
    let l := if escaped then (l.add waiting).add (escapeText c) else l
    let waiting := if escaped then [] else waiting
    let width := if escaped then lineWidth + 1 else lineWidth
    if mayBreak && 0 < index && index + 1 < length && (c == ' ' || waiting.isEmpty) &&
        width < l.column + waiting.length then
      let l := ((l.add waiting).add ['\\']).newLine indent
      let l := if (if escaped then cs else c :: cs).head? = some ' ' then l.add ['\\'] else l
      writeEscaped indent mayBreak length (index + 1) (if escaped then [] else [c]) cs l
    else writeEscaped indent mayBreak length (index + 1) (if escaped then [] else waiting ++ [c]) cs l

/-- Prints a text, set off by a blank; `indent` is that of its further lines. -/
def writeText (indent : Nat) (mayBreak : Bool) (s : String) (l : Line) : Line :=
  if standsBare s then writeParts indent mayBreak true true (parts s.toList) l.space
  else if standsQuoted s.toList && (mayBreak || !s.toList.any isBreak) then
    (writeParts indent mayBreak false true (parts s.toList) (l.word ['\''])).add ['\'']
  else (writeEscaped indent mayBreak s.length 0 [] s.toList (l.word ['"'])).add ['"']

def numberText (x : Binary64) : List Char :=
  match x with
  | .nan => ".nan".toList
  | .infinite false => ".inf".toList
  | .infinite true => "-.inf".toList
  | x =>
    let cs := x.text Binary64.messageNames
    if cs.contains '.' then cs
    else cs.takeWhile (· ≠ 'e') ++ (if cs.contains 'e' then ['.', '0'] else []) ++ cs.dropWhile (· ≠ 'e')

def digits64 : Array Char :=
  "ABCDEFGHIJKLMNOPQRSTUVWXYZabcdefghijklmnopqrstuvwxyz0123456789+/".toList.toArray

/-- The four characters of a number of three bytes. -/
def group64 (n : Nat) : List Char :=
  [n / 0x40000, n / 0x1000, n / 0x40, n].map fun m => (digits64[m % 0x40]?).getD 'A'

/-- Bytes in base sixty-four. -/
def text64 : List UInt8 → List Char
  | a :: b :: c :: rest =>
    group64 (a.toNat * 0x10000 + b.toNat * 0x100 + c.toNat) ++ text64 rest
  | [a, b] => (group64 (a.toNat * 0x10000 + b.toNat * 0x100)).take 3 ++ ['=']
  | [a] => (group64 (a.toNat * 0x10000)).take 2 ++ ['=', '=']
  | [] => []

/-- The characters of a text in lines of seventy-six. -/
def linesOf : (fuel : Nat) → List Char → List (List Char)
  | 0, _ => []
  | fuel + 1, cs => if cs.isEmpty then [] else cs.take 76 :: linesOf fuel (cs.drop 76)

/-- Prints bytes in base sixty-four on lines of their own. -/
def writeBytes (indent : Nat) (bs : List UInt8) (l : Line) : Line :=
  let l := l.word "!!binary".toList
  if bs.isEmpty then l.word ['"', '"']
  else
    let lines := (linesOf bs.length (text64 bs)).map fun cs => List.replicate indent ' ' ++ cs ++ ['\n']
    let done := ('\n' :: lines.flatten).reverse ++ (l.word ['|']).done
    { l with done := done, column := 0, spaced := true, fresh := true }

/-- The tag of a row, which is a list of a fixed length.  No reader of plain documents knows it, so
that a text that has it cannot be read back. -/
def rowTag : List Char := "!!python/tuple".toList

/-- Prints a value that is not made up of other ones; `indent` is that of its further lines. -/
def writeScalar (indent : Nat) (mayBreak : Bool) (v : Value) (l : Line) : Line :=
  match v with
  | .null => l.word "null".toList
  | .bool true => l.word "true".toList
  | .bool false => l.word "false".toList
  | .int n => l.word (toString n).toList
  | .float x => l.word (numberText x)
  | .notNumber => l.word (numberText .nan)
  | .string s => writeText indent mayBreak s l
  | .bytes bs => writeBytes indent bs l
  | .moment m origin? =>
    l.value origin? fun l => writeParts indent mayBreak true true (parts m.shown.toList) l.space
  | .list _ origin? => l.value origin? fun l => l.word "[]".toList
  | .row _ => (l.word rowTag).word "[]".toList
  | .set _ origin? => l.value origin? fun l => (l.word "!!set".toList).word ['\x7b', '\x7d']
  | .mapping _ origin? => l.value origin? fun l => l.word ['\x7b', '\x7d']
  | .again origin _ => l.value (some origin) id

/-- The most characters of a key that is not marked as one, with its tag. -/
def maxPlainKey : Nat := 127

/-- Whether a text goes on over a line break. -/
def hasBreak (s : String) : Bool :=
  s.toList.any fun c => isBreak c && c != '\r'

/-- Whether a key need not be marked as one: it is on one line and is short, with its tag. -/
def isPlainKey : Value → Bool
  | .string s => s != "" && !hasBreak s && "!!str".length + s.length ≤ maxPlainKey
  | .int n => "!!int".length + (toString n).length ≤ maxPlainKey
  | .bytes _ => false
  | _ => true

/-- Prints a key and the colon after it. -/
def writeKey (indent : Nat) (k : Value) (l : Line) : Line :=
  let l := l.toIndent indent
  if isPlainKey k then (writeScalar (indent + 2) false k l).add [':']
  else ((writeScalar (indent + 2) true k (l.sign '?')).toIndent indent).sign ':'

/-- Prints a member of a set as a key without a value. -/
def writeMember (indent : Nat) (k : Value) (l : Line) : Line :=
  (writeKey indent k l).word "null".toList

/-- Prints members of a set. -/
def writeMembers (indent : Nat) : List Value → Line → Line
  | [], l => l
  | k :: ks, l => writeMembers indent ks (writeMember indent k l)

mutual

/-- Prints a value; what it is part of is indented by `indent`.  Where it is the value of a pair, the
items of a list need not be indented further, unless they begin on the same line. -/
def writeValue (indent : Nat) (inPair : Bool) : Value → Line → Line
  | .list (x :: xs) origin?, l =>
    l.value origin? fun l =>
      let depth := if inPair && !l.fresh then indent else indent + 2
      writeItems depth xs (writeValue depth false x ((l.toIndent depth).sign '-'))
  | .row (x :: xs), l =>
    let l := l.word rowTag
    let depth := if inPair then indent else indent + 2
    writeItems depth xs (writeValue depth false x ((l.toIndent depth).sign '-'))
  | .set (x :: xs) origin?, l =>
    l.value origin? fun l =>
      let depth := indent + 2
      writeMembers depth xs (writeMember depth x (l.word "!!set".toList))
  | .mapping ((k, x) :: rest) origin?, l =>
    l.value origin? fun l =>
      let depth := indent + 2
      writePairs depth rest (writeValue depth true x (writeKey depth k l))
  | v, l => writeScalar (indent + 2) true v l

/-- Prints items. -/
def writeItems (indent : Nat) : List Value → Line → Line
  | [], l => l
  | x :: xs, l => writeItems indent xs (writeValue indent false x ((l.toIndent indent).sign '-'))

/-- Prints pairs. -/
def writePairs (indent : Nat) : List (Value × Value) → Line → Line
  | [], l => l
  | (k, x) :: rest, l => writePairs indent rest (writeValue indent true x (writeKey indent k l))

end

def print (pairs : List (Value × Value)) : String :=
  if pairs.isEmpty then "\x7b\x7d\n"
  else
    let names := (Meetings.ofPairs pairs ⟨[], []⟩).names
    String.ofList ((writePairs 0 pairs (.start names)).toIndent 0).done.reverse

end ReviewDiagnostics.Yaml
