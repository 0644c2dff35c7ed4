import ReviewDiagnostics.Number.Word
import ReviewDiagnostics.Pattern.Basic
import ReviewDiagnostics.Pattern.Letter
import ReviewDiagnostics.Text.Identifier

/-!
# Reading patterns

The written form of patterns.  Letters are read one construct at a time with a stack of open groups;
numbers of groups are given out in the order in which the groups open.  Flags for the whole pattern
stand in front of everything else, flags for a part of it in a group.
-/

namespace ReviewDiagnostics.Pattern

/-- The flags in effect. -/
structure Mode where
  ignoresCase : Bool
  multiline : Bool
  dotAll : Bool
  /-- Blank characters and comments do not count. -/
  verbose : Bool
  alphabet : Alphabet

def Mode.folding (mode : Mode) : Option Alphabet :=
  if mode.ignoresCase then some mode.alphabet else none

/-- A mode with the flags of these letters added. -/
def Mode.add (mode : Mode) (flags : List Char) : Mode where
  ignoresCase := mode.ignoresCase || flags.contains 'i'
  multiline := mode.multiline || flags.contains 'm'
  dotAll := mode.dotAll || flags.contains 's'
  verbose := mode.verbose || flags.contains 'x'
  alphabet :=
    if flags.contains 'a' then .ascii else if flags.contains 'u' then .unicode else mode.alphabet

/-- A mode with the flags of these letters taken away. -/
def Mode.drop (mode : Mode) (flags : List Char) : Mode where
  ignoresCase := mode.ignoresCase && !flags.contains 'i'
  multiline := mode.multiline && !flags.contains 'm'
  dotAll := mode.dotAll && !flags.contains 's'
  verbose := mode.verbose && !flags.contains 'x'
  alphabet := mode.alphabet

/-- Whether a part of a pattern can be repeated. -/
inductive PartKind where
  | position
  | repeated
  | other
  deriving DecidableEq

/-- A pattern with its extent. -/
structure Piece where
  pattern : Pattern
  extent : Extent
  /-- It is a group with flags of its own, and is not taken apart. -/
  isFlagged : Bool

/-- A part of a sequence: one piece, or the pieces of a group that keeps nothing. -/
structure Part where
  pieces : List Piece
  kind : PartKind

/-- What a group was opened as. -/
inductive Opener where
  | whole
  | plain
  /-- With flags of its own. -/
  | flagged
  | kept (number : Nat)
  | atomic
  /-- A look; one back may not refer to groups from `limit` on while it is open. -/
  | look (back expected : Bool) (limit : Option Nat)
  | given (number : Nat)

/-- An open group: finished alternatives, latest first, and the parts of the one at hand, last first. -/
structure Group where
  opener : Opener
  mode : Mode
  finished : List (List Piece)
  parts : List Part

namespace Piece

/-- Pieces one after the other. -/
def sequence : List Piece → Piece
  | [] => ⟨.empty, .zero, false⟩
  | [p] => p
  | p :: ps =>
    let q := sequence ps
    ⟨.seq p.pattern q.pattern, p.extent.add q.extent, false⟩

/-- Alternatives, the first one first. -/
def choice : List (List Piece) → Piece
  | [] => ⟨.empty, .zero, false⟩
  | [ps] => sequence ps
  | ps :: rest =>
    let p := sequence ps
    let q := choice rest
    ⟨.alt p.pattern q.pattern, p.extent.either q.extent, false⟩

/-- Whether two patterns are the same thing that can only match in one way. -/
def isSame (p q : Piece) : Bool :=
  !p.isFlagged && !q.isFlagged &&
    match p.pattern, q.pattern with
    | .one a, .one b => a == b
    | .anchor a, .anchor b => a == b
    | .again m a, .again n b => m == n && a == b
    | _, _ => false

/-- The pieces that all alternatives start with. -/
def common : List Piece → List (List Piece) → List Piece
  | [], _ => []
  | p :: ps, rest =>
    if rest.all fun qs => qs.head?.any p.isSame then p :: common ps (rest.map List.tail) else []

/-- The set that an alternative of one piece is, unless it is the complement of one. -/
def set? : List Piece → Option CharSet
  | [p] => if p.isFlagged then none else p.pattern.set?.filter (!·.negated)
  | _ => none

/-- Alternatives as a sequence.  What they all start with stands in front of them, and where all that is
left of each is a set, one set takes their place. -/
def alternatives : List (List Piece) → List Piece
  | [] => []
  | [ps] => ps
  | ps :: rest =>
    let start := common ps rest
    let left := (ps :: rest).map (·.drop start.length)
    match left.mapM set? with
    | some sets =>
      let set : CharSet :=
        ⟨false, (sets.flatMap (·.items)).eraseDups, sets.findSome? (·.folding)⟩
      start ++ [⟨.one set, .one, false⟩]
    | none => start ++ [choice left]

end Piece

namespace Group

def opened (opener : Opener) (mode : Mode) : Group := ⟨opener, mode, [], []⟩

def current (g : Group) : List Piece :=
  g.parts.reverse.flatMap (·.pieces)

/-- The pieces that the alternatives of a group come to, with the one at hand. -/
def pieces (g : Group) : List Piece :=
  Piece.alternatives (g.current :: g.finished).reverse

/-- The two branches of a group that hangs on another one; the second one is empty if it is not
there. -/
def branches (g : Group) : Piece × Piece :=
  match g.finished with
  | [] => (Piece.sequence g.current, ⟨.empty, .zero, false⟩)
  | yes :: _ => (Piece.sequence yes, Piece.sequence g.current)

end Group

/-- How far a written pattern has been read. -/
structure State where
  group : Group
  /-- The groups around it, innermost first. -/
  outer : List Group
  /-- The extents of the groups by number, of those that are closed. -/
  extents : Array (Option Extent)
  names : List (String × Nat)
  /-- While a look back is open, the number of the groups before it. -/
  limit : Option Nat
  /-- The numbers of groups that parts hang on. -/
  conditions : List Nat
  declared : List Char
  /-- Something is repeated. -/
  repeats : Bool
  /-- Something looks back over texts of different lengths. -/
  uneven : Bool

namespace State

/-- The flags of a pattern that declares none. -/
def standardMode : Mode := ⟨false, false, false, false, .unicode⟩

/-- Nothing has been read. -/
def start : State := ⟨.opened .whole standardMode, [], #[none], [], none, [], [], false, false⟩

def mode (s : State) : Mode := s.group.mode

/-- A state with one more part in the innermost group. -/
def addPart (s : State) (part : Part) : State :=
  { s with group := { s.group with parts := part :: s.group.parts } }

/-- A state with one more part that can be repeated. -/
def add (s : State) (pattern : Pattern) (extent : Extent) : State :=
  s.addPart ⟨[⟨pattern, extent, false⟩], .other⟩

def addSet (s : State) (set : CharSet) : State := s.add (.one set) .one

def addCode (s : State) (code : Nat) : State := s.addSet (.single false code s.mode.folding)

def addAnchor (s : State) (a : Anchor) : State := s.addPart ⟨[⟨.anchor a, .zero, false⟩], .position⟩

/-- A state with one more group around what follows. -/
def push (s : State) (opener : Opener) (mode : Mode) : State :=
  { s with group := .opened opener mode, outer := s.group :: s.outer }

/-- The extent of a group that may be referred to: it is closed, and an open look back does not hold
it. -/
def referable? (s : State) (number : Nat) : Option Extent :=
  match s.extents[number]?.join with
  | none => none
  | some e => if s.limit.any (· ≤ number) then none else some e

/-- A state with one more reference to a group. -/
def addReference (s : State) (number : Nat) : Except PatternFault State :=
  match s.referable? number with
  | none => .error .malformed
  | some e => .ok (s.add (.again number s.mode.folding) e)

/-- A group with a number of its own is opened. -/
def openKept (s : State) (name? : Option String) : Except PatternFault State :=
  let number := s.extents.size
  let s := { s with extents := s.extents.push none }
  match name? with
  | none => .ok (s.push (.kept number) s.mode)
  | some name =>
    if (s.names.lookup name).isSome then .error .malformed
    else .ok ({ s with names := (name, number) :: s.names }.push (.kept number) s.mode)

def openLook (s : State) (back expected : Bool) : State :=
  let t := s.push (.look back expected s.limit) s.mode
  if back then { t with limit := s.limit.or (some s.extents.size) } else t

/-- A part is opened that hangs on a group, which is named by a number or by an identifier.  Numbers
may run ahead of the groups, but not while a look back is open. -/
def openGiven (s : State) (name : List Char) : Except PatternFault State := do
  let number ←
    if Text.isIdentifier name then
      match s.names.lookup (String.ofList name) with
      | some number => pure number
      | none => throw .malformed
    else
      match Text.wholeNumber? (Text.trim name) with
      | some n => if 0 < n ∧ n < 1073741823 then pure n.toNat else throw .malformed
      | none => throw .malformed
  if s.limit.isSome ∧ (s.referable? number).isNone then throw .malformed
  let s := if Text.isIdentifier name then s else { s with conditions := number :: s.conditions }
  return s.push (.given number) s.mode

/-- The last part is repeated. -/
def addRepetition (s : State) (greed : Greed) (low : Nat) (high : Option Nat) :
    Except PatternFault State :=
  match s.group.parts with
  | ⟨pieces, .other⟩ :: before =>
    let p := Piece.sequence pieces
    let s := { s with group := { s.group with parts := before }, repeats := true }
    .ok (s.addPart ⟨[⟨.loop greed low high p.pattern, p.extent.times low high, false⟩], .repeated⟩)
  | _ => .error .malformed

def finishAlternative (s : State) : Except PatternFault State :=
  match s.group.opener, s.group.finished with
  | .given _, _ :: _ => .error .malformed
  | _, finished =>
    .ok { s with group := { s.group with finished := s.group.current :: finished, parts := [] } }

/-- The longest text that a look goes back over. -/
def maxBack : Nat := 4294967295

/-- The innermost group is closed, inside of the group `around`. -/
def close (s : State) (around : Group) (outer : List Group) : State :=
  let pieces := s.group.pieces
  let ⟨p, e, _⟩ := Piece.sequence pieces
  let t := { s with group := around, outer := outer }
  match s.group.opener with
  | .plain => t.addPart ⟨pieces, .other⟩
  | .flagged => t.addPart ⟨[⟨p, e, true⟩], .other⟩
  | .whole => t.add p e
  | .kept number => { t with extents := t.extents.setIfInBounds number (some e) }.add (.group number p) e
  | .atomic => t.add (.atomic p) e
  | .look false expected _ => t.add (.look none expected p) .zero
  | .look true expected limit =>
    let t := { t with limit := limit }
    match e.fixed? with
    | some width =>
      if maxBack < width then { t with uneven := true }
      else t.add (.look (some width) expected p) .zero
    | none => { t with uneven := true }
  | .given number =>
    let (p, q) := s.group.branches
    t.add (.given number p.pattern q.pattern) (p.extent.either q.extent)

/-- The pattern that has been read, if nothing is left of it but perhaps a closing mark without an
opening one. -/
def finish (s : State) (unbalanced : Bool) : Except PatternFault Pattern :=
  if s.declared.contains 'a' && s.declared.contains 'u' then .error .mixedAlphabets
  else if unbalanced || s.conditions.any (s.extents.size ≤ ·) || s.uneven ||
      (s.declared.contains 't' && s.repeats) then .error .malformed
  else .ok (Piece.sequence s.group.pieces).pattern

end State

def readEscape (s : State) (c : Char) (rest : List Letter) :
    Except PatternFault (State × List Letter) :=
  match c with
  | 'A' => .ok (s.addAnchor .start, rest)
  | 'Z' => .ok (s.addAnchor .veryEnd, rest)
  | 'b' => .ok (s.addAnchor (.boundary false s.mode.alphabet), rest)
  | 'B' => .ok (s.addAnchor (.boundary true s.mode.alphabet), rest)
  | '0' => (byOctal ['0'] 2 rest).map fun (code, after) => (s.addCode code, after)
  | c =>
    if Text.isAsciiDigit c then
      match rest with
      | .bare d :: .bare e :: after =>
        if isOctal c && isOctal d && isOctal e then
          (byOctal [c, d, e] 0 after).map fun (code, after) => (s.addCode code, after)
        else reference c rest
      | _ => reference c rest
    else
      (escape c rest).map fun
        | (.inl code, after) => (s.addCode code, after)
        | (.inr (negated, name), after) =>
          (s.addSet ⟨false, [.named negated name s.mode.alphabet], none⟩, after)
where
  /-- The number of a group has one or two digits. -/
  reference (c : Char) (rest : List Letter) : Except PatternFault (State × List Letter) :=
    let (more, after) := span Text.isAsciiDigit 1 rest
    (s.addReference (ofDigits 10 (c :: more))).map (·, after)

/-- The number of rounds above which none is counted. -/
def maxRounds : Nat := 4294967295

def roundCount (digits : List Char) : Except PatternFault (Option Nat) :=
  if digits.isEmpty then .ok none
  else if Text.maxDigits < digits.length then .error (.tooManyDigits digits.length)
  else
    let n := ofDigits 10 digits
    if maxRounds ≤ n then .error .tooManyRounds else .ok (some n)

/-- A quantifier after its numbers of rounds: a mark makes it lazy or possessive. -/
def readGreed (s : State) (low : Nat) (high : Option Nat) (letters : List Letter) :
    Except PatternFault (State × List Letter) :=
  match letters with
  | .bare '?' :: rest => (s.addRepetition .lazy low high).map (·, rest)
  | .bare '+' :: rest => (s.addRepetition .possessive low high).map (·, rest)
  | _ => (s.addRepetition .greedy low high).map (·, letters)

/-- A brace that may open a quantifier; one that does not is a character. -/
def readBrace (s : State) (letters : List Letter) : Except PatternFault (State × List Letter) :=
  let brace : State × List Letter := (s.addCode '\x7b'.toNat, letters)
  let (low, rest) := span Text.isAsciiDigit letters.length letters
  let (high, rest) := match rest with
    | .bare ',' :: rest => span Text.isAsciiDigit rest.length rest
    | _ => (low, rest)
  match letters, rest with
  | .bare '\x7d' :: _, _ => .ok brace
  | _, .bare '\x7d' :: .lone :: _ => .error .malformed
  | _, .bare '\x7d' :: rest => do
    let low := (← roundCount low).getD 0
    let high ← roundCount high
    if high.any (· < low) then throw .malformed
    readGreed s low high rest
  | _, _ => .ok brace

def flagLetters : List Char := ['a', 'i', 'm', 's', 't', 'u', 'x']

/-- Leading flags, and what follows them. -/
def spanFlags (letters : List Letter) : List Char × List Letter :=
  span flagLetters.contains letters.length letters

/-- Flags after a question mark: for the whole pattern, or for a group, from which some may be taken
away.  Only the whole pattern can be declared with `t`, and only the alphabets cannot be taken away. -/
def readFlags (s : State) (letters : List Letter) : Except PatternFault (State × List Letter) := do
  let (added, rest) := spanFlags letters
  if added.contains 'a' && added.contains 'u' then throw .malformed
  match rest with
  | .bare ')' :: rest =>
    if added.isEmpty || !s.outer.isEmpty || !s.group.finished.isEmpty || !s.group.parts.isEmpty then
      throw .malformed
    let mode := s.mode.add added
    let mode := { mode with alphabet := if (added ++ s.declared).contains 'a' then .ascii else .unicode }
    return ({ s with group := { s.group with mode }, declared := added ++ s.declared }, rest)
  | .bare ':' :: rest =>
    if added.isEmpty || added.contains 't' then throw .malformed
    return (s.push .flagged (s.mode.add added), rest)
  | .bare '-' :: rest =>
    match spanFlags rest with
    | (taken, .bare ':' :: rest) =>
      if taken.isEmpty || (added ++ taken).contains 't' || taken.contains 'a' || taken.contains 'u' ||
          added.any taken.contains then throw .malformed
      return (s.push .flagged ((s.mode.add added).drop taken), rest)
    | _ => throw .malformed
  | _ => throw .malformed

/-- What follows a comment up to the closing mark. -/
def afterComment : List Letter → Except PatternFault (List Letter)
  | [] => .error .malformed
  | .bare ')' :: rest => .ok rest
  | _ :: rest => afterComment rest

def readOpening (s : State) (letters : List Letter) : Except PatternFault (State × List Letter) :=
  match letters with
  | .bare '?' :: .bare ':' :: rest => .ok (s.push .plain s.mode, rest)
  | .bare '?' :: .bare '>' :: rest => .ok (s.push .atomic s.mode, rest)
  | .bare '?' :: .bare '=' :: rest => .ok (s.openLook false true, rest)
  | .bare '?' :: .bare '!' :: rest => .ok (s.openLook false false, rest)
  | .bare '?' :: .bare '<' :: .bare '=' :: rest => .ok (s.openLook true true, rest)
  | .bare '?' :: .bare '<' :: .bare '!' :: rest => .ok (s.openLook true false, rest)
  | .bare '?' :: .bare '#' :: rest => (afterComment rest).map (s, ·)
  | .bare '?' :: .bare '(' :: rest => do
    let (name, rest) ← upTo ')' rest
    return (← s.openGiven name, rest)
  | .bare '?' :: .bare 'P' :: .bare '<' :: rest => do
    let (name, rest) ← upTo '>' rest
    if !Text.isIdentifier name then throw .malformed
    return (← s.openKept (some (String.ofList name)), rest)
  | .bare '?' :: .bare 'P' :: .bare '=' :: rest => do
    let (name, rest) ← upTo ')' rest
    match s.names.lookup (String.ofList name) with
    | some number => return (← s.addReference number, rest)
    | none => throw .malformed
  | .bare '?' :: rest => readFlags s rest
  | _ => (s.openKept none).map (·, letters)

/-- Whether a character does not count between the parts of a verbose pattern. -/
def isPadding (c : Char) : Bool := c == ' ' || (0x09 ≤ c.toNat && c.toNat ≤ 0x0d)

/-- A construct that starts with a letter, and what follows it; a closing mark is none of them. -/
def readLetter (s : State) (letter : Letter) (rest : List Letter) :
    Except PatternFault (State × List Letter) :=
  match letter with
  | .lone => .error .malformed
  | .escaped c => readEscape s c rest
  | .bare '|' => s.finishAlternative.map (·, rest)
  | .bare c =>
    if s.mode.verbose && isPadding c then .ok (s, rest)
    else if s.mode.verbose && c == '#' then
      .ok (s, (rest.dropWhile (fun l => l != .bare '\n' && l != .lone)))
    else
      match c with
      | '[' => (bracketSet s.mode.alphabet s.mode.folding rest).map fun (set, after) =>
          (s.addSet set, after)
      | '?' => readGreed s 0 (some 1) rest
      | '*' => readGreed s 0 none rest
      | '+' => readGreed s 1 none rest
      | '\x7b' => readBrace s rest
      | '.' =>
        .ok (s.addSet (if s.mode.dotAll then ⟨true, [], none⟩ else .single true '\n'.toNat none), rest)
      | '^' => .ok (s.addAnchor (if s.mode.multiline then .lineStart else .start), rest)
      | '$' => .ok (s.addAnchor (if s.mode.multiline then .lineStop else .stop), rest)
      | '(' => readOpening s rest
      | c => .ok (s.addCode c.toNat, rest)

/-- The pattern that letters are.  The fuel bounds the constructs. -/
def readLetters : (fuel : Nat) → State → List Letter → Except PatternFault Pattern
  | 0, _, _ => .error .malformed
  | _ + 1, s, [] => if s.outer.isEmpty then s.finish false else .error .malformed
  | fuel + 1, s, .bare ')' :: rest =>
    match s.outer with
    | [] => s.finish true
    | around :: outer => readLetters fuel (s.close around outer) rest
  | fuel + 1, s, letter :: rest => do
    let (s, rest) ← readLetter s letter rest
    readLetters fuel s rest

def read (text : String) : Except PatternFault Pattern :=
  let letters := letters text.toList
  readLetters (letters.length + 1) .start letters

end ReviewDiagnostics.Pattern
