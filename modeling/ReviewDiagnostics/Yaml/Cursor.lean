import ReviewDiagnostics.Yaml.Scalar

/-!
# Positions in YAML texts

Layout carries meaning in YAML: how far a line is indented says what it belongs to.  A cursor is what
is still to be read, with the number of characters before it and the line and the column at which it
starts.
-/

namespace ReviewDiagnostics.Yaml

def isBreak (c : Char) : Bool :=
  c == '\n' || c == '\r' || c == '\x85' || c == '\u2028' || c == '\u2029'

/-- A character that a word ends at: a blank, a tab or a line break. -/
def isGap (c : Char) : Bool :=
  c == ' ' || c == '\t' || isBreak c

/-- A character that may stand in a YAML text. -/
def isAllowed (c : Char) : Bool :=
  c == '\t' || c == '\n' || c == '\r' || c == '\x85' || (' ' ≤ c && c ≤ '~') ||
    ('\xa0' ≤ c && c != '\ufffe' && c != '\uffff')

/-- What is still to be read, and where. -/
structure Cursor where
  rest : List Char
  size : Nat
  /-- The number of characters before the rest. -/
  index : Nat
  line : Nat
  column : Nat

namespace Cursor

def start (cs : List Char) : Cursor := ⟨cs, cs.length, 0, 0, 0⟩

/-- More steps than there are characters. -/
def fuel (c : Cursor) : Nat := c.size + 1

/-- The cursor after one character.  A carriage return and a line feed are one line break. -/
def next (c : Cursor) : Cursor :=
  match c.rest with
  | [] => c
  | '\r' :: '\n' :: cs => ⟨cs, c.size, c.index + 2, c.line + 1, 0⟩
  | ch :: cs =>
    if isBreak ch then ⟨cs, c.size, c.index + 1, c.line + 1, 0⟩
    else ⟨cs, c.size, c.index + 1, c.line, c.column + 1⟩

/-- The cursor after characters of the same line.  A byte order mark takes up no room. -/
def skip (c : Cursor) (n : Nat) : Cursor :=
  let passed := c.rest.take n
  ⟨c.rest.drop n, c.size, c.index + passed.length, c.line,
    c.column + (passed.filter (· ≠ '\ufeff')).length⟩

/-- The characters of the line that have a property, and the cursor after them. -/
def span (c : Cursor) (holds : Char → Bool) : List Char × Cursor :=
  let passed := c.rest.takeWhile holds
  (passed, c.skip passed.length)

/-- What a line break stands for in a text that goes on over it. -/
def breakText (c : Cursor) : List Char :=
  match c.rest with
  | '\u2028' :: _ => ['\u2028']
  | '\u2029' :: _ => ['\u2029']
  | _ => ['\n']

def atBreak (c : Cursor) : Bool :=
  c.rest.head?.any isBreak

/-- Whether three of the same mark stand here, on their own. -/
def atMark (ch : Char) (c : Cursor) : Bool :=
  match c.rest with
  | x :: y :: z :: rest => x == ch && y == ch && z == ch && rest.head?.all isGap
  | _ => false

def atBoundary (c : Cursor) : Bool :=
  c.column == 0 && (c.atMark '-' || c.atMark '.')

def skipBlanks (c : Cursor) : Cursor :=
  (c.span (· = ' ')).2

def skipComment (c : Cursor) : Cursor :=
  let c := c.skipBlanks
  match c.rest with
  | '#' :: _ => (c.span fun ch => !isBreak ch).2
  | _ => c

/-- The cursor at the next character that counts, over at most `fuel` lines. -/
def skipLines : Nat → Cursor → Cursor
  | 0, c => c
  | fuel + 1, c =>
    let c := c.skipComment
    if c.atBreak then skipLines fuel c.next else c

/-- The cursor at the next character that counts.  A byte order mark in front of a text does not. -/
def toContent (c : Cursor) : Cursor :=
  let c := if c.index = 0 ∧ c.rest.head? = some '\ufeff' then c.skip 1 else c
  c.skipLines c.fuel

/-- The cursor after the rest of a line on which nothing counts any more. -/
def toLineEnd (c : Cursor) : Except YamlFault Cursor :=
  let c := c.skipComment
  if c.rest.isEmpty then .ok c else if c.atBreak then .ok c.next else .error .malformed

end Cursor

end ReviewDiagnostics.Yaml
