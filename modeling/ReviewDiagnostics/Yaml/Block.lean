import ReviewDiagnostics.Yaml.Text

/-!
# Block scalars

A block scalar is a text that is laid out in lines of its own.  Its lines are kept as they are, or, if it
is folded, run on where neither of two lines begins with a blank.  A mark after its sign says what
becomes of the line breaks at its end, and a digit how far it is indented, if its first line does not
show that.
-/

namespace ReviewDiagnostics.Yaml

/-- What becomes of the line breaks at the end of a block scalar. -/
inductive Chomping where
  | clip
  | strip
  | keep
  deriving DecidableEq

/-- The first line of a block scalar. -/
structure BlockHeader where
  chomping : Chomping
  /-- How much further the scalar is indented than what it belongs to. -/
  depth? : Option Nat

def chomping? : List Char → Option Chomping
  | '+' :: _ => some .keep
  | '-' :: _ => some .strip
  | _ => none

/-- The digit of an indentation; zero is none. -/
def depth? (cs : List Char) : Except YamlFault (Option Nat) :=
  match cs.head?.filter Text.isAsciiDigit with
  | none => .ok none
  | some '0' => .error .malformed
  | some d => .ok (some (d.toNat - '0'.toNat))

/-- The header of a block scalar, after its sign, up to the end of the line.  The mark and the digit may
stand in either order. -/
def blockHeader (c : Cursor) : Except YamlFault (BlockHeader × Cursor) := do
  let (header, c) ←
    match chomping? c.rest with
    | some chomping => do
      let c := c.skip 1
      let depth? ← depth? c.rest
      pure (BlockHeader.mk chomping depth?, c.skip depth?.toList.length)
    | none => do
      let depth? ← depth? c.rest
      let c := c.skip depth?.toList.length
      let chomping? := if depth?.isSome then chomping? c.rest else none
      pure (BlockHeader.mk (chomping?.getD .clip) depth?, c.skip chomping?.toList.length)
  if c.rest.head?.all fun ch => ch == ' ' || isBreak ch then
    return (header, ← c.toLineEnd)
  else throw .malformed

def Cursor.indentTo (c : Cursor) (column : Nat) : Cursor :=
  c.skip (c.rest.take (column - c.column) |>.takeWhile (· = ' ')).length

/-- The line breaks of empty lines, and the cursor after the indentation of the next line. -/
def emptyLines (indent : Nat) : Nat → Cursor → Reading
  | 0, c => ([], c)
  | fuel + 1, c =>
    let c := c.indentTo indent
    if c.atBreak then
      let (more, after) := emptyLines indent fuel c.next
      (c.breakText ++ more, after)
    else ([], c)

/-- The line breaks of empty lines, the width of the widest indentation on them and on the next line,
and the cursor after that indentation. -/
def leadingLines : (width : Nat) → Nat → Cursor → List Char × Nat × Cursor
  | width, 0, c => ([], width, c)
  | width, fuel + 1, c =>
    let c := c.skipBlanks
    let width := max width c.column
    if c.atBreak then
      let (more, widest, after) := leadingLines width fuel c.next
      (c.breakText ++ more, widest, after)
    else ([], width, c)

/-- What separates two lines of a block scalar, given the break between them and the breaks of empty
lines. -/
def lineJoint (folded : Bool) (before after : Cursor) (lineBreak breaks : List Char) : List Char :=
  let beginsBlank (c : Cursor) : Bool := c.rest.head?.any fun ch => ch == ' ' || ch == '\t'
  if folded && lineBreak == ['\n'] && !beginsBlank before && !beginsBlank after then
    if breaks.isEmpty then [' '] else breaks
  else lineBreak ++ breaks

/-- The lines of a block scalar. -/
structure BlockLines where
  text : List Char
  /-- The break after the last line. -/
  lineBreak : List Char
  /-- The breaks of the empty lines after that. -/
  breaks : List Char
  after : Cursor

/-- The lines of a block scalar from the one on that the cursor is at. -/
def blockLines (folded : Bool) (indent : Nat) : Nat → Cursor → BlockLines
  | 0, c => ⟨[], [], [], c⟩
  | fuel + 1, c =>
    let (line, stop) := c.span fun ch => !isBreak ch
    let lineBreak := if stop.atBreak then stop.breakText else []
    let (breaks, next) := emptyLines indent stop.fuel stop.next
    if next.column = indent ∧ !next.rest.isEmpty then
      let more := blockLines folded indent fuel next
      { more with text := line ++ lineJoint folded c next lineBreak breaks ++ more.text }
    else ⟨line, lineBreak, breaks, next⟩

/-- A block scalar after its sign, given the indentation of what it belongs to. -/
def block (folded : Bool) (outer : Int) (c : Cursor) : Except YamlFault Reading := do
  let (header, c) ← blockHeader c
  let least := max 1 (outer + 1).toNat
  let (breaks, indent, c) :=
    match header.depth? with
    | none =>
      let (breaks, widest, c) := leadingLines 0 c.fuel c
      (breaks, max least widest, c)
    | some depth =>
      let indent := least + depth - 1
      let (breaks, c) := emptyLines indent c.fuel c
      (breaks, indent, c)
  let lines : BlockLines :=
    if c.column = indent ∧ !c.rest.isEmpty then
      let lines := blockLines folded indent c.fuel c
      { lines with text := breaks ++ lines.text }
    else ⟨[], [], breaks, c⟩
  let tail := match header.chomping with
    | .strip => []
    | .clip => lines.lineBreak
    | .keep => lines.lineBreak ++ lines.breaks
  return (lines.text ++ tail, lines.after)

end ReviewDiagnostics.Yaml
