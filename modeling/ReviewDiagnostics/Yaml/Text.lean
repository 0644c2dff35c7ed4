import ReviewDiagnostics.Yaml.Cursor

/-!
# Bare and quoted scalars

A scalar stands bare or between quotes, and may go on over several lines: a single line break counts
as a blank, further ones stay line breaks.
-/

namespace ReviewDiagnostics.Yaml

/-- A text that has been read, and what follows it. -/
abbrev Reading := List Char × Cursor

/-- The length of the part of a bare scalar that has no blanks in it. -/
def bareLength (inFlow : Bool) : List Char → Nat
  | [] => 0
  | c :: cs =>
    if isGap c then 0
    else if c = ':' && cs.head?.all fun d => isGap d || (inFlow && ",[]\x7b\x7d".toList.contains d) then 0
    else if inFlow && ",?[]\x7b\x7d".toList.contains c then 0
    else bareLength inFlow cs + 1

/-- The blanks and the line breaks at a cursor inside a bare scalar, with the texts of the breaks after
the first; `none` if a document ends there. -/
def bareBreaks : Nat → Cursor → Option Reading
  | 0, c => some ([], c)
  | fuel + 1, c =>
    match c.rest with
    | ' ' :: _ => bareBreaks fuel c.next
    | _ =>
      if c.atBreak then
        let c' := c.next
        if c'.atBoundary then none
        else (bareBreaks fuel c').map fun (more, after) => (c.breakText ++ more, after)
      else some ([], c)

/-- What stands for a first line break and the texts of the ones after it. -/
def fold (first more : List Char) : List Char :=
  if first ≠ ['\n'] then first ++ more
  else if more.isEmpty then [' ']
  else more

/-- What separates two parts of a bare scalar; nothing if the scalar cannot go on. -/
def bareSpace (c : Cursor) : Reading :=
  let after := c.skipBlanks
  if after.atBreak then
    let next := after.next
    if next.atBoundary then ([], next)
    else match bareBreaks next.fuel next with
      | none => ([], next)
      | some (more, c') => (fold after.breakText more, c')
  else (c.rest.takeWhile (· = ' '), after)

/-- The part of a bare scalar from a cursor on.  Outside brackets its lines have to be indented by at
least `indent`. -/
def bareMore (inFlow : Bool) (indent : Int) : Nat → Cursor → Reading
  | 0, c => ([], c)
  | fuel + 1, c =>
    let length := if c.rest.head? = some '#' then 0 else bareLength inFlow c.rest
    if length = 0 then ([], c)
    else
      let part := c.rest.take length
      let stop := c.skip length
      let (space, after) := bareSpace stop
      if space.isEmpty || after.rest.head? == some '#' || (!inFlow && after.column < indent) then
        (part, stop)
      else
        match bareMore inFlow indent fuel after with
        | ([], _) => (part, stop)
        | (more, stop) => (part ++ space ++ more, stop)

def bare (inFlow : Bool) (indent : Int) (c : Cursor) : Reading :=
  bareMore inFlow indent c.fuel c

def startsBare (inFlow : Bool) : List Char → Bool
  | [] => false
  | c :: cs =>
    if isGap c then false
    else if !"-?:,[]\x7b\x7d#&*!|>'\"%@`".toList.contains c then true
    else !(cs.head?.all isGap) && (c == '-' || (!inFlow && (c == '?' || c == ':')))

/-- The blanks and line breaks inside quotes after a first line break. -/
def quotedBreaks : Nat → Cursor → Except YamlFault Reading
  | 0, c => .ok ([], c)
  | fuel + 1, c =>
    if c.atBoundary then .error .malformed
    else
      let c := (c.span fun ch => ch = ' ' ∨ ch = '\t').2
      if c.atBreak then
        match quotedBreaks fuel c.next with
        | .error f => .error f
        | .ok (more, after) => .ok (c.breakText ++ more, after)
      else .ok ([], c)

/-- The blanks and line breaks at a cursor inside quotes, as what they stand for. -/
def quotedSpace (c : Cursor) : Except YamlFault Reading :=
  let (blanks, after) := c.span fun ch => ch = ' ' ∨ ch = '\t'
  if after.rest.isEmpty then .error .malformed
  else if after.atBreak then
    match quotedBreaks after.fuel after.next with
    | .error f => .error f
    | .ok (more, c') => .ok (fold after.breakText more, c')
  else .ok (blanks, after)

/-- What the letters after a backslash stand for. -/
def escapes : List (Char × Char) :=
  [('0', '\x00'), ('a', '\x07'), ('b', '\x08'), ('t', '\t'), ('\t', '\t'), ('n', '\n'), ('v', '\x0b'),
    ('f', '\x0c'), ('r', '\r'), ('e', '\x1b'), (' ', ' '), ('"', '"'), ('\\', '\\'), ('/', '/'),
    ('N', '\x85'), ('_', '\xa0'), ('L', '\u2028'), ('P', '\u2029')]

/-- The number of hexadecimal digits that follow a letter after a backslash. -/
def escapeWidth? (c : Char) : Option Nat :=
  if c = 'x' then some 2 else if c = 'u' then some 4 else if c = 'U' then some 8 else none

def hexDigits? (cs : List Char) : Option (List Nat) :=
  cs.mapM fun c => if c.toNat < 0x80 then digit? 16 c else none

def characterAt (n : Nat) : Except YamlFault Char :=
  if 0x80000000 ≤ n then .error (.senseless .tooLarge)
  else if 0x110000 ≤ n then .error (.senseless .notCharacter)
  else .ok (Char.ofNat n)

/-- An escape, after its backslash. -/
def escaped (c : Cursor) : Except YamlFault Reading :=
  match c.rest with
  | [] => .error .malformed
  | ch :: cs =>
    match escapes.lookup ch with
    | some meant => .ok ([meant], c.skip 1)
    | none =>
      match escapeWidth? ch with
      | some width =>
        match hexDigits? (cs.take width) with
        | none => .error .malformed
        | some ds =>
          if ds.length < width then .error .malformed
          else (characterAt (ofDigits 16 ds)).map fun meant => ([meant], c.skip (width + 1))
      | none => if isBreak ch then quotedBreaks c.fuel c.next else .error .malformed

/-- A scalar between quotes, after the first of them, up to and with the second. -/
def quoted (quote : Char) : Nat → Cursor → Except YamlFault Reading
  | 0, _ => .error .malformed
  | fuel + 1, c =>
    let continued (front : List Char) (after : Cursor) : Except YamlFault Reading :=
      match quoted quote fuel after with
      | .error f => .error f
      | .ok (more, after) => .ok (front ++ more, after)
    match c.rest with
    | [] => .error .malformed
    | ch :: cs =>
      if ch = quote then
        if quote = '\'' ∧ cs.head? = some '\'' then continued ['\''] (c.skip 2)
        else .ok ([], c.skip 1)
      else if ch = '\\' ∧ quote = '"' then
        match escaped (c.skip 1) with
        | .error f => .error f
        | .ok (meant, after) => continued meant after
      else if isGap ch then
        match quotedSpace c with
        | .error f => .error f
        | .ok (space, after) => continued space after
      else continued [ch] (c.skip 1)

end ReviewDiagnostics.Yaml
