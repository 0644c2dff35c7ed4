import ReviewDiagnostics.Yaml.Token

/-!
# Taking YAML texts apart

A text is taken apart from left to right.  Whether a scalar is a key shows only when the colon after it
is found, so that for every level of brackets the place is kept where the last possible key begins; the
sign for a key is put in there later.  Outside brackets the columns are kept at which the lists and the
mappings begin that are still open.
-/

namespace ReviewDiagnostics.Yaml

/-- The place where something begins that may turn out to be a key. -/
structure PossibleKey where
  position : Nat
  /-- It stands where nothing but a key can stand. -/
  required : Bool
  index : Nat
  line : Nat
  column : Nat

/-- The most characters that a key can have if it is not marked as one. -/
def maxKeyLength : Nat := 1024

/-- Whether a colon at a cursor is too far away from a possible key. -/
def PossibleKey.isBehind (k : PossibleKey) (c : Cursor) : Bool :=
  k.line != c.line || decide (maxKeyLength < c.index - k.index)

/-- The tokens of the part of a text before a cursor. -/
structure Tokens where
  cursor : Cursor
  /-- The tokens so far, latest first, and their number. -/
  found : List Token
  count : Nat
  /-- The columns at which open lists and mappings in lines begin, innermost first. -/
  columns : List Nat
  allowsKey : Bool
  /-- The possible key between the innermost brackets, and the ones around them, innermost first. -/
  key? : Option PossibleKey
  outerKeys : List (Option PossibleKey)

namespace Tokens

def start (cs : List Char) : Tokens := ⟨.start cs, [], 0, [], true, none, []⟩

def inFlow (s : Tokens) : Bool := !s.outerKeys.isEmpty

/-- The column at which the innermost open list or mapping in lines begins; -1 if there is none. -/
def indent (s : Tokens) : Int :=
  match s.columns with
  | [] => -1
  | column :: _ => column

/-- Adds a token. -/
def push (s : Tokens) (t : Token) : Tokens :=
  { s with found := t :: s.found, count := s.count + 1 }

/-- Puts a token in after the first tokens. -/
def insert (s : Tokens) (position : Nat) (t : Token) : Tokens :=
  let later := s.count - position
  { s with found := s.found.take later ++ t :: s.found.drop later, count := s.count + 1 }

def pass (s : Tokens) (length : Nat) (t : Token) : Tokens :=
  { s.push t with cursor := s.cursor.skip length }

/-- Gives up the possible key. -/
def dropKey (s : Tokens) : Except YamlFault Tokens :=
  if s.key?.any (·.required) then .error .malformed else .ok { s with key? := none }

/-- Gives up the possible key if it is too far away by now. -/
def dropDistantKey (s : Tokens) : Except YamlFault Tokens :=
  if s.key?.any (·.isBehind s.cursor) then s.dropKey else .ok s

/-- Takes what begins here for a possible key, if a key can begin here. -/
def noteKey (s : Tokens) : Except YamlFault Tokens :=
  if s.allowsKey then do
    let s ← s.dropKey
    let c := s.cursor
    let required := !s.inFlow && s.indent == c.column
    return { s with key? := some ⟨s.count, required, c.index, c.line, c.column⟩ }
  else .ok s

/-- Ends lists and mappings in lines, innermost first, as long as the columns at which they begin have a
property. -/
def closeLines (ends : Nat → Bool) : List Nat → Tokens → Tokens
  | [], s => { s with columns := [] }
  | column :: columns, s =>
    if ends column then closeLines ends columns (s.push .linedEnd)
    else { s with columns := column :: columns }

/-- Ends the lists and mappings in lines that the cursor is not inside of any more. -/
def closeToColumn (s : Tokens) : Tokens :=
  if s.inFlow then s else closeLines (fun column => s.cursor.column < column) s.columns s

def closeAll (s : Tokens) : Tokens :=
  if s.inFlow then s else closeLines (fun _ => true) s.columns s

/-- Whether a list or a mapping that begins at a column is a new one. -/
def opensAt (s : Tokens) (column : Nat) : Bool := s.indent < column

/-- Begins a list or a mapping in lines, if it is a new one. -/
def openLines (s : Tokens) (t : Token) : Tokens :=
  let column := s.cursor.column
  if s.opensAt column then { s.push t with columns := column :: s.columns } else s

/-- Ends everything that is open, as before and after a document. -/
def boundary (s : Tokens) : Except YamlFault Tokens := do
  return { (← s.closeAll.dropKey) with allowsKey := false }

def openBracket (s : Tokens) (t : Token) : Except YamlFault Tokens := do
  let s ← s.noteKey
  return { s.pass 1 t with allowsKey := true, key? := none, outerKeys := s.key? :: s.outerKeys }

def closeBracket (s : Tokens) (t : Token) : Except YamlFault Tokens := do
  let s ← s.dropKey
  return { s.pass 1 t with
    allowsKey := false, key? := s.outerKeys.head?.getD none, outerKeys := s.outerKeys.tail }

/-- The sign of an item, or of a key or a value that is marked as one: outside brackets it can only
stand where a key could. -/
def mark (s : Tokens) (lined sign : Token) (allowsKey : Bool) : Except YamlFault Tokens :=
  if !s.inFlow && !s.allowsKey then .error .malformed
  else do
    let s := if s.inFlow then s else s.openLines lined
    let s ← { s with allowsKey := allowsKey }.dropKey
    return s.pass 1 sign

/-- The colon before a value.  If what stands before it is a possible key, it is one. -/
def colon (s : Tokens) : Except YamlFault Tokens :=
  match s.key? with
  | some k =>
    let s := { s with key? := none, allowsKey := false }
    let s := s.insert k.position .key
    let s :=
      if !s.inFlow && s.opensAt k.column then
        { s.insert k.position .linedMapping with columns := k.column :: s.columns }
      else s
    .ok (s.pass 1 .value)
  | none => s.mark .linedMapping .value !s.inFlow

/-- Something that may be a key or belong to one. -/
def content (s : Tokens) (read : Cursor → Except YamlFault (Token × Cursor)) :
    Except YamlFault Tokens := do
  let s ← s.noteKey
  let (t, after) ← read s.cursor
  return { s.push t with allowsKey := false, cursor := after }

def blockScalar (s : Tokens) (folded : Bool) : Except YamlFault Tokens := do
  let s ← { s with allowsKey := true }.dropKey
  let (cs, after) ← block folded s.indent (s.cursor.skip 1)
  return { s.push (.scalar false (String.ofList cs)) with cursor := after }

/-- A quoted scalar, as a token. -/
def quotedToken (quote : Char) (c : Cursor) : Except YamlFault (Token × Cursor) := do
  let (cs, after) ← quoted quote c.fuel (c.skip 1)
  return (.scalar false (String.ofList cs), after)

/-- A bare scalar, as a token. -/
def bareToken (inFlow : Bool) (indent : Int) (c : Cursor) : Except YamlFault (Token × Cursor) :=
  let (cs, after) := bare inFlow indent c
  .ok (.scalar true (String.ofList cs), after)

/-- The name of an anchor after its sign, as a token. -/
def namedToken (token : String → Token) (c : Cursor) : Except YamlFault (Token × Cursor) := do
  let (s, after) ← anchorName (c.skip 1)
  return (token s, after)

/-- Goes over what begins with a character.  Some signs are signs only before a gap. -/
def dispatch (s : Tokens) (ch : Char) (rest : List Char) : Except YamlFault Tokens :=
  let atGap := rest.head?.all isGap
  if ch = '[' then s.openBracket .openList
  else if ch = '\x7b' then s.openBracket .openMapping
  else if ch = ']' then s.closeBracket .closeList
  else if ch = '\x7d' then s.closeBracket .closeMapping
  else if ch = ',' then do return (← { s with allowsKey := true }.dropKey).pass 1 .comma
  else if ch = '-' ∧ atGap then s.mark .linedList .item true
  else if ch = '?' ∧ (s.inFlow || atGap) then s.mark .linedMapping .key !s.inFlow
  else if ch = ':' ∧ (s.inFlow || atGap) then s.colon
  else if ch = '*' then s.content (namedToken .alias)
  else if ch = '&' then s.content (namedToken .anchor)
  else if ch = '!' then s.content tag
  else if ch = '|' ∧ !s.inFlow then s.blockScalar false
  else if ch = '>' ∧ !s.inFlow then s.blockScalar true
  else if ch = '\'' ∨ ch = '"' then s.content (quotedToken ch)
  else if startsBare s.inFlow (ch :: rest) then s.content (bareToken s.inFlow (s.indent + 1))
  else .error .malformed

/-- Goes on to the next character that counts.  Outside brackets a key can begin on a new line. -/
def toContent (s : Tokens) : Tokens :=
  let c := s.cursor.toContent
  { s with cursor := c, allowsKey := s.allowsKey || (!s.inFlow && s.cursor.line != c.line) }

/-- Goes over one more token; nothing at the end of the text. -/
def step (s : Tokens) : Except YamlFault (Option Tokens) := do
  let s := (← s.toContent.dropDistantKey).closeToColumn
  let c := s.cursor
  match c.rest with
  | [] => do
    let _ ← s.boundary
    return none
  | ch :: rest =>
    if ch = '%' ∧ c.column = 0 then
      let s ← s.boundary
      let (t, after) ← directive (c.skip 1)
      return some { s.push t with cursor := after }
    else if c.atBoundary then
      return some ((← s.boundary).pass 3 (if ch = '-' then .documentStart else .documentEnd))
    else return some (← s.dispatch ch rest)

/-- The tokens of a text that are found in at most `fuel` steps, in order. -/
def run : (fuel : Nat) → Tokens → List Token
  | 0, s => s.found.reverse
  | fuel + 1, s =>
    match s.step with
    | .error f => (s.push (.broken f)).found.reverse
    | .ok none => (s.closeAll.push .streamEnd).found.reverse
    | .ok (some s) => run fuel s

end Tokens

def tokens (cs : List Char) : List Token :=
  Tokens.run (cs.length + 2) (.start cs)

end ReviewDiagnostics.Yaml
