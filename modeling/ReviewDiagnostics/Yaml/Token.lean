import ReviewDiagnostics.Text.Utf8
import ReviewDiagnostics.Yaml.Block

/-!
# Tokens of YAML texts

A token is a scalar, a name, a tag, or a sign.  Signs that stand for layout are tokens as well: where
lines begin to be indented further, and where they cease to be.
-/

namespace ReviewDiagnostics.Yaml

/-- What is said about a document before it. -/
inductive Directive where
  /-- The version of YAML that it is written in. -/
  | version (major : Nat)
  /-- What a handle stands for in front of tags. -/
  | handle (name meaning : String)
  | other
  deriving DecidableEq

/-- A part of a YAML text. -/
inductive Token where
  | streamEnd
  | directive (d : Directive)
  | documentStart
  | documentEnd
  | openList
  | closeList
  | openMapping
  | closeMapping
  /-- The items of a list are laid out in lines from here on. -/
  | linedList
  /-- The pairs of a mapping are laid out in lines from here on. -/
  | linedMapping
  | linedEnd
  | comma
  | item
  | key
  | value
  | alias (name : String)
  | anchor (name : String)
  | tag (handle? : Option String) (suffix : String)
  | scalar (isBare : Bool) (text : String)
  /-- The text cannot be taken apart any further. -/
  | broken (fault : YamlFault)

def isNameChar (c : Char) : Bool :=
  ('0' ≤ c && c ≤ '9') || ('A' ≤ c && c ≤ 'Z') || ('a' ≤ c && c ≤ 'z') || c == '-' || c == '_'

/-- A character that a tag can be written with; a percent sign begins a byte. -/
def isTagChar (c : Char) : Bool :=
  isNameChar c || ";/?:@&=+$,.!~*'()[]%".toList.contains c

/-- Whether nothing, a blank or a line break follows. -/
def Cursor.atBlank (c : Cursor) : Bool :=
  c.rest.head?.all fun ch => ch == ' ' || isBreak ch

/-- A name, which is not empty. -/
def name (c : Cursor) : Except YamlFault (String × Cursor) :=
  match c.span isNameChar with
  | ([], _) => .error .malformed
  | (cs, after) => .ok (String.ofList cs, after)

/-- The name of an anchor, after its sign. -/
def anchorName (c : Cursor) : Except YamlFault (String × Cursor) := do
  let (s, after) ← name c
  if after.rest.head?.all fun ch => isGap ch || "?:,]\x7d%@`".toList.contains ch then return (s, after)
  else throw .malformed

/-- A handle: two exclamation marks with or without a name between them, or one and a blank. -/
def handle (c : Cursor) : Except YamlFault (String × Cursor) :=
  match c.rest with
  | '!' :: ' ' :: _ => .ok ("!", c.skip 1)
  | '!' :: _ =>
    let (cs, after) := (c.skip 1).span isNameChar
    if after.rest.head? = some '!' then .ok (String.ofList ('!' :: cs ++ ['!']), after.skip 1)
    else .error .malformed
  | _ => .error .malformed

/-- The bytes that stand after percent signs at the start of a text, and the number of characters. -/
def percentBytes : List Char → Except YamlFault (List UInt8 × Nat)
  | '%' :: a :: b :: cs =>
    match hexDigits? [a, b] with
    | none => .error .malformed
    | some ds => do
      let (more, length) ← percentBytes cs
      return (UInt8.ofNat (ofDigits 16 ds) :: more, length + 3)
  | '%' :: _ => .error .malformed
  | _ => .ok ([], 0)

def tagChars : Nat → Cursor → Except YamlFault Reading
  | 0, c => .ok ([], c)
  | fuel + 1, c =>
    let (cs, after) := c.span fun ch => isTagChar ch && ch != '%'
    if after.rest.head? = some '%' then do
      let (bytes, length) ← percentBytes after.rest
      match Text.Utf8.decodeFrom 0 none bytes with
      | .error _ => throw .malformed
      | .ok meant => do
        let (more, after) ← tagChars fuel (after.skip length)
        return (cs ++ meant ++ more, after)
    else .ok (cs, after)

/-- The part of a tag after its handle, which is not without characters. -/
def tagSuffix (c : Cursor) : Except YamlFault (String × Cursor) :=
  if c.rest.head?.any isTagChar then
    (tagChars c.fuel c).map fun (cs, after) => (String.ofList cs, after)
  else .error .malformed

/-- A tag, at its exclamation mark. -/
def tag (c : Cursor) : Except YamlFault (Token × Cursor) := do
  let (token, after) ←
    match (c.skip 1).rest with
    | '<' :: _ => do
      let (suffix, after) ← tagSuffix (c.skip 2)
      if after.rest.head? = some '>' then pure (Token.tag none suffix, after.skip 1)
      else throw .malformed
    | rest =>
      if rest.head?.all isGap then pure (Token.tag none "!", c.skip 1)
      else if (rest.takeWhile fun ch => !(ch = ' ' || isBreak ch)).contains '!' then do
        let (h, after) ← handle c
        let (suffix, after) ← tagSuffix after
        pure (Token.tag (some h) suffix, after)
      else do
        let (suffix, after) ← tagSuffix (c.skip 1)
        pure (Token.tag (some "!") suffix, after)
  if after.atBlank then return (token, after) else throw .malformed

def directiveNumber (c : Cursor) : Except YamlFault (Nat × Cursor) :=
  let (ds, after) := c.span Text.isAsciiDigit
  if ds.isEmpty then .error .malformed
  else if Text.maxDigits < ds.length then .error (.senseless (.tooManyDigits ds.length))
  else .ok (ofDigits 10 (ds.map fun d => d.toNat - '0'.toNat), after)

/-- What follows the name of a directive. -/
def directiveValue (title : String) (c : Cursor) : Except YamlFault (Directive × Cursor) :=
  if title = "YAML" then do
    let (major, after) ← directiveNumber c.skipBlanks
    if after.rest.head? ≠ some '.' then throw .malformed
    let (_, after) ← directiveNumber (after.skip 1)
    if after.atBlank then return (.version major, after) else throw .malformed
  else if title = "TAG" then do
    let (h, after) ← handle c.skipBlanks
    if after.rest.head? ≠ some ' ' then throw .malformed
    let (meaning, after) ← tagSuffix after.skipBlanks
    if after.atBlank then return (.handle h meaning, after) else throw .malformed
  else return (.other, (c.span fun ch => !isBreak ch).2)

/-- A directive, after its percent sign, up to the end of the line. -/
def directive (c : Cursor) : Except YamlFault (Token × Cursor) := do
  let (title, c) ← name c
  if !c.atBlank then throw .malformed
  let (d, c) ← directiveValue title c
  return (.directive d, ← c.toLineEnd)

end ReviewDiagnostics.Yaml
