import ReviewDiagnostics.Document.Basic
import ReviewDiagnostics.Number.Decimal
import ReviewDiagnostics.Text.Quoted

/-!
# Printing documents

The written form of a document.  Without an indentation everything stands on one line; with one,
every item and every field is on a line of its own.
-/

namespace ReviewDiagnostics.Document

/-- How a document is written: `unit` is the indentation of one level, if lines are broken, and with
`ascii` every other character is escaped. -/
structure Style where
  unit : Option String
  ascii : Bool

/-- One line, escaped: the form that values have inside messages. -/
def Style.inline : Style := ⟨none, true⟩

def escape (n : Nat) : List Char :=
  '\\' :: 'u' :: Text.hex 4 n

/-- One character of a written text.  With `ascii` all but the printable ASCII characters are escaped,
one beyond the basic plane as two surrogates. -/
def writtenChar (ascii : Bool) (c : Char) : List Char :=
  if c = '"' ∨ c = '\\' then ['\\', c]
  else if c = '\n' then ['\\', 'n']
  else if c = '\r' then ['\\', 'r']
  else if c = '\t' then ['\\', 't']
  else if c = '\x08' then ['\\', 'b']
  else if c = '\x0c' then ['\\', 'f']
  else if c.toNat < 0x20 then escape c.toNat
  else if !ascii || c.toNat < 0x7f then [c]
  else if c.toNat < 0x10000 then escape c.toNat
  else escape (0xd800 + (c.toNat - 0x10000) / 0x400) ++ escape (0xdc00 + (c.toNat - 0x10000) % 0x400)

def writtenText (ascii : Bool) (s : String) : List Char :=
  '"' :: s.toList.flatMap (writtenChar ascii) ++ ['"']

/-- What stands before an item at the given depth. -/
def Style.lineBreak (style : Style) (depth : Nat) : List Char :=
  match style.unit with
  | none => []
  | some u => '\n' :: (List.replicate depth u.toList).flatten

/-- What stands between items at the given depth. -/
def Style.separator (style : Style) (depth : Nat) : List Char :=
  match style.unit with
  | none => [',', ' ']
  | some _ => ',' :: style.lineBreak depth

mutual

def render (style : Style) (depth : Nat) : Document → List Char
  | .null => "null".toList
  | .bool true => "true".toList
  | .bool false => "false".toList
  | .int n => (toString n).toList
  | .float x => x.text Binary64.documentNames
  | .string s => writtenText style.ascii s
  | .array [] => ['[', ']']
  | .array (x :: xs) =>
    '[' :: style.lineBreak (depth + 1) ++ render style (depth + 1) x ++
      renderItems style (depth + 1) xs ++ style.lineBreak depth ++ [']']
  | .object [] => ['\x7b', '\x7d']
  | .object ((name, x) :: xs) =>
    '\x7b' :: style.lineBreak (depth + 1) ++ writtenText style.ascii name ++ [':', ' '] ++
      render style (depth + 1) x ++ renderFields style (depth + 1) xs ++ style.lineBreak depth ++
      ['\x7d']

/-- The items after the first. -/
def renderItems (style : Style) (depth : Nat) : List Document → List Char
  | [] => []
  | x :: xs => style.separator depth ++ render style depth x ++ renderItems style depth xs

/-- The fields after the first. -/
def renderFields (style : Style) (depth : Nat) : List (String × Document) → List Char
  | [] => []
  | (name, x) :: xs =>
    style.separator depth ++ writtenText style.ascii name ++ [':', ' '] ++ render style depth x ++
      renderFields style depth xs

end

def print (style : Style) (d : Document) : String :=
  String.ofList (d.render style 0)

end ReviewDiagnostics.Document
