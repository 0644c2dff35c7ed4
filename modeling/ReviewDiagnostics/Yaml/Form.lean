import ReviewDiagnostics.Pattern.Reader
import ReviewDiagnostics.Pattern.Search

/-!
# Tags and forms

Every node has a tag, which says what it means.  A tag is written before a node; a scalar without quotes
that has none gets one by its form.  The forms are those of YAML 1.1: constants in three cases, whole
numbers in four bases and in parts of sixty, binary64 numbers with a point, and moments.
-/

namespace ReviewDiagnostics.Yaml

/-- What a node means. -/
inductive Tag where
  | text
  | whole
  | real
  | truth
  | nothing
  | bytes
  | moment
  | list
  | mapping
  | set
  /-- A list of pairs, in order. -/
  | rows
  /-- As a key: the pairs of other mappings belong to this one. -/
  | merge
  /-- As a key: the value stands for the whole mapping. -/
  | main
  | unknown
  deriving DecidableEq

namespace Tag

/-- Whether a value is made up of other values. -/
def isCompound (tag : Tag) : Bool :=
  [Tag.list, .mapping, .set, .rows].contains tag

def isSingle (tag : Tag) : Bool :=
  [Tag.text, .whole, .real, .truth, .nothing, .bytes, .moment].contains tag

/-- What the names of all known tags begin with. -/
def common : String := "tag:yaml.org,2002:"

/-- The known tags by the ends of their names. -/
def known : List (String × Tag) :=
  [("str", .text), ("int", .whole), ("float", .real), ("bool", .truth), ("null", .nothing),
    ("binary", .bytes), ("timestamp", .moment), ("seq", .list), ("map", .mapping), ("set", .set),
    ("omap", .rows), ("pairs", .rows), ("merge", .merge), ("value", .main)]

def ofName (name : String) : Tag :=
  if name.startsWith common then
    (known.lookup (name.drop common.length).toString).getD .unknown
  else .unknown

/-- The forms of scalars without quotes, in the order in which they are looked for. -/
def forms : List (Tag × Except PatternFault Pattern) :=
  [(.truth, Pattern.read
      "^(?:yes|Yes|YES|no|No|NO|true|True|TRUE|false|False|FALSE|on|On|ON|off|Off|OFF)$"),
    (.real, Pattern.read
      "^(?:[-+]?[0-9][0-9_]*\\.[0-9_]*(?:[eE][-+][0-9]+)?|\\.[0-9][0-9_]*(?:[eE][-+][0-9]+)?|[-+]?[0-9][0-9_]*(?::[0-5]?[0-9])+\\.[0-9_]*|[-+]?\\.(?:inf|Inf|INF)|\\.(?:nan|NaN|NAN))$"),
    (.whole, Pattern.read
      "^(?:[-+]?0b[0-1_]+|[-+]?0[0-7_]+|[-+]?(?:0|[1-9][0-9_]*)|[-+]?0x[0-9a-fA-F_]+|[-+]?[1-9][0-9_]*(?::[0-5]?[0-9])+)$"),
    (.merge, Pattern.read "^<<$"),
    (.nothing, Pattern.read "^(?:~|null|Null|NULL)$"),
    (.moment, Pattern.read
      "^(?:[0-9]{4}-[0-9]{2}-[0-9]{2}|[0-9]{4}-[0-9]{1,2}-[0-9]{1,2}(?:[Tt]|[ \t]+)[0-9]{1,2}:[0-9]{2}:[0-9]{2}(?:\\.[0-9]*)?(?:[ \t]*(?:Z|[-+][0-9]{1,2}(?::[0-9]{2})?))?)$"),
    (.main, Pattern.read "^=$"),
    (.unknown, Pattern.read "^[!&*]$")]

/-- The characters that a scalar begins with which is not a text. -/
def firsts : List Char := "-+.0123456789yYnNtTfFoO~<=!&*".toList

/-- The tag that a scalar without quotes has by its form. -/
def ofForm (s : String) : Tag :=
  match s.toList with
  | [] => .nothing
  | c :: _ =>
    if firsts.contains c then
      match forms.find? fun form => form.2.toOption.any (·.occursIn s) with
      | some (tag, _) => tag
      | none => .text
    else .text

end Tag

end ReviewDiagnostics.Yaml
