import ReviewDiagnostics.Document.Literal
import ReviewDiagnostics.Document.Printer
import ReviewDiagnostics.Fault
import ReviewDiagnostics.Number.Word
import ReviewDiagnostics.Text.Blank
import ReviewDiagnostics.Text.Word

/-!
# Coercion

Turns a value into one of another kind where that keeps what was meant: a number written as a text, a
boolean written as a number, a lone item where a list is expected.
-/

namespace ReviewDiagnostics

namespace Text

/-- The lower case of an ASCII text.  Where texts are compared with words of lower-case letters, no
other character matters: none of their letters has a further upper-case form. -/
def lowerAscii (s : String) : String :=
  String.ofList (s.toList.map Char.toLower)

/-- The number that a text is; a whole binary64 number becomes a whole number, and one that is not
finite does not count. -/
def parseNumber? (s : String) : Option Document :=
  let word := trim s.toList
  match wholeNumber? word with
  | some n => some (.int n)
  | none =>
    match binary64? word with
    | some (.finite negative scale fraction) =>
      let x := Binary64.finite negative scale fraction
      match x.toInt? with
      | some n => some (.int n)
      | none => some (.float x)
    | _ => none

/-- The first of the given words that a text has as a word of its own, given the character before. -/
def firstWord? (words : List String) (before : Option Char) : List Char → Option String
  | [] => none
  | c :: rest =>
    let here := words.find? fun w =>
      w.toList.isPrefixOf (c :: rest) && !before.any isWord &&
        !(((c :: rest).drop w.length).head?.any isWord)
    match here with
    | some w => some w
    | none => firstWord? words (some c) rest

end Text

namespace Coercion

/-- The words for kinds that a value can be turned into. -/
def kindWords : List String := ["string", "number", "boolean", "array", "object"]

/-- The first kind that a description of what is expected names. -/
def expectedKind? : Document → Except Fault (Option Kind)
  | .string s => .ok ((Text.firstWord? kindWords none s.toList).bind Kind.ofWord?)
  | d => if d.truthy then .error .wrongKind else .ok none

def numberText : Document → String
  | .bool b => if b then "true" else "false"
  | .float x =>
    match x.toInt? with
    | some n => toString n
    | none => (Document.float x).literal
  | d => d.literal

/-- Whether a number is not zero; not-a-number is not. -/
def isNonzero : Document → Bool
  | .int n => n != 0
  | .float x => !x.isZero
  | _ => false

/-- A value turned into one of another kind; `none` if there is no sensible way. -/
def coerce (target : Option Kind) (d : Document) : Option Document :=
  match target, d with
  | some .string, .null => some (.string "")
  | some .string, .bool b => some (.string (numberText (.bool b)))
  | some .string, .int n => some (.string (numberText (.int n)))
  | some .string, .float x => some (.string (numberText (.float x)))
  | some .number, .bool b => some (.int (if b then 1 else 0))
  | some .number, .string s => Text.parseNumber? s
  | some .boolean, .string s => some (.bool (Text.lowerAscii s == "true"))
  | some .boolean, .int n => some (.bool (isNonzero (.int n)))
  | some .boolean, .float x => some (.bool (isNonzero (.float x)))
  | some .array, .null => none
  | some .array, .array _ => none
  | some .array, d => some (.array [d])
  | some .object, .object _ => none
  | some .object, _ => some (.object [])
  | _, _ => none

end Coercion

namespace Severity

/-- What the severities of the format are called elsewhere. -/
def synonyms : List (String × String) :=
  [("error", "ERROR"), ("err", "ERROR"), ("fatal", "ERROR"), ("warning", "WARNING"),
    ("warn", "WARNING"), ("caution", "WARNING"), ("info", "INFO"), ("information", "INFO"),
    ("note", "INFO")]

/-- The severity for what has no other. -/
def unknown : String := "UNKNOWN_SEVERITY"

def normalize : Document → String
  | .string s =>
    (synonyms.lookup (Text.lowerAscii (String.ofList (Text.trim s.toList)))).getD unknown
  | _ => unknown

end Severity

def Document.display : Document → String
  | .string s => s
  | .null => "undefined"
  | d => d.print .inline

end ReviewDiagnostics
