import ReviewDiagnostics.Logging.Conversion
import ReviewDiagnostics.Logging.Record
import ReviewDiagnostics.Pattern.Reader
import ReviewDiagnostics.Pattern.Search
import ReviewDiagnostics.Yaml.Value

/-!
# Layouts of log lines

A layout is a text with fields in it, each a percent sign and a name in parentheses with a letter
behind it that says how it is shown: `%(message)s`.  Before the letter a field may have marks, a width,
a precision and a length letter that has no meaning.  A percent sign that is meant as such is written
twice.  One without a name shows the whole record, but only in front of all fields, and only as far as it
is the same in all places and at all times.
-/

namespace ReviewDiagnostics

/-- A piece of a log line. -/
inductive LayoutPiece where
  | literal (c : Char)
  | field (name : String) (conversion : Conversion)
  | whole (conversion : Conversion)
  deriving DecidableEq

/-- How a log line is put together. -/
inductive Layout where
  | pieces (ps : List LayoutPiece)
  /-- There is a field that cannot be shown: no line can be written. -/
  | unusable
  deriving DecidableEq

namespace Layout

/-- The form of a field.  It has to be found in a layout. -/
def fieldForm : Except PatternFault Pattern :=
  Pattern.read "(?i)%\\(\\w+\\)[#0+ -]*(\\*|\\d+)?(\\.(\\*|\\d+))?[diouxefgcrsa%]"

def hasField (s : String) : Bool :=
  fieldForm.toOption.any (·.occursIn s)

/-- A name up to its closing parenthesis, and what follows that.  Parentheses in a name are paired. -/
def fieldName? : (depth : Nat) → List Char → Option (List Char × List Char)
  | _, [] => none
  | 0, ')' :: rest => some ([], rest)
  | depth + 1, ')' :: rest => (fieldName? depth rest).map fun (cs, after) => (')' :: cs, after)
  | depth, '(' :: rest => (fieldName? (depth + 1) rest).map fun (cs, after) => ('(' :: cs, after)
  | depth, c :: rest => (fieldName? depth rest).map fun (cs, after) => (c :: cs, after)

/-- The number that digits are, and what follows them. -/
def leadingNumber (cs : List Char) : Nat × List Char :=
  let digits := cs.takeWhile Text.isAsciiDigit
  (digits.foldl (fun n c => n * 10 + (c.toNat - '0'.toNat)) 0, cs.drop digits.length)

/-- A conversion, and what follows it. -/
def conversion? (cs : List Char) : Option (Conversion × List Char) :=
  let marks := cs.takeWhile fun c => ['-', '+', ' ', '#', '0'].contains c
  let (width, cs) := leadingNumber (cs.drop marks.length)
  let (precision, cs) := match cs with
    | '.' :: cs => let (n, cs) := leadingNumber cs; (some n, cs)
    | cs => (none, cs)
  match cs with
  | [] => none
  | c :: cs =>
    if ['h', 'l', 'L'].contains c then cs.head?.map fun d => (⟨marks, width, precision, d⟩, cs.tail)
    else some (⟨marks, width, precision, c⟩, cs)

/-- A field after its opening parenthesis, and what follows it. -/
def field? (cs : List Char) : Option (LayoutPiece × List Char) := do
  let (name, cs) ← fieldName? 0 cs
  let (conversion, cs) ← conversion? cs
  return (.field (String.ofList name) conversion, cs)

/-- The pieces of a text of at most `fuel` characters, if percent signs stand where they may. -/
def read : (fuel : Nat) → List Char → Option (List LayoutPiece)
  | _, [] => some []
  | 0, _ => none
  | fuel + 1, '%' :: '%' :: cs => (LayoutPiece.literal '%' :: ·) <$> read fuel cs
  | fuel + 1, '%' :: '(' :: cs => do
    let (piece, cs) ← field? cs
    return piece :: (← read fuel cs)
  | fuel + 1, '%' :: cs => do
    let (conversion, cs) ← conversion? cs
    return .whole conversion :: (← read fuel cs)
  | fuel + 1, c :: cs => (LayoutPiece.literal c :: ·) <$> read fuel cs

/-- Whether the whole record is shown nowhere but in front of everything else that is shown. -/
def wholeFirst (ps : List LayoutPiece) : Bool :=
  let shown := ps.filter fun
    | .literal _ => false
    | _ => true
  shown.tail.all fun
    | .whole _ => false
    | _ => true

/-- The layout that a text describes.  There has to be a field in it. -/
def ofString (s : String) : Except Fault Layout :=
  if hasField s then
    .ok (match read s.length s.toList with
      | some ps => if wholeFirst ps then .pieces ps else .unusable
      | none => .unusable)
  else .error (.invalidLogFormat s)

/-- The description of the layout that is used where no other one is asked for. -/
def standard : String := "%(asctime)s [%(levelname)s] %(name)s: %(message)s"

/-- The layout that a setting asks for; a setting that counts as no asks for the standard one. -/
def ofValue (v : Yaml.Value) : Except Fault Layout :=
  if v.truthy then
    match v with
    | .string s => ofString s
    | _ => .error .wrongKind
  else ofString standard

/-- What a record that is told at the given time has under a name. -/
def fieldValue? (time : String) (r : Record) : String → Option FieldValue
  | "levelname" => some (.text r.level.name)
  | "levelno" => some (.number r.level)
  | "name" => some (.text r.origin)
  | "message" | "msg" => some (.text r.message)
  | "asctime" => some (.text time)
  | "threadName" => some (.text "MainThread")
  | "processName" => some (.text "MainProcess")
  | "args" => some (.bare "()")
  | "exc_info" | "exc_text" | "stack_info" => some (.bare "None")
  | _ => none

/-- The whole record as far as it does not depend on place and time, if a conversion shows no more of
it. -/
def wholeValue? (r : Record) (conversion : Conversion) : Option FieldValue :=
  let quoted := if conversion.letter = 'a' then Text.quotedAscii else Text.quoted
  let start := "\x7b'name': " ++ quoted r.origin ++ ", 'msg': " ++ quoted r.message ++
    ", 'args': (), 'levelname': " ++ quoted r.level.name ++ ", 'levelno': " ++ toString r.level ++
    ", 'pathname': "
  if conversion.precision.any (· ≤ start.length) then some (.bare start) else none

/-- A piece of the line of a record, if it can be shown. -/
def pieceText? (time : String) (r : Record) : LayoutPiece → Option (List Char)
  | .literal c => some [c]
  | .field name conversion => (fieldValue? time r name).bind conversion.show?
  | .whole conversion => (wholeValue? r conversion).bind conversion.show?

/-- The line of a record that is told at the given time, if all its pieces can be shown. -/
def line? (time : String) (r : Record) : Layout → Option String
  | .pieces ps => (ps.mapM (pieceText? time r)).map fun texts => String.ofList texts.flatten
  | .unusable => none

end Layout

end ReviewDiagnostics
