import ReviewDiagnostics.Document.Comments
import ReviewDiagnostics.Document.Reader
import ReviewDiagnostics.Fault
import ReviewDiagnostics.Text.Blank
import ReviewDiagnostics.Text.Utf8

/-!
# Sources of documents

A document comes from a text, from the bytes of a stream or from a file.  Whatever goes wrong is
reported as a failure with a place in the text, counted in lines and columns from one, where there
is such a place.
-/

namespace ReviewDiagnostics

/-- Why a source gives no document. -/
structure ParseFailure where
  message : String
  line : Option Nat
  column : Option Nat

/-- A failure on one line, with its place in parentheses. -/
def ParseFailure.shown (f : ParseFailure) : String :=
  match f.line, f.column with
  | some l, some c => s!"{f.message} (line {l}, column {c})"
  | _, _ => f.message

/-- The line and the column, from one, of a position in a text. -/
def lineAndColumn (cs : List Char) (position : Nat) : Nat × Nat :=
  let before := cs.take position
  (before.count '\n' + 1, (before.reverse.takeWhile (· ≠ '\n')).length + 1)

/-- The wording of what is wrong at a position. -/
def ReadCause.message : ReadCause → String
  | .valueExpected => "Expecting value"
  | .extraData => "Extra data"
  | .nameExpected => "Expecting property name enclosed in double quotes"
  | .colonExpected => "Expecting ':' delimiter"
  | .commaExpected => "Expecting ',' delimiter"
  | .unterminatedText => "Unterminated string starting at"
  | .controlCharacter => "Invalid control character at"
  | .badEscape => "Invalid \\escape"
  | .badUnicodeEscape => "Invalid \\uXXXX escape"
  | .byteOrderMark => "Unexpected UTF-8 BOM (decode using utf-8-sig)"

/-- Why a source gives no document, before it is worded. -/
inductive SourceFault where
  | empty
  /-- The text, in which comments are blanked, is not a document. -/
  | unread (cs : List Char) (fault : ReadFault)
  /-- There is no text. -/
  | unreadable (message : String)

namespace SourceFault

def failure : SourceFault → ParseFailure
  | .empty => ⟨"Input is empty", some 1, some 1⟩
  | .unread cs (.at cause position) =>
    let (line, column) := lineAndColumn cs position
    ⟨cause.message, some line, some column⟩
  | .unread _ (.constant name) =>
    ⟨s!"Unexpected token {name}: non-standard JSON constants are not allowed", none, none⟩
  | .unread _ (.tooManyDigits count) =>
    ⟨((Fault.tooManyDigits count).message?).getD "", none, none⟩
  | .unread _ .tooDeep => ⟨"Input is nested too deeply", none, none⟩
  | .unreadable message => ⟨message, none, none⟩

/-- What is noted about a fault with a place in the text. -/
def note? : SourceFault → Option String
  | .unread cs (.at cause position) =>
    let (line, column) := lineAndColumn cs position
    some s!"JSON decode failed: {cause.message}: line {line} column {column} (char {position})"
  | _ => none

end SourceFault

namespace Source

/-- The document that a text is, in which there may be comments. -/
def ofText (allowComments : Bool) (cs : List Char) : Except SourceFault Document :=
  if cs.all Text.isBlank then .error .empty
  else
    let cs := if allowComments then Comments.blank cs else cs
    match Document.read cs with
    | .ok d => .ok d
    | .error fault => .error (.unread cs fault)

/-- The document that the bytes of a stream are. -/
def ofStream (allowComments : Bool) (bytes : List UInt8) : Except SourceFault Document :=
  match Text.Utf8.decode bytes with
  | .ok cs => ofText allowComments cs
  | .error fault => .error (.unreadable s!"Failed to read stream: {fault.message}")

/-- The document that the bytes of the standard input are; a byte order mark is part of the text. -/
def ofInput (allowComments : Bool) (bytes : List UInt8) : Except SourceFault Document :=
  match Text.Utf8.decodeFrom 0 none bytes with
  | .ok cs => ofText allowComments cs
  | .error fault => .error (.unreadable s!"Failed to read stream: {fault.message}")

/-- A text with every line end written as one line feed. -/
def unifyLineEnds : List Char → List Char
  | [] => []
  | '\r' :: '\n' :: cs => '\n' :: unifyLineEnds cs
  | '\r' :: cs => '\n' :: unifyLineEnds cs
  | c :: cs => c :: unifyLineEnds cs

/-- The text of a file.  A file that breaks off inside the byte order mark has none. -/
def fileText (bytes : List UInt8) : Except Text.Utf8Fault (List Char) :=
  if bytes = [0xef] ∨ bytes = [0xef, 0xbb] then .ok []
  else (Text.Utf8.decode bytes).map unifyLineEnds

/-- The document that the bytes of a file are. -/
def ofFile (allowComments : Bool) (bytes : List UInt8) : Except SourceFault Document :=
  match fileText bytes with
  | .ok cs => ofText allowComments cs
  | .error fault => .error (.unreadable s!"Failed to read file: {fault.message}")

end Source

end ReviewDiagnostics
