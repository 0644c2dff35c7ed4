import ReviewDiagnostics.Document.Basic
import ReviewDiagnostics.Number.Decimal
import ReviewDiagnostics.Text.Quoted

/-!
# Documents in messages

Messages show a document as a literal: texts in quotes, lists and objects in brackets, the three
named constants with a capital letter.  A text that is the whole value is shown bare.
-/

namespace ReviewDiagnostics.Document

mutual

def literal : Document → String
  | .null => "None"
  | .bool true => "True"
  | .bool false => "False"
  | .int n => toString n
  | .float x => String.ofList (x.text Binary64.messageNames)
  | .string s => Text.quoted s
  | .array items => "[" ++ ", ".intercalate (literals items) ++ "]"
  | .object fields => "\x7b" ++ ", ".intercalate (fieldLiterals fields) ++ "\x7d"

def literals : List Document → List String
  | [] => []
  | x :: xs => x.literal :: literals xs

def fieldLiterals : List (String × Document) → List String
  | [] => []
  | (name, x) :: xs => (Text.quoted name ++ ": " ++ x.literal) :: fieldLiterals xs

end

def shown : Document → String
  | .string s => s
  | d => d.literal

end ReviewDiagnostics.Document
