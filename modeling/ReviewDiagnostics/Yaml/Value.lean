import ReviewDiagnostics.Calendar.Moment
import ReviewDiagnostics.Document.Literal

/-!
# Values of settings

A settings file can hold more than a document: bytes, moments, sets, rows of a table, and mappings
whose keys are any values that do not change.  A value can stand in several places, which shows when
settings are written: it is written once, and has a name in the other places.  A value that is part of
itself is cut off where it comes round again.
-/

namespace ReviewDiagnostics.Yaml

/-- A value that a settings file can hold.  Values that were read have an origin, the number of the part
of the document that they were read from; values of one origin are one value in several places. -/
inductive Value where
  | null
  | bool (b : Bool)
  | int (n : Int)
  | float (x : Binary64)
  /-- The not-a-number of settings files.  There is only this one, and it equals itself. -/
  | notNumber
  | string (s : String)
  | bytes (bs : List UInt8)
  | moment (m : Moment) (origin? : Option Nat)
  | list (items : List Value) (origin? : Option Nat)
  | row (items : List Value)
  | set (items : List Value) (origin? : Option Nat)
  | mapping (pairs : List (Value × Value)) (origin? : Option Nat)
  /-- The list or the mapping of an origin, which this value is part of. -/
  | again (origin : Nat) (isMapping : Bool)

namespace Value

instance : Inhabited Value := ⟨.null⟩

/-- What counts as yes: everything but null, false, zero and what is empty. -/
def truthy : Value → Bool
  | .null => false
  | .bool b => b
  | .int n => n != 0
  | .float x => !x.isZero
  | .string s => s != ""
  | .bytes bs => !bs.isEmpty
  | .list items _ | .row items | .set items _ => !items.isEmpty
  | .mapping pairs _ => !pairs.isEmpty
  | .notNumber | .moment _ _ | .again _ _ => true

/-- A number or a boolean; a boolean counts as one or zero. -/
def isNumeric : Value → Bool
  | .bool _ | .int _ | .float _ | .notNumber => true
  | _ => false

/-- The place of a number or a boolean on the extended line. -/
def quantity? : Value → Option Quantity
  | .bool b => some (.exact (if b then 1 else 0))
  | .int n => some (.exact n)
  | .float x => x.quantity?
  | _ => none

/-- The same number; not-a-number is the same as none. -/
def sameNumber (a b : Value) : Bool :=
  match a.quantity?, b.quantity? with
  | some x, some y => x == y
  | _, _ => false

mutual

/-- Equal up to the order of pairs and the writing of numbers; a boolean equals the number it counts
as. -/
def same : Value → Value → Bool
  | .null, .null => true
  | .notNumber, .notNumber => true
  | .string s, .string t => s == t
  | .bytes bs, .bytes cs => bs == cs
  | .moment m _, .moment n _ => m.same n
  | .list xs _, .list ys _ => sameItems xs ys
  | .row xs, .row ys => sameItems xs ys
  | .set xs _, .set ys _ => xs.length == ys.length && sameMembers xs ys
  | .mapping xs _, .mapping ys _ => xs.length == ys.length && samePairs xs ys
  | .again m _, .again n _ => m == n
  | .bool a, b => sameNumber (.bool a) b
  | .int a, b => sameNumber (.int a) b
  | .float a, b => sameNumber (.float a) b
  | _, _ => false

/-- Lists of pairwise equal values. -/
def sameItems : List Value → List Value → Bool
  | [], [] => true
  | x :: xs, y :: ys => same x y && sameItems xs ys
  | _, _ => false

/-- Every member is found in the other set. -/
def sameMembers : List Value → List Value → Bool
  | [], _ => true
  | x :: xs, ys => ys.any (fun y => same x y) && sameMembers xs ys

/-- Every pair is found in the other mapping, with an equal key and an equal value. -/
def samePairs : List (Value × Value) → List (Value × Value) → Bool
  | [], _ => true
  | (k, x) :: xs, ys => ys.any (fun (l, y) => same k l && same x y) && samePairs xs ys

end

/-- What stands for a key. -/
def valueOf? {α : Type} : List (Value × α) → Value → Option α
  | [], _ => none
  | (k, x) :: rest, key => if k.same key then some x else valueOf? rest key

/-- Gives a key something to stand for: in its place if it is there, at the end otherwise. -/
def put {α : Type} : List (Value × α) → Value → α → List (Value × α)
  | [], key, value => [(key, value)]
  | (k, x) :: rest, key, value =>
    if k.same key then (k, value) :: rest else (k, x) :: put rest key value

/-- The pairs of a mapping in which later pairs override earlier ones of the same key. -/
def settle {α : Type} (pairs : List (Value × α)) : List (Value × α) :=
  pairs.foldl (fun settled p => put settled p.1 p.2) []

mutual

def ofDocument : Document → Value
  | .null => .null
  | .bool b => .bool b
  | .int n => .int n
  | .float x => .float x
  | .string s => .string s
  | .array items => .list (ofItems items) none
  | .object fields => .mapping (ofFields fields) none

/-- Documents as values. -/
def ofItems : List Document → List Value
  | [] => []
  | x :: xs => ofDocument x :: ofItems xs

/-- Fields as pairs. -/
def ofFields : List (String × Document) → List (Value × Value)
  | [] => []
  | (name, x) :: xs => (.string name, ofDocument x) :: ofFields xs

end

def sortWord : Value → String
  | .null => "NoneType"
  | .bool _ => "bool"
  | .int _ => "int"
  | .float _ | .notNumber => "float"
  | .string _ => "str"
  | .bytes _ => "bytes"
  | .moment m _ => m.sortWord
  | .list _ _ | .again _ false => "list"
  | .row _ => "tuple"
  | .set _ _ => "set"
  | .mapping _ _ | .again _ true => "dict"

def byteText (quote : Char) (b : UInt8) : List Char :=
  let c := Char.ofNat b.toNat
  if c = quote ∨ c = '\\' then ['\\', c]
  else if c = '\t' then ['\\', 't']
  else if c = '\n' then ['\\', 'n']
  else if c = '\r' then ['\\', 'r']
  else if ' ' ≤ c ∧ c ≤ '~' then [c]
  else '\\' :: 'x' :: Text.hex 2 b.toNat

/-- Bytes as a literal. -/
def bytesLiteral (bs : List UInt8) : String :=
  let quote := Text.quoteFor (bs.map fun b => Char.ofNat b.toNat)
  String.ofList ('b' :: quote :: bs.flatMap (byteText quote) ++ [quote])

mutual

def literal : Value → String
  | .null => "None"
  | .bool true => "True"
  | .bool false => "False"
  | .int n => toString n
  | .float x => String.ofList (x.text Binary64.messageNames)
  | .notNumber => "nan"
  | .string s => Text.quoted s
  | .bytes bs => bytesLiteral bs
  | .moment m _ => m.literal
  | .list items _ => "[" ++ ", ".intercalate (literals items) ++ "]"
  | .row items => "(" ++ ", ".intercalate (literals items) ++ ")"
  | .set [] _ => "set()"
  | .set (x :: xs) _ => "\x7b" ++ ", ".intercalate (literal x :: literals xs) ++ "\x7d"
  | .mapping pairs _ => "\x7b" ++ ", ".intercalate (pairLiterals pairs) ++ "\x7d"
  | .again _ false => "[...]"
  | .again _ true => "\x7b...\x7d"

/-- Values as literals. -/
def literals : List Value → List String
  | [] => []
  | x :: xs => literal x :: literals xs

/-- Pairs as literals. -/
def pairLiterals : List (Value × Value) → List String
  | [] => []
  | (k, x) :: xs => (literal k ++ ": " ++ literal x) :: pairLiterals xs

end

/-- A value as a text; only values that are not part of another one are shown without quotes. -/
def shown : Value → String
  | .string s => s
  | .moment m _ => m.shown
  | v => v.literal

def fieldName : Value → String
  | .null => "null"
  | .bool true => "true"
  | .bool false => "false"
  | v => v.shown

mutual

/-- A value as a document.  What documents cannot hold is shown as a text. -/
def toDocument : Value → Document
  | .null => .null
  | .bool b => .bool b
  | .int n => .int n
  | .float x => .float x
  | .notNumber => .float .nan
  | .string s => .string s
  | .bytes bs => .string (bytesLiteral bs)
  | .moment m _ => .string m.shown
  | .list items _ | .row items | .set items _ => .array (toItems items)
  | .mapping pairs _ => .object (Fields.ofList (toFields pairs))
  | .again origin isMapping => .string (again origin isMapping).literal

/-- Values as documents. -/
def toItems : List Value → List Document
  | [] => []
  | x :: xs => toDocument x :: toItems xs

/-- Pairs as fields. -/
def toFields : List (Value × Value) → List (String × Document)
  | [] => []
  | (k, x) :: xs => (k.fieldName, toDocument x) :: toFields xs

end

mutual

/-- Whether a value is part of itself, or has a part that is. -/
def isEndless : Value → Bool
  | .list items _ | .row items | .set items _ => hasEndless items
  | .mapping pairs _ => hasEndlessPair pairs
  | .again _ _ => true
  | _ => false

/-- Whether one of several values has no end. -/
def hasEndless : List Value → Bool
  | [] => false
  | x :: xs => isEndless x || hasEndless xs

/-- Whether the value of one of several pairs has no end. -/
def hasEndlessPair : List (Value × Value) → Bool
  | [] => false
  | (_, x) :: xs => isEndless x || hasEndlessPair xs

end

end Value

end ReviewDiagnostics.Yaml
