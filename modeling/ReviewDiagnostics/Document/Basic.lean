import ReviewDiagnostics.Number.Binary64

/-!
# Documents

A document is a decoded value: null, a boolean, a number, a text, a list, or an object whose fields
keep their order.  Whole numbers of unlimited size and binary64 numbers are different numbers, as
they are in the texts that documents are read from.
-/

namespace ReviewDiagnostics

/-- A decoded value. -/
inductive Document where
  | null
  | bool (b : Bool)
  | int (n : Int)
  | float (x : Binary64)
  | string (s : String)
  | array (items : List Document)
  | object (fields : List (String × Document))

/-- What a document can be asked to be. -/
inductive Kind where
  | string
  | number
  | boolean
  | object
  | array
  | null
  deriving DecidableEq

/-- The name of a kind in schemas and messages. -/
def Kind.word : Kind → String
  | .string => "string"
  | .number => "number"
  | .boolean => "boolean"
  | .object => "object"
  | .array => "array"
  | .null => "null"

def Kind.ofWord? (word : String) : Option Kind :=
  [Kind.string, .number, .boolean, .object, .array, .null].find? (·.word == word)

/-- The fields of an object, in order. -/
abbrev Fields := List (String × Document)

namespace Fields

def has (fields : Fields) (name : String) : Bool :=
  fields.any (·.1 == name)

def get? : Fields → String → Option Document
  | [], _ => none
  | (k, v) :: rest, name => if k = name then some v else get? rest name

/-- Gives a field a value: in its place if it is there, at the end otherwise. -/
def put : Fields → String → Document → Fields
  | [], name, value => [(name, value)]
  | (k, v) :: rest, name, value =>
    if k = name then (k, value) :: rest else (k, v) :: put rest name value

/-- The fields of a list of pairs, later pairs overriding earlier ones of the same name. -/
def ofList (pairs : List (String × Document)) : Fields :=
  pairs.foldl (fun fields p => put fields p.1 p.2) []

theorem get?_put_self (fields : Fields) (name : String) (value : Document) :
    (fields.put name value).get? name = some value := by
  induction fields with
  | nil => simp [put, get?]
  | cons p rest ih =>
    obtain ⟨k, v⟩ := p
    by_cases h : k = name <;> simp [put, get?, h, ih]

theorem get?_put_of_ne {fields : Fields} {name other : String} (value : Document)
    (h : other ≠ name) : (fields.put name value).get? other = fields.get? other := by
  induction fields with
  | nil => simp [put, get?, Ne.symm h]
  | cons p rest ih =>
    obtain ⟨k, v⟩ := p
    by_cases hk : k = name
    · subst hk
      simp [put, get?, Ne.symm h]
    · rw [put, if_neg hk, get?, get?, ih]

theorem has_eq_isSome_get? (fields : Fields) (name : String) :
    fields.has name = (fields.get? name).isSome := by
  induction fields with
  | nil => rfl
  | cons p rest ih =>
    obtain ⟨k, v⟩ := p
    have step : Fields.has ((k, v) :: rest) name = ((k == name) || Fields.has rest name) := rfl
    by_cases h : k = name
    · rw [step, get?, if_pos h, h, beq_self_eq_true, Bool.true_or, Option.isSome_some]
    · rw [step, ih, get?, if_neg h, beq_false_of_ne h, Bool.false_or]

end Fields

namespace Document

instance : Inhabited Document := ⟨.null⟩

/-- The kind of a document; not-a-number is of none. -/
def kind? : Document → Option Kind
  | .null => some .null
  | .bool _ => some .boolean
  | .int _ => some .number
  | .float .nan => none
  | .float _ => some .number
  | .string _ => some .string
  | .array _ => some .array
  | .object _ => some .object

/-- The name of the kind, for messages. -/
def kindWord (d : Document) : String :=
  (d.kind?.map Kind.word).getD "float"

/-- What counts as yes where any document may stand for a choice: everything but null, false, zero
and what is empty. -/
def truthy : Document → Bool
  | .null => false
  | .bool b => b
  | .int n => n != 0
  | .float x => !x.isZero
  | .string s => s != ""
  | .array items => !items.isEmpty
  | .object fields => !fields.isEmpty

/-- An object; anything else has no fields. -/
def fields? : Document → Option Fields
  | .object fields => some fields
  | _ => none

/-- A field of an object, null if there is none. -/
def field (fields : Fields) (name : String) : Document :=
  (fields.get? name).getD .null

/-- Null as nothing, every other document as itself. -/
def present? : Document → Option Document
  | .null => none
  | d => some d

/-- A number or a boolean; a boolean counts as one or zero. -/
def isNumeric : Document → Bool
  | .bool _ | .int _ | .float _ => true
  | _ => false

/-- A number that is not a boolean. -/
def isNumber : Document → Bool
  | .int _ | .float _ => true
  | _ => false

/-- The place of a number or a boolean on the extended line. -/
def quantity? : Document → Option Quantity
  | .bool b => some (.exact (if b then 1 else 0))
  | .int n => some (.exact n)
  | .float x => x.quantity?
  | _ => none

/-- The exact order of numbers; not-a-number is neither below nor above anything. -/
def less (a b : Document) : Bool :=
  match a.quantity?, b.quantity? with
  | some x, some y => x.lt y
  | _, _ => false

/-- The same number, or not-a-number twice. -/
def sameNumber (a b : Document) : Bool :=
  a.isNumeric && b.isNumeric && a.quantity? == b.quantity?

mutual

/-- Equal up to the order of fields and the writing of numbers; a boolean equals the number it counts
as. -/
def same : Document → Document → Bool
  | .null, .null => true
  | .string s, .string t => s == t
  | .array xs, .array ys => sameItems xs ys
  | .object xs, .object ys => xs.length == ys.length && sameFields xs ys
  | .bool a, b => sameNumber (.bool a) b
  | .int a, b => sameNumber (.int a) b
  | .float a, b => sameNumber (.float a) b
  | _, _ => false

/-- Lists of pairwise equal documents. -/
def sameItems : List Document → List Document → Bool
  | [], [] => true
  | x :: xs, y :: ys => x.same y && sameItems xs ys
  | _, _ => false

/-- Every field is found in the other object with an equal value. -/
def sameFields : List (String × Document) → Fields → Bool
  | [], _ => true
  | (name, x) :: xs, ys =>
    (match Fields.get? ys name with
      | some y => x.same y
      | none => false) && sameFields xs ys

end

end Document

end ReviewDiagnostics
