import ReviewDiagnostics.Document.Token

/-!
# Reading documents

A document is read from its tokens by a machine that keeps the lists and objects still open on a
stack and knows what may come next.  Each token is one step, so reading is a fold.
-/

namespace ReviewDiagnostics

namespace Reader

/-- A list or an object that is still open, with what it holds so far in reverse. -/
inductive Frame where
  | list (items : List Document)
  /-- An object whose next value belongs to `name`. -/
  | object (fields : List (String × Document)) (name : String)

/-- What may come next. -/
inductive Awaiting where
  | value
  /-- The first item of a list, or its end. -/
  | firstItem
  /-- The first name of an object, or its end. -/
  | firstName
  /-- A name of an object that has fields already. -/
  | name (fields : List (String × Document))
  | colon (fields : List (String × Document)) (name : String)
  /-- A comma or the end of the innermost list or object, after the value at hand. -/
  | comma (d : Document)

/-- The machine: open lists and objects, innermost first, and what may come next. -/
structure State where
  frames : List Frame
  awaiting : Awaiting

/-- How deeply lists and objects may be nested. -/
def maxDepth : Nat := 1000

/-- The state before the first token. -/
def start : State := ⟨[], .value⟩

/-- Opens a list or an object, unless too many are open already. -/
def descend (frames : List Frame) (awaiting : Awaiting) : Except ReadFault State :=
  if frames.length < maxDepth then .ok ⟨frames, awaiting⟩ else .error .tooDeep

def stepValue (frames : List Frame) (t : Token) : Except ReadFault State :=
  match t.lexeme with
  | .text s => .ok ⟨frames, .comma (.string s)⟩
  | .scalar d => .ok ⟨frames, .comma d⟩
  | .openList => descend frames .firstItem
  | .openObject => descend frames .firstName
  | .brokenText fault | .broken fault => .error fault
  | _ => .error (.at .valueExpected t.start)

/-- A name of an object with the given fields. -/
def stepName (frames : List Frame) (fields : List (String × Document)) (t : Token) :
    Except ReadFault State :=
  match t.lexeme with
  | .text s => .ok ⟨frames, .colon fields s⟩
  | .brokenText fault => .error fault
  | _ => .error (.at .nameExpected t.start)

def stepAfter (frames : List Frame) (d : Document) (t : Token) : Except ReadFault State :=
  match frames, t.lexeme with
  | [], _ => .error (.at .extraData t.start)
  | .list items :: rest, .comma => .ok ⟨.list (d :: items) :: rest, .value⟩
  | .list items :: rest, .closeList => .ok ⟨rest, .comma (.array (d :: items).reverse)⟩
  | .object fields name :: rest, .comma => .ok ⟨rest, .name ((name, d) :: fields)⟩
  | .object fields name :: rest, .closeObject =>
    .ok ⟨rest, .comma (.object (Fields.ofList ((name, d) :: fields).reverse))⟩
  | _, _ => .error (.at .commaExpected t.start)

def step (s : State) (t : Token) : Except ReadFault State :=
  match s.awaiting with
  | .value => stepValue s.frames t
  | .firstItem =>
    match t.lexeme with
    | .closeList => .ok ⟨s.frames, .comma (.array [])⟩
    | _ => stepValue (.list [] :: s.frames) t
  | .firstName =>
    match t.lexeme with
    | .closeObject => .ok ⟨s.frames, .comma (.object [])⟩
    | _ => stepName s.frames [] t
  | .name fields => stepName s.frames fields t
  | .colon fields name =>
    match t.lexeme with
    | .colon => .ok ⟨.object fields name :: s.frames, .value⟩
    | _ => .error (.at .colonExpected t.start)
  | .comma d => stepAfter s.frames d t

def finish (length : Nat) (s : State) : Except ReadFault Document :=
  match s.awaiting, s.frames with
  | .comma d, [] => .ok d
  | .comma _, _ => .error (.at .commaExpected length)
  | .value, _ | .firstItem, _ => .error (.at .valueExpected length)
  | .firstName, _ | .name _, _ => .error (.at .nameExpected length)
  | .colon _ _, _ => .error (.at .colonExpected length)

/-- The document that tokens of a text of the given length make up. -/
def run (length : Nat) (tokens : List Token) : Except ReadFault Document := do
  finish length (← tokens.foldlM step start)

end Reader

/-- Reads the document that a text is. -/
def Document.read (cs : List Char) : Except ReadFault Document :=
  if cs.head? = some '\ufeff' then .error (.at .byteOrderMark 0)
  else Reader.run cs.length (Token.cut 0 cs)

end ReviewDiagnostics
