import ReviewDiagnostics.Fault

/-!
# Paths into documents

A path names a place in a document by field names and list indices.  As text, names are joined by
dots and indices stand in brackets, as in `diagnostics[0].location.path`.
-/

namespace ReviewDiagnostics

/-- One step into a document.  A negative index counts from the end of a list. -/
inductive Segment where
  | name (s : String)
  | index (n : Int)
  deriving DecidableEq

namespace Path

def join (base : String) : Segment → String
  | .index n => s!"{base}[{n}]"
  | .name s => if base = "" then s else s!"{base}.{s}"

def ofSegments (segments : List Segment) : String :=
  segments.foldl join ""

/-- A character that no name in a path text holds. -/
def isMark (c : Char) : Bool :=
  c = '.' || c = '[' || c = ']'

/-- The number that decimal digits of any script denote. -/
def indexOf (digits : List Char) : Nat :=
  digits.foldl (fun n c => n * 10 + (Text.digitValue? c).getD 0) 0

/-- The steps of a path text: digits in brackets are an index, every other stretch without marks is a
name, and all other marks are skipped. -/
def scan : List Char → Except Fault (List Segment)
  | [] => .ok []
  | c :: cs =>
    if c = '[' then
      let digits := cs.takeWhile Text.isDecimalDigit
      if digits ≠ [] ∧ cs[digits.length]? = some ']' then
        if Text.maxDigits < digits.length then .error (.tooManyDigits digits.length)
        else do
          return .index (indexOf digits) :: (← scan (cs.drop (digits.length + 1)))
      else scan cs
    else if isMark c then scan cs
    else do
      let rest := cs.takeWhile (!isMark ·)
      return .name (String.ofList (c :: rest)) :: (← scan (cs.drop rest.length))
termination_by cs => cs.length
decreasing_by all_goals simp +arith

def parse (path : String) : Except Fault (List Segment) :=
  scan path.toList

end Path

namespace Document

/-- The place in a list that an index means: from the end if it is negative. -/
def listIndex? (length : Nat) (n : Int) : Option Nat :=
  if 0 ≤ n then some n.toNat
  else if 0 ≤ n + length then some (n + length).toNat
  else none

/-- The value at a path; `none` if a step leads nowhere. -/
def at? (d : Document) : List Segment → Except Fault (Option Document)
  | [] => .ok (some d)
  | .name s :: rest =>
    match d with
    | .object fields =>
      match Fields.get? fields s with
      | some v => v.at? rest
      | none => .ok none
    | _ => .ok none
  | .index n :: rest =>
    match d with
    | .array items =>
      match listIndex? items.length n with
      | none => .error .indexBeforeStart
      | some i =>
        match items[i]? with
        | some v => v.at? rest
        | none => .ok none
    | _ => .ok none

/-- The result of writing into a document. -/
inductive Written where
  /-- A step needs a list or an object where something else stands. -/
  | refused
  | done (d : Document)
  /-- An index reaches back too far; the lists and objects made on the way stay. -/
  | beforeStart (d : Document)

/-- What has to stand at a place for a step to lead on from there. -/
def container : Segment → Document
  | .name _ => .object []
  | .index _ => .array []

/-- A list with a new value at a place, filled up with nulls if it is too short. -/
def putItem (items : List Document) (i : Nat) (value : Document) : List Document :=
  if i < items.length then items.set i value
  else items ++ List.replicate (i - items.length) .null ++ [value]

/-- The child to descend into: what is there, or a new container for the next step. -/
def childFor (next : Segment) (slot? : Option Document) : Document :=
  match slot? with
  | none | some .null => container next
  | some d => d

def Written.map (f : Document → Document) : Written → Written
  | .refused => .refused
  | .done d => .done (f d)
  | .beforeStart d => .beforeStart (f d)

/-- Writes a value at a path and makes the lists and objects that are missing, or null, on the way. -/
def write (value : Document) : List Segment → Document → Written
  | [], _ => .refused
  | .name s :: rest, .object fields =>
    match rest with
    | [] => .done (.object (Fields.put fields s value))
    | next :: more =>
      (write value (next :: more) (childFor next (Fields.get? fields s))).map fun child =>
        .object (Fields.put fields s child)
  | .index n :: rest, .array items =>
    match listIndex? items.length n with
    | none => .beforeStart (.array items)
    | some i =>
      match rest with
      | [] => .done (.array (putItem items i value))
      | next :: more =>
        (write value (next :: more) (childFor next items[i]?)).map fun child =>
          .array (putItem items i child)
  | _ :: _, _ => .refused

/-- The document after writing a value at a path; `none` if the path cannot be written. -/
def set? (d : Document) (segments : List Segment) (value : Document) : Option Document :=
  match write value segments d with
  | .done d => some d
  | _ => none

end Document

end ReviewDiagnostics
