import ReviewDiagnostics.Fault
import ReviewDiagnostics.Yaml.Node
import ReviewDiagnostics.Yaml.Tokens

/-!
# Putting documents together from tokens

A document is put together from tokens.  Nodes get their numbers in the order in which they begin.  A
node that has an anchor can be meant again from there on, also inside of itself.  A part that is left out
is an empty scalar.
-/

namespace ReviewDiagnostics.Yaml

/-- A document that is being put together. -/
structure Assembly where
  tokens : List Token
  /-- What handles stand for in front of tags. -/
  handles : List (String × String)
  anchors : List (String × Nat)
  /-- The nodes so far; one that is not complete yet has no parts. -/
  nodes : Array Node

/-- A step in putting a document together. -/
abbrev Assemble := StateT Assembly (Except YamlFault)

/-- Where a node stands. -/
inductive Place where
  | inBrackets
  | inLines
  /-- In lines after the key or the value sign of a pair, where the items of a list need not be indented
  further. -/
  | inPair
  deriving DecidableEq

/-- The most levels of lists and mappings inside each other. -/
def maxDepth : Nat := 500

namespace Assemble

def peek : Assemble Token := do
  return (← get).tokens.head?.getD .streamEnd

def drop : Assemble Unit :=
  modify fun s => { s with tokens := s.tokens.tail }

/-- The next token cannot stand where it does. -/
def unexpected {α : Type} : Assemble α := do
  match ← peek with
  | .broken f => throw f
  | _ => throw .malformed

/-- The handles that need not be declared, with what they stand for. -/
def usualHandles : List (String × String) := [("!", "!"), ("!!", Tag.common)]

/-- A tag with what its handle stands for in the place of the handle. -/
def fullTag (handle? : Option String) (suffix : String) : Assemble String := do
  match handle? with
  | none => return suffix
  | some h =>
    match (← get).handles.lookup h with
    | some meaning => return meaning ++ suffix
    | none => throw .malformed

/-- The anchor of a node, if one stands here. -/
def anchor? : Assemble (Option String) := do
  match ← peek with
  | .anchor name => drop; return some name
  | _ => return none

/-- The tag of a node as it is written, if one stands here. -/
def tag? : Assemble (Option (Option String × String)) := do
  match ← peek with
  | .tag h suffix => drop; return some (h, suffix)
  | _ => return none

/-- The anchor and the tag of a node, in either order. -/
def properties : Assemble (Option String × Option String) := do
  let a ← anchor?
  let t ← tag?
  let a ← if a.isNone && t.isSome then anchor? else pure a
  match t with
  | none => return (a, none)
  | some (h, suffix) => return (a, some (← fullTag h suffix))

/-- Whether a tag leaves the meaning of its node open. -/
def isOpen (tag? : Option String) : Bool := tag?.all (· == "!")

def tagOr (usual : Tag) (tag? : Option String) : Tag :=
  if isOpen tag? then usual else (tag?.map Tag.ofName).getD usual

def scalarTag (tag? : Option String) (isBare : Bool) (text : String) : Tag :=
  match tag? with
  | none => if isBare then .ofForm text else .text
  | some name => if name = "!" then .ofForm text else .ofName name

/-- Adds a node.  An anchor must not be taken yet. -/
def add (a? : Option String) (n : Node) : Assemble Nat := do
  let number := (← get).nodes.size
  match a? with
  | none => pure ()
  | some a =>
    if ((← get).anchors.lookup a).isSome then throw .malformed
    modify fun s => { s with anchors := (a, number) :: s.anchors }
  modify fun s => { s with nodes := s.nodes.push n }
  return number

/-- Completes a node. -/
def complete (number : Nat) (n : Node) : Assemble Nat := do
  modify fun s => { s with nodes := s.nodes.setIfInBounds number n }
  return number

def scalar (a? tag? : Option String) (isBare : Bool) (text : String) : Assemble Nat :=
  add a? (.scalar (scalarTag tag? isBare text) text)

def omitted : Assemble Nat := add none (.scalar .nothing "")

def meant (name : String) : Assemble Nat := do
  match (← get).anchors.lookup name with
  | none => throw .malformed
  | some number => return number

/-- A node of which nothing is written but an anchor or a tag. -/
def emptyNode (a? tag? : Option String) : Assemble Nat :=
  if a?.isSome || tag?.isSome then scalar a? tag? true "" else unexpected

def sees (holds : Token → Bool) : Assemble Bool := do
  return holds (← peek)

/-- Goes over the next token if it has a property. -/
def passes (holds : Token → Bool) : Assemble Bool := do
  let seen ← sees holds
  if seen then drop
  return seen

def isItem : Token → Bool
  | .item => true
  | _ => false

def isKey : Token → Bool
  | .key => true
  | _ => false

def isValue : Token → Bool
  | .value => true
  | _ => false

def isComma : Token → Bool
  | .comma => true
  | _ => false

def closesList : Token → Bool
  | .closeList => true
  | _ => false

def closesMapping : Token → Bool
  | .closeMapping => true
  | _ => false

/-- Whether the key or the value of a pair in lines is left out before a token. -/
def endsPair : Token → Bool
  | .key | .value | .linedEnd => true
  | _ => false

/-- Whether an item in lines is left out before a token. -/
def endsItem (t : Token) : Bool := isItem t || endsPair t

def endLines : Assemble Unit := do
  match ← peek with
  | .linedEnd => drop
  | _ => unexpected

/-- The comma before an item or a pair that is not the first. -/
def comma : Assemble Unit := do
  if !(← passes isComma) then unexpected

mutual

def node (place : Place) : (fuel : Nat) → (depth : Nat) → Assemble Nat
  | 0, _ => throw .malformed
  | fuel + 1, depth => do
    if maxDepth < depth then throw (.senseless .tooDeep)
    match ← peek with
    | .alias name =>
      drop
      meant name
    | _ =>
      let (a?, tag?) ← properties
      match ← peek with
      | .scalar isBare text =>
        drop
        scalar a? tag? isBare text
      | .openList =>
        let number ← add a? (.list (tagOr .list tag?) [])
        drop
        let items ← bracketItems fuel (depth + 1) true
        complete number (.list (tagOr .list tag?) items)
      | .openMapping =>
        let number ← add a? (.mapping (tagOr .mapping tag?) [])
        drop
        let pairs ← bracketPairs fuel (depth + 1) true
        complete number (.mapping (tagOr .mapping tag?) pairs)
      | .linedList =>
        if place = .inBrackets then emptyNode a? tag?
        else
          let number ← add a? (.list (tagOr .list tag?) [])
          drop
          let items ← linedItems fuel (depth + 1)
          endLines
          complete number (.list (tagOr .list tag?) items)
      | .linedMapping =>
        if place = .inBrackets then emptyNode a? tag?
        else
          let number ← add a? (.mapping (tagOr .mapping tag?) [])
          drop
          let pairs ← linedPairs fuel (depth + 1)
          endLines
          complete number (.mapping (tagOr .mapping tag?) pairs)
      | .item =>
        if place = .inPair then
          let number ← add a? (.list (tagOr .list tag?) [])
          let items ← linedItems fuel (depth + 1)
          complete number (.list (tagOr .list tag?) items)
        else emptyNode a? tag?
      | _ => emptyNode a? tag?
termination_by structural fuel => fuel

def part (place : Place) (ends : Token → Bool) : (fuel : Nat) → (depth : Nat) → Assemble Nat
  | 0, _ => throw .malformed
  | fuel + 1, depth => do
    if ← sees ends then omitted else node place fuel depth
termination_by structural fuel => fuel

/-- The value of a pair, which may be left out with its sign. -/
def pairValue (place : Place) (ends : Token → Bool) : (fuel : Nat) → (depth : Nat) → Assemble Nat
  | 0, _ => throw .malformed
  | fuel + 1, depth => do
    if ← passes isValue then part place ends fuel depth else omitted
termination_by structural fuel => fuel

def linedItems : (fuel : Nat) → (depth : Nat) → Assemble (List Nat)
  | 0, _ => throw .malformed
  | fuel + 1, depth => do
    if ← passes isItem then
      let n ← part .inLines endsItem fuel depth
      return n :: (← linedItems fuel depth)
    else return []
termination_by structural fuel => fuel

def linedPairs : (fuel : Nat) → (depth : Nat) → Assemble (List (Nat × Nat))
  | 0, _ => throw .malformed
  | fuel + 1, depth => do
    if ← passes isKey then
      let k ← part .inPair endsPair fuel depth
      let v ← pairValue .inPair endsPair fuel depth
      return (k, v) :: (← linedPairs fuel depth)
    else return []
termination_by structural fuel => fuel

/-- The items of a list between brackets, up to the closing one.  A lone pair counts as a mapping. -/
def bracketItems : (fuel : Nat) → (depth : Nat) → (first : Bool) → Assemble (List Nat)
  | 0, _, _ => throw .malformed
  | fuel + 1, depth, first => do
    if ← passes closesList then return []
    if !first then comma
    if ← passes closesList then return []
    if ← passes isKey then
      let k ← part .inBrackets (fun t => isValue t || isComma t || closesList t) fuel depth
      let v ← pairValue .inBrackets (fun t => isComma t || closesList t) fuel depth
      let number ← add none (.mapping .mapping [(k, v)])
      return number :: (← bracketItems fuel depth false)
    else
      let n ← node .inBrackets fuel depth
      return n :: (← bracketItems fuel depth false)
termination_by structural fuel => fuel

/-- The pairs of a mapping between brackets, up to the closing one.  A lone key has no value. -/
def bracketPairs : (fuel : Nat) → (depth : Nat) → (first : Bool) → Assemble (List (Nat × Nat))
  | 0, _, _ => throw .malformed
  | fuel + 1, depth, first => do
    if ← passes closesMapping then return []
    if !first then comma
    if ← passes closesMapping then return []
    if ← passes isKey then
      let k ← part .inBrackets (fun t => isValue t || isComma t || closesMapping t) fuel depth
      let v ← pairValue .inBrackets (fun t => isComma t || closesMapping t) fuel depth
      return (k, v) :: (← bracketPairs fuel depth false)
    else
      let k ← node .inBrackets fuel depth
      let v ← omitted
      return (k, v) :: (← bracketPairs fuel depth false)
termination_by structural fuel => fuel

end

/-- The directives before a document: at most one on the version, which is the first of its kind, and one
for each handle. -/
def directives : (fuel : Nat) → (versioned : Bool) → Assemble Unit
  | 0, _ => throw .malformed
  | fuel + 1, versioned => do
    match ← peek with
    | .directive d =>
      drop
      match d with
      | .version major =>
        if versioned || major != 1 then throw .malformed else directives fuel true
      | .handle name meaning =>
        if ((← get).handles.lookup name).isSome then throw .malformed
        modify fun s => { s with handles := s.handles ++ [(name, meaning)] }
        directives fuel versioned
      | .other => directives fuel versioned
    | _ => return

def documentEnds : (fuel : Nat) → Assemble Unit
  | 0 => throw .malformed
  | fuel + 1 => do
    match ← peek with
    | .documentEnd =>
      drop
      documentEnds fuel
    | _ => return

/-- Whether there is no content before a token. -/
def endsDocument : Token → Bool
  | .directive _ | .documentStart | .documentEnd | .streamEnd => true
  | _ => false

/-- A document after directives and the sign that it starts with. -/
def markedDocument (fuel : Nat) : Assemble Nat := do
  directives fuel false
  modify fun s => { s with handles := s.handles ++ usualHandles }
  match ← peek with
  | .documentStart =>
    drop
    if ← sees endsDocument then omitted else node .inLines fuel 0
  | _ => unexpected

/-- The only document of a text, if there is one. -/
def document (fuel : Nat) : Assemble (Option Nat) := do
  match ← peek with
  | .streamEnd => return none
  | first =>
    let n ←
      match first with
      | .directive _ | .documentStart => markedDocument fuel
      | _ => do
        modify fun s => { s with handles := usualHandles }
        node .inLines fuel 0
    documentEnds fuel
    match ← peek with
    | .streamEnd => return some n
    | _ => unexpected

end Assemble

/-- The nodes of the only document that tokens make up, if there is one. -/
def Outline.ofTokens? (ts : List Token) : Except YamlFault (Option Outline) := do
  let (top?, s) ← (Assemble.document (4 * ts.length + 8)).run ⟨ts, [], [], #[]⟩
  return top?.map fun top => ⟨s.nodes, top⟩

end ReviewDiagnostics.Yaml
