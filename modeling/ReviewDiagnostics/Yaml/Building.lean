import ReviewDiagnostics.Yaml.Contents
import ReviewDiagnostics.Yaml.Members
import ReviewDiagnostics.Yaml.Node
import ReviewDiagnostics.Yaml.Scalar

/-!
# Building the contents of documents

The contents of a document are built from its nodes, level by level: a list or a mapping is kept empty
at first, and is filled when all those that were met before it have been filled.  So every node is built
once, also one that is part of itself, and of several faults the one counts that is met first.

Where a mapping has the pairs of other mappings merged into it, these come first, and its own pairs
override them.
-/

namespace ReviewDiagnostics.Yaml

/-- Contents that are being built. -/
structure Building where
  nodes : Array Node
  /-- What nodes stand for, as far as they have been met. -/
  parts : Array (Option Part)
  cells : Array (Option Cell)
  /-- The numbers of the nodes that are filled one after the other. -/
  order : Array Nat

/-- A step in building contents. -/
abbrev Build := StateT Building (Except YamlFault)

namespace Build

def node (n : Nat) : Build Node := do
  return (← get).nodes[n]?.getD default

def setNode (n : Nat) (node : Node) : Build Unit :=
  modify fun s => { s with nodes := s.nodes.setIfInBounds n node }

/-- The text of a scalar, or of the main value of a mapping.  Each step leads to another node; one that
leads back to a node leads nowhere. -/
def mainText : (fuel : Nat) → (n : Nat) → Build String
  | 0, _ => throw (.senseless .tooDeep)
  | fuel + 1, n => do
    match ← node n with
    | .scalar _ s => return s
    | .list _ _ => throw .malformed
    | .mapping _ pairs =>
      let nodes := (← get).nodes
      match pairs.find? fun p => nodes[p.1]?.any (·.tag = .main) with
      | some (_, v) => mainText fuel v
      | none => throw .malformed

/-- The value that is written as one text.  A moment is read from a scalar only. -/
def single (n : Nat) : Build Value := do
  match ← node n with
  | .scalar tag s => tag.valueOf s
  | .list _ _ => throw .malformed
  | .mapping tag _ =>
    if tag.isSingle then
      let text ← mainText ((← get).nodes.size + 1) n
      if tag = .moment then throw (.senseless .wrongKind) else tag.valueOf text
    else throw .malformed

/-- A value with an origin, if it is one that can be told apart from others like it. -/
def ofOrigin (n : Nat) : Value → Value
  | .moment m _ => .moment m (some n)
  | v => v

/-- What a node stands for.  What is made up of other values is kept, and filled later. -/
def part (n : Nat) : Build Part := do
  match (← get).parts[n]?.join with
  | some p => return p
  | none =>
    let p ←
      if (← node n).tag.isCompound then
        modify fun s => { s with order := s.order.push n }
        pure (.kept n)
      else pure (.value (ofOrigin n (← single n)))
    modify fun s => { s with parts := s.parts.setIfInBounds n (some p) }
    return p

/-- The value of a key, which must not be made up of other values. -/
def key (n : Nat) : Build Value := do
  match ← part n with
  | .value v => return v
  | .kept _ => throw .malformed

/-- What the key and the value of a pair stand for. -/
def pair (p : Nat × Nat) : Build (Value × Part) := do
  let k ← key p.1
  return (k, ← part p.2)

def row (n : Nat) : Build (Part × Part) := do
  match ← node n with
  | .mapping _ [(k, v)] =>
    let first ← part k
    return (first, ← part v)
  | _ => throw .malformed

/-- From here on, the main value of a mapping is one like all others. -/
def plainKey (p : Nat × Nat) : Build Unit := do
  let k ← node p.1
  if k.tag = .main then setNode p.1 (k.withTag .text)

/-- Merges into a mapping the pairs of those mappings that it asks for, after the ones that have been
found for it so far.  The pair that asks is taken out first; so a mapping that asks for itself comes to an
end, and there are at most as many steps inside each other as pairs that ask. -/
def merge : (fuel : Nat) → (n : Nat) → (found : List (Nat × Nat)) → Build Unit
  | 0, _, _ => throw (.senseless .tooDeep)
  | fuel + 1, n, found => do
    let whole ← node n
    let nodes := (← get).nodes
    let (before, rest) := whole.pairs.span fun p => nodes[p.1]?.all (·.tag ≠ .merge)
    before.forM plainKey
    match rest with
    | [] => setNode n (.mapping whole.tag (found ++ whole.pairs))
    | (_, v) :: after =>
      setNode n (.mapping whole.tag (before ++ after))
      let more ←
        match ← node v with
        | .scalar _ _ => throw .malformed
        | .mapping _ _ => do
          merge fuel v []
          pure (← node v).pairs
        | .list _ items => do
          let groups ← items.mapM fun i => do
            match ← node i with
            | .mapping _ _ => do
              merge fuel i []
              return (← node i).pairs
            | _ => throw .malformed
          pure groups.reverse.flatten
      merge fuel n (found ++ more)

def pairCount (nodes : Array Node) : Nat :=
  nodes.foldl (fun count n => count + n.pairs.length) 0

/-- The pairs of a mapping, with those that are merged into it.  Later pairs override earlier ones. -/
def mappingPairs (n : Nat) : Build (List (Value × Part)) := do
  match ← node n with
  | .mapping _ _ =>
    merge (pairCount (← get).nodes + 1) n []
    return Value.settle (← (← node n).pairs.mapM pair)
  | _ => throw .malformed

/-- The cell of a node that is made up of others. -/
def cell (n : Nat) : Build Cell := do
  let whole ← node n
  if whole.tag = .mapping then return .mapping (← mappingPairs n)
  else if whole.tag = .set then return .set (shownOrder ((← mappingPairs n).map (·.1)))
  else
    match whole with
    | .list .rows items => return .rows (← items.mapM row)
    | .list _ items => return .list (← items.mapM part)
    | _ => throw .malformed

/-- Fills the cells of the nodes that have been met, from the one of a place in the order on.  Every node
has one place. -/
def fill : (fuel : Nat) → (place : Nat) → Build Unit
  | 0, _ => return
  | fuel + 1, place => do
    match (← get).order[place]? with
    | none => return
    | some n =>
      let c ← cell n
      modify fun s => { s with cells := s.cells.setIfInBounds n (some c) }
      fill fuel (place + 1)

end Build

def Outline.contents (o : Outline) : Except YamlFault Contents := do
  let size := o.nodes.size
  let start : Building := ⟨o.nodes, Array.replicate size none, Array.replicate size none, #[]⟩
  let (top, s) ← (do
    let p ← Build.part o.top
    Build.fill size 0
    return p : Build Part).run start
  return ⟨s.cells, top⟩

end ReviewDiagnostics.Yaml
