import ReviewDiagnostics.Yaml.Value

/-!
# Contents of documents

What a document holds is kept by the numbers of its nodes.  Parts are opened on demand: a list or a
mapping comes round again where it is met inside of itself, and the value that is shown from there on is
cut off.  So the value of a part depends on where one starts to look, not on how it was written down.

A part from which no way leads back to where it has been has one value, wherever one starts to look.
These values are built first, each of them once, however many places it stands in.
-/

namespace ReviewDiagnostics.Yaml

/-- What a node stands for: a value, or what is kept under the number of the node. -/
inductive Part where
  | value (v : Value)
  | kept (number : Nat)

/-- What is kept under a number. -/
inductive Cell where
  | list (items : List Part)
  | rows (items : List (Part × Part))
  | set (items : List Value)
  | mapping (pairs : List (Value × Part))

namespace Cell

def isEmpty : Cell → Bool
  | .list items => items.isEmpty
  | .rows items => items.isEmpty
  | .set items => items.isEmpty
  | .mapping pairs => pairs.isEmpty

def isMapping : Cell → Bool
  | .mapping _ => true
  | _ => false

/-- The value of a cell of an origin, given the values of its parts. -/
def value {m : Type → Type} [Monad m] (origin : Nat) (part : Part → m Value) : Cell → m Value
  | .list items => do return .list (← items.mapM part) (some origin)
  | .rows items => do
    return .list (← items.mapM fun (a, b) => do return .row [← part a, ← part b]) (some origin)
  | .set items => return .set items (some origin)
  | .mapping pairs => do
    return .mapping (← pairs.mapM fun (k, x) => do return (k, ← part x)) (some origin)

end Cell

/-- What a document holds: its cells by the numbers of their nodes, and what the whole stands for. -/
structure Contents where
  cells : Array (Option Cell)
  top : Part

namespace Contents

/-- What a part refers to, if it is no value by itself. -/
def cell? (c : Contents) : Part → Option Cell
  | .value _ => none
  | .kept n => c.cells[n]?.join

/-- Values of cells by their numbers, as far as they are known. -/
abbrev Known := Array (Option Value)

/-- The value of a part, if it is known. -/
def knownValue? (known : Known) : Part → Option Value
  | .value v => some v
  | .kept n => known[n]?.join

/-- The values that are known, with that of a cell if those of all its parts are. -/
def learn (c : Contents) (known : Known) (n : Nat) : Known :=
  match known[n]?.join, c.cells[n]?.join with
  | none, some cell =>
    match cell.value n (knownValue? known) with
    | some v => known.setIfInBounds n (some v)
    | none => known
  | _, _ => known

/-- The values that become known in at most `fuel` rounds through all cells, of which the last one brings
nothing new. -/
def learnAll (c : Contents) : (fuel : Nat) → Known → Known
  | 0, known => known
  | fuel + 1, known =>
    let more := (List.range c.cells.size).reverse.foldl c.learn known
    let count (k : Known) := (k.filter (·.isSome)).size
    if count more = count known then known else c.learnAll fuel more

/-- The values of all cells that do not lead back to where one has been. -/
def known (c : Contents) : Known :=
  c.learnAll c.cells.size (Array.replicate c.cells.size none)

/-- The value of a part inside the cells with the given numbers.  Every step goes into one more cell, so
that there are at most as many steps as cells. -/
def valueInside (c : Contents) (known : Known) : (fuel : Nat) → (around : List Nat) → Part → Value
  | _, _, .value v => v
  | 0, _, .kept n => .again n false
  | fuel + 1, around, .kept n =>
    match known[n]?.join, c.cells[n]?.join with
    | some v, _ => v
    | none, none => .null
    | none, some cell =>
      if around.contains n then .again n cell.isMapping
      else Id.run (cell.value n fun p => pure (c.valueInside known fuel (n :: around) p))

def valueOf (c : Contents) (known : Known) (p : Part) : Value :=
  c.valueInside known (c.cells.size + 1) [] p

/-- The value of a part; what a mapping assigns is looked at as if it stood by itself. -/
def opened (c : Contents) (p : Part) : Value :=
  let known := c.known
  match c.cell? p with
  | some (.mapping pairs) => .mapping (pairs.map fun (k, x) => (k, c.valueOf known x)) none
  | _ => c.valueOf known p

/-- The pairs of the whole if it is a mapping. -/
def pairs? (c : Contents) : Option (List (Value × Part)) :=
  match c.cell? c.top with
  | some (.mapping pairs) => some pairs
  | _ => none

def truthy (c : Contents) : Bool :=
  match c.top with
  | .value v => v.truthy
  | p => !(c.cell? p).all Cell.isEmpty

end Contents

end ReviewDiagnostics.Yaml
