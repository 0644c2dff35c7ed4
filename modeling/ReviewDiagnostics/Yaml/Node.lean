import ReviewDiagnostics.Yaml.Form

/-!
# Nodes

A node is a part of a document with a tag that says what it means.  The parts of a node are given by
their numbers in the document, so that a node can be part of several others, and even of itself.
-/

namespace ReviewDiagnostics.Yaml

/-- A part of a document. -/
inductive Node where
  | scalar (tag : Tag) (text : String)
  | list (tag : Tag) (items : List Nat)
  | mapping (tag : Tag) (pairs : List (Nat × Nat))

namespace Node

instance : Inhabited Node := ⟨.scalar .nothing ""⟩

def tag : Node → Tag
  | .scalar t _ | .list t _ | .mapping t _ => t

def withTag (t : Tag) : Node → Node
  | .scalar _ s => .scalar t s
  | .list _ items => .list t items
  | .mapping _ pairs => .mapping t pairs

/-- The pairs of a mapping; nothing else has any. -/
def pairs : Node → List (Nat × Nat)
  | .mapping _ ps => ps
  | _ => []

end Node

/-- The nodes of a document by their numbers, and the number of the node that all others belong to. -/
structure Outline where
  nodes : Array Node
  top : Nat

end ReviewDiagnostics.Yaml
