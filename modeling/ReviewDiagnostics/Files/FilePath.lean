/-!
# File paths

A path is its root, if it has one, and the names that lead on from there.  Empty names and names that
stay in place are left out; names that lead up stay, because what they lead to depends on the files.
-/

namespace ReviewDiagnostics

/-- A path to a file or a directory. -/
structure FilePath where
  /-- One slash, two slashes, or nothing for a path from the current directory. -/
  root : String
  parts : List String
  deriving DecidableEq

namespace FilePath

def pieces : List Char → List (List Char)
  | [] => [[]]
  | c :: cs =>
    if c = '/' then [] :: pieces cs
    else match pieces cs with
      | [] => [[c]]
      | p :: ps => (c :: p) :: ps

/-- The root that a text begins with; exactly two slashes are a root of their own. -/
def rootOf (cs : List Char) : String :=
  match (cs.takeWhile (· = '/')).length with
  | 0 => ""
  | 2 => "//"
  | _ => "/"

def ofString (s : String) : FilePath :=
  ⟨rootOf s.toList, ((pieces s.toList).map String.ofList).filter fun p => p ≠ "" ∧ p ≠ "."⟩

/-- A path as text; the current directory is a dot. -/
def shown (p : FilePath) : String :=
  if p.root = "" ∧ p.parts = [] then "." else p.root ++ "/".intercalate p.parts

/-- The path without its last name. -/
def parent (p : FilePath) : FilePath :=
  ⟨p.root, p.parts.dropLast⟩

/-- The path that leads on from another one; one with a root leads on from nothing. -/
def within (p base : FilePath) : FilePath :=
  if p.root = "" then ⟨base.root, base.parts ++ p.parts⟩ else p

/-- Names in which none that leads up stands after one that leads down. -/
def collapsedParts (rooted : Bool) (parts : List String) : List String :=
  parts.foldl (fun done name =>
    if name ≠ ".." then done ++ [name]
    else match done.getLast? with
      | none => if rooted then [] else [".."]
      | some ".." => done ++ [".."]
      | some _ => done.dropLast) []

/-- The path with every name that leads up taken together with the name before it. -/
def collapsed (p : FilePath) : FilePath :=
  ⟨p.root, collapsedParts (p.root ≠ "") p.parts⟩

end FilePath

end ReviewDiagnostics
