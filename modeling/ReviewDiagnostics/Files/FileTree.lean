import ReviewDiagnostics.Files.FileFault
import ReviewDiagnostics.Files.FilePath

/-!
# File trees

Files and directories by the names that lead to them from the top.  The top itself is a directory.
-/

namespace ReviewDiagnostics

/-- What stands at a place. -/
inductive Entry where
  | directory
  | file (content : List UInt8)
  deriving DecidableEq

/-- A place, by the names that lead to it from the top. -/
abbrev Place := List String

/-- The entries below the top, in the order in which they were made. -/
structure FileTree where
  entries : List (Place × Entry)

namespace FileTree

/-- What stands at a place. -/
def entry? (t : FileTree) (place : Place) : Option Entry :=
  if place = [] then some .directory else t.entries.lookup place

def put (t : FileTree) (place : Place) (entry : Entry) : FileTree :=
  if t.entries.any (·.1 == place) then
    ⟨t.entries.map fun e => if e.1 == place then (place, entry) else e⟩
  else ⟨t.entries ++ [(place, entry)]⟩

/-- The most bytes that a name has. -/
def longestName : Nat := 255

/-- The most bytes that a path has. -/
def longestPath : Nat := 4095

/-- The place that names lead to.  Whatever is gone through has to be a directory. -/
def follow (t : FileTree) : Place → List String → Except FileCause Place
  | place, [] => .ok place
  | place, name :: rest =>
    match t.entry? place with
    | none => .error .missing
    | some (.file _) => .error .notADirectory
    | some .directory =>
      if longestName < name.utf8ByteSize then .error .nameTooLong
      else t.follow (if name = ".." then place.dropLast else place ++ [name]) rest

/-- The place of a path seen from a directory. -/
def locate (t : FileTree) (here : Place) (p : FilePath) : Except FileCause Place :=
  if p.parts.any fun name => name.toList.contains '\x00' then .error .nullCharacter
  else if longestPath < p.shown.utf8ByteSize then .error .nameTooLong
  else t.follow (if p.root = "" then here else []) p.parts

/-- What stands at the end of a path. -/
def inspect (t : FileTree) (here : Place) (p : FilePath) : Except FileCause Entry :=
  match t.locate here p with
  | .error cause => .error cause
  | .ok place =>
    match t.entry? place with
    | none => .error .missing
    | some entry => .ok entry

def content (t : FileTree) (here : Place) (p : FilePath) : Except FileCause (List UInt8) :=
  match t.inspect here p with
  | .error cause => .error cause
  | .ok .directory => .error .isDirectory
  | .ok (.file bytes) => .ok bytes

/-- Gives the file at the end of a path the content that comes from its former one; a new file has
none yet. -/
def change (t : FileTree) (here : Place) (p : FilePath) (new : List UInt8 → List UInt8) :
    Except FileCause FileTree :=
  match t.locate here p with
  | .error cause => .error cause
  | .ok place =>
    match t.entry? place with
    | none => .ok (t.put place (.file (new [])))
    | some .directory => .error .isDirectory
    | some (.file bytes) => .ok (t.put place (.file (new bytes)))

/-- Makes a directory in one that is there. -/
def addDirectory (t : FileTree) (here : Place) (p : FilePath) : Except FileCause FileTree :=
  match t.locate here p with
  | .error cause => .error cause
  | .ok place =>
    match t.entry? place with
    | none => .ok (t.put place .directory)
    | some _ => .error .present

/-- The places on the way down to a place, without the top and the place itself. -/
def above (place : Place) : List Place :=
  (List.range (place.length - 1)).map fun n => place.take (n + 1)

/-- A tree with an entry at a place and with the directories above it. -/
def plant (t : FileTree) (place : Place) (entry : Entry) : FileTree :=
  ((above place).foldl (fun t d => if (t.entry? d).isSome then t else t.put d .directory) t).put
    place entry

/-- The files below a place, by the names that lead on from there. -/
def filesBelow (t : FileTree) (here : Place) : List (String × List UInt8) :=
  t.entries.filterMap fun (place, entry) =>
    match entry with
    | .directory => none
    | .file bytes =>
      if here.isPrefixOf place then some ("/".intercalate (place.drop here.length), bytes) else none

end FileTree

end ReviewDiagnostics
