import ReviewDiagnostics.Files.FileTree
import ReviewDiagnostics.Host
import ReviewDiagnostics.Text.Utf8

/-!
# Desks

A desk is a host that is a value: a tree of files with a current directory in it, texts that stand for
the standard streams, and a clock that stands still.
-/

namespace ReviewDiagnostics

/-- Everything that a run can see and change. -/
structure Desk where
  files : FileTree
  here : Place
  /-- What is left of the standard input. -/
  input : List UInt8
  environment : List (String × String)
  output : String
  errors : String

namespace Desk

/-- A run at a desk. -/
abbrev Run := StateM Desk

/-- Changes the files, if that succeeds. -/
def changeFiles (change : Desk → Except FileCause FileTree) : Run (Except FileCause Unit) :=
  fun d => match change d with
    | .error cause => (.error cause, d)
    | .ok files => (.ok (), { d with files })

/-- Whether there is an entry of the given sort at the end of a path. -/
def holds (sort : Entry → Bool) (p : FilePath) : Run Bool := fun d =>
  match d.files.inspect d.here p with
  | .ok entry => (sort entry, d)
  | .error _ => (false, d)

instance : Host Run where
  content p := fun d => (d.files.content d.here p, d)
  write p s := changeFiles fun d => d.files.change d.here p fun _ => Text.Utf8.encode s
  append p s := changeFiles fun d => d.files.change d.here p fun bytes => bytes ++ Text.Utf8.encode s
  addDirectory p := changeFiles fun d => d.files.addDirectory d.here p
  look p := fun d => ((d.files.inspect d.here p).map fun _ => (), d)
  isDirectory := holds fun entry => entry = .directory
  input := fun d => (d.input, { d with input := [] })
  print s := fun d => ((), { d with output := d.output ++ s ++ "\n" })
  printError s := fun d => ((), { d with errors := d.errors ++ s ++ "\n" })
  showsColor := pure false
  environment? name := fun d => (d.environment.lookup name, d)
  clock := pure 0
  timestamp := pure "1970-01-01 00:00:00"

/-- A desk in the given directory with the given files in it; a name that ends in a slash is that of a
directory. -/
def ofFiles (here : Place) (files : List (String × List UInt8)) : Desk where
  files := files.foldl (fun t (name, bytes) =>
    t.plant (here ++ (FilePath.ofString name).parts)
      (if name.toList.getLast? = some '/' then .directory else .file bytes))
    (FileTree.plant ⟨[]⟩ here .directory)
  here := here
  input := []
  environment := []
  output := ""
  errors := ""

/-- The text that bytes are; empty if they are none. -/
def textOf (bytes : List UInt8) : String :=
  match Text.Utf8.decodeFrom 0 none bytes with
  | .error _ => ""
  | .ok cs => String.ofList cs

/-- The text of a file, if there is such a file. -/
def text? (d : Desk) (p : FilePath) : Option String :=
  match d.files.content d.here p with
  | .error _ => none
  | .ok bytes => some (textOf bytes)

/-- The texts of the files below the current directory that are not among the given ones. -/
def newTexts (d : Desk) (known : List String) : List (String × String) :=
  let known := known.map fun name => "/".intercalate (FilePath.ofString name).parts
  (d.files.filesBelow d.here).filterMap fun (name, bytes) =>
    if known.contains name then none else some (name, textOf bytes)

end Desk

end ReviewDiagnostics
