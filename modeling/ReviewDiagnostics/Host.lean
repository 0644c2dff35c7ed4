import ReviewDiagnostics.Fault
import ReviewDiagnostics.Files.FileFault
import ReviewDiagnostics.Files.FilePath

/-!
# Hosts

What a run asks of its surroundings: files, the standard streams, the clock and named values that are
set outside.  A run is written for any monad with these operations, so that the same definition is
executed on a real system and reasoned about on a simulated one.
-/

namespace ReviewDiagnostics

/-- The operations that a run is carried out with. -/
class Host (m : Type → Type) where
  content : FilePath → m (Except FileCause (List UInt8))
  /-- Gives a file a new content. -/
  write : FilePath → String → m (Except FileCause Unit)
  /-- Adds to the end of a file, which is made if it is not there. -/
  append : FilePath → String → m (Except FileCause Unit)
  /-- Makes a directory in one that is there. -/
  addDirectory : FilePath → m (Except FileCause Unit)
  /-- Looks whether something is there. -/
  look : FilePath → m (Except FileCause Unit)
  isDirectory : FilePath → m Bool
  /-- The bytes that are left of the standard input. -/
  input : m (List UInt8)
  print : String → m Unit
  /-- Writes a line to the standard error stream. -/
  printError : String → m Unit
  /-- Whether the standard output shows colours. -/
  showsColor : m Bool
  environment? : String → m (Option String)
  /-- Microseconds since some point in time. -/
  clock : m Nat
  timestamp : m String

namespace Host

variable {m : Type → Type} [Monad m] [Host m]

/-- An operation on a path whose fault names the path. -/
def atPath {α : Type} (p : FilePath) (operation : m (Except FileCause α)) : ExceptT Fault m α :=
  ExceptT.mk do
    return (← operation).mapError fun cause => .file ⟨cause, p.shown⟩

/-- Whether something is there.  A path that no place can have leads nowhere, but one that the system
refuses for another reason is a fault. -/
def present (p : FilePath) : ExceptT Fault m Bool := do
  match ← (look p : m _) with
  | .ok () => return true
  | .error cause => if cause.isAbsence then return false else throw (.file ⟨cause, p.shown⟩)

/-- Makes the directory at the end of the given names, where it may be already. -/
def ensureDirectory (p : FilePath) : m (Except FileCause Unit) := do
  match ← addDirectory p with
  | .error .nullCharacter => return .error .nullCharacter
  | .error .missing => return .error .missing
  | .error cause => if ← isDirectory p then return .ok () else return .error cause
  | .ok () => return .ok ()

/-- Makes a directory and those above it that are missing.  The names are those of its path from the
last one on. -/
def addDirectories (root : String) : List String → ExceptT Fault m Unit
  | [] => return ()
  | name :: above => do
    let p : FilePath := ⟨root, (name :: above).reverse⟩
    match ← (ensureDirectory p : m _) with
    | .error .missing =>
      addDirectories root above
      atPath p (ensureDirectory p)
    | outcome => atPath p (pure outcome)

/-- Makes the directory that a file is to be put into. -/
def prepareFor (p : FilePath) : ExceptT Fault m Unit :=
  addDirectories p.root p.parent.parts.reverse

end Host

end ReviewDiagnostics
