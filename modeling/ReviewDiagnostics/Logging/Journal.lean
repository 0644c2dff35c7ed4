import ReviewDiagnostics.Host
import ReviewDiagnostics.Logging.Event
import ReviewDiagnostics.Logging.Layout

/-!
# Journals

A journal says which records are kept, how they are laid out and where they go: to the standard error
stream, to a file, or to both.
-/

namespace ReviewDiagnostics

/-- Where records go. -/
structure Journal where
  /-- Records of a lower level are not kept. -/
  threshold : Level
  layout : Layout
  console : Bool
  file? : Option FilePath

namespace Journal

/-- The journal before anything is set up: warnings would be kept, but go nowhere. -/
def silent : Journal := ⟨.warning, .unusable, false, none⟩

/-- Whether records of a level are kept.  A threshold of zero leaves the choice open, and then it is
warnings and above. -/
def keeps (j : Journal) (n : Level) : Bool :=
  (if j.threshold = 0 then Level.warning else j.threshold) ≤ n

def outlets (j : Journal) : Nat :=
  (if j.console then 1 else 0) + (if j.file?.isSome then 1 else 0)

variable {m : Type → Type} [Monad m] [Host m]

/-- Tells a record. -/
def tell (j : Journal) (r : Record) : m Unit := do
  if j.keeps r.level then
    match j.layout.line? (← Host.timestamp) r with
    | none => return
    | some line =>
      if j.console then Host.printError line
      match j.file? with
      | none => return
      | some p => discard (Host.append p (line ++ "\n"))

/-- Tells events one after the other. -/
def tellAll (j : Journal) : List Event → m Unit
  | [] => return
  | e :: es => do
    j.tell e.record
    j.tellAll es

/-- Opens the file that a setting names, which is made if it is not there. -/
def openFile (file : Yaml.Value) : ExceptT Fault m (Option FilePath) :=
  if file.truthy then
    match file with
    | .string s => do
      let p := FilePath.ofString s
      Host.prepareFor p
      Host.atPath p (Host.append p.collapsed "")
      return some p.collapsed
    | _ => throw .wrongKind
  else return none

/-- The name that is asked for as that of a level; bytes have an upper case but are no name. -/
def levelName : Yaml.Value → Except Fault String
  | .string name => .ok name
  | .bytes _ => .error .wrongKind
  | _ => .error .noParts

/-- What a journal is to show, and from which level on. -/
def basis (level format : Yaml.Value) : Except Fault (Layout × Level) := do
  let name ← levelName level
  let layout ← Layout.ofValue format
  return (layout, ← Level.ofName name)

/-- Sets a journal up.  Where that fails, the journal is left as far as it was set up by then. -/
def setUp (j : Journal) (level format file : Yaml.Value) (console : Bool) :
    m (Journal × Except Fault Unit) := do
  match basis level format with
  | .error f => return (j, .error f)
  | .ok (layout, threshold) =>
    let j : Journal := ⟨threshold, layout, console, none⟩
    match ← (openFile file : ExceptT Fault m _).run with
    | .error f => return (j, .error f)
    | .ok p => return ({ j with file? := p }, .ok ())

end Journal

end ReviewDiagnostics
