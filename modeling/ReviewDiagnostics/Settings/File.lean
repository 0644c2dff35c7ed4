import ReviewDiagnostics.Document.Source
import ReviewDiagnostics.Host
import ReviewDiagnostics.Settings.Basic
import ReviewDiagnostics.Yaml.Printer
import ReviewDiagnostics.Yaml.Reader

/-!
# Settings files

Settings are kept in YAML files.  Without a path they are looked for in three places, and if there is
no file at any of them everything is as usual.
-/

namespace ReviewDiagnostics.Settings

/-- The fault that a malformed settings file is reported with. -/
def faultOfYaml (path : String) : YamlFault → Fault
  | .malformed => .malformedSettings path
  | .senseless f => f

/-- The sections in the bytes of a settings file by their names; a file that holds what counts as no has
none. -/
def sectionsOfBytes (path : String) (bytes : List UInt8) :
    Except Fault (String → Option Yaml.Value) :=
  match Text.Utf8.decode bytes with
  | .error f => .error (.malformedText f.message)
  | .ok cs =>
    match Yaml.read (Source.unifyLineEnds cs) with
    | .error f => .error (faultOfYaml path f)
    | .ok contents =>
      match contents.pairs? with
      | some pairs =>
        .ok fun name => (Yaml.Value.valueOf? pairs (.string name)).map contents.opened
      | none =>
        if contents.truthy then .error (.settingsWithoutSections path) else .ok fun _ => none

variable {m : Type → Type} [Monad m] [Host m]

/-- The log level that holds where none is given. -/
def usualLevel : m String := do
  return (← Host.environment? "RDFORMAT_LOG_LEVEL").getD "WARNING"

def usual : ExceptT Fault m Settings := do
  let level ← (usualLevel : m String)
  ofSections level fun _ => none

/-- The settings that an object stands for, at a host. -/
def given (d : Document) : ExceptT Fault m Settings := do
  let level ← (usualLevel : m String)
  ofDocument level d

def fromFile (p : FilePath) : ExceptT Fault m Settings := do
  if ← Host.present p then
    let bytes ← Host.atPath p (Host.content p)
    let given ← sectionsOfBytes p.shown bytes
    let level ← (usualLevel : m String)
    ofSections level given
  else throw (.missingSettings p.shown)

/-- The directory of the user.  Without anything but slashes it is the top; a tilde stands for this very
directory and therefore leads nowhere. -/
def home : ExceptT Fault m FilePath := do
  match ← (Host.environment? "HOME" : m _) with
  | none => return ⟨"", []⟩
  | some s =>
    if s.toList.head? = some '~' then throw .homeless
    else if s.toList.all (· = '/') then return ⟨"/", []⟩
    else return FilePath.ofString s

/-- The places where a settings file is looked for, in order. -/
def places : ExceptT Fault m (List FilePath) := do
  return [⟨"", ["config", "default.yaml"]⟩, ⟨"", ["config.yaml"]⟩,
    FilePath.within ⟨"", [".rdformat", "config.yaml"]⟩ (← home)]

/-- The first path with something at it. -/
def firstPresent : List FilePath → ExceptT Fault m (Option FilePath)
  | [] => return none
  | p :: ps => do
    if ← Host.present p then return some p else firstPresent ps

/-- The settings in a file, or in the first file that is found. -/
def load (p? : Option FilePath) : ExceptT Fault m Settings := do
  match p? with
  | some p => fromFile p
  | none =>
    match ← firstPresent (← places) with
    | some p => fromFile p
    | none => usual

/-- Writes settings to a file, in a directory that is made if it is not there. -/
def save (s : Settings) (p : FilePath) : ExceptT Fault m Unit := do
  Host.prepareFor p
  let pairs ← s.toPairs
  Host.atPath p (Host.write p (Yaml.print pairs))

end ReviewDiagnostics.Settings
