import ReviewDiagnostics.Files.FilePath
import ReviewDiagnostics.Logging.Layout
import ReviewDiagnostics.Options
import ReviewDiagnostics.Repair.Plan
import ReviewDiagnostics.Text.UpperCase
import ReviewDiagnostics.Yaml.Value

/-!
# Settings

Settings come in four sections.  A value is kept as it was given and is only looked at where it is
needed, apart from the few that are checked when the settings are put together: names of fix levels
and report formats, the number of fix passes, and the log level.
-/

namespace ReviewDiagnostics

open Yaml (Value)

/-- How a report is written. -/
inductive ReportFormat where
  | text
  | json
  deriving DecidableEq

namespace ReportFormat

def name : ReportFormat → String
  | .text => "text"
  | .json => "json"

def ofName? : String → Option ReportFormat
  | "text" => some .text
  | "json" => some .json
  | _ => none

end ReportFormat

/-- A choice by name, or a value that is no text and therefore names nothing. -/
inductive Choice (α : Type) where
  | named (a : α)
  | stray (v : Value)

/-- How documents are checked. -/
structure CheckSettings where
  strict : Value
  allowExtra : Value

/-- How documents are repaired. -/
structure FixSettings where
  enabled : Value
  level : Choice FixLevel
  passes : Value

/-- How reports are written. -/
structure OutputSettings where
  format : Choice ReportFormat
  indent : Value
  color : Value
  ascii : Value

/-- What is told to the log, and where the log is. -/
structure LogSettings where
  /-- The name of a level, in upper case.  Bytes have an upper case too, but name no level. -/
  level : Choice String
  format : Value
  file : Value

/-- All settings. -/
structure Settings where
  checks : CheckSettings
  fixes : FixSettings
  output : OutputSettings
  log : LogSettings

namespace Settings

/-- The name of a pair whose key is one of the given texts. -/
def knownName? (known : List String) : Value → Option String
  | .string s => if known.contains s then some s else none
  | _ => none

/-- The pairs of a section, which has to be a mapping with none but the given names for keys.  A section
that is left out has no pairs. -/
def sectionPairs (known : List String) : Option Value → Except Fault (List (Value × Value))
  | none => .ok []
  | some (.mapping pairs _) =>
    if pairs.all fun p => (knownName? known p.1).isSome then .ok pairs else .error .invalidSettings
  | some _ => .error .invalidSettings

/-- The value of a name, or what stands for it if it is left out. -/
def valueOr (pairs : List (Value × Value)) (name : String) (standard : Value) : Value :=
  (Value.valueOf? pairs (.string name)).getD standard

end Settings

namespace CheckSettings

def ofValue (v : Option Value) : Except Fault CheckSettings := do
  let pairs ← Settings.sectionPairs ["strict_mode", "allow_extra_fields"] v
  return ⟨Settings.valueOr pairs "strict_mode" (.bool false),
    Settings.valueOr pairs "allow_extra_fields" (.bool true)⟩

def toValue (s : CheckSettings) : Value :=
  .mapping [(.string "strict_mode", s.strict), (.string "allow_extra_fields", s.allowExtra)] none

/-- The options for checks as they were given. -/
def givenOptions (s : CheckSettings) : Document :=
  .object [("strictMode", s.strict.toDocument), ("allowExtraFields", s.allowExtra.toDocument)]

def options (s : CheckSettings) : Options :=
  ⟨s.strict.truthy, s.allowExtra.truthy⟩

end CheckSettings

namespace FixSettings

/-- A number of passes, which has to be a number that is not below one. -/
def checkPasses (v : Value) : Except Fault Unit :=
  let d := v.toDocument
  if !v.isNumeric then .error .invalidSettings
  else if d.less (.int 1) then .error (.tooFewPasses d)
  else .ok ()

def ofValue (v : Option Value) : Except Fault FixSettings := do
  let pairs ← Settings.sectionPairs ["enabled", "fix_level", "max_iterations"] v
  let level ← match Settings.valueOr pairs "fix_level" (.string "basic") with
    | .string s => (FixLevel.ofDocument (.string s)).map .named
    | v => .ok (.stray v)
  let passes := Settings.valueOr pairs "max_iterations" (.int 3)
  checkPasses passes
  return ⟨Settings.valueOr pairs "enabled" (.bool false), level, passes⟩

/-- The fix level, if the one that was given has a name. -/
def namedLevel (s : FixSettings) : Except Fault FixLevel :=
  match s.level with
  | .named l => .ok l
  | .stray v => .error (.unknownFixLevel v.literal)

/-- The section as a value; there is none if the fix level has no name. -/
def toValue (s : FixSettings) : Except Fault Value :=
  match s.level with
  | .named l => .ok (.mapping [(.string "enabled", s.enabled), (.string "fix_level", .string l.name),
      (.string "max_iterations", s.passes)] none)
  | .stray _ => .error .noParts

end FixSettings

namespace OutputSettings

def ofValue (v : Option Value) : Except Fault OutputSettings := do
  let pairs ← Settings.sectionPairs ["format", "indent", "color", "ensure_ascii"] v
  let format ← match Settings.valueOr pairs "format" (.string "text") with
    | .string s =>
      match ReportFormat.ofName? s with
      | some f => .ok (.named f)
      | none => .error (.unknownFormat (.string s))
    | v => .ok (.stray v)
  return ⟨format, Settings.valueOr pairs "indent" (.int 2), Settings.valueOr pairs "color" (.bool true),
    Settings.valueOr pairs "ensure_ascii" (.bool false)⟩

/-- The section as a value; there is none if the format has no name. -/
def toValue (s : OutputSettings) : Except Fault Value :=
  match s.format with
  | .named f => .ok (.mapping [(.string "format", .string f.name), (.string "indent", s.indent),
      (.string "color", s.color), (.string "ensure_ascii", s.ascii)] none)
  | .stray _ => .error .noParts

def forPrograms (s : OutputSettings) : Bool :=
  match s.format with
  | .named .json => true
  | _ => false

end OutputSettings

namespace LogSettings

/-- The path that a text for a file stands for; an empty text and anything else stand for themselves. -/
def tidyFile : Value → Value
  | .string s => if s = "" then .string s else .string (FilePath.ofString s).shown
  | v => v

def upperByte (b : UInt8) : UInt8 :=
  if 'a'.toNat ≤ b.toNat ∧ b.toNat ≤ 'z'.toNat then b - 32 else b

/-- The level that a value asks for; it needs an upper case. -/
def levelOf : Value → Except Fault (Choice String)
  | .string s => .ok (.named (Text.upper s))
  | .bytes bs => .ok (.stray (.bytes (bs.map upperByte)))
  | _ => .error .noParts

/-- The section for the log, with the level that holds where none is given. -/
def ofValue (level : String) (v : Option Value) : Except Fault LogSettings := do
  let pairs ← Settings.sectionPairs ["level", "format", "file"] v
  return ⟨← levelOf (Settings.valueOr pairs "level" (.string level)),
    Settings.valueOr pairs "format" (.string Layout.standard),
    tidyFile (Settings.valueOr pairs "file" .null)⟩

/-- The level as a value. -/
def levelValue (s : LogSettings) : Value :=
  match s.level with
  | .named name => .string name
  | .stray v => v

def toValue (s : LogSettings) : Value :=
  .mapping [(.string "level", s.levelValue), (.string "format", s.format),
    (.string "file", if s.file.truthy then .string s.file.shown else .null)] none

end LogSettings

namespace Settings

/-- The settings whose sections are given by their names, with the log level that holds where none is
given. -/
def ofSections (level : String) (given : String → Option Value) : Except Fault Settings := do
  let checks ← CheckSettings.ofValue (given "validation")
  let fixes ← FixSettings.ofValue (given "fix")
  let output ← OutputSettings.ofValue (given "output")
  let log ← LogSettings.ofValue level (given "logging")
  return ⟨checks, fixes, output, log⟩

/-- The settings that an object stands for.  Fields that are no section do not count. -/
def ofDocument (level : String) : Document → Except Fault Settings
  | .object fields => ofSections level fun name => (Fields.get? fields name).map Value.ofDocument
  | _ => .error .noParts

def toPairs (s : Settings) : Except Fault (List (Value × Value)) := do
  return [(.string "validation", s.checks.toValue), (.string "fix", ← s.fixes.toValue),
    (.string "output", ← s.output.toValue), (.string "logging", s.log.toValue)]

/-- Settings as a document.  A value that is part of itself has none. -/
def toDocument (s : Settings) : Except Fault Document := do
  let v := Value.mapping (← s.toPairs) none
  if v.isEndless then throw .tooDeep else return v.toDocument

/-- All values that are kept as they were given. -/
def givenValues (s : Settings) : List Value :=
  [s.checks.strict, s.checks.allowExtra, s.fixes.enabled, s.fixes.passes, s.output.indent,
    s.output.color, s.output.ascii, s.log.format, s.log.file]

/-- Whether two choices are the same: by the same name, or equal values. -/
def sameChoice {α : Type} [DecidableEq α] : Choice α → Choice α → Bool
  | .named a, .named b => a = b
  | .stray a, .stray b => a.same b
  | _, _ => false

/-- Whether two settings, made at different times, are the same. -/
def same (s t : Settings) : Bool :=
  sameChoice s.fixes.level t.fixes.level && sameChoice s.output.format t.output.format &&
    sameChoice s.log.level t.log.level && Value.sameItems s.givenValues t.givenValues

end Settings

end ReviewDiagnostics
