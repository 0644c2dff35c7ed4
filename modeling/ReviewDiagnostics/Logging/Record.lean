import ReviewDiagnostics.Document.Printer
import ReviewDiagnostics.Fault
import ReviewDiagnostics.Text.UpperCase

/-!
# Log records

One record is one thing told to the log: how important it is, which part of the library tells it, and
how it is worded.
-/

namespace ReviewDiagnostics

/-- How important a record is; larger is more important. -/
abbrev Level := Nat

namespace Level

def debug : Level := 10
def info : Level := 20
def warning : Level := 30
def error : Level := 40
def critical : Level := 50

def name (n : Level) : String :=
  if n = 0 then "NOTSET"
  else if n = debug then "DEBUG"
  else if n = info then "INFO"
  else if n = warning then "WARNING"
  else if n = error then "ERROR"
  else if n = critical then "CRITICAL"
  else s!"Level {n}"

/-- The level that a name in any case stands for; an unknown name stands for warnings.  Two names are
taken by something else than a level. -/
def ofName (s : String) : Except Fault Level :=
  match Text.upper s with
  | "NOTSET" => .ok 0
  | "DEBUG" => .ok debug
  | "INFO" => .ok info
  | "WARN" => .ok warning
  | "WARNING" => .ok warning
  | "ERROR" => .ok error
  | "CRITICAL" => .ok critical
  | "FATAL" => .ok critical
  | "BASIC_FORMAT" => .error (.unknownLevel "%(levelname)s:%(name)s:%(message)s")
  | "_STYLES" => .error .wrongKind
  | _ => .ok warning

end Level

/-- One line of a log, before it is laid out. -/
structure Record where
  level : Level
  origin : String
  message : String

namespace Record

/-- The full name of the part of the library that goes by a short name. -/
def fullOrigin (name : String) : String :=
  let own := "rdformat_validator.".toList
  let short :=
    if own.isPrefixOf name.toList then String.ofList (name.toList.drop own.length) else name
  if short = "rdformat" ∨ "rdformat.".toList.isPrefixOf short.toList then short
  else "rdformat." ++ short

/-- A record that shows a document below its message. -/
def ofDocument (level : Level) (origin message : String) (d : Document) : Record :=
  let printed := d.print ⟨some "  ", true⟩
  ⟨level, origin, s!"{message}:\n{printed}"⟩

/-- A record of a fault that has a class and a wording. -/
def ofFault (origin message fault : String) : Record :=
  ⟨.error, origin, s!"{message}: {fault}"⟩

end Record

end ReviewDiagnostics
