import ReviewDiagnostics.Command.Arguments
import ReviewDiagnostics.Document.File
import ReviewDiagnostics.Logging.Work
import ReviewDiagnostics.Report.Json
import ReviewDiagnostics.Report.Summary
import ReviewDiagnostics.Schema.ReviewFormat
import ReviewDiagnostics.Settings.File

/-!
# Runs

A run reads every input, checks it, repairs it if that is asked for, and reports on all of them.  Its
exit code is zero if every document is valid in the end and one otherwise.
-/

namespace ReviewDiagnostics.Command

def origin : String := "rdformat.cli"

/-- Settings with what the arguments ask for, which comes first. -/
def override (s : Settings) (a : Arguments) : Settings where
  checks :=
    { strict := if a.strict then .bool true else s.checks.strict
      allowExtra := if a.noExtraFields then .bool false else s.checks.allowExtra }
  fixes :=
    { s.fixes with
      enabled := if a.fix then .bool true else s.fixes.enabled
      level := match a.fixLevel with
        | some (.value l) => .named l
        | _ => s.fixes.level }
  output :=
    { s.output with
      format := match a.format with
        | some (.value f) => .named f
        | _ => s.output.format
      color := if a.noColor then .bool false else s.output.color }
  log := { s.log with level := if a.verbose then .named "DEBUG" else s.log.level }

/-- Everything that a run depends on besides its host. -/
structure Setup where
  arguments : Arguments
  settings : Settings
  journal : Journal

namespace Setup

/-- Documents are checked against the review format. -/
def validator (s : Setup) : Validator :=
  ⟨s.settings.checks.options, ReviewFormat.document⟩

/-- What is asked for as to repairs. -/
def request (s : Setup) : RepairRequest :=
  ⟨s.settings.fixes.enabled.truthy, s.settings.fixes.namedLevel, s.settings.fixes.passes.toDocument⟩

/-- A document as it is printed for programs. -/
def printed (s : Setup) (d : Document) : Except Fault String :=
  Document.printWith s.settings.output.indent s.settings.output.ascii.truthy d

/-- The file that is written to; without one it is the standard output. -/
def file? (s : Setup) : Option FilePath :=
  s.arguments.output.bind Given.value?

/-- Whether the repaired document is written besides the report, in place of the report in the file. -/
def writesRepaired (s : Setup) : Bool :=
  s.settings.fixes.enabled.truthy && s.arguments.output.isSome

end Setup

variable {m : Type → Type} [Monad m] [Host m]

def printError (useColor : Bool) (message : String) : m Unit :=
  Host.printError (Report.paint useColor .red s!"[ERROR] {message}")

/-- Writes error messages one after the other. -/
def printErrors (useColor : Bool) : List String → m Unit
  | [] => return
  | message :: rest => do
    printError useColor message
    printErrors useColor rest

def readInput (s : Setup) (source : String) : ExceptT Fault m (Except SourceFault Document) := do
  if source = "-" then
    let bytes ← (Host.input : m (List UInt8))
    return Source.ofInput s.arguments.allowComments bytes
  else
    let p := FilePath.ofString source
    (s.journal.tell (Event.reading p.shown).record : m Unit)
    let found ← (Host.content p : m _)
    Source.ofContent s.arguments.allowComments p found

/-- Checks a document and repairs it if that is asked for. -/
def examine (s : Setup) (source : String) (d : Document) : ExceptT Fault m Report :=
  let work : Work := ⟨origin, .debug, "validate", [("source", .string source)]⟩
  work.during s.journal Fault.logged do
    let session := Session.run s.validator s.request d
    (s.journal.tellAll session.events : m Unit)
    session.result

/-- Reads an input, checks it and repairs it if that is asked for. -/
def process (s : Setup) (source : String) : ExceptT Fault m InputOutcome := do
  match ← readInput s source with
  | .error fault =>
    let failure := fault.failure
    (s.journal.tellAll (fault.note?.toList.map Event.notDecoded) : m Unit)
    (s.journal.tell (Event.notParsed source (Document.array [.string failure.shown]).literal).record : m Unit)
    return ⟨source, .unparsed [failure]⟩
  | .ok d =>
    let report ← examine s source d
    (s.journal.tell (Record.ofDocument .debug origin "Report" report.toDocument) : m Unit)
    return ⟨source, .reported report⟩

/-- Processes inputs one after the other. -/
def processAll (s : Setup) : List String → ExceptT Fault m (List InputOutcome)
  | [] => return []
  | source :: rest => do
    let outcome ← process s source
    return outcome :: (← processAll s rest)

/-- Writes a text to a file, or to the standard output. -/
def deliver (s : Setup) (text : String) : Option FilePath → ExceptT Fault m Unit
  | none => (Host.print text : m Unit)
  | some p => do
    Host.prepareFor p
    Host.atPath p (Host.write p (text ++ "\n"))
    (s.journal.tell (Event.written p.shown).record : m Unit)

/-- Reports on an input that there is no document for. -/
def reportFailure (s : Setup) (useColor : Bool) (outcome : InputOutcome) (failures : List ParseFailure) :
    ExceptT Fault m Unit := do
  if s.settings.output.forPrograms then
    let text ← s.printed (.object outcome.reportFields)
    (Host.print text : m Unit)
  else
    (printErrors useColor (failures.map fun f => s!"{parseErrorCode}: {f.shown}") : m Unit)

/-- Reports on a single input.  A repaired document takes the place of the report in the output
file. -/
def reportSingle (s : Setup) (useColor : Bool) (outcome : InputOutcome) : ExceptT Fault m Unit := do
  match outcome.result with
  | .unparsed failures => reportFailure s useColor outcome failures
  | .reported report =>
    if s.writesRepaired then
      deliver s (← s.printed report.document) s.file?
    if !s.arguments.silent then
      let text ←
        if s.settings.output.forPrograms then s.printed report.toDocument
        else pure (report.text outcome.source s.arguments.verbose useColor)
      deliver s text (if s.writesRepaired then none else s.file?)

/-- The messages on inputs that there are no documents for. -/
def failureMessages (outcomes : List InputOutcome) : List String :=
  outcomes.flatMap fun o =>
    match o.result with
    | .reported _ => []
    | .unparsed failures => failures.map fun f => s!"{o.source}: {parseErrorCode}: {f.shown}"

/-- The reports on inputs that there are documents for. -/
def sections (s : Setup) (useColor : Bool) (outcomes : List InputOutcome) : List String :=
  outcomes.filterMap fun o =>
    match o.result with
    | .reported report => some (report.text o.source s.arguments.verbose useColor)
    | .unparsed _ => none

/-- Reports on several inputs, with a summary. -/
def reportMany (s : Setup) (useColor : Bool) (outcomes : List InputOutcome) :
    ExceptT Fault m Unit := do
  if !s.arguments.silent then
    let summary := Summary.of outcomes
    if s.settings.output.forPrograms then
      let files : Document := .array (outcomes.map InputOutcome.toDocument)
      deliver s (← s.printed (.object (summary.fields ++ [("files", files)]))) s.file?
    else
      (printErrors useColor (failureMessages outcomes) : m Unit)
      deliver s ("\n\n".intercalate (sections s useColor outcomes ++ [summary.text useColor])) s.file?

/-- Processes all inputs and reports on them. -/
def run (s : Setup) : ExceptT Fault m Nat := do
  let shows ← (Host.showsColor : m Bool)
  let useColor := s.settings.output.color.truthy && s.arguments.output.isNone && shows
  if 1 < s.arguments.inputs.length && s.writesRepaired then
    (printError useColor "--fix with --output takes a single input file" : m Unit)
    return 1
  else
    let outcomes ← processAll s s.arguments.inputs
    match outcomes with
    | [outcome] => reportSingle s useColor outcome
    | _ => reportMany s useColor outcomes
    return if outcomes.all InputOutcome.valid then 0 else 1

/-- The exit code of a run that may have broken off, which is told. -/
def settle (s : Setup) : Except Fault Nat → m Nat
  | .ok code => return code
  | .error fault => do
    match fault.systemFault? with
    | some f => printError false s!"I/O error: {f.message}"
    | none =>
      s.journal.tell (Record.ofFault origin "UNEXPECTED_ERROR" fault.logged)
      printError false s!"UNEXPECTED_ERROR: {fault.wording}"
    return 1

/-- Answers arguments that nothing is to be done with. -/
def refuse (refusal : Refusal) : m Nat := do
  match refusal with
  | .version => Host.print "rdformat-validator 1.0.0"
  | .help | .misuse => Host.printError "usage: rdformat-validator [OPTION]... [FILE]..."
  return refusal.exitCode

/-- The program: its exit code, or the fault that it ends with where nothing handles it.  The environment of
the host is the one after variables have been loaded from a `.env` file; that loading them returns is
assumed. -/
def execute (args : List String) : m (Except Fault Nat) := do
  match Arguments.ofList args with
  | .error refusal => return .ok (← refuse refusal)
  | .ok a =>
    match ← (Settings.load (a.config.bind Given.value?) : ExceptT Fault m Settings).run with
    | .error fault =>
      match fault.message? with
      | some message =>
        printError false s!"Configuration error: {message}"
        return .ok 1
      | none => return .error fault
    | .ok given =>
      let settings := override given a
      match ← Journal.silent.setUp settings.log.levelValue settings.log.format settings.log.file
          true with
      | (_, .error fault) => return .error fault
      | (journal, .ok ()) =>
        let s : Setup := ⟨a, settings, journal⟩
        return .ok (← settle s (← (run s : ExceptT Fault m Nat).run))

end ReviewDiagnostics.Command
