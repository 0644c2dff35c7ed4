import ReviewDiagnostics.Document.Source
import ReviewDiagnostics.Report.Text

/-!
# Summaries

What several inputs come to together.
-/

namespace ReviewDiagnostics

-- Sums start from the zero of the core library, whatever else is imported.
attribute [local instance (2000)] Zero.ofOfNat0

/-- What became of an input: a report, or the failures for which there is no document. -/
inductive InputResult where
  | reported (report : Report)
  | unparsed (failures : List ParseFailure)

/-- An input and what became of it. -/
structure InputOutcome where
  source : String
  result : InputResult

/-- The code of a failure to read a document. -/
def parseErrorCode : String := "PARSE_ERROR"

def ParseFailure.fields (f : ParseFailure) : Fields :=
  let place (name : String) : Option Nat → Fields
    | none => []
    | some n => [(name, .int n)]
  [("message", .string f.message)] ++ place "line" f.line ++ place "column" f.column

namespace InputOutcome

def valid (o : InputOutcome) : Bool :=
  match o.result with
  | .reported r => r.verdict.valid
  | .unparsed _ => false

def errorCount (o : InputOutcome) : Nat :=
  match o.result with
  | .reported r => r.verdict.errors.length
  | .unparsed failures => failures.length

def warningCount (o : InputOutcome) : Nat :=
  match o.result with
  | .reported r => r.verdict.warnings.length
  | .unparsed _ => 0

def fixCount (o : InputOutcome) : Nat :=
  match o.result with
  | .reported r => r.applied.length
  | .unparsed _ => 0

/-- The fields of a report on an input, without its name. -/
def reportFields (o : InputOutcome) : Fields :=
  match o.result with
  | .reported r => r.fields
  | .unparsed failures =>
    [("valid", .bool false),
      ("errors", .array (failures.map fun f =>
        .object (("code", .string parseErrorCode) :: f.fields))),
      ("warnings", .array [])]

def toDocument (o : InputOutcome) : Document :=
  .object (("file", .string o.source) :: o.reportFields)

end InputOutcome

/-- Counts over several inputs. -/
structure Summary where
  processed : Nat
  valid : Nat
  errors : Nat
  warnings : Nat
  fixes : Nat

namespace Summary

def of (outcomes : List InputOutcome) : Summary where
  processed := outcomes.length
  valid := outcomes.countP InputOutcome.valid
  errors := (outcomes.map InputOutcome.errorCount).sum
  warnings := (outcomes.map InputOutcome.warningCount).sum
  fixes := (outcomes.map InputOutcome.fixCount).sum

/-- The number of inputs that are not valid. -/
def invalid (s : Summary) : Nat := s.processed - s.valid

def fields (s : Summary) : Fields :=
  [("success", .bool (s.valid == s.processed)), ("filesProcessed", .int s.processed),
    ("validFiles", .int s.valid), ("invalidFiles", .int s.invalid), ("totalErrors", .int s.errors),
    ("totalWarnings", .int s.warnings), ("totalFixes", .int s.fixes)]

def text (s : Summary) (useColor : Bool) : String :=
  let invalidPaint : Report.Paint := if s.invalid = 0 then .green else .red
  "\n".intercalate
    ([Report.paint useColor .bold "RDFormat Validation Results",
      s!"Files processed: {s.processed}",
      s!"Valid files: {Report.paint useColor .green (toString s.valid)}",
      s!"Invalid files: {Report.paint useColor invalidPaint (toString s.invalid)}",
      s!"Total errors: {s.errors}",
      s!"Total warnings: {s.warnings}"] ++
      if s.fixes = 0 then [] else [s!"Total fixes applied: {s.fixes}"])

end Summary

end ReviewDiagnostics
