import ReviewDiagnostics.Finding.Code
import ReviewDiagnostics.Logging.Record

/-!
# Events

What happens while documents are read, checked and repaired is told as events.  An event knows how
important it is, which part of the library it comes from and how it is worded.
-/

namespace ReviewDiagnostics

/-- What can happen. -/
inductive Event where
  /-- An option that nothing is known of was given. -/
  | unknownOption (key : String)
  /-- No alternative fits; the closest one is reported on. -/
  | noExactMatch (path label score : String) (errors : Nat)
  /-- A document is not looked into. -/
  | inputRejected (code : Code)
  | checked (valid : Bool) (errors warnings : Nat)
  /-- A repair failed, for a reason. -/
  | fixFailed (code : Code) (path : String) (reason : Fault)
  | notWritable (path : String)
  | fixed (code : Code) (path : String)
  | fixesApplied (applied remaining : Nat)
  | passCompleted (number applied remaining : Nat)
  /-- A text is not a document. -/
  | notDecoded (note : String)
  | reading (path : String)
  /-- An input holds no document. -/
  | notParsed (source failures : String)
  | written (path : String)

namespace Event

def truthWord (b : Bool) : String :=
  if b then "True" else "False"

def record : Event → Record
  | .unknownOption key =>
    ⟨.debug, "rdformat.validator.errors", s!"Ignoring unknown validation option: {key}"⟩
  | .noExactMatch path label score errors =>
    let place := if path = "" then "" else " at " ++ path
    ⟨.debug, "rdformat.validator.json_validator",
      s!"No exact match{place}; closest alternative {label} (score={score}, errors={errors})"⟩
  | .inputRejected code =>
    ⟨.debug, "rdformat.validator.json_validator", s!"Rejected input: {code.name}"⟩
  | .checked valid errors warnings =>
    ⟨.debug, "rdformat.validator.json_validator",
      s!"Validation finished: valid={truthWord valid}, errors={errors}, warnings={warnings}"⟩
  | .fixFailed code path reason =>
    ⟨.warning, "rdformat.validator.auto_fixer",
      s!"Failed to fix {code.name} at '{path}': {reason.wording}"⟩
  | .notWritable path => ⟨.debug, "rdformat.validator.auto_fixer", s!"Cannot write to '{path}'"⟩
  | .fixed code path =>
    ⟨.debug, "rdformat.validator.auto_fixer", s!"Fixed {code.name} at '{path}'"⟩
  | .fixesApplied applied remaining =>
    ⟨.info, "rdformat.validator.auto_fixer",
      s!"Applied {applied} fixes, {remaining} errors remain"⟩
  | .passCompleted number applied remaining =>
    ⟨.debug, "rdformat.validator",
      s!"Fix pass {number}: {applied} applied, {remaining} errors remain"⟩
  | .notDecoded note => ⟨.debug, "rdformat.parser.json_parser", note⟩
  | .reading path => ⟨.debug, "rdformat.parser.json_parser", s!"Reading {path}"⟩
  | .notParsed source failures =>
    ⟨.debug, "rdformat.cli", s!"Parse failed for {source}: {failures}"⟩
  | .written path => ⟨.info, "rdformat.cli", s!"Output written to: {path}"⟩

end Event

end ReviewDiagnostics
