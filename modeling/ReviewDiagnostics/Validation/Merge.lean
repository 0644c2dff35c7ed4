import ReviewDiagnostics.Finding.Basic

/-!
# Merging findings

A specific finding takes the place of the generic one that it supersedes at its path.  The generic
findings that nothing supersedes stay, and so do all specific ones, each once.
-/

namespace ReviewDiagnostics

/-- Whether a specific code says more than a generic one at the same path. -/
def Code.supersedes : Code → Code → Bool
  | .missingDiagnosticMessage, .requiredPropertyMissing => true
  | .missingDiagnosticLocation, .requiredPropertyMissing => true
  | .invalidRange, .requiredPropertyMissing => true
  | .invalidSeverity, .enumValidationFailed => true
  | .invalidSeverity, .typeMismatch => true
  | .invalidPosition, .minValueViolation => true
  | .invalidPosition, .maxValueViolation => true
  | .typeMismatch, .typeMismatch => true
  | _, _ => false

/-- Whether a specific finding stands in for a generic one. -/
def Finding.supersedes (specific generic : Finding) : Bool :=
  specific.path == generic.path && specific.code.supersedes generic.code

namespace Merge

/-- The first specific finding, with its number, that stands in for a generic one. -/
def replacement? (specific : List (Finding × Nat)) (generic : Finding) : Option (Finding × Nat) :=
  specific.find? fun s => s.1.supersedes generic

/-- The generic findings with their replacements, and the numbers of the specific findings that were
placed, given those placed before. -/
def place (specific : List (Finding × Nat)) (placed : List Nat) :
    List Finding → List Finding × List Nat
  | [] => ([], placed)
  | g :: rest =>
    match replacement? specific g with
    | none =>
      let (findings, placed) := place specific placed rest
      (g :: findings, placed)
    | some (s, n) =>
      if n ∈ placed then place specific placed rest
      else
        let (findings, placed) := place specific (n :: placed) rest
        (s :: findings, placed)

end Merge

/-- Generic findings with the specific ones that stand in for them, and then the other specific
ones. -/
def mergeFindings (generic specific : List Finding) : List Finding :=
  let numbered := specific.zipIdx
  let (findings, placed) := Merge.place numbered [] generic
  findings ++ (numbered.filter fun s => s.2 ∉ placed).map (·.1)

end ReviewDiagnostics
