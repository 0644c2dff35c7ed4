import ReviewDiagnostics.Schema.Basic

/-!
# The review diagnostic format

The schema of the documents that review tools exchange: a single diagnostic, a list of diagnostics,
or a result that wraps such a list.
-/

namespace ReviewDiagnostics.ReviewFormat

/-- The severities that a diagnostic or a result can have. -/
def severities : List String := ["UNKNOWN_SEVERITY", "ERROR", "WARNING", "INFO"]

def linkPattern : String := "^https?://.+"

def about (title description : String) : About :=
  ⟨some (.string title), some (.string description)⟩

def titled (title : String) : About := ⟨some (.string title), none⟩

def described (description : String) : About := ⟨none, some (.string description)⟩

/-- Texts as they stand in a schema. -/
def names (texts : List String) : List Document := texts.map .string

/-- Any text. -/
def text : Schema := .string .nothing .none

/-- A text that is not blank. -/
def nonEmpty (a : About) : Schema := .string a { TextLimits.none with minLength := some (.int 1) }

def link : Schema := .string .nothing { TextLimits.none with pattern := some (.string linkPattern) }

def severity : Schema :=
  .string (described "Severity of the diagnostic")
    { TextLimits.none with enum := some (names severities) }

/-- A number counted from one. -/
def ordinal : Schema := .number .nothing (some (.int 1)) none

def position : Schema :=
  .object (about "Position" "1-based line and optional column in a file") (names ["line"])
    [("line", ordinal), ("column", ordinal)] true

def range : Schema :=
  .object (titled "Range") (names ["start"]) [("start", position), ("end", position)] true

def location : Schema :=
  .object (titled "Location") (names ["path"])
    [("path", nonEmpty (described "File path")), ("range", range)] true

def source : Schema :=
  .object (about "Source" "Tool that produced the diagnostic") (names ["name"])
    [("name", nonEmpty .nothing), ("url", link)] true

def code : Schema :=
  .object (about "Code" "Rule code and optional documentation link") []
    [("value", text), ("url", link)] true

def suggestion : Schema :=
  .object (about "Suggestion" "Replacement text for a range") (names ["range", "text"])
    [("range", range), ("text", text)] true

/-- Another place that matters. -/
def relatedLocation : Schema :=
  .object (titled "RelatedLocation") (names ["location"])
    [("message", text), ("location", location)] true

def diagnostic : Schema :=
  .object (titled "Diagnostic") (names ["message", "location"])
    [("message", nonEmpty .nothing), ("location", location), ("severity", severity),
      ("source", source), ("code", code), ("suggestions", .array .nothing (some suggestion)),
      ("original_output", text),
      ("related_locations", .array .nothing (some relatedLocation))] true

def diagnosticArray : Schema := .array (titled "DiagnosticArray") (some diagnostic)

def diagnosticResult : Schema :=
  .object (titled "DiagnosticResult") (names ["diagnostics"])
    [("diagnostics", .array .nothing (some diagnostic)), ("source", source),
      ("severity", severity)] true

def document : Schema :=
  .oneOf (titled "Reviewdog Diagnostic Format") [diagnostic, diagnosticArray, diagnosticResult]
    (some (.string "http://json-schema.org/draft-07/schema#"))

def named? (name : String) : Option Schema :=
  [("position", position), ("range", range), ("location", location), ("source", source),
    ("code", code), ("suggestion", suggestion), ("relatedLocation", relatedLocation),
    ("diagnostic", diagnostic), ("diagnosticResult", diagnosticResult),
    ("rdformat", document)].lookup name

end ReviewDiagnostics.ReviewFormat
