import ReviewDiagnostics.Yaml.Assembly
import ReviewDiagnostics.Yaml.Building

/-!
# Reading YAML texts

Settings are written in YAML 1.1.  A text is taken apart into tokens, these are put together to the
nodes of one document, and its contents are built.
-/

namespace ReviewDiagnostics.Yaml

/-- What is held by a YAML text of one document; an empty one holds null. -/
def read (cs : List Char) : Except YamlFault Contents := do
  if !cs.all isAllowed then throw .malformed
  match ← Outline.ofTokens? (tokens cs) with
  | none => return ⟨#[], .value .null⟩
  | some o => o.contents

end ReviewDiagnostics.Yaml
