import ReviewDiagnostics.Document.Printer
import ReviewDiagnostics.Repair.Session
import ReviewDiagnostics.Yaml.Value

/-!
# Reports for programs

Reports and repaired documents are printed with an indentation that comes from the settings: a number
of blanks, a text, or nothing for a single line.
-/

namespace ReviewDiagnostics

/-- The indentation of one level that a setting asks for. -/
def Yaml.Value.indentUnit : Yaml.Value → Except Fault (Option String)
  | .null => .ok none
  | .string s => .ok (some s)
  | .int n => .ok (some (String.ofList (List.replicate n.toNat ' ')))
  | .bool b => .ok (some (if b then " " else ""))
  | v => .error (.notIndentation v.sortWord)

/-- A document printed with the indentation that a setting asks for.  A lone text needs none. -/
def Document.printWith (indent : Yaml.Value) (ascii : Bool) (d : Document) : Except Fault String :=
  match d with
  | .string s => .ok ((Document.string s).print ⟨none, ascii⟩)
  | d => do return d.print ⟨← indent.indentUnit, ascii⟩

end ReviewDiagnostics
