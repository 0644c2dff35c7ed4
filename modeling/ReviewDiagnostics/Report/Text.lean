import ReviewDiagnostics.Repair.Session

/-!
# Text reports

A report for people: the verdict, a line for every finding, and in detail also one for every notice and
every repair, with a summary at the end.
-/

namespace ReviewDiagnostics.Report

/-- The marks that terminals show colours by. -/
inductive Paint where
  | red
  | green
  | yellow
  | blue
  | bold
  | dim
  | greenBold
  | redBold

def Paint.mark : Paint → String
  | .red => "\x1b[91m"
  | .green => "\x1b[92m"
  | .yellow => "\x1b[93m"
  | .blue => "\x1b[94m"
  | .bold => "\x1b[1m"
  | .dim => "\x1b[2m"
  | .greenBold => "\x1b[92m\x1b[1m"
  | .redBold => "\x1b[91m\x1b[1m"

/-- A text in colour, if colours are used. -/
def paint (useColor : Bool) (p : Paint) (text : String) : String :=
  if useColor then p.mark ++ text ++ "\x1b[0m" else text

/-- The path at the start of a line; the whole document has none. -/
def pathText (useColor : Bool) (path : String) : String :=
  if path = "" then "" else paint useColor .dim path ++ ": "

def codeText (useColor : Bool) (c : Code) : String :=
  paint useColor .dim ("(" ++ c.name ++ ")")

def errorLine (useColor : Bool) (f : Finding) : String :=
  let tag := paint useColor .red "[ERROR]"
  s!"  {tag} {pathText useColor f.path}{f.message} {codeText useColor f.code}"

def warningLine (useColor : Bool) (n : Notice) : String :=
  let tag := paint useColor .yellow "[WARNING]"
  s!"  {tag} {pathText useColor n.path}{n.message} {codeText useColor n.code}"

def fixLine (useColor : Bool) (f : AppliedFix) : String :=
  let tag := paint useColor .blue "[FIXED]"
  s!"  {tag} {pathText useColor f.path}{f.message}"

def sourceName (source : String) : String :=
  if source = "-" then "<stdin>" else source

def countLine (r : Report) : String :=
  s!"{r.verdict.errors.length} error(s), {r.verdict.warnings.length} warning(s)" ++
    if r.applied.isEmpty then "" else s!", {r.applied.length} fix(es) applied"

/-- A report as text.  Notices and repairs are listed in detail only if `verbose`. -/
def text (r : Report) (source : String) (verbose useColor : Bool) : String :=
  let status :=
    if r.verdict.valid then paint useColor .greenBold "VALID" else paint useColor .redBold "INVALID"
  let details :=
    if verbose then
      r.verdict.warnings.map (warningLine useColor) ++ r.applied.map (fixLine useColor)
    else []
  let summary := paint useColor (if r.verdict.valid then .green else .red) r.countLine
  "\n".intercalate
    ([s!"{sourceName source}: {status}"] ++ r.verdict.errors.map (errorLine useColor) ++ details ++
      ["", summary])

end ReviewDiagnostics.Report
