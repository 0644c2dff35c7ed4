import ReviewDiagnostics.Files.FilePath
import ReviewDiagnostics.Pattern.Reader
import ReviewDiagnostics.Pattern.Search
import ReviewDiagnostics.Settings.Basic

/-!
# Arguments

What is asked for on the command line.  Options have a short or a long name; a long one may be cut
short as long as it stays the only one, short ones may be written together, and a value follows its
option, after an equals sign or as the next argument.
-/

namespace ReviewDiagnostics.Command

/-- What an option was given: a value, or two dashes, which stand for no value. -/
inductive Given (α : Type) where
  | nothing
  | value (a : α)
  deriving DecidableEq

def Given.value? {α : Type} : Given α → Option α
  | .nothing => none
  | .value a => some a

/-- What is asked for. -/
structure Arguments where
  inputs : List String
  fix : Bool
  fixLevel : Option (Given FixLevel)
  strict : Bool
  noExtraFields : Bool
  format : Option (Given ReportFormat)
  output : Option (Given FilePath)
  config : Option (Given FilePath)
  allowComments : Bool
  verbose : Bool
  silent : Bool
  noColor : Bool

namespace Arguments

/-- Nothing is asked for. -/
def blank : Arguments where
  inputs := []
  fix := false
  fixLevel := none
  strict := false
  noExtraFields := false
  format := none
  output := none
  config := none
  allowComments := false
  verbose := false
  silent := false
  noColor := false

end Arguments

/-- Why nothing is to be done with arguments. -/
inductive Refusal where
  /-- They make no sense. -/
  | misuse
  /-- Help is asked for. -/
  | help
  | version
  deriving DecidableEq

def Refusal.exitCode : Refusal → Nat
  | .misuse => 2
  | .help | .version => 0

/-- What an option does. -/
inductive Meaning where
  | help
  | version
  | flag (set : Arguments → Arguments)
  /-- The option needs a value, which may make no sense. -/
  | value (set : Arguments → Given String → Option Arguments)

/-- The meaning of an option that needs a value, by how a text is read as one. -/
def Meaning.reading {α : Type} (read? : String → Option α) (set : Arguments → Given α → Arguments) :
    Meaning :=
  .value fun a given =>
    match given with
    | .nothing => some (set a .nothing)
    | .value s => (read? s).map fun v => set a (.value v)

def options : List (String × Meaning) :=
  let both (short long : String) (m : Meaning) := [(short, m), (long, m)]
  both "-h" "--help" .help ++
  both "-f" "--fix" (.flag fun a => { a with fix := true }) ++
  [("--fix-level", .reading (fun s => (FixLevel.ofDocument (.string s)).toOption)
      fun a l => { a with fixLevel := some l }),
    ("--strict", .flag fun a => { a with strict := true }),
    ("--no-extra-fields", .flag fun a => { a with noExtraFields := true }),
    ("--format", .reading ReportFormat.ofName? fun a f => { a with format := some f })] ++
  both "-o" "--output" (.reading (some ∘ FilePath.ofString) fun a p => { a with output := some p }) ++
  both "-c" "--config" (.reading (some ∘ FilePath.ofString) fun a p => { a with config := some p }) ++
  [("--allow-comments", .flag fun a => { a with allowComments := true })] ++
  both "-v" "--verbose" (.flag fun a => { a with verbose := true }) ++
  both "-s" "--silent" (.flag fun a => { a with silent := true }) ++
  [("--no-color", .flag fun a => { a with noColor := true }), ("--version", .version)]

/-- What an argument is. -/
inductive Word where
  /-- An input, or the value of an option before it. -/
  | operand
  /-- Two dashes: only operands follow. -/
  | separator
  /-- An option by its short or its long name, perhaps with a text attached: what follows an equals sign,
  or what stands directly behind a short name. -/
  | option (m : Meaning) (short : Bool) (attached : Option (List Char))
  /-- Something like an option that there is none of. -/
  | unknown

/-- The form of a negative number, which is no option. -/
def negativeNumber : Except PatternFault Pattern :=
  Pattern.read "^(-\\d+|-\\d*[.]\\d+)$"

/-- A text before its first equals sign, and what follows that sign. -/
def splitEquals (cs : List Char) : List Char × Option (List Char) :=
  let name := cs.takeWhile (· ≠ '=')
  match cs.drop name.length with
  | [] => (name, none)
  | _ :: text => (name, some text)

/-- Whether a name has one dash only. -/
def isShort (cs : List Char) : Bool :=
  cs.tail.head? ≠ some '-'

/-- The options that a name, perhaps cut short, may stand for. -/
def candidates (cs : List Char) : List Word :=
  match cs with
  | '-' :: '-' :: _ =>
    let (name, attached) := splitEquals cs
    (options.filter fun o => name.isPrefixOf o.1.toList).map fun o => .option o.2 false attached
  | '-' :: c :: text =>
    (options.filter fun o => o.1.toList = ['-', c]).map fun o => .option o.2 true (some text)
  | _ => []

/-- What an argument before the separator is; `none` if it may be several options. -/
def Word.ofString (s : String) : Option Word :=
  let cs := s.toList
  if cs.head? ≠ some '-' then some .operand
  else match options.lookup s with
    | some m => some (.option m (isShort cs) none)
    | none =>
      if cs.length = 1 then some .operand
      else
        let (name, attached) := splitEquals cs
        match options.lookup (String.ofList name), attached with
        | some m, some text => some (.option m (isShort name) (some text))
        | _, _ =>
          match candidates cs with
          | [w] => some w
          | _ :: _ => none
          | [] =>
            if negativeNumber.toOption.any (·.occursIn s) || cs.contains ' ' then some .operand
            else some .unknown

/-- All arguments with what they are; `none` if one of them may be several options. -/
def words? : List String → Option (List (String × Word))
  | [] => some []
  | s :: rest =>
    if s = "--" then some ((s, .separator) :: rest.map fun r => (r, .operand))
    else do
      let w ← Word.ofString s
      return (s, w) :: (← words? rest)

/-- What is done about the options in one argument: what they do, each with its value, and how many of
the following arguments are used up. -/
structure Step where
  actions : List (Meaning × String)
  used : Nat

/-- The step of an option that has nothing attached, given the argument after it if that is an
operand. -/
def Step.alone (next? : Option String) (m : Meaning) : Option Step :=
  match m, next? with
  | .value _, none => none
  | .value _, some s => some ⟨[(m, s)], 1⟩
  | _, _ => some ⟨[(m, "")], 0⟩

/-- The step of an option with a text attached.  The text is the value of the option if it needs one.
Behind the short name of an option that needs none, the text holds more short names, of which the last
may have a text attached in turn. -/
def Step.withText (next? : Option String) (short : Bool) : Meaning → List Char → Option Step
  | .value set, text => some ⟨[(.value set, String.ofList text)], 0⟩
  | _, [] => none
  | m, c :: text =>
    if !short then none
    else match options.lookup (String.ofList ['-', c]) with
      | none => none
      | some more =>
        let rest := if text.isEmpty then Step.alone next? more else Step.withText next? true more text
        rest.map fun s => { s with actions := (m, "") :: s.actions }

/-- The step of an option, given the argument after it if that is an operand. -/
def Step.of (next? : Option String) (m : Meaning) (short : Bool) : Option (List Char) → Option Step
  | none => Step.alone next? m
  | some text => Step.withText next? short m text

def perform : List (Meaning × String) → Arguments → Except Refusal Arguments
  | [], a => .ok a
  | (.help, _) :: _, _ => .error .help
  | (.version, _) :: _, _ => .error .version
  | (.flag set, _) :: rest, a => perform rest (set a)
  | (.value set, s) :: rest, a =>
    match set a (if s = "--" then .nothing else .value s) with
    | some a => perform rest a
    | none => .error .misuse

/-- The arguments that have been gone through: what they ask for, the inputs if they have been found,
and whether something is left over. -/
structure Progress where
  arguments : Arguments
  inputs? : Option (List String)
  leftOver : Bool

/-- The progress after operands in a row.  Only the first such row holds the inputs. -/
def Progress.operands (p : Progress) (row : List String) : Progress :=
  if row.isEmpty then p
  else match p.inputs? with
    | none => { p with inputs? := some (row.erase "--") }
    | some _ => { p with leftOver := true }

/-- Goes through words, with the operands in a row before them. -/
def proceed : Nat → Progress → List String → List (String × Word) → Except Refusal Progress
  | 0, p, _, _ => .ok p
  | _ + 1, p, row, [] => .ok (p.operands row)
  | fuel + 1, p, row, (s, w) :: rest =>
    match w with
    | .operand | .separator => proceed fuel p (row ++ [s]) rest
    | .unknown => proceed fuel { p.operands row with leftOver := true } [] rest
    | .option m short attached =>
      let p := p.operands row
      let next? : Option String :=
        match rest with
        | (s, .operand) :: _ => some s
        | _ => none
      match Step.of next? m short attached with
      | none => .error .misuse
      | some step =>
        match perform step.actions p.arguments with
        | .error r => .error r
        | .ok a =>
          proceed fuel { p with arguments := a } [] (rest.drop step.used)

/-- What the given arguments ask for; without inputs it is the standard input. -/
def Arguments.ofList (args : List String) : Except Refusal Arguments :=
  match words? args with
  | none => .error .misuse
  | some ws =>
    match proceed (ws.length + 1) ⟨.blank, none, false⟩ [] ws with
    | .error r => .error r
    | .ok p =>
      if p.leftOver then .error .misuse
      else
        let inputs := p.inputs?.getD []
        .ok { p.arguments with inputs := if inputs.isEmpty then ["-"] else inputs }

end ReviewDiagnostics.Command
