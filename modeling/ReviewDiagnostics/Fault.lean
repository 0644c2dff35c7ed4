import ReviewDiagnostics.Calendar.Moment
import ReviewDiagnostics.Document.Literal
import ReviewDiagnostics.Files.FileFault
import ReviewDiagnostics.Text.DecimalDigit

/-!
# Faults

A fault is why a request has no answer: not a finding about a document, but a schema, a setting or a
request that makes no sense.
-/

namespace ReviewDiagnostics

/-- Why a request has no answer. -/
inductive Fault where
  /-- An operation met a value of a kind that it is not defined on. -/
  | wrongKind
  /-- A value that is not a whole number was given for a number of rounds. -/
  | notCountable (value : Document)
  /-- A value of a sort that is neither a number nor a text was given for an indentation. -/
  | notIndentation (sort : String)
  /-- Named parts were asked of a value that has none. -/
  | noParts
  /-- An index reaches further back than the start of the list. -/
  | indexBeforeStart
  /-- A number is too large for a binary64 number. -/
  | tooLarge
  | badPattern
  /-- A pattern is declared both for ASCII letters alone and for all letters. -/
  | mixedAlphabets
  /-- A schema is of no known type. -/
  | unsupportedType (type : Document)
  /-- No error code has this name. -/
  | unknownCode (value : Document)
  /-- No fix level has this name. -/
  | unknownFixLevel (literal : String)
  /-- No report format has this name. -/
  | unknownFormat (value : Document)
  /-- Fewer than one fix pass is allowed. -/
  | tooFewPasses (value : Document)
  | invalidSettings
  | malformedSettings (path : String)
  /-- A settings file holds something else than sections. -/
  | settingsWithoutSections (path : String)
  /-- The directory of the user is not known. -/
  | homeless
  /-- A settings file does not exist. -/
  | missingSettings (path : String)
  /-- A file cannot be opened, or a directory not be made. -/
  | file (fault : FileFault)
  /-- No log level has this name. -/
  | unknownLevel (name : String)
  /-- A log format has no fields. -/
  | invalidLogFormat (format : String)
  | tooManyDigits (count : Nat)
  /-- A text that is declared to be a number is empty. -/
  | noDigits
  /-- A text that is declared to be a whole number in some base is none. -/
  | notWhole (base : Nat) (text : String)
  /-- A text that is declared to be a binary64 number is none. -/
  | notReal (text : String)
  /-- A text that is declared to be yes or no is neither. -/
  | notTruth
  /-- A number that is no code point is given for a character. -/
  | notCharacter
  /-- There is no such day, or no such time. -/
  | notMoment (fault : MomentFault)
  /-- Values are nested too deeply. -/
  | tooDeep
  /-- Bytes are not well-formed text. -/
  | malformedText (message : String)

namespace Fault

/-- The wording of a fault, for those that have one. -/
def message? : Fault → Option String
  | .unsupportedType type => some s!"Unsupported schema node: type={type.literal}"
  | .unknownCode value => some s!"{value.literal} is not a valid ValidationErrorCode"
  | .unknownFixLevel literal => some s!"{literal} is not a valid FixLevel"
  | .unknownFormat value => some s!"{value.literal} is not a valid OutputFormat"
  | .tooFewPasses value => some s!"max_iterations must be at least 1, got {value.shown}"
  | .invalidSettings => some "Invalid configuration"
  | .malformedSettings path => some s!"Invalid config file {path}"
  | .settingsWithoutSections path =>
    some s!"Invalid config file {path}: expected a mapping at top level"
  | .missingSettings path => some s!"Config file not found: {path}"
  | .unknownLevel name => some s!"Unknown level: {Text.quoted name}"
  | .invalidLogFormat format => some s!"Invalid format '{format}' for '%' style"
  | .mixedAlphabets => some "ASCII and UNICODE flags are incompatible"
  | .tooManyDigits count =>
    some s!"Exceeds the limit ({Text.maxDigits} digits) for integer string conversion: value has {count} digits; use sys.set_int_max_str_digits() to increase the limit"
  | .notWhole base text =>
    some (s!"invalid literal for int() with base {base}: " ++ ((Text.quoted text).take 200).toString)
  | .notReal text => some s!"could not convert string to float: {Text.quoted text}"
  | .notCharacter => some "chr() arg not in range(0x110000)"
  | .notMoment fault => some fault.message
  | .malformedText message => some message
  | .file f => if f.cause = .nullCharacter then some f.message else none
  | _ => none

/-- The name of the sort of a value, for the log. -/
def sortWord : Document → String
  | .null => "NoneType"
  | .bool _ => "bool"
  | .int _ => "int"
  | .float _ => "float"
  | .string _ => "str"
  | .array _ => "list"
  | .object _ => "dict"

/-- The fault of a file that the system gives a number for. -/
def systemFault? : Fault → Option FileFault
  | .file f => if f.cause = .nullCharacter then none else some f
  | _ => none

/-- The wording of a fault where one is needed in any case. -/
def wording : Fault → String
  | .notCountable value => s!"'{sortWord value}' object cannot be interpreted as an integer"
  | .notIndentation sort => s!"can't multiply sequence by non-int of type '{sort}'"
  | .file f => f.message
  | .homeless => "Could not determine home directory."
  | f => f.message?.getD ""

/-- The class of a fault, for the log. -/
def className : Fault → String
  | .wrongKind | .notCountable _ | .notIndentation _ => "TypeError"
  | .noParts => "AttributeError"
  | .indexBeforeStart | .noDigits => "IndexError"
  | .tooLarge => "OverflowError"
  | .badPattern => "error"
  | .homeless => "RuntimeError"
  | .tooDeep => "RecursionError"
  | .notTruth => "KeyError"
  | .missingSettings _ => "FileNotFoundError"
  | .file f =>
    match f.cause with
    | .missing => "FileNotFoundError"
    | .present => "FileExistsError"
    | .notADirectory => "NotADirectoryError"
    | .isDirectory => "IsADirectoryError"
    | .nullCharacter => "ValueError"
    | .other _ _ => "OSError"
  | _ => "ValueError"

def logged (f : Fault) : String :=
  f.className ++ ": " ++ f.wording

end Fault

end ReviewDiagnostics
