import ReviewDiagnostics.Options
import ReviewDiagnostics.Pattern.Reader
import ReviewDiagnostics.Pattern.Search
import ReviewDiagnostics.Document.Path
import ReviewDiagnostics.Resemblance
import ReviewDiagnostics.Text.Blank
import ReviewDiagnostics.Validation.Outcome

/-!
# Conformity

Checks a document against a schema, part by part.  Of a choice between alternatives the first one
that fits counts, in the order of likelihood; if none fits, the closest one is reported on.
-/

namespace ReviewDiagnostics

namespace Document

/-- Exact comparison of two numbers, of which either may turn out to be none. -/
def isBelow (a b : Document) : Except Fault Bool :=
  if a.isNumeric && b.isNumeric then .ok (a.less b) else .error .wrongKind

/-- The text of a number as a bound, with six significant digits. -/
def boundText : Document → Except Fault String
  | .bool b => .ok (if b then "1" else "0")
  | .int n =>
    match Binary64.round n with
    | .infinite _ => .error .tooLarge
    | x => .ok (String.ofList x.general)
  | .float x => .ok (String.ofList x.general)
  | _ => .error .wrongKind

end Document

namespace Conformity

open Outcome

/-- An outcome that hangs on a test which may not make sense. -/
@[inline]
def when (test : Except Fault Bool) (outcome : Outcome) : Outcome :=
  match test with
  | .error f => ofFault f
  | .ok true => outcome
  | .ok false => clean

/-- A text that is allowed, as a word. -/
def wordText : Document → Except Fault String
  | .string s => .ok s
  | _ => .error .wrongKind

def enumText (allowed : List Document) : Except Fault String := do
  let words ← allowed.mapM wordText
  return "one of: " ++ ", ".intercalate words

/-- Whether a text is among the allowed ones. -/
def isAllowed (allowed : List Document) (s : String) : Bool :=
  allowed.any fun
    | .string t => s == t
    | _ => false

/-- A text against its lower limit: being blank is a finding of its own. -/
def checkMinLength (path s : String) (min? : Option Document) : Outcome :=
  match min? with
  | none => clean
  | some min =>
    if min.truthy && Text.allBlank s then
      ofError (.expecting path .emptyString (.string s) "non-empty string")
    else
      when ((Document.int s.length).isBelow min)
        (ofError (.of path .minLengthViolation (.string s)
          (.string s!"string with minimum length {min.shown}") min))

def checkMaxLength (path s : String) (max? : Option Document) : Outcome :=
  match max? with
  | none => clean
  | some max =>
    when (max.isBelow (.int s.length))
      (ofError (.of path .maxLengthViolation (.string s)
        (.string s!"string with maximum length {max.shown}") max))

/-- Why there is no answer where a pattern cannot be read. -/
def patternFault : PatternFault → Fault
  | .malformed => .badPattern
  | .tooManyRounds => .tooLarge
  | .tooManyDigits count => .tooManyDigits count
  | .mixedAlphabets => .mixedAlphabets

def checkPattern (path s : String) (pattern? : Option Document) : Outcome :=
  match pattern? with
  | none => clean
  | some (.string p) =>
    match Pattern.read p with
    | .error f => ofFault (patternFault f)
    | .ok pattern =>
      if pattern.occursIn s then clean
      else ofError (.expecting path .patternMismatch (.string s) s!"string matching pattern: {p}")
  | some _ => ofFault .wrongKind

/-- A text against its limits.  A text that is not among the allowed ones is not looked at further. -/
def checkText (path s : String) (limits : TextLimits) : Outcome :=
  let further := checkMinLength path s limits.minLength ++
    (checkMaxLength path s limits.maxLength ++ checkPattern path s limits.pattern)
  match limits.enum with
  | none => further
  | some allowed =>
    if isAllowed allowed s then further
    else
      match enumText allowed with
      | .error f => ofFault f
      | .ok expected => ofError (.expecting path .enumValidationFailed (.string s) expected)

def checkBound (path : String) (code : Code) (sign : String) (value : Document) (bound : Document)
    (exceeded : Except Fault Bool) : Outcome :=
  match exceeded with
  | .error f => ofFault f
  | .ok false => clean
  | .ok true =>
    match bound.boundText with
    | .error f => ofFault f
    | .ok text => ofError (.of path code value (.string s!"number {sign} {text}") bound)

def checkNumber (path : String) (value : Document) (minimum? maximum? : Option Document) : Outcome :=
  (match minimum? with
    | none => clean
    | some min => checkBound path .minValueViolation ">=" value min (value.isBelow min)) ++
  (match maximum? with
    | none => clean
    | some max => checkBound path .maxValueViolation "<=" value max (max.isBelow value))

/-- The description of a property that is missing. -/
def missingText (child? : Option Schema) : String :=
  ((child?.bind Schema.kind?).map Kind.word).getD "value"

/-- A field that has to be there.  A name that is no text is never there; where it would be the whole
path it makes no sense. -/
def checkRequired (path : String) (fields : Fields) (properties : List (String × Schema)) :
    Document → Outcome
  | .string name =>
    if fields.has name then clean
    else missing (Path.join path (.name name)) (missingText (Schema.property? properties name))
  | .int n => missing (Path.join path (.index n)) (missingText none)
  | .bool b => missing s!"{path}[{(Document.bool b).shown}]" (missingText none)
  | .array _ | .object _ => ofFault .wrongKind
  | d => if path = "" then ofFault .noParts else missing s!"{path}.{d.shown}" (missingText none)
where
  missing (place expected : String) : Outcome :=
    ofError (.expecting place .requiredPropertyMissing .null expected)

/-- The fields that a schema does not declare. -/
def checkUnknown (path : String) (fields : Fields) (properties : List (String × Schema))
    (additional : Bool) (o : Options) : Outcome :=
  if properties.isEmpty || (additional && o.allowExtra) then clean
  else
    join ((fields.filter fun f => (Schema.property? properties f.1).isNone).map fun f =>
      let place := Path.join path (.name f.1)
      if o.strict then ofError (.expecting place .unknownProperty f.2 "property not present")
      else ofWarning (.of place .unknownProperty none))

def label (s : Schema) : String :=
  match s.about.title with
  | some t =>
    if t.truthy then t.shown else kindLabel
  | none => kindLabel
where
  kindLabel := match s.kind? with
    | none => "None"
    | some .string => "SchemaType.STRING"
    | some .number => "SchemaType.NUMBER"
    | some .boolean => "SchemaType.BOOLEAN"
    | some .object => "SchemaType.OBJECT"
    | some .array => "SchemaType.ARRAY"
    | some .null => "SchemaType.NULL"

/-- An alternative that failed, with its closeness. -/
structure Candidate where
  score : Int
  schema : Schema
  outcome : Outcome

/-- The closer of two failed alternatives; of equally close ones the earlier. -/
def closer (best? : Option Candidate) (c : Candidate) : Candidate :=
  match best? with
  | none => c
  | some b => if b.score < c.score then c else b

/-- The outcome of alternatives that were tried in this order, given the closest one before them. -/
def settle (path : String) (d : Document) (best? : Option Candidate) :
    List (Schema × Outcome) → Outcome
  | [] =>
    match best? with
    | none =>
      ofError (.expecting path .oneofValidationFailed d "a schema with at least one alternative")
    | some b =>
      { clean with
        errors := b.outcome.errors
        warnings := b.outcome.warnings
        events := [.noExactMatch path (label b.schema)
          (String.ofList (Binary64.round b.score).general) b.outcome.errors.length] }
  | (s, o) :: rest =>
    if o.fault.isSome then { clean with events := o.events, fault := o.fault }
    else if o.errors.isEmpty then { clean with warnings := o.warnings, events := o.events }
    else
      let c : Candidate := ⟨Closeness.score s d (o.errors.map (·.code)), s, o⟩
      { clean with events := o.events } ++ settle path d (some (closer best? c)) rest

/-- The outcome of a choice, given what each alternative gives. -/
def choose (path : String) (d : Document) (tried : List (Schema × Outcome)) : Outcome :=
  if tried.any fun t => Likelihood.misnamed t.1 d then ofFault .wrongKind
  else settle path d none (Likelihood.order d tried)

def mismatch (path : String) (d : Document) (kind : Kind) : Outcome :=
  ofError (.expecting path .typeMismatch d kind.word)

mutual

/-- What checking a document against a schema gives. -/
def check (o : Options) (s : Schema) (path : String) (d : Document) : Outcome :=
  match s with
  | .oneOf _ alternatives _ => choose path d (checkAlternatives o alternatives path d)
  | .string _ limits =>
    match d with
    | .string t => checkText path t limits
    | d => mismatch path d .string
  | .number _ minimum? maximum? =>
    if d.kind? = some .number then checkNumber path d minimum? maximum?
    else mismatch path d .number
  | .boolean _ => if d.kind? = some .boolean then clean else mismatch path d .boolean
  | .null _ => if d.kind? = some .null then clean else mismatch path d .null
  | .object _ required properties additional =>
    match d with
    | .object fields =>
      join (required.map (checkRequired path fields properties)) ++
        (checkProperties o properties path fields ++
          checkUnknown path fields properties additional o)
    | d => mismatch path d .object
  | .array _ none => if d.kind? = some .array then clean else mismatch path d .array
  | .array _ (some item) =>
    match d with
    | .array items =>
      join (items.mapIdx fun i x => check o item (Path.join path (.index i)) x)
    | d => mismatch path d .array
termination_by structural s

/-- What checking against each alternative gives. -/
def checkAlternatives (o : Options) (alternatives : List Schema) (path : String) (d : Document) :
    List (Schema × Outcome) :=
  match alternatives with
  | [] => []
  | s :: rest => (s, check o s path d) :: checkAlternatives o rest path d
termination_by structural alternatives

/-- What checking the declared properties gives that are there. -/
def checkProperties (o : Options) (properties : List (String × Schema)) (path : String)
    (fields : Fields) : Outcome :=
  match properties with
  | [] => clean
  | (name, s) :: rest =>
    (match fields.get? name with
      | some d => check o s (Path.join path (.name name)) d
      | none => clean) ++ checkProperties o rest path fields
termination_by structural properties

end

/-- What checking one declared property gives. -/
def checkProperty (o : Options) (path : String) (fields : Fields) (p : String × Schema) : Outcome :=
  match fields.get? p.1 with
  | some d => check o p.2 (Path.join path (.name p.1)) d
  | none => clean

theorem checkAlternatives_eq_map (o : Options) (alternatives : List Schema) (path : String)
    (d : Document) :
    checkAlternatives o alternatives path d = alternatives.map fun s => (s, check o s path d) := by
  induction alternatives with
  | nil => rfl
  | cons s alternatives ih => rw [checkAlternatives, ih, List.map_cons]

theorem checkProperties_eq_join (o : Options) (properties : List (String × Schema)) (path : String)
    (fields : Fields) :
    checkProperties o properties path fields =
      join (properties.map (checkProperty o path fields)) := by
  induction properties with
  | nil => rfl
  | cons p properties ih =>
    rw [checkProperties, ih, List.map_cons, join_cons]
    rfl

section

variable {o : Options} {about : About} {path : String}

/-- What checking an object gives, part by part. -/
theorem check_object_eq {required : List Document} {properties : List (String × Schema)}
    {additional : Bool} {fields : Fields} :
    check o (.object about required properties additional) path (.object fields) =
      join (required.map (checkRequired path fields properties)) ++
        (join (properties.map (checkProperty o path fields)) ++
          checkUnknown path fields properties additional o) := by
  rw [check, checkProperties_eq_join]

/-- What checking against a choice gives is chosen from what its alternatives give. -/
theorem check_oneOf_eq {alternatives : List Schema} {uri : Option Document} {d : Document} :
    check o (.oneOf about alternatives uri) path d =
      choose path d (alternatives.map fun s => (s, check o s path d)) := by
  rw [check, checkAlternatives_eq_map]

end

end Conformity

end ReviewDiagnostics
