import ReviewDiagnostics.Finding.Basic
import ReviewDiagnostics.Schema.Basic

/-!
# Resemblance

Where a schema offers alternatives, two measures decide which of them a document is judged by.  The
likelihood orders the alternatives before they are tried; the closeness ranks those that failed.
Both are sums of named terms.
-/

namespace ReviewDiagnostics

-- Sums and maxima are those of the core library, whatever else is imported.
attribute [local instance (2000)] Zero.ofOfNat0 Rat.instMax

/-- A named contribution to a measure. -/
abbrev Term := String × Rat

/-- The binary64 number nearest to a rational, as a rational. -/
def toPrecision (q : Rat) : Rat :=
  ((Binary64.round q).toRat?).getD q

namespace Likelihood

def typeMatch : Rat := 10
def allRequiredPresent : Rat := 50
def requiredPresent : Rat := 5
def requiredMissing : Rat := -20
def declaredPresent : Rat := 2
def recognizedRatio : Rat := 10
def diagnosticSignature : Rat := 30
def looksLikeDiagnostic : Rat := -25
def arrayMatch : Rat := 15
def firstItemWeight : Rat := toPrecision (3 / 10)

/-- The sum of terms from the first to the last, each sum rounded. -/
def total (terms : List Term) : Rat :=
  terms.foldl (fun sum t => toPrecision (sum + t.2)) 0

/-- A likelihood is never negative. -/
def clamp (q : Rat) : Rat := max 0 q

/-- The terms for the fields that have to be there. -/
def requiredTerms (names : List Document) (fields : Fields) : List Term :=
  let present := (names.filter fun
    | .string s => fields.has s
    | _ => false).length
  if names.isEmpty then []
  else if present = names.length then [("all_required_present", allRequiredPresent)]
  else
    [("required_present", present * requiredPresent),
      ("required_missing", ((names.length : Rat) - present) * requiredMissing)]

def declaredTerms (properties : List (String × Schema)) (fields : Fields) : List Term :=
  let declared := (properties.filter fun p => fields.has p.1).length
  if properties.isEmpty then []
  else
    [("declared_properties", declared * declaredPresent),
      ("recognized_key_ratio",
        toPrecision (toPrecision ((declared : Rat) / (max fields.length 1 : Nat)) * recognizedRatio))]

/-- The terms for fields that tell diagnostics and results apart. -/
def signatureTerms (names : List Document) (fields : Fields) : List Term :=
  let both (s : String) := fields.has s && Schema.requires names s
  (if both "message" && both "location" then [("diagnostic_signature", diagnosticSignature)] else []) ++
    (if Schema.requires names "diagnostics" && (fields.has "message" || fields.has "location") then
      [("result_looks_like_diagnostic", looksLikeDiagnostic)] else [])

mutual

/-- The contributions to how plausible it is that a document is meant to be of a form. -/
def terms (s : Schema) (d : Document) : List Term :=
  match s with
  | .oneOf _ alternatives _ => [("best_alternative", best alternatives d)]
  | .object _ required properties _ =>
    match d with
    | .object fields =>
      ("type_match", typeMatch) :: requiredTerms required fields ++ declaredTerms properties fields ++
        signatureTerms required fields
    | _ => [("type_mismatch", 0)]
  | .array _ items =>
    match d, items with
    | .array (x :: _), some item =>
      [("type_match", typeMatch), ("array_match", arrayMatch),
        ("first_item", toPrecision (clamp (total (terms item x)) * firstItemWeight))]
    | .array _, _ => [("type_match", typeMatch), ("array_match", arrayMatch)]
    | _, _ => [("type_mismatch", 0)]
  | s => if s.admitsKind d then [("type_match", typeMatch)] else [("type_mismatch", 0)]
termination_by structural s

/-- The greatest likelihood among alternatives; zero if there are none. -/
def best (alternatives : List Schema) (d : Document) : Rat :=
  match alternatives with
  | [] => 0
  | s :: rest => max (clamp (total (terms s d))) (best rest d)
termination_by structural alternatives

end

/-- How plausible it is that a document is meant to be of a form; zero if it is of another kind. -/
def score (s : Schema) (d : Document) : Rat :=
  clamp (total (terms s d))

mutual

/-- Whether the likelihood asks for a field by a name that cannot be one, a list or an object. -/
def misnamed (s : Schema) (d : Document) : Bool :=
  match s with
  | .oneOf _ alternatives _ => misnamedAny alternatives d
  | .object _ required _ _ =>
    d.fields?.isSome && required.any fun
      | .array _ | .object _ => true
      | _ => false
  | .array _ items =>
    match d, items with
    | .array (x :: _), some item => misnamed item x
    | _, _ => false
  | _ => false
termination_by structural s

def misnamedAny (alternatives : List Schema) (d : Document) : Bool :=
  match alternatives with
  | [] => false
  | s :: rest => misnamed s d || misnamedAny rest d
termination_by structural alternatives

end

/-- Candidates by descending likelihood of their forms; equally likely ones keep their order. -/
def order {α : Type} (d : Document) (candidates : List (Schema × α)) : List (Schema × α) :=
  ((candidates.map fun c => (score c.1 d, c)).mergeSort fun a b => decide (b.1 ≤ a.1)).map (·.2)

end Likelihood

namespace Closeness

def base : Int := 100
def perError : Int := -5
def perTypeMismatch : Int := -50
def perRequiredMissing : Int := -30
def perStructural : Int := 2
def messagePresent : Int := 10
def locationPresent : Int := 10
def withoutDiagnostics : Int := -20
def looksLikeDiagnostic : Int := -25
def kindMismatch : Int := -100

/-- Codes that say: the right form, but a wrong detail. -/
def isStructural : Code → Bool
  | .minLengthViolation | .maxLengthViolation | .patternMismatch | .emptyString
  | .minValueViolation | .maxValueViolation | .enumValidationFailed | .invalidPosition
  | .invalidRange | .invalidLocation | .invalidSeverity => true
  | _ => false

/-- Whether fields read as those of a single diagnostic. -/
def diagnosticShaped (fields : Fields) : Bool :=
  !fields.has "diagnostics" && ["message", "location", "severity", "source"].any fields.has

/-- The contributions of an object to how close it is to an object form. -/
def fieldTerms (required : List Document) (fields : Fields) : List (String × Int) :=
  let asked := Schema.requires required
  (if asked "message" && fields.has "message" then [("message_present", messagePresent)] else []) ++
    (if asked "location" && fields.has "location" then [("location_present", locationPresent)]
      else []) ++
    (if asked "diagnostics" && !fields.has "diagnostics" then
      [("result_without_diagnostics", withoutDiagnostics)] else []) ++
    (if asked "diagnostics" && diagnosticShaped fields then
      [("result_looks_like_diagnostic", looksLikeDiagnostic)] else [])

/-- The contributions to how close a document with these findings is to a form. -/
def terms (s : Schema) (d : Document) (codes : List Code) : List (String × Int) :=
  [("base", base), ("errors", codes.length * perError),
    ("type_mismatches", codes.count .typeMismatch * perTypeMismatch),
    ("required_missing", codes.count .requiredPropertyMissing * perRequiredMissing),
    ("structural_errors", codes.countP isStructural * perStructural)] ++
  (if s.admitsKind d then [] else [("root_kind_mismatch", kindMismatch)]) ++
  (match s, d with
    | .object _ required _ _, .object fields => fieldTerms required fields
    | _, _ => [])

/-- How close a document is to a form that it fails to have; more is closer. -/
def score (s : Schema) (d : Document) (codes : List Code) : Int :=
  ((terms s d codes).map (·.2)).sum

end Closeness

end ReviewDiagnostics
