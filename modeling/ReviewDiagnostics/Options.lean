import ReviewDiagnostics.Logging.Event

/-!
# Options

Two choices say how strictly documents are checked.  They are given by name, in either of two
spellings; later choices override earlier ones.
-/

namespace ReviewDiagnostics

/-- How strictly documents are checked: `strict` makes unknown properties errors, and without
`allowExtra` all properties that a schema does not declare are unknown. -/
structure Options where
  strict : Bool
  allowExtra : Bool
  deriving DecidableEq

namespace Options

/-- Unknown properties are let pass. -/
def standard : Options := ⟨false, true⟩

end Options

/-- The two choices as they were given, by documents that count as yes or as no. -/
structure GivenOptions where
  strict : Document
  allowExtra : Document

namespace GivenOptions

/-- Unknown properties are let pass. -/
def standard : GivenOptions := ⟨.bool false, .bool true⟩

/-- What the choices come to. -/
def options (o : GivenOptions) : Options :=
  ⟨o.strict.truthy, o.allowExtra.truthy⟩

/-- A choice that a name stands for. -/
inductive Choice where
  | strict
  | allowExtra
  deriving DecidableEq

def choice? (name : String) : Option Choice :=
  if name = "strict_mode" ∨ name = "strictMode" then some .strict
  else if name = "allow_extra_fields" ∨ name = "allowExtraFields" then some .allowExtra
  else none

/-- Options with one choice made as it is given. -/
def replace (o : GivenOptions) (c : Choice) (value : Document) : GivenOptions :=
  match c with
  | .strict => { o with strict := value }
  | .allowExtra => { o with allowExtra := value }

/-- Options with one choice made, as yes or no; null makes none. -/
def choose (o : GivenOptions) (c : Choice) (value : Document) : GivenOptions :=
  match value with
  | .null => o
  | d => o.replace c (.bool d.truthy)

/-- Options with named choices made one after the other; names that are not known are told. -/
def merge (o : GivenOptions) (choices : Fields) : GivenOptions × List Event :=
  choices.foldl (fun (o, events) (name, value) =>
    match choice? name with
    | some c => (o.choose c value, events)
    | none => (o, events ++ [.unknownOption name])) (o, [])

/-- Options with the choices of a document made, which has to be an object. -/
def mergeDocument (o : GivenOptions) : Document → Except Fault (GivenOptions × List Event)
  | .object choices => .ok (o.merge choices)
  | _ => .error .noParts

/-- Options with the choices of a document made, if there is one. -/
def mergeOptional (o : GivenOptions) : Option Document → Except Fault (GivenOptions × List Event)
  | none => .ok (o, [])
  | some d => o.mergeDocument d

/-- The options that fields stand for as they are given, all of them by their own names. -/
def ofFields (fields : Fields) : Except Fault GivenOptions :=
  fields.foldlM (fun o (name, value) =>
    if name = "strict_mode" then .ok (o.replace .strict value)
    else if name = "allow_extra_fields" then .ok (o.replace .allowExtra value)
    else .error .wrongKind) standard

/-- Options as a document. -/
def toDocument (o : GivenOptions) : Document :=
  .object [("strictMode", o.strict), ("allowExtraFields", o.allowExtra)]

end GivenOptions

end ReviewDiagnostics
