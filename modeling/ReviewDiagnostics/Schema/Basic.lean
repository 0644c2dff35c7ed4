import ReviewDiagnostics.Fault

/-!
# Schemas

A schema says what a document has to look like: of one kind, or like one of several alternatives.
Limits are kept as they were written, since they are quoted in messages; whether a limit makes sense
shows when it is applied.
-/

namespace ReviewDiagnostics

/-- What is said about a schema; nothing is checked against it. -/
structure About where
  title : Option Document
  description : Option Document

def About.nothing : About := ⟨none, none⟩

/-- The limits on a text. -/
structure TextLimits where
  minLength : Option Document
  maxLength : Option Document
  pattern : Option Document
  enum : Option (List Document)

/-- A text without limits. -/
def TextLimits.none : TextLimits := ⟨.none, .none, .none, .none⟩

/-- A schema. -/
inductive Schema where
  | string (about : About) (limits : TextLimits)
  | number (about : About) (minimum maximum : Option Document)
  | boolean (about : About)
  | null (about : About)
  /-- An object with fields that have to be there, fields of a known form, and possibly others. -/
  | object (about : About) (required : List Document) (properties : List (String × Schema))
      (additional : Bool)
  | array (about : About) (items : Option Schema)
  | oneOf (about : About) (alternatives : List Schema) (uri : Option Document)

namespace Schema

/-- Induction over schemas: what holds of an object, a list or a choice may be shown from what holds
of the schemas inside. -/
@[elab_as_elim]
theorem induction {motive : Schema → Prop}
    (string : ∀ about limits, motive (.string about limits))
    (number : ∀ about minimum maximum, motive (.number about minimum maximum))
    (boolean : ∀ about, motive (.boolean about))
    (null : ∀ about, motive (.null about))
    (object : ∀ about required properties additional, (∀ p ∈ properties, motive p.2) →
      motive (.object about required properties additional))
    (anyArray : ∀ about, motive (.array about none))
    (array : ∀ about item, motive item → motive (.array about (some item)))
    (oneOf : ∀ about alternatives uri, (∀ s ∈ alternatives, motive s) →
      motive (.oneOf about alternatives uri))
    (s : Schema) : motive s := by
  refine @Schema.rec motive (fun properties => ∀ p ∈ properties, motive p.2)
    (fun item => ∀ s ∈ item, motive s) (fun alternatives => ∀ s ∈ alternatives, motive s)
    (fun p => motive p.2) string number boolean null object ?array oneOf
    (by simp) ?properties (by simp) (by simp) (by simp) ?alternatives (fun _ _ h => h) s
  case array =>
    intro about items h
    cases items with
    | none => exact anyArray about
    | some item => exact array about item (h item rfl)
  case properties =>
    intro p properties hp hproperties
    exact List.forall_mem_cons.mpr ⟨hp, hproperties⟩
  case alternatives =>
    intro s alternatives hs halternatives
    exact List.forall_mem_cons.mpr ⟨hs, halternatives⟩

/-- What is said about a schema. -/
def about : Schema → About
  | .string a _ | .number a _ _ | .boolean a | .null a | .object a _ _ _ | .array a _
  | .oneOf a _ _ => a

/-- The kind that a schema asks for; a choice between alternatives asks for none. -/
def kind? : Schema → Option Kind
  | .string _ _ => some .string
  | .number _ _ _ => some .number
  | .boolean _ => some .boolean
  | .null _ => some .null
  | .object _ _ _ _ => some .object
  | .array _ _ => some .array
  | .oneOf _ _ _ => none

/-- Whether a document is of the kind that a schema asks for. -/
def admitsKind (s : Schema) (d : Document) : Bool :=
  match s.kind? with
  | none => true
  | some k => d.kind? == some k

/-- The names of the fields that have to be there; empty for all but objects. -/
def required : Schema → List Document
  | .object _ names _ _ => names
  | _ => []

/-- Whether a field name is among the names that have to be there. -/
def requires (names : List Document) (name : String) : Bool :=
  names.any fun
    | .string s => s == name
    | _ => false

def property? : List (String × Schema) → String → Option Schema
  | [], _ => none
  | (k, s) :: rest, name => if k = name then some s else property? rest name

/-- Two optional documents that are equal up to the writing of numbers. -/
def sameDocument (a b : Option Document) : Bool :=
  match a, b with
  | none, none => true
  | some x, some y => x.same y
  | _, _ => false

/-- Equal titles and descriptions. -/
def sameAbout (a b : About) : Bool :=
  sameDocument a.title b.title && sameDocument a.description b.description

/-- Equal limits on texts. -/
def sameLimits (a b : TextLimits) : Bool :=
  sameDocument a.minLength b.minLength && sameDocument a.maxLength b.maxLength &&
    sameDocument a.pattern b.pattern && sameDocument (a.enum.map .array) (b.enum.map .array)

mutual

/-- Equal up to the order of properties and the writing of numbers. -/
def same : Schema → Schema → Bool
  | .string a l, .string b m => sameAbout a b && sameLimits l m
  | .number a lo hi, .number b lo' hi' =>
    sameAbout a b && sameDocument lo lo' && sameDocument hi hi'
  | .boolean a, .boolean b => sameAbout a b
  | .null a, .null b => sameAbout a b
  | .object a r ps x, .object b r' qs y =>
    sameAbout a b && Document.sameItems r r' && ps.length == qs.length &&
      sameProperties ps qs && x == y
  | .array a none, .array b none => sameAbout a b
  | .array a (some s), .array b (some t) => sameAbout a b && s.same t
  | .oneOf a ss u, .oneOf b ts v => sameAbout a b && sameAlternatives ss ts && sameDocument u v
  | _, _ => false

/-- Lists of pairwise equal schemas. -/
def sameAlternatives : List Schema → List Schema → Bool
  | [], [] => true
  | s :: ss, t :: ts => s.same t && sameAlternatives ss ts
  | _, _ => false

/-- Every property is found in the other schema with an equal form. -/
def sameProperties : List (String × Schema) → List (String × Schema) → Bool
  | [], _ => true
  | (name, s) :: ps, qs =>
    (match property? qs name with
      | some t => s.same t
      | none => false) && sameProperties ps qs

end

end Schema

end ReviewDiagnostics
