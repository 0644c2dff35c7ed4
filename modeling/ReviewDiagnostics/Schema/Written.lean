import ReviewDiagnostics.Schema.Basic

/-!
# Written schemas

A schema is written as an object: its kind under `type`, or its alternatives under `oneOf`, and the
limits beside it.  `ofDocument` reads that form and `toDocument` writes it; what a schema has no use
for is not looked at.
-/

namespace ReviewDiagnostics

/-- The parts of a document that can be gone through one by one: characters, items or names. -/
def Document.parts : Document → Except Fault (List Document)
  | .string s => .ok (s.toList.map fun c => .string (String.singleton c))
  | .array items => .ok items
  | .object fields => .ok (fields.map fun f => .string f.1)
  | _ => .error .wrongKind

namespace Schema

/-- The title and the description of a written schema. -/
def aboutOf (fields : Fields) : About :=
  ⟨(Document.field fields "title").present?, (Document.field fields "description").present?⟩

def limitsOf (fields : Fields) : Except Fault TextLimits := do
  let enum ← match (Document.field fields "enum").present? with
    | none => pure none
    | some d => some <$> d.parts
  return ⟨(Document.field fields "minLength").present?,
    (Document.field fields "maxLength").present?,
    (Document.field fields "pattern").present?, enum⟩

def kindOf (fields : Fields) : Except Fault Kind :=
  match Document.field fields "type" with
  | .string word =>
    match Kind.ofWord? word with
    | some k => .ok k
    | none => .error (.unsupportedType (.string word))
  | .array _ | .object _ => .error .wrongKind
  | d => .error (.unsupportedType d)

mutual

def ofDocument : Document → Except Fault Schema
  | .object fields =>
    let about := aboutOf fields
    if Fields.has fields "oneOf" then do
      return .oneOf about (← alternativesIn fields) (Document.field fields "$schema").present?
    else do
      match ← kindOf fields with
      | .string => return .string about (← limitsOf fields)
      | .number =>
        return .number about (Document.field fields "minimum").present?
          (Document.field fields "maximum").present?
      | .boolean => return .boolean about
      | .null => return .null about
      | .object =>
        let required ← match Fields.get? fields "required" with
          | none => pure []
          | some d => d.parts
        let additional := match Document.field fields "additionalProperties" with
          | .bool false => false
          | _ => true
        return .object about required (← propertiesIn fields) additional
      | .array => return .array about (← itemsIn fields)
  | _ => .error .noParts

def alternativesIn : List (String × Document) → Except Fault (List Schema)
  | [] => .error .wrongKind
  | (name, d) :: rest =>
    if name = "oneOf" then
      match d with
      | .array items => ofItems items
      | .string s => if s = "" then .ok [] else .error .noParts
      | .object fields => if fields.isEmpty then .ok [] else .error .noParts
      | _ => .error .wrongKind
    else alternativesIn rest

def ofItems : List Document → Except Fault (List Schema)
  | [] => .ok []
  | d :: rest => do return (← ofDocument d) :: (← ofItems rest)

def propertiesIn : List (String × Document) → Except Fault (List (String × Schema))
  | [] => .ok []
  | (name, d) :: rest =>
    if name = "properties" then
      match d with
      | .object fields => ofFields fields
      | _ => .error .noParts
    else propertiesIn rest

def ofFields : List (String × Document) → Except Fault (List (String × Schema))
  | [] => .ok []
  | (name, d) :: rest => do return (name, ← ofDocument d) :: (← ofFields rest)

def itemsIn : List (String × Document) → Except Fault (Option Schema)
  | [] => .ok none
  | (name, d) :: rest =>
    if name = "items" then
      match d with
      | .null => .ok none
      | d => some <$> ofDocument d
    else itemsIn rest

end

def optionalField (name : String) : Option Document → Fields
  | none => []
  | some d => [(name, d)]

/-- A field for a document that is there and says something. -/
def spokenField (name : String) : Option Document → Fields
  | none => []
  | some d => if d.truthy then [(name, d)] else []

/-- The fields that every written schema starts with. -/
def commonFields (about : About) (kind : Option Kind) : Fields :=
  spokenField "title" about.title ++ spokenField "description" about.description ++
    optionalField "type" (kind.map fun k => .string k.word)

def limitFields (l : TextLimits) : Fields :=
  optionalField "enum" (l.enum.map .array) ++ optionalField "minLength" l.minLength ++
    optionalField "maxLength" l.maxLength ++ optionalField "pattern" l.pattern

mutual

def toDocument : Schema → Document
  | .string a l => .object (commonFields a (some .string) ++ limitFields l)
  | .number a lo hi =>
    .object (commonFields a (some .number) ++ optionalField "minimum" lo ++ optionalField "maximum" hi)
  | .boolean a => .object (commonFields a (some .boolean))
  | .null a => .object (commonFields a (some .null))
  | .object a required properties additional =>
    .object (commonFields a (some .object) ++
      (if required.isEmpty then [] else [("required", .array required)]) ++
      (if properties.isEmpty then [] else [("properties", .object (toFields properties))]) ++
      (if additional then [] else [("additionalProperties", .bool false)]))
  | .array a none => .object (commonFields a (some .array))
  | .array a (some s) => .object (commonFields a (some .array) ++ [("items", s.toDocument)])
  | .oneOf a alternatives uri =>
    .object (spokenField "$schema" uri ++ commonFields a none ++
      [("oneOf", .array (toItems alternatives))])

/-- Schemas as a list of documents. -/
def toItems : List Schema → List Document
  | [] => []
  | s :: rest => s.toDocument :: toItems rest

/-- Properties as fields. -/
def toFields : List (String × Schema) → List (String × Document)
  | [] => []
  | (name, s) :: rest => (name, s.toDocument) :: toFields rest

end

/-- Whether a document has the marks of a written schema. -/
def looksWritten : Document → Bool
  | .object fields =>
    match Document.field fields "type" with
    | .string _ => true
    | _ => ["oneOf", "anyOf", "allOf"].any (Fields.has fields)
  | _ => false

end Schema

end ReviewDiagnostics
