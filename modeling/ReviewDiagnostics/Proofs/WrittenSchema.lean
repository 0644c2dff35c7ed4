import ReviewDiagnostics.Proofs.Origins
import ReviewDiagnostics.Proofs.Reading
import ReviewDiagnostics.Schema.Written

/-!
# Written schemas are read back

A schema is read back from what is written for it, without the titles, descriptions and addresses that say
nothing: these are not written.  So a schema whose labels are all texts that are not empty is read back as it
is; and what is written for any schema that could be read is read as a schema for which the same is written.
-/

namespace ReviewDiagnostics

/-- A label is left out, or it is a text that is not empty. -/
def IsLabel (label : Option Document) : Prop :=
  ∀ d, label = some d → ∃ s, d = .string s ∧ s ≠ ""

/-- The title and the description of a schema are labels. -/
def About.Labelled (a : About) : Prop := IsLabel a.title ∧ IsLabel a.description

/-- A limit is left out, or it is there; null stands for a limit that is left out, and is none. -/
def IsLimit (limit : Option Document) : Prop := limit ≠ some .null

/-- The labels that are written: those that say something. -/
def About.written (a : About) : About :=
  ⟨a.title.filter Document.truthy, a.description.filter Document.truthy⟩

/-- What is read of the limits of a schema. -/
def TextLimits.written (l : TextLimits) : TextLimits :=
  ⟨l.minLength.bind Document.present?, l.maxLength.bind Document.present?, l.pattern.bind Document.present?,
    l.enum⟩

namespace Schema

/-- The title and the description of a schema are labels, and so is the address of a choice. -/
def Labelled : Schema → Prop
  | .oneOf a _ uri => a.Labelled ∧ IsLabel uri
  | s => s.about.Labelled

/-- No limit of a schema is null. -/
def Limited : Schema → Prop
  | .string _ l => IsLimit l.minLength ∧ IsLimit l.maxLength ∧ IsLimit l.pattern
  | .number _ minimum maximum => IsLimit minimum ∧ IsLimit maximum
  | _ => True

mutual

/-- A schema without labels that say nothing, and with limits that are null left out. -/
def written : Schema → Schema
  | .string a l => .string a.written l.written
  | .number a lo hi => .number a.written (lo.bind Document.present?) (hi.bind Document.present?)
  | .boolean a => .boolean a.written
  | .null a => .null a.written
  | .object a required properties additional => .object a.written required (writtenFields properties) additional
  | .array a none => .array a.written none
  | .array a (some s) => .array a.written (some s.written)
  | .oneOf a alternatives uri => .oneOf a.written (writtenItems alternatives) (uri.filter Document.truthy)

def writtenItems : List Schema → List Schema
  | [] => []
  | s :: rest => s.written :: writtenItems rest

def writtenFields : List (String × Schema) → List (String × Schema)
  | [] => []
  | (name, s) :: rest => (name, s.written) :: writtenFields rest

end

/-- The names of the fields that have to be there, as they are read. -/
def requiredOf (fields : Fields) : Except Fault (List Document) :=
  match fields.get? "required" with
  | none => .ok []
  | some d => d.parts

/-- What is read of a schema of a kind, once its labels are. -/
def ofKind (a : About) (fields : Fields) : Kind → Except Fault Schema
  | .string => do return .string a (← limitsOf fields)
  | .number =>
    .ok (.number a (Document.field fields "minimum").present? (Document.field fields "maximum").present?)
  | .boolean => .ok (.boolean a)
  | .null => .ok (.null a)
  | .object => do
    let required ← requiredOf fields
    let additional := match Document.field fields "additionalProperties" with
      | .bool false => false
      | _ => true
    return .object a required (← propertiesIn fields) additional
  | .array => do return .array a (← itemsIn fields)

/-- What is written of an object behind its labels. -/
def memberFields (required : List Document) (properties : List (String × Schema)) (additional : Bool) : Fields :=
  optionalField "required" (if required.isEmpty then none else some (.array required)) ++
    optionalField "properties" (if properties.isEmpty then none else some (.object (toFields properties))) ++
    optionalField "additionalProperties" (if additional then none else some (.bool false))

end Schema

namespace Proofs.WrittenSchema

open Origins Reading Schema

variable {fields rest : Fields} {name : String} {a : About} {k : Kind} {l : TextLimits} {s : Schema}
  {x : Option Document} {d : Document}

/-! ## Fields of written schemas -/

theorem get?_append (fields rest : Fields) (name : String) :
    Fields.get? (fields ++ rest) name = (Fields.get? fields name).or (Fields.get? rest name) := by
  induction fields with
  | nil => rfl
  | cons p fields ih =>
      obtain ⟨k, v⟩ := p
      by_cases h : k = name
      · simp [Fields.get?, h]
      · simpa [Fields.get?, h] using ih

theorem get?_optionalField (k : String) (x : Option Document) (name : String) :
    Fields.get? (optionalField k x) name = if k = name then x else none := by
  cases x with
  | none => simp [optionalField, Fields.get?]
  | some d => rfl

theorem get?_spokenField (k : String) (x : Option Document) (name : String) :
    Fields.get? (spokenField k x) name = if k = name then x.filter Document.truthy else none := by
  cases x with
  | none => simp [spokenField, Fields.get?]
  | some d =>
      rw [spokenField, Option.filter_some]
      by_cases hd : d.truthy = true <;> simp [hd, Fields.get?]

theorem present?_field (fields : Fields) (name : String) :
    (Document.field fields name).present? = (fields.get? name).bind Document.present? := by
  rw [Document.field]
  cases fields.get? name <;> rfl

private theorem present?_of_truthy (h : d.truthy = true) : d.present? = some d := by
  cases d with
  | null => cases h
  | _ => rfl

theorem bind_filter_truthy (x : Option Document) :
    (x.filter Document.truthy).bind Document.present? = x.filter Document.truthy := by
  cases x with
  | none => rfl
  | some d =>
      rw [Option.filter_some]
      by_cases hd : d.truthy = true
      · rw [if_pos hd]
        exact present?_of_truthy hd
      · rw [if_neg hd]
        rfl

theorem ofWord?_word (k : Kind) : Kind.ofWord? k.word = some k := by
  cases k <;> rfl

theorem search_eq {α : Type} {f : Fields → α}
    (hother : ∀ k v (rest : Fields), k ≠ name → f ((k, v) :: rest) = f rest)
    (hfound : ∀ v (rest : Fields), f ((name, v) :: rest) = f [(name, v)]) (fields : Fields) :
    f fields = match fields.get? name with
      | none => f []
      | some v => f [(name, v)] := by
  induction fields with
  | nil => rfl
  | cons p fields ih =>
      obtain ⟨k, v⟩ := p
      by_cases hk : k = name
      · subst hk
        rw [hfound, Fields.get?, if_pos rfl]
      · rw [hother k v fields hk, ih, Fields.get?, if_neg hk]

theorem alternativesIn_other {k : String} (hk : k ≠ "oneOf") (v : Document) (rest : Fields) :
    alternativesIn ((k, v) :: rest) = alternativesIn rest := by
  cases v <;> exact if_neg hk

theorem alternativesIn_eq (fields : Fields) :
    alternativesIn fields = match fields.get? "oneOf" with
      | none => alternativesIn []
      | some v => alternativesIn [("oneOf", v)] :=
  search_eq (fun _ v rest hk => alternativesIn_other hk v rest) (fun v rest => by cases v <;> rfl) fields

theorem propertiesIn_other {k : String} (hk : k ≠ "properties") (v : Document) (rest : Fields) :
    propertiesIn ((k, v) :: rest) = propertiesIn rest := by
  cases v <;> exact if_neg hk

theorem propertiesIn_eq (fields : Fields) :
    propertiesIn fields = match fields.get? "properties" with
      | none => propertiesIn []
      | some v => propertiesIn [("properties", v)] :=
  search_eq (fun _ v rest hk => propertiesIn_other hk v rest) (fun v rest => by cases v <;> rfl) fields

theorem itemsIn_other {k : String} (hk : k ≠ "items") (v : Document) (rest : Fields) :
    itemsIn ((k, v) :: rest) = itemsIn rest := by
  cases v <;> exact if_neg hk

theorem itemsIn_eq (fields : Fields) :
    itemsIn fields = match fields.get? "items" with
      | none => itemsIn []
      | some v => itemsIn [("items", v)] :=
  search_eq (fun _ v rest hk => itemsIn_other hk v rest) (fun v rest => by cases v <;> rfl) fields

theorem get?_commonFields (a : About) (kind : Option Kind) (name : String) :
    Fields.get? (commonFields a kind) name =
      ((if "title" = name then a.title.filter Document.truthy else none).or
        (if "description" = name then a.description.filter Document.truthy else none)).or
          (if "type" = name then kind.map fun k => .string k.word else none) := by
  rw [commonFields, get?_append, get?_append, get?_spokenField, get?_spokenField, get?_optionalField]

theorem aboutOf_append (a : About) (kind : Option Kind) (htitle : rest.get? "title" = none)
    (hdescription : rest.get? "description" = none) : aboutOf (commonFields a kind ++ rest) = a.written := by
  simp [aboutOf, About.written, present?_field, get?_append, get?_commonFields, htitle, hdescription,
    bind_filter_truthy]

theorem kindOf_append (a : About) (k : Kind) (rest : Fields) :
    kindOf (commonFields a (some k) ++ rest) = .ok k := by
  simp [kindOf, Document.field, get?_append, get?_commonFields, ofWord?_word]

theorem ofDocument_object (fields : Fields) :
    ofDocument (.object fields) =
      if fields.has "oneOf" then do
        return .oneOf (aboutOf fields) (← alternativesIn fields) (Document.field fields "$schema").present?
      else kindOf fields >>= ofKind (aboutOf fields) fields := by
  rw [ofDocument]
  split
  · rfl
  · cases kindOf fields with
    | error fault => rfl
    | ok k =>
        cases k with
        | object =>
            simp only [ofKind, requiredOf, bind, Except.bind]
            cases fields.get? "required" <;> rfl
        | _ => rfl

theorem ofDocument_append (a : About) (k : Kind)
    (hrest : ∀ name ∈ ["title", "description", "oneOf"], rest.get? name = none) :
    ofDocument (.object (commonFields a (some k) ++ rest)) =
      ofKind a.written (commonFields a (some k) ++ rest) k := by
  have hnone : Fields.has (commonFields a (some k) ++ rest) "oneOf" = false := by
    simp [Fields.has_eq_isSome_get?, get?_append, get?_commonFields, hrest]
  rw [ofDocument_object, hnone, kindOf_append, aboutOf_append a _ (hrest _ (by simp)) (hrest _ (by simp))]
  rfl

theorem get?_limitFields (l : TextLimits) (name : String) :
    Fields.get? (limitFields l) name =
      (((if "enum" = name then l.enum.map .array else none).or
        (if "minLength" = name then l.minLength else none)).or
          (if "maxLength" = name then l.maxLength else none)).or
            (if "pattern" = name then l.pattern else none) := by
  rw [limitFields, get?_append, get?_append, get?_append, get?_optionalField, get?_optionalField,
    get?_optionalField, get?_optionalField]

theorem limitsOf_append (a : About) (l : TextLimits) :
    limitsOf (commonFields a (some .string) ++ limitFields l) = .ok l.written := by
  obtain ⟨low, high, pattern, enum⟩ := l
  cases enum <;> simp [limitsOf, present?_field, get?_append, get?_commonFields, get?_limitFields] <;> rfl

theorem ofItems_toItems {ss : List Schema} (h : ∀ s ∈ ss, ofDocument s.toDocument = .ok s.written) :
    ofItems (toItems ss) = .ok (writtenItems ss) := by
  induction ss with
  | nil => rfl
  | cons s ss ih =>
      obtain ⟨hs, hss⟩ := List.forall_mem_cons.mp h
      rw [toItems, ofItems, hs, ih hss]
      rfl

theorem ofFields_toFields {ps : List (String × Schema)}
    (h : ∀ p ∈ ps, ofDocument p.2.toDocument = .ok p.2.written) :
    ofFields (toFields ps) = .ok (writtenFields ps) := by
  induction ps with
  | nil => rfl
  | cons p ps ih =>
      obtain ⟨name, s⟩ := p
      obtain ⟨hs, hps⟩ := List.forall_mem_cons.mp h
      rw [toFields, ofFields, hs, ih hps]
      rfl

theorem toDocument_object (a : About) (required : List Document) (properties : List (String × Schema))
    (additional : Bool) :
    (Schema.object a required properties additional).toDocument =
      .object (commonFields a (some .object) ++ memberFields required properties additional) := by
  simp only [toDocument, memberFields, List.append_assoc]
  cases required <;> cases properties <;> cases additional <;> rfl

theorem get?_memberFields (required : List Document) (properties : List (String × Schema)) (additional : Bool)
    (name : String) :
    Fields.get? (memberFields required properties additional) name =
      ((if "required" = name then (if required.isEmpty then none else some (.array required)) else none).or
        (if "properties" = name then
          (if properties.isEmpty then none else some (.object (toFields properties))) else none)).or
          (if "additionalProperties" = name then (if additional then none else some (.bool false)) else none) := by
  rw [memberFields, get?_append, get?_append, get?_optionalField, get?_optionalField, get?_optionalField]

theorem ofKind_object (a : About) (required : List Document) {properties : List (String × Schema)}
    (additional : Bool) (h : ofFields (toFields properties) = .ok (writtenFields properties)) :
    ofKind a.written (commonFields a (some .object) ++ memberFields required properties additional) .object =
      .ok (.object a.written required (writtenFields properties) additional) := by
  have hget : ∀ name ∈ ["required", "properties", "additionalProperties"],
      Fields.get? (commonFields a (some .object) ++ memberFields required properties additional) name =
        Fields.get? (memberFields required properties additional) name := by
    simp [get?_append, get?_commonFields]
  have hrequired : Fields.get? (memberFields required properties additional) "required" =
      if required.isEmpty then none else some (.array required) := by
    simp [get?_memberFields]
  have hproperties : Fields.get? (memberFields required properties additional) "properties" =
      if properties.isEmpty then none else some (.object (toFields properties)) := by
    simp [get?_memberFields]
  have hadditional : Fields.get? (memberFields required properties additional) "additionalProperties" =
      if additional then none else some (.bool false) := by
    simp [get?_memberFields]
  -- An empty list of properties is not written, and none is read where it is missing.
  have hinside : (match if properties.isEmpty then none else some (.object (toFields properties)) with
      | none => propertiesIn []
      | some v => propertiesIn [("properties", v)]) = .ok (writtenFields properties) := by
    cases properties with
    | nil => rfl
    | cons => exact h
  rw [ofKind, requiredOf, propertiesIn_eq, Document.field, hget _ (by simp), hget _ (by simp), hget _ (by simp),
    hrequired, hproperties, hadditional, hinside]
  cases required <;> cases additional <;> rfl

private theorem get?_choiceFields (a : About) (alternatives : List Schema)
    (uri : Option Document) (name : String) :
    Fields.get? (spokenField "$schema" uri ++ commonFields a none ++ [("oneOf", .array (toItems alternatives))])
        name =
      ((if "$schema" = name then uri.filter Document.truthy else none).or
        (Fields.get? (commonFields a none) name)).or
          (if "oneOf" = name then some (.array (toItems alternatives)) else none) := by
  rw [get?_append, get?_append, get?_spokenField]
  rfl

theorem ofDocument_oneOf (a : About) {alternatives : List Schema} (uri : Option Document)
    (h : ofItems (toItems alternatives) = .ok (writtenItems alternatives)) :
    ofDocument (Schema.oneOf a alternatives uri).toDocument =
      .ok (.oneOf a.written (writtenItems alternatives) (uri.filter Document.truthy)) := by
  rw [toDocument]
  generalize hfields : spokenField "$schema" uri ++ commonFields a none ++
    [("oneOf", .array (toItems alternatives))] = fields
  have hget := get?_choiceFields a alternatives uri
  rw [hfields] at hget
  have hchoice : fields.get? "oneOf" = some (.array (toItems alternatives)) := by
    simp [hget, get?_commonFields]
  have habout : aboutOf fields = a.written := by
    simp [aboutOf, present?_field, hget, get?_commonFields, bind_filter_truthy, About.written]
  have huri : (Document.field fields "$schema").present? = uri.filter Document.truthy := by
    simp [present?_field, hget, get?_commonFields, bind_filter_truthy]
  have halternatives : alternativesIn [("oneOf", .array (toItems alternatives))] =
      .ok (writtenItems alternatives) := h
  rw [ofDocument_object, Fields.has_eq_isSome_get?, alternativesIn_eq, hchoice, habout, huri]
  simp only [halternatives]
  rfl

private theorem exists_fields (s : Schema) : ∃ fields, s.toDocument = .object fields := by
  cases s with
  | array a item => cases item <;> exact ⟨_, rfl⟩
  | _ => exact ⟨_, rfl⟩

/-- What is written for a schema is read as that schema, but for what is not written. -/
theorem ofDocument_toDocument (s : Schema) : ofDocument s.toDocument = .ok s.written := by
  induction s using Schema.induction with
  | string a l =>
      rw [toDocument, ofDocument_append a _ (by simp [get?_limitFields]), ofKind, limitsOf_append]
      rfl
  | number a low high =>
      have hrest : ∀ name ∈ ["title", "description", "oneOf"],
          Fields.get? (optionalField "minimum" low ++ optionalField "maximum" high) name = none := by
        simp [get?_append, get?_optionalField]
      rw [toDocument, List.append_assoc, ofDocument_append a _ hrest, ofKind]
      simp [present?_field, get?_append, get?_commonFields, get?_optionalField, written]
  | boolean a | null a =>
      rw [toDocument, ← List.append_nil (commonFields a _), ofDocument_append a _ (by simp [Fields.get?]),
        ofKind, written]
  | object a required properties additional ih =>
      rw [toDocument_object, ofDocument_append a _ (by simp [get?_memberFields]), written]
      exact ofKind_object a required additional (ofFields_toFields ih)
  | anyArray a =>
      have hget : Fields.get? (commonFields a (some .array) ++ []) "items" = none := by
        simp [get?_commonFields]
      rw [toDocument, ← List.append_nil (commonFields a _), ofDocument_append a _ (by simp [Fields.get?]),
        ofKind, written, itemsIn_eq, hget]
      rfl
  | array a item ih =>
      have hget : Fields.get? (commonFields a (some .array) ++ [("items", item.toDocument)]) "items" =
          some item.toDocument := by
        simp [get?_append, get?_commonFields, Fields.get?]
      have hitem : itemsIn [("items", item.toDocument)] = some <$> ofDocument item.toDocument := by
        obtain ⟨fields, hfields⟩ := exists_fields item
        rw [hfields]
        rfl
      rw [toDocument, ofDocument_append a _ (by simp [Fields.get?]), ofKind, written, itemsIn_eq, hget]
      simp only [hitem, ih]
      rfl
  | oneOf a alternatives uri ih => exact ofDocument_oneOf a uri (ofItems_toItems ih)

/-! ## Schemas that are written as they are -/

theorem filter_truthy_of_isLabel (h : IsLabel x) : x.filter Document.truthy = x := by
  cases x with
  | none => rfl
  | some d =>
      obtain ⟨s, rfl, hs⟩ := h d rfl
      exact Option.filter_some_pos (by simpa [Document.truthy] using hs)

theorem bind_present?_of_isLimit (h : IsLimit x) : x.bind Document.present? = x := by
  cases x with
  | none => rfl
  | some d =>
      cases d with
      | null => exact absurd rfl h
      | _ => rfl

theorem written_about (h : a.Labelled) : a.written = a := by
  rw [About.written, filter_truthy_of_isLabel h.1, filter_truthy_of_isLabel h.2]

theorem writtenItems_eq {ss : List Schema} (h : ∀ s ∈ ss, s.written = s) : writtenItems ss = ss := by
  induction ss with
  | nil => rfl
  | cons s ss ih =>
      obtain ⟨hs, hss⟩ := List.forall_mem_cons.mp h
      rw [writtenItems, hs, ih hss]

theorem writtenFields_eq {ps : List (String × Schema)} (h : ∀ p ∈ ps, p.2.written = p.2) :
    writtenFields ps = ps := by
  induction ps with
  | nil => rfl
  | cons p ps ih =>
      obtain ⟨name, s⟩ := p
      obtain ⟨hs, hps⟩ := List.forall_mem_cons.mp h
      rw [writtenFields, hs, ih hps]

theorem written_eq_self (hlabels : s.Throughout Labelled) (hlimits : s.Throughout Limited) : s.written = s := by
  induction s using Schema.induction with
  | string a l =>
      have habout : a.written = a := written_about (of_throughout hlabels)
      obtain ⟨hlow, hhigh, hpattern⟩ := of_throughout hlimits
      rw [written, habout, TextLimits.written, bind_present?_of_isLimit hlow,
        bind_present?_of_isLimit hhigh, bind_present?_of_isLimit hpattern]
  | number a low high =>
      have habout : a.written = a := written_about (of_throughout hlabels)
      obtain ⟨hlow, hhigh⟩ := of_throughout hlimits
      rw [written, habout, bind_present?_of_isLimit hlow, bind_present?_of_isLimit hhigh]
  | boolean a | null a | anyArray a =>
      have habout : a.written = a := written_about (of_throughout hlabels)
      rw [written, habout]
  | object a required properties additional ih =>
      have habout : a.written = a := written_about (of_throughout hlabels)
      have hproperties : writtenFields properties = properties := writtenFields_eq fun p hp =>
        ih p hp (throughout_property hlabels hp) (throughout_property hlimits hp)
      rw [written, habout, hproperties]
  | array a item ih =>
      have habout : a.written = a := written_about (of_throughout hlabels)
      rw [written, habout, ih (throughout_item hlabels) (throughout_item hlimits)]
  | oneOf a alternatives uri ih =>
      obtain ⟨habout, huri⟩ := of_throughout hlabels
      have halternatives : writtenItems alternatives = alternatives := writtenItems_eq fun s hs =>
        ih s hs (throughout_alternative hlabels hs) (throughout_alternative hlimits hs)
      rw [written, written_about habout, halternatives, filter_truthy_of_isLabel huri]

theorem spokenField_filter (name : String) (x : Option Document) :
    spokenField name (x.filter Document.truthy) = spokenField name x := by
  cases x with
  | none => rfl
  | some d =>
      rw [Option.filter_some]
      by_cases hd : d.truthy = true <;> simp [hd, spokenField]

theorem commonFields_written (a : About) (kind : Option Kind) :
    commonFields a.written kind = commonFields a kind := by
  rw [commonFields, About.written, spokenField_filter, spokenField_filter, commonFields]

theorem toItems_written {ss : List Schema} (h : ∀ s ∈ ss, s.written.toDocument = s.toDocument) :
    toItems (writtenItems ss) = toItems ss := by
  induction ss with
  | nil => rfl
  | cons s ss ih =>
      obtain ⟨hs, hss⟩ := List.forall_mem_cons.mp h
      rw [writtenItems, toItems, toItems, hs, ih hss]

theorem toFields_written {ps : List (String × Schema)}
    (h : ∀ p ∈ ps, p.2.written.toDocument = p.2.toDocument) :
    toFields (writtenFields ps) = toFields ps := by
  induction ps with
  | nil => rfl
  | cons p ps ih =>
      obtain ⟨name, s⟩ := p
      obtain ⟨hs, hps⟩ := List.forall_mem_cons.mp h
      rw [writtenFields, toFields, toFields, hs, ih hps]

private theorem isEmpty_writtenFields (ps : List (String × Schema)) :
    (writtenFields ps).isEmpty = ps.isEmpty := by
  cases ps <;> rfl

theorem toDocument_written (hlimits : s.Throughout Limited) : s.written.toDocument = s.toDocument := by
  induction s using Schema.induction with
  | string a l =>
      obtain ⟨hlow, hhigh, hpattern⟩ := of_throughout hlimits
      rw [written, TextLimits.written, bind_present?_of_isLimit hlow, bind_present?_of_isLimit hhigh,
        bind_present?_of_isLimit hpattern, toDocument, commonFields_written, toDocument]
  | number a low high =>
      obtain ⟨hlow, hhigh⟩ := of_throughout hlimits
      rw [written, bind_present?_of_isLimit hlow, bind_present?_of_isLimit hhigh, toDocument, commonFields_written,
        toDocument]
  | boolean | null | anyArray => rw [written, toDocument, commonFields_written, toDocument]
  | object a required properties additional ih =>
      have hproperties : toFields (writtenFields properties) = toFields properties :=
        toFields_written fun p hp => ih p hp (throughout_property hlimits hp)
      rw [written, toDocument, commonFields_written, isEmpty_writtenFields, hproperties, toDocument]
  | array a item ih =>
      rw [written, toDocument, commonFields_written, ih (throughout_item hlimits), toDocument]
  | oneOf a alternatives uri ih =>
      have halternatives : toItems (writtenItems alternatives) = toItems alternatives :=
        toItems_written fun s hs => ih s hs (throughout_alternative hlimits hs)
      rw [written, toDocument, commonFields_written, spokenField_filter, halternatives, toDocument]

/-! ## Schemas that are read -/

theorem isLimit_bind (x : Option Document) : IsLimit (x.bind Document.present?) := by
  cases x with
  | none => exact fun h => nomatch h
  | some d => cases d <;> exact fun h => nomatch h

theorem limited_of_limitsOf (h : limitsOf fields = .ok l) :
    IsLimit l.minLength ∧ IsLimit l.maxLength ∧ IsLimit l.pattern := by
  unfold limitsOf at h
  simp only [present?_field] at h
  split at h
  · cases h
    exact ⟨isLimit_bind _, isLimit_bind _, isLimit_bind _⟩
  · obtain ⟨enum, -, hl⟩ := bind_eq_ok.mp h
    cases hl
    exact ⟨isLimit_bind _, isLimit_bind _, isLimit_bind _⟩

theorem limited_of_ofKind (h : ofKind a fields k = .ok s)
    (hproperties : ∀ ps, propertiesIn fields = .ok ps → ∀ p ∈ ps, p.2.Throughout Limited)
    (hitems : ∀ t, itemsIn fields = .ok (some t) → t.Throughout Limited) : s.Throughout Limited := by
  cases k with
  | string =>
      obtain ⟨l, hl, hs⟩ := bind_eq_ok.mp h
      cases hs
      exact .string (limited_of_limitsOf hl)
  | number =>
      cases h
      rw [present?_field, present?_field]
      exact .number ⟨isLimit_bind _, isLimit_bind _⟩
  | boolean =>
      cases h
      exact .boolean trivial
  | null =>
      cases h
      exact .null trivial
  | object =>
      rw [ofKind] at h
      obtain ⟨required, -, h⟩ := bind_eq_ok.mp h
      obtain ⟨ps, hps, hs⟩ := bind_eq_ok.mp h
      cases hs
      exact .object trivial (hproperties ps hps)
  | array =>
      obtain ⟨item, hitem, hs⟩ := bind_eq_ok.mp h
      cases hs
      cases item with
      | none => exact .anyArray trivial
      | some t => exact .array trivial (hitems t hitem)

-- By induction on the document, with one statement for each of the functions that take it apart: schemas lie
-- two levels below the object they are read from, in the value of one of its fields.
mutual

/-- No limit of a schema that was read is null. -/
theorem limited_of_ofDocument : (d : Document) → ∀ {s : Schema}, ofDocument d = .ok s → s.Throughout Limited
  | .object fields, s, h => by
      rw [ofDocument_object] at h
      split at h
      · obtain ⟨ss, hss, hs⟩ := bind_eq_ok.mp h
        cases hs
        exact .oneOf trivial (limited_of_alternativesIn fields hss)
      · obtain ⟨k, -, hs⟩ := bind_eq_ok.mp h
        exact limited_of_ofKind hs (fun ps hps => limited_of_propertiesIn fields hps)
          fun t ht => limited_of_itemsIn fields ht
  | .null, _, h | .bool _, _, h | .int _, _, h | .float _, _, h | .string _, _, h | .array _, _, h => nomatch h

theorem limited_of_alternativesIn : (fields : List (String × Document)) → ∀ {ss : List Schema},
    alternativesIn fields = .ok ss → ∀ s ∈ ss, s.Throughout Limited
  | [], _, h => nomatch h
  | (name, d) :: rest, ss, h => by
      by_cases hname : name = "oneOf"
      · subst hname
        match d, h with
        | .array items, h => exact limited_of_ofItems items h
        | .string s, h =>
            by_cases hs : s = ""
            · subst hs
              cases h
              simp
            · rw [alternativesIn, if_pos rfl, if_neg hs] at h
              cases h
        | .object [], h =>
            cases h
            simp
        | .object (_ :: _), h | .null, h | .bool _, h | .int _, h | .float _, h => nomatch h
      · rw [alternativesIn_other hname] at h
        exact limited_of_alternativesIn rest h

theorem limited_of_propertiesIn : (fields : List (String × Document)) → ∀ {ps : List (String × Schema)},
    propertiesIn fields = .ok ps → ∀ p ∈ ps, p.2.Throughout Limited
  | [], ps, h => by
      cases h
      simp
  | (name, d) :: rest, ps, h => by
      by_cases hname : name = "properties"
      · subst hname
        match d, h with
        | .object fields, h => exact limited_of_ofFields fields h
      · rw [propertiesIn_other hname] at h
        exact limited_of_propertiesIn rest h

theorem limited_of_itemsIn : (fields : List (String × Document)) → ∀ {s : Schema},
    itemsIn fields = .ok (some s) → s.Throughout Limited
  | [], _, h => nomatch h
  | (name, d) :: rest, s, h => by
      by_cases hname : name = "items"
      · subst hname
        match d, h with
        | .object fields, h =>
            change some <$> ofDocument (.object fields) = _ at h
            cases ht : ofDocument (.object fields) with
            | error fault =>
                rw [ht] at h
                cases h
            | ok t =>
                rw [ht] at h
                cases h
                exact limited_of_ofDocument (.object fields) ht
        | .null, h | .bool _, h | .int _, h | .float _, h | .string _, h | .array _, h => nomatch h
      · rw [itemsIn_other hname] at h
        exact limited_of_itemsIn rest h

theorem limited_of_ofItems : (items : List Document) → ∀ {ss : List Schema}, ofItems items = .ok ss →
    ∀ s ∈ ss, s.Throughout Limited
  | [], ss, h => by
      cases h
      simp
  | d :: rest, ss, h => by
      rw [ofItems] at h
      obtain ⟨s, hs, h⟩ := bind_eq_ok.mp h
      obtain ⟨ss, hss, h⟩ := bind_eq_ok.mp h
      cases h
      exact List.forall_mem_cons.mpr ⟨limited_of_ofDocument d hs, limited_of_ofItems rest hss⟩

theorem limited_of_ofFields : (fields : List (String × Document)) → ∀ {ps : List (String × Schema)},
    ofFields fields = .ok ps → ∀ p ∈ ps, p.2.Throughout Limited
  | [], ps, h => by
      cases h
      simp
  | (name, d) :: rest, ps, h => by
      rw [ofFields] at h
      obtain ⟨s, hs, h⟩ := bind_eq_ok.mp h
      obtain ⟨ps, hps, h⟩ := bind_eq_ok.mp h
      cases h
      exact List.forall_mem_cons.mpr ⟨limited_of_ofDocument d hs, limited_of_ofFields rest hps⟩

end

/-- **Written schemas are read back.**  A schema whose labels are texts that are not empty, here and in all
schemas inside, is read back from what is written for it as the same schema.  What is written for a schema
that was read from any document, whatever its labels are, is read, and the same is written for what is read. -/
theorem written_schema_is_read_back :
    (∀ s : Schema, s.Throughout Labelled → s.Throughout Limited → ofDocument s.toDocument = .ok s) ∧
      ∀ (d : Document) (s : Schema), ofDocument d = .ok s →
        ∃ s', ofDocument s.toDocument = .ok s' ∧ s'.toDocument = s.toDocument := by
  refine ⟨fun s hlabels hlimits => ?_, fun d s h => ?_⟩
  · rw [ofDocument_toDocument, written_eq_self hlabels hlimits]
  · exact ⟨s.written, ofDocument_toDocument s, toDocument_written (limited_of_ofDocument d h)⟩

/-- A choice between an object and a list with limits of every kind, and a schema with a title that says
nothing and a description that is no text. -/
theorem written_choice_is_read_back :
    let text := Schema.string .nothing ⟨some (.int 0), none, some (.string "^a"), some []⟩
    let member := Schema.object ⟨none, some (.string "d")⟩ [.string "a"] [("a", text)] false
    let list := Schema.array .nothing (some (.number .nothing none (some (.float .nan))))
    let choice := Schema.oneOf ⟨some (.string "t"), none⟩ [member, list] (some (.string "u"))
    let spoken := Document.object [("title", .int 0), ("description", .array [.null]), ("type", .string "null")]
    ofDocument choice.toDocument = .ok choice ∧
      ofDocument spoken = .ok (.null ⟨some (.int 0), some (.array [.null])⟩) ∧
      ∃ s', ofDocument (Schema.null ⟨some (.int 0), some (.array [.null])⟩).toDocument = .ok s' ∧
        s'.toDocument = (Schema.null ⟨some (.int 0), some (.array [.null])⟩).toDocument := by
  intro text member list choice spoken
  have hnone : IsLabel none := by
    rintro _ ⟨⟩
  have hsome : ∀ {s : String}, s ≠ "" → IsLabel (some (.string s)) := by
    rintro s hs _ ⟨⟩
    exact ⟨s, rfl, hs⟩
  have hlabels : choice.Throughout Labelled := by
    refine .oneOf ⟨⟨hsome (by decide), hnone⟩, hsome (by decide)⟩ (List.forall_mem_cons.mpr ⟨?_, ?_⟩)
    · refine .object ⟨hnone, hsome (by decide)⟩ fun p hp => ?_
      rw [List.mem_singleton.mp hp]
      exact .string ⟨hnone, hnone⟩
    · intro s hs
      rw [List.mem_singleton.mp hs]
      exact .array ⟨hnone, hnone⟩ (.number ⟨hnone, hnone⟩)
  have hlimits : choice.Throughout Limited := by
    refine .oneOf trivial (List.forall_mem_cons.mpr ⟨?_, ?_⟩)
    · refine .object trivial fun p hp => ?_
      rw [List.mem_singleton.mp hp]
      exact .string (by simp [Limited, IsLimit])
    · intro s hs
      rw [List.mem_singleton.mp hs]
      exact .array trivial (.number (by simp [Limited, IsLimit]))
  have hspoken : ofDocument spoken = .ok (.null ⟨some (.int 0), some (.array [.null])⟩) := rfl
  exact ⟨written_schema_is_read_back.1 choice hlabels hlimits, hspoken,
    written_schema_is_read_back.2 spoken _ hspoken⟩

end Proofs.WrittenSchema

end ReviewDiagnostics
