import ReviewDiagnostics.Proofs.Forms
import ReviewDiagnostics.Proofs.PathText
import ReviewDiagnostics.Proofs.Places
import ReviewDiagnostics.Proofs.Slots

/-!
# Where findings come from

Whatever is found while a value is checked is found about one of its parts, by the schema that the check
has come to at that part.  A part is found fault with for its own sake, or for a field that it lacks or
should not have.  The second look finds fault with objects only, and only with six things about them.
-/

namespace ReviewDiagnostics

/-- A name that stands apart from its neighbours in the text of a path. -/
def PlainName (s : String) : Prop := (Segment.name s).Plain

instance (s : String) : Decidable (PlainName s) :=
  @instDecidableAnd (s ≠ "") _ inferInstance (List.decidableBAll (fun c => Path.isMark c = false) s.toList)

/-- Something holds of a schema and of all schemas inside. -/
inductive Schema.Throughout (P : Schema → Prop) : Schema → Prop
  | string {about : About} {limits : TextLimits} (h : P (.string about limits)) :
    Throughout P (.string about limits)
  | number {about : About} {minimum maximum : Option Document} (h : P (.number about minimum maximum)) :
    Throughout P (.number about minimum maximum)
  | boolean {about : About} (h : P (.boolean about)) : Throughout P (.boolean about)
  | null {about : About} (h : P (.null about)) : Throughout P (.null about)
  | object {about : About} {required : List Document} {properties : List (String × Schema)}
    {additional : Bool} (h : P (.object about required properties additional))
    (hinside : ∀ p ∈ properties, Throughout P p.2) :
    Throughout P (.object about required properties additional)
  | anyArray {about : About} (h : P (.array about none)) : Throughout P (.array about none)
  | array {about : About} {item : Schema} (h : P (.array about (some item)))
    (hitem : Throughout P item) : Throughout P (.array about (some item))
  | oneOf {about : About} {alternatives : List Schema} {uri : Option Document}
    (h : P (.oneOf about alternatives uri)) (halternatives : ∀ s ∈ alternatives, Throughout P s) :
    Throughout P (.oneOf about alternatives uri)

/-- The schemas that a schema is put together of. -/
def Schema.inner : Schema → List Schema
  | .object _ _ properties _ => properties.map (·.2)
  | .array _ item? => item?.toList
  | .oneOf _ alternatives _ => alternatives
  | _ => []

/-- The required and the declared properties of an object have plain names. -/
def Schema.NamesPlainly : Schema → Prop
  | .object _ required properties _ =>
    (∀ name ∈ required, ∃ s, name = .string s ∧ PlainName s) ∧ ∀ p ∈ properties, PlainName p.1
  | _ => True

/-- A schema whose required and declared properties all have plain names. -/
def Schema.PlainNames (s : Schema) : Prop := s.Throughout Schema.NamesPlainly

/-- Checking a value against a schema comes to checking one of its parts against a schema. -/
inductive LeadsTo : Schema → Document → List Segment → Schema → Document → Prop
  | refl {s : Schema} {d : Document} : LeadsTo s d [] s d
  | property {about : About} {required : List Document} {properties : List (String × Schema)}
    {additional : Bool} {fields : Fields} {p : String × Schema} {c part : Document} {t : Schema}
    {steps : List Segment} (hp : p ∈ properties) (hc : fields.get? p.1 = some c)
    (h : LeadsTo p.2 c steps t part) :
    LeadsTo (.object about required properties additional) (.object fields) (.name p.1 :: steps) t part
  | item {about : About} {item : Schema} {items : List Document} {i : Nat} {c part : Document}
    {t : Schema} {steps : List Segment} (hc : items[i]? = some c) (h : LeadsTo item c steps t part) :
    LeadsTo (.array about (some item)) (.array items) (.index i :: steps) t part
  | alternative {about : About} {alternatives : List Schema} {uri : Option Document} {s t : Schema}
    {d part : Document} {steps : List Segment} (hs : s ∈ alternatives) (h : LeadsTo s d steps t part) :
    LeadsTo (.oneOf about alternatives uri) d steps t part

/-- A finding about a value at a path, by the schema that it is checked against. -/
inductive Reported (t : Schema) (path : String) (c : Document) : Finding → Prop
  | kind {k : Kind} (hkind : t.kind? = some k) (hother : c.kind? ≠ some k) :
    Reported t path c (.expecting path .typeMismatch c k.word)
  | text {about : About} {limits : TextLimits} {s : String} {f : Finding}
    (ht : t = .string about limits) (hc : c = .string s)
    (hf : f ∈ (Conformity.checkText path s limits).errors) : Reported t path c f
  | number {about : About} {minimum maximum : Option Document} {f : Finding}
    (ht : t = .number about minimum maximum) (hc : c.kind? = some .number)
    (hf : f ∈ (Conformity.checkNumber path c minimum maximum).errors) : Reported t path c f
  | missing {about : About} {required : List Document} {properties : List (String × Schema)}
    {additional : Bool} {fields : Fields} {name : String}
    (ht : t = .object about required properties additional) (hc : c = .object fields)
    (hname : .string name ∈ required) (hfield : fields.has name = false) :
    Reported t path c (.expecting (Path.join path (.name name)) .requiredPropertyMissing .null
      (Conformity.missingText (Schema.property? properties name)))
  | unknown {f : Finding} (hf : f.code = .unknownProperty) : Reported t path c f
  | noAlternative {f : Finding} (hpath : f.path = path) (hcode : f.code = .oneofValidationFailed)
    (hvalue : f.value = c) : Reported t path c f

/-- A finding of the second look about an object at a path, by the form that the object is read as. -/
inductive Noted (path : String) (fields : Fields) : Schema → Finding → Prop
  | message (hshaped : Closeness.diagnosticShaped fields = true) (h : fields.has "message" = false) :
    Noted path fields ReviewFormat.diagnostic
      (.expecting (Refinement.inField path "message") .missingDiagnosticMessage .null "string")
  | location (hshaped : Closeness.diagnosticShaped fields = true) (h : fields.get? "location" = none) :
    Noted path fields ReviewFormat.diagnostic
      (.expecting (Refinement.inField path "location") .missingDiagnosticLocation .null "object")
  | start (h : fields.get? "start" = none) :
    Noted path fields ReviewFormat.range (.expecting (Refinement.inField path "start") .invalidRange .null
      "position object with line number")
  | ordinal {name : String} {d : Document} (hname : name = "line" ∨ name = "column")
    (hd : fields.get? name = some d) (hkind : d.kind? = some .number)
    (hless : d.less (.int 1) = true) :
    Noted path fields ReviewFormat.position (.of (Refinement.inField path name) .invalidPosition d
      (.string s!"positive integer (1-based {name} number)") (.int 1))
  | severity {d : Document} (hd : fields.get? "severity" = some d)
    (hother : Refinement.isSeverity d = false) :
    Noted path fields ReviewFormat.diagnostic (.expecting (Refinement.inField path "severity")
      .invalidSeverity d Refinement.severityText)
  | list {d : Document} (hd : fields.get? "diagnostics" = some d)
    (hother : ∀ items, d ≠ .array items) :
    Noted path fields ReviewFormat.diagnostic
      (.expecting (Refinement.inField path "diagnostics") .typeMismatch d "array")

namespace Proofs.Origins

open Conformity Parts PathText Slots

variable {o : Options} {s t : Schema} {d c : Document} {base steps : List Segment} {f : Finding}

/-! ## The check -/

section

variable {P : Schema → Prop}

theorem of_throughout (h : s.Throughout P) : P s := by
  cases h <;> assumption

/-- What a schema hands on to the schemas that it is put together of holds throughout. -/
theorem throughout_of_inner (hinner : ∀ t, P t → ∀ u ∈ t.inner, P u) (hs : P s) : s.Throughout P := by
  induction s using Schema.induction with
  | string => exact .string hs
  | number => exact .number hs
  | boolean => exact .boolean hs
  | null => exact .null hs
  | object _ _ properties _ ih =>
      exact .object hs fun p hp => ih p hp (hinner _ hs p.2 (List.mem_map_of_mem hp))
  | anyArray => exact .anyArray hs
  | array _ item ih => exact .array hs (ih (hinner _ hs item (by simp [Schema.inner])))
  | oneOf _ _ _ ih => exact .oneOf hs fun t ht => ih t ht (hinner _ hs t ht)

theorem throughout_property {about : About} {required : List Document}
    {properties : List (String × Schema)} {additional : Bool} {p : String × Schema}
    (h : (Schema.object about required properties additional).Throughout P) (hp : p ∈ properties) :
    p.2.Throughout P := by
  cases h with
  | object _ hinside => exact hinside p hp

theorem throughout_item {about : About} {item : Schema}
    (h : (Schema.array about (some item)).Throughout P) : item.Throughout P := by
  cases h
  assumption

theorem throughout_alternative {about : About} {alternatives : List Schema} {uri : Option Document}
    (h : (Schema.oneOf about alternatives uri).Throughout P) (hs : s ∈ alternatives) :
    s.Throughout P := by
  cases h with
  | oneOf _ halternatives => exact halternatives s hs

theorem throughout_imp {Q : Schema → Prop} (himp : ∀ t, P t → Q t) (h : s.Throughout P) :
    s.Throughout Q := by
  induction h with
  | string h => exact .string (himp _ h)
  | number h => exact .number (himp _ h)
  | boolean h => exact .boolean (himp _ h)
  | null h => exact .null (himp _ h)
  | object h _ ih => exact .object (himp _ h) ih
  | anyArray h => exact .anyArray (himp _ h)
  | array h _ ih => exact .array (himp _ h) ih
  | oneOf h _ ih => exact .oneOf (himp _ h) ih

theorem throughout_of_leadsTo (hs : s.Throughout P) (h : LeadsTo s d steps t c) : t.Throughout P := by
  induction h with
  | refl => exact hs
  | property hp _ _ ih => exact ih (throughout_property hs hp)
  | item _ _ ih => exact ih (throughout_item hs)
  | alternative hmem _ ih => exact ih (throughout_alternative hs hmem)

end

theorem plain_index (i : Nat) : (Segment.index i).Plain := Int.natCast_nonneg i

theorem plain_of_leadsTo (hs : s.PlainNames) (h : LeadsTo s d steps t c) :
    ∀ step ∈ steps, step.Plain := by
  induction h with
  | refl => simp
  | property hp _ _ ih =>
      exact List.forall_mem_cons.mpr ⟨(of_throughout hs).2 _ hp, ih (throughout_property hs hp)⟩
  | item _ _ ih => exact List.forall_mem_cons.mpr ⟨plain_index _, ih (throughout_item hs)⟩
  | alternative hmem _ ih => exact ih (throughout_alternative hs hmem)

theorem slot?_of_leadsTo (h : LeadsTo s d steps t c) : d.slot? steps = some (some c) := by
  induction h with
  | refl => rfl
  | @property _ _ _ _ fields p c _ _ _ _ hc _ ih =>
      have hchild : (Document.object fields).child? (.name p.1) = some c := hc
      rw [slot?_cons_of_child? hchild, ih]
  | item hc _ ih =>
      refine (slot?_cons_of_child? ?_).trans ih
      rw [Document.child?, if_pos (Int.natCast_nonneg _), Int.toNat_natCast, hc]
  | alternative _ _ ih => exact ih

theorem reported_mismatch {path : String} {k : Kind} (hkind : t.kind? = some k)
    (hother : c.kind? ≠ some k) (hf : f ∈ (mismatch path c k).errors) : Reported t path c f := by
  obtain rfl := List.mem_singleton.mp hf
  exact .kind hkind hother

theorem reported_unknown {path : String} {fields : Fields} {properties : List (String × Schema)}
    {additional : Bool} (hf : f ∈ (checkUnknown path fields properties additional o).errors) :
    Reported t path c f := by
  obtain ⟨p, -, rfl⟩ := eq_of_mem_errors_checkUnknown hf
  exact .unknown rfl

theorem check_of_kind?_ne {path : String} {k : Kind} (hkind : s.kind? = some k)
    (hother : d.kind? ≠ some k) : check o s path d = mismatch path d k := by
  cases s with
  | oneOf => cases hkind
  | number | boolean | null =>
      obtain rfl := Option.some.inj hkind
      rw [check, if_neg hother]
  | array about item? =>
      obtain rfl := Option.some.inj hkind
      cases item? with
      | none => rw [check, if_neg hother]
      | some item =>
          cases d with
          | array items => exact (hother rfl).elim
          | _ => rfl
  | string | object =>
      obtain rfl := Option.some.inj hkind
      cases d <;> first | rfl | exact (hother rfl).elim

theorem exists_items_of_kind? (h : d.kind? = some .array) : ∃ items, d = .array items := by
  cases d with
  | array items => exact ⟨items, rfl⟩
  | float x => cases x <;> cases h
  | _ => cases h

theorem exists_fields_of_kind? (h : d.kind? = some .object) : ∃ fields, d = .object fields := by
  cases d with
  | object fields => exact ⟨fields, rfl⟩
  | float x => cases x <;> cases h
  | _ => cases h

theorem exists_text_of_kind? (h : d.kind? = some .string) : ∃ text, d = .string text := by
  cases d with
  | string text => exact ⟨text, rfl⟩
  | float x => cases x <;> cases h
  | _ => cases h

theorem exists_reported_here (h : Reported s (Path.ofSegments base) d f) :
    ∃ steps t c, LeadsTo s d steps t c ∧ Reported t (Path.ofSegments (base ++ steps)) c f :=
  ⟨[], s, d, .refl, by rwa [List.append_nil]⟩

/-- Every finding is about a part that the check has come to, by the schema that it has come to. -/
theorem exists_reported (hs : s.PlainNames)
    (hf : f ∈ (check o s (Path.ofSegments base) d).errors) :
    ∃ steps t c, LeadsTo s d steps t c ∧ Reported t (Path.ofSegments (base ++ steps)) c f := by
  induction s using Schema.induction generalizing base d with
  | string about limits =>
      refine exists_reported_here ?_
      by_cases hkind : d.kind? = some .string
      · obtain ⟨text, rfl⟩ := exists_text_of_kind? hkind
        exact .text rfl rfl hf
      · rw [check_of_kind?_ne rfl hkind] at hf
        exact reported_mismatch rfl hkind hf
  | number about minimum maximum =>
      refine exists_reported_here ?_
      by_cases hkind : d.kind? = some .number
      · rw [check, if_pos hkind] at hf
        exact .number rfl hkind hf
      · rw [check_of_kind?_ne rfl hkind] at hf
        exact reported_mismatch rfl hkind hf
  | boolean | null | anyArray =>
      refine exists_reported_here ?_
      rw [check] at hf
      split at hf
      · simp at hf
      · rename_i hkind
        exact reported_mismatch rfl hkind hf
  | object about required properties additional ih =>
      by_cases hkind : d.kind? = some .object
      · obtain ⟨fields, rfl⟩ := exists_fields_of_kind? hkind
        rcases mem_errors_object_iff.mp hf with ⟨name, hname, hf⟩ | ⟨p, hp, part, hpart, hf⟩ | hf
        · obtain ⟨text, rfl, -⟩ := (of_throughout hs).1 name hname
          obtain ⟨hfield, rfl⟩ := mem_errors_checkRequired_iff.mp hf
          exact exists_reported_here (.missing rfl rfl hname hfield)
        · rw [← ofSegments_append] at hf
          obtain ⟨steps, t, c, hleads, hreported⟩ := ih p hp (throughout_property hs hp) hf
          rw [List.append_assoc] at hreported
          exact ⟨_, t, c, .property hp hpart hleads, hreported⟩
        · exact exists_reported_here (reported_unknown hf)
      · rw [check_of_kind?_ne rfl hkind] at hf
        exact exists_reported_here (reported_mismatch rfl hkind hf)
  | array about item ih =>
      by_cases hkind : d.kind? = some .array
      · obtain ⟨items, rfl⟩ := exists_items_of_kind? hkind
        obtain ⟨i, hi, hf⟩ := mem_errors_array_iff.mp hf
        rw [← ofSegments_append] at hf
        obtain ⟨steps, t, c, hleads, hreported⟩ := ih (throughout_item hs) hf
        rw [List.append_assoc] at hreported
        exact ⟨_, t, c, .item (List.getElem?_eq_getElem hi) hleads, hreported⟩
      · rw [check_of_kind?_ne rfl hkind] at hf
        exact exists_reported_here (reported_mismatch rfl hkind hf)
  | oneOf about alternatives uri ih =>
      rcases mem_errors_oneOf hf with rfl | ⟨s, hmem, hf⟩
      · exact exists_reported_here (.noAlternative rfl rfl rfl)
      · obtain ⟨steps, t, c, hleads, hreported⟩ := ih s hmem (throughout_alternative hs hmem) hf
        exact ⟨steps, t, c, .alternative hmem hleads, hreported⟩

/-! ## The second look -/

/-- A finding of the second look about an object that stands somewhere in a value that is read as of some
form. -/
def Traced (s : Schema) (base : List Segment) (d : Document) (f : Finding) : Prop :=
  ∃ steps fields t, (∀ step ∈ steps, step.Plain) ∧ d.slot? steps = some (some (.object fields)) ∧
    s.form? steps = some t ∧ Noted (Path.ofSegments (base ++ steps)) fields t f

theorem traced_here {fields : Fields} (h : Noted (Path.ofSegments base) fields s f) :
    Traced s base (.object fields) f :=
  ⟨[], fields, s, by simp, rfl, rfl, by rwa [List.append_nil]⟩

theorem traced_child {step : Segment} (hstep : step.Plain) (hchild : d.child? step = some c)
    (hpart : s.part? step = some t) (h : Traced t (base ++ [step]) c f) : Traced s base d f := by
  obtain ⟨steps, fields, u, hsteps, hslot, hform, hnoted⟩ := h
  rw [List.append_assoc] at hnoted
  exact ⟨step :: steps, fields, u, List.forall_mem_cons.mpr ⟨hstep, hsteps⟩,
    (slot?_cons_of_child? hchild).trans hslot, (Forms.form?_cons hpart).trans hform, hnoted⟩

theorem traced_field {fields : Fields} {name : String} (hname : PlainName name)
    (hpart : s.part? (.name name) = some t) (hc : fields.get? name = some c)
    (h : Traced t (base ++ [.name name]) c f) : Traced s base (.object fields) f :=
  traced_child hname (show Document.child? (.object fields) (.name name) = some c from hc) hpart h

theorem traced_item {items : List Document} {i : Nat} (hpart : s.part? (.index i) = some t)
    (hc : items[i]? = some c) (h : Traced t (base ++ [.index i]) c f) : Traced s base (.array items) f := by
  refine traced_child (plain_index i) ?_ hpart h
  rw [Document.child?, if_pos (Int.natCast_nonneg i), Int.toNat_natCast, hc]

theorem inField_ofSegments (base : List Segment) (name : String) :
    Refinement.inField (Path.ofSegments base) name = Path.ofSegments (base ++ [.name name]) :=
  (ofSegments_append base (.name name)).symm

theorem noted_severity {path : String} {fields : Fields}
    (hf : f ∈ (Refinement.severity path fields).errors) :
    Noted path fields ReviewFormat.diagnostic f := by
  obtain ⟨d, hd, hother, rfl⟩ := Places.exists_of_mem_severity hf
  exact .severity hd hother

theorem noted_ordinal {path name : String} {fields : Fields} (hname : name = "line" ∨ name = "column")
    (hf : f ∈ (Refinement.ordinal path fields name).errors) :
    Noted path fields ReviewFormat.position f := by
  obtain ⟨d, hd, hkind, hless, rfl⟩ := Places.exists_of_mem_ordinal hf
  exact .ordinal hname hd hkind hless

theorem traced_position (hf : f ∈ (Refinement.position (Path.ofSegments base) d).errors) :
    Traced ReviewFormat.position base d f := by
  cases d with
  | object fields =>
      rw [Refinement.position, Outcome.errors_append, List.mem_append] at hf
      rcases hf with hf | hf
      · exact traced_here (noted_ordinal (.inl rfl) hf)
      · exact traced_here (noted_ordinal (.inr rfl) hf)
  | _ => simp [Refinement.position] at hf

theorem traced_optional {fields : Fields} {name : String} (hname : PlainName name)
    (hpart : s.part? (.name name) = some t) (hnull : ¬ Traced t (base ++ [.name name]) .null f)
    (h : Traced t (base ++ [.name name]) (Document.field fields name) f) :
    Traced s base (.object fields) f := by
  rw [Document.field] at h
  cases hc : fields.get? name with
  -- A missing field reads as null, and nothing is found about null.
  | none =>
      rw [hc] at h
      exact (hnull h).elim
  | some c =>
      rw [hc] at h
      exact traced_field hname hpart hc h

theorem not_traced_null : ¬ Traced s base .null f := by
  rintro ⟨steps, fields, -, -, hslot, -⟩
  cases steps with
  | nil => cases hslot
  | cons step steps => exact ne_null_of_slot? hslot rfl

theorem traced_range (hf : f ∈ (Refinement.range (Path.ofSegments base) d).errors) :
    Traced ReviewFormat.range base d f := by
  cases d with
  | object fields =>
      rw [Refinement.range, Outcome.errors_append, List.mem_append] at hf
      rcases hf with hf | hf
      · split at hf
        · rename_i hstart
          obtain rfl := List.mem_singleton.mp hf
          exact traced_here (.start hstart)
        · rename_i start hstart
          rw [inField_ofSegments] at hf
          exact traced_field (by decide) rfl hstart (traced_position hf)
      · rw [inField_ofSegments] at hf
        exact traced_optional (by decide) rfl not_traced_null (traced_position hf)
  | _ => simp [Refinement.range] at hf

theorem traced_location (hf : f ∈ (Refinement.location (Path.ofSegments base) d).errors) :
    Traced ReviewFormat.location base d f := by
  cases d with
  | object fields =>
      rw [Refinement.location, inField_ofSegments] at hf
      exact traced_optional (by decide) rfl not_traced_null (traced_range hf)
  | _ => simp [Refinement.location] at hf

theorem traced_diagnostic {fields : Fields} (hshaped : Closeness.diagnosticShaped fields = true)
    (hf : f ∈ (Refinement.diagnostic (Path.ofSegments base) fields).errors) :
    Traced ReviewFormat.diagnostic base (.object fields) f := by
  rw [Refinement.diagnostic, Outcome.errors_append, Outcome.errors_append, List.mem_append,
    List.mem_append] at hf
  rcases hf with hf | hf | hf
  · split at hf
    · simp at hf
    · rename_i hmessage
      obtain rfl := List.mem_singleton.mp hf
      exact traced_here (.message hshaped (by simpa using hmessage))
  · split at hf
    · rename_i hlocation
      obtain rfl := List.mem_singleton.mp hf
      exact traced_here (.location hshaped hlocation)
    · rename_i place hplace
      rw [inField_ofSegments] at hf
      exact traced_field (by decide) rfl hplace (traced_location hf)
  · exact traced_here (noted_severity hf)

theorem traced_of_item (hf : f ∈ (Refinement.item (Path.ofSegments base) d).errors) :
    Traced ReviewFormat.diagnostic base d f := by
  cases d with
  | object fields =>
      rw [Refinement.item] at hf
      split at hf
      · rename_i hshaped
        exact traced_diagnostic hshaped hf
      · simp at hf
  | _ => simp [Refinement.item] at hf

mutual

/-- Every finding of the second look is about an object that stands in the value. -/
theorem traced_node (base : List Segment) : (d : Document) →
    f ∈ (Refinement.node (Path.ofSegments base) d).errors → Traced ReviewFormat.diagnostic base d f
  | .object fields => by
      intro hf
      rw [Refinement.node] at hf
      split at hf
      · rename_i hshaped
        exact traced_diagnostic hshaped hf
      · split at hf
        · rw [Outcome.errors_append, List.mem_append, inField_ofSegments] at hf
          rcases hf with hf | hf
          · obtain ⟨d, hd, ⟨hother, rfl⟩ | htraced⟩ := traced_listIn base fields hf
            · rw [← inField_ofSegments]
              exact traced_here (.list hd hother)
            · exact traced_field (by decide) rfl hd htraced
          · exact traced_here (noted_severity hf)
        · simp at hf
  | .array items => by
      intro hf
      obtain ⟨i, hi, hf⟩ := Outcome.mem_errors_join_mapIdx.mp hf
      rw [← ofSegments_append] at hf
      exact traced_item rfl (List.getElem?_eq_getElem hi) (traced_of_item hf)
  | .null | .bool _ | .int _ | .float _ | .string _ => by simp [Refinement.node]

theorem traced_listIn (base : List Segment) : (fields : List (String × Document)) →
    f ∈ (Refinement.listIn (Path.ofSegments (base ++ [.name "diagnostics"])) fields).errors →
    ∃ d, Fields.get? fields "diagnostics" = some d ∧
      ((∀ items, d ≠ .array items) ∧ f = .expecting
          (Path.ofSegments (base ++ [.name "diagnostics"])) .typeMismatch d "array" ∨
        Traced ReviewFormat.diagnosticList (base ++ [.name "diagnostics"]) d f)
  | [] => by simp [Refinement.listIn]
  | (name, d) :: rest => by
      intro hf
      rw [Refinement.listIn.eq_def] at hf
      dsimp only at hf
      by_cases hname : name = "diagnostics"
      · rw [if_pos hname] at hf
        refine ⟨d, by rw [Fields.get?, if_pos hname], ?_⟩
        match d with
        | .array [] => simp at hf
        | .array (x :: items) =>
            obtain ⟨k, c, hc, htraced⟩ := traced_nodes _ 0 (x :: items) hf
            rw [Nat.zero_add] at htraced
            exact .inr (traced_item rfl hc htraced)
        | .null | .bool _ | .int _ | .float _ | .string _ | .object _ =>
            exact .inl ⟨by simp, List.mem_singleton.mp hf⟩
      · rw [if_neg hname] at hf
        rw [Fields.get?, if_neg hname]
        exact traced_listIn base rest hf

theorem traced_nodes (base : List Segment) (i : Nat) : (items : List Document) →
    f ∈ (Refinement.nodes (Path.ofSegments base) i items).errors →
    ∃ k c, items[k]? = some c ∧ Traced ReviewFormat.diagnostic (base ++ [.index (i + k : Nat)]) c f
  | [] => by simp [Refinement.nodes]
  | d :: rest => by
      intro hf
      rw [Refinement.nodes, Outcome.errors_append, List.mem_append] at hf
      rcases hf with hf | hf
      · rw [← ofSegments_append] at hf
        exact ⟨0, d, rfl, traced_node (base ++ [.index i]) d hf⟩
      · obtain ⟨k, c, hc, htraced⟩ := traced_nodes base (i + 1) rest hf
        refine ⟨k + 1, c, hc, ?_⟩
        rwa [show i + (k + 1) = i + 1 + k by omega]

end

end Proofs.Origins

end ReviewDiagnostics
