import ReviewDiagnostics.Proofs.Origins

/-!
# The parts of the review format

What holds of the schema of the review format and of all schemas inside it is read off a list of them.
All their names are plain, no two limits of one of them can be broken at once, and what one of them declares
or asks for can be looked up.
-/

namespace ReviewDiagnostics

namespace ReviewFormat

/-- All schemas inside the schema of the review format. -/
def components : List Schema :=
  [diagnostic, diagnosticArray, diagnosticResult, .array .nothing (some diagnostic), location, range,
    position, ordinal, severity, source, code, link, text, nonEmpty .nothing,
    nonEmpty (described "File path"), .array .nothing (some suggestion), suggestion,
    .array .nothing (some relatedLocation), relatedLocation]

/-- The schema of the review format and all schemas inside it. -/
def parts : List Schema := document :: components

end ReviewFormat

/-- Limits on texts of which no two can be broken at once, as the review format has them. -/
inductive TextLimits.Single : TextLimits → Prop
  | none : Single .none
  | nonEmpty : Single { TextLimits.none with minLength := some (.int 1) }
  | pattern {text : String} : Single { TextLimits.none with pattern := some (.string text) }
  | enum {texts : List String} : Single { TextLimits.none with enum := some (ReviewFormat.names texts) }

/-- A schema by which no two things can be found wrong at one place: it has at most one limit on a value
without parts, and names no property twice. -/
def Schema.Single : Schema → Prop
  | .string _ limits => limits.Single
  | .number _ minimum maximum => minimum = some (.int 1) ∧ maximum = none
  | .object _ required properties _ =>
    (∃ texts : List String, required = ReviewFormat.names texts ∧ texts.Nodup) ∧
      (properties.map (·.1)).Nodup
  | _ => True

namespace Schema

/-- The declared properties of an object; none for all else. -/
def properties : Schema → List (String × Schema)
  | .object _ _ properties _ => properties
  | _ => []

/-- The schema of the items of a list. -/
def item? : Schema → Option Schema
  | .array _ item? => item?
  | _ => none

end Schema

/-- Where a path through schemas ends: at the schema that it began with, at a declared property of one on the
way, or at an item. -/
inductive EndsAt (P : Schema → Prop) (s : Schema) : List Segment → Schema → Prop
  | whole : EndsAt P s [] s
  | property {u : Schema} {steps : List Segment} {p : String × Schema} (hu : P u)
    (hp : p ∈ u.properties) : EndsAt P s (steps ++ [.name p.1]) p.2
  | item {u t : Schema} {steps : List Segment} {i : Nat} (hu : P u) (ht : u.item? = some t) :
    EndsAt P s (steps ++ [.index i]) t

namespace Proofs.FormatParts

open Origins ReviewFormat

/-! ## The list is complete -/

theorem inner_components : ∀ s ∈ components, ∀ t ∈ s.inner, t ∈ components := by
  simp [components, Schema.inner, diagnostic, diagnosticArray, diagnosticResult, location, range, position,
    ordinal, severity, source, code, link, text, nonEmpty, suggestion, relatedLocation]

/-- Whatever is inside a part of the format is a part of the format as well. -/
theorem throughout_component {s : Schema} (hs : s ∈ components) : s.Throughout (· ∈ components) :=
  throughout_of_inner inner_components hs

theorem throughout_position : position.Throughout (· ∈ components) :=
  throughout_component (by simp [components])

theorem throughout_location : location.Throughout (· ∈ components) :=
  throughout_component (by simp [components])

theorem throughout_diagnostic : diagnostic.Throughout (· ∈ components) :=
  throughout_component (by simp [components])

theorem throughout_form {s : Schema} (hs : s ∈ [diagnostic, diagnosticArray, diagnosticResult]) :
    s.Throughout (· ∈ components) :=
  throughout_component (List.mem_append_left _ hs)

theorem throughout_parts {s : Schema} (hs : s.Throughout (· ∈ components)) : s.Throughout (· ∈ parts) :=
  throughout_imp (fun _ ht => List.mem_cons_of_mem document ht) hs

theorem throughout_document : document.Throughout (· ∈ parts) :=
  .oneOf List.mem_cons_self fun _ hs => throughout_parts (throughout_form hs)

/-! ## What holds of all parts -/

theorem namesPlainly_object {about : About} {texts : List String}
    {properties : List (String × Schema)} {additional : Bool}
    (htexts : ∀ text ∈ texts, PlainName text) (hproperties : ∀ p ∈ properties, PlainName p.1) :
    (Schema.object about (names texts) properties additional).NamesPlainly := by
  refine ⟨fun name hname => ?_, hproperties⟩
  obtain ⟨text, htext, rfl⟩ := List.mem_map.mp hname
  exact ⟨text, rfl, htexts text htext⟩

theorem plainNames_of_throughout_parts {s : Schema} (hs : s.Throughout (· ∈ parts)) :
    s.PlainNames := by
  refine throughout_imp ?_ hs
  simp only [parts, components, List.forall_mem_cons, List.not_mem_nil, false_imp_iff, implies_true,
    and_true]
  refine ⟨trivial, ?diagnostic, trivial, ?result, trivial, ?location, ?range, ?position, trivial,
    trivial, ?source, ?code, trivial, trivial, trivial, trivial, trivial, ?suggestion, trivial,
    ?relatedLocation⟩
  case code => exact @namesPlainly_object _ [] _ _ (by decide) (by decide)
  all_goals exact namesPlainly_object (by decide) (by decide)

theorem plainNames_of_throughout_inner {s : Schema} (hs : s.Throughout (· ∈ components)) : s.PlainNames :=
  plainNames_of_throughout_parts (throughout_parts hs)

theorem plainNames_component : ∀ s ∈ components, s.PlainNames := fun _ hs =>
  plainNames_of_throughout_inner (throughout_component hs)

theorem plainNames_document : document.PlainNames := plainNames_of_throughout_parts throughout_document

theorem single_object {about : About} {texts : List String} {properties : List (String × Schema)}
    {additional : Bool} (htexts : texts.Nodup) (hproperties : (properties.map (·.1)).Nodup) :
    (Schema.object about (names texts) properties additional).Single :=
  ⟨⟨texts, rfl, htexts⟩, hproperties⟩

theorem single_of_mem_parts : ∀ s ∈ parts, s.Single := by
  simp only [parts, components, List.forall_mem_cons, List.not_mem_nil, false_imp_iff, implies_true,
    and_true]
  refine ⟨trivial, ?diagnostic, trivial, ?result, trivial, ?location, ?range, ?position, ⟨rfl, rfl⟩,
    .enum, ?source, ?code, .pattern, .none, .nonEmpty, .nonEmpty, trivial, ?suggestion, trivial,
    ?relatedLocation⟩
  case code => exact @single_object _ [] _ _ (by decide) (by decide)
  all_goals exact single_object (by decide) (by decide)

theorem single_of_throughout_parts {s : Schema} (hs : s.Throughout (· ∈ parts)) :
    s.Throughout Schema.Single :=
  throughout_imp single_of_mem_parts hs

/-! ## Properties and items -/

theorem kind?_inner : ∀ u ∈ components, u.kind? ≠ none := by decide +kernel

theorem isSome_item? : ∀ u ∈ components, u.kind? = some .array → u.item?.isSome = true := by decide +kernel

theorem properties_ne_nil : ∀ u ∈ components, u.kind? = some .object → u.properties ≠ [] := by decide +kernel

theorem kind?_list : ∀ u ∈ components, ∀ p ∈ u.properties, p.1 = "diagnostics" → p.2.kind? = some .array := by
  decide +kernel

theorem start_of_range : (∀ u ∈ components, ∀ p ∈ u.properties,
      Schema.requires p.2.required "start" = true → p.1 = "range") ∧
    (∀ u ∈ components, ∀ t ∈ u.item?, Schema.requires t.required "start" = false) ∧
    ∀ s ∈ [diagnostic, diagnosticArray, diagnosticResult],
      Schema.requires s.required "start" = false := by decide +kernel

theorem list_of_form : (∀ u ∈ components, ∀ p ∈ u.properties,
      Schema.requires p.2.required "diagnostics" = false) ∧
    ∀ u ∈ components, ∀ t ∈ u.item?, Schema.requires t.required "diagnostics" = false := by decide +kernel

theorem endsAt_of_leadsTo {P : Schema → Prop} {s t : Schema} {d c : Document} {steps : List Segment}
    (hs : s.Throughout P) (hP : ∀ u, P u → u.kind? ≠ none) (h : LeadsTo s d steps t c) :
    EndsAt P s steps t := by
  induction h with
  | refl => exact .whole
  | @property _ _ _ _ _ p _ _ _ _ hp _ _ ih =>
      have hinner := ih (throughout_property hs hp)
      generalize hu : p.2 = u at hinner
      cases hinner with
      | whole => exact hu ▸ @EndsAt.property P _ _ [] p (of_throughout hs) hp
      | property hu hq => exact @EndsAt.property P _ _ (_ :: _) _ hu hq
      | item hu ht => exact @EndsAt.item P _ _ _ (_ :: _) _ hu ht
  | item _ _ ih =>
      cases ih (throughout_item hs) with
      | whole => exact @EndsAt.item P _ _ _ [] _ (of_throughout hs) rfl
      | property hu hq => exact @EndsAt.property P _ _ (_ :: _) _ hu hq
      | item hu ht => exact @EndsAt.item P _ _ _ (_ :: _) _ hu ht
  | alternative => exact (hP _ (of_throughout hs) rfl).elim

end Proofs.FormatParts

end ReviewDiagnostics
