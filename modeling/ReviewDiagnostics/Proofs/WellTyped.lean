import ReviewDiagnostics.Proofs.FormatParts

/-!
# Well-typed schemas

A schema keeps its limits as they were written, so that a limit may make no sense.  In a well-typed
schema lengths are whole numbers, allowed texts and required names are texts, patterns can be read and
bounds have a binary64 number near them.  Checking any document against such a schema comes to an
end without a fault, and the schema of the review format is one.
-/

namespace ReviewDiagnostics

/-- A number near which there is a finite binary64 number, or a binary64 number itself. -/
def Document.HasBinary64 : Document → Prop
  | .bool _ | .float _ => True
  | .int n => ∀ negative, Binary64.round n ≠ .infinite negative
  | _ => False

/-- Limits on texts of the sorts that they are meant to be. -/
structure TextLimits.WellTyped (limits : TextLimits) : Prop where
  minLength : ∀ bound ∈ limits.minLength, ∃ n : Int, bound = .int n
  maxLength : ∀ bound ∈ limits.maxLength, ∃ n : Int, bound = .int n
  pattern : ∀ bound ∈ limits.pattern, ∃ text pattern,
    bound = .string text ∧ Pattern.read text = .ok pattern
  enum : ∀ allowed ∈ limits.enum, ∀ word ∈ allowed, ∃ s, word = .string s

/-- A schema all of whose limits make sense. -/
inductive Schema.WellTyped : Schema → Prop
  | string {about : About} {limits : TextLimits} (hlimits : limits.WellTyped) :
    WellTyped (.string about limits)
  | number {about : About} {minimum maximum : Option Document}
    (hminimum : ∀ bound ∈ minimum, bound.HasBinary64)
    (hmaximum : ∀ bound ∈ maximum, bound.HasBinary64) :
    WellTyped (.number about minimum maximum)
  | boolean {about : About} : WellTyped (.boolean about)
  | null {about : About} : WellTyped (.null about)
  | object {about : About} {required : List Document} {properties : List (String × Schema)}
    {additional : Bool} (hrequired : ∀ name ∈ required, ∃ s, name = .string s)
    (hproperties : ∀ p ∈ properties, WellTyped p.2) :
    WellTyped (.object about required properties additional)
  | anyArray {about : About} : WellTyped (.array about none)
  | array {about : About} {item : Schema} (hitem : WellTyped item) :
    WellTyped (.array about (some item))
  | oneOf {about : About} {alternatives : List Schema} {uri : Option Document}
    (halternatives : ∀ s ∈ alternatives, WellTyped s) : WellTyped (.oneOf about alternatives uri)

/-- The limits of a schema are of the sorts that they are meant to be, and its bounds of any size. -/
def Schema.LimitsTyped : Schema → Prop
  | .string _ limits => limits.WellTyped
  | .number _ minimum maximum =>
    (∀ bound ∈ minimum, bound.isNumeric = true) ∧ ∀ bound ∈ maximum, bound.isNumeric = true
  | .object _ required _ _ => ∀ name ∈ required, ∃ s, name = .string s
  | _ => True

/-- The limits of a schema itself make sense, whatever is inside. -/
def Schema.Sound : Schema → Prop
  | .string _ limits => limits.WellTyped
  | .number _ minimum maximum =>
    (∀ bound ∈ minimum, bound.HasBinary64) ∧ ∀ bound ∈ maximum, bound.HasBinary64
  | .object _ required _ _ => ∀ name ∈ required, ∃ s, name = .string s
  | _ => True

/-- The pattern that a text has to have. -/
def Schema.pattern? : Schema → Option Document
  | .string _ limits => limits.pattern
  | _ => none

namespace Proofs.WellTyped

open Conformity Origins

/-! ## Comparisons -/

theorem isBelow_of_isNumeric {a b : Document} (ha : a.isNumeric = true) (hb : b.isNumeric = true) :
    a.isBelow b = .ok (a.less b) := by
  rw [Document.isBelow, if_pos (by rw [ha, hb, Bool.and_self])]

theorem isNumeric_of_hasBinary64 {d : Document} (h : d.HasBinary64) : d.isNumeric = true := by
  cases d <;> first | rfl | exact h.elim

theorem isNumeric_of_kind? {d : Document} (h : d.kind? = some .number) : d.isNumeric = true := by
  cases d <;> simp_all [Document.kind?, Document.isNumeric]

theorem limitsTyped_of_wellTyped {s : Schema} (hs : s.WellTyped) : s.Throughout Schema.LimitsTyped := by
  induction hs with
  | string hlimits => exact .string hlimits
  | number hminimum hmaximum =>
      exact .number ⟨fun bound hbound => isNumeric_of_hasBinary64 (hminimum bound hbound),
        fun bound hbound => isNumeric_of_hasBinary64 (hmaximum bound hbound)⟩
  | boolean => exact .boolean trivial
  | null => exact .null trivial
  | object hrequired _ ih => exact .object hrequired ih
  | anyArray => exact .anyArray trivial
  | array _ ih => exact .array trivial ih
  | oneOf _ ih => exact .oneOf trivial ih

private theorem boundText_of_hasBinary64 {d : Document} (h : d.HasBinary64) :
    ∃ text, d.boundText = .ok text := by
  cases d with
  | bool b => exact ⟨_, rfl⟩
  | int n =>
      rw [Document.boundText]
      split
      · rename_i negative hround
        exact (h negative hround).elim
      · exact ⟨_, rfl⟩
  | float x => exact ⟨_, rfl⟩
  | _ => exact h.elim

theorem fault_checkBound {path sign : String} {code : Code} {value bound low high : Document}
    (hbound : bound.HasBinary64) (hlow : low.isNumeric = true) (hhigh : high.isNumeric = true) :
    (checkBound path code sign value bound (low.isBelow high)).fault = none := by
  obtain ⟨text, htext⟩ := boundText_of_hasBinary64 hbound
  rw [isBelow_of_isNumeric hlow hhigh, checkBound.eq_def]
  cases low.less high
  · rfl
  · simp [htext]

/-! ## Checks without a fault -/

theorem fault_checkMinLength {path s : String} {min? : Option Document}
    (h : ∀ bound ∈ min?, ∃ n : Int, bound = .int n) : (checkMinLength path s min?).fault = none := by
  cases min? with
  | none => rfl
  | some min =>
      obtain ⟨n, rfl⟩ := h min rfl
      rw [checkMinLength]
      split
      · rfl
      · rw [isBelow_of_isNumeric rfl rfl]
        cases Document.less _ _ <;> rfl

theorem fault_checkMaxLength {path s : String} {max? : Option Document}
    (h : ∀ bound ∈ max?, ∃ n : Int, bound = .int n) : (checkMaxLength path s max?).fault = none := by
  cases max? with
  | none => rfl
  | some max =>
      obtain ⟨n, rfl⟩ := h max rfl
      rw [checkMaxLength, isBelow_of_isNumeric rfl rfl]
      cases Document.less _ _ <;> rfl

theorem fault_checkPattern {path s : String} {pattern? : Option Document}
    (h : ∀ bound ∈ pattern?, ∃ text pattern, bound = .string text ∧ Pattern.read text = .ok pattern) :
    (checkPattern path s pattern?).fault = none := by
  cases pattern? with
  | none => rfl
  | some bound =>
      obtain ⟨text, pattern, rfl, hread⟩ := h bound rfl
      rw [checkPattern, hread]
      dsimp only
      split <;> rfl

theorem enumText_of_texts {allowed : List Document} (h : ∀ word ∈ allowed, ∃ s, word = .string s) :
    ∃ text, enumText allowed = .ok text := by
  obtain ⟨words, rfl⟩ : ∃ words : List String, allowed = words.map .string := by
    induction allowed with
    | nil => exact ⟨[], rfl⟩
    | cons word allowed ih =>
        obtain ⟨s, rfl⟩ := h word (by simp)
        obtain ⟨words, rfl⟩ := ih fun w hw => h w (by simp [hw])
        exact ⟨s :: words, rfl⟩
  have hwords : (words.map Document.string).mapM wordText = .ok words := by
    clear h
    induction words with
    | nil => rfl
    | cons s words ih =>
        rw [List.map_cons, List.mapM_cons, ih]
        rfl
  exact ⟨_, by rw [enumText, hwords]; rfl⟩

theorem fault_checkText {path s : String} {limits : TextLimits} (h : limits.WellTyped) :
    (checkText path s limits).fault = none := by
  have hfurther : (checkMinLength path s limits.minLength ++
      (checkMaxLength path s limits.maxLength ++ checkPattern path s limits.pattern)).fault =
      none := by
    simp [fault_checkMinLength h.minLength, fault_checkMaxLength h.maxLength,
      fault_checkPattern h.pattern]
  rw [checkText]
  cases henum : limits.enum with
  | none => exact hfurther
  | some allowed =>
      obtain ⟨text, htext⟩ := enumText_of_texts (h.enum allowed henum)
      dsimp only
      split
      · exact hfurther
      · rw [htext]
        rfl

theorem fault_checkNumber {path : String} {value : Document} {minimum maximum : Option Document}
    (hvalue : value.isNumeric = true) (hminimum : ∀ bound ∈ minimum, bound.HasBinary64)
    (hmaximum : ∀ bound ∈ maximum, bound.HasBinary64) :
    (checkNumber path value minimum maximum).fault = none := by
  rw [checkNumber.eq_def, Outcome.fault_append, Option.or_eq_none_iff]
  constructor
  · cases minimum with
    | none => rfl
    | some min =>
        have hmin := hminimum min rfl
        exact fault_checkBound hmin hvalue (isNumeric_of_hasBinary64 hmin)
  · cases maximum with
    | none => rfl
    | some max =>
        have hmax := hmaximum max rfl
        exact fault_checkBound hmax (isNumeric_of_hasBinary64 hmax) hvalue

theorem fault_checkRequired {path : String} {fields : Fields} {properties : List (String × Schema)}
    {name : String} : (checkRequired path fields properties (.string name)).fault = none := by
  rw [checkRequired]
  split <;> rfl

theorem fault_checkUnknown {path : String} {fields : Fields} {properties : List (String × Schema)}
    {additional : Bool} {o : Options} :
    (checkUnknown path fields properties additional o).fault = none := by
  rw [checkUnknown]
  split
  · rfl
  · rw [Outcome.fault_join_eq_none_iff]
    simp only [List.mem_map]
    rintro _ ⟨f, -, rfl⟩
    split <;> rfl

/-! ## Schemas without a fault -/

theorem misnamed_of_limitsTyped {s : Schema} (hs : s.Throughout Schema.LimitsTyped) (d : Document) :
    Likelihood.misnamed s d = false := by
  induction hs generalizing d with
  | string | number | boolean | null => rfl
  | object hrequired _ _ =>
      rw [Likelihood.misnamed, Bool.and_eq_false_iff]
      right
      rw [List.any_eq_false]
      intro name hname
      obtain ⟨s, rfl⟩ := hrequired name hname
      simp
  | anyArray => cases d <;> first | rfl | (rename_i items; cases items <;> rfl)
  | array _ _ ih =>
      cases d with
      | array items =>
          cases items with
          | nil => rfl
          | cons x items => exact ih x
      | _ => rfl
  | oneOf _ _ ih =>
      rw [Likelihood.misnamed, Choice.misnamedAny_eq_any, List.any_eq_false]
      intro s hs
      simp [ih s hs d]

theorem misnamed_eq_false {s : Schema} (hs : s.WellTyped) (d : Document) :
    Likelihood.misnamed s d = false :=
  misnamed_of_limitsTyped (limitsTyped_of_wellTyped hs) d

theorem fault_check {s : Schema} (hs : s.WellTyped) (o : Options) (path : String) (d : Document) :
    (check o s path d).fault = none := by
  induction hs generalizing path d with
  | string hlimits =>
      cases d with
      | string t => exact fault_checkText hlimits
      | _ => rfl
  | number hminimum hmaximum =>
      rw [check]
      split
      · rename_i hkind
        exact fault_checkNumber (isNumeric_of_kind? hkind) hminimum hmaximum
      · rfl
  | boolean | null | anyArray =>
      rw [check]
      split <;> rfl
  | object hrequired _ ih =>
      cases d with
      | object fields =>
          rw [check_object_eq, Outcome.fault_append, Outcome.fault_append, Option.or_eq_none_iff,
            Option.or_eq_none_iff, Outcome.fault_join_map_eq_none_iff, Outcome.fault_join_map_eq_none_iff]
          refine ⟨fun name hname => ?_, fun p hp => ?_, fault_checkUnknown⟩
          · obtain ⟨s, rfl⟩ := hrequired name hname
            exact fault_checkRequired
          · rw [checkProperty]
            split
            · exact ih p hp _ _
            · rfl
      | _ => rfl
  | array _ ih =>
      cases d with
      | array items =>
          rw [check, Outcome.fault_join_mapIdx_eq_none_iff]
          exact fun i hi => ih _ _
      | _ => rfl
  | oneOf halternatives ih =>
      rw [check_oneOf_eq]
      apply Choice.fault_choose
      · simp only [List.forall_mem_map]
        exact fun s hs => misnamed_eq_false (halternatives s hs) d
      · simp only [List.forall_mem_map]
        exact fun s hs => ih s hs path d

/-! ## The review format -/

open FormatParts ReviewFormat

theorem text_of_mem_names {texts : List String} {word : Document} (h : word ∈ names texts) :
    ∃ s, word = .string s := by
  obtain ⟨s, -, rfl⟩ := List.mem_map.mp h
  exact ⟨s, rfl⟩

theorem wellTyped_of_throughout {s : Schema} (hs : s.Throughout Schema.Sound) : s.WellTyped := by
  induction hs with
  | string hlimits => exact .string hlimits
  | number hbounds => exact .number hbounds.1 hbounds.2
  | boolean => exact .boolean
  | null => exact .null
  | object hrequired _ ih => exact .object hrequired ih
  | anyArray => exact .anyArray
  | array _ _ ih => exact .array ih
  | oneOf _ _ ih => exact .oneOf ih

theorem textLimits_of_single {limits : TextLimits} (hsingle : limits.Single)
    (hread : ∀ text, limits.pattern = some (.string text) → ∃ pattern, Pattern.read text = .ok pattern) :
    limits.WellTyped := by
  cases hsingle with
  | none | nonEmpty => constructor <;> simp [TextLimits.none]
  | @pattern text =>
      refine ⟨by simp [TextLimits.none], by simp [TextLimits.none], ?_, by simp [TextLimits.none]⟩
      rintro bound ⟨⟩
      obtain ⟨pattern, hpattern⟩ := hread text rfl
      exact ⟨text, pattern, rfl, hpattern⟩
  | enum =>
      refine ⟨by simp [TextLimits.none], by simp [TextLimits.none], by simp [TextLimits.none], ?_⟩
      rintro allowed ⟨⟩
      exact fun _ => text_of_mem_names

private theorem pattern_eq_of_mem_parts : ∀ s ∈ parts, ∀ bound ∈ s.pattern?, bound = .string linkPattern := by
  simp [parts, components, Schema.pattern?, document, diagnostic, diagnosticArray, diagnosticResult, location,
    range, position, ordinal, severity, source, code, link, text, nonEmpty, suggestion, relatedLocation,
    TextLimits.none]

/-- A part of the format has one limit at most, and the only pattern is the one for links. -/
theorem sound_of_mem_parts {s : Schema} (hs : s ∈ parts) : s.Sound := by
  have hsingle := single_of_mem_parts s hs
  cases s with
  | string about limits =>
      refine textLimits_of_single hsingle fun text htext => ?_
      obtain rfl := Document.string.inj (pattern_eq_of_mem_parts _ hs _ htext)
      exact ⟨_, rfl⟩
  | number about minimum maximum =>
      obtain ⟨rfl, rfl⟩ := hsingle
      -- The one bound is the number one, which has a binary64 number near it.
      refine ⟨?_, by simp⟩
      rintro bound ⟨⟩ negative
      cases negative <;> decide
  | object about required properties additional =>
      obtain ⟨⟨texts, rfl, -⟩, -⟩ := hsingle
      exact fun _ => text_of_mem_names
  | _ => trivial

theorem wellTyped_of_throughout_parts {s : Schema} (hs : s.Throughout (· ∈ parts)) : s.WellTyped :=
  wellTyped_of_throughout (throughout_imp (fun _ ht => sound_of_mem_parts ht) hs)

theorem wellTyped_inner : ∀ u ∈ components, u.WellTyped := fun _ hu =>
  wellTyped_of_throughout_parts (throughout_parts (throughout_component hu))

theorem wellTyped_property {u : Schema} (hu : u ∈ components) {p : String × Schema} (hp : p ∈ u.properties) :
    p.2.WellTyped := by
  have hwell := wellTyped_inner u hu
  cases hwell with
  | object _ hproperties => exact hproperties p hp
  | _ => cases hp

theorem wellTyped_form {s : Schema} (hs : s ∈ [diagnostic, diagnosticArray, diagnosticResult]) :
    s.WellTyped :=
  wellTyped_inner s (List.mem_append_left _ hs)

theorem wellTyped_location : location.WellTyped := wellTyped_inner _ (by simp [components])

theorem wellTyped_diagnostic : diagnostic.WellTyped := wellTyped_inner _ (by simp [components])

theorem wellTyped_diagnosticArray : diagnosticArray.WellTyped := wellTyped_inner _ (by simp [components])

theorem wellTyped_document : document.WellTyped := wellTyped_of_throughout_parts throughout_document

end Proofs.WellTyped

end ReviewDiagnostics
