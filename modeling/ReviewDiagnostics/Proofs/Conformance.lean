import ReviewDiagnostics.Proofs.WellTyped
import ReviewDiagnostics.Validation.Validator

/-!
# Conformance

What it means that a document conforms to a schema, said without checking, scores or an order of
alternatives.  The main statement is that checking against a well-typed schema finds nothing exactly
if the document conforms; the same holds for bounds of any size, as long as the check does not break off.
-/

namespace ReviewDiagnostics

/-- A text within its limits. -/
structure TextLimits.Admits (limits : TextLimits) (s : String) : Prop where
  enum : ∀ allowed ∈ limits.enum, .string s ∈ allowed
  nonBlank : ∀ n : Int, limits.minLength = some (.int n) → n ≠ 0 → Text.allBlank s = false
  minLength : ∀ n : Int, limits.minLength = some (.int n) → n ≤ s.length
  maxLength : ∀ n : Int, limits.maxLength = some (.int n) → s.length ≤ n
  pattern : ∀ text, limits.pattern = some (.string text) →
    ∃ pattern, Pattern.read text = .ok pattern ∧ pattern.occursIn s = true

/-- Strict options under which a property that is not declared counts as unknown. -/
def Options.RefusesUnknown (o : Options) (additional : Bool) : Prop :=
  o.strict = true ∧ (additional = false ∨ o.allowExtra = false)

/-- A document has the form that a schema describes. -/
inductive Conforms (o : Options) : Schema → Document → Prop
  | string {about : About} {limits : TextLimits} {s : String} (hlimits : limits.Admits s) :
    Conforms o (.string about limits) (.string s)
  | number {about : About} {minimum maximum : Option Document} {d : Document}
    (hkind : d.kind? = some .number) (hminimum : ∀ bound ∈ minimum, d.less bound = false)
    (hmaximum : ∀ bound ∈ maximum, bound.less d = false) :
    Conforms o (.number about minimum maximum) d
  | boolean {about : About} {d : Document} (hkind : d.kind? = some .boolean) :
    Conforms o (.boolean about) d
  | null {about : About} {d : Document} (hkind : d.kind? = some .null) : Conforms o (.null about) d
  | object {about : About} {required : List Document} {properties : List (String × Schema)}
    {additional : Bool} {fields : Fields}
    (hrequired : ∀ name ∈ required, ∃ s, name = .string s ∧ fields.has s = true)
    (hproperties : ∀ p ∈ properties, ∀ d, fields.get? p.1 = some d → Conforms o p.2 d)
    (hdeclared : o.RefusesUnknown additional → properties ≠ [] →
      ∀ f ∈ fields, ∃ p ∈ properties, p.1 = f.1) :
    Conforms o (.object about required properties additional) (.object fields)
  | anyArray {about : About} {items : List Document} : Conforms o (.array about none) (.array items)
  | array {about : About} {item : Schema} {items : List Document}
    (hitems : ∀ x ∈ items, Conforms o item x) : Conforms o (.array about (some item)) (.array items)
  | oneOf {about : About} {alternatives : List Schema} {uri : Option Document} {s : Schema}
    {d : Document} (hs : s ∈ alternatives) (hconforms : Conforms o s d) :
    Conforms o (.oneOf about alternatives uri) d

namespace Proofs.Conformance

open Conformity WellTyped

/-! ## Texts -/

theorem less_int (a b : Int) : (Document.int a).less (.int b) = decide (a < b) :=
  decide_eq_decide.mpr Rat.intCast_lt_intCast

theorem errors_when_eq_nil_iff {test : Bool} {f : Finding} :
    (Conformity.when (.ok test) (.ofError f)).errors = [] ↔ test = false := by
  cases test <;> simp [Conformity.when]

theorem errors_checkMinLength_eq_nil_iff {path s : String} {min? : Option Document}
    (h : ∀ bound ∈ min?, ∃ n : Int, bound = .int n) :
    (checkMinLength path s min?).errors = [] ↔
      ∀ n : Int, min? = some (.int n) → (n ≠ 0 → Text.allBlank s = false) ∧ n ≤ s.length := by
  cases min? with
  | none => simp [checkMinLength]
  | some min =>
      obtain ⟨n, rfl⟩ := h min rfl
      have htruthy : ((Document.int n).truthy && Text.allBlank s) = true ↔
          n ≠ 0 ∧ Text.allBlank s = true := by simp [Document.truthy]
      simp only [Option.some.injEq, Document.int.injEq, forall_eq']
      rw [checkMinLength, isBelow_of_isNumeric rfl rfl, less_int]
      by_cases hblank : n ≠ 0 ∧ Text.allBlank s = true
      · rw [if_pos (htruthy.mpr hblank)]
        simp [hblank]
      · rw [if_neg (mt htruthy.mp hblank), errors_when_eq_nil_iff, decide_eq_false_iff_not, Int.not_lt]
        have hnonBlank : n ≠ 0 → Text.allBlank s = false := by simpa using hblank
        exact (and_iff_right hnonBlank).symm

theorem errors_checkMaxLength_eq_nil_iff {path s : String} {max? : Option Document}
    (h : ∀ bound ∈ max?, ∃ n : Int, bound = .int n) :
    (checkMaxLength path s max?).errors = [] ↔
      ∀ n : Int, max? = some (.int n) → s.length ≤ n := by
  cases max? with
  | none => simp [checkMaxLength]
  | some max =>
      obtain ⟨n, rfl⟩ := h max rfl
      simp only [Option.some.injEq, Document.int.injEq, forall_eq']
      rw [checkMaxLength, isBelow_of_isNumeric rfl rfl, less_int, errors_when_eq_nil_iff,
        decide_eq_false_iff_not, Int.not_lt]

theorem errors_checkPattern_eq_nil_iff {path s : String} {pattern? : Option Document}
    (h : ∀ bound ∈ pattern?, ∃ text pattern, bound = .string text ∧ Pattern.read text = .ok pattern) :
    (checkPattern path s pattern?).errors = [] ↔
      ∀ text, pattern? = some (.string text) →
        ∃ pattern, Pattern.read text = .ok pattern ∧ pattern.occursIn s = true := by
  cases pattern? with
  | none => simp [checkPattern]
  | some bound =>
      obtain ⟨text, pattern, rfl, hread⟩ := h bound rfl
      rw [checkPattern, hread]
      dsimp only
      by_cases hoccurs : pattern.occursIn s = true
      · simp [hoccurs, hread]
      · simp [hoccurs, hread]

theorem isAllowed_eq_true_iff {allowed : List Document} {s : String} :
    isAllowed allowed s = true ↔ .string s ∈ allowed := by
  rw [isAllowed, List.any_eq_true]
  constructor
  · rintro ⟨word, hword, hs⟩
    cases word <;> simp_all
  · intro h
    exact ⟨_, h, by simp⟩

theorem errors_checkText_eq_nil_iff {path s : String} {limits : TextLimits} (h : limits.WellTyped) :
    (checkText path s limits).errors = [] ↔ limits.Admits s := by
  have hadmits : limits.Admits s ↔ (∀ allowed ∈ limits.enum, .string s ∈ allowed) ∧
      (checkMinLength path s limits.minLength ++ (checkMaxLength path s limits.maxLength ++
        checkPattern path s limits.pattern)).errors = [] := by
    rw [Outcome.errors_append, Outcome.errors_append, List.append_eq_nil_iff,
      List.append_eq_nil_iff, errors_checkMinLength_eq_nil_iff h.minLength,
      errors_checkMaxLength_eq_nil_iff h.maxLength, errors_checkPattern_eq_nil_iff h.pattern]
    constructor
    · rintro ⟨henum, hblank, hmin, hmax, hpattern⟩
      exact ⟨henum, fun n hn => ⟨hblank n hn, hmin n hn⟩, hmax, hpattern⟩
    · rintro ⟨henum, hmin, hmax, hpattern⟩
      exact ⟨henum, fun n hn => (hmin n hn).1, fun n hn => (hmin n hn).2, hmax, hpattern⟩
  rw [hadmits, checkText]
  cases henum : limits.enum with
  | none => simp
  | some allowed =>
      by_cases hs : Document.string s ∈ allowed
      · simp [isAllowed_eq_true_iff.mpr hs, hs]
      · obtain ⟨text, htext⟩ := enumText_of_texts (h.enum allowed henum)
        have hrefused : ¬ isAllowed allowed s = true := mt isAllowed_eq_true_iff.mp hs
        simp [hrefused, htext, hs]

/-! ## Numbers -/

theorem errors_checkBound_eq_nil_iff {path sign : String} {code : Code}
    {value bound low high : Document} (hlow : low.isNumeric = true) (hhigh : high.isNumeric = true)
    (hfault : (checkBound path code sign value bound (low.isBelow high)).fault = none) :
    (checkBound path code sign value bound (low.isBelow high)).errors = [] ↔
      low.less high = false := by
  rw [isBelow_of_isNumeric hlow hhigh, checkBound.eq_def] at hfault ⊢
  cases hless : low.less high with
  | false => simp
  | true =>
      rw [hless] at hfault
      cases htext : bound.boundText with
      | error f => simp [htext] at hfault
      | ok text => simp

theorem errors_checkNumber_eq_nil_iff {path : String} {value : Document}
    {minimum maximum : Option Document} (hvalue : value.isNumeric = true)
    (hminimum : ∀ bound ∈ minimum, bound.isNumeric = true)
    (hmaximum : ∀ bound ∈ maximum, bound.isNumeric = true)
    (hfault : (checkNumber path value minimum maximum).fault = none) :
    (checkNumber path value minimum maximum).errors = [] ↔
      (∀ bound ∈ minimum, value.less bound = false) ∧
        ∀ bound ∈ maximum, bound.less value = false := by
  rw [checkNumber.eq_def, Outcome.fault_append, Option.or_eq_none_iff] at hfault
  rw [checkNumber.eq_def, Outcome.errors_append, List.append_eq_nil_iff]
  apply and_congr
  · cases minimum with
    | none => simp
    | some min => simpa using errors_checkBound_eq_nil_iff hvalue (hminimum min rfl) hfault.1
  · cases maximum with
    | none => simp
    | some max => simpa using errors_checkBound_eq_nil_iff (hmaximum max rfl) hvalue hfault.2

/-! ## Objects -/

theorem errors_checkRequired_eq_nil_iff {path name : String} {fields : Fields}
    {properties : List (String × Schema)} :
    (checkRequired path fields properties (.string name)).errors = [] ↔ fields.has name = true := by
  rw [checkRequired]
  by_cases hname : fields.has name = true
  · simp [hname]
  · simp [hname, checkRequired.missing]

theorem isSome_property?_iff {properties : List (String × Schema)} {name : String} :
    (Schema.property? properties name).isSome = true ↔ ∃ p ∈ properties, p.1 = name := by
  induction properties with
  | nil => simp [Schema.property?]
  | cons p properties ih =>
      rw [Schema.property?]
      by_cases hname : p.1 = name
      · simp [hname]
      · simp [hname, ih]

theorem errors_checkUnknown_eq_nil_iff {path : String} {fields : Fields}
    {properties : List (String × Schema)} {additional : Bool} {o : Options} :
    (checkUnknown path fields properties additional o).errors = [] ↔
      (o.RefusesUnknown additional → properties ≠ [] →
        ∀ f ∈ fields, ∃ p ∈ properties, p.1 = f.1) := by
  rw [checkUnknown]
  by_cases hopen : (properties.isEmpty || additional && o.allowExtra) = true
  · rw [if_pos hopen]
    refine iff_of_true rfl fun hrefuses hproperties => ?_
    obtain ⟨-, hrefused⟩ := hrefuses
    simp_all
  · have hclosed : properties ≠ [] ∧ (additional = false ∨ o.allowExtra = false) := by
      simpa [Bool.or_eq_false_iff, Decidable.or_iff_not_imp_left] using hopen
    rw [if_neg hopen, Outcome.errors_join, List.flatMap_eq_nil_iff]
    simp only [List.forall_mem_map, List.mem_filter, Option.isNone_iff_eq_none, and_imp]
    cases hstrict : o.strict with
    | false => simp [Options.RefusesUnknown, hstrict]
    | true =>
        have hrefuses : o.RefusesUnknown additional := ⟨hstrict, hclosed.2⟩
        simp only [hrefuses, hclosed.1, ne_eq, not_false_eq_true, true_imp_iff, if_true,
          Outcome.errors_ofError, List.cons_ne_nil, imp_false, ← isSome_property?_iff,
          Option.isSome_iff_ne_none]

/-! ## Schemas -/

/-- A check against a schema that was carried out finds nothing exactly if the value conforms. -/
def Decides (o : Options) (s : Schema) : Prop :=
  ∀ path d, (check o s path d).fault = none → ((check o s path d).errors = [] ↔ Conforms o s d)

section

variable {o : Options} {path : String} {about : About}

theorem errors_kind_eq_nil_iff {k : Kind} {d : Document} :
    (if d.kind? = some k then Outcome.clean else mismatch path d k).errors = [] ↔ d.kind? = some k := by
  by_cases hkind : d.kind? = some k
  · simp [hkind]
  · simp [hkind, mismatch]

theorem errors_required_eq_nil_iff {required : List Document} {properties : List (String × Schema)}
    {fields : Fields} (hrequired : ∀ name ∈ required, ∃ s, name = .string s) :
    (Outcome.join (required.map (checkRequired path fields properties))).errors = [] ↔
      ∀ name ∈ required, ∃ s, name = .string s ∧ fields.has s = true := by
  rw [Outcome.errors_join_map_eq_nil_iff]
  refine forall₂_congr fun name hname => ?_
  obtain ⟨s, rfl⟩ := hrequired name hname
  rw [errors_checkRequired_eq_nil_iff]
  simp

theorem errors_checkProperty_eq_nil_iff {p : String × Schema} {fields : Fields} (h : Decides o p.2)
    (hfault : (checkProperty o path fields p).fault = none) :
    (checkProperty o path fields p).errors = [] ↔
      ∀ d, fields.get? p.1 = some d → Conforms o p.2 d := by
  rw [checkProperty] at hfault ⊢
  cases hget : fields.get? p.1 with
  | none => simp
  | some d =>
      rw [hget] at hfault
      simp [h _ d hfault]

theorem conforms_object_iff {required : List Document} {properties : List (String × Schema)}
    {additional : Bool} {fields : Fields} :
    Conforms o (.object about required properties additional) (.object fields) ↔
      (∀ name ∈ required, ∃ s, name = .string s ∧ fields.has s = true) ∧
      (∀ p ∈ properties, ∀ d, fields.get? p.1 = some d → Conforms o p.2 d) ∧
      (o.RefusesUnknown additional → properties ≠ [] → ∀ f ∈ fields, ∃ p ∈ properties, p.1 = f.1) :=
  ⟨fun h => by cases h; exact ⟨‹_›, ‹_›, ‹_›⟩, fun h => .object h.1 h.2.1 h.2.2⟩

theorem decides_object {required : List Document} {properties : List (String × Schema)}
    {additional : Bool} (hrequired : ∀ name ∈ required, ∃ s, name = .string s)
    (h : ∀ p ∈ properties, Decides o p.2) :
    Decides o (.object about required properties additional) := by
  intro path d hfault
  cases d with
  | object fields =>
      rw [check_object_eq, Outcome.fault_append, Outcome.fault_append, Option.or_eq_none_iff,
        Option.or_eq_none_iff] at hfault
      have hproperties := Outcome.fault_join_map_eq_none_iff.mp hfault.2.1
      rw [check_object_eq, conforms_object_iff, Outcome.errors_append, Outcome.errors_append,
        List.append_eq_nil_iff, List.append_eq_nil_iff, errors_required_eq_nil_iff hrequired,
        Outcome.errors_join_map_eq_nil_iff, errors_checkUnknown_eq_nil_iff]
      refine and_congr_right' (and_congr_left' (forall₂_congr fun p hp => ?_))
      exact errors_checkProperty_eq_nil_iff (h p hp) (hproperties p hp)
  | _ => exact iff_of_false (by simp [check, mismatch]) fun h => by cases h

theorem decides_array {item : Schema} (h : Decides o item) : Decides o (.array about (some item)) := by
  intro path d hfault
  cases d with
  | array items =>
      rw [check, Outcome.fault_join_mapIdx_eq_none_iff] at hfault
      rw [check, Outcome.errors_join_mapIdx_eq_nil_iff]
      constructor
      · intro hclean
        refine .array fun x hx => ?_
        obtain ⟨i, hi, rfl⟩ := List.mem_iff_getElem.mp hx
        exact (h _ _ (hfault i hi)).mp (hclean i hi)
      · intro hconforms i hi
        cases hconforms with
        | array hitems => exact (h _ _ (hfault i hi)).mpr (hitems _ (List.getElem_mem hi))
  | _ => exact iff_of_false (by simp [check, mismatch]) fun h => by cases h

theorem decides_oneOf {alternatives : List Schema} {uri : Option Document}
    (h : ∀ s ∈ alternatives, Decides o s) : Decides o (.oneOf about alternatives uri) := by
  intro path d hfault
  rw [check_oneOf_eq] at hfault ⊢
  have hclean := Choice.exists_clean_of_choose hfault
  rw [Choice.errors_choose_eq_nil_iff hfault]
  constructor
  · rintro ⟨t, ht, hnone, hnil⟩
    obtain ⟨s, hs, rfl⟩ := List.mem_map.mp ht
    exact .oneOf hs ((h s hs path d hnone).mp hnil)
  · intro hconforms
    cases hconforms with
    | @oneOf _ _ _ s _ hs hconforms =>
        have ht := List.mem_map_of_mem (f := fun s => (s, check o s path d)) hs
        -- An alternative whose own check breaks off is not reached; a clean one stands before it.
        by_cases hnone : (check o s path d).fault = none
        · exact ⟨_, ht, hnone, (h s hs path d hnone).mpr hconforms⟩
        · exact hclean ⟨_, ht, hnone⟩

end

/-- A check that was carried out finds nothing exactly if the document conforms, whatever the size of the
bounds is. -/
theorem errors_check_eq_nil_iff_of_fault {s : Schema} (hs : s.Throughout Schema.LimitsTyped) (o : Options)
    (path : String) (d : Document) (hfault : (check o s path d).fault = none) :
    (check o s path d).errors = [] ↔ Conforms o s d := by
  induction hs generalizing path d with
  | string hlimits =>
      cases d with
      | string t =>
          rw [check, errors_checkText_eq_nil_iff hlimits]
          exact ⟨.string, fun h => by cases h; assumption⟩
      | _ => exact iff_of_false (by simp [check, mismatch]) fun h => by cases h
  | number hbounds =>
      rw [check] at hfault ⊢
      by_cases hkind : d.kind? = some .number
      · rw [if_pos hkind] at hfault ⊢
        rw [errors_checkNumber_eq_nil_iff (isNumeric_of_kind? hkind) hbounds.1 hbounds.2 hfault]
        exact ⟨fun h => .number hkind h.1 h.2, fun h => by cases h; exact ⟨‹_›, ‹_›⟩⟩
      · rw [if_neg hkind]
        exact iff_of_false (by simp [mismatch]) fun h => by cases h; contradiction
  | boolean =>
      rw [check, errors_kind_eq_nil_iff]
      exact ⟨.boolean, fun h => by cases h; assumption⟩
  | null =>
      rw [check, errors_kind_eq_nil_iff]
      exact ⟨.null, fun h => by cases h; assumption⟩
  | anyArray =>
      rw [check, errors_kind_eq_nil_iff]
      refine ⟨fun hkind => ?_, fun h => by cases h; rfl⟩
      obtain ⟨items, rfl⟩ := Origins.exists_items_of_kind? hkind
      exact .anyArray
  | object hrequired _ ih => exact decides_object hrequired ih path d hfault
  | array _ _ ih => exact decides_array ih path d hfault
  | oneOf _ _ ih => exact decides_oneOf ih path d hfault

theorem errors_check_eq_nil_iff {s : Schema} (hs : s.WellTyped) (o : Options) (path : String)
    (d : Document) : (check o s path d).errors = [] ↔ Conforms o s d :=
  errors_check_eq_nil_iff_of_fault (limitsTyped_of_wellTyped hs) o path d (fault_check hs o path d)

theorem validateField_eq {s : Schema} (hs : s.WellTyped) (o : Options) (path : String)
    (d : Document) : Validator.validateField o s path d =
      .ok ⟨(check o s path d).errors, (check o s path d).warnings⟩ :=
  Outcome.verdict_of_fault_eq_none (fault_check hs o path d)

/-- Checking one value against a well-typed schema has an answer, which is clean exactly if the value
conforms. -/
theorem validateField_clean_iff_conforms {s : Schema} (hs : s.WellTyped) (o : Options)
    (path : String) (d : Document) :
    ∃ v, Validator.validateField o s path d = .ok v ∧ (v.errors = [] ↔ Conforms o s d) :=
  ⟨_, validateField_eq hs o path d, errors_check_eq_nil_iff hs o path d⟩

/-- A result with a severity and an empty list, checked strictly. -/
theorem validateField_clean_of_result :
    ReviewFormat.document.WellTyped ∧
    ∃ v, Validator.validateField ⟨true, false⟩ ReviewFormat.document ""
      (.object [("diagnostics", .array []), ("severity", .string "ERROR")]) = .ok v ∧
      v.errors = [] := by
  refine ⟨wellTyped_document, ?_⟩
  obtain ⟨v, hv, hclean⟩ := validateField_clean_iff_conforms wellTyped_document ⟨true, false⟩ ""
    (.object [("diagnostics", .array []), ("severity", .string "ERROR")])
  have hseverity : Conforms ⟨true, false⟩ ReviewFormat.severity (.string "ERROR") := by
    refine .string ⟨?_, fun _ h => (by cases h), fun _ h => (by cases h), fun _ h => (by cases h),
      fun _ h => (by cases h)⟩
    rintro allowed ⟨⟩
    simp [ReviewFormat.names, ReviewFormat.severities]
  refine ⟨v, hv, hclean.mpr (.oneOf (s := ReviewFormat.diagnosticResult) (by simp) (.object ?_ ?_ ?_))⟩
  · simp [ReviewFormat.names, Fields.has]
  · simp only [List.forall_mem_cons, List.not_mem_nil, false_imp_iff, implies_true, and_true]
    refine ⟨?_, fun d hd => (by cases hd), ?_⟩
    · rintro d ⟨⟩
      exact .array (by simp)
    · rintro d ⟨⟩
      exact hseverity
  · simp

end Proofs.Conformance

end ReviewDiagnostics
