import ReviewDiagnostics.Proofs.Causes

/-!
# How much there is to repair

A number says how many repairs a value in a place of a certain form can take at most.  What is missing, or of
another kind, counts for all that can be missing or wrong in what may be put in its place; a list that stands
for an object, and a value that stands for a list, count for their parts as well, which go on being looked at.
What is planned for a finding counts for less than what it takes the place of, so that every repair leaves
less to do.
-/

namespace ReviewDiagnostics

open ReviewFormat (diagnostic diagnosticList)

namespace Schema

mutual

/-- How many repairs a place of a form can take that nothing stands in. -/
def fresh : Schema → Nat
  | .object _ _ properties _ => 1 + freshFields properties
  | .array _ _ => 1
  | .null _ | .oneOf _ _ _ => 0
  | .string _ _ | .number _ _ _ | .boolean _ => 2

/-- How many repairs an empty object can take: for a list of diagnostics, and for the declared properties. -/
def freshFields : List (String × Schema) → Nat
  | [] => 1
  | (name, s) :: rest => if name = "diagnostics" then freshFields rest else s.fresh + freshFields rest

end

/-- A sum over the parts of an object that have a form. -/
def fieldSum (field : String → Schema → Nat) : List (String × Schema) → Nat
  | [] => field "diagnostics" diagnosticList
  | (name, s) :: rest =>
    if name = "diagnostics" then fieldSum field rest else field name s + fieldSum field rest

/-- How many repairs a value without parts can take. -/
def leafEffort (s : Schema) (d : Document) : Nat :=
  if d.kind? ≠ s.kind? then 2
  else if (Conformity.check .standard s "" d).errors.isEmpty then 0 else 1

end Schema

namespace Document

/-- How many repairs a value in a place of a form can take, given how many its fields and its items can. -/
def effortOf (d : Document) (field : String → Schema → Nat) (items : Schema → Nat) : Schema → Nat
  | .object _ _ properties _ =>
    match d with
    | .object _ => Schema.fieldSum field properties
    | .array _ => 1 + Schema.freshFields properties + items diagnostic
    | _ => 1 + Schema.freshFields properties
  | .array _ (some item) =>
    match d with
    | .array _ => items item
    | .null => 1
    | d => 1 + d.effortOf field items item
  | s => s.leafEffort d

mutual

/-- How many repairs a value in a place of a form can take. -/
def effort : Document → Schema → Nat
  | .object fields => (object fields).effortOf (effortField fields) fun _ => 0
  | .array items => (array items).effortOf (fun _ s => s.fresh) (effortItems items)
  | d => d.effortOf (fun _ s => s.fresh) fun _ => 0

def effortField : List (String × Document) → String → Schema → Nat
  | [], _, s => s.fresh
  | (other, d) :: rest, name, s => if other = name then d.effort s else effortField rest name s

def effortItems : List Document → Schema → Nat
  | [], _ => 0
  | d :: rest, s => d.effort s + effortItems rest s

end

/-- How many repairs a slot of a form can take. -/
def slotEffort (slot? : Option Document) (s : Schema) : Nat :=
  match slot? with
  | none => s.fresh
  | some d => d.effort s

end Document

namespace Proofs.Effort

open Causes Conformance Conformity Document FormatParts Forms NodeRepairs Origins PartEdits PlannedValues
  Repair RepairRound ReviewFormat Schema Separation Slots WellTyped

variable {level : FixLevel} {s t u : Schema} {d d' c value after : Document}
  {step : Segment} {steps : List Segment} {f : Finding} {fields : Fields} {items : List Document}
  {name : String} {about : About} {required : List Document} {properties : List (String × Schema)}
  {additional : Bool} {field field' : String → Schema → Nat} {i : Nat} {slot? : Option Document} {k : Kind}

/-! ## Sums over the parts of an object -/

theorem freshFields_eq (properties : List (String × Schema)) :
    freshFields properties = fieldSum (fun _ s => s.fresh) properties := by
  induction properties with
  | nil => rfl
  | cons p properties ih => rw [freshFields, fieldSum, ih]

theorem fieldSum_congr (hlist : field' "diagnostics" diagnosticList = field "diagnostics" diagnosticList)
    (hfields : ∀ p ∈ properties, field' p.1 p.2 = field p.1 p.2) :
    fieldSum field' properties = fieldSum field properties := by
  induction properties with
  | nil => exact hlist
  | cons p properties ih =>
      obtain ⟨hp, hproperties⟩ := List.forall_mem_cons.mp hfields
      rw [fieldSum, fieldSum, ih hproperties, hp]

theorem fieldSum_lt_of_list
    (hless : field' "diagnostics" diagnosticList < field "diagnostics" diagnosticList)
    (hothers : ∀ other s, other ≠ "diagnostics" → field' other s = field other s) :
    fieldSum field' properties < fieldSum field properties := by
  induction properties with
  | nil => exact hless
  | cons p properties ih =>
      rw [fieldSum, fieldSum]
      split
      · exact ih
      · rename_i hp
        rw [hothers _ _ hp]
        exact Nat.add_lt_add_left ih _

private theorem fieldSum_lt_of_property (hname : name ≠ "diagnostics")
    (hdistinct : (properties.map (·.1)).Nodup)
    (hproperty : Schema.property? properties name = some u) (hless : field' name u < field name u)
    (hothers : ∀ other s, other ≠ name → field' other s = field other s) :
    fieldSum field' properties < fieldSum field properties := by
  induction properties with
  | nil => cases hproperty
  | cons p properties ih =>
      obtain ⟨hnew, hdistinct⟩ := List.nodup_cons.mp hdistinct
      rw [Schema.property?] at hproperty
      rw [fieldSum, fieldSum]
      split at hproperty
      · rename_i hp
        obtain rfl := Option.some.inj hproperty
        -- No later property has this name, so that all of them count as before.
        have hrest : fieldSum field' properties = fieldSum field properties := by
          refine fieldSum_congr (hothers _ _ (Ne.symm hname)) fun q hq => hothers _ _ fun hsame => ?_
          exact hnew (List.mem_map.mpr ⟨q, hq, hsame.trans hp.symm⟩)
        rw [if_neg (hp ▸ hname), if_neg (hp ▸ hname), hrest]
        exact Nat.add_lt_add_right (hp ▸ hless) _
      · rename_i hp
        split
        · exact ih hdistinct hproperty
        · rw [hothers _ _ hp]
          exact Nat.add_lt_add_left (ih hdistinct hproperty) _

theorem fieldSum_lt (hdistinct : (properties.map (·.1)).Nodup)
    (hpart : (Schema.object about required properties additional).part? (.name name) = some u)
    (hless : field' name u < field name u)
    (hothers : ∀ other s, other ≠ name → field' other s = field other s) :
    fieldSum field' properties < fieldSum field properties := by
  by_cases hlist : name = "diagnostics"
  · subst hlist
    obtain rfl : diagnosticList = u := Option.some.inj hpart
    exact fieldSum_lt_of_list hless hothers
  · rw [part?_property hlist] at hpart
    exact fieldSum_lt_of_property hlist hdistinct hpart hless hothers

/-! ## Parts -/

theorem effortField_eq (fields : Fields) (name : String) (s : Schema) :
    effortField fields name s = slotEffort (fields.get? name) s := by
  induction fields with
  | nil => rfl
  | cons p fields ih =>
      obtain ⟨other, c⟩ := p
      rw [effortField, Fields.get?]
      split
      · rfl
      · exact ih

theorem effort_put (hdistinct : (properties.map (·.1)).Nodup)
    (hpart : (Schema.object about required properties additional).part? (.name name) = some u)
    (hless : value.effort u < slotEffort (fields.get? name) u) :
    (Document.object (fields.put name value)).effort (.object about required properties additional) <
      (Document.object fields).effort (.object about required properties additional) := by
  refine fieldSum_lt hdistinct hpart ?_ fun other s hother => ?_
  · rw [effortField_eq, effortField_eq, Fields.get?_put_self]
    exact hless
  · rw [effortField_eq, effortField_eq, Fields.get?_put_of_ne value hother]

theorem effortItems_set (hc : items[i]? = some c) (hless : value.effort s < c.effort s) :
    effortItems (items.set i value) s < effortItems items s := by
  induction items generalizing i with
  | nil => cases hc
  | cons x items ih =>
      cases i with
      | zero =>
          obtain rfl := Option.some.inj hc
          exact Nat.add_lt_add_right hless _
      | succ i => exact Nat.add_lt_add_left (ih hc) _

theorem effort_set (hc : items[i]? = some c) (hpart : s.part? (.index i) = some u)
    (hless : value.effort u < c.effort u) :
    (Document.array (items.set i value)).effort s < (Document.array items).effort s := by
  cases s with
  | object about required properties additional =>
      obtain rfl := Option.some.inj hpart
      exact Nat.add_lt_add_left (effortItems_set hc hless) _
  | array about item? =>
      obtain rfl : item? = some u := hpart
      exact effortItems_set hc hless
  | _ => cases hpart

theorem effort_putChild (hs : s.Throughout (· ∈ components)) (hreaches : Reaches d step)
    (hpart : s.part? step = some u) (hless : value.effort u < slotEffort (d.child? step) u) :
    (d.putChild step value).effort s < d.effort s := by
  cases d with
  | object fields =>
      cases step with
      | index n => simp [Reaches, child?, lacks] at hreaches
      | name name =>
          cases s with
          | object about required properties additional =>
              have hdistinct := (of_throughout (single_of_throughout_parts (throughout_parts hs))).2
              exact effort_put hdistinct hpart hless
          | _ => cases hpart
  | array items =>
      -- A list lacks no parts, so that the part is one of its items.
      obtain ⟨c, hc⟩ : ∃ c, (Document.array items).child? step = some c := by
        refine Option.ne_none_iff_exists'.mp fun hnone => ?_
        rcases hreaches with hchild | hlacks
        · exact hchild hnone
        · cases step <;> cases hlacks
      rw [hc] at hless
      obtain ⟨i, rfl, hi⟩ := exists_index_of_child? hc
      exact effort_set hi hpart hless
  | _ => simp [Reaches, child?, lacks] at hreaches

/-! ## Writing at a slot -/

theorem throughout_part (hs : s.Throughout (· ∈ components)) (hpart : s.part? step = some u) :
    u.Throughout (· ∈ components) := by
  cases s with
  | object about required properties additional =>
      cases step with
      | index n => exact Option.some.inj hpart ▸ throughout_diagnostic
      | name name =>
          rw [part?] at hpart
          split at hpart
          · rw [← Option.some.inj hpart]
            exact .array (by simp [components]) throughout_diagnostic
          · exact throughout_property hs (mem_of_property? hpart)
  | array about item? =>
      cases step with
      | name name => cases hpart
      | index n =>
          obtain rfl : item? = some u := hpart
          exact throughout_item hs
  | _ => cases hpart

theorem throughout_form? (hs : s.Throughout (· ∈ components)) (hform : s.form? steps = some t) :
    t.Throughout (· ∈ components) := by
  induction steps generalizing s with
  | nil => exact Option.some.inj hform ▸ hs
  | cons step steps ih =>
      obtain ⟨u, hpart, hrest⟩ := exists_part?_of_form? hform
      exact ih (throughout_part hs hpart) hrest

/-- Writing a value that takes fewer repairs than what it takes the place of leaves less to repair. -/
theorem effort_set? (hs : s.Throughout (· ∈ components)) (hsteps : steps ≠ [])
    (hslot : d.slot? steps = some slot?) (hform : s.form? steps = some t)
    (hless : value.effort t < slotEffort slot? t) (hset : d.set? steps value = some d') :
    d'.effort s < d.effort s := by
  induction steps generalizing d d' s with
  | nil => exact (hsteps rfl).elim
  | cons step rest ih =>
      obtain ⟨u, hpart, hrest⟩ := exists_part?_of_form? hform
      have hreaches := reaches_of_slot? hslot
      cases rest with
      | nil =>
          obtain rfl := Option.some.inj hrest
          rw [set?_singleton hreaches] at hset
          rw [← Option.some.inj hset]
          rw [← child?_of_slot? hslot] at hless
          exact effort_putChild hs hreaches hpart hless
      | cons other rest =>
          obtain ⟨c, hchild, hslot⟩ := exists_child?_of_slot? hslot
          obtain ⟨c', hinner, -⟩ := exists_replaced (List.cons_ne_nil _ _) hslot value
          rw [set?_cons hchild (ne_null_of_slot? hslot) hinner] at hset
          rw [← Option.some.inj hset]
          refine effort_putChild hs hreaches hpart ?_
          rw [hchild]
          exact ih (throughout_part hs hpart) (List.cons_ne_nil _ _) hslot hrest hinner

/-! ## Values without parts -/

theorem effort_leaf (hobject : t.kind? ≠ some .object) (harray : t.kind? ≠ some .array) (c : Document) :
    c.effort t = t.leafEffort c := by
  cases t with
  | object => exact (hobject rfl).elim
  | array => exact (harray rfl).elim
  | _ => cases c <;> rfl

theorem leafEffort_of_kind?_ne (h : c.kind? ≠ t.kind?) : t.leafEffort c = 2 := if_pos h

theorem leafEffort_le_one (h : c.kind? = t.kind?) : t.leafEffort c ≤ 1 := by
  rw [leafEffort, if_neg (by simp [h])]
  split <;> omega

private theorem kind?_of_conforms (ht : t ∈ components) (h : Conforms .standard t c) : c.kind? = t.kind? := by
  obtain ⟨k, hkind⟩ := Option.ne_none_iff_exists'.mp (kind?_inner t ht)
  refine Decidable.byContradiction fun hother => ?_
  have herrors := (errors_check_eq_nil_iff (wellTyped_inner t ht) .standard "" c).mpr h
  rw [check_of_kind?_ne hkind (hkind ▸ hother)] at herrors
  cases herrors

theorem leafEffort_eq_zero_iff (ht : t ∈ components) : t.leafEffort c = 0 ↔ Conforms .standard t c := by
  rw [← errors_check_eq_nil_iff (wellTyped_inner t ht) .standard "" c, leafEffort]
  constructor
  · intro h
    split at h
    · cases h
    · split at h
      · rename_i hclean
        exact List.isEmpty_iff.mp hclean
      · cases h
  · intro h
    have hconforms := (errors_check_eq_nil_iff (wellTyped_inner t ht) .standard "" c).mp h
    rw [if_neg (by simp [kind?_of_conforms ht hconforms]), h]
    rfl

/-! ## What is planned takes fewer repairs -/

private theorem effort_empty {about : About} {required : List Document} {properties : List (String × Schema)}
    {additional : Bool} :
    (Document.object []).effort (.object about required properties additional) = freshFields properties :=
  (freshFields_eq properties).symm

theorem effort_lt_of_object (hkind : t.kind? = some .object) (hother : c.kind? ≠ some .object) :
    (Document.object []).effort t < c.effort t := by
  cases t with
  | object about required properties additional =>
      rw [effort_empty]
      cases c with
      | object => exact (hother rfl).elim
      | array items =>
          -- The items of a list go on being looked at while it stands there, and are gone afterwards.
          show freshFields properties < 1 + freshFields properties + effortItems items diagnostic
          omega
      | _ =>
          show freshFields properties < 1 + freshFields properties
          omega
  | _ => cases hkind

private theorem effort_lt_of_list (ht : t ∈ components) (hkind : t.kind? = some .array)
    (h : Coercion.coerce (some .array) c = some after) : after.effort t < c.effort t := by
  obtain ⟨item, hitem⟩ := Option.isSome_iff_exists.mp (isSome_item? t ht hkind)
  cases t with
  | array about item? =>
      obtain rfl : item? = some item := hitem
      -- In a list of its own the value counts as it did alone, but for its kind.
      have hlist : (Document.array [c]).effort (.array about (some item)) = c.effort item :=
        Nat.add_zero _
      cases c with
      | null | array => cases h
      | _ =>
          rw [← Option.some.inj h, hlist]
          exact Nat.lt_one_add_iff.mpr (Nat.le_refl _)
  | _ => cases hkind

theorem effort_lt_of_coerce (ht : t ∈ components) (hkind : t.kind? = some k) (hother : c.kind? ≠ some k)
    (h : Coercion.coerce (some k) c = some after) : after.effort t < c.effort t := by
  by_cases hobject : k = .object
  · subst hobject
    obtain rfl := eq_of_coerce_object h
    exact effort_lt_of_object hkind hother
  · by_cases harray : k = .array
    · subst harray
      exact effort_lt_of_list ht hkind h
    · have hleaf := effort_leaf (t := t) (by simp [hkind, hobject]) (by simp [hkind, harray])
      rw [hleaf c, hleaf after, leafEffort_of_kind?_ne (c := c) (hkind ▸ hother)]
      exact Nat.lt_succ_of_le (leafEffort_le_one ((kind?_of_coerce h).trans hkind.symm))

theorem effort_lt_of_conforms (ht : t ∈ components) (hobject : t.kind? ≠ some .object)
    (harray : t.kind? ≠ some .array) (hbefore : ¬ Conforms .standard t c)
    (hafter : Conforms .standard t after) : after.effort t < c.effort t := by
  rw [effort_leaf hobject harray, effort_leaf hobject harray, (leafEffort_eq_zero_iff ht).mpr hafter]
  exact Nat.pos_of_ne_zero fun hzero => hbefore ((leafEffort_eq_zero_iff ht).mp hzero)

theorem effort_filling : ∀ u ∈ components, ∀ p ∈ u.properties, ∀ q ∈ fillings, q.1 = p.1 →
    q.2.effort p.2 < p.2.fresh := by decide +kernel

theorem effort_range : ∀ u ∈ components, ∀ p ∈ u.properties, p.1 = "range" →
    (Document.object []).effort p.2 < p.2.fresh := by decide +kernel

private theorem missingText_of_range : ∀ u ∈ components, ∀ p ∈ u.properties, p.1 = "range" →
    missingText (some p.2) = "object" := by decide +kernel

theorem effort_lt_of_missing {base : List Segment} {name : String} (hu : u ∈ components)
    (hname : .string name ∈ u.required) (ht : Schema.property? u.properties name = some t)
    (hstart : name = "start" → parent? (base ++ [.name name]) = some "range")
    (h : missingDefault (base ++ [.name name]) (.string (missingText (some t))) = .ok (some after)) :
    after.effort t < t.fresh := by
  have hp := PartEdits.mem_of_property? ht
  rcases exists_filling_of_required u hu name hname with rfl | ⟨q, hq, rfl⟩
  · rw [missingText_of_range u hu _ hp rfl, missingDefault_of_ne_start (by decide)] at h
    obtain rfl : Document.object [] = after := Option.some.inj (Except.ok.inj h)
    exact effort_range u hu _ hp rfl
  · have hfilled := @missingDefault_of_filling (.string (missingText (some t))) base q.1 q.2 hq hstart
      fun htext => by
        have htextual := missingText_of_text u hu (requires_of_mem (htext ▸ hname))
        rw [← htext, ht] at htextual
        rw [htextual]
    obtain rfl := Option.some.inj (Except.ok.inj (hfilled.symm.trans h))
    exact effort_filling u hu _ hp q hq rfl

theorem conforms_nonEmpty_iff {about : About} {text : String}
    (ht : .string about { TextLimits.none with minLength := some (.int 1) } ∈ components) :
    Conforms .standard (.string about { TextLimits.none with minLength := some (.int 1) }) (.string text) ↔
      Text.allBlank text = false := by
  rw [← errors_check_eq_nil_iff (wellTyped_inner _ ht) .standard "", check, errors_checkText_nonEmpty]
  cases Text.allBlank text <;> simp

theorem not_conforms_ordinal (hless : c.less (.int 1) = true) : ¬ Conforms .standard ordinal c := by
  intro h
  cases h with
  | number _ hminimum _ =>
      rw [hminimum _ rfl] at hless
      contradiction

theorem conforms_one : Conforms .standard ordinal (.int 1) :=
  (errors_check_eq_nil_iff (wellTyped_inner ordinal (by simp [components])) .standard "" _).mp rfl

theorem conforms_normalize (c : Document) :
    Conforms .standard severity (.string (Severity.normalize c)) := by
  have hproperty : ("severity", severity) ∈ diagnostic.properties := by simp [diagnostic, properties]
  exact conforms_severity_normalize (p := ("severity", severity)) List.mem_cons_self hproperty rfl c

private theorem content?_of_missing {code : Code} {path expected : String} (hcode : code ∈
    [.requiredPropertyMissing, .missingDiagnosticMessage, .missingDiagnosticLocation]) :
    (Finding.expecting path code .null expected).content? = none := by
  simp only [List.mem_cons, List.not_mem_nil, or_false] at hcode
  rcases hcode with rfl | rfl | rfl <;> rfl

/-- Whatever is planned for a finding takes fewer repairs than what it takes the place of. -/
theorem effort_lt_of_planned (ht : t ∈ components) (hf : f.Against steps t)
    (hplan : plan level f steps f.value = .ok (some after)) : after.effort t < slotEffort f.content? t := by
  cases hf with
  | kind hkind hother => exact effort_lt_of_coerce ht hkind hother (coerce_of_plan hplan)
  | blank hblank =>
      obtain ⟨text, rfl, hfilled⟩ := exists_text_of_plan rfl hplan
      refine effort_lt_of_conforms ht (by simp [Schema.kind?]) (by simp [Schema.kind?])
        (fun hconforms => ?_) ((conforms_nonEmpty_iff ht).mpr hfilled)
      rw [(conforms_nonEmpty_iff ht).mp hconforms] at hblank
      contradiction
  | low hcause hkind hless =>
      obtain rfl := eq_one_of_plan hcause hkind hless hplan
      have hless := effort_lt_of_conforms ht (by simp [ordinal, Schema.kind?])
        (by simp [ordinal, Schema.kind?]) (not_conforms_ordinal hless) conforms_one
      rcases hcause with rfl | rfl <;> exact hless
  | severity hother =>
      obtain rfl := eq_normalize_of_plan hplan rfl
      refine effort_lt_of_conforms ht (by simp [severity, Schema.kind?]) (by simp [severity, Schema.kind?])
        (fun hconforms => ?_) (conforms_normalize _)
      exact Bool.false_ne_true (hother.symm.trans (Agreement.isSeverity_of_conforms hconforms))
  | missing hcause hsteps hu hname hproperty hstart =>
      subst hsteps
      rw [content?_of_missing hcause]
      exact effort_lt_of_missing hu hname hproperty hstart (missingDefault_of_plan hplan hcause)

end Proofs.Effort

end ReviewDiagnostics
