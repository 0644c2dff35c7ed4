import ReviewDiagnostics.Proofs.NodeRepairs

/-!
# What repairs put in

What is planned for a finding has the form that is declared for its place.  That is so for whatever property
of whatever schema inside the review format the finding is about, and for both looks.  Two plans are guesses:
a value of a wrong kind is turned into one of the kind that is expected, and a range that is missing becomes
an empty object, which has no start.
-/

namespace ReviewDiagnostics

/-- A finding whose repair is only known to be of the kind that is expected. -/
def Finding.Guessed (f : Finding) : Prop :=
  f.code = .typeMismatch ∨
    f.code = .requiredPropertyMissing ∧ ∃ steps, Path.parse f.path = .ok (steps ++ [.name "range"])

/-- A value that is written at a path suits a form of the whole document and, where it is written for a list
of diagnostics, the second look. -/
structure Suits (o : Options) (s : Schema) (w : List Segment × Document) : Prop where
  takes : s.Takes o w.1 w.2
  fits : w.1.getLast? = some (.name "diagnostics") →
    Proofs.SecondLook.NodeFits (.object [("diagnostics", w.2)])

namespace Proofs.PlannedValues

open Conformance Conformity FormatParts NodeRepairs Origins PartEdits PathText Reconciliation Repair
  RepairRound ReviewFormat SecondLook Separation Slots WellTyped

variable {o : Options} {level : FixLevel} {s t u : Schema} {d c : Document} {base steps rest : List Segment}
  {f : Finding} {fields : Fields} {name : String} {w : List Segment × Document} {value : Document} {k : Kind}

/-! ## Values for properties -/

/-- The values for missing properties by name alone.  Only a range has to have a start, and of the other
properties that have no value of their own only texts have to be there. -/
def fillings : List (String × Document) :=
  propertyDefaults ++ [("start", .object [("line", .int 1)]), ("text", .string "")]

/-- Everything that is put in by name passes the check of every property that is declared with that name. -/
theorem errors_filling (o : Options) : ∀ u ∈ components, ∀ p ∈ u.properties, ∀ q ∈ fillings, q.1 = p.1 →
    (check o p.2 "" q.2).errors.isEmpty = true := by
  obtain ⟨strict, allowExtra⟩ := o
  revert strict allowExtra
  decide +kernel

theorem errors_severity (o : Options) : ∀ u ∈ components, ∀ p ∈ u.properties, p.1 = "severity" →
    ∀ word ∈ severities, (check o p.2 "" (.string word)).errors.isEmpty = true := by
  obtain ⟨strict, allowExtra⟩ := o
  revert strict allowExtra
  decide +kernel

theorem exists_filling_of_required : ∀ u ∈ components, ∀ name, .string name ∈ u.required →
    name = "range" ∨ ∃ q ∈ fillings, q.1 = name := by
  simp only [components, List.forall_mem_cons, List.not_mem_nil, false_imp_iff, implies_true, and_true]
  simp [Schema.required, diagnostic, diagnosticArray, diagnosticResult, location, range, position, ordinal,
    severity, source, code, link, text, nonEmpty, suggestion, relatedLocation, names, fillings,
    propertyDefaults]

theorem isSome_of_required : ∀ u ∈ components, ∀ q ∈ fillings, Schema.requires u.required q.1 = true →
    (Schema.property? u.properties q.1).isSome = true := by decide +kernel

theorem eq_of_list_filling : ∀ q ∈ fillings, q.1 = "diagnostics" → q.2 = .array [] := by
  simp [fillings, propertyDefaults]

theorem nodeFits_of_empty : NodeFits (.object [("diagnostics", .array [])]) := by
  refine .result rfl (by simp) fun d hd => ?_
  cases hd

theorem requires_of_mem {required : List Document} (h : .string name ∈ required) :
    Schema.requires required name = true :=
  List.any_eq_true.mpr ⟨_, h, beq_self_eq_true name⟩

theorem conforms_of_isEmpty (hu : u ∈ components) {p : String × Schema} (hp : p ∈ u.properties)
    (h : (check o p.2 "" value).errors.isEmpty = true) : Conforms o p.2 value :=
  (errors_check_eq_nil_iff (wellTyped_property hu hp) o "" value).mp (List.isEmpty_iff.mp h)

theorem conforms_filling (hu : u ∈ components) {p : String × Schema} (hp : p ∈ u.properties)
    (h : (p.1, value) ∈ fillings) : Conforms o p.2 value :=
  conforms_of_isEmpty hu hp (errors_filling o u hu p hp _ h rfl)

theorem missingText_of_text : ∀ u ∈ components, Schema.requires u.required "text" = true →
    missingText (Schema.property? u.properties "text") = "string" := by decide +kernel

/-! ## Plans for missing properties -/

theorem parent?_append (base : List Segment) (name child : String) :
    parent? (base ++ [.name name] ++ [.name child]) = some name := by
  simp only [parent?, property?_append, List.filterMap_append]
  simp

theorem missingDefault_of_filling (h : (name, value) ∈ fillings)
    (hstart : name = "start" → parent? (base ++ [.name name]) = some "range")
    (htext : name = "text" → d = .string "string") :
    missingDefault (base ++ [.name name]) d = .ok (some value) := by
  by_cases hname : name = "start"
  · subst hname
    obtain rfl : value = .object [("line", .int 1)] := by simpa [fillings, propertyDefaults] using h
    simp only [missingDefault, property?_append, hstart rfl]
    rfl
  · rw [missingDefault_of_ne_start hname]
    by_cases htextname : name = "text"
    · subst htextname
      obtain rfl : value = .string "" := by simpa [fillings, propertyDefaults] using h
      rw [htext rfl]
      rfl
    · have hdefault : ∀ q ∈ fillings, q.1 ≠ "start" → q.1 ≠ "text" →
          propertyDefaults.lookup q.1 = some q.2 := by
        simp [fillings, propertyDefaults, List.lookup_cons]
      rw [hdefault _ h hname htextname]

/-! ## Places that the check comes to -/

theorem takes_of_leadsTo (hs : s.Throughout (· ∈ components)) (h : LeadsTo s d steps t c)
    (ht : t.Takes o rest value) : s.Takes o (steps ++ rest) value := by
  induction h with
  | refl => exact ht
  | property hp _ _ ih =>
      have hdistinct := (of_throughout (single_of_throughout_parts (throughout_parts hs))).2
      exact (takes_property_iff (property?_of_mem hdistinct hp)).mpr
        (ih (throughout_property hs hp) ht)
  | item _ _ ih => exact ih (throughout_item hs) ht
  | alternative => exact (kind?_inner _ (of_throughout hs) rfl).elim

theorem takes_property (hu : Schema.property? t.properties name = some u) (hvalue : Conforms o u value) :
    t.Takes o [.name name] value := by
  cases t with
  | object about required properties additional =>
      exact (takes_property_iff (show Schema.property? properties name = some u from hu)).mpr
        (takes_nil.mpr hvalue)
  | _ => cases hu

/-! ## Values of another kind -/

theorem coerce_of_plan {path : String}
    (h : plan level (.expecting path .typeMismatch c k.word) steps c = .ok (some value)) :
    Coercion.coerce (some k) c = some value := by
  have hreaches := reaches_of_plan h
  rw [plan, if_neg hreaches] at h
  cases k with
  | null => cases c <;> cases h
  | _ => exact Except.ok.inj h

private theorem kind?_of_parseNumber? {text : String} (h : Text.parseNumber? text = some value) :
    value.kind? = some .number := by
  rw [Text.parseNumber?] at h
  dsimp only at h
  split at h
  · rw [← Option.some.inj h]
    rfl
  · split at h
    · split at h <;> rw [← Option.some.inj h] <;> rfl
    · cases h

theorem kind?_of_coerce (h : Coercion.coerce (some k) c = some value) : value.kind? = some k := by
  cases k with
  | null => cases c <;> cases h
  | number =>
      cases c with
      | bool => exact Option.some.inj h ▸ rfl
      | string text => exact kind?_of_parseNumber? h
      | _ => cases h
  | string | boolean | array | object => cases c <;> first | exact Option.some.inj h ▸ rfl | cases h

theorem eq_of_coerce_object (h : Coercion.coerce (some .object) c = some value) : value = .object [] := by
  cases c with
  | object fields => cases h
  | _ => exact (Option.some.inj h).symm

/-! ## Findings of the check -/

theorem plan_of_repair (hplain : ∀ step ∈ steps, step.Plain) (hpath : f.path = Path.ofSegments steps)
    (hrepair : f.repair? level = some w) :
    ∃ value, w = (steps, value) ∧ plan level f steps f.value = .ok (some value) := by
  obtain ⟨hread, hplan⟩ := repair?_eq_some_iff.mp hrepair
  rw [hpath] at hread
  have hsteps := eq_of_parse hplain hread
  exact ⟨w.2, by rw [← hsteps], hsteps ▸ hplan⟩

private theorem textDefault_not_blank (steps : List Segment) : Text.allBlank
    (((property? steps).bind fun s => textDefaults.lookup s).getD textFallback) = false := by
  have hdefaults : ∀ q ∈ textDefaults, Text.allBlank q.2 = false := by decide
  cases hfound : (property? steps).bind fun s => textDefaults.lookup s with
  | none => decide
  | some found =>
      obtain ⟨name, -, hlookup⟩ := Option.bind_eq_some_iff.mp hfound
      obtain ⟨before, after, hentries, -⟩ := List.lookup_eq_some_iff.mp hlookup
      exact hdefaults (name, found) (by simp [hentries])

theorem exists_text_of_plan (hcode : f.code = .emptyString) (h : plan level f steps c = .ok (some value)) :
    ∃ text, value = .string text ∧ Text.allBlank text = false := by
  have hreaches := reaches_of_plan h
  rw [plan, if_neg hreaches, hcode] at h
  exact ⟨_, (Option.some.inj (Except.ok.inj h)).symm, textDefault_not_blank steps⟩

private theorem lt_asymm {x y : Quantity} (h : x.lt y = true) : y.lt x = false := by
  cases x <;> cases y <;> first | rfl | cases h | skip
  simp only [Quantity.lt, decide_eq_true_eq, decide_eq_false_iff_not] at h ⊢
  exact Rat.not_lt.mpr (Rat.le_of_lt h)

theorem less_asymm {a b : Document} (h : a.less b = true) : b.less a = false := by
  rw [Document.less] at h ⊢
  generalize a.quantity? = x at h ⊢
  generalize b.quantity? = y at h ⊢
  cases x with
  | none => cases h
  | some x =>
      cases y with
      | none => cases h
      | some y => exact lt_asymm h

private theorem isNumber_of_kind? (h : d.kind? = some .number) : d.isNumber = true := by
  cases d with
  | int | float => rfl
  | _ => cases h

private theorem atLeast_one (hkind : d.kind? = some .number) (hless : d.less (.int 1) = true) :
    atLeast (.int 1) d = .ok (.int 1) := by
  rw [atLeast, isNumber_of_kind? hkind, less_asymm hless]
  rfl

theorem eq_one_of_plan {path text : String} {code : Code}
    (hcode : code = .minValueViolation ∨ code = .invalidPosition) (hkind : c.kind? = some .number)
    (hless : c.less (.int 1) = true)
    (h : plan level (.of path code c (.string text) (.int 1)) steps c = .ok (some value)) :
    value = .int 1 := by
  rcases hcode with rfl | rfl
  · have hreaches := reaches_of_plan h
    rw [plan, if_neg hreaches] at h
    have hplanned : some <$> atLeast (.int 1) c = .ok (some value) := h
    rw [atLeast_one hkind hless] at hplanned
    exact (Option.some.inj (Except.ok.inj hplanned)).symm
  · exact positionValue_of_number hkind (positionValue_of_plan h rfl)

section

variable (hs : s ∈ [diagnostic, diagnosticArray, diagnosticResult]) (hleads : LeadsTo s d steps t c)

include hs hleads

theorem mem_inner_of_leadsTo : t ∈ components :=
  of_throughout (throughout_of_leadsTo (throughout_form hs) hleads)

theorem suits_here (hkind : t.kind? ≠ some .array) (hvalue : Conforms o t value) :
    Suits o s (steps, value) where
  takes := by
    have htakes := takes_of_leadsTo (throughout_form hs) hleads (takes_nil.mpr hvalue)
    rwa [List.append_nil] at htakes
  fits := by
    intro hlast
    cases endsAt_of_leadsTo (throughout_form hs) kind?_inner hleads with
    | whole => cases hlast
    | property hu hp =>
        rw [List.getLast?_concat] at hlast
        exact (hkind (kind?_list _ hu _ hp (Segment.name.inj (Option.some.inj hlast)))).elim
    | item =>
        rw [List.getLast?_concat] at hlast
        cases Option.some.inj hlast

theorem parent?_of_start (hstart : Schema.requires t.required "start" = true) :
    parent? (steps ++ [.name "start"]) = some "range" := by
  obtain ⟨hproperty, hitem, hform⟩ := start_of_range
  cases endsAt_of_leadsTo (throughout_form hs) kind?_inner hleads with
  | whole =>
      rw [hform _ hs] at hstart
      contradiction
  | property hu hp =>
      rw [hproperty _ hu _ hp hstart]
      exact parent?_append _ "range" "start"
  | item hu ht =>
      rw [hitem _ hu _ ht] at hstart
      contradiction

theorem suits_of_missing (hplain : ∀ step ∈ steps ++ [.name name], step.Plain)
    (hname : .string name ∈ t.required) (hrange : name ≠ "range")
    (hrepair : (Finding.expecting (Path.ofSegments (steps ++ [.name name])) .requiredPropertyMissing .null
      (missingText (Schema.property? t.properties name))).repair? level = some w) : Suits o s w := by
  obtain ⟨value, rfl, hplan⟩ := plan_of_repair hplain rfl hrepair
  have ht := mem_inner_of_leadsTo hs hleads
  obtain ⟨q, hq, rfl⟩ := (exists_filling_of_required _ ht _ hname).resolve_left hrange
  have hrequires := requires_of_mem hname
  have hfilled : missingDefault (steps ++ [.name q.1])
      (.string (missingText (Schema.property? t.properties q.1))) = .ok (some q.2) := by
    refine missingDefault_of_filling hq (fun hstart => ?_) fun htext => ?_
    · rw [hstart] at hrequires ⊢
      exact parent?_of_start hs hleads hrequires
    · rw [htext] at hrequires ⊢
      rw [missingText_of_text _ ht hrequires]
  obtain rfl : q.2 = value :=
    Option.some.inj (Except.ok.inj (hfilled.symm.trans (missingDefault_of_plan hplan (by simp))))
  obtain ⟨u, hu⟩ := Option.isSome_iff_exists.mp (isSome_of_required _ ht _ hq hrequires)
  refine ⟨takes_of_leadsTo (throughout_form hs) hleads
    (takes_property hu (conforms_filling ht (mem_of_property? hu) hq)), fun hlast => ?_⟩
  rw [List.getLast?_concat] at hlast
  rw [eq_of_list_filling q hq (Segment.name.inj (Option.some.inj hlast))]
  exact nodeFits_of_empty

end

theorem suits_of_blank {about : About} {s' : String}
    (hs : s ∈ [diagnostic, diagnosticArray, diagnosticResult])
    (hleads : LeadsTo s d steps (.string about { TextLimits.none with minLength := some (.int 1) }) c)
    (hplain : ∀ step ∈ steps, step.Plain)
    (hrepair : (Finding.expecting (Path.ofSegments steps) .emptyString (.string s')
      "non-empty string").repair? level = some w) : Suits o s w := by
  obtain ⟨value, rfl, hplan⟩ := plan_of_repair hplain rfl hrepair
  obtain ⟨text, rfl, hblank⟩ := exists_text_of_plan rfl hplan
  refine suits_here hs hleads (by simp [Schema.kind?]) ?_
  refine (errors_check_eq_nil_iff (wellTyped_inner _ (mem_inner_of_leadsTo hs hleads)) o "" _).mp ?_
  rw [check, errors_checkText_nonEmpty, if_neg (by simp [hblank])]

theorem suits_of_low {about : About} {s' : String}
    (hs : s ∈ [diagnostic, diagnosticArray, diagnosticResult])
    (hleads : LeadsTo s d steps (.number about (some (.int 1)) none) c)
    (hplain : ∀ step ∈ steps, step.Plain) (hkind : c.kind? = some .number)
    (hless : c.less (.int 1) = true)
    (hrepair : (Finding.of (Path.ofSegments steps) .minValueViolation c (.string s') (.int 1)).repair?
      level = some w) : Suits o s w := by
  obtain ⟨value, rfl, hplan⟩ := plan_of_repair hplain rfl hrepair
  obtain rfl := eq_one_of_plan (.inl rfl) hkind hless hplan
  refine suits_here hs hleads (by simp [Schema.kind?]) ?_
  exact (errors_check_eq_nil_iff (wellTyped_inner _ (mem_inner_of_leadsTo hs hleads)) o "" _).mp rfl

/-- Whatever the check finds, what is planned for it suits its place, if it is not a guess. -/
theorem suits_of_mem_check (hs : s ∈ [diagnostic, diagnosticArray, diagnosticResult])
    (hf : f ∈ (check o s "" d).errors) (hrepair : f.repair? level = some w) (hsure : ¬ f.Guessed) :
    Suits o s w := by
  have hinner := throughout_form hs
  have hnames := plainNames_of_throughout_inner hinner
  obtain ⟨steps, t, c, hleads, hreported⟩ := @exists_reported o s d [] f hnames hf
  rw [List.nil_append] at hreported
  have hplain := plain_of_leadsTo hnames hleads
  have hsingle := of_throughout (throughout_of_leadsTo
    (single_of_throughout_parts (throughout_parts hinner)) hleads)
  cases detected_of_reported hsingle hreported with
  | kind => exact (hsure (.inl rfl)).elim
  | blank htext =>
      subst htext
      exact suits_of_blank hs hleads hplain hrepair
  | low hnumber hc hless =>
      subst hnumber
      exact suits_of_low hs hleads hplain hc hless hrepair
  | missing hobject hc hname =>
      subst hobject hc
      obtain ⟨name, heq, hplainName⟩ := (of_throughout (throughout_of_leadsTo hnames hleads)).1 _ hname
      obtain rfl := Document.string.inj heq
      rw [← ofSegments_append] at hrepair hsure
      refine suits_of_missing hs hleads (plain_field hplain hplainName) hname ?_ hrepair
      rintro rfl
      obtain ⟨value, rfl, -⟩ := plan_of_repair (plain_field hplain hplainName) rfl hrepair
      exact hsure (.inr ⟨rfl, steps, (repair?_eq_some_iff.mp hrepair).1⟩)
  | lasting hcode => exact (code_of_plan (repair?_eq_some_iff.mp hrepair).2 hcode).elim

/-! ## Places that the second look comes to -/

/-- Everything that the check finds in a value can be repaired, and nothing of it is found on the way to a
path. -/
def Passable (o : Options) (s : Schema) (base : List Segment) (d : Document) (steps : List Segment) :
    Prop :=
  ∀ g ∈ (check o s (Path.ofSegments base) d).errors, ¬ g.Idle ∧
    ∀ before, before <+: steps → g.path ≠ Path.ofSegments (base ++ before)

theorem passable_part {step : Segment} (h : Passable o s base d (step :: steps))
    (hinside : ∀ g ∈ (check o t (Path.ofSegments (base ++ [step])) c).errors,
      g ∈ (check o s (Path.ofSegments base) d).errors) : Passable o t (base ++ [step]) c steps := by
  intro g hg
  obtain ⟨hlive, hpath⟩ := h g (hinside g hg)
  refine ⟨hlive, fun before hbefore => ?_⟩
  rw [List.append_assoc]
  exact hpath (step :: before) (List.cons_prefix_cons.mpr ⟨rfl, hbefore⟩)

theorem kind?_of_passable {k : Kind} (hkind : s.kind? = some k) (h : Passable o s base d steps) :
    d.kind? = some k := by
  refine Decidable.byContradiction fun hother => ?_
  rw [Passable, check_of_kind?_ne hkind hother] at h
  obtain ⟨-, hpath⟩ := h _ (List.mem_singleton_self _)
  exact hpath [] List.nil_prefix (by rw [List.append_nil]; rfl)

theorem not_refuses_of_undeclared {about : About} {required : List Document}
    {properties : List (String × Schema)} {additional : Bool} (hsome : properties ≠ [])
    (h : Passable o (.object about required properties additional) base (.object fields) steps)
    (hfield : fields.has name = true) (hnone : Schema.property? properties name = none) :
    ¬ o.RefusesUnknown additional := by
  intro hrefuses
  have hclean := errors_checkUnknown_of_live fun g hg => (h g hg).1
  obtain ⟨p, hp, hname⟩ := List.any_eq_true.mp hfield
  have hdeclared := errors_checkUnknown_eq_nil_iff.mp hclean hrefuses hsome p hp
  rw [beq_iff_eq.mp hname, ← isSome_property?_iff, hnone] at hdeclared
  contradiction

theorem exists_index_of_child? {items : List Document} {step : Segment}
    (h : (Document.array items).child? step = some c) :
    ∃ i : Nat, step = .index i ∧ items[i]? = some c := by
  cases step with
  | name => cases h
  | index n =>
      rw [Document.child?] at h
      split at h
      · rename_i hn
        obtain ⟨i, rfl⟩ := Int.eq_ofNat_of_zero_le hn
        exact ⟨i, rfl, h⟩
      · cases h

private theorem kind?_of_child? {step : Segment} (h : d.child? step = some c) :
    d.kind? = some .object ∨ d.kind? = some .array := by
  cases d with
  | object => exact .inl rfl
  | array => exact .inr rfl
  | _ => cases step <;> cases h

theorem leadsTo_or_takes (hs : s.Throughout (· ∈ components)) (h : Passable o s base d steps)
    (hslot : d.slot? steps = some (some c)) :
    (∃ t, LeadsTo s d steps t c ∧ Passable o t (base ++ steps) c []) ∨
      ∀ rest value, s.Takes o (steps ++ rest) value := by
  induction steps generalizing s d base with
  | nil =>
      obtain rfl : d = c := Option.some.inj (Option.some.inj hslot)
      exact .inl ⟨s, .refl, by rwa [List.append_nil]⟩
  | cons step steps ih =>
      rw [slot?_cons] at hslot
      split at hslot
      · rename_i part hpart
        have hu := of_throughout hs
        cases s with
        | object about required properties additional =>
            obtain ⟨fields, rfl⟩ := exists_fields_of_kind? (kind?_of_passable rfl h)
            cases step with
            | index i => cases hpart
            | name name =>
                have hget : Fields.get? fields name = some part := hpart
                cases hproperty : Schema.property? properties name with
                | none =>
                    -- Nothing is found about the object, so that it lets properties like this one pass.
                    refine .inr fun rest value => (takes_undeclared_iff hproperty).mpr ?_
                    exact not_refuses_of_undeclared (properties_ne_nil _ hu rfl) h
                      (has_of_get? hget) hproperty
                | some u =>
                    have hp := mem_of_property? hproperty
                    have hinside := passable_part h fun g hg => mem_errors_of_property hp hget hg
                    rcases ih (throughout_property hs hp) hinside hslot with
                      ⟨t, hleads, hpassable⟩ | htakes
                    · rw [List.append_assoc] at hpassable
                      exact .inl ⟨t, .property hp hget hleads, hpassable⟩
                    · exact .inr fun rest value => (takes_property_iff hproperty).mpr (htakes rest value)
        | array about item? =>
            obtain ⟨item, hitem⟩ := Option.isSome_iff_exists.mp (isSome_item? _ hu rfl)
            obtain rfl : item? = some item := hitem
            obtain ⟨items, rfl⟩ := exists_items_of_kind? (kind?_of_passable rfl h)
            obtain ⟨i, rfl, hget⟩ := exists_index_of_child? hpart
            have hinside := passable_part h fun g hg => mem_errors_of_item hget hg
            rcases ih (throughout_item hs) hinside hslot with ⟨t, hleads, hpassable⟩ | htakes
            · rw [List.append_assoc] at hpassable
              exact .inl ⟨t, .item hget hleads, hpassable⟩
            · exact .inr fun rest value => htakes rest value
        | oneOf => exact (kind?_inner _ hu rfl).elim
        | string | number | boolean | null =>
            have hkind := kind?_of_passable rfl h
            rcases kind?_of_child? hpart with hother | hother <;> rw [hother] at hkind <;> cases hkind
      · split at hslot <;> cases hslot

/-! ## Findings of the second look -/

theorem requires_list : ∀ u ∈ components, ∀ lacking ∈ ["message", "location"],
    (Schema.property? u.properties lacking).isNone = true →
    ∀ known ∈ ["message", "location", "severity", "source"],
      (Schema.property? u.properties known).isSome = true →
      Schema.requires u.required "diagnostics" = true := by decide +kernel

theorem whole_of_requires_list (hs : s ∈ [diagnostic, diagnosticArray, diagnosticResult])
    (hleads : LeadsTo s d steps t c) (h : Schema.requires t.required "diagnostics" = true) :
    steps = [] ∧ s = diagnosticResult ∧ t = diagnosticResult := by
  obtain ⟨hproperty, hitem⟩ := list_of_form
  cases endsAt_of_leadsTo (throughout_form hs) kind?_inner hleads with
  | whole =>
      simp only [List.mem_cons, List.not_mem_nil, or_false] at hs
      rcases hs with rfl | rfl | rfl
      · cases h
      · cases h
      · exact ⟨rfl, rfl, rfl⟩
  | property hu hp =>
      rw [hproperty _ hu _ hp] at h
      contradiction
  | item hu ht =>
      rw [hitem _ hu _ ht] at h
      contradiction

theorem takes_field {about : About} {required : List Document} {properties : List (String × Schema)}
    {additional : Bool} (hdeclared : ∀ p ∈ properties, p.1 = name → Conforms o p.2 value)
    (hundeclared : Schema.property? properties name = none → ¬ o.RefusesUnknown additional) :
    (Schema.object about required properties additional).Takes o [.name name] value := by
  cases hproperty : Schema.property? properties name with
  | some u => exact takes_property hproperty (hdeclared _ (mem_of_property? hproperty) rfl)
  | none => exact (takes_undeclared_iff hproperty).mpr (hundeclared hproperty)

section

variable (hs : s ∈ [diagnostic, diagnosticArray, diagnosticResult])
  (hpass : Passable o s [] d steps) (hslot : d.slot? steps = some (some (.object fields)))

include hs hpass hslot

theorem suits_field (hname : name ≠ "diagnostics")
    (hdeclared : ∀ u ∈ components, ∀ p ∈ u.properties, p.1 = name → Conforms o p.2 value)
    (hundeclared : ∀ about required properties additional,
      LeadsTo s d steps (.object about required properties additional) (.object fields) →
      Passable o (.object about required properties additional) steps (.object fields) [] →
      Schema.property? properties name = none → ¬ o.RefusesUnknown additional) :
    Suits o s (steps ++ [.name name], value) where
  takes := by
    rcases leadsTo_or_takes (throughout_form hs) hpass hslot with ⟨t, hleads, hpassable⟩ | htakes
    · rw [List.nil_append] at hpassable
      have ht := mem_inner_of_leadsTo hs hleads
      obtain ⟨k, hkind⟩ := Option.ne_none_iff_exists'.mp (kind?_inner t ht)
      have hobject := kind?_of_passable hkind hpassable
      obtain rfl : Kind.object = k := Option.some.inj hobject
      cases t with
      | object about required properties additional =>
          exact takes_of_leadsTo (throughout_form hs) hleads
            (takes_field (hdeclared _ ht) (hundeclared about required properties additional hleads hpassable))
      | _ => cases hkind
    · exact htakes _ _
  fits := by
    intro hlast
    rw [List.getLast?_concat] at hlast
    exact (hname (Segment.name.inj (Option.some.inj hlast))).elim

theorem suits_present (hname : name ≠ "diagnostics") (hfield : fields.get? name = some c)
    (hdeclared : ∀ u ∈ components, ∀ p ∈ u.properties, p.1 = name → Conforms o p.2 value) :
    Suits o s (steps ++ [.name name], value) := by
  refine suits_field hs hpass hslot hname hdeclared
    fun about required properties additional hleads hpassable hnone => ?_
  exact not_refuses_of_undeclared (properties_ne_nil _ (mem_inner_of_leadsTo hs hleads) rfl) hpassable
    (has_of_get? hfield) hnone

theorem suits_lacking (hlacking : name ∈ ["message", "location"]) (hvalue : (name, value) ∈ fillings)
    (hshaped : Closeness.diagnosticShaped fields = true)
    (hresult : s = diagnosticResult → d = .object fields → ¬ o.RefusesUnknown true) :
    Suits o s (steps ++ [.name name], value) := by
  refine suits_field hs hpass hslot (by rintro rfl; simp at hlacking)
    (fun u hu p hp hname => conforms_filling hu hp (hname ▸ hvalue))
    fun about required properties additional hleads hpassable hnone => ?_
  have ht := mem_inner_of_leadsTo hs hleads
  obtain ⟨known, hknown, hfield⟩ := List.any_eq_true.mp (Bool.and_eq_true_iff.mp hshaped).2
  cases hproperty : Schema.property? properties known with
  | none => exact not_refuses_of_undeclared (properties_ne_nil _ ht rfl) hpassable hfield hproperty
  | some u =>
      have hlist := requires_list _ ht name hlacking (by simpa [Schema.properties] using hnone) known
        hknown (by simp [Schema.properties, hproperty])
      obtain ⟨rfl, hs, hobject⟩ := whole_of_requires_list hs hleads hlist
      cases hobject
      exact hresult hs (Option.some.inj (Option.some.inj hslot))

end

theorem mem_fillings_of_default (hlacking : name ∈ ["message", "location"])
    (h : missingDefault (base ++ [.name name]) d = .ok (some value)) : (name, value) ∈ fillings := by
  have hfilling : ∀ name ∈ ["message", "location"], ∃ q ∈ fillings, q.1 = name := by
    simp [fillings, propertyDefaults]
  obtain ⟨q, hq, rfl⟩ := hfilling name hlacking
  have hfilled := @missingDefault_of_filling d base q.1 q.2 hq
    (fun hstart => by simp [hstart] at hlacking) fun htext => by simp [htext] at hlacking
  obtain rfl := Option.some.inj (Except.ok.inj (h.symm.trans hfilled))
  exact hq

theorem conforms_severity_normalize (hu : u ∈ components) {p : String × Schema} (hp : p ∈ u.properties)
    (hname : p.1 = "severity") (d : Document) : Conforms o p.2 (.string (Severity.normalize d)) := by
  have hword : severities.contains (Severity.normalize d) = true := isSeverity_normalize d
  exact conforms_of_isEmpty hu hp (errors_severity o u hu p hp hname _ (List.contains_iff_mem.mp hword))

/-- Whatever the second look finds, what is planned for it suits its place, if it is not a guess and the check
finds nothing on the way there. -/
theorem suits_of_mem_node (hs : s ∈ [diagnostic, diagnosticArray, diagnosticResult])
    (hf : f ∈ (Refinement.node "" d).errors) (hrepair : f.repair? level = some w) (hsure : ¬ f.Guessed)
    (hpass : Passable o s [] d w.1.dropLast)
    (hresult : s = diagnosticResult → ∀ fields, d = .object fields →
      Closeness.diagnosticShaped fields = true → ¬ o.RefusesUnknown true) : Suits o s w := by
  obtain ⟨steps, fields, _, hsteps, hslot, -, hnoted⟩ := traced_node [] d hf
  rw [List.nil_append] at hnoted
  have hplanned {name : String} (hname : PlainName name)
      (hpath : f.path = Refinement.inField (Path.ofSegments steps) name) :
      ∃ value, w = (steps ++ [.name name], value) ∧
        plan level f (steps ++ [.name name]) f.value = .ok (some value) ∧ Passable o s [] d steps := by
    rw [inField_ofSegments] at hpath
    obtain ⟨value, rfl, hplan⟩ := plan_of_repair (plain_field hsteps hname) hpath hrepair
    exact ⟨value, rfl, hplan, by rwa [List.dropLast_concat] at hpass⟩
  cases hnoted with
  | message hshaped _ =>
      obtain ⟨value, rfl, hplan, hway⟩ := hplanned (by decide) rfl
      exact suits_lacking hs hway hslot (by simp)
        (mem_fillings_of_default (by simp) (missingDefault_of_plan hplan (by simp))) hshaped
        fun hform hobject => hresult hform fields hobject hshaped
  | location hshaped _ =>
      obtain ⟨value, rfl, hplan, hway⟩ := hplanned (by decide) rfl
      exact suits_lacking hs hway hslot (by simp)
        (mem_fillings_of_default (by simp) (missingDefault_of_plan hplan (by simp))) hshaped
        fun hform hobject => hresult hform fields hobject hshaped
  | start => exact (code_of_plan (repair?_eq_some_iff.mp hrepair).2 (by simp)).elim
  | @ordinal name c hname hd hkind hless =>
      obtain ⟨value, rfl, hplan, hway⟩ := hplanned (by rcases hname with rfl | rfl <;> decide) rfl
      obtain rfl := eq_one_of_plan (.inr rfl) hkind hless hplan
      refine suits_present hs hway hslot (by rcases hname with rfl | rfl <;> decide) hd
        fun u hu p hp heq => conforms_filling hu hp ?_
      subst heq
      rcases hname with hname | hname <;> simp [hname, fillings, propertyDefaults]
  | severity hd =>
      obtain ⟨value, rfl, hplan, hway⟩ := hplanned (by decide) rfl
      obtain rfl := eq_normalize_of_plan hplan rfl
      exact suits_present hs hway hslot (by decide) hd
        fun u hu p hp heq => conforms_severity_normalize hu hp heq _
  | list => exact (hsure (.inl rfl)).elim

end Proofs.PlannedValues

end ReviewDiagnostics
