import ReviewDiagnostics.Proofs.Reconciliation

/-!
# Edits inside a value

Writes inside a value are writes at its parts or inside them.  A part that is written at becomes what is
written; into any other part go the writes inside it, and where there are none the part stays as it is.  So a
value conforms to a schema after edits, if there is one wherever the check finds something wrong, and each of
them puts in what the schema takes there.
-/

namespace ReviewDiagnostics

/-- A schema accepts a value at a path: the value conforms to the schema that the path leads to, or the path
leads to a property that is not declared and does not have to be. -/
def Schema.Takes (o : Options) : Schema → List Segment → Document → Prop
  | s, [], value => Conforms o s value
  | .object _ _ properties additional, .name name :: rest, value =>
    match property? properties name with
    | some s => s.Takes o rest value
    | none => ¬ o.RefusesUnknown additional
  | .array _ (some item), .index _ :: rest, value => item.Takes o rest value
  | _, _, _ => False

/-- The writes that go to a part of a value, by their paths from there. -/
def below (step : Segment) (writes : List (List Segment × Document)) :
    List (List Segment × Document) :=
  writes.filterMap fun w => if w.1.head? = some step then some (w.1.tail, w.2) else none

/-- Writes inside a value that turn it into another one. -/
structure Edits (d : Document) (writes : List (List Segment × Document)) (d' : Document) : Prop where
  rewritten : Proofs.Slots.Rewritten d writes d'
  inside : ∀ w ∈ writes, w.1 ≠ []
  slots : ∀ w ∈ writes, ∃ slot, d.slot? w.1 = some slot

/-- What becomes of a part, or of a field that is missing, through the writes that go there. -/
inductive Became (writes : List (List Segment × Document)) : Option Document → Option Document → Prop
  | written {before : Option Document} {value : Document} (h : ([], value) ∈ writes) :
    Became writes before (some value)
  | edited {d d' : Document} (h : Edits d writes d') : Became writes (some d) (some d')
  | absent (h : writes = []) : Became writes none none

namespace Proofs.PartEdits

open Conformity Conformance Document Origins PathText Reconciliation Separation Slots

variable {o : Options} {s : Schema} {d d' c : Document} {base rest : List Segment} {step : Segment}
  {writes : List (List Segment × Document)} {value : Document} {fields fields' : Fields} {name : String}
  {items items' : List Document} {findings : List Finding} {before after : Option Document}

/-! ## Writes at parts -/

theorem mem_below : (rest, value) ∈ below step writes ↔ (step :: rest, value) ∈ writes := by
  rw [below, List.mem_filterMap]
  constructor
  · rintro ⟨⟨path, v⟩, hw, hvalue⟩
    cases path with
    | nil => cases hvalue
    | cons first path =>
        split at hvalue
        · rename_i hhead
          obtain ⟨rfl, rfl⟩ := Prod.mk.inj (Option.some.inj hvalue)
          obtain rfl := Option.some.inj hhead
          exact hw
        · cases hvalue
  · intro hw
    exact ⟨_, hw, by simp⟩

theorem eq_of_edits_nil (h : Edits d [] d') : d' = d := by
  have hslot := h.rewritten.apart [] (by simp)
  exact Option.some.inj (Option.some.inj hslot)

theorem sameShape_of_edits (h : Edits d writes d') : SameShape d d' := by
  obtain ⟨y, hy, hshape⟩ := h.rewritten.above [] d
    (fun w hw hprefix => h.inside w hw (List.prefix_nil.mp hprefix)) rfl
  obtain rfl : d' = y := Option.some.inj (Option.some.inj hy)
  exact hshape

theorem exists_object_of_edits (h : Edits (.object fields) writes d') :
    ∃ fields' : Fields, d' = .object fields' := by
  have hshape := sameShape_of_edits h
  cases d' with
  | object fields' => exact ⟨fields', rfl⟩
  | _ => cases hshape

theorem exists_array_of_edits (h : Edits (.array items) writes d') :
    ∃ items', d' = .array items' := by
  have hshape := sameShape_of_edits h
  cases d' with
  | array items' => exact ⟨items', rfl⟩
  | _ => cases hshape

theorem exists_object_of_edits_object (h : Edits d writes (.object fields')) :
    ∃ fields : Fields, d = .object fields := by
  have hshape := sameShape_of_edits h
  cases d with
  | object fields => exact ⟨fields, rfl⟩
  | _ => cases hshape

theorem exists_array_of_edits_array (h : Edits d writes (.array items')) :
    ∃ items, d = .array items ∧ items.length = items'.length := by
  have hshape := sameShape_of_edits h
  cases d with
  | array items => exact ⟨items, rfl, hshape⟩
  | _ => cases hshape

theorem slot?_singleton (hc : d.child? step = some c) : d.slot? [step] = some (some c) := by
  rw [slot?_cons_of_child? hc, slot?]

theorem exists_edits_below (h : Edits d writes d') (hc : d.child? step = some c)
    (hnot : ∀ value, ([step], value) ∉ writes) :
    ∃ c', d'.slot? [step] = some (some c') ∧ Edits c (below step writes) c' := by
  have hprefix {w : List Segment × Document} (hw : w ∈ writes) : ¬ w.1 <+: [step] := by
    intro hprefix
    rcases prefix_singleton hprefix with hnil | hpath
    · exact h.inside w hw hnil
    · exact hnot w.2 (hpath ▸ hw)
  obtain ⟨c', hc', -⟩ := h.rewritten.above [step] c (fun w hw => hprefix hw) (slot?_singleton hc)
  have hslot (q : List Segment) : d'.slot? (step :: q) = c'.slot? q := slot?_append hc'
  refine ⟨c', hc', ⟨⟨?_, ?_, ?_⟩, ?_, ?_⟩⟩
  · rintro ⟨q, v⟩ hw
    rw [← hslot]
    exact h.rewritten.written _ (mem_below.mp hw)
  · intro q hq
    rw [← hslot, ← slot?_cons_of_child? hc]
    refine h.rewritten.apart (step :: q) ?_
    rintro ⟨path, v⟩ hw
    cases path with
    | nil => exact (h.inside _ hw rfl).elim
    | cons first path =>
        exact apart_cons_iff.mpr fun heq => hq (path, v) (mem_below.mpr (heq ▸ hw))
  · intro q x hq hx
    rw [← hslot]
    refine h.rewritten.above (step :: q) x ?_ (by rw [slot?_cons_of_child? hc, hx])
    rintro ⟨path, v⟩ hw hprefix
    cases path with
    | nil => exact h.inside _ hw rfl
    | cons first path =>
        obtain ⟨rfl, hinside⟩ := List.cons_prefix_cons.mp hprefix
        exact hq (path, v) (mem_below.mpr hw) hinside
  · rintro ⟨q, v⟩ hw rfl
    exact hnot v (mem_below.mp hw)
  · rintro ⟨q, v⟩ hw
    obtain ⟨slot, hslot⟩ := h.slots _ (mem_below.mp hw)
    exact ⟨slot, by rwa [slot?_cons_of_child? hc] at hslot⟩

private theorem below_eq_nil (h : ∀ rest value, (step :: rest, value) ∉ writes) : below step writes = [] :=
  List.eq_nil_iff_forall_not_mem.mpr fun w hw => h w.1 w.2 (mem_below.mp hw)

theorem became_field (h : Edits (.object fields) writes (.object fields')) (name : String) :
    Became (below (.name name) writes) (fields.get? name) (fields'.get? name) := by
  by_cases hwritten : ∃ value, ([.name name], value) ∈ writes
  · obtain ⟨value, hw⟩ := hwritten
    have hslot := h.rewritten.written _ hw
    rw [slot?_field] at hslot
    rw [Option.some.inj hslot]
    exact .written (mem_below.mpr hw)
  · have hnot : ∀ value, ([.name name], value) ∉ writes := fun value hw => hwritten ⟨value, hw⟩
    cases hc : fields.get? name with
    | some c =>
        obtain ⟨c', hc', hedits⟩ := @exists_edits_below _ _ c (.name name) _ h hc hnot
        rw [slot?_field] at hc'
        rw [Option.some.inj hc']
        exact .edited hedits
    | none =>
        -- Nothing can be written inside a field that is missing.
        have hbelow : ∀ rest value, (.name name :: rest, value) ∉ writes := by
          intro rest value hw
          cases rest with
          | nil => exact hnot value hw
          | cons next rest =>
              obtain ⟨slot, hslot⟩ := h.slots _ hw
              rw [slot?_cons, child?, hc] at hslot
              simp at hslot
        have hslot := h.rewritten.apart [.name name] (by
          rintro ⟨path, v⟩ hw
          cases path with
          | nil => exact (h.inside _ hw rfl).elim
          | cons first path => exact apart_cons_iff.mpr fun heq => (hbelow path v (heq ▸ hw)).elim)
        rw [slot?_field, slot?_field, hc] at hslot
        rw [Option.some.inj hslot]
        exact .absent (below_eq_nil hbelow)

private theorem became_item (h : Edits (.array items) writes (.array items')) {i : Nat} {x y : Document}
    (hx : items[i]? = some x) (hy : items'[i]? = some y) :
    Became (below (.index i) writes) (some x) (some y) := by
  have hchild {items : List Document} {x : Document} (hx : items[i]? = some x) :
      (Document.array items).child? (.index i) = some x := by
    rw [child?, if_pos (Int.natCast_nonneg i), Int.toNat_natCast, hx]
  by_cases hwritten : ∃ value, ([.index i], value) ∈ writes
  · obtain ⟨value, hw⟩ := hwritten
    have hslot := h.rewritten.written _ hw
    rw [slot?_singleton (hchild hy)] at hslot
    rw [Option.some.inj hslot]
    exact .written (mem_below.mpr hw)
  · obtain ⟨c', hc', hedits⟩ := exists_edits_below h (hchild hx) fun value hw => hwritten ⟨value, hw⟩
    rw [slot?_singleton (hchild hy)] at hc'
    rw [Option.some.inj hc']
    exact .edited hedits

theorem exists_became_of_mem (h : Edits (.array items) writes (.array items')) (hd : d ∈ items') :
    ∃ (i : Nat) (x : Document), items[i]? = some x ∧
      Became (below (.index i) writes) (some x) (some d) := by
  have hlength : items.length = items'.length := sameShape_of_edits h
  obtain ⟨i, hi, rfl⟩ := List.mem_iff_getElem.mp hd
  have hx := List.getElem?_eq_getElem (show i < items.length from hlength ▸ hi)
  exact ⟨i, _, hx, became_item h hx (List.getElem?_eq_getElem hi)⟩

/-! ## Conformance -/

/-- There is a write wherever something is found, and nothing is found that is never repaired. -/
def Covered (base : List Segment) (writes : List (List Segment × Document)) (findings : List Finding) :
    Prop :=
  ∀ f ∈ findings, ¬ f.Idle ∧ ∃ w ∈ writes, Path.parse f.path = .ok (base ++ w.1)

theorem findings_eq_nil (h : Covered base [] findings) : findings = [] := by
  refine List.eq_nil_iff_forall_not_mem.mpr fun f hf => ?_
  obtain ⟨-, w, hw, -⟩ := h f hf
  cases hw

theorem path_ne_of_covered (hbase : ∀ step ∈ base, step.Plain) (hinside : ∀ w ∈ writes, w.1 ≠ [])
    (h : Covered base writes findings) {f : Finding} (hf : f ∈ findings) :
    f.path ≠ Path.ofSegments base := by
  intro hpath
  obtain ⟨-, w, hw, hread⟩ := h f hf
  rw [hpath] at hread
  exact hinside w hw (List.append_right_eq_self.mp (eq_of_parse hbase hread))

theorem covered_below {inner : List Finding} (h : Covered base writes findings)
    (hinner : ∀ f ∈ inner, f ∈ findings ∧ (f.Idle ∨ Under (base ++ [step]) f)) :
    Covered (base ++ [step]) (below step writes) inner := by
  intro f hf
  obtain ⟨hmem, hunder⟩ := hinner f hf
  obtain ⟨hlive, ⟨path, v⟩, hw, hread⟩ := h f hmem
  obtain ⟨rest, hplain, hpath⟩ := hunder.resolve_left hlive
  have hsteps : base ++ path = base ++ [step] ++ rest :=
    eq_of_parse hplain (by rw [← hpath, hread])
  rw [List.append_assoc, List.append_cancel_left_eq] at hsteps
  subst hsteps
  exact ⟨hlive, (rest, v), mem_below.mpr hw, by rw [hread, List.append_assoc]⟩

theorem property?_of_mem {properties : List (String × Schema)} (hdistinct : (properties.map (·.1)).Nodup)
    {p : String × Schema} (hp : p ∈ properties) : Schema.property? properties p.1 = some p.2 := by
  induction properties with
  | nil => cases hp
  | cons q properties ih =>
      rw [List.map_cons, List.nodup_cons] at hdistinct
      rw [Schema.property?]
      rcases List.mem_cons.mp hp with rfl | hp
      · rw [if_pos rfl]
      · rw [if_neg, ih hdistinct.2 hp]
        intro hname
        exact hdistinct.1 (hname ▸ List.mem_map_of_mem hp)

theorem mem_of_property? {properties : List (String × Schema)}
    (h : Schema.property? properties name = some s) : (name, s) ∈ properties := by
  induction properties with
  | nil => cases h
  | cons p properties ih =>
      rw [Schema.property?] at h
      split at h
      · rename_i hname
        obtain rfl := Option.some.inj h
        exact hname ▸ List.mem_cons_self
      · exact List.mem_cons_of_mem p (ih h)

theorem takes_nil : s.Takes o [] value ↔ Conforms o s value := by
  cases s <;> exact Iff.rfl

section

variable {about : About} {required : List Document} {properties : List (String × Schema)}
  {additional : Bool}

theorem takes_property_iff (h : Schema.property? properties name = some s) :
    (Schema.object about required properties additional).Takes o (.name name :: rest) value ↔
      s.Takes o rest value := by
  rw [Schema.Takes]
  simp only [h]

theorem takes_undeclared_iff (h : Schema.property? properties name = none) :
    (Schema.object about required properties additional).Takes o (.name name :: rest) value ↔
      ¬ o.RefusesUnknown additional := by
  rw [Schema.Takes]
  simp only [h]

theorem takes_below_property (hs : Schema.property? properties name = some s)
    (h : ∀ w ∈ writes, (Schema.object about required properties additional).Takes o w.1 w.2) :
    ∀ w ∈ below (.name name) writes, s.Takes o w.1 w.2 :=
  fun _ hw => (takes_property_iff hs).mp (h _ (mem_below.mp hw))

end

theorem conforms_of_no_writes (hwell : s.WellTyped) (h : Edits d writes d')
    (hcovered : Covered base writes (check o s (Path.ofSegments base) d).errors)
    (hnone : ∀ w ∈ writes, w.1 ≠ [] → ¬ s.Takes o w.1 w.2)
    (htakes : ∀ w ∈ writes, s.Takes o w.1 w.2) : Conforms o s d' := by
  obtain rfl : writes = [] := List.eq_nil_iff_forall_not_mem.mpr fun w hw =>
    hnone w hw (h.inside w hw) (htakes w hw)
  rw [eq_of_edits_nil h]
  exact (errors_check_eq_nil_iff hwell o _ d).mp (findings_eq_nil hcovered)

theorem conforms_of_became
    (ih : ∀ {d d' : Document}, Edits d writes d' →
      Covered base writes (check o s (Path.ofSegments base) d).errors → Conforms o s d')
    (h : Became writes before (some value))
    (hcovered : ∀ d, before = some d →
      Covered base writes (check o s (Path.ofSegments base) d).errors)
    (htakes : ∀ w ∈ writes, s.Takes o w.1 w.2) : Conforms o s value := by
  cases h with
  | written hw => exact takes_nil.mp (htakes _ hw)
  | edited h => exact ih h (hcovered _ rfl)

theorem kind?_of_covered {k : Kind} (hbase : ∀ step ∈ base, step.Plain)
    (hinside : ∀ w ∈ writes, w.1 ≠ []) (hkind : s.kind? = some k)
    (hcovered : Covered base writes (check o s (Path.ofSegments base) d).errors) : d.kind? = some k := by
  refine Decidable.byContradiction fun hother => ?_
  rw [check_of_kind?_ne hkind hother] at hcovered
  exact path_ne_of_covered hbase hinside hcovered (List.mem_singleton_self _) rfl

theorem has_of_mem {p : String × Document} (hp : p ∈ fields) : Fields.has fields p.1 = true :=
  List.any_eq_true.mpr ⟨p, hp, beq_self_eq_true _⟩

theorem has_of_get? (h : fields.get? name = some c) : fields.has name = true := by
  rw [Fields.has_eq_isSome_get?, h]
  rfl

theorem isSome_of_became (h : Became writes before after)
    (hsome : before.isSome = true ∨ writes ≠ []) : after.isSome = true := by
  cases h <;> simp_all

section

variable {about : About} {required : List Document} {properties : List (String × Schema)}
  {additional : Bool}
  (hs : (Schema.object about required properties additional).PlainNames)
  (hbase : ∀ step ∈ base, step.Plain) (h : Edits (.object fields) writes (.object fields'))
  (hcovered : Covered base writes (check o (.object about required properties additional)
    (Path.ofSegments base) (.object fields)).errors)

include hcovered

include hs hbase h in
theorem has_required_of_edits (hname : .string name ∈ required) : fields'.has name = true := by
  have hbecame := became_field h name
  rw [Fields.has_eq_isSome_get?]
  refine isSome_of_became hbecame ?_
  by_cases hfield : fields.has name = true
  · exact .inl (by rwa [Fields.has_eq_isSome_get?] at hfield)
  · have hmissing : _ ∈ (check o (.object about required properties additional) (Path.ofSegments base)
        (.object fields)).errors := mem_errors_of_missing hname (by simpa using hfield)
    obtain ⟨-, ⟨path, v⟩, hw, hread⟩ := hcovered _ hmissing
    obtain ⟨_, heq, hplain⟩ := (of_throughout hs).1 _ hname
    obtain rfl := Document.string.inj heq
    rw [Finding.path_expecting, ← ofSegments_append] at hread
    have hsteps := eq_of_parse (plain_field hbase hplain) hread
    rw [List.append_cancel_left_eq] at hsteps
    subst hsteps
    exact .inr (List.ne_nil_of_mem (mem_below.mpr hw))

include hs hbase in
theorem covered_property {p : String × Schema} (hp : p ∈ properties) (hd : fields.get? p.1 = some d) :
    Covered (base ++ [.name p.1]) (below (.name p.1) writes)
      (check o p.2 (Path.ofSegments (base ++ [.name p.1])) d).errors := by
  refine covered_below hcovered fun f hf => ⟨mem_errors_of_property hp hd hf, ?_⟩
  exact idle_or_under_of_check (throughout_property hs hp)
    (plain_field hbase ((of_throughout hs).2 p hp)) hf

include h in
theorem declared_of_edits
    (htakes : ∀ w ∈ writes, (Schema.object about required properties additional).Takes o w.1 w.2)
    (hrefuses : o.RefusesUnknown additional) (hproperties : properties ≠ []) {f : String × Document}
    (hf : f ∈ fields') : ∃ p ∈ properties, p.1 = f.1 := by
  by_cases hfield : fields.has f.1 = true
  · have hclean := errors_checkUnknown_of_live fun g hg => (hcovered g hg).1
    obtain ⟨q, hq, hname⟩ := List.any_eq_true.mp hfield
    rw [← beq_iff_eq.mp hname]
    exact errors_checkUnknown_eq_nil_iff.mp hclean hrefuses hproperties q hq
  · obtain ⟨value, hvalue⟩ := Agreement.exists_get?_of_has (has_of_mem hf)
    have hbecame := became_field h f.1
    rw [hvalue, SecondLook.get?_of_has_eq_false (by simpa using hfield)] at hbecame
    cases hbecame with
    | written hw =>
        rw [← isSome_property?_iff]
        cases hdeclared : Schema.property? properties f.1 with
        | some s => rfl
        | none => exact ((takes_undeclared_iff hdeclared).mp (htakes _ (mem_below.mp hw)) hrefuses).elim

end

/-- A value conforms after edits, if they leave nothing that the check finds wrong as it is and put in what
the schema takes. -/
theorem conforms_of_edits (hwell : s.WellTyped) (hs : s.PlainNames) (hsingle : s.Throughout Schema.Single)
    (hbase : ∀ step ∈ base, step.Plain) (h : Edits d writes d')
    (hcovered : Covered base writes (check o s (Path.ofSegments base) d).errors)
    (htakes : ∀ w ∈ writes, s.Takes o w.1 w.2) : Conforms o s d' := by
  induction s using Schema.induction generalizing base d d' writes with
  | string | number | boolean | null | anyArray | oneOf =>
      refine conforms_of_no_writes hwell h hcovered ?_ htakes
      rintro ⟨path, v⟩ - hne
      cases path with
      | nil => exact (hne rfl).elim
      | cons first path => cases first <;> simp [Schema.Takes]
  | object about required properties additional ih =>
      obtain ⟨fields, rfl⟩ := exists_fields_of_kind? (kind?_of_covered hbase h.inside rfl hcovered)
      obtain ⟨fields', rfl⟩ := exists_object_of_edits h
      obtain ⟨-, hdistinct⟩ := of_throughout hsingle
      obtain ⟨hrequired, hproperties⟩ := of_throughout hs
      refine .object (fun text htext => ?_) (fun p hp value hvalue => ?_) fun hrefuses hsome f hf =>
        declared_of_edits h hcovered htakes hrefuses hsome hf
      · obtain ⟨name, rfl, -⟩ := hrequired text htext
        exact ⟨name, rfl, has_required_of_edits hs hbase h hcovered htext⟩
      · have hbecame := became_field h p.1
        have htaken := takes_below_property (property?_of_mem hdistinct hp) htakes
        rw [hvalue] at hbecame
        refine conforms_of_became (fun hedits hinner => ?_) hbecame
          (fun d hd => covered_property hs hbase hcovered hp hd) htaken
        cases hwell with
        | object _ hinside =>
            exact ih p hp (hinside p hp) (throughout_property hs hp) (throughout_property hsingle hp)
              (plain_field hbase (hproperties p hp)) hedits hinner htaken
  | array about item ih =>
      obtain ⟨items, rfl⟩ := exists_items_of_kind? (kind?_of_covered hbase h.inside rfl hcovered)
      obtain ⟨items', rfl⟩ := exists_array_of_edits h
      refine .array fun y hy => ?_
      obtain ⟨i, x, hx, hbecame⟩ := exists_became_of_mem h hy
      have hinner := throughout_item hs
      refine conforms_of_became (fun hedits (hitem : Covered (base ++ [.index i]) _ _) => ?_) hbecame
        (fun d hd => ?_) fun w hw => htakes _ (mem_below.mp hw)
      · cases hwell with
        | array hwell =>
            exact ih hwell hinner (throughout_item hsingle) (plain_item hbase i) hedits hitem
              fun w hw => htakes _ (mem_below.mp hw)
      · obtain rfl := Option.some.inj hd
        exact covered_below hcovered fun f hf => ⟨mem_errors_of_item hx hf,
          idle_or_under_of_check hinner (plain_item hbase i) hf⟩

end Proofs.PartEdits

end ReviewDiagnostics
