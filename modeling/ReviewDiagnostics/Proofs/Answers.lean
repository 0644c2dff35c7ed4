import ReviewDiagnostics.Proofs.Conformance
import ReviewDiagnostics.Proofs.Resolution
import ReviewDiagnostics.Proofs.VastNumbers
import ReviewDiagnostics.Schema.Written

/-!
# When a check has an answer

A check against a schema whose limits are of the sorts that they are meant to be breaks off for one reason
only: a number is found to lie beyond a bound that is out of range, and the finding cannot quote the bound.
Everywhere else there is an answer, whatever the document holds.
-/

namespace ReviewDiagnostics

-- Powers are those of the core library, whatever else is imported.
attribute [local instance (2000)] instPowNat

/-- A check comes to a number beyond a bound that is out of range: the number itself, one in a property or an
item, or one in an alternative that is tried before all alternatives that the document conforms to. -/
inductive Overshoots (o : Options) : Schema → Document → Prop
  | low {about : About} {bound : Document} {maximum : Option Document} {d : Document}
    (hkind : d.kind? = some .number) (hvast : bound.Vast) (hless : d.less bound = true) :
    Overshoots o (.number about (some bound) maximum) d
  | high {about : About} {minimum : Option Document} {bound d : Document}
    (hkind : d.kind? = some .number) (hvast : bound.Vast) (hless : bound.less d = true) :
    Overshoots o (.number about minimum (some bound)) d
  | property {about : About} {required : List Document} {properties : List (String × Schema)}
    {additional : Bool} {fields : Fields} {p : String × Schema} {d : Document} (hp : p ∈ properties)
    (hd : fields.get? p.1 = some d) (h : Overshoots o p.2 d) :
    Overshoots o (.object about required properties additional) (.object fields)
  | item {about : About} {item : Schema} {items : List Document} {d : Document} (hd : d ∈ items)
    (h : Overshoots o item d) : Overshoots o (.array about (some item)) (.array items)
  | alternative {about : About} {alternatives : List Schema} {uri : Option Document} {d : Document}
    {x : Schema × Nat} (hx : x ∈ alternatives.zipIdx)
    (hfirst : ∀ y ∈ alternatives.zipIdx, Proofs.Resolution.Ahead d y x → ¬ Conforms o y.1 d)
    (h : Overshoots o x.1 d) : Overshoots o (.oneOf about alternatives uri) d

/-- A check breaks off at a number that is too large exactly if a condition holds. -/
def Outcome.BreaksOff (x : Outcome) (p : Prop) : Prop :=
  x.fault = some .tooLarge ∧ p ∨ x.fault = none ∧ ¬ p

namespace Proofs.Answers

open Conformity Conformance Origins Outcome Resolution VastNumbers WellTyped

variable {o : Options} {s : Schema} {path : String} {d : Document} {x y : Outcome} {p q : Prop}

/-! ## Outcomes -/

theorem breaksOff_of_answer (hfault : x.fault = none) (hp : ¬ p) : x.BreaksOff p :=
  .inr ⟨hfault, hp⟩

theorem breaksOff_congr (h : x.BreaksOff p) (hpq : p ↔ q) : x.BreaksOff q :=
  h.imp (And.imp_right hpq.mp) (And.imp_right (mt hpq.mpr))

theorem breaksOff_append (hx : x.BreaksOff p) (hy : y.BreaksOff q) : (x ++ y).BreaksOff (p ∨ q) := by
  rw [BreaksOff, fault_append]
  rcases hx with ⟨hx, hp⟩ | ⟨hx, hp⟩
  · exact .inl ⟨by rw [hx, Option.some_or], .inl hp⟩
  · rw [hx, Option.none_or]
    exact hy.imp (And.imp_right .inr) (And.imp_right fun hq => not_or.mpr ⟨hp, hq⟩)

theorem breaksOff_join {α : Type} {l : List α} {f : α → Outcome} {P : α → Prop}
    (h : ∀ a ∈ l, (f a).BreaksOff (P a)) : (join (l.map f)).BreaksOff (∃ a ∈ l, P a) := by
  induction l with
  | nil => exact breaksOff_of_answer rfl (by simp)
  | cons a l ih =>
      obtain ⟨ha, hl⟩ := List.forall_mem_cons.mp h
      exact breaksOff_congr (breaksOff_append ha (ih hl)) (by simp)

/-! ## What breaks off -/

theorem overshoots_number_iff {about : About} {minimum maximum : Option Document} :
    Overshoots o (.number about minimum maximum) d ↔ d.kind? = some .number ∧
      ((∃ bound ∈ minimum, bound.Vast ∧ d.less bound = true) ∨
        ∃ bound ∈ maximum, bound.Vast ∧ bound.less d = true) := by
  constructor
  · intro h
    cases h with
    | low hkind hvast hless => exact ⟨hkind, .inl ⟨_, rfl, hvast, hless⟩⟩
    | high hkind hvast hless => exact ⟨hkind, .inr ⟨_, rfl, hvast, hless⟩⟩
  · rintro ⟨hkind, ⟨bound, hbound, hvast, hless⟩ | ⟨bound, hbound, hvast, hless⟩⟩
    · obtain rfl := Option.mem_def.mp hbound
      exact .low hkind hvast hless
    · obtain rfl := Option.mem_def.mp hbound
      exact .high hkind hvast hless

theorem breaksOff_checkBound {sign : String} {code : Code} {value bound low high : Document}
    (hbound : bound.isNumeric = true) (hlow : low.isNumeric = true) (hhigh : high.isNumeric = true) :
    (checkBound path code sign value bound (low.isBelow high)).BreaksOff
      (bound.Vast ∧ low.less high = true) := by
  rw [isBelow_of_isNumeric hlow hhigh, checkBound.eq_def]
  cases low.less high with
  | false => exact breaksOff_of_answer rfl (by simp)
  | true =>
      rcases boundText_cases hbound with ⟨hvast, htext⟩ | ⟨hvast, text, htext⟩
      · exact .inl ⟨by rw [htext]; rfl, hvast, rfl⟩
      · exact breaksOff_of_answer (by rw [htext]; rfl) (mt And.left hvast)

theorem breaksOff_checkNumber {about : About} {minimum maximum : Option Document}
    (hkind : d.kind? = some .number) (hminimum : ∀ bound ∈ minimum, bound.isNumeric = true)
    (hmaximum : ∀ bound ∈ maximum, bound.isNumeric = true) :
    (checkNumber path d minimum maximum).BreaksOff (Overshoots o (.number about minimum maximum) d) := by
  have hd := isNumeric_of_kind? hkind
  rw [checkNumber.eq_def]
  refine breaksOff_congr (breaksOff_append (p := ∃ bound ∈ minimum, bound.Vast ∧ d.less bound = true)
    (q := ∃ bound ∈ maximum, bound.Vast ∧ bound.less d = true) ?_ ?_)
    (overshoots_number_iff.trans (and_iff_right hkind)).symm
  · cases minimum with
    | none => exact breaksOff_of_answer rfl (by simp)
    | some bound =>
        exact breaksOff_congr (breaksOff_checkBound (hminimum bound rfl) hd (hminimum bound rfl)) (by simp)
  · cases maximum with
    | none => exact breaksOff_of_answer rfl (by simp)
    | some bound =>
        exact breaksOff_congr (breaksOff_checkBound (hmaximum bound rfl) (hmaximum bound rfl) hd) (by simp)

theorem overshoots_object_iff {about : About} {required : List Document}
    {properties : List (String × Schema)} {additional : Bool} {fields : Fields} :
    Overshoots o (.object about required properties additional) (.object fields) ↔
      ∃ p ∈ properties, ∃ d, fields.get? p.1 = some d ∧ Overshoots o p.2 d := by
  constructor
  · intro h
    cases h with
    | property hp hd h => exact ⟨_, hp, _, hd, h⟩
  · rintro ⟨p, hp, d, hd, h⟩
    exact .property hp hd h

theorem overshoots_array_iff {about : About} {item : Schema} {items : List Document} :
    Overshoots o (.array about (some item)) (.array items) ↔ ∃ d ∈ items, Overshoots o item d := by
  constructor
  · intro h
    cases h with
    | item hd h => exact ⟨_, hd, h⟩
  · rintro ⟨d, hd, h⟩
    exact .item hd h

theorem breaksOff_required {required : List Document} {properties : List (String × Schema)} {fields : Fields}
    (hrequired : ∀ name ∈ required, ∃ s, name = .string s) :
    (join (required.map (checkRequired path fields properties))).BreaksOff False := by
  refine breaksOff_of_answer (fault_join_map_eq_none_iff.mpr fun name hname => ?_) id
  obtain ⟨s, rfl⟩ := hrequired name hname
  exact fault_checkRequired

theorem breaksOff_checkProperty {fields : Fields} {p : String × Schema}
    (h : ∀ place d, (check o p.2 place d).BreaksOff (Overshoots o p.2 d)) :
    (checkProperty o path fields p).BreaksOff (∃ d, fields.get? p.1 = some d ∧ Overshoots o p.2 d) := by
  rw [checkProperty]
  cases fields.get? p.1 with
  | none => exact breaksOff_of_answer rfl (by simp)
  | some d => exact breaksOff_congr (h _ d) (by simp)

theorem breaksOff_items {item : Schema} {items : List Document}
    (h : ∀ place d, (check o item place d).BreaksOff (Overshoots o item d)) :
    (join (items.mapIdx fun i x => check o item (Path.join path (.index i)) x)).BreaksOff
      (∃ d ∈ items, Overshoots o item d) := by
  rw [List.mapIdx_eq_zipIdx_map]
  refine breaksOff_congr (breaksOff_join (P := fun x => Overshoots o item x.1) fun x _ => h _ x.1) ?_
  constructor
  · rintro ⟨x, hx, hovershoots⟩
    exact ⟨x.1, List.mem_of_getElem? (List.mem_zipIdx_iff_getElem?.mp hx), hovershoots⟩
  · rintro ⟨d, hd, hovershoots⟩
    obtain ⟨i, hi⟩ := List.getElem?_of_mem hd
    exact ⟨(d, i), List.mk_mem_zipIdx_iff_getElem?.mpr hi, hovershoots⟩

/-! ## Choices -/

section

variable {about : About} {alternatives : List Schema} {uri : Option Document}

theorem exists_first_fault (hnamed : ∀ s ∈ alternatives, Likelihood.misnamed s d = false)
    (hfault : (check o (.oneOf about alternatives uri) path d).fault ≠ none) :
    ∃ x ∈ alternatives.zipIdx, (check o x.1 path d).fault ≠ none ∧
      ∀ y ∈ alternatives.zipIdx, Ahead d y x → (check o y.1 path d).Fails := by
  obtain ⟨ranked, hranked, horder⟩ := exists_ranked_alternatives d alternatives
  rw [check_oneOf hnamed (horder _)] at hfault
  rcases exists_first_not_failing o path d ranked with hall | ⟨before, x, after, rfl, hbefore, hx⟩
  · exact (hfault (Choice.fault_settle fun t ht => (outcomes_fail hall t ht).1)).elim
  · refine ⟨x, hranked.mem_iff.mp (by simp), fun hnone => ?_, fun y hy hahead => ?_⟩
    · exact hfault (matches_settle_of_passes hbefore (passes_of_not_fails hnone hx)).fault
    · by_cases hmem : y ∈ before
      · exact hbefore y hmem
      · rcases eq_or_ahead_of_not_before hranked hy hmem with rfl | hbehind
        · exact (ahead_asymm hahead hahead).elim
        · exact (ahead_asymm hahead hbehind).elim

private theorem fault_check_oneOf_cases (hnamed : ∀ s ∈ alternatives, Likelihood.misnamed s d = false) :
    (check o (.oneOf about alternatives uri) path d).fault = none ∨ ∃ s ∈ alternatives,
      (check o (.oneOf about alternatives uri) path d).fault = (check o s path d).fault := by
  have htried : ∀ t ∈ alternatives.map fun s => (s, check o s path d), Likelihood.misnamed t.1 d = false := by
    rw [List.forall_mem_map]
    exact hnamed
  rw [check_oneOf_eq, Choice.choose_eq_settle htried]
  refine Choice.fault_settle_cases.imp_right ?_
  rintro ⟨t, ht, hfault⟩
  obtain ⟨s, hs, rfl⟩ := List.mem_map.mp ((Choice.order_perm d _).mem_iff.mp ht)
  exact ⟨s, hs, hfault⟩

theorem breaksOff_oneOf (hs : ∀ s ∈ alternatives, s.Throughout Schema.LimitsTyped)
    (h : ∀ s ∈ alternatives, (check o s path d).BreaksOff (Overshoots o s d)) :
    (check o (.oneOf about alternatives uri) path d).BreaksOff
      (Overshoots o (.oneOf about alternatives uri) d) := by
  have hnamed := fun s hmem => misnamed_of_limitsTyped (hs s hmem) d
  have hmem : ∀ x ∈ alternatives.zipIdx, x.1 ∈ alternatives := fun x hx =>
    List.mem_of_getElem? (List.mem_zipIdx_iff_getElem?.mp hx)
  have hanswer : ∀ x ∈ alternatives.zipIdx, (check o x.1 path d).fault = none →
      ((check o x.1 path d).errors = [] ↔ Conforms o x.1 d) := fun x hx =>
    errors_check_eq_nil_iff_of_fault (hs x.1 (hmem x hx)) o path d
  by_cases hfault : (check o (.oneOf about alternatives uri) path d).fault = none
  · refine breaksOff_of_answer hfault fun hovershoots => ?_
    cases hovershoots with
    | alternative hx hfirst hovershoots =>
        rcases h _ (hmem _ hx) with ⟨hxfault, -⟩ | ⟨-, hnot⟩
        · obtain ⟨y, hy, hpasses, hahead⟩ := (fault_check_oneOf_iff.mp hfault).2 _ hx (by simp [hxfault])
          exact hfirst y hy hahead ((hanswer y hy hpasses.1).mp hpasses.2)
        · exact hnot hovershoots
  · obtain ⟨x, hx, hxfault, hbefore⟩ := exists_first_fault hnamed hfault
    refine .inl ⟨?_, ?_⟩
    · obtain ⟨s, hmem, heq⟩ := (fault_check_oneOf_cases hnamed).resolve_left hfault
      rcases h s hmem with ⟨hlarge, -⟩ | ⟨hnone, -⟩
      · exact heq.trans hlarge
      · exact (hfault (heq.trans hnone)).elim
    · refine .alternative hx (fun y hy hahead hconforms => ?_) ?_
      · have hfails := hbefore y hy hahead
        exact hfails.2 ((hanswer y hy hfails.1).mpr hconforms)
      · rcases h x.1 (hmem x hx) with ⟨-, hovershoots⟩ | ⟨hnone, -⟩
        · exact hovershoots
        · exact (hxfault hnone).elim

end

/-! ## Checks -/

theorem breaksOff_check (hs : s.Throughout Schema.LimitsTyped) (o : Options) (path : String)
    (d : Document) : (check o s path d).BreaksOff (Overshoots o s d) := by
  induction hs generalizing path d with
  | string hlimits =>
      refine breaksOff_of_answer ?_ (by rintro ⟨⟩)
      cases d with
      | string t => exact fault_checkText hlimits
      | _ => rfl
  | number hbounds =>
      rw [check]
      split
      · rename_i hkind
        exact breaksOff_checkNumber hkind hbounds.1 hbounds.2
      · rename_i hkind
        exact breaksOff_of_answer rfl fun h => hkind (overshoots_number_iff.mp h).1
  | boolean | null | anyArray =>
      rw [check]
      refine breaksOff_of_answer ?_ (by rintro ⟨⟩)
      split <;> rfl
  | @object _ required properties additional hrequired _ ih =>
      cases d with
      | object fields =>
          rw [check_object_eq]
          have hproperties : (join (properties.map (checkProperty o path fields))).BreaksOff
              (∃ p ∈ properties, ∃ d, Fields.get? fields p.1 = some d ∧ Overshoots o p.2 d) :=
            breaksOff_join fun p hp => breaksOff_checkProperty (ih p hp)
          have hunknown : (checkUnknown path fields properties additional o).BreaksOff False :=
            breaksOff_of_answer fault_checkUnknown not_false
          refine breaksOff_congr (breaksOff_append (breaksOff_required hrequired)
            (breaksOff_append hproperties hunknown)) ?_
          simp [overshoots_object_iff]
      | _ => exact breaksOff_of_answer rfl (by rintro ⟨⟩)
  | array _ _ ih =>
      cases d with
      | array items =>
          rw [check]
          exact breaksOff_congr (breaksOff_items ih) overshoots_array_iff.symm
      | _ => exact breaksOff_of_answer rfl (by rintro ⟨⟩)
  | oneOf _ halternatives ih => exact breaksOff_oneOf halternatives fun s hs => ih s hs path d

theorem validateField_of_overshoots (hs : s.Throughout Schema.LimitsTyped) (h : Overshoots o s d) :
    Validator.validateField o s path d = .error .tooLarge := by
  rcases breaksOff_check hs o path d with ⟨hfault, -⟩ | ⟨-, hnot⟩
  · rw [Validator.validateField, verdict, hfault]
  · exact (hnot h).elim

theorem exists_validateField (hs : s.Throughout Schema.LimitsTyped) (path : String)
    (h : ¬ Overshoots o s d) :
    ∃ v, Validator.validateField o s path d = .ok v := by
  rcases breaksOff_check hs o path d with ⟨-, hovershoots⟩ | ⟨hfault, -⟩
  · exact (h hovershoots).elim
  · exact ⟨_, verdict_of_fault_eq_none hfault⟩

/-- **Checks have answers.**  A check against a schema whose limits are of the sorts that they are meant to be
has an answer, unless it comes to a number beyond a bound that is out of range; then, and only then, it breaks
off, and always for that reason. -/
theorem validateField_answers_iff {s : Schema} (hs : s.Throughout Schema.LimitsTyped) (o : Options)
    (path : String) (d : Document) :
    ((∃ v, Validator.validateField o s path d = .ok v) ↔ ¬ Overshoots o s d) ∧
      ∀ f, Validator.validateField o s path d = .error f ↔ f = .tooLarge ∧ Overshoots o s d := by
  by_cases h : Overshoots o s d
  · rw [validateField_of_overshoots hs h]
    refine ⟨iff_of_false (fun ⟨v, hv⟩ => nomatch hv) (not_not_intro h), fun f => ?_⟩
    exact ⟨fun hf => ⟨(Except.error.inj hf).symm, h⟩, fun hf => by rw [hf.1]⟩
  · obtain ⟨v, hv⟩ := exists_validateField hs path h
    rw [hv]
    exact ⟨iff_of_true ⟨v, rfl⟩ h, fun f => iff_of_false (fun hf => nomatch hf) fun hf => h hf.2⟩

/-- A minimum of 310 digits. -/
def remote : Document := .int (10 ^ (309 : Nat) : Nat)

theorem vast_remote : remote.Vast := by
  rw [remote, Document.Vast, Int.natAbs_natCast]
  decide +kernel

theorem zero_less_remote : (Document.int 0).less remote = true := by
  rw [remote, less_int]
  decide +kernel

theorem limitsTyped_remote : (Schema.number .nothing (some remote) none).Throughout Schema.LimitsTyped := by
  refine .number ⟨?_, fun _ h => nomatch h⟩
  rintro bound ⟨⟩
  rfl

/-- Null, or a number from that minimum on. -/
def nullOrRemote : Schema := .oneOf .nothing [.null .nothing, .number .nothing (some remote) none] none

/-- There is an answer for null, and none for zero, against a choice between null and a number from a minimum of
310 digits on. -/
theorem validateField_answers_of_choice : nullOrRemote.Throughout Schema.LimitsTyped ∧
    (∃ v, Validator.validateField .standard nullOrRemote "" .null = .ok v) ∧
    Validator.validateField .standard nullOrRemote "" (.int 0) = .error .tooLarge := by
  have htyped : nullOrRemote.Throughout Schema.LimitsTyped :=
    .oneOf trivial (List.forall_mem_cons.mpr ⟨.null trivial, List.forall_mem_singleton.mpr limitsTyped_remote⟩)
  refine ⟨htyped, (validateField_answers_iff htyped .standard "" .null).1.mpr fun h => ?_,
    ((validateField_answers_iff htyped .standard "" (.int 0)).2 _).mpr ⟨rfl, ?_⟩⟩
  · cases h with
    | alternative hx _ h =>
        simp only [List.zipIdx_cons, List.zipIdx_nil, List.mem_cons, List.not_mem_nil, or_false] at hx
        rcases hx with rfl | rfl
        · cases h
        · cases (overshoots_number_iff.mp h).1
  · refine .alternative (x := (_, 1)) (List.mem_cons_of_mem _ List.mem_cons_self) (fun y hy _ hconforms => ?_)
      (.low rfl vast_remote zero_less_remote)
    simp only [List.zipIdx_cons, List.zipIdx_nil, List.mem_cons, List.not_mem_nil, or_false] at hy
    rcases hy with rfl | rfl
    · cases hconforms
      contradiction
    · cases hconforms with
      | number _ hminimum _ => exact Bool.noConfusion (zero_less_remote.symm.trans (hminimum remote rfl))

/-- Not every check has an answer: not of zero against a minimum of 310 digits. -/
theorem not_always_answered : ¬ ∀ (written : Document) (s : Schema) (o : Options) (path : String) (d : Document),
    Schema.ofDocument written = .ok s → s.Throughout Schema.LimitsTyped →
      ∃ v, Validator.validateField o s path d = .ok v := by
  intro h
  obtain ⟨v, hv⟩ := h (.object [("type", .string "number"), ("minimum", remote)]) _ .standard "" (.int 0) rfl
    limitsTyped_remote
  cases hv.symm.trans (validateField_of_overshoots limitsTyped_remote (.low rfl vast_remote zero_less_remote))

end Proofs.Answers

end ReviewDiagnostics
