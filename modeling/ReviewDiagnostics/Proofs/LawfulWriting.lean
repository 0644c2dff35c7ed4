import ReviewDiagnostics.Proofs.Writing

/-!
# The laws of writing

Writing is all or nothing.  It is refused exactly where a value on the path cannot hold the step that follows
it, and then nothing has changed.  Otherwise the value is read back at its path, what is read elsewhere is as
before, and a second write along the same path leaves nothing of the first one.
-/

namespace ReviewDiagnostics

namespace Document

/-- Whether a step can lead on from a value: a name from an object, and an index from a list. -/
def canHold : Document → Segment → Bool
  | .object _, .name _ => true
  | .array _, .index _ => true
  | _, _ => false

/-- A path along which nothing can be written: it has no step, the document cannot hold the first one, or a
value on the way, which is there and is not null, cannot hold the step behind it. -/
inductive Unwritable (d : Document) : List Segment → Prop
  | empty : Unwritable d []
  | first {step : Segment} {rest : List Segment} (h : d.canHold step = false) : Unwritable d (step :: rest)
  | inside {base rest : List Segment} {step : Segment} {x : Document} (hx : d.at? base = .ok (some x))
      (hnull : x ≠ .null) (h : x.canHold step = false) : Unwritable d (base ++ step :: rest)

/-- The document that stands after an attempt to write into it. -/
def Written.standing (before : Document) : Written → Document
  | .refused => before
  | .done d => d
  | .beforeStart d => d

end Document

namespace Proofs.LawfulWriting

open Document Slots Writing

variable {d d' c v w : Document} {step next : Segment} {p rest more : List Segment}
  {fields : Fields} {items : List Document}

/-! ## What is refused -/

private theorem eq_null_of_at? (h : Document.null.at? p = .ok (some c)) : c = .null := by
  cases p with
  | nil => exact (Option.some.inj (Except.ok.inj h)).symm
  | cons step => cases step <;> cases h

theorem unwritable_cons_iff (hsteps : ∀ s ∈ step :: rest, s.FromStart) (hhold : d.canHold step = true) :
    d.Unwritable (step :: rest) ↔
      rest ≠ [] ∧ ∃ c, d.child? step = some c ∧ c ≠ .null ∧ c.Unwritable rest := by
  constructor
  · intro h
    generalize hpath : step :: rest = path at h
    cases h with
    | empty => cases hpath
    | first h =>
        obtain ⟨rfl, rfl⟩ := List.cons.inj hpath
        exact absurd hhold (by rw [h]; decide)
    | @inside base behind other x hx hnull h =>
        cases base with
        | nil =>
            obtain ⟨rfl, rfl⟩ := List.cons.inj hpath
            obtain rfl : d = x := Option.some.inj (Except.ok.inj hx)
            exact absurd hhold (by rw [h]; decide)
        | cons first base =>
            obtain ⟨rfl, rfl⟩ := List.cons.inj hpath
            refine ⟨by simp, ?_⟩
            cases hchild : d.child? step with
            | none =>
                rw [at?_cons_of_child?_eq_none (hsteps step List.mem_cons_self) hchild] at hx
                cases hx
            | some c =>
                rw [at?_cons_of_child? hchild] at hx
                refine ⟨c, rfl, ?_, .inside hx hnull h⟩
                rintro rfl
                exact hnull (eq_null_of_at? hx)
  · rintro ⟨hrest, c, hchild, hnull, h⟩
    cases h with
    | empty => exact absurd rfl hrest
    | first h =>
        have hx : d.at? [step] = .ok (some c) := at?_cons_of_child? hchild
        exact .inside hx hnull h
    | @inside base behind other x hx hx' h =>
        have hx : d.at? (step :: base) = .ok (some x) := (at?_cons_of_child? hchild).trans hx
        exact .inside hx hx' h

theorem unwritable_childFor_iff {slot? : Option Document} (hsteps : ∀ s ∈ next :: more, s.FromStart) :
    (childFor next slot?).Unwritable (next :: more) ↔
      ∃ c, slot? = some c ∧ c ≠ .null ∧ c.Unwritable (next :: more) := by
  have hmade : ¬ (container next).Unwritable (next :: more) := by
    have hhold : (container next).canHold next = true := by cases next <;> rfl
    rw [unwritable_cons_iff hsteps hhold]
    rintro ⟨-, c, hchild, -⟩
    cases next <;> simp [container, child?, Fields.get?] at hchild
  cases slot? with
  | none =>
      constructor
      · exact fun h => absurd h hmade
      · rintro ⟨c, hc, -⟩
        cases hc
  | some c =>
      by_cases hc : c = .null
      · subst hc
        constructor
        · exact fun h => absurd h hmade
        · rintro ⟨c, hc, hnull, -⟩
          exact absurd (Option.some.inj hc).symm hnull
      · simp [childFor_some next hc, hc]

theorem set?_cons_eq_none_iff (hstep : step.FromStart) (hhold : d.canHold step = true) :
    d.set? (step :: rest) v = none ↔ becomes (d.child? step) rest v = none := by
  cases d with
  | object fields =>
      cases step with
      | index n => cases hhold
      | name s =>
          rw [set?_object, Option.map_eq_none_iff]
          rfl
  | array items =>
      cases step with
      | name s => cases hhold
      | index n =>
          have hn : 0 ≤ n := hstep
          rw [set?_array hn, Option.map_eq_none_iff, child?, if_pos hn]
  | _ => cases step <;> cases hhold

private theorem set?_of_not_canHold (hhold : d.canHold step = false) : d.set? (step :: rest) v = none := by
  cases d with
  | object fields => cases step <;> first | rfl | cases hhold
  | array items => cases step <;> first | rfl | cases hhold
  | _ => cases step <;> rfl

/-- Nothing but an unwritable path is refused. -/
theorem set?_eq_none_iff (hp : ∀ s ∈ p, s.FromStart) : d.set? p v = none ↔ d.Unwritable p := by
  induction p generalizing d with
  | nil => exact ⟨fun _ => .empty, fun _ => rfl⟩
  | cons step rest ih =>
      obtain ⟨hstep, hrest⟩ := List.forall_mem_cons.mp hp
      cases hhold : d.canHold step with
      | false => exact ⟨fun _ => .first hhold, fun _ => set?_of_not_canHold hhold⟩
      | true =>
          rw [set?_cons_eq_none_iff hstep hhold, unwritable_cons_iff hp hhold]
          cases rest with
          | nil => simp [becomes]
          | cons next more =>
              rw [becomes, ih hrest, unwritable_childFor_iff hrest]
              simp

theorem write_cases (hp : ∀ s ∈ p, s.FromStart) : write v p d = .refused ∨ ∃ d', write v p d = .done d' := by
  induction p generalizing d with
  | nil => exact .inl rfl
  | cons step rest ih =>
      obtain ⟨hstep, hrest⟩ := List.forall_mem_cons.mp hp
      cases d with
      | object fields =>
          cases step with
          | index n => exact .inl rfl
          | name s =>
              cases rest with
              | nil => exact .inr ⟨_, rfl⟩
              | cons next more =>
                  rw [write]
                  rcases @ih (childFor next (Fields.get? fields s)) hrest with h | ⟨c, h⟩
                  · exact .inl (by rw [h]; rfl)
                  · exact .inr ⟨_, by rw [h]; rfl⟩
      | array items =>
          cases step with
          | name s => exact .inl rfl
          | index n =>
              -- No index of the path reaches back beyond the start of a list.
              have hindex : listIndex? items.length n = some n.toNat := if_pos hstep
              rw [write, hindex]
              cases rest with
              | nil => exact .inr ⟨_, rfl⟩
              | cons next more =>
                  rcases @ih (childFor next items[n.toNat]?) hrest with h | ⟨c, h⟩
                  · exact .inl (by dsimp only; rw [h]; rfl)
                  · exact .inr ⟨_, by dsimp only; rw [h]; rfl⟩
      | _ => exact .inl (by cases step <;> rfl)

theorem write_eq_refused_iff (hp : ∀ s ∈ p, s.FromStart) : write v p d = .refused ↔ d.Unwritable p := by
  rw [← set?_eq_none_iff (v := v) hp, set?]
  rcases write_cases (v := v) (d := d) hp with h | ⟨d', h⟩ <;> simp [h]

/-! ## Writing twice -/

theorem put_put (fields : Fields) (name : String) (v w : Document) :
    (fields.put name v).put name w = fields.put name w := by
  induction fields with
  | nil => simp [Fields.put]
  | cons field rest ih =>
      obtain ⟨k, x⟩ := field
      by_cases hk : k = name
      · simp [Fields.put, hk]
      · simp [Fields.put, hk, ih]

theorem putItem_putItem (items : List Document) (i : Nat) (v w : Document) :
    putItem (putItem items i v) i w = putItem items i w := by
  have hlength : i < (putItem items i v).length := by
    unfold putItem
    split
    · simpa
    · simp
      omega
  rw [putItem, if_pos hlength]
  unfold putItem
  split
  · rw [List.set_set]
  · rename_i hi
    rw [List.set_append_right _ _ (by simp; omega)]
    have hlast : i - (items ++ List.replicate (i - items.length) Document.null).length = 0 := by
      simp
      omega
    rw [hlast]
    rfl

private theorem ne_null_of_set? (hp : ∀ s ∈ p, s.FromStart) (h : d.set? p v = some d') : d' ≠ .null := by
  rintro rfl
  cases p with
  | nil => cases h
  | cons step rest =>
      obtain ⟨c, -, hchild, -⟩ := exists_child?_of_set? (hp step List.mem_cons_self) h
      cases step <;> cases hchild

theorem becomes_of_becomes {slot? : Option Document} (hrest : ∀ s ∈ rest, s.FromStart)
    (ih : ∀ {c c' : Document}, c.set? rest v = some c' → c'.set? rest w = c.set? rest w)
    (h : becomes slot? rest v = some c) : becomes (some c) rest w = becomes slot? rest w := by
  cases rest with
  | nil => rfl
  | cons next more =>
      unfold becomes at h ⊢
      dsimp only at h ⊢
      rw [childFor_some next (ne_null_of_set? hrest h)]
      exact ih h

theorem set?_of_set? (hp : ∀ s ∈ p, s.FromStart) (h : d.set? p v = some d') : d'.set? p w = d.set? p w := by
  induction p generalizing d d' with
  | nil => rfl
  | cons step rest ih =>
      obtain ⟨hstep, hrest⟩ := List.forall_mem_cons.mp hp
      cases d with
      | object fields =>
          cases step with
          | index n => cases h
          | name s =>
              rw [set?_object] at h
              obtain ⟨c, hc, rfl⟩ := Option.map_eq_some_iff.mp h
              rw [set?_object, set?_object, Fields.get?_put_self, becomes_of_becomes hrest (ih hrest) hc]
              simp only [put_put]
      | array items =>
          cases step with
          | name s => cases h
          | index n =>
              have hn : 0 ≤ n := hstep
              rw [set?_array hn] at h
              obtain ⟨c, hc, rfl⟩ := Option.map_eq_some_iff.mp h
              rw [set?_array hn, set?_array hn, getElem?_putItem_self,
                becomes_of_becomes hrest (ih hrest) hc]
              simp only [putItem_putItem]
      | _ => cases step <;> cases h

/-! ## All laws -/

/-- **Writing is atomic and lawful.**  An attempt to write along a path whose indices count from the start is
refused exactly where the path is unwritable, and then the document stands as before.  Otherwise it gives a
document in which the value is read at the path, every path apart from it reads as before, and a second write
along the path gives what writing directly gives. -/
theorem writing_is_lawful (hp : ∀ s ∈ p, s.FromStart) (d v : Document) :
    (d.Unwritable p → write v p d = .refused ∧ (write v p d).standing d = d) ∧
      (¬ d.Unwritable p → ∃ d', write v p d = .done d' ∧ d'.at? p = .ok (some v) ∧
        (∀ q, (∀ s ∈ q, s.FromStart) → Apart p q →
          ∃ x, d.valueAt q = .ok x ∧ d'.valueAt q = .ok x) ∧
        ∀ w, write w p d' = write w p d) := by
  constructor
  · intro h
    have hwrite : write v p d = .refused := (write_eq_refused_iff hp).mpr h
    exact ⟨hwrite, by rw [hwrite]; rfl⟩
  · intro h
    obtain ⟨d', hwrite⟩ := (write_cases (v := v) hp).resolve_left fun hrefused =>
      h ((write_eq_refused_iff hp).mp hrefused)
    have hset : d.set? p v = some d' := by rw [set?, hwrite]
    refine ⟨d', hwrite, at?_of_set? hp hset, fun q hq hapart => ?_, fun w => ?_⟩
    · refine ⟨(d.slot? q).join.getD .null, ?_, ?_⟩
      · rw [valueAt, at?_eq_join hq]
        rfl
      · rw [valueAt_of_set? hp hq hapart hset, valueAt, at?_eq_join hq]
        rfl
    · have hw : ¬ write w p d = .refused := fun hrefused => h ((write_eq_refused_iff hp).mp hrefused)
      obtain ⟨x, hx⟩ := (write_cases (v := w) hp).resolve_left hw
      have hagain : d'.set? p w = some x := by
        rw [set?_of_set? hp hset, set?, hx]
      rw [write_of_set? hagain, hx]

/-- A path through null, on which a list and an object are made, and one that a number blocks. -/
theorem writing_is_lawful_through_null :
    let d : Document := .object [("a", .null), ("b", .array [.int 1])]
    let free : List Segment := [.name "a", .index 1, .name "x"]
    let blocked : List Segment := [.name "b", .index 0, .name "x"]
    (∀ s ∈ free ++ blocked, s.FromStart) ∧ ¬ d.Unwritable free ∧ d.Unwritable blocked ∧
      write (.int 7) free d = .done (.object
        [("a", .array [.null, .object [("x", .int 7)]]), ("b", .array [.int 1])]) ∧
      (∃ d', write (.int 7) free d = .done d' ∧ d'.at? free = .ok (some (.int 7)) ∧
        ∀ w, write w free d' = write w free d) ∧
      write (.int 7) blocked d = .refused := by
  intro d free blocked
  have hfree : ∀ s ∈ free, s.FromStart := by simp [free, Segment.FromStart]
  have hblocked : ∀ s ∈ blocked, s.FromStart := by simp [blocked, Segment.FromStart]
  have hwrite : write (.int 7) free d = .done (.object
      [("a", .array [.null, .object [("x", .int 7)]]), ("b", .array [.int 1])]) := rfl
  have hwritable : ¬ d.Unwritable free := by
    rw [← write_eq_refused_iff (v := .int 7) hfree, hwrite]
    exact Written.noConfusion
  have hunwritable : d.Unwritable blocked :=
    @Unwritable.inside d [.name "b", .index 0] [] (.name "x") (.int 1) rfl Document.noConfusion rfl
  obtain ⟨d', hdone, hread, -, hagain⟩ := (writing_is_lawful hfree d (.int 7)).2 hwritable
  refine ⟨?_, hwritable, hunwritable, hwrite, ⟨d', hdone, hread, hagain⟩, ?_⟩
  · exact List.forall_mem_append.mpr ⟨hfree, hblocked⟩
  · exact ((writing_is_lawful hblocked d (.int 7)).1 hunwritable).1

end Proofs.LawfulWriting

end ReviewDiagnostics
