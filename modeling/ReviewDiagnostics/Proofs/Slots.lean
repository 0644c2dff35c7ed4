import ReviewDiagnostics.Document.Path

/-!
# Slots

A slot is a place where a value stands, or where an object lacks a field.  Writing at a slot succeeds,
puts the value there, and touches nothing but the slot: what stands at a path that runs neither into the
slot nor through it is the same as before, and what stands above it is still an object, or a list of the
same length.  The same holds of several writes at slots of which none lies in another one.  Where a path
goes on from an object with an index, nothing can be written.
-/

namespace ReviewDiagnostics

namespace Document

/-- The part of a document that a step leads to; an index counts from the start. -/
def child? : Document → Segment → Option Document
  | .object fields, .name s => Fields.get? fields s
  | .array items, .index n => if 0 ≤ n then items[n.toNat]? else none
  | _, _ => none

/-- Whether a document is an object without a certain field. -/
def lacks : Document → Segment → Bool
  | .object fields, .name s => (Fields.get? fields s).isNone
  | _, _ => false

/-- The slot that a path leads to: the value that stands there, or nothing where an object lacks the
field that the path ends in; `none` if the path does not lead to a slot. -/
def slot? (d : Document) : List Segment → Option (Option Document)
  | [] => some (some d)
  | step :: rest =>
    match d.child? step with
    | some c => c.slot? rest
    | none => if d.lacks step && rest.isEmpty then some none else none

/-- An object has no place for an index. -/
def shuts : Document → Segment → Bool
  | .object _, .index _ => true
  | _, _ => false

/-- Whether a path leads to an object and goes on from there with an index. -/
def bars (d : Document) : List Segment → Bool
  | [] => false
  | step :: rest =>
    d.shuts step || match d.child? step with
      | some c => c.bars rest
      | none => false

/-- A document with another part where a step leads to. -/
def putChild : Document → Segment → Document → Document
  | .object fields, .name s, value => .object (Fields.put fields s value)
  | .array items, .index n, value => .array (items.set n.toNat value)
  | d, _, _ => d

/-- Both are objects, or lists of one length, or the same. -/
def SameShape : Document → Document → Prop
  | .object _, .object _ => True
  | .array xs, .array ys => xs.length = ys.length
  | x, y => x = y

end Document

/-- Neither of two paths leads to the other one. -/
def Apart (p q : List Segment) : Prop := ¬ p <+: q ∧ ¬ q <+: p

namespace Proofs.Slots

open Document

variable {d d' c value : Document} {step other : Segment} {p q rest : List Segment}
  {slot : Option Document} {writes : List (List Segment × Document)}

/-! ## Paths that are apart -/

theorem apart_comm : Apart p q ↔ Apart q p := and_comm

theorem apart_cons_iff : Apart (step :: p) (other :: q) ↔ (step = other → Apart p q) := by
  simp only [Apart, List.cons_prefix_cons]
  constructor
  · rintro ⟨hpq, hqp⟩ rfl
    exact ⟨fun h => hpq ⟨rfl, h⟩, fun h => hqp ⟨rfl, h⟩⟩
  · intro h
    exact ⟨fun hpq => (h hpq.1).1 hpq.2, fun hqp => (h hqp.1.symm).2 hqp.2⟩

theorem apart_append_iff {base : List Segment} : Apart (base ++ p) (base ++ q) ↔ Apart p q := by
  simp only [Apart, List.prefix_append_right_inj]

theorem apart_of_ne {base r : List Segment} (h : step ≠ other) :
    Apart (base ++ step :: p) (base ++ other :: r) :=
  apart_append_iff.mpr (apart_cons_iff.mpr fun heq => (h heq).elim)

theorem prefix_singleton (h : p <+: [step]) : p = [] ∨ p = [step] := by
  rcases List.prefix_cons_iff.mp h with hnil | ⟨rest, hpath, hrest⟩
  · exact .inl hnil
  · exact .inr (by rw [hpath, List.prefix_nil.mp hrest])

theorem not_apart_nil : ¬ Apart [] q := fun h => h.1 List.nil_prefix

theorem not_apart_nil_right : ¬ Apart p [] := fun h => h.2 List.nil_prefix

/-! ## Shapes -/

theorem sameShape_refl (d : Document) : SameShape d d := by
  cases d with
  | object fields => trivial
  | _ => exact Eq.refl _

theorem sameShape_trans {x y z : Document} (hxy : SameShape x y) (hyz : SameShape y z) :
    SameShape x z := by
  cases x <;> cases y <;> cases z <;> simp_all [SameShape]

/-! ## One step -/

/-- A step leads to a part, or to a field that could be added. -/
def Reaches (d : Document) (step : Segment) : Prop :=
  d.child? step ≠ none ∨ d.lacks step = true

theorem child?_putChild_self (h : Reaches d step) :
    (d.putChild step value).child? step = some value := by
  cases d with
  | object fields =>
      cases step with
      | name s => exact Fields.get?_put_self fields s value
      | index n => simp [Reaches, child?, lacks] at h
  | array items =>
      cases step with
      | name s => simp [Reaches, child?, lacks] at h
      | index n =>
          simp only [Reaches, child?, lacks] at h
          by_cases hn : 0 ≤ n
          · have hlength : n.toNat < items.length := by simpa [hn] using h
            simp [putChild, child?, hn, hlength]
          · simp [hn] at h
  | _ => simp [Reaches, child?, lacks] at h

theorem child?_putChild_of_ne (h : Reaches d step) (hne : other ≠ step) :
    (d.putChild step value).child? other = d.child? other := by
  cases d with
  | object fields =>
      cases step with
      | index n => rfl
      | name s =>
          cases other with
          | index m => rfl
          | name t => exact Fields.get?_put_of_ne value fun hst => hne (congrArg _ hst)
  | array items =>
      cases step with
      | name s => rfl
      | index n =>
          cases other with
          | name t => rfl
          | index m =>
              have hn : 0 ≤ n := by
                simp only [Reaches, child?, lacks] at h
                by_cases hn : 0 ≤ n
                · exact hn
                · simp [hn] at h
              have hmn : m ≠ n := fun heq => hne (congrArg _ heq)
              simp only [putChild, child?]
              split
              · rw [List.getElem?_set_ne (by omega)]
              · rfl
  | _ => rfl

theorem lacks_putChild_of_ne (hne : other ≠ step) :
    (d.putChild step value).lacks other = d.lacks other := by
  cases d with
  | object fields =>
      cases step with
      | index n => rfl
      | name s =>
          cases other with
          | index m => rfl
          | name t =>
              rw [putChild, lacks, lacks, Fields.get?_put_of_ne value fun hst => hne (congrArg _ hst)]
  | array items => cases step <;> rfl
  | _ => rfl

theorem sameShape_putChild (d : Document) (step : Segment) (value : Document) :
    SameShape d (d.putChild step value) := by
  cases d with
  | array items =>
      cases step with
      | name s => exact sameShape_refl _
      | index n => simp [putChild, SameShape]
  | object fields => cases step <;> trivial
  | _ => rfl

/-! ## Slots -/

theorem slot?_cons : d.slot? (step :: rest) =
    match d.child? step with
    | some c => c.slot? rest
    | none => if d.lacks step && rest.isEmpty then some none else none := rfl

theorem slot?_cons_of_child? (h : d.child? step = some c) : d.slot? (step :: rest) = c.slot? rest := by
  rw [slot?_cons, h]

theorem slot?_field (fields : Fields) (name : String) :
    (Document.object fields).slot? [.name name] = some (Fields.get? fields name) := by
  rw [slot?_cons, child?, lacks]
  cases Fields.get? fields name <;> simp [slot?]

theorem slot?_append (h : d.slot? p = some (some c)) : d.slot? (p ++ q) = c.slot? q := by
  induction p generalizing d with
  | nil =>
      obtain rfl : d = c := by simpa [slot?] using h
      rfl
  | cons step p ih =>
      rw [List.cons_append, slot?_cons]
      rw [slot?_cons] at h
      split at h
      · exact ih h
      · split at h <;> simp at h

theorem exists_child?_of_slot? (h : d.slot? (step :: other :: rest) = some slot) :
    ∃ c, d.child? step = some c ∧ c.slot? (other :: rest) = some slot := by
  rw [slot?_cons] at h
  split at h
  · rename_i c hc
    exact ⟨c, hc, h⟩
  · simp at h

theorem child?_of_slot? (h : d.slot? [step] = some slot) : d.child? step = slot := by
  rw [slot?_cons] at h
  split at h
  · rename_i c hc
    rw [hc]
    exact Option.some.inj h
  · rename_i hnone
    split at h
    · rw [hnone]
      exact Option.some.inj h
    · cases h

theorem reaches_of_slot? (h : d.slot? (step :: rest) = some slot) : Reaches d step := by
  rw [slot?_cons] at h
  split at h
  · rename_i c hc
    exact .inl (by simp [hc])
  · split at h
    · rename_i hlacks
      simp only [Bool.and_eq_true] at hlacks
      exact .inr hlacks.1
    · cases h

theorem exists_slot?_of_append (hq : q ≠ []) (h : d.slot? (p ++ q) = some slot) :
    ∃ x, d.slot? p = some (some x) ∧ x.slot? q = some slot := by
  induction p generalizing d with
  | nil => exact ⟨d, rfl, h⟩
  | cons step p ih =>
      have hne : p ++ q ≠ [] := by simp [hq]
      obtain ⟨other, rest, hrest⟩ := List.exists_cons_of_ne_nil hne
      rw [List.cons_append, hrest] at h
      obtain ⟨c, hchild, hslot⟩ := exists_child?_of_slot? h
      obtain ⟨x, hx, hslot⟩ := ih (hrest ▸ hslot)
      exact ⟨x, (slot?_cons_of_child? hchild).trans hx, hslot⟩

theorem at?_cons_of_child? (h : d.child? step = some c) : d.at? (step :: rest) = c.at? rest := by
  cases d with
  | object fields =>
      cases step with
      | index n => cases h
      | name s =>
          have hget : Fields.get? fields s = some c := h
          rw [Document.at?, hget]
  | array items =>
      cases step with
      | name s => cases h
      | index n =>
          rw [Document.child?] at h
          split at h
          · rename_i hn
            rw [Document.at?, Document.listIndex?, if_pos hn]
            dsimp only
            rw [h]
          · cases h
  | _ => cases step <;> cases h

theorem bars_cons : d.bars (step :: rest) =
    (d.shuts step || match d.child? step with
      | some c => c.bars rest
      | none => false) := rfl

theorem at?_of_slot? (h : d.slot? p = some slot) : d.at? p = .ok slot := by
  induction p generalizing d with
  | nil =>
      obtain rfl : some d = slot := by simpa [slot?] using h
      rfl
  | cons step p ih =>
      rw [slot?_cons] at h
      split at h
      · rename_i c hchild
        rw [at?_cons_of_child? hchild]
        exact ih h
      · split at h
        · rename_i hempty
          obtain ⟨hlacks, hrest⟩ := Bool.and_eq_true_iff.mp hempty
          obtain rfl := Option.some.inj h
          cases d with
          | object fields =>
              cases step with
              | name s =>
                  have hget : (Fields.get? fields s).isNone = true := hlacks
                  rw [at?, Option.isNone_iff_eq_none.mp hget]
              | index n => cases hlacks
          | _ => cases hlacks
        · cases h

/-! ## Paths that are barred -/

/-- A path is barred where it leaves an object with an index. -/
theorem bars_iff : d.bars q = true ↔
    ∃ p n rest fields, q = p ++ .index n :: rest ∧ d.slot? p = some (some (.object fields)) := by
  induction q generalizing d with
  | nil => simp [bars]
  | cons step q ih =>
      rw [bars_cons, Bool.or_eq_true]
      constructor
      · rintro (hshuts | hinside)
        · cases d with
          | object fields =>
              cases step with
              | name s => cases hshuts
              | index n => exact ⟨[], n, q, fields, rfl, rfl⟩
          | _ => cases hshuts
        · split at hinside
          · rename_i c hchild
            obtain ⟨p, n, rest, fields, rfl, hp⟩ := ih.mp hinside
            exact ⟨step :: p, n, rest, fields, rfl, (slot?_cons_of_child? hchild).trans hp⟩
          · cases hinside
      · rintro ⟨p, n, rest, fields, hq, hp⟩
        cases p with
        | nil =>
            obtain ⟨rfl, rfl⟩ := List.cons.inj hq
            obtain rfl : d = .object fields := by simpa [slot?] using hp
            exact .inl rfl
        | cons other p =>
            obtain ⟨rfl, rfl⟩ := List.cons.inj hq
            right
            rw [slot?_cons] at hp
            split at hp
            · exact ih.mpr ⟨p, n, rest, fields, rfl, hp⟩
            · split at hp <;> simp at hp

theorem bars_append (h : d.bars p = true) : d.bars (p ++ q) = true := by
  obtain ⟨r, n, rest, fields, rfl, hr⟩ := bars_iff.mp h
  exact bars_iff.mpr ⟨r, n, rest ++ q, fields, by simp, hr⟩

theorem bars_append_of_slot? (h : d.slot? p = some (some c)) : d.bars (p ++ q) = c.bars q := by
  induction p generalizing d with
  | nil =>
      obtain rfl : d = c := by simpa [slot?] using h
      rfl
  | cons step p ih =>
      rw [slot?_cons] at h
      split at h
      · rename_i x hchild
        have hopen : d.shuts step = false := by
          cases d with
          | object fields =>
              cases step with
              | name s => rfl
              | index n => cases hchild
          | _ => rfl
        rw [List.cons_append, bars_cons, hopen, hchild, Bool.false_or]
        exact ih h
      · split at h <;> simp at h

theorem bars_of_slot? (h : d.slot? p = some slot) : d.bars p = false := by
  rw [Bool.eq_false_iff]
  intro hbars
  obtain ⟨r, n, rest, fields, rfl, hr⟩ := bars_iff.mp hbars
  obtain ⟨x, hx, hslot⟩ := exists_slot?_of_append (List.cons_ne_nil _ _) h
  obtain rfl : x = .object fields := by
    rw [hr] at hx
    exact (Option.some.inj (Option.some.inj hx)).symm
  simp [slot?_cons, child?, lacks] at hslot

/-! ## Writing at a slot -/

theorem set?_singleton (h : Reaches d step) :
    d.set? [step] value = some (d.putChild step value) := by
  cases d with
  | object fields =>
      cases step with
      | name s => rfl
      | index n => simp [Reaches, child?, lacks] at h
  | array items =>
      cases step with
      | name s => simp [Reaches, child?, lacks] at h
      | index n =>
          simp only [Reaches, child?, lacks] at h
          by_cases hn : 0 ≤ n
          · have hlength : n.toNat < items.length := by simpa [hn] using h
            simp [set?, write, listIndex?, hn, putItem, putChild, hlength]
          · simp [hn] at h
  | _ => simp [Reaches, child?, lacks] at h

theorem ne_null_of_slot? (h : c.slot? (step :: rest) = some slot) : c ≠ .null := by
  rintro rfl
  simp [slot?_cons, child?, lacks] at h

theorem childFor_some (next : Segment) (hc : c ≠ .null) : childFor next (some c) = c := by
  cases c <;> first | exact (hc rfl).elim | rfl

theorem write_of_set? (h : c.set? p value = some d') : write value p c = .done d' := by
  rw [set?] at h
  split at h
  · rename_i hwrite
    rw [hwrite, Option.some.inj h]
  · cases h

theorem write_cons (hchild : d.child? step = some c) (hc : c ≠ .null) :
    write value (step :: other :: rest) d = (write value (other :: rest) c).map (d.putChild step) := by
  cases d with
  | object fields =>
      cases step with
      | index n => cases hchild
      | name s =>
          have hget : Fields.get? fields s = some c := hchild
          rw [write, hget, childFor_some other hc]
          rfl
  | array items =>
      cases step with
      | name s => cases hchild
      | index n =>
          rw [child?] at hchild
          split at hchild
          · rename_i hn
            obtain ⟨hlength, -⟩ := List.getElem?_eq_some_iff.mp hchild
            rw [write]
            simp only [listIndex?, if_pos hn, hchild, childFor_some other hc, putItem, if_pos hlength]
            rfl
          · cases hchild
  | _ => cases step <;> cases hchild

theorem set?_cons (hchild : d.child? step = some c) (hc : c ≠ .null)
    (h : c.set? (other :: rest) value = some d') :
    d.set? (step :: other :: rest) value = some (d.putChild step d') := by
  rw [set?, write_cons hchild hc, write_of_set? h]
  rfl

theorem write_of_bars (h : d.bars p = true) : write value p d = .refused := by
  induction p generalizing d with
  | nil => cases h
  | cons step p ih =>
      rw [bars_cons, Bool.or_eq_true] at h
      rcases h with hshuts | hinside
      · cases d with
        | object fields =>
            cases step with
            | name s => cases hshuts
            | index n => rfl
        | _ => cases hshuts
      · split at hinside
        · rename_i c hchild
          have hrefused := ih hinside
          have hnull : c ≠ .null := by
            rintro rfl
            obtain ⟨q, n, rest, fields, rfl, hq⟩ := bars_iff.mp hinside
            cases q with
            | nil => cases hq
            | cons other q => exact ne_null_of_slot? hq rfl
          cases p with
          | nil => cases hinside
          | cons other rest =>
              rw [write_cons hchild hnull, hrefused]
              rfl
        · cases hinside

theorem set?_of_bars (h : d.bars p = true) : d.set? p value = none := by
  rw [set?, write_of_bars h]

/-- What writing a value at a path does to a document. -/
structure Replaced (d : Document) (p : List Segment) (value d' : Document) : Prop where
  written : d'.slot? p = some (some value)
  apart : ∀ q, Apart p q → d'.slot? q = d.slot? q
  above : ∀ q x, ¬ p <+: q → d.slot? q = some (some x) → ∃ y, d'.slot? q = some (some y) ∧ SameShape x y

theorem bars_of_replaced (hslot : d.slot? p = some slot) (h : Replaced d p value d')
    (hapart : Apart p q) : d'.bars q = d.bars q := by
  rw [Bool.eq_iff_iff, bars_iff, bars_iff]
  constructor
  · rintro ⟨r, n, rest, fields, rfl, hr⟩
    refine ⟨r, n, rest, ?_⟩
    by_cases hbelow : r <+: p
    · -- The path that is written at leads on from the object that bars the other path.
      obtain ⟨tail, rfl⟩ := hbelow
      have htail : tail ≠ [] := by
        rintro rfl
        exact hapart.1 (by simp)
      obtain ⟨x, hx, -⟩ := exists_slot?_of_append htail hslot
      have hnot : ¬ r ++ tail <+: r := fun hbegins => by
        have hlength := hbegins.length_le
        rw [List.length_append] at hlength
        exact htail (List.length_eq_zero_iff.mp (by omega))
      obtain ⟨y, hy, hshape⟩ := h.above r x hnot hx
      rw [hr] at hy
      obtain rfl := Option.some.inj (Option.some.inj hy)
      cases x with
      | object fields => exact ⟨fields, rfl, hx⟩
      | _ => cases hshape
    · have hnot : ¬ p <+: r := fun hbegins => hapart.1 (hbegins.trans (List.prefix_append r _))
      exact ⟨fields, rfl, (h.apart r ⟨hnot, hbelow⟩).symm.trans hr⟩
  · rintro ⟨r, n, rest, fields, rfl, hr⟩
    have hnot : ¬ p <+: r := fun hbegins => hapart.1 (hbegins.trans (List.prefix_append r _))
    obtain ⟨y, hy, hshape⟩ := h.above r _ hnot hr
    cases y with
    | object fields => exact ⟨r, n, rest, fields, rfl, hy⟩
    | _ => cases hshape

theorem replaced_putChild (h : Reaches d step) :
    Replaced d [step] value (d.putChild step value) where
  written := by rw [slot?_cons, child?_putChild_self h]; rfl
  apart := by
    intro q hq
    cases q with
    | nil => exact (not_apart_nil_right hq).elim
    | cons other q =>
        have hne : other ≠ step := by
          rintro rfl
          exact not_apart_nil (apart_cons_iff.mp hq rfl)
        rw [slot?_cons, slot?_cons, child?_putChild_of_ne h hne, lacks_putChild_of_ne hne]
  above := by
    intro q x hq hx
    cases q with
    | nil =>
        obtain rfl : d = x := by simpa [slot?] using hx
        exact ⟨_, rfl, sameShape_putChild d step value⟩
    | cons other q =>
        have hne : other ≠ step := by
          rintro rfl
          exact hq (List.cons_prefix_cons.mpr ⟨rfl, List.nil_prefix⟩)
        refine ⟨x, ?_, sameShape_refl x⟩
        rw [slot?_cons, child?_putChild_of_ne h hne, lacks_putChild_of_ne hne, ← slot?_cons, hx]

private theorem replaced_cons (hchild : d.child? step = some c) (h : Replaced c p value d') :
    Replaced d (step :: p) value (d.putChild step d') := by
  have hreaches : Reaches d step := .inl (by simp [hchild])
  refine ⟨?_, fun q hq => ?_, fun q x hq hx => ?_⟩
  · rw [slot?_cons, child?_putChild_self hreaches]
    exact h.written
  · cases q with
    | nil => exact (not_apart_nil_right hq).elim
    | cons other q =>
        by_cases hother : other = step
        · subst hother
          rw [slot?_cons_of_child? (child?_putChild_self hreaches), slot?_cons_of_child? hchild]
          exact h.apart q (apart_cons_iff.mp hq rfl)
        · rw [slot?_cons, slot?_cons, child?_putChild_of_ne hreaches hother,
            lacks_putChild_of_ne hother]
  · cases q with
    | nil =>
        obtain rfl : d = x := by simpa [slot?] using hx
        exact ⟨_, rfl, sameShape_putChild d step d'⟩
    | cons other q =>
        by_cases hother : other = step
        · subst hother
          rw [slot?_cons_of_child? hchild] at hx
          rw [slot?_cons_of_child? (child?_putChild_self hreaches)]
          exact h.above q x (fun hp => hq (List.cons_prefix_cons.mpr ⟨rfl, hp⟩)) hx
        · refine ⟨x, ?_, sameShape_refl x⟩
          rw [slot?_cons, child?_putChild_of_ne hreaches hother, lacks_putChild_of_ne hother,
            ← slot?_cons, hx]

/-- Writing at a slot succeeds and touches nothing else. -/
theorem exists_replaced (hp : p ≠ []) (h : d.slot? p = some slot) (value : Document) :
    ∃ d', d.set? p value = some d' ∧ Replaced d p value d' := by
  induction p generalizing d with
  | nil => exact (hp rfl).elim
  | cons step p ih =>
      cases p with
      | nil =>
          have hreaches := reaches_of_slot? h
          exact ⟨_, set?_singleton hreaches, replaced_putChild hreaches⟩
      | cons other rest =>
          obtain ⟨c, hchild, hslot⟩ := exists_child?_of_slot? h
          obtain ⟨c', hset, hreplaced⟩ := ih (List.cons_ne_nil _ _) hslot
          exact ⟨_, set?_cons hchild (ne_null_of_slot? hslot) hset, replaced_cons hchild hreplaced⟩

/-! ## Several writes -/

/-- What several writes do to a document. -/
structure Rewritten (d : Document) (writes : List (List Segment × Document)) (d' : Document) :
    Prop where
  written : ∀ w ∈ writes, d'.slot? w.1 = some (some w.2)
  apart : ∀ q, (∀ w ∈ writes, Apart w.1 q) → d'.slot? q = d.slot? q
  above : ∀ q x, (∀ w ∈ writes, ¬ w.1 <+: q) → d.slot? q = some (some x) →
    ∃ y, d'.slot? q = some (some y) ∧ SameShape x y

theorem rewritten_nil : Rewritten d [] d where
  written := by simp
  apart := fun _ _ => rfl
  above := fun _ x _ hx => ⟨x, hx, sameShape_refl x⟩

theorem rewritten_cons {w : List Segment × Document} (hapart : ∀ u ∈ writes, Apart w.1 u.1)
    (hw : Replaced d w.1 w.2 c) (h : Rewritten c writes d') : Rewritten d (w :: writes) d' where
  written := by
    refine List.forall_mem_cons.mpr ⟨?_, h.written⟩
    rw [h.apart w.1 fun u hu => apart_comm.mp (hapart u hu)]
    exact hw.written
  apart := by
    intro q hq
    obtain ⟨hwq, hq⟩ := List.forall_mem_cons.mp hq
    rw [h.apart q hq, hw.apart q hwq]
  above := by
    intro q x hq hx
    obtain ⟨hwq, hq⟩ := List.forall_mem_cons.mp hq
    obtain ⟨y, hy, hxy⟩ := hw.above q x hwq hx
    obtain ⟨z, hz, hyz⟩ := h.above q y hq hy
    exact ⟨z, hz, sameShape_trans hxy hyz⟩

end Proofs.Slots

end ReviewDiagnostics
