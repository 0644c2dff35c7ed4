import ReviewDiagnostics.Proofs.Slots

/-!
# Writing along a path

A value is written by the first step of its path: the part that the step leads to becomes the value, or what
writing along the rest of the path makes of it, and all other parts read as before.  A list that is too short
is filled up with nulls, and null is what was read there before.  So writing along one path changes nothing
that is read along another one, unless one of them leads to the other.
-/

namespace ReviewDiagnostics

/-- A step that does not count from the end of a list. -/
def Segment.FromStart : Segment → Prop
  | .name _ => True
  | .index n => 0 ≤ n

/-- What is read at a path: null where nothing stands. -/
def Document.valueAt (d : Document) (steps : List Segment) : Except Fault Document :=
  (·.getD .null) <$> d.at? steps

/-- What a part becomes by writing along the rest of a path. -/
def Document.becomes (slot? : Option Document) (rest : List Segment) (value : Document) :
    Option Document :=
  match rest with
  | [] => some value
  | next :: more => (Document.childFor next slot?).set? (next :: more) value

namespace Proofs.Writing

open Document Slots

variable {d d' c value : Document} {step other : Segment} {p q rest steps : List Segment}
  {fields : Fields} {items : List Document}

/-! ## Steps that are read from a text -/

theorem exists_of_cons_ok {read : Except Fault (List Segment)}
    (h : (do return step :: (← read)) = Except.ok steps) :
    ∃ rest, read = .ok rest ∧ steps = step :: rest := by
  cases read with
  | error fault => cases h
  | ok rest => exact ⟨rest, rfl, (Except.ok.inj h).symm⟩

private theorem fromStart_of_scan {cs : List Char} (h : Path.scan cs = .ok steps) :
    ∀ step ∈ steps, step.FromStart := by
  fun_induction Path.scan cs generalizing steps
  case case1 => simp [← Except.ok.inj h]
  case case2 => cases h
  case case3 ih =>
    obtain ⟨rest, hrest, rfl⟩ := exists_of_cons_ok h
    exact List.forall_mem_cons.mpr ⟨Int.natCast_nonneg _, ih hrest⟩
  case case4 ih => exact ih h
  case case5 ih => exact ih h
  case case6 ih =>
    obtain ⟨rest, hrest, rfl⟩ := exists_of_cons_ok h
    exact List.forall_mem_cons.mpr ⟨trivial, ih hrest⟩

theorem fromStart_of_parse {path : String} (h : Path.parse path = .ok steps) :
    ∀ step ∈ steps, step.FromStart :=
  fromStart_of_scan h

/-! ## Reading -/

theorem at?_cons_of_child?_eq_none (hstep : step.FromStart) (h : d.child? step = none) :
    d.at? (step :: rest) = .ok none := by
  cases d with
  | object fields =>
      cases step with
      | index n => rfl
      | name s =>
          have hget : Fields.get? fields s = none := h
          rw [Document.at?, hget]
  | array items =>
      cases step with
      | name s => rfl
      | index n =>
          have hn : 0 ≤ n := hstep
          rw [child?, if_pos hn] at h
          rw [Document.at?, listIndex?, if_pos hn]
          simp only [h]
  | _ => cases step <;> rfl

theorem at?_eq_join (hsteps : ∀ s ∈ steps, s.FromStart) : d.at? steps = .ok (d.slot? steps).join := by
  induction steps generalizing d with
  | nil => rfl
  | cons step rest ih =>
      obtain ⟨hstep, hrest⟩ := List.forall_mem_cons.mp hsteps
      cases hchild : d.child? step with
      | some c => rw [at?_cons_of_child? hchild, slot?_cons_of_child? hchild, ih hrest]
      | none =>
          rw [at?_cons_of_child?_eq_none hstep hchild, slot?_cons, hchild]
          dsimp only
          split <;> rfl

theorem valueAt_cons (hsteps : ∀ s ∈ step :: rest, s.FromStart) :
    d.valueAt (step :: rest) = ((d.child? step).getD .null).valueAt rest := by
  induction rest generalizing d step with
  | nil =>
      cases hchild : d.child? step with
      | some c => rw [valueAt, at?_cons_of_child? hchild]; rfl
      | none =>
          rw [valueAt, at?_cons_of_child?_eq_none (hsteps step (by simp)) hchild]
          rfl
  | cons next rest ih =>
      cases hchild : d.child? step with
      | some c => rw [valueAt, at?_cons_of_child? hchild]; rfl
      | none =>
          -- Null has no parts, so that both sides read null from here on.
          have hnull : Document.null.child? next = none := by cases next <;> rfl
          have hrest := fun s hs => hsteps s (List.mem_cons_of_mem step hs)
          rw [valueAt, at?_cons_of_child?_eq_none (hsteps step (by simp)) hchild, Option.getD_none,
            valueAt, at?_cons_of_child?_eq_none (hrest next (by simp)) hnull]

theorem valueAt_childFor (next : Segment) (slot? : Option Document)
    (hsteps : ∀ s ∈ step :: rest, s.FromStart) :
    (childFor next slot?).valueAt (step :: rest) = (slot?.getD .null).valueAt (step :: rest) := by
  have hcontainer : (container next).child? step = none := by
    cases next <;> cases step <;> simp [container, child?, Fields.get?]
  have hnull : Document.null.child? step = none := by cases step <;> rfl
  have hmade : (container next).valueAt (step :: rest) = Document.null.valueAt (step :: rest) := by
    rw [valueAt_cons hsteps, valueAt_cons hsteps, hcontainer, hnull]
  cases slot? with
  | none => exact hmade
  | some c =>
      by_cases hc : c = .null
      · subst hc
        exact hmade
      · rw [childFor_some next hc, Option.getD_some]

/-! ## Writing -/

theorem set?_object {s : String} : (Document.object fields).set? (.name s :: rest) value =
    (becomes (Fields.get? fields s) rest value).map fun c => .object (Fields.put fields s c) := by
  cases rest with
  | nil => rfl
  | cons next more =>
      rw [set?, write, becomes, set?]
      cases write value (next :: more) (childFor next (Fields.get? fields s)) <;> rfl

theorem set?_array {n : Int} (hn : 0 ≤ n) :
    (Document.array items).set? (.index n :: rest) value =
      (becomes items[n.toNat]? rest value).map fun c => .array (putItem items n.toNat c) := by
  have hindex : listIndex? items.length n = some n.toNat := if_pos hn
  cases rest with
  | nil =>
      rw [set?, write, hindex]
      rfl
  | cons next more =>
      rw [set?, write, hindex, becomes, set?]
      dsimp only
      cases write value (next :: more) (childFor next items[n.toNat]?) <;> rfl

theorem getElem?_putItem_self (items : List Document) (i : Nat) (c : Document) :
    (putItem items i c)[i]? = some c := by
  rw [putItem]
  split
  · rename_i hi
    exact List.getElem?_set_self hi
  · rw [List.getElem?_append_right (by simp; omega)]
    have hlast : i - (items ++ List.replicate (i - items.length) Document.null).length = 0 := by
      simp
      omega
    rw [hlast]
    rfl

private theorem getD_getElem?_putItem_of_ne (items : List Document) {i j : Nat} (c : Document) (h : j ≠ i) :
    ((putItem items i c)[j]?).getD .null = (items[j]?).getD .null := by
  rw [putItem]
  split
  · rw [List.getElem?_set_ne (Ne.symm h)]
  · rename_i hi
    by_cases hj : j < items.length
    · rw [List.getElem?_append_left (by simp; omega), List.getElem?_append_left hj]
    · rw [List.getElem?_eq_none (show items.length ≤ j by omega), List.append_assoc,
        List.getElem?_append_right (by omega)]
      -- The nulls that a list is filled up with read like what is missing.
      by_cases hfill : j < i
      · rw [List.getElem?_append_left (by simp; omega), List.getElem?_replicate_of_lt (by omega)]
        rfl
      · rw [List.getElem?_eq_none (by simp; omega)]

theorem exists_child?_of_set? (hstep : step.FromStart) (h : d.set? (step :: rest) value = some d') :
    ∃ c, becomes (d.child? step) rest value = some c ∧ d'.child? step = some c ∧
      ∀ other, other.FromStart → other ≠ step →
        (d'.child? other).getD .null = (d.child? other).getD .null := by
  cases d with
  | object fields =>
      cases step with
      | index n => cases h
      | name s =>
          rw [set?_object] at h
          obtain ⟨c, hc, rfl⟩ := Option.map_eq_some_iff.mp h
          refine ⟨c, hc, Fields.get?_put_self fields s c, fun other _ hother => ?_⟩
          cases other with
          | index n => rfl
          | name t =>
              have hne : t ≠ s := fun heq => hother (congrArg _ heq)
              simp only [child?, Fields.get?_put_of_ne c hne]
  | array items =>
      cases step with
      | name s => cases h
      | index n =>
          have hn : 0 ≤ n := hstep
          rw [set?_array hn] at h
          obtain ⟨c, hc, rfl⟩ := Option.map_eq_some_iff.mp h
          refine ⟨c, ?_, ?_, fun other hstart hother => ?_⟩
          · rwa [child?, if_pos hn]
          · rw [child?, if_pos hn, getElem?_putItem_self]
          · cases other with
            | name t => rfl
            | index m =>
                have hm : 0 ≤ m := hstart
                have hne : m.toNat ≠ n.toNat := fun heq => hother (congrArg _ (by omega))
                rw [child?, child?, if_pos hm, if_pos hm, getD_getElem?_putItem_of_ne items c hne]
  | _ => cases step <;> cases h

/-- What is written at a path is read there. -/
theorem at?_of_set? (hsteps : ∀ s ∈ steps, s.FromStart) (h : d.set? steps value = some d') :
    d'.at? steps = .ok (some value) := by
  induction steps generalizing d d' with
  | nil => cases h
  | cons step rest ih =>
      obtain ⟨hstep, hrest⟩ := List.forall_mem_cons.mp hsteps
      obtain ⟨c, hc, hchild, -⟩ := exists_child?_of_set? hstep h
      rw [at?_cons_of_child? hchild]
      cases rest with
      | nil => rw [← Option.some.inj hc]; rfl
      | cons next more => exact ih hrest hc

theorem valueAt_of_at? (h : d.at? steps = .ok (some value)) : d.valueAt steps = .ok value := by
  rw [valueAt, h]
  rfl

/-- Writing along one path changes nothing that is read along a path apart from it. -/
theorem valueAt_of_set? (hp : ∀ s ∈ p, s.FromStart) (hq : ∀ s ∈ q, s.FromStart) (hapart : Apart p q)
    (h : d.set? p value = some d') : d'.valueAt q = d.valueAt q := by
  induction p generalizing d d' q with
  | nil => exact (not_apart_nil hapart).elim
  | cons step rest ih =>
      cases q with
      | nil => exact (not_apart_nil_right hapart).elim
      | cons other q =>
          obtain ⟨hstep, hrest⟩ := List.forall_mem_cons.mp hp
          obtain ⟨hother, hinside⟩ := List.forall_mem_cons.mp hq
          obtain ⟨c, hc, hchild, hothers⟩ := exists_child?_of_set? hstep h
          rw [valueAt_cons hq, valueAt_cons hq]
          by_cases heq : other = step
          · subst heq
            have hinner := apart_cons_iff.mp hapart rfl
            cases rest with
            | nil => exact (not_apart_nil hinner).elim
            | cons next more =>
                cases q with
                | nil => exact (not_apart_nil_right hinner).elim
                | cons first q =>
                    rw [hchild, Option.getD_some, ih hrest hinside hinner hc,
                      valueAt_childFor next _ hinside]
          · rw [hothers other hother heq]

end Proofs.Writing

end ReviewDiagnostics
