import ReviewDiagnostics.Proofs.Reading

/-!
# What documents are read

Not every document comes out of a text.  Its whole numbers have no more digits than are read, no name stands
twice in an object, and lists and objects are not nested more deeply than they are read.  The machine keeps
all three at every step.
-/

namespace ReviewDiagnostics

-- Powers are those of the core library, whatever else is imported.
attribute [local instance (2000)] instPowNat

/-- A document that can be read where that many lists and objects may still be opened. -/
inductive Document.Legible : Nat → Document → Prop
  | null {room : Nat} : Legible room .null
  | bool {room : Nat} (b : Bool) : Legible room (.bool b)
  | int {room : Nat} {n : Int} (h : n.natAbs < 10 ^ Text.maxDigits) : Legible room (.int n)
  | float {room : Nat} (x : Binary64) : Legible room (.float x)
  | string {room : Nat} (s : String) : Legible room (.string s)
  | array {room : Nat} {items : List Document} (h : ∀ d ∈ items, Legible room d) :
      Legible (room + 1) (.array items)
  | object {room : Nat} {fields : List (String × Document)} (hnames : (fields.map Prod.fst).Nodup)
      (h : ∀ p ∈ fields, Legible room p.2) : Legible (room + 1) (.object fields)

namespace Proofs.ReadDocuments

open Lexeme Reader Reading Document

/-! ## Numbers and words -/

theorem ofDigitChars_lt {w : List Char} (hw : ∀ c ∈ w, Text.isAsciiDigit c = true) (n : Nat) :
    Nat.ofDigitChars 10 w n < (n + 1) * 10 ^ w.length := by
  induction w generalizing n with
  | nil => simp
  | cons c w ih =>
      obtain ⟨hc, hrest⟩ := List.forall_mem_cons.mp hw
      have hdigit : '0'.toNat ≤ c.toNat ∧ c.toNat ≤ '9'.toNat := by simpa [Text.isAsciiDigit] using hc
      have hzero : '0'.toNat = 48 := rfl
      have hnine : '9'.toNat = 57 := rfl
      rw [Nat.ofDigitChars_cons]
      calc Nat.ofDigitChars 10 w (10 * n + (c.toNat - '0'.toNat))
          < (10 * n + (c.toNat - '0'.toNat) + 1) * 10 ^ w.length := ih hrest _
        _ ≤ ((n + 1) * 10) * 10 ^ w.length := Nat.mul_le_mul_right _ (by omega)
        _ = (n + 1) * 10 ^ (w.length + 1) := by rw [Nat.pow_succ, Nat.mul_assoc, Nat.mul_comm 10]

private theorem digits_wholeDigits (cs : List Char) : ∀ c ∈ wholeDigits cs, Text.isAsciiDigit c = true := by
  rw [wholeDigits]
  split
  · intro c hc
    rw [List.mem_singleton.mp hc]
    rfl
  · exact List.all_eq_true.mp List.all_takeWhile

theorem legible_of_scanNumber {negative : Bool} {cs : List Char} {d : Document} {count : Nat}
    (h : scanNumber negative cs = (.scalar d, count)) (room : Nat) : d.Legible room := by
  rw [scanNumber_eq, numberOf] at h
  split at h
  · split at h
    · cases h
    · rename_i hlength
      have hbound : Nat.ofDigitChars 10 (wholeDigits cs) 0 < 10 ^ Text.maxDigits := by
        have hlt := ofDigitChars_lt (digits_wholeDigits cs) 0
        rw [Nat.zero_add, Nat.one_mul] at hlt
        exact Nat.lt_of_lt_of_le hlt (Nat.pow_le_pow_right (by decide) (Nat.not_lt.mp hlength))
      cases h
      refine .int (Nat.lt_of_le_of_lt ?_ hbound)
      split <;> omega
  · cases h
    exact .float _

theorem legible_of_starts {c : Char} {cs : List Char} {lexeme : Lexeme} {count : Nat}
    (h : Starts c cs lexeme count) {d : Document} (hd : lexeme = .scalar d) (room : Nat) :
    d.Legible room := by
  cases h with
  | mark h => simp [marks, hd] at h
  | word h rest =>
      cases hd
      simp only [words, List.mem_cons, List.not_mem_nil, or_false, Prod.mk.injEq] at h
      obtain ⟨-, rfl⟩ | ⟨-, rfl⟩ | ⟨-, rfl⟩ := h
      · exact .null
      · exact .bool true
      · exact .bool false
  | text => cases hd
  | number _ h =>
      cases hd
      exact legible_of_scanNumber h room
  | negative _ h =>
      cases hd
      exact legible_of_scanNumber h room

/-! ## Fields -/

variable {fields pairs : List (String × Document)} {name : String} {value : Document}

private theorem names_put (fields : Fields) (name : String) (value : Document) :
    (fields.put name value).map Prod.fst =
      if name ∈ fields.map Prod.fst then fields.map Prod.fst else fields.map Prod.fst ++ [name] := by
  induction fields with
  | nil => rfl
  | cons p fields ih =>
      obtain ⟨k, v⟩ := p
      by_cases hk : k = name
      · simp [Fields.put, hk]
      · rw [Fields.put, if_neg hk, List.map_cons, ih]
        by_cases hmem : name ∈ fields.map Prod.fst <;> simp [hmem, Ne.symm hk]

theorem nodup_put (h : (fields.map Prod.fst).Nodup) :
    ((Fields.put fields name value).map Prod.fst).Nodup := by
  rw [names_put]
  split
  · exact h
  · rename_i hnew
    refine List.nodup_append.mpr ⟨h, by simp, fun x hx y hy hxy => hnew ?_⟩
    rwa [← List.mem_singleton.mp hy, ← hxy]

theorem forall_put {P : Document → Prop} (h : ∀ p ∈ fields, P p.2) (hvalue : P value) :
    ∀ p ∈ Fields.put fields name value, P p.2 := by
  induction fields with
  | nil => simpa [Fields.put] using hvalue
  | cons p fields ih =>
      obtain ⟨hp, hrest⟩ := List.forall_mem_cons.mp h
      rw [Fields.put]
      split
      · exact List.forall_mem_cons.mpr ⟨hvalue, hrest⟩
      · exact List.forall_mem_cons.mpr ⟨hp, ih hrest⟩

theorem nodup_ofList (pairs : List (String × Document)) : ((Fields.ofList pairs).map Prod.fst).Nodup := by
  have hfold : ∀ fields : Fields, (fields.map Prod.fst).Nodup →
      ((pairs.foldl (fun fields p => Fields.put fields p.1 p.2) fields).map Prod.fst).Nodup := by
    induction pairs with
    | nil => exact fun _ h => h
    | cons p pairs ih => exact fun _ h => ih _ (nodup_put h)
  exact hfold [] List.nodup_nil

theorem forall_ofList {P : Document → Prop} (h : ∀ p ∈ pairs, P p.2) :
    ∀ p ∈ Fields.ofList pairs, P p.2 := by
  have hfold : ∀ fields : Fields, (∀ p ∈ fields, P p.2) →
      ∀ p ∈ pairs.foldl (fun fields p => Fields.put fields p.1 p.2) fields, P p.2 := by
    induction pairs with
    | nil => exact fun _ hfields => hfields
    | cons p pairs ih =>
        obtain ⟨hp, hrest⟩ := List.forall_mem_cons.mp h
        exact fun _ hfields => ih hrest _ (forall_put hfields hp)
  exact hfold [] (fun _ hp => nomatch hp)

private theorem put_of_not_mem (h : name ∉ fields.map Prod.fst) :
    Fields.put fields name value = fields ++ [(name, value)] := by
  induction fields with
  | nil => rfl
  | cons p fields ih =>
      rw [List.map_cons, List.mem_cons, not_or] at h
      rw [Fields.put, if_neg (Ne.symm h.1), ih h.2, List.cons_append]

theorem ofList_of_nodup (h : (pairs.map Prod.fst).Nodup) : Fields.ofList pairs = pairs := by
  have hfold : ∀ fields : Fields, ((fields ++ pairs).map Prod.fst).Nodup →
      pairs.foldl (fun fields p => Fields.put fields p.1 p.2) fields = fields ++ pairs := by
    clear h
    induction pairs with
    | nil => exact fun fields _ => (List.append_nil fields).symm
    | cons p pairs ih =>
        intro fields hnodup
        have hnew : p.1 ∉ fields.map Prod.fst := fun hmem => by
          rw [List.map_append, List.nodup_append] at hnodup
          exact hnodup.2.2 p.1 hmem p.1 List.mem_cons_self rfl
        have hsplit : fields ++ [p] ++ pairs = fields ++ p :: pairs := by simp
        rw [List.foldl_cons, put_of_not_mem hnew, ih _ (by rwa [hsplit]), hsplit]
  exact hfold [] h

/-! ## Steps -/

/-- What the lists and objects that are open hold can be read where it stands. -/
inductive LegibleFrames : List Frame → Prop
  | nil : LegibleFrames []
  | list {items : List Document} {frames : List Frame} (hroom : frames.length < maxDepth)
      (hitems : ∀ d ∈ items, d.Legible (maxDepth - (frames.length + 1))) (h : LegibleFrames frames) :
      LegibleFrames (.list items :: frames)
  | object {fields : List (String × Document)} {frames : List Frame} (hroom : frames.length < maxDepth)
      (hfields : ∀ p ∈ fields, p.2.Legible (maxDepth - (frames.length + 1))) (h : LegibleFrames frames)
      (name : String) : LegibleFrames (.object fields name :: frames)

/-- The same of everything that the machine holds. -/
def LegibleState : State → Prop
  | ⟨frames, .value⟩ => LegibleFrames frames
  | ⟨frames, .firstItem⟩ => LegibleFrames (.list [] :: frames)
  | ⟨frames, .firstName⟩ => ∀ name, LegibleFrames (.object [] name :: frames)
  | ⟨frames, .name fields⟩ => ∀ name, LegibleFrames (.object fields name :: frames)
  | ⟨frames, .colon fields name⟩ => LegibleFrames (.object fields name :: frames)
  | ⟨frames, .comma d⟩ => LegibleFrames frames ∧ d.Legible (maxDepth - frames.length)

variable {frames : List Frame} {lexeme : Lexeme} {next : State}

theorem room_eq_succ (h : frames.length < maxDepth) :
    maxDepth - frames.length = maxDepth - (frames.length + 1) + 1 := by
  omega

theorem legible_descend {awaiting : Awaiting} (h : LegibleFrames frames)
    (hlist : awaiting = .firstItem ∨ awaiting = .firstName)
    (hstep : descend frames awaiting = .ok next) : LegibleState next := by
  rw [descend] at hstep
  split at hstep
  · rename_i hroom
    cases hstep
    rcases hlist with rfl | rfl
    · exact .list hroom (fun _ hd => nomatch hd) h
    · exact .object hroom (fun _ hp => nomatch hp) h
  · cases hstep

theorem legible_stepValue (h : LegibleFrames frames)
    (hscalar : ∀ d, lexeme = .scalar d → ∀ room, d.Legible room)
    (hstep : stepValue frames ⟨0, lexeme⟩ = .ok next) : LegibleState next := by
  cases lexeme with
  | text s =>
      cases hstep
      exact ⟨h, .string s⟩
  | scalar d =>
      cases hstep
      exact ⟨h, hscalar d rfl _⟩
  | openList => exact legible_descend h (.inl rfl) hstep
  | openObject => exact legible_descend h (.inr rfl) hstep
  | _ => cases hstep

theorem legible_stepName (h : ∀ name, LegibleFrames (.object fields name :: frames))
    (hstep : stepName frames fields ⟨0, lexeme⟩ = .ok next) : LegibleState next := by
  cases lexeme with
  | text s =>
      cases hstep
      exact h s
  | _ => cases hstep

theorem legible_stepAfter {d : Document} (h : LegibleFrames frames)
    (hd : d.Legible (maxDepth - frames.length)) (hstep : stepAfter frames d ⟨0, lexeme⟩ = .ok next) :
    LegibleState next := by
  cases h with
  | nil => cases hstep
  | @list items frames hroom hitems h =>
      have hall := List.forall_mem_cons.mpr ⟨hd, hitems⟩
      cases lexeme with
      | comma =>
          cases hstep
          exact .list hroom hall h
      | closeList =>
          cases hstep
          refine ⟨h, ?_⟩
          rw [room_eq_succ hroom]
          exact .array fun x hx => hall x (List.mem_reverse.mp hx)
      | _ => cases hstep
  | @object fields frames hroom hfields h name =>
      have hall : ∀ p ∈ (name, d) :: fields, p.2.Legible (maxDepth - (frames.length + 1)) :=
        List.forall_mem_cons.mpr ⟨hd, hfields⟩
      cases lexeme with
      | comma =>
          cases hstep
          exact .object hroom hall h
      | closeObject =>
          cases hstep
          refine ⟨h, ?_⟩
          rw [room_eq_succ hroom]
          refine .object (nodup_ofList _) ?_
          exact forall_ofList fun p hp => hall p (List.mem_reverse.mp hp)
      | _ => cases hstep

theorem step_firstItem (h : lexeme ≠ .closeList) :
    step ⟨frames, .firstItem⟩ ⟨0, lexeme⟩ = stepValue (.list [] :: frames) ⟨0, lexeme⟩ := by
  cases lexeme <;> first | rfl | exact absurd rfl h

private theorem step_firstName (h : lexeme ≠ .closeObject) :
    step ⟨frames, .firstName⟩ ⟨0, lexeme⟩ = stepName frames [] ⟨0, lexeme⟩ := by
  cases lexeme <;> first | rfl | exact absurd rfl h

theorem legible_step {s : State} (h : LegibleState s)
    (hscalar : ∀ d, lexeme = .scalar d → ∀ room, d.Legible room)
    (hstep : step s ⟨0, lexeme⟩ = .ok next) : LegibleState next := by
  obtain ⟨frames, awaiting⟩ := s
  cases awaiting with
  | value => exact legible_stepValue h hscalar hstep
  | name fields => exact legible_stepName h hstep
  | comma d => exact legible_stepAfter h.1 h.2 hstep
  | firstItem =>
      by_cases hclose : lexeme = .closeList
      · subst hclose
        cases hstep
        cases h with
        | list hroom _ h =>
            refine ⟨h, ?_⟩
            rw [room_eq_succ hroom]
            exact .array fun _ hd => nomatch hd
      · exact legible_stepValue h hscalar ((step_firstItem hclose).symm.trans hstep)
  | firstName =>
      by_cases hclose : lexeme = .closeObject
      · subst hclose
        cases hstep
        cases h "" with
        | object hroom _ h =>
            refine ⟨h, ?_⟩
            rw [room_eq_succ hroom]
            exact .object List.nodup_nil fun _ hp => nomatch hp
      · exact legible_stepName h ((step_firstName hclose).symm.trans hstep)
  | colon fields name =>
      cases lexeme with
      | colon =>
          cases hstep
          exact h
      | _ => cases hstep

/-! ## Texts -/

theorem legible_of_reads {s : State} {cs : List Char} {d : Document} (h : Reads s cs d)
    (hs : LegibleState s) : d.Legible maxDepth := by
  induction h with
  | @finish s d hfinish =>
      obtain ⟨frames, awaiting⟩ := s
      cases awaiting with
      | comma x =>
          cases frames with
          | nil =>
              cases hfinish
              exact hs.2
          | cons frame frames => cases hfinish
      | _ => cases hfinish
  | space _ _ ih => exact ih hs
  | token hstart hstep _ ih => exact ih (legible_step hs (fun d hd => legible_of_starts hstart hd) hstep)

/-- What is read can be read at the top. -/
theorem legible_of_ofText {allowComments : Bool} {cs : List Char} {d : Document}
    (h : Source.ofText allowComments cs = .ok d) : d.Legible maxDepth :=
  legible_of_reads (ofText_eq_ok.mp h).2 .nil

end Proofs.ReadDocuments

end ReviewDiagnostics
