import ReviewDiagnostics.Proofs.Rounds

/-!
# What a session tells of its rounds

A session tells of each round that has applied something, and of no other.  Neither a look at a document nor
the repairs of a round tell of a round as a whole, so that the number of times that a session does is the
number of its rounds that have applied something.
-/

namespace ReviewDiagnostics

/-- Whether an event is the end of a round that has applied something. -/
def Event.isPass : Event → Bool
  | .passCompleted _ _ _ => true
  | _ => false

/-- How many rounds a session tells of. -/
def Session.passes (s : Session) : Nat := s.events.countP Event.isPass

/-- No event is the end of a round. -/
def Quiet (events : List Event) : Prop := ∀ e ∈ events, e.isPass = false

namespace Repair

/-- Whether a look at a document and a round of repairs apply anything. -/
def busy (v : Validator) (level : FixLevel) (d : Document) : Bool :=
  !(fix level d (v.examine d).errors).applied.isEmpty

/-- How many of the first rounds of a session apply something. -/
def busyRounds (v : Validator) (level : FixLevel) (n : Nat) (d : Document) : Nat :=
  (List.range n).countP fun k => busy v level (afterRounds v level k d)

end Repair

namespace Proofs.Passes

open Conformity Repair Rounds Session

variable {o : Options} {s : Schema} {v : Validator} {level : FixLevel} {d value bound : Document}
  {f : Finding} {findings : List Finding} {r : Round} {n m number : Nat} {p : Progress} {path text : String}
  {limit? low? high? : Option Document} {limits : TextLimits} {fields : Fields}
  {properties : List (String × Schema)} {additional : Bool} {events more : List Event} {outcome : Outcome}

/-! ## The check -/

theorem quiet_nil : Quiet [] := by simp [Quiet]

theorem quiet_append (hevents : Quiet events) (hmore : Quiet more) : Quiet (events ++ more) :=
  List.forall_mem_append.mpr ⟨hevents, hmore⟩

theorem quiet_join {outcomes : List Outcome} (h : ∀ o ∈ outcomes, Quiet o.events) :
    Quiet (Outcome.join outcomes).events := by
  induction outcomes with
  | nil => exact quiet_nil
  | cons o outcomes ih =>
      obtain ⟨ho, houtcomes⟩ := List.forall_mem_cons.mp h
      exact quiet_append ho (ih houtcomes)

theorem quiet_when {test : Except Fault Bool} (h : Quiet outcome.events) :
    Quiet (when test outcome).events := by
  cases test with
  | error => exact quiet_nil
  | ok b => cases b <;> first | exact quiet_nil | exact h

theorem quiet_checkMinLength : Quiet (checkMinLength path text limit?).events := by
  cases limit? with
  | none => exact quiet_nil
  | some limit =>
      rw [checkMinLength]
      split
      · exact quiet_nil
      · exact quiet_when quiet_nil

theorem quiet_checkMaxLength : Quiet (checkMaxLength path text limit?).events := by
  cases limit? with
  | none => exact quiet_nil
  | some limit => exact quiet_when quiet_nil

theorem quiet_checkPattern : Quiet (checkPattern path text limit?).events := by
  rw [checkPattern.eq_def]
  split
  · exact quiet_nil
  · split
    · exact quiet_nil
    · split <;> exact quiet_nil
  · exact quiet_nil

theorem quiet_checkText : Quiet (checkText path text limits).events := by
  have hfurther := quiet_append (@quiet_checkMinLength path text limits.minLength)
    (quiet_append (@quiet_checkMaxLength path text limits.maxLength)
      (@quiet_checkPattern path text limits.pattern))
  rw [checkText]
  split
  · exact hfurther
  · split
    · exact hfurther
    · split <;> exact quiet_nil

theorem quiet_checkBound {code : Code} {sign : String} {exceeded : Except Fault Bool} :
    Quiet (checkBound path code sign value bound exceeded).events := by
  rw [checkBound.eq_def]
  split
  · exact quiet_nil
  · exact quiet_nil
  · split <;> exact quiet_nil

theorem quiet_checkNumber : Quiet (checkNumber path value low? high?).events := by
  rw [checkNumber.eq_def]
  refine quiet_append ?_ ?_
  · split
    · exact quiet_nil
    · exact quiet_checkBound
  · split
    · exact quiet_nil
    · exact quiet_checkBound

theorem quiet_checkRequired (name : Document) :
    Quiet (checkRequired path fields properties name).events := by
  rw [checkRequired.eq_def]
  split
  · split <;> exact quiet_nil
  · exact quiet_nil
  · exact quiet_nil
  · exact quiet_nil
  · exact quiet_nil
  · split <;> exact quiet_nil

theorem quiet_checkUnknown : Quiet (checkUnknown path fields properties additional o).events := by
  rw [checkUnknown]
  split
  · exact quiet_nil
  · refine quiet_join ?_
    simp only [List.forall_mem_map]
    intro field _
    split <;> exact quiet_nil

theorem quiet_settle {best? : Option Candidate} {tried : List (Schema × Outcome)}
    (h : ∀ t ∈ tried, Quiet t.2.events) : Quiet (settle path d best? tried).events := by
  induction tried generalizing best? with
  | nil => cases best? <;> simp [settle, Quiet, Outcome.ofError, Outcome.clean, Event.isPass]
  | cons t tried ih =>
      obtain ⟨ht, htried⟩ := List.forall_mem_cons.mp h
      rw [settle]
      split
      · exact ht
      · split
        · exact ht
        · exact quiet_append ht (ih htried)

theorem quiet_choose {tried : List (Schema × Outcome)} (h : ∀ t ∈ tried, Quiet t.2.events) :
    Quiet (choose path d tried).events := by
  rw [choose]
  split
  · exact quiet_nil
  · exact quiet_settle fun t ht => h t ((Choice.order_perm d tried).mem_iff.mp ht)

theorem quiet_check (o : Options) (s : Schema) (path : String) (d : Document) :
    Quiet (check o s path d).events := by
  induction s using Schema.induction generalizing path d with
  | string about limits =>
      cases d with
      | string text => exact quiet_checkText
      | _ => exact quiet_nil
  | number about minimum maximum =>
      rw [check]
      split
      · exact quiet_checkNumber
      · exact quiet_nil
  | boolean | null | anyArray =>
      rw [check]
      split <;> exact quiet_nil
  | object about required properties additional ih =>
      cases d with
      | object fields =>
          rw [check_object_eq]
          refine quiet_append (quiet_join ?_) (quiet_append (quiet_join ?_) quiet_checkUnknown)
          · simp only [List.forall_mem_map]
            exact fun name _ => quiet_checkRequired name
          · simp only [List.forall_mem_map]
            intro p hp
            rw [checkProperty]
            split
            · exact ih p hp _ _
            · exact quiet_nil
      | _ => exact quiet_nil
  | array about item ih =>
      cases d with
      | array items =>
          rw [check]
          refine quiet_join ?_
          simp only [List.mem_mapIdx]
          rintro _ ⟨i, hi, rfl⟩
          exact ih _ _
      | _ => exact quiet_nil
  | oneOf about alternatives uri ih =>
      rw [check_oneOf_eq]
      refine quiet_choose ?_
      simp only [List.forall_mem_map]
      exact fun s hs => ih s hs _ _

theorem quiet_examine (v : Validator) (d : Document) : Quiet (v.examine d).events := by
  rw [Validator.examine]
  split
  · simp [Quiet, Event.isPass]
  · exact quiet_append (quiet_check _ _ _ _) (by simp [Quiet, Event.isPass])

/-! ## Repairs -/

theorem quiet_applyFix {attempt : Attempt} (h : applyFix level d f = .ok attempt) : Quiet attempt.events := by
  simp only [applyFix, bind, Except.bind, pure, Except.pure] at h
  split at h
  · cases h
  · split at h
    · cases h
    · split at h
      · cases h
      · split at h
        · exact Except.ok.inj h ▸ quiet_nil
        · split at h <;> rw [← Except.ok.inj h] <;> simp [Quiet, Event.isPass]

theorem quiet_step (hr : Quiet r.events) : Quiet (Round.step level r f).events := by
  rw [Round.step]
  split
  · exact quiet_append hr (by simp [Quiet, Event.isPass])
  · rename_i attempt hattempt
    have hevents := quiet_append hr (quiet_applyFix hattempt)
    split <;> exact hevents

theorem quiet_foldl (hr : Quiet r.events) : Quiet (findings.foldl (Round.step level) r).events := by
  induction findings generalizing r with
  | nil => exact hr
  | cons f findings ih => exact ih (quiet_step hr)

theorem quiet_fix (level : FixLevel) (d : Document) (findings : List Finding) :
    Quiet (fix level d findings).events :=
  quiet_append (quiet_foldl quiet_nil) (by simp [Quiet, Event.isPass])

/-! ## Rounds -/

theorem countP_of_quiet (h : Quiet events) : events.countP Event.isPass = 0 :=
  List.countP_eq_zero.mpr fun e he => by simp [h e he]

theorem busyRounds_succ (n : Nat) (d : Document) : busyRounds v level (n + 1) d =
    busyRounds v level n (afterRound v level d) + if busy v level d then 1 else 0 := by
  rw [busyRounds, List.range_succ_eq_map, List.countP_cons, List.countP_map]
  rfl

theorem applied_of_not_busy (h : busy v level d = false) :
    (fix level d (v.examine d).errors).applied = [] := by
  simpa [busy] using h

theorem busyRounds_of_not_busy (h : busy v level d = false) (n : Nat) : busyRounds v level n d = 0 := by
  have hfixed := afterRound_of_applied (applied_of_not_busy h)
  refine List.countP_eq_zero.mpr fun k _ => ?_
  simp [afterRounds_of_fixed hfixed, h]

theorem busyRounds_add (n m : Nat) (d : Document) : busyRounds v level (n + m) d =
    busyRounds v level n d + busyRounds v level m (afterRounds v level n d) := by
  induction n generalizing d with
  | zero =>
      rw [Nat.zero_add, afterRounds]
      exact (Nat.zero_add _).symm
  | succ n ih => rw [Nat.succ_add, busyRounds_succ, ih, busyRounds_succ, afterRounds, Nat.add_right_comm]

theorem not_busy_of_clean (h : (v.examine d).errors = []) : busy v level d = false := by
  rw [busy, h]
  rfl

/-! ## Rounds after one that applies nothing -/

theorem afterRounds_of_not_busy (h : busy v level (afterRounds v level n d) = false) (hm : n ≤ m) :
    afterRounds v level m d = afterRounds v level n d := by
  obtain ⟨more, rfl⟩ := Nat.exists_eq_add_of_le hm
  rw [afterRounds_add, afterRounds_of_fixed (afterRound_of_applied (applied_of_not_busy h))]

theorem journal_of_not_busy (h : busy v level (afterRounds v level n d) = false) (hm : n ≤ m) :
    journal v level m d = journal v level n d := by
  obtain ⟨more, rfl⟩ := Nat.exists_eq_add_of_le hm
  have hnone := applied_of_not_busy h
  rw [journal_add, journal_of_applied hnone (afterRound_of_applied hnone), List.append_nil]

theorem busyRounds_of_le (h : busy v level (afterRounds v level n d) = false) (hm : n ≤ m) :
    busyRounds v level m d = busyRounds v level n d := by
  obtain ⟨more, rfl⟩ := Nat.exists_eq_add_of_le hm
  rw [busyRounds_add, busyRounds_of_not_busy h, Nat.add_zero]

/-! ## Sessions -/

private theorem countP_of_pass {told repairs look : List Event} {applied left : Nat}
    (hrepairs : Quiet repairs)
    (hlook : Quiet look) :
    (told ++ repairs ++ look ++ [Event.passCompleted number applied left]).countP Event.isPass =
      told.countP Event.isPass + 1 := by
  simp only [List.countP_append, countP_of_quiet hrepairs, countP_of_quiet hlook]
  rfl

theorem passes_rounds (hfault : ∀ d, (v.examine d).fault = none) (n number : Nat) (p : Progress)
    (hp : p.outcome = v.examine p.document) :
    (p.rounds v level n number).events.countP Event.isPass =
      p.events.countP Event.isPass + busyRounds v level n p.document := by
  induction n generalizing number p with
  | zero => rfl
  | succ n ih =>
      rw [Progress.rounds, hp]
      dsimp only
      split
      · rename_i hnone
        have hidle : busy v level p.document = false := by simp [busy, hnone]
        rw [List.countP_append, countP_of_quiet (quiet_fix _ _ _), busyRounds_of_not_busy hidle]
      · rename_i hsome
        have hbusy : busy v level p.document = true := by simpa [busy] using hsome
        have hpass (applied left : Nat) := @countP_of_pass number p.events _ _ applied left
          (quiet_fix level p.document (v.examine p.document).errors)
          (quiet_examine v (afterRound v level p.document))
        rw [busyRounds_succ, if_pos hbusy]
        simp only [hfault, Option.isSome_none, Bool.false_or, Bool.false_eq_true, if_false]
        split
        · rename_i hclean
          have hidle : busy v level (afterRound v level p.document) = false :=
            not_busy_of_clean (List.isEmpty_iff.mp hclean)
          rw [busyRounds_of_not_busy hidle]
          exact hpass _ _
        · rw [ih _ _ rfl]
          exact (congrArg (· + _) (hpass _ _)).trans (Nat.add_right_comm _ _ _)

/-- A session tells of as many rounds as apply something. -/
theorem passes_run {passes : Document} (level : FixLevel) (hfault : ∀ d, (v.examine d).fault = none)
    (hpasses : passCount passes = .ok n) (d : Document) :
    (run v ⟨true, .ok level, passes⟩ d).passes = busyRounds v level n d := by
  have hlook := countP_of_quiet (quiet_examine v d)
  rw [run]
  dsimp only
  split
  · rename_i hstop
    have hclean : (v.examine d).errors = [] := by simpa [Progress.start, hfault] using hstop
    rw [busyRounds_of_not_busy (not_busy_of_clean hclean)]
    exact hlook
  · rw [hpasses]
    have hrounds := @passes_rounds v level hfault n 1 (.start v d) rfl
    calc ((Progress.start v d).rounds v level n 1).events.countP Event.isPass
        = (v.examine d).events.countP Event.isPass + busyRounds v level n d := hrounds
      _ = busyRounds v level n d := by rw [hlook, Nat.zero_add]

end Proofs.Passes

end ReviewDiagnostics
