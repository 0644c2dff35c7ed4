import ReviewDiagnostics.Proofs.RepairRound
import ReviewDiagnostics.Repair.Session

/-!
# Round after round

A session looks at a document and repairs it until nothing more happens.  What it comes to is the document
after as many rounds as it is allowed, since a round that finds or repairs nothing changes nothing.  An
object stays an object, and no round takes a field away.
-/

namespace ReviewDiagnostics

namespace Repair

/-- The document after a look at it and a round of repairs. -/
def afterRound (v : Validator) (level : FixLevel) (d : Document) : Document :=
  (fix level d (v.examine d).errors).document

/-- The document after several rounds. -/
def afterRounds (v : Validator) (level : FixLevel) : Nat → Document → Document
  | 0, d => d
  | n + 1, d => afterRounds v level n (afterRound v level d)

/-- The records of several rounds, in order. -/
def journal (v : Validator) (level : FixLevel) : Nat → Document → List AppliedFix
  | 0, _ => []
  | n + 1, d => (fix level d (v.examine d).errors).applied ++ journal v level n (afterRound v level d)

end Repair

namespace Proofs.Rounds

open Addresses PathText Repair RepairRound Session Slots

variable {v : Validator} {level : FixLevel} {d : Document} {findings : List Finding} {r : Round}

/-! ## Rounds one after the other -/

theorem afterRounds_add (n m : Nat) (d : Document) :
    afterRounds v level (n + m) d = afterRounds v level m (afterRounds v level n d) := by
  induction n generalizing d with
  | zero => rw [Nat.zero_add, afterRounds]
  | succ n ih => rw [Nat.succ_add, afterRounds, ih, afterRounds]

theorem journal_add (n m : Nat) (d : Document) :
    journal v level (n + m) d = journal v level n d ++ journal v level m (afterRounds v level n d) := by
  induction n generalizing d with
  | zero => rw [Nat.zero_add, journal, afterRounds, List.nil_append]
  | succ n ih => rw [Nat.succ_add, journal, ih, journal, afterRounds, List.append_assoc]

/-! ## Rounds that change nothing -/

theorem afterRounds_of_fixed (h : afterRound v level d = d) (n : Nat) : afterRounds v level n d = d := by
  induction n with
  | zero => rfl
  | succ n ih => rw [afterRounds, h, ih]

theorem afterRound_of_clean (h : (v.examine d).errors = []) : afterRound v level d = d := by
  rw [afterRound, h]
  rfl

theorem journal_of_applied (h : (fix level d (v.examine d).errors).applied = [])
    (hfixed : afterRound v level d = d) (n : Nat) : journal v level n d = [] := by
  induction n with
  | zero => rfl
  | succ n ih => rw [journal, h, hfixed, ih, List.append_nil]

theorem journal_of_clean (h : (v.examine d).errors = []) (n : Nat) : journal v level n d = [] :=
  journal_of_applied (by rw [h]; rfl) (afterRound_of_clean h) n

theorem step_cases (level : FixLevel) (r : Round) (f : Finding) :
    (∃ fix, (Round.step level r f).applied = r.applied ++ [fix]) ∨
      (Round.step level r f).applied = r.applied ∧
        (Round.step level r f).document = r.document := by
  by_cases hwrites : ∃ steps before after d', Writes level r.document f steps before after d'
  · obtain ⟨_, _, _, _, hwrites⟩ := hwrites
    exact .inl ⟨_, (step_of_writes hwrites).2.1⟩
  · simp only [not_exists] at hwrites
    obtain ⟨hdocument, happlied, -⟩ := step_of_not_writes hwrites
    exact .inr ⟨happlied, hdocument⟩

private theorem length_applied_le (level : FixLevel) (findings : List Finding) (r : Round) :
    r.applied.length ≤ (findings.foldl (Round.step level) r).applied.length := by
  induction findings generalizing r with
  | nil => exact Nat.le_refl _
  | cons f findings ih =>
      refine Nat.le_trans ?_ (ih (Round.step level r f))
      rcases step_cases level r f with ⟨fix, happlied⟩ | ⟨happlied, -⟩ <;> simp [happlied]

theorem document_of_length_applied
    (h : (findings.foldl (Round.step level) r).applied.length ≤ r.applied.length) :
    (findings.foldl (Round.step level) r).document = r.document := by
  induction findings generalizing r with
  | nil => rfl
  | cons f findings ih =>
      rw [List.foldl_cons] at h ⊢
      rcases step_cases level r f with ⟨fix, happlied⟩ | ⟨happlied, hdocument⟩
      · have hlength := length_applied_le level findings (Round.step level r f)
        rw [happlied, List.length_append, List.length_singleton] at hlength
        omega
      · rw [ih (by rwa [happlied]), hdocument]

theorem afterRound_of_applied (h : (fix level d (v.examine d).errors).applied = []) :
    afterRound v level d = d := by
  have happlied : ((v.examine d).errors.foldl (Round.step level) (.start d)).applied = [] := h
  exact document_of_length_applied (r := .start d) (by simp [happlied])

/-! ## Sessions -/

/-- A session under way comes to the document after the rounds that are left, to its verdict, and to the
records of these rounds. -/
theorem rounds_eq (hfault : ∀ d, (v.examine d).fault = none) (n number : Nat) (p : Progress)
    (hp : p.outcome = v.examine p.document) :
    (p.rounds v level n number).document = afterRounds v level n p.document ∧
      (p.rounds v level n number).outcome = v.examine (afterRounds v level n p.document) ∧
      (p.rounds v level n number).applied = p.applied ++ journal v level n p.document := by
  induction n generalizing number p with
  | zero => exact ⟨rfl, hp, (List.append_nil _).symm⟩
  | succ n ih =>
      rw [Progress.rounds, afterRounds, hp]
      dsimp only
      split
      · rename_i hnone
        have happlied := List.isEmpty_iff.mp hnone
        have hfixed := afterRound_of_applied happlied
        rw [hfixed, afterRounds_of_fixed hfixed, journal_of_applied happlied hfixed, List.append_nil]
        exact ⟨rfl, rfl, rfl⟩
      · split
        · rename_i hstop
          have hclean : (v.examine (afterRound v level p.document)).errors = [] := by
            simpa [hfault, afterRound] using hstop
          rw [afterRounds_of_fixed (afterRound_of_clean hclean), journal, journal_of_clean hclean,
            List.append_nil]
          exact ⟨rfl, rfl, rfl⟩
        · rw [journal, ← List.append_assoc]
          exact ih _ _ rfl

theorem exists_report {passes : Document} {n : Nat} (level : FixLevel)
    (hfault : ∀ d, (v.examine d).fault = none) (hpasses : passCount passes = .ok n) (d : Document) :
    ∃ report, (run v ⟨true, .ok level, passes⟩ d).result = .ok report ∧
      report.document = afterRounds v level n d ∧
      v.validate report.document = .ok report.verdict ∧
      report.applied = journal v level n d := by
  have hfinish {p : Progress} {d' : Document} {applied : List AppliedFix}
      (hdocument : p.document = d') (houtcome : p.outcome = v.examine d')
      (happlied : p.applied = applied) : ∃ report, p.finish.result = .ok report ∧
        report.document = d' ∧ v.validate report.document = .ok report.verdict ∧
        report.applied = applied := by
    have hverdict := Outcome.verdict_of_fault_eq_none (hfault d')
    refine ⟨⟨_, d', applied⟩, ?_, rfl, hverdict, rfl⟩
    rw [Progress.finish, houtcome, hverdict, hdocument, happlied]
    rfl
  rw [run]
  dsimp only
  split
  · rename_i hstop
    have hclean : (v.examine d).errors = [] := by simpa [Progress.start, hfault] using hstop
    have hfixed := afterRounds_of_fixed (@afterRound_of_clean v level d hclean) n
    exact hfinish hfixed.symm (congrArg v.examine hfixed.symm) (journal_of_clean hclean n).symm
  · rw [hpasses]
    obtain ⟨hdocument, houtcome, happlied⟩ := @rounds_eq v level hfault n 1 (.start v d) rfl
    exact hfinish hdocument houtcome happlied

/-! ## What a round writes -/

section

variable {o : Options} {fields : Fields} {name : String}

/-- The paths and values of the repairs of a round. -/
def writes (o : Options) (level : FixLevel) (d : Document) : List (List Segment × Document) :=
  let findings := (Validator.examine ⟨o, ReviewFormat.document⟩ d).errors
  (findings.filter (·.repaired level findings)).filterMap (·.repair? level)

theorem rewritten_afterRound (o : Options) (level : FixLevel) (d : Document) :
    Rewritten d (writes o level d) (afterRound ⟨o, ReviewFormat.document⟩ level d) := by
  obtain ⟨v, hv⟩ := exists_validate o d
  rw [afterRound, writes, ← errors_of_validate hv]
  exact (completed_fix level hv).rewritten

theorem mem_writes {w : List Segment × Document} : w ∈ writes o level d ↔
    ∃ f ∈ (Validator.examine ⟨o, ReviewFormat.document⟩ d).errors,
      f.repaired level (Validator.examine ⟨o, ReviewFormat.document⟩ d).errors = true ∧
        f.repair? level = some w := by
  simp only [writes, List.mem_filterMap, List.mem_filter, and_assoc]

theorem ne_nil_of_mem_writes {w : List Segment × Document} (hw : w ∈ writes o level d) : w.1 ≠ [] := by
  obtain ⟨f, -, -, hrepair⟩ := mem_writes.mp hw
  exact ne_nil_of_plan (repair?_eq_some_iff.mp hrepair).2

theorem object_afterRound (o : Options) (level : FixLevel) (fields : Fields) :
    ∃ kept : Fields, afterRound ⟨o, ReviewFormat.document⟩ level (.object fields) = .object kept ∧
      ∀ name, fields.has name = true → kept.has name = true := by
  have hrewritten := rewritten_afterRound o level (.object fields)
  obtain ⟨y, hy, hshape⟩ := hrewritten.above [] _
    (fun w hw hprefix => ne_nil_of_mem_writes hw (List.prefix_nil.mp hprefix)) rfl
  cases y with
  | object kept =>
      have hdocument : afterRound ⟨o, ReviewFormat.document⟩ level (.object fields) = .object kept :=
        Option.some.inj (Option.some.inj hy)
      refine ⟨kept, hdocument, fun name hname => ?_⟩
      rw [hdocument] at hrewritten
      rw [Fields.has_eq_isSome_get?] at hname ⊢
      by_cases hwritten : ∃ w ∈ writes o level (.object fields), w.1 = [.name name]
      · obtain ⟨w, hw, hpath⟩ := hwritten
        have hslot := hrewritten.written w hw
        rw [hpath, slot?_field] at hslot
        rw [Option.some.inj hslot]
        rfl
      · obtain ⟨x, hx⟩ := Option.isSome_iff_exists.mp hname
        obtain ⟨z, hz, -⟩ := hrewritten.above [.name name] x (fun w hw hprefix => by
          rcases prefix_singleton hprefix with hnil | hpath
          · exact ne_nil_of_mem_writes hw hnil
          · exact hwritten ⟨w, hw, hpath⟩) (by rw [slot?_field, hx])
        rw [slot?_field] at hz
        rw [Option.some.inj hz]
        rfl
  | _ => cases hshape

theorem object_afterRounds (o : Options) (level : FixLevel) (n : Nat) (fields : Fields) :
    ∃ kept : Fields, afterRounds ⟨o, ReviewFormat.document⟩ level n (.object fields) = .object kept ∧
      ∀ name, fields.has name = true → kept.has name = true := by
  induction n generalizing fields with
  | zero => exact ⟨fields, rfl, fun _ h => h⟩
  | succ n ih =>
      obtain ⟨next, hnext, hfields⟩ := object_afterRound o level fields
      obtain ⟨kept, hkept, hlater⟩ := ih next
      refine ⟨kept, ?_, fun name hname => hlater name (hfields name hname)⟩
      rw [afterRounds, hnext, hkept]

end

end Proofs.Rounds

end ReviewDiagnostics
