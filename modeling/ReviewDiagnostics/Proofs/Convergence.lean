import ReviewDiagnostics.Proofs.Effort
import ReviewDiagnostics.Proofs.Passes
import ReviewDiagnostics.Proofs.ResultKept
import ReviewDiagnostics.Proofs.SecondRound

/-!
# Repairing comes to an end

Whatever is planned for a finding takes fewer repairs than what it takes the place of.  So all the rounds of a
session together apply no more repairs than the document can take, and from some round on nothing happens any
more, however many rounds are allowed.
-/

namespace ReviewDiagnostics.Proofs.Convergence

open Causes Document Effort FormatParts Passes Reconciliation Repair RepairRound ReviewFormat
  Rounds SecondRound Separation Session

variable {o : Options} {v : Validator} {level : FixLevel} {d : Document} {f : Finding}
  {findings : List Finding} {r : Round} {n : Nat}

/-! ## Rounds -/

/-- What is planned for a finding takes fewer repairs than what the finding reports. -/
def Lowers (level : FixLevel) (f : Finding) : Prop :=
  ∀ steps after, f.repair? level = some (steps, after) →
    ∃ t, diagnostic.form? steps = some t ∧ after.effort t < slotEffort f.content? t

theorem lowers_of_mem_examine (hf : f ∈ (Validator.examine ⟨o, document⟩ d).errors) : Lowers level f := by
  intro steps after hrepair
  obtain ⟨p, t, hp, hform, hagainst⟩ := against_of_mem_examine hf (treatable_of_repair hrepair)
  obtain ⟨hread, hplan⟩ := repair?_eq_some_iff.mp hrepair
  obtain rfl := PathText.eq_of_parse hp (path_of_against hagainst ▸ hread)
  have ht := Origins.of_throughout (throughout_form? throughout_diagnostic hform)
  exact ⟨t, hform, effort_lt_of_planned ht hagainst hplan⟩

theorem effort_step (hlowers : Lowers level f) (hnull : f.code.isAbsence = true → f.value = .null)
    (hf : Tracked r.document f) :
    (Round.step level r f).document.effort diagnostic + (Round.step level r f).applied.length ≤
      r.document.effort diagnostic + r.applied.length := by
  rcases step_of_tracked level hnull hf with
    ⟨steps, after, htreated, fix, happlied⟩ | ⟨hdocument, happlied⟩
  · obtain ⟨hread, hplan⟩ := repair?_eq_some_iff.mp htreated.planned
    obtain ⟨t, hform, hless⟩ := hlowers steps after htreated.planned
    have hlower := effort_set? throughout_diagnostic (ne_nil_of_plan hplan) (htreated.holds steps hread)
      hform hless htreated.written
    rw [happlied, List.length_append, List.length_singleton]
    omega
  · exact Nat.le_of_eq (by rw [hdocument, happlied])

theorem effort_foldl (hpairs : findings.Pairwise fun f g => Separate f g ∨ f.sweeps g = true)
    (hlowers : ∀ f ∈ findings, Lowers level f)
    (hnull : ∀ f ∈ findings, f.code.isAbsence = true → f.value = .null)
    (htracked : ∀ f ∈ findings, Tracked r.document f) :
    (findings.foldl (Round.step level) r).document.effort diagnostic +
        (findings.foldl (Round.step level) r).applied.length ≤
      r.document.effort diagnostic + r.applied.length := by
  induction findings generalizing r with
  | nil => exact Nat.le_refl _
  | cons f findings ih =>
      obtain ⟨hpair, hpairs⟩ := List.pairwise_cons.mp hpairs
      obtain ⟨hflowers, hlowers⟩ := List.forall_mem_cons.mp hlowers
      obtain ⟨hfnull, hnull⟩ := List.forall_mem_cons.mp hnull
      obtain ⟨hf, htracked⟩ := List.forall_mem_cons.mp htracked
      have hlater : ∀ g ∈ findings, Tracked (Round.step level r f).document g := fun g hg =>
        tracked_step (hpair g hg) hfnull hf (htracked g hg)
      calc _ ≤ (Round.step level r f).document.effort diagnostic + (Round.step level r f).applied.length :=
            ih hpairs hlowers hnull hlater
        _ ≤ _ := effort_step hflowers hfnull hf

theorem effort_afterRound (o : Options) (level : FixLevel) (d : Document) :
    (afterRound ⟨o, document⟩ level d).effort diagnostic +
        (fix level d (Validator.examine ⟨o, document⟩ d).errors).applied.length ≤
      d.effort diagnostic := by
  have hholds {f : Finding} (hf : f ∈ (Validator.examine ⟨o, document⟩ d).errors) :=
    holds_of_mem_examine plainNames_document hf
  exact effort_foldl (r := .start d) ((pairwise_examine o d).imp fun h => h.imp_right And.right)
    (fun f hf => lowers_of_mem_examine hf) (fun f hf => (hholds hf).2)
    fun f hf => (hholds hf).1.imp_right .inr

/-- All rounds together apply no more repairs than the document can take. -/
theorem effort_afterRounds (o : Options) (level : FixLevel) (n : Nat) (d : Document) :
    (afterRounds ⟨o, document⟩ level n d).effort diagnostic +
        (journal ⟨o, document⟩ level n d).length ≤ d.effort diagnostic := by
  induction n generalizing d with
  | zero => exact Nat.le_refl _
  | succ n ih =>
      have hround := effort_afterRound o level d
      have hrest := ih (afterRound ⟨o, document⟩ level d)
      rw [afterRounds, journal, List.length_append]
      omega

/-! ## Sessions -/

private theorem le_length_journal (h : ∀ k < n, busy v level (afterRounds v level k d) = true) :
    n ≤ (journal v level n d).length := by
  induction n generalizing d with
  | zero => exact Nat.zero_le _
  | succ n ih =>
      have hfirst : 0 < (fix level d (v.examine d).errors).applied.length := by
        have hbusy := h 0 (Nat.succ_pos n)
        exact List.length_pos_iff.mpr fun hnone => by simp [busy, afterRounds, hnone] at hbusy
      have hrest := ih (d := afterRound v level d) fun k hk => h (k + 1) (Nat.succ_lt_succ hk)
      rw [journal, List.length_append]
      omega

theorem exists_idle_round (o : Options) (level : FixLevel) (d : Document) :
    ∃ k ≤ d.effort diagnostic,
      busy ⟨o, document⟩ level (afterRounds ⟨o, document⟩ level k d) = false := by
  -- Otherwise there would be one record more than the document can take.
  refine Classical.byContradiction fun hnone => ?_
  simp only [not_exists, not_and, Bool.not_eq_false] at hnone
  have hrounds := le_length_journal (n := d.effort diagnostic + 1) fun k hk =>
    hnone k (Nat.le_of_lt_succ hk)
  have heffort := effort_afterRounds o level (d.effort diagnostic + 1) d
  omega

/-- From some number of rounds on, a session comes to the same report, by the same number of rounds that apply
something, however many rounds it is allowed; and with one more round the records only go on. -/
theorem sessions_converge (o : Options) (level : FixLevel) (d : Document) :
    (∃ N : Int, ∃ report, ∃ passes : Nat, ∀ n ≥ N,
      (run ⟨o, document⟩ ⟨true, .ok level, .int n⟩ d).result = .ok report ∧
      (run ⟨o, document⟩ ⟨true, .ok level, .int n⟩ d).passes = passes) ∧
    ∀ n : Int, ∃ report next,
      (run ⟨o, document⟩ ⟨true, .ok level, .int n⟩ d).result = .ok report ∧
      (run ⟨o, document⟩ ⟨true, .ok level, .int (n + 1)⟩ d).result = .ok next ∧
      report.applied <+: next.applied := by
  have hfault := ResultKept.fault_examine o
  have hreport (n : Int) := @exists_report _ (.int n) _ level hfault rfl d
  constructor
  · obtain ⟨k, -, hidle⟩ := exists_idle_round o level d
    obtain ⟨report, -, hdocument, hverdict, happlied⟩ := hreport k
    refine ⟨k, report, busyRounds ⟨o, document⟩ level k d, fun n hn => ?_⟩
    have hk : k ≤ n.toNat := by omega
    constructor
    · obtain ⟨other, hother, hlast, hsame, hrecords⟩ := hreport n
      have hdocuments : other.document = report.document := by
        rw [hdocument, hlast, afterRounds_of_not_busy hidle hk]
        rfl
      have hrecorded : other.applied = report.applied := by
        rw [happlied, hrecords, journal_of_not_busy hidle hk]
        rfl
      rw [hdocuments, hverdict] at hsame
      rw [hother, show other = ⟨other.verdict, other.document, other.applied⟩ from rfl, hdocuments,
        hrecorded, ← Except.ok.inj hsame]
    · rw [@passes_run _ n.toNat (.int n) level hfault rfl d, busyRounds_of_le hidle hk]
  · intro n
    obtain ⟨report, hresult, -, -, happlied⟩ := hreport n
    obtain ⟨next, hnext, -, -, hmore⟩ := hreport (n + 1)
    refine ⟨report, next, hresult, hnext, ?_⟩
    obtain ⟨more, hrounds⟩ := Nat.exists_eq_add_of_le (show n.toNat ≤ (n + 1).toNat by omega)
    rw [happlied, hmore, hrounds, journal_add]
    exact List.prefix_append _ _

/-- A number among diagnostics takes two rounds, however many more are allowed, and the second one only adds
to what the first one has recorded. -/
theorem sessions_of_number_converge :
    (∃ N : Int, ∃ report, report.document = placed ∧ report.applied = [numberFix, messageFix, locationFix] ∧
      ∀ n ≥ N, (run Validator.standard ⟨true, .ok .basic, .int n⟩ numbered).result = .ok report ∧
        (run Validator.standard ⟨true, .ok .basic, .int n⟩ numbered).passes = 2) ∧
    ∃ report next,
      (run Validator.standard ⟨true, .ok .basic, .int 1⟩ numbered).result = .ok report ∧
      (run Validator.standard ⟨true, .ok .basic, .int 2⟩ numbered).result = .ok next ∧
      report.applied = [numberFix] ∧ next.applied = [numberFix, messageFix, locationFix] ∧
      report.applied <+: next.applied := by
  obtain ⟨⟨N, report, passes, hconverge⟩, hprefix⟩ := sessions_converge .standard .basic numbered
  constructor
  · obtain ⟨hresult, hpasses⟩ := hconverge (max N 2) (Int.le_max_left N 2)
    obtain ⟨last, hlast, hdocument, happlied, htwo⟩ := exists_report_numbered (Int.le_max_right N 2)
    obtain rfl := Except.ok.inj (hresult.symm.trans hlast)
    have hcount : passes = 2 := hpasses.symm.trans htwo
    exact ⟨N, report, hdocument, happlied, fun n hn => hcount ▸ hconverge n hn⟩
  · obtain ⟨first, next, hfirst, hnext, hrecords⟩ := hprefix 1
    obtain ⟨one, hone, -, -, hbegun⟩ :=
      @exists_report _ (.int 1) 1 .basic (ResultKept.fault_examine .standard) rfl numbered
    obtain ⟨two, htwo, -, hdone, -⟩ := exists_report_numbered (Int.le_refl 2)
    obtain rfl := Except.ok.inj (hfirst.symm.trans hone)
    obtain rfl := Except.ok.inj (hnext.symm.trans htwo)
    have hjournal : journal Validator.standard .basic 1 numbered = [numberFix] := by
      simp only [journal, examine_numbered, fix_numbered.2, List.append_nil]
    exact ⟨first, next, hfirst, hnext, hbegun.trans hjournal, hdone, hrecords⟩

end ReviewDiagnostics.Proofs.Convergence
