import ReviewDiagnostics.Proofs.Journal
import ReviewDiagnostics.Proofs.Passes
import ReviewDiagnostics.Proofs.SecondRound

/-!
# What a session reports

A session reports the verdict on the document that it comes to.  A round that applies nothing is the last
one that matters, and what is found then cannot be repaired.  So a session that does not use up its rounds
leaves no finding that could be repaired.
-/

namespace ReviewDiagnostics

/-- The document that a session ends with: nothing is made of the given one if nothing is applied. -/
def Report.final (r : Report) (d : Document) : Document :=
  if r.applied.isEmpty then d else r.document

namespace Proofs.FinalVerdict

open Addresses Journal Passes Repair RepairRound Rounds SecondRound Session

variable {v : Validator} {level : FixLevel} {d : Document} {r : Report} {n : Nat}

theorem final_of_replays (h : Replays d r.applied r.document) : r.final d = r.document := by
  rw [Report.final]
  split
  · rename_i hnone
    rw [List.isEmpty_iff.mp hnone] at h
    cases h with
    | done => rfl
  · rfl

theorem exists_not_busy (h : busyRounds v level n d < n) :
    ∃ k < n, busy v level (afterRounds v level k d) = false := by
  have hcount : (List.range n).countP (fun k => busy v level (afterRounds v level k d)) ≠
      (List.range n).length := by
    rw [List.length_range]
    exact Nat.ne_of_lt h
  rw [Ne, List.countP_eq_length] at hcount
  simpa using hcount

private theorem not_canFix_of_not_busy {o : Options} {verdict : Verdict} {f : Finding}
    (hbusy : busy ⟨o, ReviewFormat.document⟩ level d = false)
    (hverdict : Validator.validate ⟨o, ReviewFormat.document⟩ d = .ok verdict)
    (hf : f ∈ verdict.errors) : canFix level f ≠ .ok true := by
  have hnone := applied_of_not_busy hbusy
  rw [← errors_of_validate hverdict] at hnone
  have hfixable := (SecondRound.applied_eq_nil_iff hverdict).mp hnone f hf
  intro hcan
  rw [Finding.fixable, hcan] at hfixable
  contradiction

/-- A session reports the verdict on the document that it ends with.  If fewer rounds than it is allowed
apply something, no finding of this verdict can be repaired. -/
theorem session_reports_final_verdict (o : Options) (level : FixLevel) (n : Int) (d : Document) :
    ∃ report, (run ⟨o, ReviewFormat.document⟩ ⟨true, .ok level, .int n⟩ d).result = .ok report ∧
      Validator.validate ⟨o, ReviewFormat.document⟩ (report.final d) = .ok report.verdict ∧
      ((run ⟨o, ReviewFormat.document⟩ ⟨true, .ok level, .int n⟩ d).passes < n →
        ∀ f ∈ report.verdict.errors, canFix level f ≠ .ok true) := by
  have hfault := ResultKept.fault_examine o
  obtain ⟨report, hreport, hdocument, hverdict, happlied⟩ := @exists_report _ (.int n) _ level hfault rfl d
  have hreplays := replays_journal ⟨o, ReviewFormat.document⟩ level n.toNat d
  rw [← hdocument, ← happlied] at hreplays
  refine ⟨report, hreport, ?_, fun hfewer f hf => ?_⟩
  · rw [final_of_replays hreplays, hverdict]
  · have hpasses := @passes_run _ n.toNat (.int n) level hfault rfl d
    have hrounds : busyRounds ⟨o, ReviewFormat.document⟩ level n.toNat d < n.toNat := by omega
    obtain ⟨k, hk, hbusy⟩ := exists_not_busy hrounds
    rw [hdocument, afterRounds_of_not_busy hbusy (Nat.le_of_lt hk)] at hverdict
    exact not_canFix_of_not_busy hbusy hverdict hf

/-- A number among diagnostics takes two of three rounds, and nothing that is found in the end can be
repaired. -/
theorem session_of_number_reports_final_verdict : ∃ report,
    (run Validator.standard ⟨true, .ok .basic, .int 3⟩ numbered).result = .ok report ∧
      (run Validator.standard ⟨true, .ok .basic, .int 3⟩ numbered).passes = 2 ∧
      report.final numbered = placed ∧ Validator.validate Validator.standard placed = .ok report.verdict ∧
      ∀ f ∈ report.verdict.errors, canFix .basic f ≠ .ok true := by
  obtain ⟨report, hreport, hverdict, hunfixable⟩ := session_reports_final_verdict .standard .basic 3 numbered
  obtain ⟨other, hother, hplaced, hrecords, hpasses⟩ := exists_report_numbered (show (2 : Int) ≤ 3 by decide)
  obtain rfl := Except.ok.inj (hreport.symm.trans hother)
  have hfinal : report.final numbered = placed := by
    rw [Report.final, hrecords, hplaced]
    rfl
  rw [hfinal] at hverdict
  have hfewer : ((run Validator.standard ⟨true, .ok .basic, .int 3⟩ numbered).passes : Int) < 3 := by
    rw [hpasses]
    decide
  exact ⟨report, hreport, hpasses, hfinal, hverdict, hunfixable hfewer⟩

end Proofs.FinalVerdict

end ReviewDiagnostics
