import ReviewDiagnostics.Proofs.ResultKept
import ReviewDiagnostics.Proofs.SecondRound
import ReviewDiagnostics.Proofs.Writing

/-!
# The records of a session

A session keeps a record of each repair.  The records are all that it does to a document: writing the
values that they name, one after the other, leads from the document to what the session comes to, and each
record tells what was read at its path just before.
-/

namespace ReviewDiagnostics

/-- Writing what the records say, one after the other, leads from one document to another one, and each
record tells what is read at its path when its turn comes. -/
inductive Replays : Document → List AppliedFix → Document → Prop where
  | done (d : Document) : Replays d [] d
  | next {d d' last : Document} {fix : AppliedFix} {fixes : List AppliedFix} {steps : List Segment}
      (read : Path.parse fix.path = .ok steps) (before : d.valueAt steps = .ok fix.before)
      (written : d.set? steps fix.after = some d') (rest : Replays d' fixes last) :
      Replays d (fix :: fixes) last

/-- No record is about a path that leads to another one, or the other way around. -/
def Untouched (fixes : List AppliedFix) (q : List Segment) : Prop :=
  ∀ fix ∈ fixes, ∀ steps, Path.parse fix.path = .ok steps → Apart steps q

namespace Proofs.Journal

open Repair RepairRound Rounds SecondRound Writing

variable {o : Options} {v : Validator} {level : FixLevel} {d d' d'' : Document} {f : Finding} {r : Round}
  {fix : AppliedFix} {fixes more : List AppliedFix} {steps q : List Segment} {before after : Document}

theorem replays_append (hfirst : Replays d fixes d') (hmore : Replays d' more d'') :
    Replays d (fixes ++ more) d'' := by
  induction hfirst with
  | done => exact hmore
  | next hread hbefore hwritten _ ih => exact .next hread hbefore hwritten (ih hmore)

private theorem replays_of_writes (h : Writes level d f steps before after d') (message : String) :
    Replays d [⟨f.path, message, before, after⟩] d' := by
  obtain ⟨slot, hslot, hbefore⟩ := h.found
  refine .next h.read ?_ h.written (.done d')
  rw [Document.valueAt, hslot]
  exact congrArg Except.ok hbefore

/-! ## What is written is what the records say -/

theorem exists_replays_step (level : FixLevel) (r : Round) (f : Finding) : ∃ fixes,
    (Round.step level r f).applied = r.applied ++ fixes ∧
      Replays r.document fixes (Round.step level r f).document := by
  by_cases hwrites : ∃ steps before after d', Writes level r.document f steps before after d'
  · obtain ⟨steps, before, after, d', hwrites⟩ := hwrites
    obtain ⟨rfl, happlied, -⟩ := step_of_writes hwrites
    exact ⟨_, happlied, replays_of_writes hwrites _⟩
  · simp only [not_exists] at hwrites
    obtain ⟨hdocument, happlied, -⟩ := step_of_not_writes hwrites
    refine ⟨[], by rw [happlied, List.append_nil], ?_⟩
    rw [hdocument]
    exact .done r.document

theorem exists_replays_foldl (level : FixLevel) (findings : List Finding) (r : Round) : ∃ fixes,
    (findings.foldl (Round.step level) r).applied = r.applied ++ fixes ∧
      Replays r.document fixes (findings.foldl (Round.step level) r).document := by
  induction findings generalizing r with
  | nil => exact ⟨[], (List.append_nil _).symm, .done r.document⟩
  | cons f findings ih =>
      obtain ⟨first, hfirst, hstep⟩ := exists_replays_step level r f
      obtain ⟨rest, hrest, hreplays⟩ := ih (Round.step level r f)
      refine ⟨first ++ rest, ?_, replays_append hstep hreplays⟩
      rw [List.foldl_cons, hrest, hfirst, List.append_assoc]

theorem replays_fix (level : FixLevel) (d : Document) (findings : List Finding) :
    Replays d (Repair.fix level d findings).applied (Repair.fix level d findings).document := by
  obtain ⟨fixes, happlied, hreplays⟩ := exists_replays_foldl level findings (.start d)
  have hrecords : (findings.foldl (Round.step level) (.start d)).applied = fixes := happlied
  rw [← hrecords] at hreplays
  exact hreplays

theorem replays_journal (v : Validator) (level : FixLevel) (n : Nat) (d : Document) :
    Replays d (journal v level n d) (afterRounds v level n d) := by
  induction n generalizing d with
  | zero => exact .done d
  | succ n ih => exact replays_append (replays_fix level d _) (ih (afterRound v level d))

/-! ## What is not written -/

/-- Paths that are apart from all records lead to the same values before and after. -/
theorem valueAt_of_replays (h : Replays d fixes d') (hq : ∀ s ∈ q, s.FromStart)
    (huntouched : Untouched fixes q) : d'.valueAt q = d.valueAt q := by
  induction h with
  | done => rfl
  | next hread _ hwritten _ ih =>
      obtain ⟨hapart, hlater⟩ := List.forall_mem_cons.mp huntouched
      rw [ih hlater, valueAt_of_set? (fromStart_of_parse hread) hq (hapart _ hread) hwritten]

private theorem at?_afterRound (hq : ∀ s ∈ q, s.FromStart)
    (huntouched : Untouched (Repair.fix level d
      (Validator.examine ⟨o, ReviewFormat.document⟩ d).errors).applied q) :
    (afterRound ⟨o, ReviewFormat.document⟩ level d).at? q = d.at? q := by
  obtain ⟨verdict, hverdict⟩ := exists_validate o d
  have happlied : (Repair.fix level d verdict.errors).applied.map (·.path) =
      (verdict.errors.filter (·.repaired level verdict.errors)).map (·.path) :=
    (completed_fix level hverdict).applied
  rw [Addresses.errors_of_validate hverdict] at happlied
  -- What is found blames places that there are, so that no list is filled up on the way to one.
  rw [at?_eq_join hq, at?_eq_join hq, (rewritten_afterRound o level d).apart q fun w hw => ?_]
  obtain ⟨f, hf, hrepaired, hrepair⟩ := mem_writes.mp hw
  have hpath := List.mem_map_of_mem (f := (·.path)) (List.mem_filter.mpr ⟨hf, hrepaired⟩)
  rw [← happlied] at hpath
  obtain ⟨fix, hfix, hsame⟩ := List.mem_map.mp hpath
  exact huntouched fix hfix _ (hsame ▸ (repair?_eq_some_iff.mp hrepair).1)

theorem at?_afterRounds (n : Nat) (hq : ∀ s ∈ q, s.FromStart)
    (huntouched : Untouched (journal ⟨o, ReviewFormat.document⟩ level n d) q) :
    (afterRounds ⟨o, ReviewFormat.document⟩ level n d).at? q = d.at? q := by
  induction n generalizing d with
  | zero => rfl
  | succ n ih =>
      obtain ⟨hround, hlater⟩ := List.forall_mem_append.mp huntouched
      rw [afterRounds, ih hlater, at?_afterRound hq hround]

/-- The records of a session, written one after the other, lead from a document to what the session comes
to; each of them tells what is read at its path when its turn comes; and all paths apart from theirs read
as before. -/
theorem session_is_replayed (o : Options) (level : FixLevel) (n : Int) (d : Document) : ∃ report,
    (Session.run ⟨o, ReviewFormat.document⟩ ⟨true, .ok level, .int n⟩ d).result = .ok report ∧
      Replays d report.applied report.document ∧
      ∀ q : List Segment, (∀ s ∈ q, s.FromStart) → Untouched report.applied q →
        report.document.at? q = d.at? q := by
  obtain ⟨report, hreport, hdocument, -, happlied⟩ :=
    @exists_report _ (.int n) _ level (ResultKept.fault_examine o) rfl d
  have hreplays := replays_journal ⟨o, ReviewFormat.document⟩ level n.toNat d
  refine ⟨report, hreport, ?_, fun q hq huntouched => ?_⟩
  · rwa [hdocument, happlied]
  · rw [happlied] at huntouched
    rw [hdocument, at?_afterRounds n.toNat hq huntouched]

/-- The records of two rounds on a number among diagnostics lead to a result with a message and a location,
and its source, which is not there, is not touched. -/
theorem session_of_number_is_replayed : ∃ report,
    (Session.run Validator.standard ⟨true, .ok .basic, .int 2⟩ numbered).result = .ok report ∧
      report.applied = [numberFix, messageFix, locationFix] ∧ report.document = placed ∧
      Replays numbered [numberFix, messageFix, locationFix] placed ∧
      placed.at? [.name "source"] = numbered.at? [.name "source"] := by
  obtain ⟨report, hreport, hreplays, huntouched⟩ := session_is_replayed .standard .basic 2 numbered
  obtain ⟨other, hother, hdocument, happlied, -⟩ := exists_report_numbered (Int.le_refl 2)
  obtain rfl := Except.ok.inj (hreport.symm.trans hother)
  rw [hdocument, happlied] at hreplays huntouched
  have hapart {p : String} {rest : List Segment} (hp : Path.parse p = .ok (.name "diagnostics" :: rest))
      (steps : List Segment) (hsteps : Path.parse p = .ok steps) : Apart steps [.name "source"] := by
    obtain rfl := Except.ok.inj (hp.symm.trans hsteps)
    exact Slots.apart_cons_iff.mpr (by simp)
  refine ⟨report, hreport, happlied, hdocument, hreplays, huntouched _ (by simp [Segment.FromStart]) ?_⟩
  simp only [Untouched, List.forall_mem_cons, List.not_mem_nil, false_imp_iff, implies_true, and_true]
  exact ⟨hapart writes_numbered.read, hapart parse_missing, hapart parse_unlocated⟩

end Proofs.Journal

end ReviewDiagnostics
