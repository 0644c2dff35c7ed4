import ReviewDiagnostics.Proofs.Causes
import ReviewDiagnostics.Proofs.SecondRound

/-!
# Repairs that last

A round puts a value at the path of each finding that it repairs, and whatever else it repairs lies apart from
that path.  The value is of the kind that the form of the place asks for, whichever form the document is
judged by afterwards; a text is not blank, a number is not below one, a severity is one, and a field that was
missing is there.  So the next look does not find the same at the same path.
-/

namespace ReviewDiagnostics

/-- What is wrong with a value in a place of a certain form where it is found fault with by a code. -/
def Code.Faults : Code → Schema → Document → Prop
  | .typeMismatch, t, c => c.kind? ≠ t.kind?
  | .emptyString, _, c => ∃ text, c = .string text ∧ Text.allBlank text = true
  | .minValueViolation, _, c | .invalidPosition, _, c => c.less (.int 1) = true
  | .invalidSeverity, _, c => Refinement.isSeverity c = false
  | _, _, _ => False

namespace Repair

/-- When the turn of a finding comes in a round, it is repaired. -/
def RepairedAtTurn (level : FixLevel) (d : Document) (findings : List Finding) (f : Finding) : Prop :=
  ∃ before rest attempt, findings = before ++ f :: rest ∧
    applyFix level (fix level d before).document f = .ok attempt ∧ attempt.applied.isSome = true

end Repair

namespace Proofs.LastingRepairs

open Addresses Causes Conformity FormatParts PathText PlannedValues Repair RepairRound ReviewFormat
  SecondRound Separation Slots

variable {o : Options} {level : FixLevel} {t : Schema} {d c after : Document} {steps : List Segment}
  {f g : Finding} {findings rest : List Finding} {r : Round}

/-! ## What is written answers the finding -/

theorem faults_of_against (hf : f.Against steps t) (hcontent : f.content? = some c) : f.code.Faults t c := by
  have hvalue : f.value = c := by
    rw [Finding.content?] at hcontent
    split at hcontent
    · cases hcontent
    · exact Option.some.inj hcontent
  subst hvalue
  cases hf with
  | kind hkind hother => exact fun hsame => hother (hsame.trans hkind)
  | blank hblank => exact ⟨_, rfl, hblank⟩
  | low hcause hkind hless => rcases hcause with rfl | rfl <;> exact hless
  | severity hother => exact hother
  | missing hcause =>
      simp only [List.mem_cons, List.not_mem_nil, or_false] at hcause
      rcases hcause with rfl | rfl | rfl <;> cases hcontent

/-- A value that is planned for a finding cannot be found fault with in the same way. -/
theorem not_faults_of_planned (hf : f.Against steps t)
    (hplan : plan level f steps f.value = .ok (some after)) : ¬ f.code.Faults t after := by
  intro hfaults
  cases hf with
  | kind hkind => exact hfaults ((kind?_of_coerce (coerce_of_plan hplan)).trans hkind.symm)
  | blank hblank =>
      obtain ⟨text, rfl, hfilled⟩ := exists_text_of_plan rfl hplan
      obtain ⟨_, heq, hstill⟩ := hfaults
      rw [← Document.string.inj heq, hfilled] at hstill
      contradiction
  | low hcause hkind hless =>
      obtain rfl := eq_one_of_plan hcause hkind hless hplan
      have hone : Document.less (.int 1) (.int 1) = true := by
        rcases hcause with rfl | rfl <;> exact hfaults
      rw [less_asymm hone] at hone
      contradiction
  | severity hother =>
      obtain rfl := eq_normalize_of_plan hplan rfl
      have hagain : Refinement.isSeverity (.string (Severity.normalize _)) = false := hfaults
      rw [NodeRepairs.isSeverity_normalize] at hagain
      contradiction
  | missing hcause =>
      simp only [List.mem_cons, List.not_mem_nil, or_false] at hcause
      rcases hcause with rfl | rfl | rfl <;> exact hfaults

/-! ## What a round leaves at the path of a repaired finding -/

theorem slot?_of_treated (hpairs : ∀ g ∈ rest, Separate f g ∨ f.sweeps g = true)
    (hrest : rest.Pairwise fun f g => Separate f g ∨ f.sweeps g = true)
    (hnull : ∀ g ∈ rest, g.code.isAbsence = true → g.value = .null)
    (htracked : ∀ g ∈ rest, Tracked d g) (htreated : Treated level d f steps after r.document) :
    (rest.foldl (Round.step level) r).document.slot? steps = some (some after) := by
  obtain ⟨hread, -⟩ := repair?_eq_some_iff.mp htreated.planned
  have hlater : ∀ g ∈ rest, Tracked r.document g := fun g hg =>
    tracked_of_replaced htreated.holds htreated.planned htreated.replaced (hpairs g hg) (htracked g hg)
  have hrewritten := (@foldl_step level rest r hrest hnull hlater).rewritten
  rw [hrewritten.apart steps fun w hw => ?_]
  · exact htreated.replaced.written
  · obtain ⟨g, hg, hrepair⟩ := List.mem_filterMap.mp hw
    obtain ⟨hmem, hkept⟩ := List.mem_filter.mp hg
    have hlive := not_idle_of_fixable (fixable_iff.mpr ⟨_, _, hrepair⟩)
    rcases hpairs g hmem with (hidle | hidle | hapart) | hsweeps
    · exact (not_idle_of_fixable (fixable_iff.mpr ⟨_, _, htreated.planned⟩) hidle).elim
    · exact (hlive hidle).elim
    · exact apart_comm.mp (hapart steps w.1 hread (repair?_eq_some_iff.mp hrepair).1)
    -- What is swept away is inside the list that was replaced.
    · have hbarred := barred_of_sweeps hsweeps htreated.holds ((htracked g hmem).resolve_left hlive)
        htreated.planned htreated.replaced
      rw [kept, hbarred] at hkept
      simp at hkept

private theorem applied_ne_of_attempt {attempt : Attempt} (h : applyFix level r.document f = .ok attempt)
    (hsome : attempt.applied.isSome = true) : (Round.step level r f).applied ≠ r.applied := by
  obtain ⟨fix, hfix⟩ := Option.isSome_iff_exists.mp hsome
  simp [Round.step, h, hfix]

theorem exists_planned_of_repaired {v : Verdict}
    (hv : Validator.validate ⟨o, document⟩ d = .ok v) (hf : RepairedAtTurn level d v.errors f) :
    ∃ steps after, f.repair? level = some (steps, after) ∧
      (fix level d v.errors).document.slot? steps = some (some after) := by
  obtain ⟨before, rest, attempt, hsplit, hattempt, hsome⟩ := hf
  have hpairs := (Reconciliation.pairwise_examine o d).imp fun h => h.imp_right And.right
  have hholds {g : Finding} (hg : g ∈ before ++ f :: rest) :=
    holds_of_mem_examine FormatParts.plainNames_document (errors_of_validate hv ▸ hsplit ▸ hg)
  rw [← errors_of_validate hv, hsplit] at hpairs
  obtain ⟨-, hlater, -⟩ := List.pairwise_append.mp hpairs
  obtain ⟨hpair, hrest⟩ := List.pairwise_cons.mp hlater
  have htracked := @tracked_foldl level before (.start d) (f :: rest) hpairs
    (fun g hg => (hholds (List.mem_append_left _ hg)).2) fun g hg => (hholds hg).1.imp_right .inr
  obtain ⟨hftracked, htracked⟩ := List.forall_mem_cons.mp htracked
  have hfnull := (hholds (List.mem_append_right before List.mem_cons_self)).2
  rcases step_of_tracked level hfnull hftracked with ⟨steps, after, htreated, -⟩ | ⟨-, happlied⟩
  · refine ⟨steps, after, htreated.planned, ?_⟩
    have hslot := slot?_of_treated hpair hrest
      (fun g hg => (hholds (List.mem_append_right before (List.mem_cons_of_mem f hg))).2) htracked htreated
    rw [hsplit]
    simpa [fix] using hslot
  · exact (applied_ne_of_attempt (r := before.foldl (Round.step level) (.start d)) hattempt hsome
      happlied).elim

/-- A finding that a round repairs is not found again: not with the same code at the same path. -/
theorem repaired_findings_do_not_recur (o : Options) (level : FixLevel) (d : Document) : ∃ v w,
    Validator.validate ⟨o, document⟩ d = .ok v ∧
      Validator.validate ⟨o, document⟩ (fix level d v.errors).document = .ok w ∧
      ∀ f, RepairedAtTurn level d v.errors f → ∀ g ∈ w.errors, g.path = f.path → g.code ≠ f.code := by
  obtain ⟨v, hv⟩ := exists_validate o d
  obtain ⟨w, hw⟩ := exists_validate o (fix level d v.errors).document
  refine ⟨v, w, hv, hw, fun f hrepaired g hg hpath hcode => ?_⟩
  obtain ⟨steps, after, hrepair, hslot⟩ := exists_planned_of_repaired hv hrepaired
  obtain ⟨before, rest, -, hsplit, -⟩ := hrepaired
  have hf : f ∈ v.errors := by simp [hsplit]
  have hftreatable := treatable_of_repair hrepair
  have hgtreatable : g.Treatable := ⟨hpath ▸ hftreatable.1, hcode ▸ hftreatable.2⟩
  rw [errors_of_validate hv] at hf
  rw [errors_of_validate hw] at hg
  obtain ⟨p, t, hp, htform, hfagainst⟩ := against_of_mem_examine hf hftreatable
  obtain ⟨q, u, hq, huform, hgagainst⟩ := against_of_mem_examine hg hgtreatable
  obtain ⟨hread, hplan⟩ := repair?_eq_some_iff.mp hrepair
  obtain rfl := eq_of_parse hp (path_of_against hfagainst ▸ hread)
  obtain rfl := eq_of_parse hq (path_of_against hgagainst ▸ hpath ▸ hread)
  obtain rfl := Option.some.inj (htform.symm.trans huform)
  have hholds := (holds_of_mem_examine FormatParts.plainNames_document hg).1.resolve_left
    (not_idle_of_treatable hgtreatable)
  have hcontent := Option.some.inj ((hholds _ (hpath ▸ hread)).symm.trans hslot)
  exact not_faults_of_planned hfagainst hplan (hcode ▸ faults_of_against hgagainst hcontent)

/-- A number among diagnostics is repaired, and the next look finds what is missing in its place, but not
the number. -/
theorem number_does_not_recur : ∃ v w,
    Validator.validate Validator.standard numbered = .ok v ∧
      Validator.validate Validator.standard (fix .basic numbered v.errors).document = .ok w ∧
      v.errors = [numberFinding] ∧ w.errors = [missingFinding, unlocatedFinding] ∧
      RepairedAtTurn .basic numbered v.errors numberFinding ∧
      ∀ g ∈ w.errors, g.path = "diagnostics[0]" → g.code ≠ .typeMismatch := by
  obtain ⟨v, w, hv, hw, hlasting⟩ := repaired_findings_do_not_recur .standard .basic numbered
  have hfirst : v.errors = [numberFinding] := (errors_of_validate hv).trans examine_numbered
  have hsecond : w.errors = [missingFinding, unlocatedFinding] := by
    rw [errors_of_validate hw, hfirst, fix_numbered.1]
    exact examine_emptied
  have hrepaired : RepairedAtTurn .basic numbered v.errors numberFinding :=
    ⟨[], [], _, hfirst, applyFix_of_writes writes_numbered, rfl⟩
  exact ⟨v, w, hv, hw, hfirst, hsecond, hrepaired, hlasting numberFinding hrepaired⟩

end Proofs.LastingRepairs

end ReviewDiagnostics
