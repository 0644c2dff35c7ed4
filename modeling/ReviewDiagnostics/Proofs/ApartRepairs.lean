import ReviewDiagnostics.Proofs.Journal
import ReviewDiagnostics.Proofs.SecondRound

/-!
# Repairs of one round lie apart

The findings that a round repairs stand at places of which none leads to another: what lies inside a list
that is replaced is not repaired any more.  So no record of the round is about what another one has written.
Each tells what stood at its path before the round, and what stands there after it.
-/

namespace ReviewDiagnostics

/-- Two paths that can be read and of which neither leads to the other. -/
def Path.Clear (p q : String) : Prop :=
  ∃ first second, parse p = .ok first ∧ parse q = .ok second ∧ Apart first second

namespace Proofs.ApartRepairs

open Document Journal RepairRound SecondRound Separation Slots Writing

variable {o : Options} {level : FixLevel} {d d' value : Document} {f g : Finding} {fix : AppliedFix}
  {fixes : List AppliedFix} {findings : List Finding} {steps p q : List Segment}

/-! ## Records of places that lie apart -/

theorem apart_of_clear {first second : String} (h : Path.Clear first second) (hp : Path.parse first = .ok p)
    (hq : Path.parse second = .ok q) : Apart p q := by
  obtain ⟨_, _, hfirst, hsecond, hapart⟩ := h
  obtain rfl := Except.ok.inj (hfirst.symm.trans hp)
  obtain rfl := Except.ok.inj (hsecond.symm.trans hq)
  exact hapart

theorem exists_of_replays (h : Replays d fixes d') (hclear : (fixes.map (·.path)).Pairwise Path.Clear) :
    ∀ fix ∈ fixes, ∃ steps, Path.parse fix.path = .ok steps ∧ d.valueAt steps = .ok fix.before ∧
      d'.valueAt steps = .ok fix.after := by
  induction h with
  | done => simp
  | @next d d' last fix fixes steps hread hbefore hwritten hrest ih =>
      rw [List.map_cons, List.pairwise_cons, List.forall_mem_map] at hclear
      obtain ⟨hfirst, hclear⟩ := hclear
      have hstart := fromStart_of_parse hread
      refine List.forall_mem_cons.mpr ⟨⟨steps, hread, hbefore, ?_⟩, fun other hother => ?_⟩
      · have huntouched : Untouched fixes steps := fun other hother p hp =>
          apart_comm.mp (apart_of_clear (hfirst other hother) hread hp)
        rw [valueAt_of_replays hrest hstart huntouched]
        exact valueAt_of_at? (at?_of_set? hstart hwritten)
      · obtain ⟨p, hp, hpbefore, hpafter⟩ := ih hclear other hother
        have hapart := apart_of_clear (hfirst other hother) hread hp
        rw [valueAt_of_set? hstart (fromStart_of_parse hp) hapart hwritten] at hpbefore
        exact ⟨p, hp, hpbefore, hpafter⟩

/-! ## The records of a round -/

theorem exists_repair?_of_repaired (h : f.repaired level findings = true) :
    ∃ steps after, f.repair? level = some (steps, after) := by
  rw [Finding.repaired, Bool.and_eq_true] at h
  exact fixable_iff.mp h.1

theorem pairwise_clear_repaired (hpairs : findings.Pairwise fun f g => Separate f g ∨ f.sweeps g = true) :
    ((findings.filter (·.repaired level findings)).map (·.path)).Pairwise Path.Clear := by
  rw [List.pairwise_map]
  refine (hpairs.filter _).imp_of_mem fun {f g} hf hg hpair => ?_
  obtain ⟨hf, hfrepaired⟩ := List.mem_filter.mp hf
  obtain ⟨-, hgrepaired⟩ := List.mem_filter.mp hg
  obtain ⟨p, _, hfrepair⟩ := exists_repair?_of_repaired hfrepaired
  obtain ⟨q, _, hgrepair⟩ := exists_repair?_of_repaired hgrepaired
  have hp := (repair?_eq_some_iff.mp hfrepair).1
  have hq := (repair?_eq_some_iff.mp hgrepair).1
  refine ⟨p, q, hp, hq, ?_⟩
  rcases hpair with (hidle | hidle | hapart) | hsweeps
  · exact (not_idle_of_fixable (fixable_iff.mpr ⟨_, _, hfrepair⟩) hidle).elim
  · exact (not_idle_of_fixable (fixable_iff.mpr ⟨_, _, hgrepair⟩) hidle).elim
  · exact hapart p q hp hq
  · rw [Finding.repaired, List.any_eq_true.mpr ⟨f, hf, hsweeps⟩] at hgrepaired
    simp at hgrepaired

private theorem exists_at?_of_mem_applied {v : Verdict}
    (hv : Validator.validate ⟨o, ReviewFormat.document⟩ d = .ok v)
    (hfix : fix ∈ (Repair.fix level d v.errors).applied) : ∃ steps after,
      Path.parse fix.path = .ok steps ∧
        (Repair.fix level d v.errors).document.at? steps = .ok (some after) := by
  obtain ⟨happlied, -, hrewritten⟩ := completed_fix level hv
  have hpath := List.mem_map_of_mem (f := (·.path)) hfix
  rw [happlied] at hpath
  obtain ⟨f, hf, hsame⟩ := List.mem_map.mp hpath
  obtain ⟨steps, after, hrepair⟩ := exists_repair?_of_repaired (List.mem_filter.mp hf).2
  refine ⟨steps, after, hsame ▸ (repair?_eq_some_iff.mp hrepair).1, at?_of_slot? ?_⟩
  exact hrewritten.written _ (List.mem_filterMap.mpr ⟨f, hf, hrepair⟩)

/-- The repairs of a round do not interfere: no record is about a place that leads to another one's, and each
tells what its place was before the round and what it is after it. -/
theorem repairs_of_round_lie_apart (o : Options) (level : FixLevel) (d : Document) : ∃ v,
    Validator.validate ⟨o, ReviewFormat.document⟩ d = .ok v ∧
      ((Repair.fix level d v.errors).applied.map (·.path)).Pairwise Path.Clear ∧
      ∀ fix ∈ (Repair.fix level d v.errors).applied, ∃ steps, Path.parse fix.path = .ok steps ∧
        d.valueAt steps = .ok fix.before ∧
        (Repair.fix level d v.errors).document.at? steps = .ok (some fix.after) := by
  obtain ⟨v, hv⟩ := exists_validate o d
  have hclear : ((Repair.fix level d v.errors).applied.map (·.path)).Pairwise Path.Clear := by
    rw [show _ = (v.errors.filter (·.repaired level v.errors)).map (·.path) from (completed_fix level hv).applied,
      Addresses.errors_of_validate hv]
    exact pairwise_clear_repaired
      ((Reconciliation.pairwise_examine o d).imp fun h => h.imp_right And.right)
  refine ⟨v, hv, hclear, fun fix hfix => ?_⟩
  obtain ⟨steps, hread, hbefore, hafter⟩ := exists_of_replays (replays_fix level d v.errors) hclear fix hfix
  obtain ⟨p, after, hp, hat⟩ := exists_at?_of_mem_applied hv hfix
  obtain rfl := Except.ok.inj (hp.symm.trans hread)
  obtain rfl := Except.ok.inj ((valueAt_of_at? hat).symm.trans hafter)
  exact ⟨p, hread, hbefore, hat⟩

/-- A round gives an empty diagnostic a message and a location, neither of which is inside the other. -/
theorem repairs_of_empty_diagnostic_lie_apart : ∃ v,
    Validator.validate Validator.standard emptied = .ok v ∧
      (Repair.fix .basic emptied v.errors).applied = [messageFix, locationFix] ∧
      Path.Clear messageFix.path locationFix.path ∧
      ∀ fix ∈ [messageFix, locationFix], ∃ steps, Path.parse fix.path = .ok steps ∧
        emptied.valueAt steps = .ok fix.before ∧ placed.at? steps = .ok (some fix.after) := by
  obtain ⟨v, hv, hclear, hrecords⟩ := repairs_of_round_lie_apart .standard .basic emptied
  have hround : v.errors = [missingFinding, unlocatedFinding] :=
    (Addresses.errors_of_validate hv).trans examine_emptied
  rw [hround, fix_emptied.2] at hclear hrecords
  rw [fix_emptied.1] at hrecords
  refine ⟨v, hv, ?_, List.rel_of_pairwise_cons hclear (by simp), hrecords⟩
  rw [hround, fix_emptied.2]

end Proofs.ApartRepairs

end ReviewDiagnostics
