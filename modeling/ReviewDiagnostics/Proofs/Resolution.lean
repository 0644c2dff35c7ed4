import ReviewDiagnostics.Proofs.Comparison
import ReviewDiagnostics.Proofs.WellTyped

/-!
# What a choice gives

The alternatives of a choice are tried in the order of likelihood.  The first one that passes settles the
choice, and its notices are all there is; if all of them fail, the choice gives what the closest one gives,
and of equally close ones the one that was tried first.  A fault counts only in front of the first
alternative that passes.
-/

namespace ReviewDiagnostics

/-- A check was carried out and found nothing. -/
def Outcome.Passes (x : Outcome) : Prop := x.fault = none ∧ x.errors = []

/-- A check was carried out and found something. -/
def Outcome.Fails (x : Outcome) : Prop := x.fault = none ∧ x.errors ≠ []

namespace Proofs.Resolution

open Conformity Outcome Ranking

variable {path : String} {d : Document} {best? : Option Candidate}

/-! ## Alternatives that fail -/

/-- The closest alternative after more of them have failed. -/
def leading (d : Document) (best? : Option Candidate) (failed : List (Schema × Outcome)) :
    Option Candidate :=
  failed.foldl (fun best? t => some (closer best? (candidate d t))) best?

theorem leading_some (b : Candidate) (failed : List (Schema × Outcome)) :
    leading d (some b) failed = some (closest d b failed) := by
  induction failed generalizing b with
  | nil => rfl
  | cons t failed ih => exact ih (closer (some b) (candidate d t))

/-- Alternatives that fail leave nothing behind but the closest of them. -/
theorem matches_settle_append {failed : List (Schema × Outcome)} (rest : List (Schema × Outcome))
    (hfailed : ∀ t ∈ failed, t.2.Fails) :
    (settle path d best? (failed ++ rest)).Matches Eq Eq
      (settle path d (leading d best? failed) rest) := by
  induction failed generalizing best? with
  | nil => exact Comparison.matches_refl Comparison.compares_eq Comparison.compares_eq _
  | cons t failed ih =>
      obtain ⟨⟨hfault, herrors⟩, hrest⟩ := List.forall_mem_cons.mp hfailed
      rw [List.cons_append, Choice.settle_of_failed hfault herrors]
      obtain ⟨hsameErrors, hsameWarnings, hsameFault⟩ :=
        @ih (some (closer best? (candidate d t))) hrest
      exact ⟨hsameErrors, hsameWarnings, hsameFault⟩

/-! ## The order in which alternatives are tried -/

/-- An alternative is tried before another one: it is likelier, or as likely and declared before it. -/
def Ahead (d : Document) (x y : Schema × Nat) : Prop :=
  Likelihood.score y.1 d < Likelihood.score x.1 d ∨
    Likelihood.score y.1 d = Likelihood.score x.1 d ∧ x.2 < y.2

theorem ahead_asymm {x y : Schema × Nat} (h : Ahead d x y) : ¬ Ahead d y x := by
  simp only [Ahead] at h ⊢
  grind

/-- The alternatives of a choice in the order in which they are tried, each with its number. -/
structure Ranked (d : Document) (alternatives : List Schema) (ranked : List (Schema × Nat)) :
    Prop where
  mem_iff : ∀ {x}, x ∈ ranked ↔ x ∈ alternatives.zipIdx
  ordered : ranked.Pairwise fun x y => y = x ∨ Ahead d x y

theorem eq_or_ahead_of_likelier {α : Type} {alternatives : List Schema} {x y : (Schema × α) × Nat}
    (hx : (x.1.1, x.2) ∈ alternatives.zipIdx) (hy : (y.1.1, y.2) ∈ alternatives.zipIdx)
    (h : Likelier d x y) : (y.1.1, y.2) = (x.1.1, x.2) ∨ Ahead d (x.1.1, x.2) (y.1.1, y.2) := by
  rcases h with hlt | ⟨heq, hle⟩
  · exact .inr (.inl hlt)
  · rcases Nat.lt_or_eq_of_le hle with hnumber | hnumber
    · exact .inr (.inr ⟨heq, hnumber⟩)
    · rw [List.mem_zipIdx_iff_getElem?] at hx hy
      left
      simp_all

theorem exists_ranked_alternatives (d : Document) (alternatives : List Schema) :
    ∃ ranked, Ranked d alternatives ranked ∧ ∀ f : Schema → Outcome,
      Likelihood.order d (alternatives.map fun s => (s, f s)) =
        ranked.map fun x => (x.1, f x.1) := by
  obtain ⟨ranked, horder, hperm, hranked⟩ := exists_ranked d (alternatives.map fun s => (s, ()))
  have hnumbered : (ranked.map fun x => (x.1.1, x.2)).Perm alternatives.zipIdx := by
    have hmap := hperm.map fun x => (x.1.1, x.2)
    rwa [List.zipIdx_map, List.map_map, show ((fun x : (Schema × Unit) × Nat => (x.1.1, x.2)) ∘
      Prod.map (fun s => (s, ())) id) = id from rfl, List.map_id] at hmap
  have hmem : ∀ x ∈ ranked, (x.1.1, x.2) ∈ alternatives.zipIdx := fun x hx =>
    hnumbered.mem_iff.mp (List.mem_map_of_mem hx)
  refine ⟨ranked.map fun x => (x.1.1, x.2), ⟨hnumbered.mem_iff, ?_⟩, fun f => ?_⟩
  · rw [List.pairwise_map]
    exact hranked.imp_of_mem fun hx hy h => eq_or_ahead_of_likelier (hmem _ hx) (hmem _ hy) h
  · rw [Comparison.order_map] at horder ⊢
    have hlikeliest := congrArg (List.map (·.1)) horder
    simp only [List.map_map, Function.comp_def, List.map_id'] at hlikeliest
    rw [hlikeliest, List.map_map, List.map_map]
    rfl

/-! ## The alternative that settles a choice -/

section

variable {o : Options} {about : About} {alternatives : List Schema} {uri : Option Document}
  {ranked before after : List (Schema × Nat)} {x : Schema × Nat}

/-- An alternative is the first one that passes, in the order in which they are tried. -/
structure FirstToPass (o : Options) (path : String) (d : Document) (alternatives : List Schema)
    (x : Schema × Nat) : Prop where
  mem : x ∈ alternatives.zipIdx
  passes : (check o x.1 path d).Passes
  first : ∀ y ∈ alternatives.zipIdx, (check o y.1 path d).Passes → y = x ∨ Ahead d x y

/-- An alternative is the closest one, and of equally close ones the first in the order in which they are
tried. -/
structure Closest (o : Options) (path : String) (d : Document) (alternatives : List Schema)
    (x : Schema × Nat) : Prop where
  mem : x ∈ alternatives.zipIdx
  closest : ∀ y ∈ alternatives.zipIdx,
    Closeness.score y.1 d ((check o y.1 path d).errors.map (·.code)) <
      Closeness.score x.1 d ((check o x.1 path d).errors.map (·.code)) ∨
    Closeness.score y.1 d ((check o y.1 path d).errors.map (·.code)) =
      Closeness.score x.1 d ((check o x.1 path d).errors.map (·.code)) ∧ (y = x ∨ Ahead d x y)

theorem exists_first_not_failing (o : Options) (path : String) (d : Document)
    (ranked : List (Schema × Nat)) : (∀ x ∈ ranked, (check o x.1 path d).Fails) ∨
      ∃ before x after, ranked = before ++ x :: after ∧
        (∀ y ∈ before, (check o y.1 path d).Fails) ∧ ¬ (check o x.1 path d).Fails := by
  classical
  cases hfirst : ranked.find? fun x => !decide (check o x.1 path d).Fails with
  | none => exact .inl (by simpa using hfirst)
  | some x =>
      obtain ⟨hx, before, after, rfl, hbefore⟩ := List.find?_eq_some_iff_append.mp hfirst
      exact .inr ⟨before, x, after, rfl, by simpa using hbefore, by simpa using hx⟩

/-! ## The three ways in which a choice is settled -/

/-- What each of some alternatives gives, in their order. -/
def outcomes (o : Options) (path : String) (d : Document) (ranked : List (Schema × Nat)) :
    List (Schema × Outcome) :=
  ranked.map fun x => (x.1, check o x.1 path d)

theorem outcomes_fail (h : ∀ x ∈ ranked, (check o x.1 path d).Fails) :
    ∀ t ∈ outcomes o path d ranked, t.2.Fails := by
  rw [outcomes, List.forall_mem_map]
  exact h

theorem matches_settle_of_passes (hbefore : ∀ y ∈ before, (check o y.1 path d).Fails)
    (hx : (check o x.1 path d).Passes) :
    (settle path d none (outcomes o path d (before ++ x :: after))).Matches Eq Eq
      { clean with warnings := (check o x.1 path d).warnings } := by
  have happend := @matches_settle_append path d none _
    (outcomes o path d (x :: after)) (outcomes_fail hbefore)
  have hcons : outcomes o path d (x :: after) =
      (x.1, check o x.1 path d) :: outcomes o path d after := rfl
  rw [hcons, Choice.settle_of_clean hx.1 hx.2] at happend
  rw [outcomes, List.map_append]
  exact ⟨happend.errors, happend.warnings, happend.fault⟩

theorem fault_settle_of_fault (hbefore : ∀ y ∈ before, (check o y.1 path d).Fails)
    (hx : (check o x.1 path d).fault ≠ none) :
    (settle path d none (outcomes o path d (before ++ x :: after))).fault ≠ none := by
  have happend := @matches_settle_append path d none _
    (outcomes o path d (x :: after)) (outcomes_fail hbefore)
  rw [outcomes, List.map_append]
  intro hfault
  exact hx (Choice.fault_of_settle (happend.fault.symm.trans hfault))

theorem exists_matches_settle (hranked : Ranked d alternatives ranked)
    (hfailed : ∀ x ∈ ranked, (check o x.1 path d).Fails) (hsome : ranked ≠ []) :
    ∃ x, Closest o path d alternatives x ∧
      (settle path d none (outcomes o path d ranked)).Matches Eq Eq (check o x.1 path d) := by
  cases ranked with
  | nil => contradiction
  | cons b ranked =>
      -- The alternatives with what they give and with their numbers.
      let numbered (x : Schema × Nat) : (Schema × Outcome) × Nat := ((x.1, check o x.1 path d), x.2)
      have hlikelier : ((b :: ranked).map numbered).Pairwise (Likelier d) := by
        rw [List.pairwise_map]
        refine hranked.ordered.imp fun {x y} h => ?_
        rcases h with rfl | hlt | ⟨heq, hnumber⟩
        · exact .inr ⟨rfl, Nat.le_refl _⟩
        · exact .inl hlt
        · exact .inr ⟨heq, Nat.le_of_lt hnumber⟩
      obtain ⟨_, hmem, hclosest, hprecedes⟩ := exists_closest hlikelier
      obtain ⟨x, hx, rfl⟩ := (List.mem_map (l := b :: ranked)).mp hmem
      refine ⟨x, ⟨hranked.mem_iff.mp hx, fun y hy => ?_⟩, ?_⟩
      · rcases hprecedes _ (List.mem_map_of_mem (hranked.mem_iff.mpr hy)) with hlt | ⟨heq, hle⟩
        · exact .inl hlt
        · exact .inr ⟨heq, eq_or_ahead_of_likelier (x := numbered x) (y := numbered y)
            (hranked.mem_iff.mp hx) hy hle⟩
      · have happend := @matches_settle_append path d none _ []
          (outcomes_fail hfailed)
        have hleading : leading d none (outcomes o path d (b :: ranked)) =
            some (candidate d (x.1, check o x.1 path d)) := by
          rw [List.map_map] at hclosest
          exact (leading_some _ _).trans (congrArg some hclosest)
        rw [List.append_nil, hleading] at happend
        exact ⟨happend.errors, happend.warnings, happend.fault.trans (hfailed x hx).1.symm⟩

theorem check_oneOf (hnamed : ∀ s ∈ alternatives, Likelihood.misnamed s d = false)
    (horder : Likelihood.order d (alternatives.map fun s => (s, check o s path d)) =
      outcomes o path d ranked) :
    check o (.oneOf about alternatives uri) path d = settle path d none (outcomes o path d ranked) := by
  rw [check_oneOf_eq, Choice.choose_eq_settle, horder]
  rw [List.forall_mem_map]
  exact hnamed

theorem check_oneOf_nil : check o (.oneOf about [] uri) path d =
    ofError (.expecting path .oneofValidationFailed d "a schema with at least one alternative") := by
  have hempty : Likelihood.order d ([] : List (Schema × Outcome)) = [] :=
    (Choice.order_perm d []).eq_nil
  rw [check, checkAlternatives, choose, hempty]
  rfl

theorem fault_check_of_misnamed {s : Schema} (hs : s ∈ alternatives)
    (hnamed : Likelihood.misnamed s d = true) :
    (check o (.oneOf about alternatives uri) path d).fault ≠ none := by
  rw [check_oneOf_eq, choose, if_pos]
  · simp
  · simpa using ⟨s, hs, hnamed⟩

theorem not_fails_of_passes {x : Outcome} (h : x.Passes) : ¬ x.Fails := fun hfails => hfails.2 h.2

theorem passes_of_not_fails {x : Outcome} (hfault : x.fault = none) (h : ¬ x.Fails) : x.Passes :=
  ⟨hfault, Classical.byContradiction fun herrors => h ⟨hfault, herrors⟩⟩

theorem eq_or_ahead_of_not_before (hranked : Ranked d alternatives (before ++ x :: after))
    {y : Schema × Nat} (hy : y ∈ alternatives.zipIdx) (hbefore : y ∉ before) :
    y = x ∨ Ahead d x y := by
  have hbehind := (List.pairwise_cons.mp (List.pairwise_append.mp hranked.ordered).2.1).1
  rcases List.mem_append.mp (hranked.mem_iff.mpr hy) with h | h
  · exact (hbefore h).elim
  · rcases List.mem_cons.mp h with rfl | hafter
    · exact .inl rfl
    · exact hbehind y hafter

theorem firstToPass (hranked : Ranked d alternatives (before ++ x :: after))
    (hbefore : ∀ y ∈ before, (check o y.1 path d).Fails) (hx : (check o x.1 path d).Passes) :
    FirstToPass o path d alternatives x where
  mem := hranked.mem_iff.mp (by simp)
  passes := hx
  first := fun _ hy hpasses => eq_or_ahead_of_not_before hranked hy fun hmem =>
    not_fails_of_passes hpasses (hbefore _ hmem)

theorem fault_check_oneOf_iff :
    (check o (.oneOf about alternatives uri) path d).fault = none ↔
      (∀ s ∈ alternatives, Likelihood.misnamed s d = false) ∧
      ∀ x ∈ alternatives.zipIdx, (check o x.1 path d).fault ≠ none →
        ∃ y ∈ alternatives.zipIdx, (check o y.1 path d).Passes ∧ Ahead d y x := by
  obtain ⟨ranked, hranked, horder⟩ := exists_ranked_alternatives d alternatives
  by_cases hnamed : ∀ s ∈ alternatives, Likelihood.misnamed s d = false
  · rw [check_oneOf hnamed (horder _), and_iff_right hnamed]
    rcases exists_first_not_failing o path d ranked with
      hall | ⟨before, x, after, rfl, hbefore, hx⟩
    · have hfault : (settle path d none (outcomes o path d ranked)).fault = none :=
        Choice.fault_settle fun t ht => (outcomes_fail hall t ht).1
      exact iff_of_true hfault fun y hy h => (h (hall y (hranked.mem_iff.mpr hy)).1).elim
    · have hfailed {y : Schema × Nat} (h : (check o y.1 path d).fault ≠ none) : y ∉ before :=
        fun hmem => h (hbefore y hmem).1
      by_cases hfault : (check o x.1 path d).fault = none
      · have hpasses := passes_of_not_fails hfault hx
        refine iff_of_true (matches_settle_of_passes hbefore hpasses).fault fun y hy h => ?_
        refine ⟨x, hranked.mem_iff.mp (by simp), hpasses, ?_⟩
        rcases eq_or_ahead_of_not_before hranked hy (hfailed h) with rfl | hahead
        · exact (h hfault).elim
        · exact hahead
      · refine iff_of_false (fault_settle_of_fault hbefore hfault) fun h => ?_
        obtain ⟨y, hy, hpasses, hahead⟩ := h x (hranked.mem_iff.mp (by simp)) hfault
        have hbehind := eq_or_ahead_of_not_before hranked hy fun hmem =>
          not_fails_of_passes hpasses (hbefore y hmem)
        rcases hbehind with rfl | hbehind
        · exact hfault hpasses.1
        · exact ahead_asymm hahead hbehind
  · refine iff_of_false ?_ fun h => hnamed h.1
    obtain ⟨s, hs⟩ := Classical.not_forall.mp hnamed
    obtain ⟨hmem, hmisnamed⟩ := Classical.not_imp.mp hs
    exact fault_check_of_misnamed hmem ((Bool.not_eq_false _).mp hmisnamed)

theorem exists_firstToPass (hfault : (check o (.oneOf about alternatives uri) path d).fault = none)
    (h : ∃ s ∈ alternatives, (check o s path d).Passes) :
    ∃ x, FirstToPass o path d alternatives x ∧
      (check o (.oneOf about alternatives uri) path d).Matches Eq Eq
        { clean with warnings := (check o x.1 path d).warnings } := by
  obtain ⟨hnamed, hfaulty⟩ := fault_check_oneOf_iff.mp hfault
  obtain ⟨ranked, hranked, horder⟩ := exists_ranked_alternatives d alternatives
  rw [check_oneOf hnamed (horder _)] at hfault ⊢
  rcases exists_first_not_failing o path d ranked with hall | ⟨before, x, after, rfl, hbefore, hx⟩
  · obtain ⟨s, hs, hpasses⟩ := h
    obtain ⟨i, hi⟩ := List.getElem?_of_mem hs
    have hmem : (s, i) ∈ ranked := hranked.mem_iff.mpr (List.mk_mem_zipIdx_iff_getElem?.mpr hi)
    exact (not_fails_of_passes hpasses (hall _ hmem)).elim
  · have hxfault : (check o x.1 path d).fault = none :=
      Classical.byContradiction fun hxfault => fault_settle_of_fault hbefore hxfault hfault
    have hpasses := passes_of_not_fails hxfault hx
    exact ⟨x, firstToPass hranked hbefore hpasses, matches_settle_of_passes hbefore hpasses⟩

private theorem exists_closest_of_failed
    (hfault : (check o (.oneOf about alternatives uri) path d).fault = none)
    (h : ∀ s ∈ alternatives, ¬ (check o s path d).Passes) (hsome : alternatives ≠ []) :
    ∃ x, Closest o path d alternatives x ∧
      (check o (.oneOf about alternatives uri) path d).Matches Eq Eq (check o x.1 path d) := by
  obtain ⟨hnamed, hfaulty⟩ := fault_check_oneOf_iff.mp hfault
  have hmem {x : Schema × Nat} (hx : x ∈ alternatives.zipIdx) : x.1 ∈ alternatives :=
    List.mem_of_getElem? (List.mem_zipIdx_iff_getElem?.mp hx)
  obtain ⟨ranked, hranked, horder⟩ := exists_ranked_alternatives d alternatives
  have hfailed : ∀ x ∈ ranked, (check o x.1 path d).Fails := by
    intro x hx
    have hx := hranked.mem_iff.mp hx
    have hxfault : (check o x.1 path d).fault = none := by
      refine Classical.byContradiction fun hxfault => ?_
      obtain ⟨y, hy, hpasses, -⟩ := hfaulty x hx hxfault
      exact h y.1 (hmem hy) hpasses
    exact ⟨hxfault, fun herrors => h x.1 (hmem hx) ⟨hxfault, herrors⟩⟩
  rw [check_oneOf hnamed (horder _)]
  refine exists_matches_settle hranked hfailed fun hnil => hsome ?_
  subst hnil
  cases alternatives with
  | nil => rfl
  | cons s alternatives => cases hranked.mem_iff.mpr (List.mem_cons_self : (s, 0) ∈ _)

end

/-! ## Choices -/

/-- A choice gives what one alternative gives: the first one that passes in the order in which they are
tried, or the closest one if none passes.  There is no answer only if an alternative asks for a field by a
name that cannot be one, or if the check of one breaks off in front of the first one that passes.  What was
found before stays as it is. -/
theorem choice_surfaces_one (o : Options) (about : About) (alternatives : List Schema)
    (uri : Option Document) (path : String) (d : Document) (found : Outcome) :
    let chosen := check o (.oneOf about alternatives uri) path d
    (chosen.fault = none ↔ (∀ s ∈ alternatives, Likelihood.misnamed s d = false) ∧
      ∀ x ∈ alternatives.zipIdx, (check o x.1 path d).fault ≠ none →
        ∃ y ∈ alternatives.zipIdx, (check o y.1 path d).Passes ∧ Ahead d y x) ∧
    ((∀ s ∈ alternatives, s.WellTyped) → chosen.fault = none) ∧
    (chosen.fault = none →
      ((∃ s ∈ alternatives, (check o s path d).Passes) → ∃ x, FirstToPass o path d alternatives x ∧
        (found ++ chosen).errors = found.errors ∧
        (found ++ chosen).warnings = found.warnings ++ (check o x.1 path d).warnings) ∧
      ((∀ s ∈ alternatives, ¬ (check o s path d).Passes) → alternatives ≠ [] →
        ∃ x, Closest o path d alternatives x ∧
          (found ++ chosen).errors = found.errors ++ (check o x.1 path d).errors ∧
          (found ++ chosen).warnings = found.warnings ++ (check o x.1 path d).warnings)) ∧
    (alternatives = [] → (found ++ chosen).errors = found.errors ++
        [.expecting path .oneofValidationFailed d "a schema with at least one alternative"] ∧
      (found ++ chosen).warnings = found.warnings ∧ chosen.fault = none) := by
  refine ⟨fault_check_oneOf_iff, fun htyped => ?_, fun hfault => ⟨fun h => ?_, fun h hsome => ?_⟩, ?_⟩
  · exact WellTyped.fault_check (.oneOf htyped) o path d
  · obtain ⟨x, hx, hmatches⟩ := exists_firstToPass hfault h
    refine ⟨x, hx, ?_, ?_⟩
    · rw [errors_append, hmatches.errors, errors_clean, List.append_nil]
    · rw [warnings_append, hmatches.warnings]
  · obtain ⟨x, hx, hmatches⟩ := exists_closest_of_failed hfault h hsome
    refine ⟨x, hx, ?_, ?_⟩
    · rw [errors_append, hmatches.errors]
    · rw [warnings_append, hmatches.warnings]
  · rintro rfl
    rw [check_oneOf_nil]
    exact ⟨rfl, List.append_nil found.warnings, rfl⟩

end Proofs.Resolution

end ReviewDiagnostics
