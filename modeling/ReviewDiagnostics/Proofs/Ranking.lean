import ReviewDiagnostics.Proofs.Choice

/-!
# Which alternative is reported on

If all alternatives of a choice fail, the findings are those of the closest one.  Of equally close ones
the likeliest counts, and of those the one that is declared first.  Sorting by likelihood is stable, so
that the numbers of the alternatives tell what comes first.
-/

namespace ReviewDiagnostics.Proofs.Ranking

open Conformity

/-! ## The order of likelihood -/

section

variable {α : Type} (d : Document)

/-- Whether the form of a candidate is not less likely than that of another one. -/
def notLessLikely (a b : Schema × α) : Bool :=
  decide (Likelihood.score b.1 d ≤ Likelihood.score a.1 d)

/-- A candidate comes before another one in the order of likelihood. -/
def Likelier (x y : (Schema × α) × Nat) : Prop :=
  Likelihood.score y.1.1 d < Likelihood.score x.1.1 d ∨
    Likelihood.score y.1.1 d = Likelihood.score x.1.1 d ∧ x.2 ≤ y.2

theorem order_eq_mergeSort (candidates : List (Schema × α)) :
    Likelihood.order d candidates = candidates.mergeSort (notLessLikely d) := by
  have hmap := List.map_mergeSort (r := notLessLikely d) (l := candidates)
    (s := fun a b => decide (b.1 ≤ a.1)) (f := fun c => (Likelihood.score c.1 d, c))
    fun _ _ _ _ => rfl
  rw [Likelihood.order, ← hmap, List.map_map]
  exact List.map_id' _

private theorem likelier_of_zipIdxLE {x y : (Schema × α) × Nat}
    (h : List.zipIdxLE (notLessLikely d) x y = true) : Likelier d x y := by
  simp only [List.zipIdxLE, notLessLikely, decide_eq_true_eq] at h
  split at h
  · rename_i hle
    split at h
    · rename_i hge
      exact .inr ⟨Rat.le_antisymm hle hge, by simpa using h⟩
    · rename_i hlt
      exact .inl (Rat.not_le.mp hlt)
  · cases h

theorem exists_ranked (candidates : List (Schema × α)) :
    ∃ ranked : List ((Schema × α) × Nat), Likelihood.order d candidates = ranked.map (·.1) ∧
      ranked.Perm candidates.zipIdx ∧ ranked.Pairwise (Likelier d) := by
  have htrans : ∀ a b c : Schema × α, notLessLikely d a b → notLessLikely d b c →
      notLessLikely d a c := by
    intro a b c hab hbc
    simp only [notLessLikely, decide_eq_true_eq] at hab hbc ⊢
    exact Rat.le_trans hbc hab
  have htotal : ∀ a b : Schema × α, notLessLikely d a b || notLessLikely d b a := by
    intro a b
    simpa [notLessLikely] using Rat.le_total
  refine ⟨candidates.zipIdx.mergeSort (List.zipIdxLE (notLessLikely d)), ?_,
    List.mergeSort_perm _ _, ?_⟩
  · rw [order_eq_mergeSort, List.mergeSort_zipIdx]
  · have hsorted := List.pairwise_mergeSort
      (List.zipIdxLE_trans htrans) (List.zipIdxLE_total htotal) candidates.zipIdx
    exact hsorted.imp (likelier_of_zipIdxLE d)

end

/-! ## The closest alternative -/

variable {path : String} {d : Document} {tried : List (Schema × Outcome)}
  {x y z : (Schema × Outcome) × Nat}

/-- How close a document is to an alternative that failed. -/
def closeness (d : Document) (t : Schema × Outcome) : Int :=
  Closeness.score t.1 d (t.2.errors.map (·.code))

/-- A failed alternative with its closeness. -/
def candidate (d : Document) (t : Schema × Outcome) : Candidate :=
  ⟨closeness d t, t.1, t.2⟩

/-- The closest of failed alternatives, the earliest of those if there are several. -/
def closest (d : Document) (b : Candidate) (tried : List (Schema × Outcome)) : Candidate :=
  tried.foldl (fun b t => closer (some b) (candidate d t)) b

/-- A failed alternative counts before another one: it is closer, or it is as close and comes before it
in the order of likelihood. -/
def Precedes (d : Document) (x y : (Schema × Outcome) × Nat) : Prop :=
  closeness d y.1 < closeness d x.1 ∨ closeness d y.1 = closeness d x.1 ∧ Likelier d x y

theorem precedes_refl (x : (Schema × Outcome) × Nat) : Precedes d x x :=
  .inr ⟨rfl, .inr ⟨rfl, Nat.le_refl _⟩⟩

theorem precedes_trans (hxy : Precedes d x y) (hyz : Precedes d y z) : Precedes d x z := by
  have hlikelier (hxy : Likelier d x y) (hyz : Likelier d y z) : Likelier d x z := by
    simp only [Likelier] at hxy hyz ⊢
    grind
  rcases hxy with hxy | ⟨hxy, hlxy⟩ <;> rcases hyz with hyz | ⟨hyz, hlyz⟩
  · exact .inl (by omega)
  · exact .inl (by omega)
  · exact .inl (by omega)
  · exact .inr ⟨by omega, hlikelier hlxy hlyz⟩

/-- A failed alternative counts before one that is declared earlier. -/
def Overtakes (d : Document) (t u : Schema × Outcome) : Prop :=
  closeness d u < closeness d t ∨
    closeness d u = closeness d t ∧ Likelihood.score u.1 d < Likelihood.score t.1 d

theorem overtakes_of_precedes {t u : Schema × Outcome} {i j : Nat} (h : Precedes d (t, i) (u, j))
    (hij : j < i) : Overtakes d t u := by
  simp only [Precedes, Likelier] at h
  simp only [Overtakes]
  grind

theorem not_overtakes_of_precedes {t u : Schema × Outcome} {i j : Nat}
    (h : Precedes d (t, i) (u, j)) : ¬ Overtakes d u t := by
  simp only [Precedes, Likelier] at h
  simp only [Overtakes]
  grind

theorem errors_settle_of_failed {b : Candidate}
    (hfailed : ∀ t ∈ tried, t.2.fault = none ∧ t.2.errors ≠ []) :
    (settle path d (some b) tried).errors = (closest d b tried).outcome.errors := by
  induction tried generalizing b with
  | nil => rfl
  | cons t tried ih =>
      obtain ⟨hfault, herrors⟩ := hfailed t (by simp)
      rw [Choice.settle_of_failed hfault herrors, Outcome.errors_append,
        ih fun u hu => hfailed u (by simp [hu])]
      rfl

theorem exists_closest {b : (Schema × Outcome) × Nat} {ranked : List ((Schema × Outcome) × Nat)}
    (hranked : (b :: ranked).Pairwise (Likelier d)) :
    ∃ x ∈ b :: ranked, closest d (candidate d b.1) (ranked.map (·.1)) = candidate d x.1 ∧
      ∀ y ∈ b :: ranked, Precedes d x y := by
  -- What is closest so far precedes all that was tried, and all that is left is less likely than it.
  induction ranked generalizing b with
  | nil => exact ⟨b, by simp, rfl, by simpa using precedes_refl b⟩
  | cons u ranked ih =>
      obtain ⟨hb, hu⟩ := List.pairwise_cons.mp hranked
      have hstep : closest d (candidate d b.1) ((u :: ranked).map (·.1)) =
          closest d (if closeness d b.1 < closeness d u.1 then candidate d u.1 else candidate d b.1)
            (ranked.map (·.1)) := rfl
      rw [hstep]
      by_cases hcloser : closeness d b.1 < closeness d u.1
      · rw [if_pos hcloser]
        obtain ⟨x, hx, hclosest, hprecedes⟩ := ih hu
        refine ⟨x, List.mem_cons_of_mem b hx, hclosest, List.forall_mem_cons.mpr ⟨?_, hprecedes⟩⟩
        exact precedes_trans (hprecedes u (by simp)) (.inl hcloser)
      · rw [if_neg hcloser]
        have hsub : (b :: ranked).Pairwise (Likelier d) :=
          hranked.sublist ((List.sublist_cons_self u ranked).cons_cons b)
        obtain ⟨x, hx, hclosest, hprecedes⟩ := ih hsub
        have hbu : Precedes d b u := by
          have hlikelier := hb u (by simp)
          rcases Int.lt_or_eq_of_le (Int.not_lt.mp hcloser) with hlt | heq
          · exact .inl hlt
          · exact .inr ⟨heq, hlikelier⟩
        refine ⟨x, ?_, hclosest, ?_⟩
        · exact (List.sublist_cons_self u ranked).cons_cons b |>.subset hx
        · simp only [List.forall_mem_cons] at hprecedes ⊢
          exact ⟨hprecedes.1, precedes_trans hprecedes.1 hbu, hprecedes.2⟩

/-- If all alternatives fail, the findings are those of the one that precedes all. -/
theorem exists_errors_choose (path : String)
    (hnamed : ∀ t ∈ tried, Likelihood.misnamed t.1 d = false)
    (hfailed : ∀ t ∈ tried, t.2.fault = none ∧ t.2.errors ≠ []) (htried : tried ≠ []) :
    ∃ x ∈ tried.zipIdx, (choose path d tried).errors = x.1.2.errors ∧
      ∀ y ∈ tried.zipIdx, Precedes d x y := by
  obtain ⟨ranked, horder, hperm, hranked⟩ := exists_ranked d tried
  cases ranked with
  | nil => simp_all
  | cons b ranked =>
      have hmem : ∀ y, y ∈ b :: ranked ↔ y ∈ tried.zipIdx := fun y => hperm.mem_iff
      have hordered : ∀ t ∈ (b :: ranked).map (·.1), t.2.fault = none ∧ t.2.errors ≠ [] := by
        intro t ht
        exact hfailed t ((Choice.order_perm d tried).mem_iff.mp (horder ▸ ht))
      obtain ⟨x, hx, hclosest, hprecedes⟩ := exists_closest hranked
      refine ⟨x, (hmem x).mp hx, ?_, fun y hy => hprecedes y ((hmem y).mpr hy)⟩
      obtain ⟨hb, hrest⟩ := List.forall_mem_cons.mp hordered
      rw [Choice.choose_eq_settle hnamed, horder, List.map_cons, Choice.settle_of_failed hb.1 hb.2,
        Outcome.errors_append]
      exact (errors_settle_of_failed hrest).trans (congrArg (·.outcome.errors) hclosest)

end ReviewDiagnostics.Proofs.Ranking
