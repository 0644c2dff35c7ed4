import ReviewDiagnostics.Validation.Conformity

/-!
# Choosing between alternatives

The alternatives of a choice are put into the order of likelihood and then settled one after the
other.  Neither step depends on what the alternatives are: the order is a permutation, a choice that does
not break off is clean exactly if one of the alternatives is, and what it finds one of the alternatives has
found.
-/

namespace ReviewDiagnostics.Proofs.Choice

open Conformity

theorem order_perm {α : Type} (d : Document) (candidates : List (Schema × α)) :
    (Likelihood.order d candidates).Perm candidates := by
  have hsorted := (List.mergeSort_perm
    (candidates.map fun c => (Likelihood.score c.1 d, c)) fun a b => decide (b.1 ≤ a.1)).map (·.2)
  simpa only [Likelihood.order, List.map_map, Function.comp_def, List.map_id'] using hsorted

theorem misnamedAny_eq_any (alternatives : List Schema) (d : Document) :
    Likelihood.misnamedAny alternatives d = alternatives.any (Likelihood.misnamed · d) := by
  induction alternatives with
  | nil => rfl
  | cons s alternatives ih => rw [Likelihood.misnamedAny, ih, List.any_cons]

/-! ## Settling -/

section

variable {path : String} {d : Document} {s : Schema} {x : Outcome} {best? : Option Candidate}
  {rest : List (Schema × Outcome)}

theorem fault_of_settle (h : (settle path d best? ((s, x) :: rest)).fault = none) : x.fault = none := by
  cases hfault : x.fault with
  | none => rfl
  | some f =>
      rw [settle, if_pos (by simp [hfault])] at h
      exact hfault.symm.trans h

theorem settle_of_clean (hfault : x.fault = none) (herrors : x.errors = []) :
    settle path d best? ((s, x) :: rest) =
      { Outcome.clean with warnings := x.warnings, events := x.events } := by
  rw [settle, if_neg (by simp [hfault]), if_pos (by simp [herrors])]

theorem settle_of_failed (hfault : x.fault = none) (herrors : x.errors ≠ []) :
    settle path d best? ((s, x) :: rest) = { Outcome.clean with events := x.events } ++
      settle path d (some (closer best? ⟨Closeness.score s d (x.errors.map (·.code)), s, x⟩)) rest := by
  rw [settle, if_neg (by simp [hfault]), if_neg (by simpa using herrors)]

end

theorem fault_settle {path : String} {d : Document} {best? : Option Candidate}
    {tried : List (Schema × Outcome)} (hfault : ∀ t ∈ tried, t.2.fault = none) :
    (settle path d best? tried).fault = none := by
  induction tried generalizing best? with
  | nil => cases best? <;> rfl
  | cons t tried ih =>
      have ht : t.2.fault = none := hfault t (by simp)
      have htried : ∀ u ∈ tried, u.2.fault = none := fun u hu => hfault u (by simp [hu])
      by_cases hclean : t.2.errors = []
      · rw [settle_of_clean ht hclean]
        rfl
      · rw [settle_of_failed ht hclean, Outcome.fault_append, ih htried]
        rfl

theorem fault_settle_cases {path : String} {d : Document} {best? : Option Candidate}
    {tried : List (Schema × Outcome)} : (settle path d best? tried).fault = none ∨
      ∃ t ∈ tried, (settle path d best? tried).fault = t.2.fault := by
  induction tried generalizing best? with
  | nil => cases best? <;> exact .inl rfl
  | cons t tried ih =>
      rw [settle]
      split
      · exact .inr ⟨t, List.mem_cons_self, rfl⟩
      · split
        · exact .inl rfl
        · rw [Outcome.fault_append, Outcome.fault_clean, Option.none_or]
          exact ih.imp id fun ⟨u, hu, hfault⟩ => ⟨u, List.mem_cons_of_mem _ hu, hfault⟩

theorem errors_closer_ne_nil {best? : Option Candidate} {c : Candidate}
    (hbest : ∀ b ∈ best?, b.outcome.errors ≠ []) (hc : c.outcome.errors ≠ []) :
    ∀ b ∈ some (closer best? c), b.outcome.errors ≠ [] := by
  rintro _ ⟨⟩
  cases best? with
  | none => exact hc
  | some b =>
      rw [closer]
      split
      · exact hc
      · exact hbest b rfl

/-- A choice that was carried out is clean exactly if an alternative is that was carried out. -/
theorem errors_settle_eq_nil_iff {path : String} {d : Document} {best? : Option Candidate}
    {tried : List (Schema × Outcome)} (hfault : (settle path d best? tried).fault = none)
    (hbest : ∀ b ∈ best?, b.outcome.errors ≠ []) :
    (settle path d best? tried).errors = [] ↔ ∃ t ∈ tried, t.2.fault = none ∧ t.2.errors = [] := by
  induction tried generalizing best? with
  | nil =>
      cases best? with
      | none => simp [settle]
      | some b => simpa [settle] using hbest b rfl
  | cons t tried ih =>
      have ht : t.2.fault = none := fault_of_settle hfault
      by_cases hclean : t.2.errors = []
      · rw [settle_of_clean ht hclean]
        simp [ht, hclean]
      · rw [settle_of_failed ht hclean] at hfault ⊢
        rw [Outcome.errors_append, Outcome.errors_clean, List.nil_append,
          ih hfault (errors_closer_ne_nil hbest hclean)]
        simp [hclean]

theorem exists_clean_of_settle {path : String} {d : Document} {best? : Option Candidate}
    {tried : List (Schema × Outcome)} (hfault : (settle path d best? tried).fault = none)
    (h : ∃ t ∈ tried, t.2.fault ≠ none) : ∃ t ∈ tried, t.2.fault = none ∧ t.2.errors = [] := by
  induction tried generalizing best? with
  | nil => simp at h
  | cons t tried ih =>
      have ht : t.2.fault = none := fault_of_settle hfault
      by_cases hclean : t.2.errors = []
      · exact ⟨t, List.mem_cons_self, ht, hclean⟩
      · rw [settle_of_failed ht hclean] at hfault
        obtain ⟨u, hu, hfaulty⟩ := h
        -- A choice that came through has not met the fault, so something before it was clean.
        have hrest : u ∈ tried := (List.mem_cons.mp hu).resolve_left fun heq => hfaulty (heq ▸ ht)
        obtain ⟨v, hv, hpasses⟩ := ih hfault ⟨u, hrest, hfaulty⟩
        exact ⟨v, List.mem_cons_of_mem _ hv, hpasses⟩

private theorem errors_settle_cases {path : String} {d : Document} {best? : Option Candidate}
    {tried : List (Schema × Outcome)} :
    (settle path d best? tried).errors = [] ∨
      (settle path d best? tried).errors =
        [.expecting path .oneofValidationFailed d "a schema with at least one alternative"] ∨
      (∃ b ∈ best?, (settle path d best? tried).errors = b.outcome.errors) ∨
      ∃ t ∈ tried, (settle path d best? tried).errors = t.2.errors := by
  induction tried generalizing best? with
  | nil =>
      cases best? with
      | none => exact .inr (.inl rfl)
      | some b => exact .inr (.inr (.inl ⟨b, rfl, rfl⟩))
  | cons t tried ih =>
      rw [settle]
      split
      · exact .inl rfl
      · split
        · exact .inl rfl
        · rw [Outcome.errors_append, Outcome.errors_clean, List.nil_append]
          rcases ih with hnil | hnone | ⟨c, hc, hmem⟩ | ⟨u, hu, hmem⟩
          · exact .inl hnil
          · exact .inr (.inl hnone)
          · obtain rfl := Option.some.inj hc
            cases best? with
            | none => exact .inr (.inr (.inr ⟨t, by simp, hmem⟩))
            | some b =>
                rw [hmem, closer]
                split
                · exact .inr (.inr (.inr ⟨t, by simp, rfl⟩))
                · exact .inr (.inr (.inl ⟨b, rfl, rfl⟩))
          · exact .inr (.inr (.inr ⟨u, by simp [hu], hmem⟩))

/-! ## Choices -/

theorem errors_choose_cases {path : String} {d : Document} {tried : List (Schema × Outcome)} :
    (choose path d tried).errors = [] ∨
      (choose path d tried).errors =
        [.expecting path .oneofValidationFailed d "a schema with at least one alternative"] ∨
      ∃ t ∈ tried, (choose path d tried).errors = t.2.errors := by
  rw [choose]
  split
  · exact .inl rfl
  · rcases @errors_settle_cases path d none (Likelihood.order d tried) with
      hnil | hnone | ⟨b, hb, -⟩ | ⟨t, ht, hmem⟩
    · exact .inl hnil
    · exact .inr (.inl hnone)
    · cases hb
    · exact .inr (.inr ⟨t, (order_perm d tried).mem_iff.mp ht, hmem⟩)

theorem mem_errors_choose {path : String} {d : Document} {tried : List (Schema × Outcome)}
    {f : Finding} (hf : f ∈ (choose path d tried).errors) :
    f = .expecting path .oneofValidationFailed d "a schema with at least one alternative" ∨
      ∃ t ∈ tried, f ∈ t.2.errors := by
  rcases @errors_choose_cases path d tried with hnil | hnone | ⟨t, ht, hmem⟩
  · rw [hnil] at hf
    contradiction
  · rw [hnone] at hf
    exact .inl (List.mem_singleton.mp hf)
  · exact .inr ⟨t, ht, hmem ▸ hf⟩

section

variable {path : String} {d : Document} {tried : List (Schema × Outcome)}
  (hnamed : ∀ t ∈ tried, Likelihood.misnamed t.1 d = false)
  (hfault : ∀ t ∈ tried, t.2.fault = none)

include hnamed in
theorem choose_eq_settle : choose path d tried = settle path d none (Likelihood.order d tried) := by
  rw [choose, if_neg]
  simpa using fun s o ht => hnamed (s, o) ht

include hnamed hfault

theorem fault_choose : (choose path d tried).fault = none := by
  rw [choose_eq_settle hnamed]
  exact fault_settle fun t ht => hfault t ((order_perm d tried).mem_iff.mp ht)

end

section

variable {path : String} {d : Document} {tried : List (Schema × Outcome)}
  (hfault : (choose path d tried).fault = none)

include hfault

theorem choose_eq_settle_of_fault :
    choose path d tried = settle path d none (Likelihood.order d tried) := by
  rw [choose] at hfault ⊢
  split
  · rename_i hmisnamed
    rw [if_pos hmisnamed] at hfault
    cases hfault
  · rfl

theorem errors_choose_eq_nil_iff :
    (choose path d tried).errors = [] ↔ ∃ t ∈ tried, t.2.fault = none ∧ t.2.errors = [] := by
  have heq := choose_eq_settle_of_fault hfault
  rw [heq] at hfault ⊢
  rw [errors_settle_eq_nil_iff hfault (by simp)]
  simp only [(order_perm d tried).mem_iff]

theorem exists_clean_of_choose (h : ∃ t ∈ tried, t.2.fault ≠ none) :
    ∃ t ∈ tried, t.2.fault = none ∧ t.2.errors = [] := by
  rw [choose_eq_settle_of_fault hfault] at hfault
  have hclean := exists_clean_of_settle hfault
  simp only [(order_perm d tried).mem_iff] at hclean
  exact hclean h

end

end ReviewDiagnostics.Proofs.Choice
