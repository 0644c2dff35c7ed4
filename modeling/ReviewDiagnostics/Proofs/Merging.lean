import ReviewDiagnostics.Validation.Merge

/-!
# Merging loses nothing

Merged findings are the specific ones together with the generic ones that none of them supersedes.
Hence a merge is empty only if both lists are, and it reports on exactly the paths that they report
on.
-/

namespace ReviewDiagnostics.Proofs.Merging

open Merge

private theorem filter_number_perm {numbered : List (Finding × Nat)} {x : Finding × Nat}
    {p q : Nat → Bool} (hnumbers : (numbered.map (·.2)).Nodup) (hx : x ∈ numbered)
    (hp : p x.2 = true) (hq : ∀ m, q m = (p m && m != x.2)) :
    (numbered.filter (p ·.2)).Perm (x :: numbered.filter (q ·.2)) := by
  induction numbered with
  | nil => simp at hx
  | cons y numbered ih =>
      simp only [List.map_cons, List.nodup_cons, List.mem_map, not_exists, not_and] at hnumbers
      obtain ⟨hy, hnumbers⟩ := hnumbers
      rcases List.mem_cons.mp hx with rfl | hx
      · have hsame : numbered.filter (p ·.2) = numbered.filter (q ·.2) := by
          apply List.filter_congr
          intro z hz
          simp [hq, hy z hz]
        have hqx : q x.2 = false := by simp [hq]
        rw [List.filter_cons, List.filter_cons, if_pos hp, if_neg (by simp [hqx]), hsame]
      · have hqy : q y.2 = p y.2 := by simp [hq, Ne.symm (hy x hx)]
        rw [List.filter_cons, List.filter_cons, hqy]
        split
        · exact ((ih hnumbers hx).cons y).trans (List.Perm.swap ..)
        · exact ih hnumbers hx

theorem subset_placed {numbered : List (Finding × Nat)} {placed : List Nat}
    {generic : List Finding} : placed ⊆ (place numbered placed generic).2 := by
  induction generic generalizing placed with
  | nil => exact List.Subset.refl placed
  | cons g generic ih =>
      rw [place]
      split
      · exact ih
      · split
        · exact ih
        · exact fun m hm => ih (List.mem_cons_of_mem _ hm)

theorem place_perm {numbered : List (Finding × Nat)} {placed : List Nat} {generic : List Finding}
    (hnumbers : (numbered.map (·.2)).Nodup) :
    (place numbered placed generic).1.Perm
      ((generic.filter fun g => (replacement? numbered g).isNone) ++
        (numbered.filter fun s =>
          decide (s.2 ∈ (place numbered placed generic).2 ∧ s.2 ∉ placed)).map (·.1)) := by
  induction generic generalizing placed with
  | nil => simp [place]
  | cons g generic ih =>
      rw [place]
      cases hg : replacement? numbered g with
      | none =>
          rw [List.filter_cons_of_pos (by simp [hg]), List.cons_append]
          exact ih.cons g
      | some x =>
          obtain ⟨s, n⟩ := x
          rw [List.filter_cons_of_neg (by simp [hg])]
          by_cases hn : n ∈ placed
          · simp only [if_pos hn]
            exact ih
          · simp only [if_neg hn]
            have hplaced : n ∈ (place numbered (n :: placed) generic).2 := subset_placed (by simp)
            have hnew := filter_number_perm (x := (s, n)) hnumbers (List.mem_of_find?_eq_some hg)
              (p := fun m => decide (m ∈ (place numbered (n :: placed) generic).2 ∧ m ∉ placed))
              (q := fun m => decide (m ∈ (place numbered (n :: placed) generic).2 ∧ m ∉ n :: placed))
              (by simp [hplaced, hn]) (by intro m; by_cases hm : m = n <;> simp [hm])
            refine (ih.cons s).trans (List.perm_middle.symm.trans ?_)
            exact (hnew.map (·.1)).symm.append_left _

theorem isNone_replacement? {specific : List Finding} {g : Finding} {i : Nat} :
    (replacement? (specific.zipIdx i) g).isNone = !specific.any (·.supersedes g) := by
  induction specific generalizing i with
  | nil => rfl
  | cons s specific ih =>
      rw [replacement?, List.zipIdx_cons, List.find?_cons, List.any_cons]
      cases s.supersedes g with
      | true => rfl
      | false => exact ih

theorem mergeFindings_perm (generic specific : List Finding) :
    (mergeFindings generic specific).Perm
      ((generic.filter fun g => !specific.any (·.supersedes g)) ++ specific) := by
  have hnumbers : (specific.zipIdx.map (·.2)).Nodup := by
    rw [List.zipIdx_map_snd]
    exact List.nodup_range'
  have hplaced := @place_perm specific.zipIdx [] generic hnumbers
  simp only [isNone_replacement?] at hplaced
  rw [mergeFindings]
  refine (hplaced.append_right _).trans ?_
  rw [List.append_assoc, ← List.map_append]
  refine List.Perm.append_left _ ?_
  have hspecific : specific.zipIdx.map (·.1) = specific := List.zipIdx_map_fst 0 specific
  conv => rhs; rw [← hspecific]
  refine List.Perm.map _ ?_
  have hsplit := List.filter_append_perm
    (fun s => decide (s.2 ∈ (place specific.zipIdx [] generic).2)) specific.zipIdx
  simpa using hsplit

theorem mem_mergeFindings {generic specific : List Finding} {f : Finding} :
    f ∈ mergeFindings generic specific ↔
      (f ∈ generic ∧ specific.any (·.supersedes f) = false) ∨ f ∈ specific := by
  rw [(mergeFindings_perm generic specific).mem_iff]
  simp

theorem mergeFindings_eq_nil_iff {generic specific : List Finding} :
    mergeFindings generic specific = [] ↔ generic = [] ∧ specific = [] := by
  constructor
  · intro h
    have hperm := mergeFindings_perm generic specific
    rw [h, List.nil_perm, List.append_eq_nil_iff] at hperm
    obtain ⟨hgeneric, rfl⟩ := hperm
    refine ⟨List.eq_nil_iff_forall_not_mem.mpr fun g hg => ?_, rfl⟩
    exact absurd rfl (List.filter_eq_nil_iff.mp hgeneric g hg)
  · rintro ⟨rfl, rfl⟩
    rfl

/-! ## What merging depends on -/

theorem mergeFindings_perm_of_perm {generic generic' specific : List Finding} (h : generic.Perm generic') :
    (mergeFindings generic specific).Perm (mergeFindings generic' specific) := by
  have hfilter := h.filter fun g => !specific.any (·.supersedes g)
  exact (mergeFindings_perm generic specific).trans
    ((hfilter.append_right specific).trans (mergeFindings_perm generic' specific).symm)

section

variable {k : Finding → Finding} (hk : ∀ s g : Finding, (k s).supersedes (k g) = s.supersedes g)

include hk

private theorem replacement?_map (numbered : List (Finding × Nat)) (g : Finding) :
    replacement? (numbered.map fun s => (k s.1, s.2)) (k g) =
      (replacement? numbered g).map fun s => (k s.1, s.2) := by
  rw [replacement?, replacement?, List.find?_map]
  simp only [Function.comp_def, hk]

private theorem place_map (numbered : List (Finding × Nat)) (placed : List Nat) (generic : List Finding) :
    place (numbered.map fun s => (k s.1, s.2)) placed (generic.map k) =
      ((place numbered placed generic).1.map k, (place numbered placed generic).2) := by
  induction generic generalizing placed with
  | nil => rfl
  | cons g generic ih =>
      rw [List.map_cons, place, place, replacement?_map hk]
      cases replacement? numbered g with
      | none => simp only [Option.map_none, ih, List.map_cons]
      | some found =>
          obtain ⟨s, n⟩ := found
          simp only [Option.map_some, ih]
          split <;> rfl

theorem mergeFindings_map (generic specific : List Finding) :
    mergeFindings (generic.map k) (specific.map k) = (mergeFindings generic specific).map k := by
  have hnumbered : (specific.map k).zipIdx = specific.zipIdx.map fun s => (k s.1, s.2) := by
    rw [List.zipIdx_map]
    rfl
  rw [mergeFindings, mergeFindings, hnumbered, place_map hk, List.map_append]
  dsimp only
  rw [List.filter_map, List.map_map, List.map_map]
  rfl

end

theorem path_eq_of_supersedes {specific generic : Finding} (h : specific.supersedes generic = true) :
    specific.path = generic.path := by
  simp only [Finding.supersedes, Bool.and_eq_true, beq_iff_eq] at h
  exact h.1

/-! ## Order -/

theorem mem_place {numbered : List (Finding × Nat)} {placed : List Nat} {generic : List Finding}
    {x : Finding} (hx : x ∈ (place numbered placed generic).1) :
    ∃ g ∈ generic, x = g ∧ replacement? numbered g = none ∨
      x.supersedes g = true ∧
        ∃ n ∈ (place numbered placed generic).2, (x, n) ∈ numbered := by
  induction generic generalizing placed with
  | nil => simp [place] at hx
  | cons g generic ih =>
      rw [place] at hx ⊢
      cases hg : replacement? numbered g with
      | none =>
          simp only [hg] at hx ⊢
          rcases List.mem_cons.mp hx with rfl | hx
          · exact ⟨x, List.mem_cons_self, .inl ⟨rfl, hg⟩⟩
          · obtain ⟨h, hh, hcases⟩ := ih hx
            exact ⟨h, List.mem_cons_of_mem g hh, hcases⟩
      | some found =>
          obtain ⟨s, n⟩ := found
          simp only [hg] at hx ⊢
          by_cases hn : n ∈ placed
          · simp only [if_pos hn] at hx ⊢
            obtain ⟨h, hh, hcases⟩ := ih hx
            exact ⟨h, List.mem_cons_of_mem g hh, hcases⟩
          · simp only [if_neg hn] at hx ⊢
            rcases List.mem_cons.mp hx with rfl | hx
            · have hsupersedes : x.supersedes g = true := by simpa using List.find?_some hg
              exact ⟨g, List.mem_cons_self, .inr ⟨hsupersedes, n, subset_placed (by simp),
                List.mem_of_find?_eq_some hg⟩⟩
            · obtain ⟨h, hh, hcases⟩ := ih hx
              exact ⟨h, List.mem_cons_of_mem g hh, hcases⟩

section

variable {R S : Finding → Finding → Prop} {generic specific : List Finding}
  (hsymm : ∀ {x y}, R x y → R y x)
  (hstand : ∀ {s g x : Finding}, s.supersedes g = true → R g x → R s x)

include hsymm hstand

private theorem pairwise_place {numbered : List (Finding × Nat)} {placed : List Nat}
    (hgeneric : generic.Pairwise R) : (place numbered placed generic).1.Pairwise R := by
  -- Whatever stands for a generic finding is related to whatever the finding itself is related to.
  have hrelated {g x : Finding} {rest : List Finding} {placed : List Nat} (hrest : ∀ h ∈ rest, R g h)
      (hx : x ∈ (place numbered placed rest).1) : R g x := by
    obtain ⟨h, hh, ⟨rfl, -⟩ | ⟨hsupersedes, -⟩⟩ := mem_place hx
    · exact hrest x hh
    · exact hsymm (hstand hsupersedes (hsymm (hrest h hh)))
  induction generic generalizing placed with
  | nil => exact .nil
  | cons g generic ih =>
      obtain ⟨hg, hgeneric⟩ := List.pairwise_cons.mp hgeneric
      rw [place]
      split
      · exact List.pairwise_cons.mpr ⟨fun x hx => hrelated hg hx, ih hgeneric⟩
      · rename_i s n hs
        have hsupersedes : s.supersedes g = true := by simpa using List.find?_some hs
        split
        · exact ih hgeneric
        · exact List.pairwise_cons.mpr ⟨fun x hx => hstand hsupersedes (hrelated hg hx), ih hgeneric⟩

/-- Findings that are pairwise related in each of two lists are so in their merge, if what nothing stands
in for is related to the specific findings. -/
theorem pairwise_mergeFindings (himp : ∀ {x y}, R x y → S x y) (hgeneric : generic.Pairwise R)
    (hspecific : specific.Pairwise R)
    (hcross : ∀ g ∈ generic, specific.any (·.supersedes g) = false → ∀ f ∈ specific, S g f) :
    (mergeFindings generic specific).Pairwise S := by
  rw [mergeFindings, List.pairwise_append]
  refine ⟨(pairwise_place hsymm hstand hgeneric).imp himp, ?_, ?_⟩
  · have hsublist : ((specific.zipIdx.filter
        fun s => s.2 ∉ (place specific.zipIdx [] generic).2).map (·.1)).Sublist specific := by
      have hmap := (List.filter_sublist (p := fun s : Finding × Nat =>
        s.2 ∉ (place specific.zipIdx [] generic).2) (l := specific.zipIdx)).map (·.1)
      rwa [List.zipIdx_map_fst] at hmap
    exact (hspecific.sublist hsublist).imp himp
  · intro x hx y hy
    obtain ⟨⟨z, n⟩, hyn, rfl⟩ := List.mem_map.mp hy
    rw [List.mem_filter] at hyn
    obtain ⟨hyn, hfresh⟩ := hyn
    obtain ⟨g, hg, ⟨rfl, hnone⟩ | ⟨-, m, hm, hxm⟩⟩ := mem_place hx
    · have hy := List.fst_mem_of_mem_zipIdx hyn
      have hunsuperseded : specific.any (·.supersedes x) = false := by
        simpa [hnone] using (@isNone_replacement? specific x 0).symm
      exact hcross x hg hunsuperseded z hy
    · have hne : m ≠ n := by
        rintro rfl
        simp [hm] at hfresh
      obtain ⟨hmlt, hxm : specific[m] = x⟩ := List.getElem?_eq_some_iff.mp (List.mem_zipIdx_iff_getElem?.mp hxm)
      obtain ⟨hnlt, hzn : specific[n] = z⟩ := List.getElem?_eq_some_iff.mp (List.mem_zipIdx_iff_getElem?.mp hyn)
      have hpairs := List.pairwise_iff_getElem.mp hspecific
      have hxz : R specific[m] specific[n] := by
        rcases Nat.lt_or_gt_of_ne hne with hlt | hlt
        · exact hpairs m n hmlt hnlt hlt
        · exact hsymm (hpairs n m hnlt hmlt hlt)
      rw [hxm, hzn] at hxz
      exact himp hxz

end

/-! ## Paths -/

/-- A specific finding stands at the path of the generic one that it stands in for, so that merging
moves no finding to another path and drops no path. -/
theorem exists_path_mergeFindings_iff {generic specific : List Finding} {path : String} :
    (∃ f ∈ mergeFindings generic specific, f.path = path) ↔
      (∃ f ∈ generic, f.path = path) ∨ ∃ f ∈ specific, f.path = path := by
  constructor
  · rintro ⟨f, hf, rfl⟩
    rcases mem_mergeFindings.mp hf with ⟨hgeneric, -⟩ | hspecific
    · exact .inl ⟨f, hgeneric, rfl⟩
    · exact .inr ⟨f, hspecific, rfl⟩
  · rintro (⟨f, hf, rfl⟩ | ⟨f, hf, rfl⟩)
    · by_cases hs : specific.any (·.supersedes f) = true
      · obtain ⟨s, hs, hsf⟩ := List.any_eq_true.mp hs
        exact ⟨s, mem_mergeFindings.mpr (.inr hs), path_eq_of_supersedes hsf⟩
      · exact ⟨f, mem_mergeFindings.mpr (.inl ⟨hf, by simpa using hs⟩), rfl⟩
    · exact ⟨f, mem_mergeFindings.mpr (.inr hf), rfl⟩

end ReviewDiagnostics.Proofs.Merging
