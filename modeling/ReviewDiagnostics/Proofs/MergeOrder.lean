import ReviewDiagnostics.Proofs.Merging

/-!
# The order of merged findings

A merged finding is known by where it comes from: a generic one that nothing supersedes, or a specific one.
Each has a rank.  A generic finding ranks by its own number, a specific one by the number of the generic
finding whose slot it takes, and behind all of them if it takes none.  A merge lists what it keeps by rank,
and no two of the findings that it keeps have the same one.
-/

namespace ReviewDiagnostics

/-- A finding by the list that it comes from and its number there, so that findings that say the same stay
apart. -/
inductive Origin where
  | generic (i : Nat)
  | specific (j : Nat)

namespace Merge

def finding? (generic specific : List Finding) : Origin → Option Finding
  | .generic i => generic[i]?
  | .specific j => specific[j]?

/-- The number of the specific finding that stands in for a generic one, the first that supersedes it. -/
def standIn? (specific : List Finding) (g : Finding) : Option Nat :=
  specific.findIdx? (·.supersedes g)

/-- The number of the generic finding whose slot a specific one takes, the first that it stands in for. -/
def slot? (generic specific : List Finding) (j : Nat) : Option Nat :=
  generic.findIdx? (standIn? specific · == some j)

def rank (generic specific : List Finding) : Origin → Nat
  | .generic i => i
  | .specific j => (slot? generic specific j).getD (generic.length + j)

/-- What a merge keeps: the generic findings that nothing stands in for, and all specific ones. -/
def Keeps (generic specific : List Finding) : Origin → Prop
  | .generic i => ∃ g, generic[i]? = some g ∧ standIn? specific g = none
  | .specific j => j < specific.length

/-- How a merge arranges two lists of findings. -/
structure Arranges (generic specific : List Finding) (order : List Origin) : Prop where
  findings : (mergeFindings generic specific).map some = order.map (finding? generic specific)
  once : order.Nodup
  generic_iff : ∀ i, .generic i ∈ order ↔
    ∃ g, generic[i]? = some g ∧ ∀ s ∈ specific, s.supersedes g = false
  specific_iff : ∀ j, .specific j ∈ order ↔ j < specific.length
  generic_order : ∀ i k, .generic i ∈ order → .generic k ∈ order → i < k →
    [.generic i, .generic k].Sublist order
  /-- Among the generic findings that are kept, a specific one stands where the slot was that it takes. -/
  in_slot : ∀ j i, slot? generic specific j = some i → ∀ k, .generic k ∈ order →
    (k < i → [.generic k, .specific j].Sublist order) ∧ (i < k → [.specific j, .generic k].Sublist order)
  /-- The specific findings that take no slot come behind everything else, in their own order. -/
  behind : ∀ j, .specific j ∈ order → slot? generic specific j = none → ∀ x ∈ order,
    (∀ k, x = .specific k → slot? generic specific k = none → k < j) → [x, .specific j].Sublist order

end Merge

namespace Proofs.MergeOrder

open Merge Merging

variable {generic specific before after : List Finding} {order : List Origin} {x y : Origin} {g : Finding}
  {i j : Nat} {placed : List Nat}

/-! ## Slots -/

theorem standIn?_eq_none_iff :
    standIn? specific g = none ↔ ∀ s ∈ specific, s.supersedes g = false := by
  rw [standIn?, List.findIdx?_eq_none_iff]

theorem lt_of_standIn? (h : standIn? specific g = some j) : j < specific.length :=
  (List.findIdx?_eq_some_iff_getElem.mp h).1

theorem replacement?_eq (specific : List Finding) (g : Finding) :
    replacement? specific.zipIdx g =
      (standIn? specific g).bind fun j => specific[j]?.map fun s => (s, j) := by
  rw [replacement?, standIn?]
  cases h : specific.findIdx? (·.supersedes g) with
  | none =>
      rw [List.find?_eq_none.mpr]
      · rfl
      · rintro ⟨s, j⟩ hs
        simpa using List.findIdx?_eq_none_iff.mp h s (List.fst_mem_of_mem_zipIdx hs)
  | some j =>
      obtain ⟨hj, hfound, hfirst⟩ := List.findIdx?_eq_some_iff_getElem.mp h
      rw [Option.bind_some, List.getElem?_eq_getElem hj, Option.map_some,
        List.find?_eq_some_iff_getElem]
      refine ⟨hfound, j, by simpa using hj, by simp, fun k hk => ?_⟩
      simpa using hfirst k hk

theorem slot?_eq_some_iff : slot? generic specific j = some i ↔
    (∃ g, generic[i]? = some g ∧ standIn? specific g = some j) ∧
      ∀ k < i, ∀ g, generic[k]? = some g → standIn? specific g ≠ some j := by
  rw [slot?, List.findIdx?_eq_some_iff_getElem]
  constructor
  · rintro ⟨hi, hfound, hfirst⟩
    refine ⟨⟨_, List.getElem?_eq_getElem hi, by simpa using hfound⟩, fun k hk g hg => ?_⟩
    obtain ⟨hlt, rfl⟩ := List.getElem?_eq_some_iff.mp hg
    simpa using hfirst k hk
  · rintro ⟨⟨g, hg, hfound⟩, hfirst⟩
    obtain ⟨hi, rfl⟩ := List.getElem?_eq_some_iff.mp hg
    refine ⟨hi, by simpa using hfound, fun k hk => ?_⟩
    simpa using hfirst k hk _ (List.getElem?_eq_getElem (by omega))

theorem slot?_eq_none_iff :
    slot? generic specific j = none ↔ ∀ g ∈ generic, standIn? specific g ≠ some j := by
  rw [slot?, List.findIdx?_eq_none_iff]
  simp

theorem slot?_append_iff (hg : standIn? specific g = some j) :
    slot? (before ++ g :: after) specific j = some before.length ↔
      ∀ h ∈ before, standIn? specific h ≠ some j := by
  rw [slot?_eq_some_iff, and_iff_right ⟨g, by simp, hg⟩]
  constructor
  · intro hfirst h hh
    obtain ⟨k, hk, rfl⟩ := List.mem_iff_getElem.mp hh
    exact hfirst k hk _ (by rw [List.getElem?_append_left hk, List.getElem?_eq_getElem hk])
  · intro hbefore k hk h hh
    rw [List.getElem?_append_left hk] at hh
    exact hbefore h (List.mem_of_getElem? hh)

theorem lt_of_slot? (h : slot? generic specific j = some i) : i < generic.length := by
  obtain ⟨⟨g, hg, -⟩, -⟩ := slot?_eq_some_iff.mp h
  exact (List.getElem?_eq_some_iff.mp hg).1

/-! ## Ranks -/

theorem rank_of_slot? (h : slot? generic specific j = some i) :
    rank generic specific (.specific j) = i := by
  rw [rank, h, Option.getD_some]

theorem rank_of_no_slot (h : slot? generic specific j = none) :
    rank generic specific (.specific j) = generic.length + j := by
  rw [rank, h, Option.getD_none]

private theorem slot?_of_rank_lt (h : rank generic specific (.specific j) < generic.length) :
    slot? generic specific j = some (rank generic specific (.specific j)) := by
  cases hslot : slot? generic specific j with
  | none =>
      rw [rank_of_no_slot hslot] at h
      omega
  | some i => rw [rank_of_slot? hslot]

theorem standIn?_of_rank (hg : generic[i]? = some g) (h : rank generic specific (.specific j) = i) :
    standIn? specific g = some j ∧ slot? generic specific j = some i := by
  have hi := (List.getElem?_eq_some_iff.mp hg).1
  have hslot := slot?_of_rank_lt (h.symm ▸ hi)
  rw [h] at hslot
  obtain ⟨⟨x, hx, hstands⟩, -⟩ := slot?_eq_some_iff.mp hslot
  obtain rfl := Option.some.inj (hg.symm.trans hx)
  exact ⟨hstands, hslot⟩

theorem keeps_rank_iff_of_kept (hg : generic[i]? = some g) (hnone : standIn? specific g = none) :
    Keeps generic specific x ∧ rank generic specific x = i ↔ x = .generic i := by
  constructor
  · rintro ⟨-, hrank⟩
    cases x with
    | generic k => exact congrArg _ hrank
    | specific j =>
        have hstands := (standIn?_of_rank hg hrank).1
        rw [hnone] at hstands
        cases hstands
  · rintro rfl
    exact ⟨⟨g, hg, hnone⟩, rfl⟩

theorem keeps_rank_iff_of_standIn? (hg : generic[i]? = some g) (hsome : standIn? specific g = some j) :
    Keeps generic specific x ∧ rank generic specific x = i ↔
      x = .specific j ∧ slot? generic specific j = some i := by
  constructor
  · rintro ⟨hkeeps, hrank⟩
    cases x with
    | generic k =>
        obtain rfl : k = i := hrank
        obtain ⟨h, hh, hnone⟩ := hkeeps
        obtain rfl := Option.some.inj (hg.symm.trans hh)
        rw [hsome] at hnone
        cases hnone
    | specific k =>
        obtain ⟨hstands, hslot⟩ := standIn?_of_rank hg hrank
        obtain rfl := Option.some.inj (hsome.symm.trans hstands)
        exact ⟨rfl, hslot⟩
  · rintro ⟨rfl, hslot⟩
    exact ⟨lt_of_standIn? hsome, rank_of_slot? hslot⟩

/-! ## The findings in the slots -/

/-- Origins by rank, with the findings that they are of. -/
structure Ranked (generic specific findings : List Finding) (order : List Origin) : Prop where
  findings : findings.map some = order.map (finding? generic specific)
  ranks : order.Pairwise fun x y => rank generic specific x < rank generic specific y

theorem ranked_cons (hfinding : finding? generic specific x = some g)
    (h : Ranked generic specific after order)
    (hrank : ∀ y ∈ order, rank generic specific x < rank generic specific y) :
    Ranked generic specific (g :: after) (x :: order) where
  findings := by rw [List.map_cons, List.map_cons, h.findings, hfinding]
  ranks := List.pairwise_cons.mpr ⟨hrank, h.ranks⟩

theorem keeps_from_iff {n : Nat} (hn : n < generic.length) :
    (Keeps generic specific x ∧ n ≤ rank generic specific x ∧ rank generic specific x < generic.length) ↔
      (Keeps generic specific x ∧ rank generic specific x = n) ∨
        Keeps generic specific x ∧ n + 1 ≤ rank generic specific x ∧
          rank generic specific x < generic.length := by
  rw [← and_or_left]
  exact and_congr_right fun _ => by omega

/-- What a merge puts among the generic findings from a certain one on. -/
def RankedFrom (generic specific : List Finding) (n : Nat) (findings : List Finding) : Prop :=
  ∃ order, Ranked generic specific findings order ∧ ∀ x, x ∈ order ↔
    Keeps generic specific x ∧ n ≤ rank generic specific x ∧ rank generic specific x < generic.length

theorem rankedFrom_length : RankedFrom generic specific generic.length [] :=
  ⟨[], ⟨rfl, .nil⟩, fun x => by simp⟩

theorem rankedFrom_cons {n : Nat} (hn : n < generic.length)
    (hfinding : finding? generic specific x = some g)
    (honly : ∀ y, Keeps generic specific y ∧ rank generic specific y = n ↔ y = x)
    (h : RankedFrom generic specific (n + 1) after) : RankedFrom generic specific n (g :: after) := by
  obtain ⟨order, hranked, hmem⟩ := h
  have hrank := ((honly x).mpr rfl).2
  refine ⟨x :: order, ranked_cons hfinding hranked fun y hy => ?_, fun y => ?_⟩
  · rw [hrank]
    exact ((hmem y).mp hy).2.1
  · rw [List.mem_cons, hmem, keeps_from_iff hn, honly]

theorem rankedFrom_skip {n : Nat} (hn : n < generic.length)
    (hnone : ∀ y, ¬ (Keeps generic specific y ∧ rank generic specific y = n))
    (h : RankedFrom generic specific (n + 1) after) : RankedFrom generic specific n after := by
  obtain ⟨order, hranked, hmem⟩ := h
  exact ⟨order, hranked, fun y => by rw [hmem, keeps_from_iff hn, or_iff_right (hnone y)]⟩

private theorem exists_standIn?_concat_iff
    (hplaced : ∀ j, j ∈ placed ↔ ∃ h ∈ before, standIn? specific h = some j)
    (g : Finding) (j : Nat) :
    (∃ h ∈ before ++ [g], standIn? specific h = some j) ↔ j ∈ placed ∨ standIn? specific g = some j := by
  simp [hplaced, or_and_right, exists_or]

/-- What a merge puts among the generic findings from a certain one on, and which specific findings it has
placed by then, if before that one it has placed those with a slot there. -/
theorem rankedFrom_place (hgeneric : generic = before ++ after)
    (hplaced : ∀ j, j ∈ placed ↔ ∃ g ∈ before, standIn? specific g = some j) :
    RankedFrom generic specific before.length (place specific.zipIdx placed after).1 ∧
    ∀ j, j ∈ (place specific.zipIdx placed after).2 ↔
      ∃ g ∈ generic, standIn? specific g = some j := by
  induction after generalizing before placed with
  | nil =>
      rw [List.append_nil] at hgeneric
      subst hgeneric
      exact ⟨rankedFrom_length, hplaced⟩
  | cons g after ih =>
      have hg : generic[before.length]? = some g := by simp [hgeneric]
      have hlt : before.length < generic.length := by simp [hgeneric]
      have hgeneric : generic = (before ++ [g]) ++ after := by simp [hgeneric]
      have hlength : (before ++ [g]).length = before.length + 1 := by simp
      have hconcat := exists_standIn?_concat_iff hplaced g
      rw [place, replacement?_eq]
      cases hstands : standIn? specific g with
      | none =>
          have hnext : ∀ j, j ∈ placed ↔ ∃ h ∈ before ++ [g], standIn? specific h = some j := by
            intro j
            rw [hconcat, hstands]
            simp
          obtain ⟨hranked, hlast⟩ := ih hgeneric hnext
          exact ⟨rankedFrom_cons (x := .generic before.length) hlt hg
            (fun y => keeps_rank_iff_of_kept hg hstands) (hlength ▸ hranked), hlast⟩
      | some j =>
          have hj := lt_of_standIn? hstands
          rw [Option.bind_some, List.getElem?_eq_getElem hj, Option.map_some]
          dsimp only
          have hslot : slot? generic specific j = some before.length ↔ j ∉ placed := by
            rw [hplaced, hgeneric, List.append_assoc, List.singleton_append, slot?_append_iff hstands]
            simp
          have honly : ∀ y, Keeps generic specific y ∧ rank generic specific y = before.length ↔
              y = .specific j ∧ j ∉ placed := fun y => by
            rw [keeps_rank_iff_of_standIn? hg hstands, hslot]
          by_cases hmember : j ∈ placed
          · have hnext : ∀ k, k ∈ placed ↔ ∃ h ∈ before ++ [g], standIn? specific h = some k := by
              intro k
              rw [hconcat, hstands, Option.some.injEq]
              exact (or_iff_left_of_imp fun h => h ▸ hmember).symm
            obtain ⟨hranked, hlast⟩ := ih hgeneric hnext
            rw [if_pos hmember]
            exact ⟨rankedFrom_skip hlt (fun y h => ((honly y).mp h).2 hmember) (hlength ▸ hranked), hlast⟩
          · have hnext : ∀ k, k ∈ j :: placed ↔ ∃ h ∈ before ++ [g], standIn? specific h = some k := by
              intro k
              rw [hconcat, hstands, Option.some.injEq, List.mem_cons, or_comm, eq_comm]
            obtain ⟨hranked, hlast⟩ := ih hgeneric hnext
            rw [if_neg hmember]
            exact ⟨rankedFrom_cons (x := .specific j) hlt (List.getElem?_eq_getElem hj)
              (fun y => (honly y).trans (and_iff_left hmember)) (hlength ▸ hranked), hlast⟩

/-! ## All findings -/

theorem ranked_unslotted (generic specific : List Finding) :
    Ranked generic specific
      ((specific.zipIdx.filter fun s => (slot? generic specific s.2).isNone).map (·.1))
      ((specific.zipIdx.filter fun s => (slot? generic specific s.2).isNone).map fun s => .specific s.2) where
  findings := by
    rw [List.map_map, List.map_map, List.map_inj_left]
    intro s hs
    exact (List.mem_zipIdx_iff_getElem?.mp (List.mem_filter.mp hs).1).symm
  ranks := by
    have hnumbers : (specific.zipIdx.map (·.2)).Pairwise (· < ·) := by
      rw [List.zipIdx_map_snd]
      exact List.pairwise_lt_range'
    rw [List.pairwise_map] at hnumbers ⊢
    refine (hnumbers.filter _).imp_of_mem fun {s t} hs ht hlt => ?_
    rw [rank_of_no_slot (by simpa using (List.mem_filter.mp hs).2),
      rank_of_no_slot (by simpa using (List.mem_filter.mp ht).2)]
    exact Nat.add_lt_add_left hlt _

theorem mem_unslotted_iff :
    x ∈ (specific.zipIdx.filter fun s => (slot? generic specific s.2).isNone).map
        (fun s => Origin.specific s.2) ↔
      Keeps generic specific x ∧ generic.length ≤ rank generic specific x := by
  simp only [List.mem_map, List.mem_filter, Option.isNone_iff_eq_none, Prod.exists]
  constructor
  · rintro ⟨s, j, ⟨hs, hslot⟩, rfl⟩
    refine ⟨(List.getElem?_eq_some_iff.mp (List.mem_zipIdx_iff_getElem?.mp hs)).1, ?_⟩
    rw [rank_of_no_slot hslot]
    exact Nat.le_add_right _ _
  · rintro ⟨hkeeps, hrank⟩
    cases x with
    | generic i =>
        obtain ⟨g, hg, -⟩ := hkeeps
        exact absurd (List.getElem?_eq_some_iff.mp hg).1 (Nat.not_lt.mpr hrank)
    | specific j =>
        have hj : j < specific.length := hkeeps
        refine ⟨specific[j], j, ⟨List.mem_zipIdx_iff_getElem?.mpr (List.getElem?_eq_getElem hj), ?_⟩, rfl⟩
        cases hslot : slot? generic specific j with
        | none => rfl
        | some i =>
            rw [rank_of_slot? hslot] at hrank
            exact absurd (lt_of_slot? hslot) (Nat.not_lt.mpr hrank)

/-- A merge lists what it keeps by rank. -/
theorem exists_ranked_mergeFindings (generic specific : List Finding) :
    ∃ order, Ranked generic specific (mergeFindings generic specific) order ∧
      ∀ x, x ∈ order ↔ Keeps generic specific x := by
  have hnone : ∀ j, j ∈ ([] : List Nat) ↔ ∃ g ∈ ([] : List Finding), standIn? specific g = some j := by simp
  obtain ⟨⟨order, hranked, hmem⟩, hplaced⟩ := rankedFrom_place (List.nil_append generic).symm hnone
  have hrest : (specific.zipIdx.filter fun s => s.2 ∉ (place specific.zipIdx [] generic).2) =
      specific.zipIdx.filter fun s => (slot? generic specific s.2).isNone := by
    refine List.filter_congr fun s _ => ?_
    rw [Bool.eq_iff_iff, decide_eq_true_iff, hplaced, Option.isNone_iff_eq_none, slot?_eq_none_iff]
    simp
  have hunslotted := ranked_unslotted generic specific
  refine ⟨order ++ _, ⟨?_, List.pairwise_append.mpr ⟨hranked.ranks, hunslotted.ranks, fun x hx y hy => ?_⟩⟩,
    fun x => ?_⟩
  · rw [mergeFindings]
    dsimp only
    rw [hrest, List.map_append, List.map_append, hranked.findings, hunslotted.findings]
  · exact Nat.lt_of_lt_of_le ((hmem x).mp hx).2.2 (mem_unslotted_iff.mp hy).2
  · rw [List.mem_append, hmem, mem_unslotted_iff, ← and_or_left, List.length_nil]
    exact and_iff_left (by omega)

theorem sublist_of_rank_lt {findings : List Finding} (h : Ranked generic specific findings order)
    (hx : x ∈ order) (hy : y ∈ order) (hlt : rank generic specific x < rank generic specific y) :
    [x, y].Sublist order := by
  obtain ⟨first, last, rfl⟩ := List.append_of_mem hx
  obtain ⟨-, hlast, hfirst⟩ := List.pairwise_append.mp h.ranks
  rcases List.mem_append.mp hy with hy | hy
  · have hgt := hfirst y hy x List.mem_cons_self
    omega
  · rcases List.mem_cons.mp hy with rfl | hy
    · omega
    · exact ((List.singleton_sublist.mpr hy).cons_cons x).trans (List.sublist_append_right first _)

private theorem keeps_generic_iff : Keeps generic specific (.generic i) ↔
    ∃ g, generic[i]? = some g ∧ ∀ s ∈ specific, s.supersedes g = false := by
  simp only [Keeps, standIn?_eq_none_iff]

/-- A merge has the specific findings and the generic ones that none of them supersedes, each once.  The
generic ones keep their order, a specific one that is the first to supersede some generic one stands in the
first slot that is its own, and those that are not come last in their own order. -/
theorem mergeFindings_arranged (generic specific : List Finding) :
    (mergeFindings generic specific).Perm
        (specific ++ generic.filter fun g => !specific.any (·.supersedes g)) ∧
      ∃ order, Arranges generic specific order := by
  refine ⟨(mergeFindings_perm generic specific).trans List.perm_append_comm, ?_⟩
  obtain ⟨order, hranked, hmem⟩ := exists_ranked_mergeFindings generic specific
  refine ⟨order, hranked.findings, hranked.ranks.imp fun h heq => ?_, fun i => ?_, fun j => hmem _,
    fun i k hi hk hlt => sublist_of_rank_lt hranked hi hk hlt, fun j i hslot k hk => ?_,
    fun j hj hslot x hx hbefore => ?_⟩
  · exact absurd (heq ▸ h) (Nat.lt_irrefl _)
  · rw [hmem, keeps_generic_iff]
  · have hrank := rank_of_slot? hslot
    have hj : .specific j ∈ order := by
      obtain ⟨⟨g, -, hstands⟩, -⟩ := slot?_eq_some_iff.mp hslot
      exact (hmem _).mpr (lt_of_standIn? hstands)
    refine ⟨fun hlt => sublist_of_rank_lt hranked hk hj ?_, fun hlt => sublist_of_rank_lt hranked hj hk ?_⟩
    · rw [hrank]
      exact hlt
    · rw [hrank]
      exact hlt
  · refine sublist_of_rank_lt hranked hx hj ?_
    rw [rank_of_no_slot hslot]
    cases x with
    | generic i =>
        obtain ⟨g, hg, -⟩ := (hmem _).mp hx
        exact Nat.lt_add_right j (List.getElem?_eq_some_iff.mp hg).1
    | specific k =>
        cases hk : slot? generic specific k with
        | none =>
            rw [rank_of_no_slot hk]
            exact Nat.add_lt_add_left (hbefore k rfl hk) _
        | some i =>
            rw [rank_of_slot? hk]
            exact Nat.lt_add_right j (lt_of_slot? hk)

/-! ## Two special cases -/

theorem mergeFindings_of_unsuperseded
    (h : ∀ g ∈ generic, specific.any (·.supersedes g) = false) :
    mergeFindings generic specific = generic ++ specific := by
  have hplace : place specific.zipIdx [] generic = (generic, []) := by
    induction generic with
    | nil => rfl
    | cons g generic ih =>
        obtain ⟨hg, hgeneric⟩ := List.forall_mem_cons.mp h
        have hnone : replacement? specific.zipIdx g = none := by
          rw [← Option.isNone_iff_eq_none, isNone_replacement?, hg]
          rfl
        rw [place, hnone]
        simp only [ih hgeneric]
  have hall : specific.zipIdx.filter (fun s => decide (s.2 ∉ ([] : List Nat))) = specific.zipIdx :=
    List.filter_eq_self.mpr (by simp)
  rw [mergeFindings, hplace]
  dsimp only
  rw [hall, List.zipIdx_map_fst]

section

variable {α : Type} {marks first rest : List α} {a : α} {general special : α → Finding}
  (hstands : ∀ a ∈ marks, (special a).supersedes (general a) = true)
  (hdistinct : marks.Pairwise fun a b => (special a).path ≠ (special b).path)

include hstands hdistinct

private theorem standIn?_of_aligned (hmarks : marks = first ++ a :: rest) :
    standIn? (marks.map special) (general a) = some first.length := by
  subst hmarks
  have ha := hstands a (by simp)
  have hfirst : (first.map special).findIdx? (·.supersedes (general a)) = none := by
    rw [List.findIdx?_eq_none_iff, List.forall_mem_map]
    intro b hb
    rw [Bool.eq_false_iff]
    intro hsupersedes
    refine (List.pairwise_append.mp hdistinct).2.2 b hb a List.mem_cons_self ?_
    rw [path_eq_of_supersedes hsupersedes, path_eq_of_supersedes ha]
  rw [standIn?, List.map_append, List.findIdx?_append, hfirst, List.map_cons, List.findIdx?_cons, ha]
  simp

private theorem place_of_aligned (hmarks : marks = first ++ rest)
    (hplaced : ∀ j, j ∈ placed ↔ j < first.length) :
    (place (marks.map special).zipIdx placed (rest.map general)).1 = rest.map special ∧
      ∀ j, j ∈ (place (marks.map special).zipIdx placed (rest.map general)).2 ↔ j < marks.length := by
  induction rest generalizing first placed with
  | nil =>
      rw [List.append_nil] at hmarks
      subst hmarks
      exact ⟨rfl, hplaced⟩
  | cons a rest ih =>
      have hstandIn := standIn?_of_aligned hstands hdistinct hmarks
      have hlookup : (marks.map special)[first.length]? = some (special a) := by simp [hmarks]
      have hmarks : marks = (first ++ [a]) ++ rest := by simp [hmarks]
      have hnext : ∀ j, j ∈ first.length :: placed ↔ j < (first ++ [a]).length := by
        intro j
        rw [List.mem_cons, hplaced, List.length_append, List.length_singleton]
        omega
      obtain ⟨hfindings, hlast⟩ := ih hmarks hnext
      have hnew : first.length ∉ placed := by simp [hplaced]
      rw [List.map_cons, place, replacement?_eq, hstandIn, Option.bind_some, hlookup, Option.map_some]
      dsimp only
      rw [if_neg hnew]
      exact ⟨congrArg _ hfindings, hlast⟩

theorem mergeFindings_of_aligned :
    mergeFindings (marks.map general) (marks.map special) = marks.map special := by
  have hstart : ∀ j, j ∈ ([] : List Nat) ↔ j < ([] : List α).length := by simp
  obtain ⟨hfindings, hplaced⟩ := place_of_aligned hstands hdistinct (List.nil_append marks).symm hstart
  have hnone : (marks.map special).zipIdx.filter
      (fun s => decide (s.2 ∉ (place (marks.map special).zipIdx [] (marks.map general)).2)) = [] := by
    rw [List.filter_eq_nil_iff]
    intro s hs
    have hlt := (List.getElem?_eq_some_iff.mp (List.mem_zipIdx_iff_getElem?.mp hs)).1
    rw [List.length_map] at hlt
    simpa [hplaced] using hlt
  rw [mergeFindings]
  dsimp only
  rw [hnone, hfindings, List.map_nil, List.append_nil]

end

end Proofs.MergeOrder

end ReviewDiagnostics
