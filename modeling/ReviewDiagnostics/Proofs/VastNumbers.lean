import ReviewDiagnostics.Proofs.DecimalValue
import ReviewDiagnostics.Proofs.WellTyped

/-!
# Whole numbers out of range

A whole number has a finite binary64 number near it exactly if its size is below `2^1024 - 2^970`, which lies
halfway between the largest finite number and the next power of two.  Beyond that a bound has no text.
-/

namespace ReviewDiagnostics

-- Powers are those of the core library, whatever else is imported.
attribute [local instance (2000)] instPowNat

/-- A whole number with no finite binary64 number near it. -/
def Document.Vast : Document → Prop
  | .int n => (2 ^ (54 : Nat) - 1) * 2 ^ (970 : Nat) ≤ n.natAbs
  | _ => False

namespace Proofs.VastNumbers

open Binary64 Scaling DecimalValue WellTyped

variable {num h k : Nat} {negative : Bool}

/-! ## Rounding up to a power of two -/

theorem succ_le_nearest_iff (hh : 0 < h) (hodd : k % 2 = 1) :
    k + 1 ≤ nearest num (2 * h) ↔ (2 * k + 1) * h ≤ num := by
  have hsplit := Nat.div_add_mod num (2 * h)
  have hmod := Nat.mod_lt num (Nat.mul_pos (by decide : 0 < 2) hh)
  have hhalf : (2 * k + 1) * h = 2 * h * k + h := by
    rw [Nat.add_mul, Nat.one_mul, Nat.mul_right_comm]
  simp only [nearest]
  generalize num / (2 * h) = q at hsplit ⊢
  generalize num % (2 * h) = r at hsplit hmod ⊢
  rw [hhalf, ← hsplit]
  rcases Nat.lt_trichotomy q k with hbelow | rfl | habove
  · have hstep : 2 * h * q + 2 * h ≤ 2 * h * k := Nat.mul_le_mul_left (2 * h) hbelow
    refine iff_of_false ?_ (by omega)
    split
    · omega
    · split <;> omega
  · split
    · omega
    · split <;> omega
  · have hstep : 2 * h * k + 2 * h ≤ 2 * h * q := Nat.mul_le_mul_left (2 * h) habove
    refine iff_of_true ?_ (by omega)
    split
    · omega
    · split <;> omega

/-! ## Out of range -/

theorem pack_infinite_iff {m : Nat} {u : Int} : (∃ sign, pack negative m u = .infinite sign) ↔
    2 ^ (52 : Nat) ≤ m ∧ 2047 ≤ (if m < 2 ^ (53 : Nat) then u + 1075 else u + 1076) := by
  rw [pack]
  by_cases hsmall : m < 2 ^ (52 : Nat)
  · rw [if_pos hsmall]
    refine iff_of_false ?_ (by omega)
    rintro ⟨_, ⟨⟩⟩
  · rw [if_neg hsmall]
    generalize (if m < 2 ^ (53 : Nat) then u + 1075 else u + 1076) = scale
    dsimp only
    split
    · refine iff_of_false ?_ (by omega)
      rintro ⟨_, ⟨⟩⟩
    · exact iff_of_true ⟨negative, rfl⟩ (by omega)

private theorem reaches_natCast_iff : Reaches num 1 (k : Nat) ↔ 2 ^ k ≤ num := by
  rw [@reaches_iff num 1 k k 0 (by omega), Nat.one_mul, Nat.pow_zero, Nat.mul_one]

theorem ofFraction_infinite_iff (hnum : num ≠ 0) : (∃ sign, ofFraction negative num 1 = .infinite sign) ↔
    (2 ^ (54 : Nat) - 1) * 2 ^ (970 : Nat) ≤ num := by
  obtain ⟨p, hp⟩ : ∃ p, p = 970 := ⟨970, rfl⟩
  have hlog := fun k : Nat => (@le_floorLog2_iff num 1 k hnum (by decide)).trans reaches_natCast_iff
  have hfirst := hlog (54 + p)
  have hlast := hlog (53 + p)
  rw [Nat.pow_add] at hfirst hlast
  rw [← hp]
  by_cases hlarge : 2 ^ (54 : Nat) * 2 ^ p ≤ num
  · refine iff_of_true ⟨negative, ofFraction_of_reaches negative hnum (by decide) ?_⟩ (by omega)
    exact (le_floorLog2_iff hnum (by decide)).mp (by omega)
  · rw [ofFraction, if_neg (by omega)]
    dsimp only
    rw [pack_infinite_iff, Nat.one_mul]
    by_cases hfull : 2 ^ (53 : Nat) * 2 ^ p ≤ num
    · -- The significand is rounded up to the next power of two only if all its digits are ones.
      have hu : max (floorLog2 num 1 - 52) (-1074) = ((p + 1 : Nat) : Int) := by omega
      have hpow : 2 ^ (p + 1) = 2 * 2 ^ p := Nat.pow_succ'
      have hnearest := @succ_le_nearest_iff num (2 ^ p) (2 ^ (53 : Nat) - 1) (Nat.two_pow_pos p)
        (by decide)
      rw [hu, if_pos (Int.natCast_nonneg _), Int.toNat_natCast, hpow]
      split <;> omega
    · have hu : max (floorLog2 num 1 - 52) (-1074) ≤ p := by omega
      refine iff_of_false (fun h => ?_) (by omega)
      split at h <;> omega

/-! ## Bounds -/

theorem round_infinite_iff {n : Int} :
    (∃ sign, Binary64.round n = .infinite sign) ↔ (Document.int n).Vast := by
  rw [Binary64.round, Rat.num_intCast, Rat.den_intCast, Document.Vast]
  by_cases hzero : n.natAbs = 0
  · rw [hzero, ofFraction, if_pos (.inl rfl)]
    have hpos := Nat.two_pow_pos 970
    refine iff_of_false ?_ (by omega)
    rintro ⟨_, ⟨⟩⟩
  · exact ofFraction_infinite_iff hzero

/-- The text of a bound is given, unless it is a whole number out of range. -/
theorem boundText_cases {bound : Document} (h : bound.isNumeric = true) :
    (bound.Vast ∧ bound.boundText = .error .tooLarge) ∨
      ¬ bound.Vast ∧ ∃ text, bound.boundText = .ok text := by
  cases bound with
  | int n =>
      rw [Document.boundText]
      split
      · rename_i sign hround
        exact .inl ⟨round_infinite_iff.mp ⟨sign, hround⟩, rfl⟩
      · rename_i hround
        exact .inr ⟨fun hvast => (round_infinite_iff.mpr hvast).elim hround, _, rfl⟩
  | bool b => exact .inr ⟨id, _, rfl⟩
  | float x => exact .inr ⟨id, _, rfl⟩
  | _ => cases h

end Proofs.VastNumbers

end ReviewDiagnostics
