import ReviewDiagnostics.Proofs.Scaling
import ReviewDiagnostics.Resemblance

/-!
# Rounding keeps signs

Likelihoods are sums that are rounded at every step.  Rounding takes no number below zero, and a number
that is not below one does not vanish, so that a sum of terms that are not negative stays positive once
it has reached one.
-/

namespace ReviewDiagnostics.Proofs.Rounding

-- Powers are those of the core library, whatever else is imported.
attribute [local instance (2000)] instPowNat

open Binary64 Scaling

/-! ## Numbers without a sign -/

theorem twoPow_pos (e : Int) : 0 < twoPow e := by
  rw [twoPow]
  split
  · exact Rat.natCast_pos.mpr (Nat.two_pow_pos _)
  · rw [Rat.mkRat_eq_div, Rat.div_def]
    exact Rat.mul_pos (by decide) (Rat.inv_pos.mpr (Rat.natCast_pos.mpr (Nat.two_pow_pos _)))

theorem magnitude_nonneg (scale : Fin 2047) (fraction : Fin (2 ^ (52 : Nat))) :
    0 ≤ magnitude scale fraction :=
  Rat.mul_nonneg Rat.natCast_nonneg (Rat.le_of_lt (twoPow_pos _))

theorem magnitude_pos {scale : Fin 2047} {fraction : Fin (2 ^ (52 : Nat))}
    (h : 0 < significand scale fraction) : 0 < magnitude scale fraction :=
  Rat.mul_pos (Rat.natCast_pos.mpr h) (twoPow_pos _)

theorem pack_cases {m : Nat} {u : Int} (hu : -1074 ≤ u) : pack false m u = .infinite false ∨
    ∃ scale fraction, pack false m u = .finite false scale fraction ∧
      (0 < m → 0 < significand scale fraction) := by
  rw [pack]
  by_cases hsmall : m < 2 ^ (52 : Nat)
  · rw [if_pos hsmall]
    refine .inr ⟨_, _, rfl, fun hm => ?_⟩
    rw [significand, if_pos (by rfl)]
    exact Nat.lt_of_lt_of_eq hm (Nat.mod_eq_of_lt hsmall).symm
  · rw [if_neg hsmall]
    have hscale : (if m < 2 ^ (53 : Nat) then u + 1075 else u + 1076).toNat ≠ 0 := by split <;> omega
    revert hscale
    generalize (if m < 2 ^ (53 : Nat) then u + 1075 else u + 1076).toNat = scale
    intro hscale
    dsimp only
    split
    · refine .inr ⟨_, _, rfl, fun _ => ?_⟩
      rw [significand, if_neg hscale]
      exact Nat.add_pos_left (Nat.two_pow_pos 52) _
    · exact .inl rfl

theorem pack_nonneg {m : Nat} {u : Int} {r : Rat} (hu : -1074 ≤ u)
    (h : (pack false m u).toRat? = some r) : 0 ≤ r := by
  obtain hpack | ⟨scale, fraction, hpack, -⟩ := pack_cases (m := m) hu <;> rw [hpack] at h
  · cases h
  · obtain rfl := Option.some.inj h
    exact magnitude_nonneg scale fraction

theorem pack_pos {m : Nat} {u : Int} {r : Rat} (hm : 0 < m) (hu : -1074 ≤ u)
    (h : (pack false m u).toRat? = some r) : 0 < r := by
  obtain hpack | ⟨scale, fraction, hpack, hsignificand⟩ := pack_cases (m := m) hu <;> rw [hpack] at h
  · cases h
  · obtain rfl := Option.some.inj h
    exact magnitude_pos (hsignificand hm)

/-! ## Numbers that are not below one -/

theorem nearest_pos {num den : Nat} (hden : 0 < den) (h : den ≤ num) : 0 < nearest num den :=
  Nat.lt_of_lt_of_le (Nat.div_pos h hden) (le_nearest num den)

theorem ofFraction_nonneg {num den : Nat} {r : Rat}
    (h : (ofFraction false num den).toRat? = some r) : 0 ≤ r := by
  rw [ofFraction] at h
  split at h
  · obtain rfl := Option.some.inj h
    exact magnitude_nonneg _ _
  · exact pack_nonneg (by omega) h

theorem ofFraction_pos {num den : Nat} {r : Rat} (hden : 0 < den) (hle : den ≤ num)
    (h : (ofFraction false num den).toRat? = some r) : 0 < r := by
  rw [ofFraction, if_neg (by omega)] at h
  refine pack_pos ?_ (by omega) h
  split
  · rename_i hu
    refine nearest_pos (Nat.mul_pos hden (Nat.two_pow_pos _)) (mul_two_pow_le (by omega) (by omega) ?_)
    omega
  · exact nearest_pos hden (Nat.le_trans hle (Nat.le_mul_of_pos_right _ (Nat.two_pow_pos _)))

/-! ## Rationals -/

theorem round_of_nonneg {q : Rat} (hq : 0 ≤ q) :
    Binary64.round q = ofFraction false q.num.natAbs q.den := by
  rw [Binary64.round, decide_eq_false (Int.not_lt.mpr (Rat.num_nonneg.mpr hq))]

theorem toPrecision_nonneg {q : Rat} (hq : 0 ≤ q) : 0 ≤ toPrecision q := by
  rw [toPrecision, round_of_nonneg hq]
  cases h : (ofFraction false q.num.natAbs q.den).toRat? with
  | none => exact hq
  | some r => exact ofFraction_nonneg h

theorem toPrecision_pos {q : Rat} (hq : 1 ≤ q) : 0 < toPrecision q := by
  have hnonneg : 0 ≤ q := Rat.le_trans (by decide) hq
  have hnum : (q.den : Int) ≤ q.num := by simpa using (Rat.le_iff 1 q).mp hq
  rw [toPrecision, round_of_nonneg hnonneg]
  cases h : (ofFraction false q.num.natAbs q.den).toRat? with
  | none => exact Std.lt_of_lt_of_le (by decide : (0 : Rat) < 1) hq
  | some r => exact ofFraction_pos q.den_pos (by omega) h

end ReviewDiagnostics.Proofs.Rounding
