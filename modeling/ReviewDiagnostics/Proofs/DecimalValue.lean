import ReviewDiagnostics.Number.Decimal
import ReviewDiagnostics.Proofs.Scaling

/-!
# Decimals of equal value

A decimal is rounded by its value, and the cutoffs for large and small exponents do not change the result.
So zeros at the end of the digits make no difference, and the decimal that a number is written with reads
back as that number.
-/

namespace ReviewDiagnostics.Proofs.DecimalValue

-- Powers are those of the core library, whatever else is imported.
attribute [local instance (2000)] instPowNat

open Binary64 Scaling

variable {num den c c' : Nat} {k k' : Int} {scale : Fin 2047} {fraction : Fin (2 ^ (52 : Nat))}

/-! ## Values out of range -/

theorem ofFraction_of_reaches (negative : Bool) (hnum : num ≠ 0) (hden : den ≠ 0)
    (h : Reaches num den 1024) : ofFraction negative num den = .infinite negative := by
  have hlarge : 1024 ≤ floorLog2 num den := (le_floorLog2_iff hnum hden).mpr h
  rw [ofFraction, if_neg (not_or.mpr ⟨hnum, hden⟩)]
  dsimp only
  rw [Int.max_eq_left (by omega), if_pos (by omega)]
  generalize hu : floorLog2 num den - 52 = u
  have hm : 2 ^ (52 : Nat) ≤ nearest num (den * 2 ^ u.toNat) := by
    refine Nat.le_trans ?_ (le_nearest _ _)
    rw [Nat.le_div_iff_mul_le (Nat.mul_pos (Nat.pos_of_ne_zero hden) (Nat.two_pow_pos _)),
      Nat.mul_comm, Nat.mul_assoc, ← Nat.pow_add]
    exact mul_two_pow_le hnum hden (by omega)
  rw [pack, if_neg (Nat.not_lt.mpr hm)]
  exact dif_neg (by split <;> omega)

theorem ofFraction_of_not_reaches (negative : Bool) (h : ¬ Reaches num den (-1075)) :
    ofFraction negative num den = .finite negative 0 0 := by
  rw [ofFraction]
  split
  · rfl
  · rename_i hzero
    obtain ⟨hnum, hden⟩ := not_or.mp hzero
    have hlog := mt (le_floorLog2_iff hnum hden).mp h
    dsimp only
    rw [Int.max_eq_right (by omega), if_neg (by omega)]
    generalize hn : (-(-1074 : Int)).toNat = n
    have hsmall : ¬ den * 2 ^ 0 ≤ num * 2 ^ (n + 1) := mt (reaches_iff (by omega)).mpr h
    rw [Nat.pow_zero, Nat.mul_one, Nat.pow_succ, ← Nat.mul_assoc] at hsmall
    generalize num * 2 ^ n = m at hsmall ⊢
    -- Less than half of the least number is rounded down to zero.
    have hnearest : nearest m den = 0 := by
      rw [nearest, Nat.mod_eq_of_lt (by omega), Nat.div_eq_of_lt (by omega)]
      exact if_pos (by omega)
    rw [hnearest]
    rfl

/-! ## Powers of ten -/

theorem ten_pow_ne_zero (n : Nat) : 10 ^ n ≠ 0 :=
  Nat.ne_of_gt (Nat.pow_pos (by decide))

theorem two_pow_le_ten_pow {a b : Nat} (h : 2 ^ a ≤ 10 ^ b) (n : Nat) : 2 ^ (a * (n / b)) ≤ 10 ^ n :=
  calc 2 ^ (a * (n / b)) = (2 ^ a) ^ (n / b) := Nat.pow_mul ..
    _ ≤ (10 ^ b) ^ (n / b) := Nat.pow_le_pow_left h _
    _ = 10 ^ (b * (n / b)) := (Nat.pow_mul ..).symm
    _ ≤ 10 ^ n := Nat.pow_le_pow_right (by decide) (Nat.mul_div_le n b)

theorem reaches_of_large (hc : c ≠ 0) (hk : 310 < k) : Reaches (c * 10 ^ k.toNat) 1 1024 := by
  have hexponent : (1024 : Int) ≤ (205 * (k.toNat / 62) : Nat) := by omega
  refine reaches_of_le hexponent ((@reaches_iff _ _ _ (205 * (k.toNat / 62)) 0 (by omega)).mpr ?_)
  rw [Nat.one_mul, Nat.pow_zero, Nat.mul_one]
  calc 2 ^ (205 * (k.toNat / 62)) ≤ 10 ^ k.toNat := two_pow_le_ten_pow (by decide) _
    _ ≤ c * 10 ^ k.toNat := Nat.le_mul_of_pos_left _ (Nat.pos_of_ne_zero hc)

private theorem not_reaches_of_small (hk : k + c.log2 < -400) : ¬ Reaches c (10 ^ (-k).toNat) (-1075) := by
  obtain ⟨n, hn⟩ : ∃ n, c.log2 + 1 + n = 3 * ((-k).toNat / 1) :=
    ⟨3 * (-k).toNat - c.log2 - 1, by omega⟩
  have hexponent : -(n : Int) ≤ -1075 := by omega
  refine mt (reaches_of_le hexponent) ?_
  rw [@reaches_iff _ _ _ 0 n (by omega), Nat.pow_zero, Nat.mul_one, Nat.not_le]
  calc c * 2 ^ n < 2 ^ (c.log2 + 1) * 2 ^ n :=
        Nat.mul_lt_mul_of_pos_right Nat.lt_log2_self (Nat.two_pow_pos _)
    _ = 2 ^ (3 * ((-k).toNat / 1)) := by rw [← Nat.pow_add, hn]
    _ ≤ 10 ^ (-k).toNat := two_pow_le_ten_pow (by decide) _

/-! ## Decimals -/

theorem ofDecimal_eq (negative : Bool) (hc : c ≠ 0) (k : Int) :
    ofDecimal negative c k = ofFraction negative (c * 10 ^ k.toNat) (10 ^ (-k).toNat) := by
  rw [ofDecimal, if_neg hc]
  split
  · rename_i hk
    rw [show (-k).toNat = 0 by omega, Nat.pow_zero]
    exact (ofFraction_of_reaches negative (Nat.mul_ne_zero hc (ten_pow_ne_zero _)) (by decide)
      (reaches_of_large hc hk)).symm
  · split
    · rename_i hk
      rw [show k.toNat = 0 by omega, Nat.pow_zero, Nat.mul_one]
      exact (ofFraction_of_not_reaches negative (not_reaches_of_small hk)).symm
    · split
      · rw [show (-k).toNat = 0 by omega, Nat.pow_zero]
      · rw [show k.toNat = 0 by omega, Nat.pow_zero, Nat.mul_one]

theorem ofDecimal_zero (negative : Bool) (k : Int) : ofDecimal negative 0 k = .finite negative 0 0 :=
  if_pos rfl

theorem ofDecimal_mul_ten_pow (negative : Bool) (c n : Nat) (k : Int) :
    ofDecimal negative (c * 10 ^ n) (k - n) = ofDecimal negative c k := by
  by_cases hc : c = 0
  · rw [hc, Nat.zero_mul, ofDecimal_zero, ofDecimal_zero]
  · rw [ofDecimal_eq negative (Nat.mul_ne_zero hc (ten_pow_ne_zero n)), ofDecimal_eq negative hc]
    refine ofFraction_congr negative (ten_pow_ne_zero _) (ten_pow_ne_zero _) ?_
    simp only [Nat.mul_assoc, ← Nat.pow_add]
    congr 2
    omega

theorem ofDecimal_sign (h : ofDecimal false c k = .finite false scale fraction) (negative : Bool) :
    ofDecimal negative c k = .finite negative scale fraction := by
  by_cases hc : c = 0
  · rw [hc, ofDecimal_zero] at h ⊢
    cases h
    rfl
  · rw [ofDecimal_eq _ hc] at h ⊢
    exact ofFraction_sign h negative

/-! ## The decimal that a number is written with -/

/-- A decimal read as a number without a sign. -/
def valueOf (d : Decimal) : Binary64 :=
  ofDecimal false d.digits d.exponent

theorem valueOf_dropZeros (c : Nat) (k : Int) : valueOf (Decimal.dropZeros c k) = ofDecimal false c k := by
  fun_induction Decimal.dropZeros c k with
  | case1 c k h ih =>
      have hc : c / 10 * 10 ^ 1 = c := by omega
      rw [ih, ← ofDecimal_mul_ten_pow false (c / 10) 1, hc]
      congr 1
      omega
  | case2 => rfl

theorem valueOf_of_tried {x : Binary64} {rest : Option Decimal} {d : Decimal}
    (h : (if ofDecimal false c k == x then some ⟨c, k⟩ else rest) = some d)
    (hrest : rest = some d → valueOf d = x) : valueOf d = x := by
  split at h
  · rename_i hreads
    cases h
    exact beq_iff_eq.mp hreads
  · exact hrest h

private theorem valueOf_onGrid {x : Binary64} {d : Decimal} (h : Decimal.onGrid? x num den k = some d) :
    valueOf d = x :=
  valueOf_of_tried h fun h => valueOf_of_tried h fun h => nomatch h

theorem valueOf_search {x : Binary64} {top : Int} {fuel count : Nat} {d : Decimal}
    (h : Decimal.search x num den top fuel count = some d) : valueOf d = x := by
  induction fuel generalizing count with
  | zero => cases h
  | succ fuel ih =>
      rw [Decimal.search] at h
      split at h
      · rename_i hgrid
        cases h
        exact valueOf_onGrid hgrid
      · exact ih h

theorem valueOf_exact (hm : significand scale fraction ≠ 0) :
    valueOf (Decimal.exact (significand scale fraction) (exponent scale)) =
      .finite false scale fraction := by
  have hvalue := ofFraction_significand false scale fraction hm
  rw [valueOf, Decimal.exact]
  split
  · rename_i he
    rw [show (-exponent scale).toNat = 0 by omega] at hvalue
    rw [ofDecimal_eq _ (Nat.mul_ne_zero hm (Nat.ne_of_gt (Nat.two_pow_pos _)))]
    simpa using hvalue
  · rename_i he
    have hfive : 5 ^ (-exponent scale).toNat ≠ 0 := Nat.ne_of_gt (Nat.pow_pos (by decide))
    rw [ofDecimal_eq _ (Nat.mul_ne_zero hm hfive), ← hvalue]
    simp only [show (exponent scale).toNat = 0 by omega, Nat.pow_zero, Nat.mul_one]
    rw [show 10 = 2 * 5 from rfl, Nat.mul_pow, ofFraction_mul_right _ _ _ hfive]

theorem shortest_of_zero (hm : significand scale fraction = 0) :
    Decimal.shortest scale fraction = ⟨0, 0⟩ :=
  if_pos hm

private theorem eq_zero_of_significand (hm : significand scale fraction = 0) : scale = 0 ∧ fraction = 0 := by
  rw [significand] at hm
  split at hm
  · rename_i hscale
    exact ⟨Fin.ext hscale, Fin.ext hm⟩
  · omega

/-- The decimal that a number is written with reads back as that number. -/
theorem ofDecimal_shortest (negative : Bool) (scale : Fin 2047) (fraction : Fin (2 ^ (52 : Nat))) :
    ofDecimal negative (Decimal.shortest scale fraction).digits
      (Decimal.shortest scale fraction).exponent = .finite negative scale fraction := by
  refine ofDecimal_sign ?_ negative
  change valueOf _ = _
  by_cases hm : significand scale fraction = 0
  · obtain ⟨rfl, rfl⟩ := eq_zero_of_significand hm
    rw [shortest_of_zero hm]
    exact ofDecimal_zero false 0
  · rw [Decimal.shortest]
    dsimp only
    rw [if_neg hm, Decimal.normal, valueOf_dropZeros]
    change valueOf _ = _
    cases hsearch : Decimal.search (.finite false scale fraction) _ _ _ 17 1 with
    | some d => exact valueOf_search hsearch
    | none => exact valueOf_exact hm

theorem exponent_shortest (h : (Decimal.shortest scale fraction).digits = 0) :
    (Decimal.shortest scale fraction).exponent = 0 := by
  have hvalue := ofDecimal_shortest false scale fraction
  rw [h, ofDecimal_zero] at hvalue
  cases hvalue
  rw [shortest_of_zero rfl]

end ReviewDiagnostics.Proofs.DecimalValue
