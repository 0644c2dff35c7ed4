import ReviewDiagnostics.Number.Binary64

/-!
# Fractions of equal value

A fraction is rounded by its value: numerator and denominator may share any factor.  The fraction that a
number of binary64 is equal to gives that number back.
-/

namespace ReviewDiagnostics.Proofs.Scaling

-- Powers are those of the core library, whatever else is imported.
attribute [local instance (2000)] instPowNat

open Binary64

variable {num den k : Nat} {e e' : Int}

/-! ## The binary logarithm of a fraction -/

/-- A fraction is not below a power of two. -/
def Reaches (num den : Nat) (e : Int) : Prop :=
  den * 2 ^ e.toNat ≤ num * 2 ^ (-e).toNat

theorem reaches_iff {p n : Nat} (h : (p : Int) - n = e) :
    Reaches num den e ↔ den * 2 ^ p ≤ num * 2 ^ n := by
  obtain ⟨c, hp, hn⟩ : ∃ c, p = e.toNat + c ∧ n = (-e).toNat + c :=
    ⟨min p n, by omega, by omega⟩
  rw [Reaches, hp, hn, Nat.pow_add, Nat.pow_add, ← Nat.mul_assoc, ← Nat.mul_assoc]
  exact (Nat.mul_le_mul_right_iff (Nat.two_pow_pos c)).symm

theorem reaches_of_le (he : e' ≤ e) (h : Reaches num den e) : Reaches num den e' := by
  have hsplit : ((e'.toNat + (e - e').toNat : Nat) : Int) - (-e').toNat = e := by omega
  calc den * 2 ^ e'.toNat
      ≤ den * 2 ^ (e'.toNat + (e - e').toNat) :=
        Nat.mul_le_mul_left _ (Nat.pow_le_pow_right (by decide) (Nat.le_add_right _ _))
    _ ≤ num * 2 ^ (-e').toNat := (reaches_iff hsplit).mp h

theorem reaches_log2_sub (hnum : num ≠ 0) : Reaches num den (num.log2 - den.log2 - 1) := by
  have hden : den < 2 ^ (den.log2 + 1) := Nat.lt_log2_self
  refine (@reaches_iff _ _ _ num.log2 (den.log2 + 1) (by omega)).mpr ?_
  rw [Nat.mul_comm]
  exact Nat.mul_le_mul (Nat.log2_self_le hnum) (Nat.le_of_lt hden)

theorem not_reaches_log2_sub (hden : den ≠ 0) : ¬ Reaches num den (num.log2 - den.log2 + 1) := by
  have hnum : num < 2 ^ (num.log2 + 1) := Nat.lt_log2_self
  rw [@reaches_iff _ _ _ (num.log2 + 1) den.log2 (by omega), Nat.not_le, Nat.mul_comm den]
  exact Nat.mul_lt_mul_of_lt_of_le hnum (Nat.log2_self_le hden) (Nat.pos_of_ne_zero hden)

private theorem floorLog2_eq (num den : Nat) :
    floorLog2 num den =
      if den * 2 ^ ((num.log2 : Int) - den.log2).toNat ≤ num * 2 ^ (-((num.log2 : Int) - den.log2)).toNat
      then (num.log2 : Int) - den.log2 else (num.log2 : Int) - den.log2 - 1 := by
  simp only [floorLog2]
  by_cases h : 0 ≤ (num.log2 : Int) - den.log2
  · rw [show (-((num.log2 : Int) - den.log2)).toNat = 0 by omega, Nat.pow_zero, Nat.mul_one]
    simp only [h, if_true]
  · rw [show ((num.log2 : Int) - den.log2).toNat = 0 by omega, Nat.pow_zero, Nat.mul_one]
    simp only [h, if_false]

/-- The logarithm is the largest exponent that is reached. -/
theorem le_floorLog2_iff (hnum : num ≠ 0) (hden : den ≠ 0) :
    e ≤ floorLog2 num den ↔ Reaches num den e := by
  rw [floorLog2_eq]
  split
  · rename_i hreached
    refine ⟨fun h => reaches_of_le h hreached, fun h => Int.not_lt.mp fun hlt => ?_⟩
    exact not_reaches_log2_sub hden (reaches_of_le (by omega) h)
  · rename_i hmissed
    refine ⟨fun h => reaches_of_le h (reaches_log2_sub hnum), fun h => Int.not_lt.mp fun hlt => ?_⟩
    exact hmissed (reaches_of_le (by omega) h)

theorem floorLog2_eq_of_reaches (hnum : num ≠ 0) (hden : den ≠ 0) (h : Reaches num den e)
    (hnext : ¬ Reaches num den (e + 1)) : floorLog2 num den = e := by
  have hle := (le_floorLog2_iff hnum hden).mpr h
  have hlt := mt (le_floorLog2_iff hnum hden).mp hnext
  omega

theorem mul_two_pow_le (hnum : num ≠ 0) (hden : den ≠ 0) (h : (k : Int) ≤ floorLog2 num den) :
    den * 2 ^ k ≤ num := by
  have hreaches := (@reaches_iff _ _ _ k 0 rfl).mp ((le_floorLog2_iff hnum hden).mp h)
  rwa [Nat.pow_zero, Nat.mul_one] at hreaches

/-! ## Common factors -/

theorem floorLog2_mul_right (hnum : num ≠ 0) (hden : den ≠ 0) (hk : k ≠ 0) :
    floorLog2 (num * k) (den * k) = floorLog2 num den := by
  have hreaches : ∀ e, Reaches (num * k) (den * k) e ↔ Reaches num den e := fun e => by
    rw [Reaches, Reaches, Nat.mul_right_comm den, Nat.mul_right_comm num]
    exact Nat.mul_le_mul_right_iff (Nat.pos_of_ne_zero hk)
  have hlog := fun e => @le_floorLog2_iff num den e hnum hden
  refine floorLog2_eq_of_reaches (Nat.mul_ne_zero hnum hk) (Nat.mul_ne_zero hden hk) ?_ ?_
  · exact (hreaches _).mpr ((hlog _).mp (Int.le_refl _))
  · exact fun h => absurd ((hlog _).mpr ((hreaches _).mp h)) (by omega)

theorem nearest_mul_right (num den : Nat) (hk : k ≠ 0) :
    nearest (num * k) (den * k) = nearest num den := by
  have hpos := Nat.pos_of_ne_zero hk
  have hlt : ∀ a b : Nat, a * k < b * k ↔ a < b := fun a b => Nat.mul_lt_mul_right hpos
  simp only [nearest, Nat.mul_div_mul_right _ _ hpos, Nat.mul_mod_mul_right, ← Nat.mul_assoc, hlt]

theorem ofFraction_mul_right (negative : Bool) (num den : Nat) (hk : k ≠ 0) :
    ofFraction negative (num * k) (den * k) = ofFraction negative num den := by
  by_cases hzero : num = 0 ∨ den = 0
  · have hzero' : num * k = 0 ∨ den * k = 0 :=
      hzero.imp (fun h => by rw [h, Nat.zero_mul]) (fun h => by rw [h, Nat.zero_mul])
    rw [ofFraction, ofFraction, if_pos hzero, if_pos hzero']
  · obtain ⟨hnum, hden⟩ := not_or.mp hzero
    have hzero' : ¬ (num * k = 0 ∨ den * k = 0) :=
      not_or.mpr ⟨Nat.mul_ne_zero hnum hk, Nat.mul_ne_zero hden hk⟩
    rw [ofFraction, ofFraction, if_neg hzero, if_neg hzero', floorLog2_mul_right hnum hden hk]
    simp only [Nat.mul_right_comm _ k, nearest_mul_right _ _ hk]

theorem ofFraction_congr (negative : Bool) {num den num' den' : Nat} (hden : den ≠ 0) (hden' : den' ≠ 0)
    (h : num * den' = num' * den) : ofFraction negative num den = ofFraction negative num' den' := by
  rw [← ofFraction_mul_right negative num den hden', h, Nat.mul_comm den,
    ofFraction_mul_right negative num' den' hden]

/-! ## Signs -/

private theorem pack_sign {m : Nat} {u : Int} {scale : Fin 2047} {fraction : Fin (2 ^ (52 : Nat))}
    (h : pack false m u = .finite false scale fraction) (negative : Bool) :
    pack negative m u = .finite negative scale fraction := by
  rw [pack] at h ⊢
  by_cases hsmall : m < 2 ^ (52 : Nat)
  · rw [if_pos hsmall] at h ⊢
    cases h
    rfl
  · rw [if_neg hsmall] at h ⊢
    generalize (if m < 2 ^ (53 : Nat) then u + 1075 else u + 1076).toNat = scale' at h ⊢
    dsimp only at h ⊢
    split at h
    · rename_i hscale
      rw [dif_pos hscale]
      cases h
      rfl
    · cases h

theorem ofFraction_sign {scale : Fin 2047} {fraction : Fin (2 ^ (52 : Nat))}
    (h : ofFraction false num den = .finite false scale fraction) (negative : Bool) :
    ofFraction negative num den = .finite negative scale fraction := by
  rw [ofFraction] at h ⊢
  split at h
  · rename_i hzero
    rw [if_pos hzero]
    cases h
    rfl
  · rename_i hzero
    rw [if_neg hzero]
    exact pack_sign h negative

/-! ## Values of numbers -/

theorem le_nearest (num den : Nat) : num / den ≤ nearest num den := by
  simp only [nearest]
  split
  · exact Nat.le_refl _
  · split <;> omega

theorem nearest_mul_self (m : Nat) (hk : k ≠ 0) : nearest (m * k) k = m := by
  have h := nearest_mul_right m 1 hk
  rw [Nat.one_mul] at h
  rw [h]
  simp [nearest, Nat.mod_one]

theorem floorLog2_two_pow {m : Nat} (hm : m ≠ 0) (p n : Nat) :
    floorLog2 (m * 2 ^ p) (2 ^ n) = m.log2 + p - n := by
  have hpos := Nat.two_pow_pos n
  refine floorLog2_eq_of_reaches (Nat.mul_ne_zero hm (Nat.ne_of_gt (Nat.two_pow_pos p)))
    (Nat.ne_of_gt hpos) ?_ ?_
  · refine (@reaches_iff _ _ _ (m.log2 + p) n (by omega)).mpr ?_
    rw [Nat.mul_comm, Nat.pow_add]
    exact Nat.mul_le_mul_right _ (Nat.mul_le_mul_right _ (Nat.log2_self_le hm))
  · rw [@reaches_iff _ _ _ (m.log2 + 1 + p) n (by omega), Nat.not_le, Nat.mul_comm _ (2 ^ (_ + p)),
      Nat.pow_add]
    exact Nat.mul_lt_mul_of_pos_right
      (Nat.mul_lt_mul_of_pos_right Nat.lt_log2_self (Nat.two_pow_pos p)) hpos

theorem exponent_eq_max (scale : Fin 2047) (fraction : Fin (2 ^ (52 : Nat)))
    (hm : significand scale fraction ≠ 0) :
    max ((significand scale fraction).log2 + exponent scale - 52) (-1074) = exponent scale := by
  have hfraction := fraction.isLt
  rw [exponent]
  -- Numbers of the least scale have fewer bits, and all others have exactly 53.
  by_cases hscale : scale.val = 0
  · have hlog : (significand scale fraction).log2 < 52 := by
      refine (Nat.log2_lt hm).mpr ?_
      rwa [significand, if_pos hscale]
    rw [hscale]
    omega
  · have hlog : (significand scale fraction).log2 = 52 := by
      refine (Nat.log2_eq_iff hm).mpr ?_
      rw [significand, if_neg hscale]
      exact ⟨Nat.le_add_right _ _, by omega⟩
    omega

private theorem pack_significand (negative : Bool) (scale : Fin 2047) (fraction : Fin (2 ^ (52 : Nat))) :
    pack negative (significand scale fraction) (exponent scale) = .finite negative scale fraction := by
  have hfraction := fraction.isLt
  rw [pack, significand]
  by_cases hscale : scale.val = 0
  · simp only [hscale, if_true, hfraction, Nat.mod_eq_of_lt hfraction]
    congr 1
    exact (Fin.ext hscale).symm
  · have hexponent : (exponent scale + 1075).toNat = scale.val := by
      rw [exponent]
      omega
    have hlarge : ¬ 2 ^ (52 : Nat) + fraction.val < 2 ^ (52 : Nat) := by omega
    have hbound : 2 ^ (52 : Nat) + fraction.val < 2 ^ (53 : Nat) := by omega
    simp only [hscale, if_false, hlarge, hbound, if_true, hexponent, scale.isLt, dif_pos,
      Nat.add_mod_left, Nat.mod_eq_of_lt hfraction]

/-- A number is the one nearest to its own value. -/
theorem ofFraction_significand (negative : Bool) (scale : Fin 2047) (fraction : Fin (2 ^ (52 : Nat)))
    (hm : significand scale fraction ≠ 0) :
    ofFraction negative (significand scale fraction * 2 ^ (exponent scale).toNat)
      (2 ^ (-exponent scale).toNat) = .finite negative scale fraction := by
  have hpos := fun n : Nat => Nat.ne_of_gt (Nat.two_pow_pos n)
  have hzero : ¬ (significand scale fraction * 2 ^ (exponent scale).toNat = 0 ∨
      2 ^ (-exponent scale).toNat = 0) := not_or.mpr ⟨Nat.mul_ne_zero hm (hpos _), hpos _⟩
  have hlog : ((significand scale fraction).log2 : Int) + (exponent scale).toNat -
      (-exponent scale).toNat = (significand scale fraction).log2 + exponent scale := by omega
  rw [ofFraction, if_neg hzero, floorLog2_two_pow hm, hlog]
  dsimp only
  rw [exponent_eq_max scale fraction hm]
  -- Numerator and denominator are scaled by the power that one of them has already.
  have hnearest : (if 0 ≤ exponent scale then
      nearest (significand scale fraction * 2 ^ (exponent scale).toNat)
        (2 ^ (-exponent scale).toNat * 2 ^ (exponent scale).toNat)
      else nearest (significand scale fraction * 2 ^ (exponent scale).toNat * 2 ^ (-exponent scale).toNat)
        (2 ^ (-exponent scale).toNat)) = significand scale fraction := by
    split
    · rw [show (-exponent scale).toNat = 0 by omega, Nat.pow_zero, Nat.one_mul]
      exact nearest_mul_self _ (hpos _)
    · rw [show (exponent scale).toNat = 0 by omega, Nat.pow_zero, Nat.mul_one]
      exact nearest_mul_self _ (hpos _)
  rw [hnearest]
  exact pack_significand negative scale fraction

end ReviewDiagnostics.Proofs.Scaling
