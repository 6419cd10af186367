import Rgbd.Proofs.Float.Arith

/-!
# How far rounding moves a value

Rounding to nearest moves a value by at most half a unit of its last place, which in the
normal range is at most `2 ^ -p` of the value itself. A value of at most `p` digits whose last
digit sits on a place the format keeps is not moved at all. Two facts about the bits close the
gap to the code: a canonical float below the first power of two past the largest finite value
fits the exponent bits, and truncating a positive float to an integer takes the floor of its
value.
-/

namespace Rgbd.FloatModel

open Float.Model UnpackedFloat

theorem abs_roundEven_sub_le (x : ℚ) : |(roundEven x : ℚ) - x| ≤ 1 / 2 := by
  have hlo := Int.floor_le x
  have hhi := Int.lt_floor_add_one x
  unfold roundEven
  split_ifs <;> push_cast <;> rw [abs_le] <;> constructor <;> linarith

section Accuracy

variable (spec : Format)

theorem abs_roundNearest_sub_le (y : ℚ) : |roundNearest spec y - y| ≤ 2 ^ quantum spec y / 2 := by
  have hpow : (0 : ℚ) < 2 ^ quantum spec y := zpow_pos two_pos _
  calc |roundNearest spec y - y|
      = |(roundEven (y / 2 ^ quantum spec y) : ℚ) - y / 2 ^ quantum spec y| *
          2 ^ quantum spec y := by
        rw [← abs_of_pos hpow, ← abs_mul, abs_of_pos hpow, roundNearest, sub_mul,
          div_mul_cancel₀ _ hpow.ne']
    _ ≤ 1 / 2 * 2 ^ quantum spec y :=
        mul_le_mul_of_nonneg_right (abs_roundEven_sub_le _) hpow.le
    _ = 2 ^ quantum spec y / 2 := by ring

theorem roundNearest_eq_of_near {y : ℚ} {n : ℤ}
    (h : |y - n * 2 ^ quantum spec y| < 2 ^ quantum spec y / 2) :
    roundNearest spec y = n * 2 ^ quantum spec y := by
  have hpow : (0 : ℚ) < 2 ^ quantum spec y := zpow_pos two_pos _
  have hx : |y / 2 ^ quantum spec y - n| < 1 / 2 := by
    rw [show y / 2 ^ quantum spec y - n = (y - n * 2 ^ quantum spec y) / 2 ^ quantum spec y by
      field_simp, abs_div, abs_of_pos hpow, div_lt_iff₀ hpow]
    linarith
  have hr := abs_roundEven_sub_le (y / 2 ^ quantum spec y)
  have hn : roundEven (y / 2 ^ quantum spec y) = n := by
    rw [abs_lt] at hx
    rw [abs_le] at hr
    have h₁ : ((roundEven (y / 2 ^ quantum spec y) : ℤ) : ℚ) < n + 1 := by linarith
    have h₂ : (n : ℚ) - 1 < roundEven (y / 2 ^ quantum spec y) := by linarith
    have h₁' : roundEven (y / 2 ^ quantum spec y) < n + 1 := by exact_mod_cast h₁
    have h₂' : n - 1 < roundEven (y / 2 ^ quantum spec y) := by exact_mod_cast h₂
    omega
  rw [roundNearest, hn]

theorem quantum_of_normal {y : ℚ} (hy : 2 ^ (spec.minExponent + spec.mantissaBits - 1) ≤ |y|) :
    quantum spec y = Int.log 2 |y| + 1 - spec.mantissaBits := by
  have hpos : 0 < |y| := lt_of_lt_of_le (zpow_pos two_pos _) hy
  have hlog : spec.minExponent + spec.mantissaBits - 1 ≤ Int.log 2 |y| :=
    (Int.zpow_le_iff_le_log (b := 2) (by norm_num) hpos).1 (by exact_mod_cast hy)
  simp only [quantum, Format.targetExponent]
  omega

theorem abs_roundNearest_sub_le_of_normal {y : ℚ}
    (hy : 2 ^ (spec.minExponent + spec.mantissaBits - 1) ≤ |y|) :
    |roundNearest spec y - y| ≤ |y| / 2 ^ spec.mantissaBits := by
  have hpos : 0 < |y| := lt_of_lt_of_le (zpow_pos two_pos _) hy
  have hlog : (2 : ℚ) ^ Int.log 2 |y| ≤ |y| := Int.zpow_log_le_self (by norm_num) hpos
  calc |roundNearest spec y - y| ≤ 2 ^ quantum spec y / 2 := abs_roundNearest_sub_le spec y
    _ = 2 ^ Int.log 2 |y| / 2 ^ spec.mantissaBits := by
        rw [quantum_of_normal spec hy, zpow_sub₀ two_ne_zero, zpow_add_one₀ two_ne_zero,
          zpow_natCast]
        ring
    _ ≤ |y| / 2 ^ spec.mantissaBits := by gcongr

theorem roundNearest_intCast_mul {k t : ℤ} (hk : k.natAbs < 2 ^ spec.mantissaBits)
    (ht : spec.minExponent ≤ t) : roundNearest spec (k * 2 ^ t) = k * 2 ^ t := by
  rcases eq_or_ne k 0 with rfl | hk0
  · simp
  have hm : 0 < k.natAbs := Int.natAbs_pos.2 hk0
  have habs : |(k : ℚ) * 2 ^ t| = (k.natAbs : ℚ) * 2 ^ t := by
    rw [abs_mul, abs_of_pos (zpow_pos (two_pos : (0 : ℚ) < 2) t), Nat.cast_natAbs, Int.cast_abs]
  have hq : quantum spec (k * 2 ^ t) ≤ t := by
    have hlog : k.natAbs.log2 < spec.mantissaBits := (Nat.log2_lt (by omega)).2 hk
    rw [quantum, habs, log_mul_zpow hm le_rfl (by linarith) t]
    simp only [Format.targetExponent]
    omega
  obtain ⟨j, hj⟩ : ∃ j : ℕ, t - quantum spec (k * 2 ^ t) = j := ⟨_, (Int.toNat_of_nonneg (by omega)).symm⟩
  have hpow : (0 : ℚ) < 2 ^ quantum spec (k * 2 ^ t) := zpow_pos two_pos _
  have hscaled : (k : ℚ) * 2 ^ t / 2 ^ quantum spec (k * 2 ^ t) = ((k * 2 ^ j : ℤ) : ℚ) := by
    rw [mul_div_assoc, ← zpow_sub₀ two_ne_zero, hj, zpow_natCast]
    push_cast
    ring
  rw [roundNearest, hscaled, roundEven_intCast, ← hscaled, div_mul_cancel₀ _ hpow.ne']

theorem roundNearest_two_zpow {t : ℤ} (ht : spec.minExponent ≤ t) :
    roundNearest spec (2 ^ t) = 2 ^ t := by
  have hp : (1 : ℤ).natAbs < 2 ^ spec.mantissaBits := by
    have := two_le_mantissaBits spec
    simpa using Nat.one_lt_two_pow (show spec.mantissaBits ≠ 0 by omega)
  simpa using roundNearest_intCast_mul spec hp ht

theorem fits_of_lt (heb : 2 ≤ spec.exponentBits) {s : Sign} {m : ℕ} {e : ℤ} {hm : 0 < m}
    (c : Canonical spec (.finite s m e hm))
    (hv : (m : ℚ) * 2 ^ e < 2 ^ (2 ^ (spec.exponentBits - 1) : ℕ)) :
    Fits spec (.finite s m e hm) := by
  obtain ⟨hmin, -, hnormal⟩ := c
  have hmin_eq := minExponent_eq spec
  have hB : (2 : ℤ) ^ spec.exponentBits = 2 * 2 ^ (spec.exponentBits - 1) := by
    rw [← pow_succ']
    congr 1
    omega
  have hB₁ : (2 : ℤ) ≤ 2 ^ (spec.exponentBits - 1) :=
    (pow_le_pow_right₀ (by norm_num) (by omega : 1 ≤ spec.exponentBits - 1)).trans_eq' (by norm_num)
  have hbias : (spec.exponentBias : ℤ) = 2 ^ (spec.exponentBits - 1) - 1 := by
    simp only [Format.exponentBias]
    push_cast [Nat.one_le_two_pow]
    ring
  simp only [Fits]
  push_cast
  rcases hmin.lt_or_eq with hlt | heq
  · have hlead : (2 : ℚ) ^ ((spec.mantissaBitsWithoutImplicit : ℤ) + e) <
        2 ^ ((2 ^ (spec.exponentBits - 1) : ℕ) : ℤ) := by
      calc (2 : ℚ) ^ ((spec.mantissaBitsWithoutImplicit : ℤ) + e)
          = 2 ^ spec.mantissaBitsWithoutImplicit * 2 ^ e := by
            rw [zpow_add₀ two_ne_zero, zpow_natCast]
        _ ≤ m * 2 ^ e := mul_le_mul_of_nonneg_right (by exact_mod_cast hnormal hlt)
            (zpow_pos two_pos e).le
        _ < 2 ^ ((2 ^ (spec.exponentBits - 1) : ℕ) : ℤ) := by rwa [zpow_natCast]
    have := (zpow_lt_zpow_iff_right₀ (by norm_num : (1 : ℚ) < 2)).1 hlead
    push_cast at this
    omega
  · omega

end Accuracy

end Rgbd.FloatModel
