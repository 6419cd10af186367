import Mathlib.Data.Int.Log
import Mathlib.Data.Rat.Floor
import Rgbd.Proofs.Float.Unpacked

/-!
Rounding to nearest, ties to even, as Lean's floats do it.

An extended mantissa with its round and sticky bits pins down where the exact value lies
between the mantissa and the next integer (`Represents`); shifting right keeps that, and the
rounded mantissa is then the nearest integer to the exact value, ties to the even one
(`roundEven`). So every rounding of a positive exact value `x` lands on
`roundEven (x / 2 ^ t) * 2 ^ t` for the format's target exponent `t` of `x`, and this is
monotone in `x`: rounding never reverses an order.
-/

namespace Rgbd.FloatModel

open Float.Model UnpackedFloat

/-! ### Nearest integer, ties to even -/

/-- The integer nearest to `x`, the even one of two equally near. -/
def roundEven (x : ℚ) : ℤ :=
  if x - ⌊x⌋ < 1 / 2 then ⌊x⌋
  else if 1 / 2 < x - ⌊x⌋ then ⌊x⌋ + 1
  else if ⌊x⌋ % 2 = 0 then ⌊x⌋ else ⌊x⌋ + 1

theorem roundEven_cases (x : ℚ) : roundEven x = ⌊x⌋ ∨ roundEven x = ⌊x⌋ + 1 := by
  unfold roundEven
  split_ifs <;> simp

theorem roundEven_intCast (n : ℤ) : roundEven n = n := by
  simp [roundEven]

theorem roundEven_mono {x y : ℚ} (h : x ≤ y) : roundEven x ≤ roundEven y := by
  have hfloor : ⌊x⌋ ≤ ⌊y⌋ := Int.floor_mono h
  rcases lt_or_eq_of_le hfloor with hlt | heq
  · rcases roundEven_cases x with hx | hx <;> rcases roundEven_cases y with hy | hy <;> omega
  · have hfrac : x - ⌊x⌋ ≤ y - ⌊y⌋ := by rw [heq]; linarith
    unfold roundEven
    rw [heq]
    split_ifs <;> first | omega | linarith

theorem roundEven_le_of_le {x : ℚ} {n : ℤ} (h : x ≤ n) : roundEven x ≤ n := by
  simpa [roundEven_intCast] using roundEven_mono h

theorem le_roundEven_of_le {x : ℚ} {n : ℤ} (h : (n : ℚ) ≤ x) : n ≤ roundEven x := by
  simpa [roundEven_intCast] using roundEven_mono h

theorem roundEven_nonneg {x : ℚ} (hx : 0 ≤ x) : 0 ≤ roundEven x :=
  le_roundEven_of_le (by simpa using hx)

theorem roundEven_neg (x : ℚ) : roundEven (-x) = -roundEven x := by
  by_cases hint : x = ⌊x⌋
  · obtain ⟨n, rfl⟩ : ∃ n : ℤ, x = n := ⟨⌊x⌋, hint⟩
    rw [← Int.cast_neg, roundEven_intCast, roundEven_intCast]
  · have hlt : (⌊x⌋ : ℚ) < x := lt_of_le_of_ne (Int.floor_le x) (Ne.symm hint)
    have hfloor : ⌊-x⌋ = -⌊x⌋ - 1 := by
      rw [Int.floor_eq_iff]
      push_cast
      constructor <;> linarith [Int.lt_floor_add_one x]
    unfold roundEven
    rw [hfloor]
    push_cast
    split_ifs <;> first | omega | linarith

/-! ### What the round and sticky bits say -/

/-- The exact value `x` an extended mantissa stands for: the mantissa is its integer part,
the round bit says whether the rest is at least a half, the sticky bit whether it is
anything but `0` or a half. -/
def Represents (em : ExtendedMantissa) (x : ℚ) : Prop :=
  match em.roundBit, em.stickyBit with
  | false, false => x = em.mantissa
  | false, true => em.mantissa < x ∧ x < em.mantissa + 1 / 2
  | true, false => x = em.mantissa + 1 / 2
  | true, true => em.mantissa + 1 / 2 < x ∧ x < em.mantissa + 1

@[simp] theorem ofMantissaAndAccuracy_mantissa (m : ℕ) (acc : Accuracy) :
    (ExtendedMantissa.ofMantissaAndAccuracy m acc).mantissa = m := by
  cases acc with
  | exact => rfl
  | inexact o => cases o <;> rfl

theorem represents_exact (m : ℕ) : Represents (ExtendedMantissa.ofMantissaAndAccuracy m .exact) m :=
  rfl

theorem Represents.floor {em : ExtendedMantissa} {x : ℚ} (h : Represents em x) :
    ⌊x⌋ = em.mantissa := by
  obtain ⟨m, r, s⟩ := em
  rw [Int.floor_eq_iff]
  cases r <;> cases s <;> simp only [Represents] at h <;> push_cast <;>
    constructor <;> linarith [h]

theorem Represents.roundedMantissa {em : ExtendedMantissa} {x : ℚ} (h : Represents em x) :
    (em.roundedMantissa : ℤ) = roundEven x := by
  have hfloor := h.floor
  obtain ⟨m, r, s⟩ := em
  simp only at hfloor
  unfold roundEven
  rw [hfloor]
  simp only [Int.cast_natCast]
  cases r <;> cases s <;> simp only [Represents] at h <;>
    simp only [ExtendedMantissa.roundedMantissa, ExtendedMantissa.accuracy,
      Accuracy.roundToNearestEven]
  · rw [h]; simp
  · obtain ⟨h₁, h₂⟩ := h
    rw [if_pos (by linarith)]
  · rw [h, if_neg (by norm_num), if_neg (by norm_num)]
    rcases Nat.mod_two_eq_zero_or_one m with hm | hm
    · rw [if_pos (by omega)]; push_cast; omega
    · rw [if_neg (by omega)]; push_cast; omega
  · obtain ⟨h₁, h₂⟩ := h
    rw [if_neg (by linarith), if_pos (by linarith)]
    push_cast
    rfl

theorem Represents.shiftRightOne {em : ExtendedMantissa} {x : ℚ} (h : Represents em x) :
    Represents em.shiftRightOne (x / 2) := by
  obtain ⟨m, r, s⟩ := em
  have hm : ((m % 2 : ℕ) : ℚ) + 2 * ((m / 2 : ℕ) : ℚ) = m := by exact_mod_cast Nat.mod_add_div m 2
  rcases Nat.mod_two_eq_zero_or_one m with hr | hr <;>
    cases r <;> cases s <;> simp only [Represents] at h <;>
    simp only [Represents, ExtendedMantissa.shiftRightOne, hr, Nat.reduceBNe] <;>
    simp only [hr] at hm <;>
    norm_num at hm ⊢ <;> (try constructor) <;> linarith [h]

theorem Represents.shiftRight {em : ExtendedMantissa} {x : ℚ} (h : Represents em x) (n : ℕ) :
    Represents (em >>> n) (x / 2 ^ n) := by
  induction n with
  | zero => simpa [HShiftRight.hShiftRight, Nat.repeat] using h
  | succ n ih =>
    have hstep : em >>> (n + 1) = (em >>> n).shiftRightOne := rfl
    rw [hstep, pow_succ, ← div_div]
    exact ih.shiftRightOne

theorem represents_fraction (q r d : ℕ) (hr : r < d) :
    Represents (ExtendedMantissa.ofMantissaAndAccuracy q (accuracyOfFraction r d))
      (q + r / d) := by
  have hd : (0 : ℚ) < d := by exact_mod_cast (show 0 < d by omega)
  unfold accuracyOfFraction
  by_cases hr0 : r = 0
  · simp [hr0, ExtendedMantissa.ofMantissaAndAccuracy, Represents]
  · rw [if_neg hr0]
    have hrpos : (0 : ℚ) < r := by exact_mod_cast Nat.pos_of_ne_zero hr0
    have hrd : (r : ℚ) / d < 1 := by rw [div_lt_one hd]; exact_mod_cast hr
    have hrd0 : (0 : ℚ) < r / d := div_pos hrpos hd
    rcases h : compare (2 * r) d with _ | _ | _ <;>
      simp only [ExtendedMantissa.ofMantissaAndAccuracy, Represents]
    · have hlt : 2 * r < d := Nat.compare_eq_lt.mp h
      have : (r : ℚ) / d < 1 / 2 := by
        rw [div_lt_div_iff₀ hd (by norm_num)]; exact_mod_cast (by omega : r * 2 < 1 * d)
      constructor <;> linarith
    · have heq : 2 * r = d := Nat.compare_eq_eq.mp h
      have : (r : ℚ) / d = 1 / 2 := by
        rw [div_eq_div_iff (by positivity) (by norm_num)]; exact_mod_cast (by omega : r * 2 = 1 * d)
      rw [this]
    · have hgt : d < 2 * r := Nat.compare_eq_gt.mp h
      have : 1 / 2 < (r : ℚ) / d := by
        rw [div_lt_div_iff₀ (by norm_num) hd]; exact_mod_cast (by omega : 1 * d < r * 2)
      constructor <;> linarith

/-! ### Rounding a rational to the format -/

/-- The exponent of the last digit the format keeps for `y`: `p` binary digits down from the
leading one, but never below the least exponent. -/
def quantum (spec : Format) (y : ℚ) : ℤ :=
  spec.targetExponent (Int.log 2 |y| + 1)

/-- `y` rounded to nearest, ties to even, at the format's precision and least exponent; the
exponent is not bounded above. -/
def roundNearest (spec : Format) (y : ℚ) : ℚ :=
  roundEven (y / 2 ^ quantum spec y) * 2 ^ quantum spec y

section RoundNearest

variable (spec : Format)

theorem two_le_mantissaBits : 2 ≤ spec.mantissaBits := by
  have := spec.hm
  simp only [Format.mantissaBits]
  omega

theorem minExponent_le_quantum (y : ℚ) : spec.minExponent ≤ quantum spec y :=
  le_max_right _ _

theorem log_le_quantum {y : ℚ} (hy : 0 < y) :
    Int.log 2 y + 1 - spec.mantissaBits ≤ quantum spec y := by
  rw [quantum, abs_of_pos hy]
  exact le_max_left _ _

theorem quantum_mono {y y' : ℚ} (hy : 0 < y) (h : y ≤ y') : quantum spec y ≤ quantum spec y' := by
  have hlog : Int.log 2 y ≤ Int.log 2 y' := Int.log_mono_right hy h
  simp only [quantum, abs_of_pos hy, abs_of_pos (hy.trans_le h), Format.targetExponent]
  omega

@[simp] theorem roundNearest_zero : roundNearest spec 0 = 0 := by
  simp [roundNearest, roundEven]

theorem roundNearest_neg (y : ℚ) : roundNearest spec (-y) = -roundNearest spec y := by
  simp only [roundNearest, quantum, abs_neg, neg_div, roundEven_neg]
  push_cast
  ring

theorem roundNearest_nonneg {y : ℚ} (hy : 0 ≤ y) : 0 ≤ roundNearest spec y := by
  have hpow : (0 : ℚ) < 2 ^ quantum spec y := zpow_pos (by norm_num) _
  have hR : (0 : ℚ) ≤ roundEven (y / 2 ^ quantum spec y) := by
    exact_mod_cast roundEven_nonneg (div_nonneg hy hpow.le)
  exact mul_nonneg hR hpow.le

theorem two_pow_mul_zpow (n : ℕ) (q : ℤ) : ((2 ^ n : ℤ) : ℚ) * 2 ^ q = 2 ^ (q + n) := by
  rw [zpow_add₀ (by norm_num), zpow_natCast]
  push_cast
  ring

theorem roundEven_quantum_le {y : ℚ} (hy : 0 < y) :
    roundEven (y / 2 ^ quantum spec y) ≤ 2 ^ spec.mantissaBits := by
  have hlog : y < 2 ^ (Int.log 2 y + 1) := by
    exact_mod_cast Int.lt_zpow_succ_log_self (b := 2) (by norm_num) y
  have hq := log_le_quantum spec hy
  apply roundEven_le_of_le
  rw [div_le_iff₀ (zpow_pos (by norm_num) _), two_pow_mul_zpow]
  exact hlog.le.trans (zpow_le_zpow_right₀ (by norm_num) (by omega))

theorem le_roundEven_quantum {y : ℚ} (hy : 0 < y) (hq : spec.minExponent < quantum spec y) :
    2 ^ (spec.mantissaBits - 1) ≤ roundEven (y / 2 ^ quantum spec y) := by
  have hq' : quantum spec y + ((spec.mantissaBits - 1 : ℕ) : ℤ) = Int.log 2 y := by
    have := two_le_mantissaBits spec
    simp only [quantum, abs_of_pos hy, Format.targetExponent] at hq ⊢
    omega
  have hlog : 2 ^ Int.log 2 y ≤ y := by
    exact_mod_cast Int.zpow_log_le_self (b := 2) (by norm_num) hy
  apply le_roundEven_of_le
  rw [le_div_iff₀ (zpow_pos (by norm_num) _), two_pow_mul_zpow, hq']
  exact hlog

theorem roundNearest_le {y : ℚ} (hy : 0 < y) :
    roundNearest spec y ≤ 2 ^ (quantum spec y + spec.mantissaBits) := by
  rw [← two_pow_mul_zpow, roundNearest]
  exact mul_le_mul_of_nonneg_right (by exact_mod_cast roundEven_quantum_le spec hy)
    (zpow_pos (by norm_num) _).le

theorem le_roundNearest {y : ℚ} (hy : 0 < y) (hq : spec.minExponent < quantum spec y) :
    2 ^ (quantum spec y + spec.mantissaBits - 1) ≤ roundNearest spec y := by
  have hp := two_le_mantissaBits spec
  rw [show quantum spec y + spec.mantissaBits - 1 =
      quantum spec y + ((spec.mantissaBits - 1 : ℕ) : ℤ) by omega, ← two_pow_mul_zpow, roundNearest]
  exact mul_le_mul_of_nonneg_right (by exact_mod_cast le_roundEven_quantum spec hy hq)
    (zpow_pos (by norm_num) _).le

theorem roundNearest_mono_of_pos {y y' : ℚ} (hy : 0 < y) (h : y ≤ y') :
    roundNearest spec y ≤ roundNearest spec y' := by
  have hpow : (0 : ℚ) < 2 ^ quantum spec y := zpow_pos (by norm_num) _
  rcases (quantum_mono spec hy h).lt_or_eq with hlt | heq
  · have hmin : spec.minExponent < quantum spec y' :=
      lt_of_le_of_lt (minExponent_le_quantum spec y) hlt
    calc roundNearest spec y ≤ 2 ^ (quantum spec y + spec.mantissaBits) := roundNearest_le spec hy
      _ ≤ 2 ^ (quantum spec y' + spec.mantissaBits - 1) :=
          zpow_le_zpow_right₀ (by norm_num) (by omega)
      _ ≤ roundNearest spec y' := le_roundNearest spec (hy.trans_le h) hmin
  · unfold roundNearest
    rw [← heq]
    have hR : (roundEven (y / 2 ^ quantum spec y) : ℚ) ≤ roundEven (y' / 2 ^ quantum spec y) := by
      exact_mod_cast roundEven_mono (div_le_div_of_nonneg_right h hpow.le)
    exact mul_le_mul_of_nonneg_right hR hpow.le

theorem roundNearest_mono {y y' : ℚ} (h : y ≤ y') : roundNearest spec y ≤ roundNearest spec y' := by
  rcases lt_trichotomy 0 y with hy | rfl | hy
  · exact roundNearest_mono_of_pos spec hy h
  · rw [roundNearest_zero]
    exact roundNearest_nonneg spec h
  · have hneg := roundNearest_nonneg spec (neg_nonneg.2 hy.le)
    rw [roundNearest_neg] at hneg
    rcases le_or_gt 0 y' with hy' | hy'
    · linarith [roundNearest_nonneg spec hy']
    · have := roundNearest_mono_of_pos spec (neg_pos.2 hy') (neg_le_neg h)
      rw [roundNearest_neg, roundNearest_neg] at this
      linarith

end RoundNearest

/-! ### What the code's rounding computes -/

def sgn (s : Sign) : ℚ := s.apply 1

theorem sgn_mul_cast (s : Sign) (n : ℤ) : ((s.apply n : ℤ) : ℚ) = sgn s * n := by
  cases s <;> simp [Sign.apply, sgn]

section Code

variable (spec : Format)

theorem roundNearest_sgn (s : Sign) (y : ℚ) :
    roundNearest spec (sgn s * y) = sgn s * roundNearest spec y := by
  cases s <;> simp [sgn, Sign.apply, roundNearest_neg]

theorem log_mul_zpow {m : ℕ} (hm : 0 < m) {x : ℚ} (h₁ : (m : ℚ) ≤ x) (h₂ : x < m + 1) (e : ℤ) :
    Int.log 2 (x * 2 ^ e) = m.log2 + e := by
  have hpow : (0 : ℚ) < 2 ^ e := zpow_pos (by norm_num) e
  have hpos : 0 < x * 2 ^ e :=
    mul_pos (lt_of_lt_of_le (by exact_mod_cast hm) h₁) hpow
  have hlow : (2 : ℚ) ^ (m.log2 : ℤ) ≤ m := by
    rw [zpow_natCast]
    exact_mod_cast Nat.log2_self_le (Nat.pos_iff_ne_zero.1 hm)
  have hhigh : (m : ℚ) + 1 ≤ 2 ^ ((m.log2 : ℤ) + 1) := by
    rw [show (m.log2 : ℤ) + 1 = ((m.log2 + 1 : ℕ) : ℤ) by push_cast; rfl, zpow_natCast]
    exact_mod_cast Nat.lt_log2_self
  apply le_antisymm
  · have hlt : x * 2 ^ e < 2 ^ ((m.log2 : ℤ) + e + 1) := by
      rw [show (m.log2 : ℤ) + e + 1 = (m.log2 + 1) + e by ring, zpow_add₀ (by norm_num)]
      exact mul_lt_mul_of_pos_right (by linarith) hpow
    have := (Int.lt_zpow_iff_log_lt (b := 2) (by norm_num) hpos).1 (by exact_mod_cast hlt)
    omega
  · apply (Int.zpow_le_iff_le_log (b := 2) (by norm_num) hpos).1
    push_cast
    rw [zpow_add₀ (by norm_num)]
    exact mul_le_mul_of_nonneg_right (hlow.trans h₁) hpow.le

theorem targetExponent_eq_quantum {m : ℕ} {e : ℤ} {x : ℚ} (h₁ : (m : ℚ) ≤ x) (h₂ : x < m + 1)
    (hx : 0 < x) (he : e ≤ spec.targetExponent (totalExponent m e)) :
    spec.targetExponent (totalExponent m e) = quantum spec (x * 2 ^ e) := by
  have hpow : (0 : ℚ) < 2 ^ e := zpow_pos (by norm_num) e
  have hpos : 0 < x * 2 ^ e := mul_pos hx hpow
  have hp := two_le_mantissaBits spec
  rw [quantum, abs_of_pos hpos]
  rcases Nat.eq_zero_or_pos m with rfl | hm
  · have hlog : Int.log 2 (x * 2 ^ e) < e := by
      apply (Int.lt_zpow_iff_log_lt (b := 2) (by norm_num) hpos).1
      push_cast
      exact mul_lt_of_lt_one_left hpow (by simpa using h₂)
    simp only [totalExponent, Nat.log2_zero, Format.targetExponent] at he ⊢
    omega
  · rw [log_mul_zpow hm h₁ h₂ e, totalExponent]
    congr 1
    ring

theorem second_shift {R : ℕ} {t : ℤ} (hR : R ≤ 2 ^ spec.mantissaBits)
    (ht : spec.minExponent ≤ t) :
    (R < 2 ^ spec.mantissaBits ∧ (spec.targetExponent (totalExponent R t) - t).toNat = 0) ∨
      (R = 2 ^ spec.mantissaBits ∧
        (spec.targetExponent (totalExponent R t) - t).toNat = 1) := by
  have hp := two_le_mantissaBits spec
  rcases hR.lt_or_eq with hlt | heq
  · have hlog : R.log2 < spec.mantissaBits := by
      rcases Nat.eq_zero_or_pos R with rfl | hpos
      · rw [Nat.log2_zero]
        omega
      · exact (Nat.log2_lt (by omega)).2 hlt
    refine .inl ⟨hlt, ?_⟩
    simp only [totalExponent, Format.targetExponent]
    omega
  · refine .inr ⟨heq, ?_⟩
    simp only [heq, totalExponent, Nat.log2_two_pow, Format.targetExponent]
    omega

section Target

variable {m : ℕ} {e t : ℤ} {x : ℚ} (h₁ : (m : ℚ) ≤ x) (h₂ : x < m + 1) (he : e ≤ t)
  (ht : spec.targetExponent (totalExponent m e) = t)
include h₁ h₂ he ht

theorem roundEven_target_mul :
    (roundEven (x * 2 ^ e / 2 ^ t) : ℚ) * 2 ^ t = roundNearest spec (x * 2 ^ e) := by
  rcases (le_trans (Nat.cast_nonneg m) h₁).lt_or_eq with hpos | rfl
  · rw [roundNearest, ← ht, targetExponent_eq_quantum spec h₁ h₂ hpos (ht ▸ he)]
  · simp [roundEven]

theorem roundEven_target_le : roundEven (x * 2 ^ e / 2 ^ t) ≤ 2 ^ spec.mantissaBits := by
  rcases (le_trans (Nat.cast_nonneg m) h₁).lt_or_eq with hpos | rfl
  · rw [← ht, targetExponent_eq_quantum spec h₁ h₂ hpos (ht ▸ he)]
    exact roundEven_quantum_le spec (mul_pos hpos (zpow_pos two_pos e))
  · simp [roundEven]

theorem le_roundEven_target (hmin : spec.minExponent < t) :
    2 ^ spec.mantissaBitsWithoutImplicit ≤ roundEven (x * 2 ^ e / 2 ^ t) := by
  rcases (le_trans (Nat.cast_nonneg m) h₁).lt_or_eq with hpos | h0
  · rw [← ht, targetExponent_eq_quantum spec h₁ h₂ hpos (ht ▸ he)] at hmin ⊢
    have := le_roundEven_quantum spec (mul_pos hpos (zpow_pos two_pos e)) hmin
    rwa [show spec.mantissaBits - 1 = spec.mantissaBitsWithoutImplicit by
      simp [Format.mantissaBits]] at this
  · have hp := two_le_mantissaBits spec
    have hm : m = 0 := by exact_mod_cast le_antisymm (h0 ▸ h₁) (Nat.cast_nonneg m)
    rw [← ht] at hmin he
    simp only [hm, totalExponent, Nat.log2_zero, Format.targetExponent] at hmin he
    omega

end Target

theorem roundWithAccuracy_spec (s : Sign) {m : ℕ} {e : ℤ} {acc : Accuracy} {x : ℚ}
    (hx : Represents (.ofMantissaAndAccuracy m acc) x)
    (he : e ≤ spec.targetExponent (totalExponent m e)) :
    (roundWithAccuracy spec s m e acc).isFinite = true ∧
      Canonical spec (roundWithAccuracy spec s m e acc) ∧
      value (roundWithAccuracy spec s m e acc) = roundNearest spec (sgn s * (x * 2 ^ e)) := by
  have hp := two_le_mantissaBits spec
  obtain ⟨t, ht⟩ : ∃ t, spec.targetExponent (totalExponent m e) = t := ⟨_, rfl⟩
  have htmin : spec.minExponent ≤ t := ht ▸ le_max_right _ _
  obtain ⟨k, hk⟩ : ∃ k : ℕ, t = e + k := ⟨(t - e).toNat, by omega⟩
  obtain ⟨h₁, h₂⟩ := Int.floor_eq_iff.1 hx.floor
  rw [ofMantissaAndAccuracy_mantissa] at h₁ h₂
  push_cast at h₁ h₂
  have het : e ≤ t := ht ▸ he
  obtain ⟨R, hR⟩ : ∃ R, (ExtendedMantissa.ofMantissaAndAccuracy m acc >>> k).roundedMantissa = R :=
    ⟨_, rfl⟩
  have hRx : (R : ℤ) = roundEven (x * 2 ^ e / 2 ^ t) := by
    rw [← hR, (hx.shiftRight k).roundedMantissa, hk, zpow_add₀ two_ne_zero, zpow_natCast,
      mul_comm x, mul_div_mul_left _ _ (zpow_ne_zero e two_ne_zero)]
  have hRval : (R : ℚ) * 2 ^ t = roundNearest spec (x * 2 ^ e) := by
    rw [← roundEven_target_mul spec h₁ h₂ het ht, ← hRx, Int.cast_natCast]
  have hRle : R ≤ 2 ^ spec.mantissaBits := by
    have := roundEven_target_le spec h₁ h₂ het ht
    rw [← hRx] at this
    exact_mod_cast this
  have hnormal : spec.minExponent < t → 2 ^ spec.mantissaBitsWithoutImplicit ≤ R := by
    intro hmin
    have := le_roundEven_target spec h₁ h₂ het ht hmin
    rw [← hRx] at this
    exact_mod_cast this
  have hfirst : shiftToTargetExponent spec m e acc =
      (ExtendedMantissa.ofMantissaAndAccuracy m acc >>> k, t) := by
    rw [shiftToTargetExponent_eq acc (ht.trans hk), hk]
  unfold roundWithAccuracy
  rw [hfirst]
  simp only [hR, shiftToTargetExponent, shiftToExponent, ofMantissaAndAccuracy_exact,
    shiftRight_mantissa]
  rcases second_shift spec hRle htmin with ⟨hlt, hj⟩ | ⟨hReq, hj⟩
  · simp only [hj, pow_zero, Nat.div_one, Nat.cast_zero, add_zero]
    split_ifs with h0
    · refine ⟨rfl, trivial, ?_⟩
      rw [roundNearest_sgn, ← hRval, h0]
      simp [value]
    · refine ⟨rfl, ⟨htmin, hlt, hnormal⟩, ?_⟩
      rw [roundNearest_sgn, ← hRval, value, sgn_mul_cast]
      push_cast
      ring
  · subst hReq
    have hhalf : 2 ^ spec.mantissaBits / 2 ^ 1 = 2 ^ spec.mantissaBitsWithoutImplicit := by
      rw [Nat.pow_div (by omega) (by norm_num)]
      simp [Format.mantissaBits]
    simp only [hj, hhalf, Nat.cast_one]
    rw [dif_neg (by positivity)]
    refine ⟨rfl, ⟨by omega, ?_, fun _ => le_rfl⟩, ?_⟩
    · simp only [Format.mantissaBits]
      exact Nat.pow_lt_pow_right (by norm_num) (by omega)
    · rw [roundNearest_sgn, ← hRval, value, sgn_mul_cast, zpow_add₀ two_ne_zero]
      push_cast
      simp only [Format.mantissaBits, pow_add]
      ring

theorem log2_shiftLeft {m : ℕ} (hm : 0 < m) (j : ℕ) : (m <<< j).log2 = m.log2 + j := by
  have hlow : 2 ^ m.log2 ≤ m := Nat.log2_self_le (by omega)
  have hhigh : m < 2 ^ (m.log2 + 1) := Nat.lt_log2_self
  rw [Nat.shiftLeft_eq]
  apply log2_eq_of_bounds
  · rw [Nat.pow_add]
    exact Nat.mul_le_mul_right _ hlow
  · rw [show m.log2 + j + 1 = m.log2 + 1 + j by omega, Nat.pow_add]
    exact Nat.mul_lt_mul_of_pos_right hhigh (Nat.two_pow_pos j)

theorem round_spec (s : Sign) {m : ℕ} (hm : 0 < m) (e : ℤ) :
    (UnpackedFloat.round spec s m e).isFinite = true ∧
      Canonical spec (UnpackedFloat.round spec s m e) ∧
      value (UnpackedFloat.round spec s m e) = roundNearest spec (sgn s * (m * 2 ^ e)) := by
  obtain ⟨j, hj⟩ : ∃ j : ℕ, (e - spec.targetExponent (totalExponent m e)).toNat = j := ⟨_, rfl⟩
  have hexp : totalExponent (m <<< j) (e - j) = totalExponent m e := by
    simp only [totalExponent, log2_shiftLeft hm]
    push_cast
    ring
  have hle : e - j ≤ spec.targetExponent (totalExponent (m <<< j) (e - j)) := by
    rw [hexp]
    omega
  have hval : ((m <<< j : ℕ) : ℚ) * 2 ^ (e - j : ℤ) = m * 2 ^ e := by
    rw [Nat.shiftLeft_eq, zpow_sub₀ two_ne_zero, zpow_natCast]
    push_cast
    field_simp
  unfold UnpackedFloat.round decreaseExponent
  simp only [hj]
  rw [← hval]
  exact roundWithAccuracy_spec spec s (represents_exact _) hle

theorem normalize_spec (N E : ℤ) (z : Sign) :
    (UnpackedFloat.normalize spec N E z).isFinite = true ∧
      Canonical spec (UnpackedFloat.normalize spec N E z) ∧
      value (UnpackedFloat.normalize spec N E z) = roundNearest spec (N * 2 ^ E) := by
  unfold UnpackedFloat.normalize
  rcases lt_trichotomy N 0 with hN | rfl | hN
  · rw [(Int.compare_eq_lt).2 hN]
    have hcast : (((-N).toNat : ℕ) : ℚ) = -N := by exact_mod_cast Int.toNat_of_nonneg (by omega)
    have := round_spec spec .negative (m := (-N).toNat) (by omega) E
    rwa [hcast, show sgn .negative * (-(N : ℚ) * 2 ^ E) = N * 2 ^ E by
      simp [sgn, Sign.apply]] at this
  · exact ⟨rfl, trivial, by simp [value]⟩
  · rw [(Int.compare_eq_gt).2 hN]
    have hcast : ((N.toNat : ℕ) : ℚ) = N := by exact_mod_cast Int.toNat_of_nonneg (by omega)
    have := round_spec spec .positive (m := N.toNat) (by omega) E
    rwa [hcast, show sgn .positive * ((N : ℚ) * 2 ^ E) = N * 2 ^ E by
      simp [sgn, Sign.apply]] at this

end Code

end Rgbd.FloatModel
