import Rgbd.Proofs.Float.Rounding

/-!
Addition, subtraction, multiplication, division, absolute value and comparison of floats, read
as exact arithmetic.

On finite floats in canonical form, `add`, `sub`, `mul` and `div` yield the exact sum,
difference, product and quotient rounded to nearest, ties to even; `abs` is the absolute value
and `le` implies the order of the values. Canonical floats are their own rounding, so a
difference with zero is exact.
-/

namespace Rgbd.FloatModel

open Float.Model UnpackedFloat

theorem value_finite (s : Sign) (m : ℕ) (e : ℤ) (hm : 0 < m) :
    value (.finite s m e hm) = sgn s * (m * 2 ^ e) := by
  rw [value, sgn_mul_cast]
  push_cast
  ring

theorem value_positive (m : ℕ) (e : ℤ) (hm : 0 < m) :
    value (.finite .positive m e hm) = m * 2 ^ e := by
  simp [value_finite, sgn, Sign.apply]

theorem value_negative (m : ℕ) (e : ℤ) (hm : 0 < m) :
    value (.finite .negative m e hm) = -(m * 2 ^ e) := by
  simp [value_finite, sgn, Sign.apply]

theorem mantissa_mul_pos {m : ℕ} (hm : 0 < m) (e : ℤ) : (0 : ℚ) < m * 2 ^ e :=
  mul_pos (by exact_mod_cast hm) (zpow_pos two_pos e)

theorem sgn_neg (s : Sign) : sgn (-s) = -sgn s := by
  cases s <;> simp [sgn, Sign.apply]

theorem sgn_div (s₁ s₂ : Sign) : sgn (s₁ / s₂) = sgn s₁ / sgn s₂ := by
  cases s₁ <;> cases s₂ <;> norm_num [sgn, Sign.apply] <;> rfl

theorem sgn_mul (s₁ s₂ : Sign) : sgn (s₁ * s₂) = sgn s₁ * sgn s₂ := by
  cases s₁ <;> cases s₂ <;> norm_num [sgn, Sign.apply]

section Arith

variable (spec : Format)

theorem quantum_canonical {s : Sign} {m : ℕ} {e : ℤ} {hm : 0 < m}
    (c : Canonical spec (.finite s m e hm)) : quantum spec (m * 2 ^ e) = e := by
  obtain ⟨hmin, hlt, hnormal⟩ := c
  rw [quantum, abs_of_pos (mantissa_mul_pos hm e), log_mul_zpow hm le_rfl (by linarith) e]
  have hlog : m.log2 < spec.mantissaBits := (Nat.log2_lt (by omega)).2 hlt
  have hlog' : spec.minExponent < e → spec.mantissaBitsWithoutImplicit ≤ m.log2 := fun h =>
    (Nat.le_log2 (by omega)).2 (hnormal h)
  simp only [Format.targetExponent, Format.mantissaBits] at hlog ⊢
  omega

theorem roundNearest_value {u : UnpackedFloat} (hu : u.isFinite = true) (c : Canonical spec u) :
    roundNearest spec (value u) = value u := by
  cases u with
  | notANumber | infinity _ => simp [UnpackedFloat.isFinite] at hu
  | zero s => simp [value]
  | finite s m e hm =>
    rw [value_finite, roundNearest_sgn, roundNearest, quantum_canonical spec c,
      mul_div_cancel_right₀ _ (zpow_ne_zero e two_ne_zero)]
    rw [show (m : ℚ) = ((m : ℤ) : ℚ) by simp, roundEven_intCast]

/-! ### Subtraction -/

theorem shiftLeft_value (m : ℕ) {e t : ℤ} (h : t ≤ e) :
    ((m <<< (e - t).toNat : ℕ) : ℚ) * 2 ^ t = m * 2 ^ e := by
  rw [Nat.shiftLeft_eq]
  push_cast
  rw [← zpow_natCast, mul_assoc, ← zpow_add₀ two_ne_zero]
  congr 2
  omega

theorem sub_spec {u w : UnpackedFloat} (hu : u.isFinite = true) (hw : w.isFinite = true)
    (cu : Canonical spec u) (cw : Canonical spec w) :
    (UnpackedFloat.sub spec u w).isFinite = true ∧ Canonical spec (UnpackedFloat.sub spec u w) ∧
      value (UnpackedFloat.sub spec u w) = roundNearest spec (value u - value w) := by
  cases u with
  | notANumber | infinity _ => simp [UnpackedFloat.isFinite] at hu
  | zero s₁ =>
    cases w with
    | notANumber | infinity _ => simp [UnpackedFloat.isFinite] at hw
    | zero s₂ =>
      simp only [UnpackedFloat.sub]
      split <;> exact ⟨rfl, trivial, by simp [value]⟩
    | finite s₂ m₂ e₂ h₂ =>
      refine ⟨rfl, cw, ?_⟩
      rw [show value (.zero s₁) = 0 from rfl, zero_sub, roundNearest_neg,
        roundNearest_value spec hw cw]
      simp only [UnpackedFloat.sub, value_finite, sgn_neg]
      ring
  | finite s₁ m₁ e₁ h₁ =>
    cases w with
    | notANumber | infinity _ => simp [UnpackedFloat.isFinite] at hw
    | zero s₂ =>
      refine ⟨rfl, cu, ?_⟩
      rw [show value (.zero s₂) = 0 from rfl, sub_zero, roundNearest_value spec hu cu]
      rfl
    | finite s₂ m₂ e₂ h₂ =>
      simp only [UnpackedFloat.sub, decreaseExponent]
      refine (normalize_spec spec _ _ _).imp_right (And.imp_right fun h => h.trans ?_)
      congr 1
      rw [value_finite, value_finite, Int.cast_sub, sgn_mul_cast, sgn_mul_cast, Int.cast_natCast,
        Int.cast_natCast, sub_mul, mul_assoc, mul_assoc, shiftLeft_value m₁ (min_le_left e₁ e₂),
        shiftLeft_value m₂ (min_le_right e₁ e₂)]

theorem isFinite_of_sub {u w : UnpackedFloat} (h : (UnpackedFloat.sub spec u w).isFinite = true) :
    u.isFinite = true ∧ w.isFinite = true := by
  cases u <;> cases w <;> simp only [UnpackedFloat.sub] at h <;>
    (try split at h) <;> simp_all [UnpackedFloat.isFinite]

/-! ### Addition -/

theorem add_spec {u w : UnpackedFloat} (hu : u.isFinite = true) (hw : w.isFinite = true)
    (cu : Canonical spec u) (cw : Canonical spec w) :
    (UnpackedFloat.add spec u w).isFinite = true ∧ Canonical spec (UnpackedFloat.add spec u w) ∧
      value (UnpackedFloat.add spec u w) = roundNearest spec (value u + value w) := by
  cases u with
  | notANumber | infinity _ => simp [UnpackedFloat.isFinite] at hu
  | zero s₁ =>
    cases w with
    | notANumber | infinity _ => simp [UnpackedFloat.isFinite] at hw
    | zero s₂ =>
      simp only [UnpackedFloat.add]
      split <;> exact ⟨rfl, trivial, by simp [value]⟩
    | finite s₂ m₂ e₂ h₂ =>
      refine ⟨rfl, cw, ?_⟩
      rw [show value (.zero s₁) = 0 from rfl, zero_add, roundNearest_value spec hw cw]
      rfl
  | finite s₁ m₁ e₁ h₁ =>
    cases w with
    | notANumber | infinity _ => simp [UnpackedFloat.isFinite] at hw
    | zero s₂ =>
      refine ⟨rfl, cu, ?_⟩
      rw [show value (.zero s₂) = 0 from rfl, add_zero, roundNearest_value spec hu cu]
      rfl
    | finite s₂ m₂ e₂ h₂ =>
      simp only [UnpackedFloat.add, decreaseExponent]
      refine (normalize_spec spec _ _ _).imp_right (And.imp_right fun h => h.trans ?_)
      congr 1
      rw [value_finite, value_finite, Int.cast_add, sgn_mul_cast, sgn_mul_cast, Int.cast_natCast,
        Int.cast_natCast, add_mul, mul_assoc, mul_assoc, shiftLeft_value m₁ (min_le_left e₁ e₂),
        shiftLeft_value m₂ (min_le_right e₁ e₂)]

/-! ### Multiplication -/

theorem mul_exponent_le (heb : 2 ≤ spec.exponentBits) {s₁ s₂ : Sign} {m₁ m₂ : ℕ} {e₁ e₂ : ℤ}
    {h₁ : 0 < m₁} {h₂ : 0 < m₂} (c₁ : Canonical spec (.finite s₁ m₁ e₁ h₁))
    (c₂ : Canonical spec (.finite s₂ m₂ e₂ h₂)) :
    e₁ + e₂ ≤ spec.targetExponent (totalExponent (m₁ * m₂) (e₁ + e₂)) := by
  obtain ⟨hmin₁, -, hn₁⟩ := c₁
  obtain ⟨hmin₂, -, hn₂⟩ := c₂
  by_cases hsum : e₁ + e₂ ≤ spec.minExponent
  · exact hsum.trans (le_max_right _ _)
  have hp := two_le_mantissaBits spec
  have hneg : spec.minExponent < 0 := by
    have : (2 : ℤ) ≤ 2 ^ (spec.exponentBits - 1) :=
      le_self_pow₀ (by norm_num) (by omega)
    simp only [Format.minExponent]
    omega
  have hbig : 2 ^ spec.mantissaBitsWithoutImplicit ≤ m₁ * m₂ := by
    by_cases he₁ : spec.minExponent < e₁
    · exact (hn₁ he₁).trans (Nat.le_mul_of_pos_right m₁ h₂)
    · exact (hn₂ (by omega)).trans (Nat.le_mul_of_pos_left m₂ h₁)
  have hlog : spec.mantissaBitsWithoutImplicit ≤ (m₁ * m₂).log2 :=
    (Nat.le_log2 (Nat.mul_ne_zero (by omega) (by omega))).2 hbig
  simp only [Format.targetExponent, totalExponent, Format.mantissaBits]
  omega

theorem mul_spec (heb : 2 ≤ spec.exponentBits) {u w : UnpackedFloat} (hu : u.isFinite = true)
    (hw : w.isFinite = true) (cu : Canonical spec u) (cw : Canonical spec w) :
    (UnpackedFloat.mul spec u w).isFinite = true ∧ Canonical spec (UnpackedFloat.mul spec u w) ∧
      value (UnpackedFloat.mul spec u w) = roundNearest spec (value u * value w) := by
  cases u with
  | notANumber | infinity _ => simp [UnpackedFloat.isFinite] at hu
  | zero s₁ =>
    cases w with
    | notANumber | infinity _ => simp [UnpackedFloat.isFinite] at hw
    | zero s₂ | finite s₂ m₂ e₂ h₂ => exact ⟨rfl, trivial, by simp [UnpackedFloat.mul, value]⟩
  | finite s₁ m₁ e₁ h₁ =>
    cases w with
    | notANumber | infinity _ => simp [UnpackedFloat.isFinite] at hw
    | zero s₂ => exact ⟨rfl, trivial, by simp [UnpackedFloat.mul, value]⟩
    | finite s₂ m₂ e₂ h₂ =>
      obtain ⟨hfin, hcan, hval⟩ := roundWithAccuracy_spec spec (s₁ * s₂)
        (represents_exact (m₁ * m₂)) (mul_exponent_le spec heb cu cw)
      refine ⟨hfin, hcan, hval.trans ?_⟩
      congr 1
      rw [value_finite, value_finite, sgn_mul, zpow_add₀ two_ne_zero]
      push_cast
      ring

/-! ### Division -/

theorem divCore_exponent_le {m₁ m₂ : ℕ} (hm₁ : 0 < m₁) (hm₂ : 0 < m₂) (e₁ e₂ : ℤ) :
    let t := min (e₁ - e₂) (spec.targetExponent (totalExponent m₁ e₁ - totalExponent m₂ e₂))
    t ≤ spec.targetExponent (totalExponent ((m₁ <<< (e₁ - e₂ - t).toNat) / m₂) t) := by
  intro t
  by_cases hmin : t ≤ spec.minExponent
  · exact hmin.trans (le_max_right _ _)
  have hp := two_le_mantissaBits spec
  have hT : t + spec.mantissaBits ≤ totalExponent m₁ e₁ - totalExponent m₂ e₂ := by
    simp only [t, Format.targetExponent] at hmin ⊢
    omega
  obtain ⟨j, hj⟩ : ∃ j : ℕ, (e₁ - e₂ - t).toNat = j := ⟨_, rfl⟩
  have hjt : (j : ℤ) = e₁ - e₂ - t := by
    have : t ≤ e₁ - e₂ := min_le_left _ _
    omega
  have hq : 2 ^ (spec.mantissaBits - 1) ≤ (m₁ <<< j) / m₂ := by
    have hexp : spec.mantissaBits - 1 + (m₂.log2 + 1) ≤ m₁.log2 + j := by
      simp only [totalExponent] at hT
      omega
    rw [Nat.le_div_iff_mul_le hm₂, Nat.shiftLeft_eq]
    calc 2 ^ (spec.mantissaBits - 1) * m₂
        ≤ 2 ^ (spec.mantissaBits - 1) * 2 ^ (m₂.log2 + 1) :=
          Nat.mul_le_mul_left _ Nat.lt_log2_self.le
      _ ≤ 2 ^ m₁.log2 * 2 ^ j := by
          rw [← Nat.pow_add, ← Nat.pow_add]
          exact Nat.pow_le_pow_right (by norm_num) hexp
      _ ≤ m₁ * 2 ^ j := Nat.mul_le_mul_right _ (Nat.log2_self_le (by omega))
  have hlog : spec.mantissaBits - 1 ≤ ((m₁ <<< j) / m₂).log2 :=
    (Nat.le_log2 (by have := Nat.one_le_two_pow (n := spec.mantissaBits - 1); omega)).2 hq
  rw [hj]
  simp only [totalExponent, Format.targetExponent]
  omega

theorem div_spec {u : UnpackedFloat} (hu : u.isFinite = true) (s₂ : Sign) {m₂ : ℕ} (e₂ : ℤ)
    (h₂ : 0 < m₂) :
    (UnpackedFloat.div spec u (.finite s₂ m₂ e₂ h₂)).isFinite = true ∧
      Canonical spec (UnpackedFloat.div spec u (.finite s₂ m₂ e₂ h₂)) ∧
      value (UnpackedFloat.div spec u (.finite s₂ m₂ e₂ h₂)) =
        roundNearest spec (value u / value (.finite s₂ m₂ e₂ h₂)) := by
  cases u with
  | notANumber | infinity _ => simp [UnpackedFloat.isFinite] at hu
  | zero s₁ => exact ⟨rfl, trivial, by simp [UnpackedFloat.div, value]⟩
  | finite s₁ m₁ e₁ h₁ =>
    have hle := divCore_exponent_le spec h₁ h₂ e₁ e₂
    dsimp only at hle
    have ht : min (e₁ - e₂) (spec.targetExponent (totalExponent m₁ e₁ - totalExponent m₂ e₂)) ≤
        e₁ - e₂ := min_le_left _ _
    simp only [UnpackedFloat.div, divCore]
    generalize min (e₁ - e₂) (spec.targetExponent (totalExponent m₁ e₁ - totalExponent m₂ e₂)) = t
      at hle ht ⊢
    have hsh := shiftLeft_value m₁ ht
    generalize m₁ <<< (e₁ - e₂ - t).toNat = M at hle hsh ⊢
    have hrep := represents_fraction (M / m₂) (M % m₂) m₂ (Nat.mod_lt _ h₂)
    obtain ⟨hfin, hcan, hval⟩ := roundWithAccuracy_spec spec (s₁ / s₂) hrep hle
    refine ⟨hfin, hcan, hval.trans ?_⟩
    have hm₂ : (m₂ : ℚ) ≠ 0 := by exact_mod_cast h₂.ne'
    have hqr : ((M / m₂ : ℕ) : ℚ) + ((M % m₂ : ℕ) : ℚ) / m₂ = (M : ℚ) / m₂ := by
      rw [eq_div_iff hm₂, add_mul, div_mul_cancel₀ _ hm₂]
      exact_mod_cast Nat.div_add_mod' M m₂
    have hsgn : sgn s₂ ≠ 0 := by cases s₂ <;> norm_num [sgn, Sign.apply]
    congr 1
    rw [hqr, value_finite, value_finite, sgn_div]
    calc sgn s₁ / sgn s₂ * ((M : ℚ) / m₂ * 2 ^ t) = sgn s₁ / sgn s₂ * (M * 2 ^ t) / m₂ := by ring
      _ = sgn s₁ / sgn s₂ * (m₁ * 2 ^ (e₁ - e₂)) / m₂ := by rw [hsh]
      _ = sgn s₁ * (m₁ * 2 ^ e₁) / (sgn s₂ * (m₂ * 2 ^ e₂)) := by
        rw [zpow_sub₀ two_ne_zero]
        field_simp

theorem isFinite_of_div {u : UnpackedFloat} {s₂ : Sign} {m₂ : ℕ} {e₂ : ℤ} {h₂ : 0 < m₂}
    (h : (UnpackedFloat.div spec u (.finite s₂ m₂ e₂ h₂)).isFinite = true) : u.isFinite = true := by
  cases u <;> simp_all [UnpackedFloat.div, UnpackedFloat.isFinite]

/-! ### Absolute value and comparison -/

@[simp] theorem isFinite_abs (u : UnpackedFloat) : u.abs.isFinite = u.isFinite := by
  cases u <;> rfl

theorem abs_spec {u : UnpackedFloat} (c : Canonical spec u) (f : Fits spec u) :
    Canonical spec u.abs ∧ Fits spec u.abs ∧ value u.abs = |value u| := by
  cases u with
  | notANumber => exact ⟨trivial, trivial, by simp [UnpackedFloat.abs, value]⟩
  | infinity s => exact ⟨trivial, trivial, by simp [UnpackedFloat.abs, value]⟩
  | zero s => exact ⟨trivial, trivial, by simp [UnpackedFloat.abs, value]⟩
  | finite s m e hm =>
    refine ⟨c, f, ?_⟩
    have hpos := (mantissa_mul_pos hm e).le
    cases s
    · simp [UnpackedFloat.abs, value_negative, value_positive, abs_of_nonneg hpos]
    · simp [UnpackedFloat.abs, value_positive, abs_of_nonneg hpos]

theorem value_le_of_lex {m₁ m₂ : ℕ} {e₁ e₂ : ℤ} {h₁ : 0 < m₁} {h₂ : 0 < m₂}
    (c₁ : Canonical spec (.finite .positive m₁ e₁ h₁))
    (c₂ : Canonical spec (.finite .positive m₂ e₂ h₂))
    (h : (compare e₁ e₂).then (compare m₁ m₂) ≠ .gt) : (m₁ : ℚ) * 2 ^ e₁ ≤ m₂ * 2 ^ e₂ := by
  cases hx : (compare e₁ e₂).then (compare m₁ m₂) with
  | lt =>
    refine (value_lt_of_lt c₁ c₂ ?_).le
    simp [UnpackedFloat.lt, UnpackedFloat.compare, hx]
  | eq =>
    obtain ⟨he, hm⟩ := Ordering.then_eq_eq.1 hx
    rw [compare_eq_iff_eq.1 he, compare_eq_iff_eq.1 hm]
  | gt => exact absurd hx h

theorem value_le_of_le {u w : UnpackedFloat} (hu : u.isFinite = true) (hw : w.isFinite = true)
    (cu : Canonical spec u) (cw : Canonical spec w) (h : u.le w = true) : value u ≤ value w := by
  cases u with
  | notANumber | infinity _ => simp [UnpackedFloat.isFinite] at hu
  | zero s₁ =>
    cases w with
    | notANumber | infinity _ => simp [UnpackedFloat.isFinite] at hw
    | zero s₂ => simp [value]
    | finite s₂ m₂ e₂ h₂ =>
      cases s₂
      · simp [UnpackedFloat.le, UnpackedFloat.compare] at h
      · rw [value_positive]
        exact (mantissa_mul_pos h₂ e₂).le
  | finite s₁ m₁ e₁ h₁ =>
    cases w with
    | notANumber | infinity _ => simp [UnpackedFloat.isFinite] at hw
    | zero s₂ =>
      cases s₁
      · rw [value_negative]
        exact neg_nonpos.2 (mantissa_mul_pos h₁ e₁).le
      · simp [UnpackedFloat.le, UnpackedFloat.compare] at h
    | finite s₂ m₂ e₂ h₂ =>
      cases s₁ <;> cases s₂
      · have hswap : (compare e₂ e₁).then (compare m₂ m₁) ≠ .gt := by
          simp only [UnpackedFloat.le, UnpackedFloat.compare, Option.any_some,
            Ordering.isLE_swap] at h
          rw [← Int.compare_swap, ← Nat.compare_swap, ← Ordering.swap_then]
          intro hgt
          rw [← Ordering.swap_swap (o := (compare e₁ e₂).then (compare m₁ m₂)), hgt] at h
          simp at h
        rw [value_negative, value_negative, neg_le_neg_iff]
        exact @value_le_of_lex spec m₂ m₁ e₂ e₁ h₂ h₁ cw cu hswap
      · rw [value_negative, value_positive]
        linarith [mantissa_mul_pos h₁ e₁, mantissa_mul_pos h₂ e₂]
      · simp [UnpackedFloat.le, UnpackedFloat.compare] at h
      · have hle : (compare e₁ e₂).then (compare m₁ m₂) ≠ .gt := by
          simp only [UnpackedFloat.le, UnpackedFloat.compare, Option.any_some] at h
          intro hgt
          rw [hgt] at h
          simp at h
        rw [value_positive, value_positive]
        exact @value_le_of_lex spec m₁ m₂ e₁ e₂ h₁ h₂ cu cw hle

theorem zero_le_iff (s : Sign) {w : UnpackedFloat} (hw : w.isFinite = true) :
    (UnpackedFloat.zero s).le w = true ↔ 0 ≤ value w := by
  cases w with
  | notANumber | infinity _ => simp [UnpackedFloat.isFinite] at hw
  | zero s₂ => simp [UnpackedFloat.le, UnpackedFloat.compare, value]
  | finite s₂ m₂ e₂ h₂ =>
    have hpos := mantissa_mul_pos h₂ e₂
    cases s₂
    · simp [UnpackedFloat.le, UnpackedFloat.compare, value_negative, hpos]
    · simp [UnpackedFloat.le, UnpackedFloat.compare, value_positive, hpos.le]

end Arith

end Rgbd.FloatModel
