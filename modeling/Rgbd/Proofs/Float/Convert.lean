import Rgbd.Proofs.Float.Accuracy
import Rgbd.Proofs.Float.Binary32
import Rgbd.Proofs.Float.Binary64
import Rgbd.Filter.Disparity

/-!
# Quotients and conversions in binary32 and binary64

The operations the disparity converter chains, read as exact arithmetic:

* a quotient of finite floats below the overflow threshold is the exact quotient rounded, in
  either format (`Float32.div_value`, `Float.div_value`);
* a 16-bit word converts to binary32 exactly, and `Float32.widen` carries a finite binary32
  value to binary64 exactly;
* `Float.roundHalfAway` of a value within a half of a positive whole number `r` is `r`;
* `Float.minNum` against `65535` and truncation to a 16-bit word keep a whole value in
  `1 ..= 65535`.
-/

namespace Rgbd.FloatModel

open Float.Model UnpackedFloat

/-! ### Rounded results that fit the bits -/

theorem abs_value_finite (s : Sign) (m : ℕ) (e : ℤ) (hm : 0 < m) :
    |value (.finite s m e hm)| = m * 2 ^ e := by
  rw [value_finite, abs_mul, abs_of_pos (mantissa_mul_pos hm e)]
  cases s <;> simp [sgn, Sign.apply]

theorem eq_finite_positive {u : UnpackedFloat} (hu : u.isFinite = true) (hv : 0 < value u) :
    ∃ m e hm, u = .finite .positive m e hm := by
  cases u with
  | notANumber | infinity _ => simp [UnpackedFloat.isFinite] at hu
  | zero s => simp [value] at hv
  | finite s m e hm =>
    cases s with
    | negative =>
      rw [value_negative] at hv
      linarith [mantissa_mul_pos hm e]
    | positive => exact ⟨m, e, hm, rfl⟩

section Fit

variable (spec : Format)

theorem fits_of_abs_value_lt (heb : 2 ≤ spec.exponentBits) {u : UnpackedFloat}
    (c : Canonical spec u) (hv : |value u| < 2 ^ (2 ^ (spec.exponentBits - 1) : ℕ)) :
    Fits spec u := by
  cases u with
  | finite s m e hm =>
    exact fits_of_lt spec heb c (abs_value_finite s m e hm ▸ hv)
  | _ => trivial

theorem unpack_pack_of_lt (heb : 2 ≤ spec.exponentBits) {u : UnpackedFloat}
    (c : Canonical spec u) (hv : |value u| < 2 ^ (2 ^ (spec.exponentBits - 1) : ℕ)) :
    UnpackedFloat.unpack spec (UnpackedFloat.pack spec u) = u :=
  unpack_pack spec heb c (fits_of_abs_value_lt spec heb c hv)

end Fit

theorem Float32.abs_value_le_max (a : Float32) :
    |value a.toModel.unpack| ≤ (2 ^ 24 - 1) * 2 ^ (104 : ℤ) := by
  have c : Canonical .binary32 a.toModel.unpack := unpack_canonical _ _
  have f : Fits .binary32 a.toModel.unpack := unpack_fits _ (by decide) _
  generalize a.toModel.unpack = u at c f
  cases u with
  | finite s m e hm =>
    obtain ⟨-, hlt, -⟩ := c
    simp only [Fits, Format.exponentBias, Format.mantissaBits] at f hlt
    norm_num at f hlt
    have he : e ≤ 104 := by omega
    have hm' : (m : ℚ) ≤ 2 ^ 24 - 1 := by
      have : (m : ℚ) + 1 ≤ 2 ^ 24 := by exact_mod_cast hlt
      linarith
    rw [abs_value_finite]
    exact mul_le_mul hm' (zpow_le_zpow_right₀ (by norm_num) he) (zpow_pos two_pos e).le
      (by norm_num)
  | _ => norm_num [value]

theorem Float32.abs_value_lt (a : Float32) : |value a.toModel.unpack| < 2 ^ 128 :=
  (Float32.abs_value_le_max a).trans_lt (by norm_num)

theorem natAbs_apply (s : Sign) (n : ℕ) : (s.apply (n : ℤ)).natAbs = n := by
  cases s <;> simp [Sign.apply]

/-! ### Quotients -/

/-- A binary32 quotient of a finite float by a nonzero finite one is the exact quotient
rounded, as long as that rounding lies below the overflow threshold. -/
theorem Float32.div_value {a b : Float32} (ha : a.toModel.unpack.isFinite = true)
    {s : Sign} {m : ℕ} {e : ℤ} {hm : 0 < m} (hb : b.toModel.unpack = .finite s m e hm)
    (hlt : |roundNearest .binary32 (value a.toModel.unpack / value b.toModel.unpack)| < 2 ^ 128) :
    (a / b).toModel.unpack.isFinite = true ∧
      value (a / b).toModel.unpack =
        roundNearest .binary32 (value a.toModel.unpack / value b.toModel.unpack) := by
  have hpack : (a / b).toModel.unpack = UnpackedFloat.unpack .binary32 (UnpackedFloat.pack
      .binary32 (UnpackedFloat.div .binary32 a.toModel.unpack b.toModel.unpack)) := rfl
  obtain ⟨hfin, c, hval⟩ := div_spec .binary32 ha s e hm
  rw [← hb] at hfin c hval
  rw [hpack, unpack_pack_of_lt _ (by decide) c (by rw [hval]; norm_num; exact hlt)]
  exact ⟨hfin, hval⟩

/-- A binary64 quotient of a finite float by a nonzero finite one is the exact quotient
rounded, as long as that rounding lies below the overflow threshold. -/
theorem Float.div_value {a b : Float} (ha : a.toModel.unpack.isFinite = true)
    {s : Sign} {m : ℕ} {e : ℤ} {hm : 0 < m} (hb : b.toModel.unpack = .finite s m e hm)
    (hlt : |roundNearest .binary64 (value a.toModel.unpack / value b.toModel.unpack)| < 2 ^ 1024) :
    (a / b).toModel.unpack.isFinite = true ∧
      value (a / b).toModel.unpack =
        roundNearest .binary64 (value a.toModel.unpack / value b.toModel.unpack) := by
  have hpack : (a / b).toModel.unpack = UnpackedFloat.unpack .binary64 (UnpackedFloat.pack
      .binary64 (UnpackedFloat.div .binary64 a.toModel.unpack b.toModel.unpack)) := rfl
  obtain ⟨hfin, c, hval⟩ := div_spec .binary64 ha s e hm
  rw [← hb] at hfin c hval
  rw [hpack, unpack_pack_of_lt _ (by decide) c (by rw [hval]; norm_num; exact hlt)]
  exact ⟨hfin, hval⟩

/-! ### Sums and products -/

theorem Float32.mul_value {a b : Float32} (ha : a.toModel.unpack.isFinite = true)
    (hb : b.toModel.unpack.isFinite = true)
    (hlt : |roundNearest .binary32 (value a.toModel.unpack * value b.toModel.unpack)| < 2 ^ 128) :
    (a * b).toModel.unpack.isFinite = true ∧
      value (a * b).toModel.unpack =
        roundNearest .binary32 (value a.toModel.unpack * value b.toModel.unpack) := by
  have hpack : (a * b).toModel.unpack = UnpackedFloat.unpack .binary32 (UnpackedFloat.pack
      .binary32 (UnpackedFloat.mul .binary32 a.toModel.unpack b.toModel.unpack)) := rfl
  obtain ⟨hfin, c, hval⟩ :=
    mul_spec .binary32 (by decide) ha hb (unpack_canonical _ _) (unpack_canonical _ _)
  rw [hpack, unpack_pack_of_lt _ (by decide) c (by rw [hval]; norm_num; exact hlt)]
  exact ⟨hfin, hval⟩

theorem Float32.add_value {a b : Float32} (ha : a.toModel.unpack.isFinite = true)
    (hb : b.toModel.unpack.isFinite = true)
    (hlt : |roundNearest .binary32 (value a.toModel.unpack + value b.toModel.unpack)| < 2 ^ 128) :
    (a + b).toModel.unpack.isFinite = true ∧
      value (a + b).toModel.unpack =
        roundNearest .binary32 (value a.toModel.unpack + value b.toModel.unpack) := by
  have hpack : (a + b).toModel.unpack = UnpackedFloat.unpack .binary32 (UnpackedFloat.pack
      .binary32 (UnpackedFloat.add .binary32 a.toModel.unpack b.toModel.unpack)) := rfl
  obtain ⟨hfin, c, hval⟩ :=
    add_spec .binary32 ha hb (unpack_canonical _ _) (unpack_canonical _ _)
  rw [hpack, unpack_pack_of_lt _ (by decide) c (by rw [hval]; norm_num; exact hlt)]
  exact ⟨hfin, hval⟩

theorem Float32.mul_value_of_isFinite {a b : Float32} (ha : a.toModel.unpack.isFinite = true)
    (hb : b.toModel.unpack.isFinite = true) (h : (a * b).toModel.unpack.isFinite = true) :
    value (a * b).toModel.unpack =
      roundNearest .binary32 (value a.toModel.unpack * value b.toModel.unpack) := by
  have hpack : (a * b).toModel.unpack = UnpackedFloat.unpack .binary32 (UnpackedFloat.pack
      .binary32 (UnpackedFloat.mul .binary32 a.toModel.unpack b.toModel.unpack)) := rfl
  obtain ⟨-, c, hval⟩ :=
    mul_spec .binary32 (by decide) ha hb (unpack_canonical _ _) (unpack_canonical _ _)
  rw [hpack] at h ⊢
  rw [unpack_pack_of_isFinite _ (by decide) c h, hval]

theorem Float32.add_value_of_isFinite {a b : Float32} (ha : a.toModel.unpack.isFinite = true)
    (hb : b.toModel.unpack.isFinite = true) (h : (a + b).toModel.unpack.isFinite = true) :
    value (a + b).toModel.unpack =
      roundNearest .binary32 (value a.toModel.unpack + value b.toModel.unpack) := by
  have hpack : (a + b).toModel.unpack = UnpackedFloat.unpack .binary32 (UnpackedFloat.pack
      .binary32 (UnpackedFloat.add .binary32 a.toModel.unpack b.toModel.unpack)) := rfl
  obtain ⟨-, c, hval⟩ := add_spec .binary32 ha hb (unpack_canonical _ _) (unpack_canonical _ _)
  rw [hpack] at h ⊢
  rw [unpack_pack_of_isFinite _ (by decide) c h, hval]

/-! ### Conversions -/

theorem UInt16.toFloat32_value (n : UInt16) :
    n.toFloat32.toModel.unpack.isFinite = true ∧ value n.toFloat32.toModel.unpack = n.toNat := by
  have hpack : n.toFloat32.toModel.unpack = UnpackedFloat.unpack .binary32 (UnpackedFloat.pack
      .binary32 (UnpackedFloat.normalize .binary32 (n.toNat : ℤ) 0 .positive)) := rfl
  obtain ⟨hfin, c, hval⟩ := normalize_spec .binary32 (n.toNat : ℤ) 0 .positive
  have hn : n.toNat < 2 ^ 16 := n.toNat_lt
  have hexact : roundNearest .binary32 ((n.toNat : ℤ) * 2 ^ (0 : ℤ)) = n.toNat := by
    have hk : (n.toNat : ℤ).natAbs < 2 ^ Format.binary32.mantissaBits := by
      rw [Int.natAbs_natCast]
      exact hn.trans (by decide)
    rw [roundNearest_intCast_mul .binary32 hk (by decide)]
    simp
  rw [hexact] at hval
  have hv : |value (UnpackedFloat.normalize .binary32 (n.toNat : ℤ) 0 .positive)| < 2 ^ 128 := by
    rw [hval, abs_of_nonneg (Nat.cast_nonneg _)]
    exact_mod_cast hn.trans (by decide)
  rw [hpack, unpack_pack_of_lt _ (by decide) c hv]
  exact ⟨hfin, hval⟩

theorem Float32.widen_value {a : Float32} (ha : a.toModel.unpack.isFinite = true) :
    (Float32.widen a).toModel.unpack.isFinite = true ∧
      value (Float32.widen a).toModel.unpack = value a.toModel.unpack := by
  have c₃₂ : Canonical .binary32 a.toModel.unpack := unpack_canonical _ _
  have hlt := Float32.abs_value_lt a
  cases hu : a.toModel.unpack with
  | finite s m e hm =>
    have hpack : (Float32.widen a).toModel.unpack =
        UnpackedFloat.unpack .binary64 (UnpackedFloat.pack .binary64
          (UnpackedFloat.round .binary64 s m e)) := by
      simp only [Float32.widen, hu]
      rfl
    rw [hu] at c₃₂ hlt
    obtain ⟨hmin, hm₂₄, -⟩ := c₃₂
    obtain ⟨hfin, c, hval⟩ := round_spec .binary64 s hm e
    have hexact : roundNearest .binary64 (sgn s * (m * 2 ^ e)) = sgn s * (m * 2 ^ e) := by
      have := @roundNearest_intCast_mul .binary64 (s.apply m) e
        (by rw [natAbs_apply]; exact hm₂₄.trans (by decide))
        (le_trans (by decide) hmin)
      rwa [sgn_mul_cast, mul_assoc] at this
    rw [hexact, ← value_finite s m e hm] at hval
    rw [hpack, unpack_pack_of_lt _ (by decide) c (by
      rw [hval]
      exact hlt.trans (pow_lt_pow_right₀ (by norm_num) (by decide))), hval]
    exact ⟨hfin, rfl⟩
  | zero s =>
    have hpack : (Float32.widen a).toModel.unpack =
        UnpackedFloat.unpack .binary64 (UnpackedFloat.pack .binary64 (.zero s)) := by
      simp only [Float32.widen, hu]
      rfl
    rw [hpack, unpack_pack_zero]
    exact ⟨rfl, rfl⟩
  | notANumber | infinity _ => simp [hu, UnpackedFloat.isFinite] at ha

/-! ### Rounding to a whole number -/

theorem floor_add_half_of_near {x : ℚ} {r : ℤ} (h : |x - r| < 1 / 2) : ⌊x + 1 / 2⌋ = r := by
  rw [Int.floor_eq_iff]
  rw [abs_lt] at h
  constructor <;> linarith [h.1, h.2]

theorem Float.roundHalfAway_of_nonneg {y : Float} {s : Sign} {m : ℕ} {e : ℤ} {hm : 0 < m}
    (hu : y.toModel.unpack = .finite s m e hm) (he : 0 ≤ e) : Float.roundHalfAway y = y := by
  unfold Float.roundHalfAway
  simp [hu, he]

theorem Float.roundHalfAway_unpack {y : Float} {m : ℕ} {e : ℤ} {hm : 0 < m}
    (hu : y.toModel.unpack = .finite .positive m e hm) (he : e < 0) :
    (Float.roundHalfAway y).toModel.unpack = UnpackedFloat.unpack .binary64 (UnpackedFloat.pack
      .binary64 (UnpackedFloat.normalize .binary64 ⌊(m : ℚ) * 2 ^ e + 1 / 2⌋ 0 .positive)) := by
  obtain ⟨k, hk⟩ : ∃ k : ℕ, -e = k + 1 := ⟨(-e - 1).toNat, by omega⟩
  have hq : UnpackedFloat.Sign.positive.apply
      (((m + (1 <<< ((-e).toNat - 1))) >>> (-e).toNat : ℕ) : ℤ) = ⌊(m : ℚ) * 2 ^ e + 1 / 2⌋ := by
    have htn : (-e).toNat = k + 1 := by omega
    have hx : (m : ℚ) * 2 ^ e + 1 / 2 = ((m + 2 ^ k : ℕ) : ℚ) / ((2 ^ (k + 1) : ℕ) : ℚ) := by
      rw [show e = -((k + 1 : ℕ) : ℤ) by omega, zpow_neg, zpow_natCast]
      push_cast
      field_simp
      ring
    have happly (n : ℤ) : UnpackedFloat.Sign.positive.apply n = n := rfl
    rw [happly, htn, Nat.add_sub_cancel, Nat.shiftLeft_eq, one_mul, Nat.shiftRight_eq_div_pow,
      Int.natCast_div, ← Rat.floor_natCast_div_natCast, ← hx]
  unfold Float.roundHalfAway
  simp only [hu, if_neg (not_le.2 he), hq]
  rfl

theorem unpack_normalize_whole {n : ℕ} (hn : n < 2 ^ 53) :
    (UnpackedFloat.unpack .binary64 (UnpackedFloat.pack .binary64
      (UnpackedFloat.normalize .binary64 n 0 .positive))).isFinite = true ∧
    value (UnpackedFloat.unpack .binary64 (UnpackedFloat.pack .binary64
      (UnpackedFloat.normalize .binary64 n 0 .positive))) = n := by
  obtain ⟨hfin, c, hval⟩ := normalize_spec .binary64 (n : ℤ) 0 .positive
  have hk : (n : ℤ).natAbs < 2 ^ Format.binary64.mantissaBits := by
    rw [Int.natAbs_natCast]
    exact hn.trans_le (by decide)
  rw [roundNearest_intCast_mul .binary64 hk (by decide), zpow_zero, mul_one] at hval
  have hv : |value (UnpackedFloat.normalize .binary64 (n : ℤ) 0 .positive)| < 2 ^ 53 := by
    rw [hval, abs_of_nonneg (by positivity)]
    exact_mod_cast hn
  rw [unpack_pack_of_lt _ (by decide) c (hv.trans (pow_lt_pow_right₀ (by norm_num) (by decide)))]
  exact ⟨hfin, by exact_mod_cast hval⟩

theorem Float.roundHalfAway_value {y : Float} (hy : y.toModel.unpack.isFinite = true) {r : ℕ}
    (hr₀ : 0 < r) (hr : r < 2 ^ 53) (h : |value y.toModel.unpack - r| < 1 / 2) :
    (Float.roundHalfAway y).toModel.unpack.isFinite = true ∧
      value (Float.roundHalfAway y).toModel.unpack = r := by
  have hr₁ : (1 : ℚ) ≤ r := by exact_mod_cast hr₀
  obtain ⟨m, e, hm, hu⟩ := eq_finite_positive hy (by rw [abs_lt] at h; linarith [h.1])
  rw [hu, value_positive] at h
  have hnear : |(m : ℚ) * 2 ^ e - (r : ℤ)| < 1 / 2 := by
    rw [Int.cast_natCast]
    exact h
  by_cases he : 0 ≤ e
  · have hint : (m : ℚ) * 2 ^ e = ((m * 2 ^ e.toNat : ℕ) : ℤ) := by
      push_cast
      rw [← zpow_natCast, Int.toNat_of_nonneg he]
    have hfloor := floor_add_half_of_near hnear
    rw [hint, Int.floor_intCast_add, show ⌊(1 / 2 : ℚ)⌋ = 0 by norm_num] at hfloor
    rw [Float.roundHalfAway_of_nonneg hu he, hu, value_positive, hint]
    exact ⟨rfl, by exact_mod_cast hfloor⟩
  · rw [Float.roundHalfAway_unpack hu (not_le.1 he), floor_add_half_of_near hnear]
    exact unpack_normalize_whole hr

theorem Float.roundHalfAway_one_le {y : Float} (hy : y.toModel.unpack.isFinite = true)
    (h : 1 / 2 ≤ value y.toModel.unpack) :
    (Float.roundHalfAway y).toModel.unpack.isFinite = true ∧
      1 ≤ value (Float.roundHalfAway y).toModel.unpack := by
  have c := canonical_toModel y
  obtain ⟨m, e, hm, hu⟩ := eq_finite_positive hy (by linarith)
  rw [hu, value_positive] at h
  rw [hu] at c
  by_cases he : 0 ≤ e
  · rw [Float.roundHalfAway_of_nonneg hu he, hu, value_positive]
    exact ⟨rfl, one_le_mul_of_one_le_of_one_le (by exact_mod_cast hm) (one_le_zpow₀ one_le_two he)⟩
  · obtain ⟨-, hm₅₃, -⟩ := c
    have hm' : (m : ℚ) < 2 ^ 53 := by exact_mod_cast hm₅₃
    have hhalf : (2 : ℚ) ^ e ≤ 1 / 2 := by
      calc (2 : ℚ) ^ e ≤ 2 ^ (-1 : ℤ) := zpow_le_zpow_right₀ one_le_two (by omega)
        _ = 1 / 2 := by norm_num
    have hn₁ : 1 ≤ ⌊(m : ℚ) * 2 ^ e + 1 / 2⌋ := Int.le_floor.2 (by push_cast; linarith)
    have hn₂ : ⌊(m : ℚ) * 2 ^ e + 1 / 2⌋ < 2 ^ 53 := by
      rw [Int.floor_lt]
      push_cast
      nlinarith [zpow_pos (two_pos : (0 : ℚ) < 2) e]
    obtain ⟨n, hn⟩ : ∃ n : ℕ, ⌊(m : ℚ) * 2 ^ e + 1 / 2⌋ = n := ⟨_, (Int.toNat_of_nonneg (by omega)).symm⟩
    rw [hn] at hn₁ hn₂
    obtain ⟨hfin, hval⟩ := unpack_normalize_whole (n := n) (by exact_mod_cast hn₂)
    rw [Float.roundHalfAway_unpack hu (not_le.1 he), hn]
    exact ⟨hfin, by rw [hval]; exact_mod_cast hn₁⟩

/-! ### Comparing and truncating -/

theorem Float32.zero_lt_of_value_pos {a : Float32} (ha : a.toModel.unpack.isFinite = true)
    (hv : 0 < value a.toModel.unpack) : 0 < a := by
  obtain ⟨m, e, hm, hu⟩ := eq_finite_positive ha hv
  rw [Float32.lt_iff, hu]
  rfl

theorem Float.minNum_of_le {a b : Float} {m₁ m₂ : ℕ} {e₁ e₂ : ℤ} {h₁ : 0 < m₁} {h₂ : 0 < m₂}
    (ha : a.toModel.unpack = .finite .positive m₁ e₁ h₁)
    (hb : b.toModel.unpack = .finite .positive m₂ e₂ h₂)
    (h : (m₁ : ℚ) * 2 ^ e₁ ≤ m₂ * 2 ^ e₂) : Float.minNum a b = a := by
  have hba : ¬ b < a := by
    rw [lt_iff_unpack, ha, hb]
    intro hlt
    have := value_lt_of_lt (hb ▸ canonical_toModel b) (ha ▸ canonical_toModel a) hlt
    linarith
  have hna : a.isNaN = false := by
    rw [show a.isNaN = a.toModel.unpack.isNaN from rfl, ha]
    rfl
  have hnb : b.isNaN = false := by
    rw [show b.isNaN = b.toModel.unpack.isNaN from rfl, hb]
    rfl
  simp only [Float.minNum, hna, hnb, Bool.false_eq_true, if_false, if_neg hba]

theorem Float.toUInt16_of_finite {y : Float} {m : ℕ} {e : ℤ} {hm : 0 < m}
    (hy : y.toModel.unpack = .finite .positive m e hm) :
    y.toUInt16 = UInt16.ofNatClamp ⌊(m : ℚ) * 2 ^ e⌋.toNat := by
  rw [show y.toUInt16 = UInt16.ofNatClamp (y.toModel.unpack.toInt 0 (UInt16.size - 1)).toNat
    from rfl, hy]
  simp only [UnpackedFloat.toInt, roundToInt_eq_floor]

theorem Float.minNum_eq_or (a b : Float) : Float.minNum a b = a ∨ Float.minNum a b = b := by
  unfold Float.minNum
  split_ifs <;> simp

theorem Float.toUInt16_ne_zero {y : Float} {m : ℕ} {e : ℤ} {hm : 0 < m}
    (hy : y.toModel.unpack = .finite .positive m e hm) (h : 1 ≤ (m : ℚ) * 2 ^ e) :
    y.toUInt16 ≠ 0 := by
  have hn : 1 ≤ ⌊(m : ℚ) * 2 ^ e⌋.toNat := by
    have : 1 ≤ ⌊(m : ℚ) * 2 ^ e⌋ := Int.le_floor.2 (by exact_mod_cast h)
    omega
  rw [Float.toUInt16_of_finite hy]
  unfold UInt16.ofNatClamp
  split_ifs with hs
  · intro h0
    have := congrArg UInt16.toNat h0
    simp only [UInt16.toNat_ofNatLT, UInt16.toNat_zero] at this
    omega
  · decide

end Rgbd.FloatModel
