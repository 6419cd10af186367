import Rgbd.Proofs.Float.Convert
import Rgbd.Proofs.Raster
import Rgbd.Filter.Chain

/-!
# Depth survives the trip through disparity

The way to disparity divides the factor `F` by the depth in binary32; the way back divides `F`
by the disparity in binary64, rounds half away from zero and saturates to 16 bits. When every
quotient `F / raw` is a normal binary32 number (`F` finite and at least `65535 · 2 ^ -126`),
the first division is off by a relative `2 ^ -24` at most, so `F` over it lands within
`raw / (2 ^ 24 - 1) < 1 / 4` of `raw`, and the binary64 division adds a relative `2 ^ -53`:
rounding recovers `raw`. Depth zero maps to disparity zero and back.

So converting a depth image to disparity and back gives it back bit for bit, and a filter
chain with both smoothing stages off returns every frame unchanged.
-/

namespace Rgbd.DisparityConverter

open FloatModel Float.Model UnpackedFloat

theorem le_of_relative {q y : ℚ} (hq : |q - y| ≤ y / 2 ^ 24) : y * (2 ^ 24 - 1) / 2 ^ 24 ≤ q := by
  rw [abs_le] at hq
  linarith [hq.1]

theorem div_near_of_relative {F r q : ℚ} (hF : 0 < F) (hr : 0 < r)
    (hq : |q - F / r| ≤ F / r / 2 ^ 24) : |F / q - r| ≤ r / (2 ^ 24 - 1) := by
  set y := F / r with hy_def
  have hy : 0 < y := div_pos hF hr
  have hq_low := le_of_relative hq
  have hq_pos : 0 < q := lt_of_lt_of_le (by positivity) hq_low
  have hr_eq : r = F / y := by
    rw [hy_def]
    field_simp
  calc |F / q - r| = F * |q - y| / (q * y) := by
        rw [hr_eq, div_sub_div _ _ hq_pos.ne' hy.ne', abs_div, abs_of_pos (mul_pos hq_pos hy),
          show F * y - q * F = F * (y - q) by ring, abs_mul, abs_of_pos hF, abs_sub_comm]
    _ ≤ F * (y / 2 ^ 24) / (q * y) := by gcongr
    _ = F / (2 ^ 24 * q) := by
        field_simp
    _ ≤ F / (2 ^ 24 * (y * (2 ^ 24 - 1) / 2 ^ 24)) := by gcongr
    _ = r / (2 ^ 24 - 1) := by
        rw [hr_eq]
        field_simp

theorem toNat_pos_of_ne_zero {raw : UInt16} (h0 : raw ≠ 0) : 0 < raw.toNat := by
  rw [Nat.pos_iff_ne_zero, Ne, ← UInt16.toNat_zero, UInt16.toNat_inj]
  exact h0

variable (c : DisparityConverter)

@[simp] theorem disparityOf_zero : c.disparityOf 0 = 0 := rfl

@[simp] theorem depthOf_zero : c.depthOf 0 = 0 := by
  have hzero : ¬ ((0 : Float32) > 0) := by decide
  simp [depthOf, hzero]

theorem quotient_value (hfin : c.factor.toModel.unpack.isFinite = true) {d : Float32}
    (hd : d.toModel.unpack.isFinite = true) (hD : 0 < value d.toModel.unpack)
    (hlt : |roundNearest .binary64 (value c.factor.toModel.unpack / value d.toModel.unpack)| <
      2 ^ 1024) :
    (Float32.widen c.factor / Float32.widen d).toModel.unpack.isFinite = true ∧
      value (Float32.widen c.factor / Float32.widen d).toModel.unpack =
        roundNearest .binary64 (value c.factor.toModel.unpack / value d.toModel.unpack) := by
  obtain ⟨hwF, hvF⟩ := Float32.widen_value hfin
  obtain ⟨hwd, hvd⟩ := Float32.widen_value hd
  obtain ⟨m, e, hm, hu⟩ := eq_finite_positive hwd (hvd ▸ hD)
  obtain ⟨hqfin, hqv⟩ := Float.div_value hwF hu (by rw [hvF, hvd]; exact hlt)
  rw [hvF, hvd] at hqv
  exact ⟨hqfin, hqv⟩

theorem depthOf_eq_of_near (hfin : c.factor.toModel.unpack.isFinite = true) {d : Float32}
    (hd : d.toModel.unpack.isFinite = true) (hD : 0 < value d.toModel.unpack)
    {r : ℕ} (hr₀ : 0 < r) (hr : r ≤ 65535)
    (hnear : |value c.factor.toModel.unpack / value d.toModel.unpack - r| ≤ 1 / 4) :
    c.depthOf d = UInt16.ofNat r := by
  set x := value c.factor.toModel.unpack / value d.toModel.unpack with hx_def
  have hr₁ : (1 : ℚ) ≤ r := by exact_mod_cast hr₀
  have hr₂ : (r : ℚ) ≤ 65535 := by exact_mod_cast hr
  rw [abs_le] at hnear
  have hx_low : 3 / 4 ≤ x := by linarith [hnear.1]
  have hx_high : x ≤ 65536 := by linarith [hnear.2]
  have herr : |roundNearest .binary64 x - x| ≤ x / 2 ^ 53 := by
    have hnormal : (2 : ℚ) ^ (Format.binary64.minExponent + Format.binary64.mantissaBits - 1)
        ≤ |x| := by
      rw [abs_of_pos (by linarith)]
      calc (2 : ℚ) ^ (Format.binary64.minExponent + Format.binary64.mantissaBits - 1)
          ≤ 2 ^ (-1 : ℤ) := zpow_le_zpow_right₀ one_le_two (by decide)
        _ ≤ x := by norm_num; linarith
    simpa [abs_of_pos (show 0 < x by linarith), Format.mantissaBits] using
      abs_roundNearest_sub_le_of_normal .binary64 hnormal
  have hz : |roundNearest .binary64 x - r| < 1 / 2 := by
    rw [abs_le] at herr
    rw [abs_lt]
    constructor <;> linarith [herr.1, herr.2]
  have hz_lt : |roundNearest .binary64 x| < 2 ^ 1024 := by
    have : |roundNearest .binary64 x| < 2 ^ 17 := by
      rw [abs_lt] at hz ⊢
      constructor <;> linarith [hz.1, hz.2]
    exact this.trans (pow_lt_pow_right₀ (by norm_num) (by norm_num))
  obtain ⟨hqfin, hqv⟩ := c.quotient_value hfin hd hD hz_lt
  obtain ⟨hrfin, hrv⟩ := Float.roundHalfAway_value hqfin hr₀ (by omega) (by rw [hqv]; exact hz)
  obtain ⟨m', e', hm', hu'⟩ := eq_finite_positive hrfin (by rw [hrv]; positivity)
  rw [hu', value_positive] at hrv
  have hmin := Float.minNum_of_le hu'
    (show (65535 : Float).toModel.unpack = .finite .positive (65535 * 2 ^ 37) (-37) (by decide)
      from rfl)
    (by rw [hrv]; norm_num; exact hr)
  unfold depthOf
  rw [if_pos (Float32.zero_lt_of_value_pos hd hD), hmin, Float.toUInt16_of_finite hu', hrv,
    Int.floor_natCast, Int.toNat_natCast, UInt16.ofNatClamp_eq_ofNat r (by simp [UInt16.size]; omega)]

theorem quotient_bounds (hF : (65535 : ℚ) * 2 ^ (-126 : ℤ) ≤ value c.factor.toModel.unpack)
    {raw : UInt16} (h0 : raw ≠ 0) :
    2 ^ (-126 : ℤ) ≤ value c.factor.toModel.unpack / raw.toNat ∧
      value c.factor.toModel.unpack / raw.toNat ≤ value c.factor.toModel.unpack := by
  have hr₁ : (1 : ℚ) ≤ raw.toNat := by exact_mod_cast toNat_pos_of_ne_zero h0
  have hr₂ : (raw.toNat : ℚ) ≤ 65535 := by
    have := raw.toNat_lt
    exact_mod_cast (show raw.toNat ≤ 65535 by omega)
  have hFpos : 0 < value c.factor.toModel.unpack := lt_of_lt_of_le (by positivity) hF
  refine ⟨?_, div_le_self hFpos.le hr₁⟩
  rw [le_div_iff₀ (by positivity)]
  calc (2 : ℚ) ^ (-126 : ℤ) * raw.toNat ≤ 2 ^ (-126 : ℤ) * 65535 := by gcongr
    _ = 65535 * 2 ^ (-126 : ℤ) := mul_comm _ _
    _ ≤ value c.factor.toModel.unpack := hF

theorem disparityOf_value (hfin : c.factor.toModel.unpack.isFinite = true)
    (hF : (65535 : ℚ) * 2 ^ (-126 : ℤ) ≤ value c.factor.toModel.unpack)
    {raw : UInt16} (h0 : raw ≠ 0) :
    (c.disparityOf raw).toModel.unpack.isFinite = true ∧
      value (c.disparityOf raw).toModel.unpack =
        roundNearest .binary32 (value c.factor.toModel.unpack / raw.toNat) := by
  obtain ⟨hlo, hhi⟩ := c.quotient_bounds hF h0
  have hy : 0 < value c.factor.toModel.unpack / raw.toNat := lt_of_lt_of_le (by positivity) hlo
  have hq_le : roundNearest .binary32 (value c.factor.toModel.unpack / raw.toNat) ≤
      value c.factor.toModel.unpack :=
    (roundNearest_mono .binary32 hhi).trans_eq
      (roundNearest_value .binary32 hfin (unpack_canonical _ _))
  have hq_lt : |roundNearest .binary32 (value c.factor.toModel.unpack / raw.toNat)| < 2 ^ 128 := by
    rw [abs_of_nonneg (roundNearest_nonneg .binary32 hy.le)]
    exact lt_of_le_of_lt hq_le (lt_of_abs_lt (Float32.abs_value_lt c.factor))
  obtain ⟨hrfin, hrv⟩ := UInt16.toFloat32_value raw
  obtain ⟨m, e, hm, hu⟩ := eq_finite_positive hrfin
    (by rw [hrv]; exact_mod_cast toNat_pos_of_ne_zero h0)
  obtain ⟨hdfin, hdv⟩ := Float32.div_value hfin hu (by rw [hrv]; exact hq_lt)
  rw [hrv] at hdv
  simp only [disparityOf, if_neg h0]
  exact ⟨hdfin, hdv⟩

theorem disparityOf_near (hfin : c.factor.toModel.unpack.isFinite = true)
    (hF : (65535 : ℚ) * 2 ^ (-126 : ℤ) ≤ value c.factor.toModel.unpack)
    {raw : UInt16} (h0 : raw ≠ 0) :
    (c.disparityOf raw).toModel.unpack.isFinite = true ∧
      |value (c.disparityOf raw).toModel.unpack - value c.factor.toModel.unpack / raw.toNat| ≤
        value c.factor.toModel.unpack / raw.toNat / 2 ^ 24 := by
  obtain ⟨hlo, -⟩ := c.quotient_bounds hF h0
  obtain ⟨hdfin, hdv⟩ := c.disparityOf_value hfin hF h0
  have hy : 0 < value c.factor.toModel.unpack / raw.toNat := lt_of_lt_of_le (by positivity) hlo
  have hnormal : (2 : ℚ) ^ (Format.binary32.minExponent + Format.binary32.mantissaBits - 1) ≤
      |value c.factor.toModel.unpack / raw.toNat| := by
    rw [abs_of_pos hy]
    exact hlo
  have herr := abs_roundNearest_sub_le_of_normal .binary32 hnormal
  rw [abs_of_pos hy, show Format.binary32.mantissaBits = 24 from rfl] at herr
  exact ⟨hdfin, hdv ▸ herr⟩

theorem depthOf_disparityOf (hfin : c.factor.toModel.unpack.isFinite = true)
    (hF : (65535 : ℚ) * 2 ^ (-126 : ℤ) ≤ value c.factor.toModel.unpack) (raw : UInt16) :
    c.depthOf (c.disparityOf raw) = raw := by
  by_cases h0 : raw = 0
  · subst h0
    rw [disparityOf_zero, depthOf_zero]
  · obtain ⟨hdfin, hderr⟩ := c.disparityOf_near hfin hF h0
    have hr₀ := toNat_pos_of_ne_zero h0
    have hr : raw.toNat ≤ 65535 := by
      have := raw.toNat_lt
      omega
    have hFpos : 0 < value c.factor.toModel.unpack := lt_of_lt_of_le (by positivity) hF
    have hD : 0 < value (c.disparityOf raw).toModel.unpack :=
      lt_of_lt_of_le (by positivity) (le_of_relative hderr)
    have hnear := div_near_of_relative hFpos (by exact_mod_cast hr₀) hderr
    have hquarter : (raw.toNat : ℚ) / (2 ^ 24 - 1) ≤ 1 / 4 := by
      rw [div_le_iff₀ (by norm_num)]
      have : (raw.toNat : ℚ) ≤ 65535 := by exact_mod_cast hr
      linarith
    rw [c.depthOf_eq_of_near hfin hdfin hD hr₀ hr (hnear.trans hquarter), UInt16.ofNat_toNat]

theorem toDepth_toDisparity (hfin : c.factor.toModel.unpack.isFinite = true)
    (hF : (65535 : ℚ) * 2 ^ (-126 : ℤ) ≤ value c.factor.toModel.unpack) (depth : DepthImage) :
    c.toDepth (c.toDisparity depth) = depth :=
  Raster.map_map_of_leftInverse (c.depthOf_disparityOf hfin hF) depth

end Rgbd.DisparityConverter

namespace Rgbd.FilterChain

theorem apply_of_smoothing_off {chain : FilterChain} (hs : chain.settings.spatial = false)
    (ht : chain.settings.temporal = false) (depth : DepthImage) :
    chain.apply depth =
      (if chain.isActive then chain.converter.toDepth (chain.converter.toDisparity depth)
        else depth, chain) := by
  unfold apply
  cases chain.isActive <;> simp [hs, ht]

end Rgbd.FilterChain

namespace Rgbd.DisparityConverter

open FloatModel

/-- Depth survives the trip through disparity. For a finite factor of at least
`65535 · 2 ^ -126`, every depth converts to disparity and back to itself, so does every depth
image, and a filter chain with this converter and both smoothing stages off returns every frame
unchanged, whatever the temporal history it holds. -/
theorem depth_disparity_round_trip (c : DisparityConverter) (hfin : c.factor.isFinite = true)
    (hF : (65535 : ℚ) * 2 ^ (-126 : ℤ) ≤ value c.factor.toModel.unpack) :
    (∀ raw : UInt16, c.depthOf (c.disparityOf raw) = raw) ∧
      (∀ depth : DepthImage, c.toDepth (c.toDisparity depth) = depth) ∧
      (∀ (chain : FilterChain) (depth : DepthImage), chain.converter = c →
        chain.settings.spatial = false → chain.settings.temporal = false →
        chain.apply depth = (depth, chain)) := by
  refine ⟨c.depthOf_disparityOf hfin hF, c.toDepth_toDisparity hfin hF, ?_⟩
  intro chain depth hc hs ht
  rw [FilterChain.apply_of_smoothing_off hs ht, hc, c.toDepth_toDisparity hfin hF, ite_self]

theorem factor_20000_in_range : (65535 : ℚ) * 2 ^ (-126 : ℤ) ≤ value (20000 : Float32).toModel.unpack := by
  rw [show (20000 : Float32).toModel.unpack = .finite .positive 10240000 (-9) (by decide) from rfl,
    value_positive]
  norm_num

/-- The factor `20000` is in range, and its depths all survive the round trip. -/
theorem depth_disparity_round_trip_factor_20000 :
    (20000 : Float32).isFinite = true ∧
      (65535 : ℚ) * 2 ^ (-126 : ℤ) ≤ value (20000 : Float32).toModel.unpack ∧
      ∀ raw : UInt16, (⟨20000⟩ : DisparityConverter).depthOf
        ((⟨20000⟩ : DisparityConverter).disparityOf raw) = raw :=
  ⟨rfl, factor_20000_in_range,
    (depth_disparity_round_trip ⟨20000⟩ rfl factor_20000_in_range).1⟩

end Rgbd.DisparityConverter
