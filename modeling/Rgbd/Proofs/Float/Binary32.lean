import Rgbd.Proofs.Float.Unpacked
import Rgbd.Optics.Intrinsics

/-!
Whole numbers in binary32, and truncating against an image size.

A natural number `n` in `1 ..< 2 ^ 64` rounds to a normal binary32 float. Below `2 ^ 24` the
rounding is `n` itself. Above, it keeps the 24 leading bits: the result is a multiple
`R · 2 ^ t` of the unit `2 ^ t` of the binade of `n`, exact when only zero bits were
dropped and otherwise less than one unit above `n`. Every float below that is below `n`
too, since the floats of the binade are whole multiples of the unit.

So a nonnegative float below `Float32.ofWord w` truncates to a number below `w`, which is
what a bounds test of a pixel location against an image width relies on.
-/

namespace Rgbd.FloatModel

open Float.Model UnpackedFloat

theorem targetExponent_binary32 (x : Int) :
    Format.binary32.targetExponent x = max (x - 24) (-149) := by
  simp [Format.targetExponent, Format.mantissaBits, Format.minExponent]

/-! ### Rounding naturals -/

theorem roundWithAccuracy_binary32 (s : Sign) {M : Nat} {E e₁ : Int} {acc : Accuracy}
    {em : ExtendedMantissa} (hshift : shiftToTargetExponent .binary32 M E acc = (em, e₁))
    (hR₁ : 2 ^ 23 ≤ em.roundedMantissa) (hR₂ : em.roundedMantissa ≤ 2 ^ 24) (he : -149 ≤ e₁) :
    ∃ m e h, roundWithAccuracy .binary32 s M E acc = .finite s m e h ∧
      2 ^ 23 ≤ m ∧ m < 2 ^ 24 ∧ e₁ ≤ e ∧ e ≤ e₁ + 1 ∧
      (m : ℚ) * 2 ^ e = em.roundedMantissa * 2 ^ e₁ := by
  simp only [roundWithAccuracy, hshift]
  rcases Nat.lt_or_ge em.roundedMantissa (2 ^ 24) with hR | hR
  · have hlogR : em.roundedMantissa.log2 = 23 := log2_eq_of_bounds hR₁ hR
    have htarget : Format.binary32.targetExponent (totalExponent em.roundedMantissa e₁) =
        e₁ + (0 : Nat) := by
      rw [targetExponent_binary32, totalExponent, hlogR]; omega
    have hstay : ExtendedMantissa.ofMantissaAndAccuracy em.roundedMantissa .exact >>> 0 =
        ⟨em.roundedMantissa, false, false⟩ := rfl
    simp only [shiftToTargetExponent_eq _ htarget, hstay]
    rw [dif_neg (by omega)]
    exact ⟨_, _, by omega, rfl, hR₁, hR, by omega, by omega, by simp⟩
  · have hR24 : em.roundedMantissa = 2 ^ 24 := by omega
    have htarget : Format.binary32.targetExponent (totalExponent em.roundedMantissa e₁) =
        e₁ + (1 : Nat) := by
      rw [targetExponent_binary32, totalExponent, hR24, Nat.log2_two_pow]; omega
    have hhalf : (ExtendedMantissa.ofMantissaAndAccuracy em.roundedMantissa .exact >>> 1).mantissa =
        2 ^ 23 := by
      rw [shiftRight_mantissa, hR24]; rfl
    simp only [shiftToTargetExponent_eq _ htarget, hhalf]
    rw [dif_neg (by omega)]
    refine ⟨2 ^ 23, _, by norm_num, rfl, le_refl _, by omega, by omega, by omega, ?_⟩
    rw [hR24, zpow_add₀ (by norm_num)]
    push_cast
    ring

theorem round_binary32_large {n t : Nat} (hlog : n.log2 = t + 23) :
    ∃ m e h, UnpackedFloat.round .binary32 .positive n 0 = .finite .positive m e h ∧
      2 ^ 23 ≤ m ∧ m < 2 ^ 24 ∧ (t : Int) ≤ e ∧ e ≤ t + 1 ∧
      (m : ℚ) * 2 ^ e =
        ((ExtendedMantissa.ofMantissaAndAccuracy n .exact >>> t).roundedMantissa : ℚ) *
          2 ^ (t : Int) := by
  have hn0 : n ≠ 0 := fun h0 => by simp [h0] at hlog
  have hn₁ : 2 ^ (t + 23) ≤ n := by rw [← hlog]; exact Nat.log2_self_le hn0
  have hn₂ : n < 2 ^ (t + 24) := by
    have := @Nat.lt_log2_self n; rw [hlog] at this; exact this
  have htarget : Format.binary32.targetExponent (totalExponent n 0) = 0 + (t : Nat) := by
    rw [targetExponent_binary32, totalExponent, hlog]; omega
  have hdecr : decreaseExponent n 0 (0 + (t : Nat)) = (n, 0) := by
    simp [decreaseExponent]
  have hmant : (ExtendedMantissa.ofMantissaAndAccuracy n .exact >>> t).mantissa = n / 2 ^ t := by
    rw [shiftRight_mantissa]; rfl
  have hq₁ : 2 ^ 23 ≤ n / 2 ^ t := by
    rw [Nat.le_div_iff_mul_le (Nat.two_pow_pos t), ← Nat.pow_add, Nat.add_comm]; exact hn₁
  have hq₂ : n / 2 ^ t < 2 ^ 24 := by
    rw [Nat.div_lt_iff_lt_mul (Nat.two_pow_pos t), ← Nat.pow_add, Nat.add_comm]; exact hn₂
  have hR₁ := le_roundedMantissa (ExtendedMantissa.ofMantissaAndAccuracy n .exact >>> t)
  have hR₂ := roundedMantissa_le (ExtendedMantissa.ofMantissaAndAccuracy n .exact >>> t)
  rw [hmant] at hR₁ hR₂
  have hround : UnpackedFloat.round .binary32 .positive n 0 = roundWithAccuracy .binary32 .positive n 0 .exact := by
    simp only [UnpackedFloat.round, htarget, hdecr]
  obtain ⟨m, e, h, hr, hm₁, hm₂, he₁, he₂, hv⟩ := roundWithAccuracy_binary32 .positive
    (shiftToTargetExponent_eq .exact htarget) (by omega) (by omega) (by omega)
  refine ⟨m, e, h, hround.trans hr, hm₁, hm₂, by omega, by omega, ?_⟩
  rw [hv, Int.zero_add]

theorem round_binary32_small {n L : Nat} (hn : 0 < n) (hlog : n.log2 = L) (hL : L ≤ 23) :
    ∃ m e h, UnpackedFloat.round .binary32 .positive n 0 = .finite .positive m e h ∧
      2 ^ 23 ≤ m ∧ m < 2 ^ 24 ∧ (L : Int) - 23 ≤ e ∧ e ≤ (L : Int) - 22 ∧ (m : ℚ) * 2 ^ e = n := by
  have hn₁ : 2 ^ L ≤ n := by rw [← hlog]; exact Nat.log2_self_le (by omega)
  have hn₂ : n < 2 ^ (L + 1) := by
    have := @Nat.lt_log2_self n; rw [hlog] at this; exact this
  have htarget : Format.binary32.targetExponent (totalExponent n 0) = (L : Int) - 23 := by
    rw [targetExponent_binary32, totalExponent, hlog]; omega
  have hdecr : decreaseExponent n 0 ((L : Int) - 23) = (n * 2 ^ (23 - L), (L : Int) - 23) := by
    have hshift : ((0 : Int) - ((L : Int) - 23)).toNat = 23 - L := by omega
    simp only [decreaseExponent, hshift, Nat.shiftLeft_eq]
    congr 1
    omega
  have hM₁ : 2 ^ 23 ≤ n * 2 ^ (23 - L) := by
    calc 2 ^ 23 = 2 ^ L * 2 ^ (23 - L) := by rw [← Nat.pow_add]; congr 1; omega
      _ ≤ n * 2 ^ (23 - L) := Nat.mul_le_mul_right _ hn₁
  have hM₂ : n * 2 ^ (23 - L) < 2 ^ 24 := by
    calc n * 2 ^ (23 - L) < 2 ^ (L + 1) * 2 ^ (23 - L) :=
          Nat.mul_lt_mul_of_pos_right hn₂ (Nat.two_pow_pos _)
      _ = 2 ^ 24 := by rw [← Nat.pow_add]; congr 1; omega
  have hlogM : (n * 2 ^ (23 - L)).log2 = 23 := log2_eq_of_bounds hM₁ hM₂
  have htargetM : Format.binary32.targetExponent (totalExponent (n * 2 ^ (23 - L)) ((L : Int) - 23))
      = ((L : Int) - 23) + (0 : Nat) := by
    rw [targetExponent_binary32, totalExponent, hlogM]; omega
  have hround : UnpackedFloat.round .binary32 .positive n 0 =
      roundWithAccuracy .binary32 .positive (n * 2 ^ (23 - L)) ((L : Int) - 23) .exact := by
    simp only [UnpackedFloat.round, htarget, hdecr]
  have hexact : (ExtendedMantissa.ofMantissaAndAccuracy (n * 2 ^ (23 - L)) .exact >>> 0).roundedMantissa
      = n * 2 ^ (23 - L) := rfl
  obtain ⟨m, e, h, hr, hm₁, hm₂, he₁, he₂, hv⟩ := roundWithAccuracy_binary32 .positive
    (shiftToTargetExponent_eq .exact htargetM) (by rw [hexact]; omega)
    (by rw [hexact]; omega) (by omega)
  refine ⟨m, e, h, hround.trans hr, hm₁, hm₂, by omega, by omega, ?_⟩
  rw [hv, hexact, Nat.cast_zero, Int.add_zero]
  push_cast
  rw [mul_assoc, ← zpow_natCast, ← zpow_add₀ (by norm_num)]
  have : ((23 - L : Nat) : Int) + ((L : Int) - 23) = 0 := by omega
  rw [this, zpow_zero, mul_one]

theorem ofNat_binary32_eq_round {n : Nat} (hn : 0 < n) :
    UnpackedFloat.ofNat .binary32 n = UnpackedFloat.round .binary32 .positive n 0 := by
  have hcmp : compare (n : Int) 0 = .gt := Int.compare_eq_gt.mpr (by omega)
  simp [UnpackedFloat.ofNat, UnpackedFloat.ofInt, UnpackedFloat.normalize, hcmp]

theorem ofNat_binary32_normal {n : Nat} (hn : 0 < n) (hn64 : n < 2 ^ 64) :
    ∃ m e h, UnpackedFloat.ofNat .binary32 n = .finite .positive m e h ∧
      2 ^ 23 ≤ m ∧ m < 2 ^ 24 ∧ -23 ≤ e ∧ e ≤ 41 := by
  have hL : n.log2 < 64 := (Nat.log2_lt (by omega)).mpr hn64
  rw [ofNat_binary32_eq_round hn]
  rcases Nat.lt_or_ge n.log2 24 with hsmall | hbig
  · obtain ⟨m, e, h, hr, hm₁, hm₂, he₁, he₂, -⟩ := round_binary32_small hn rfl (by omega)
    exact ⟨m, e, h, hr, hm₁, hm₂, by omega, by omega⟩
  · obtain ⟨m, e, h, hr, hm₁, hm₂, he₁, he₂, -⟩ :=
      round_binary32_large (n := n) (t := n.log2 - 23) (by omega)
    exact ⟨m, e, h, hr, hm₁, hm₂, by omega, by omega⟩

theorem lt_of_lt_grid {n t R m₁ : Nat} {e₁ : Int} (hm₁ : m₁ < 2 ^ 24)
    (hbig : 2 ^ (t + 23) ≤ n) (hR : R * 2 ^ t < n + 2 ^ t)
    (hlt : (m₁ : ℚ) * 2 ^ e₁ < R * 2 ^ (t : Int)) : (m₁ : ℚ) * 2 ^ e₁ < n := by
  rcases lt_or_ge e₁ t with he | he
  · have h2 : (0 : ℚ) < 2 ^ e₁ := zpow_pos (by norm_num) e₁
    calc (m₁ : ℚ) * 2 ^ e₁ < 2 ^ 24 * 2 ^ e₁ := by
          exact mul_lt_mul_of_pos_right (by exact_mod_cast hm₁) h2
      _ ≤ 2 ^ 24 * 2 ^ ((t : Int) - 1) :=
          mul_le_mul_of_nonneg_left (zpow_le_zpow_right₀ (by norm_num) (by omega)) (by norm_num)
      _ = 2 ^ (t + 23) := by
          rw [← zpow_natCast, ← zpow_natCast, ← zpow_add₀ (by norm_num)]
          congr 1; push_cast; ring
      _ ≤ n := by exact_mod_cast hbig
  · obtain ⟨j, rfl⟩ : ∃ j : Nat, e₁ = t + j := ⟨(e₁ - t).toNat, by omega⟩
    have hsplit : (m₁ : ℚ) * 2 ^ ((t : Int) + j) = ((m₁ * 2 ^ j : Nat) : ℚ) * 2 ^ (t : Int) := by
      rw [zpow_add₀ (by norm_num), zpow_natCast (n := j)]; push_cast; ring
    rw [hsplit] at hlt ⊢
    have hunits : m₁ * 2 ^ j < R := by
      exact_mod_cast lt_of_mul_lt_mul_right hlt (zpow_nonneg (by norm_num) _)
    have hnat : m₁ * 2 ^ j * 2 ^ t < n := by
      have := Nat.mul_le_mul_right (2 ^ t) hunits
      rw [Nat.succ_mul] at this
      omega
    rw [zpow_natCast]
    exact_mod_cast hnat

theorem lt_of_lt_ofNat {n : Nat} (hn : 0 < n) {m₁ : Nat} {e₁ : Int} {h₁ : 0 < m₁}
    (c₁ : Canonical .binary32 (.finite .positive m₁ e₁ h₁)) {m : Nat} {e : Int} {h : 0 < m}
    (hr : UnpackedFloat.ofNat .binary32 n = .finite .positive m e h)
    (hlt : (m₁ : ℚ) * 2 ^ e₁ < m * 2 ^ e) : (m₁ : ℚ) * 2 ^ e₁ < n := by
  rw [ofNat_binary32_eq_round hn] at hr
  rcases Nat.lt_or_ge n.log2 24 with hsmall | hbig
  · obtain ⟨m', e', h', hr', -, -, -, -, hv⟩ := round_binary32_small hn rfl (by omega)
    rw [hr'] at hr
    cases hr
    rwa [hv] at hlt
  · obtain ⟨m', e', h', hr', -, -, -, -, hv⟩ :=
      round_binary32_large (n := n) (t := n.log2 - 23) (by omega)
    rw [hr'] at hr
    cases hr
    rw [hv] at hlt
    set t := n.log2 - 23
    have hbig' : 2 ^ (t + 23) ≤ n := by
      rw [show t + 23 = n.log2 by omega]; exact Nat.log2_self_le (by omega)
    have hmant : (ExtendedMantissa.ofMantissaAndAccuracy n .exact >>> t).mantissa = n / 2 ^ t := by
      rw [shiftRight_mantissa]; rfl
    by_cases hrem : n % 2 ^ t = 0
    · obtain ⟨hr0, hs0⟩ := shiftRight_exact hrem
      rw [roundedMantissa_of_exact hr0 hs0, hmant] at hlt
      have hn' : (n / 2 ^ t) * 2 ^ t = n := Nat.div_mul_cancel (Nat.dvd_of_mod_eq_zero hrem)
      rw [zpow_natCast, ← Nat.cast_ofNat, ← Nat.cast_pow, ← Nat.cast_mul, hn'] at hlt
      exact hlt
    · have hR := roundedMantissa_le (ExtendedMantissa.ofMantissaAndAccuracy n .exact >>> t)
      rw [hmant] at hR
      refine lt_of_lt_grid c₁.2.1 hbig' ?_ hlt
      have hdiv := Nat.div_add_mod n (2 ^ t)
      have hpos : 0 < n % 2 ^ t := Nat.pos_of_ne_zero hrem
      have := Nat.mul_le_mul_right (2 ^ t) hR
      rw [Nat.succ_mul] at this
      rw [Nat.mul_comm (2 ^ t)] at hdiv
      omega

/-! ### Comparing and truncating `Float32` -/

theorem Float32.lt_iff (f g : Float32) : f < g ↔ f.toModel.unpack.lt g.toModel.unpack = true := by
  exact decide_eq_true_iff

theorem Float32.le_iff (f g : Float32) : f ≤ g ↔ f.toModel.unpack.le g.toModel.unpack = true := by
  exact decide_eq_true_iff

theorem Float32.unpack_ofWord (w : Nat) : (Float32.ofWord w).toModel.unpack =
    UnpackedFloat.unpack .binary32
      (UnpackedFloat.pack .binary32 (UnpackedFloat.ofNat .binary32 (w % 2 ^ 64))) := by
  simp [Float32.ofWord, UInt64.toFloat32, Float32.Model.ofUInt64, Float32.Model.pack,
    Float32.Model.unpack, UnpackedFloat.ofUInt64]

theorem Float32.toUInt32_lt_of_lt_ofWord {f : Float32} {w : Nat} (h0 : 0 ≤ f)
    (hlt : f < Float32.ofWord w) : f.toUInt32.toNat < w := by
  rw [Float32.lt_iff, Float32.unpack_ofWord] at hlt
  rw [Float32.le_iff, show (0 : Float32).toModel.unpack = .zero .positive from rfl] at h0
  have hcanon : Canonical .binary32 f.toModel.unpack := unpack_canonical _ _
  have htrunc : f.toUInt32.toNat ≤ (f.toModel.unpack.toInt 0 (UInt32.size - 1)).toNat := by
    show (UInt32.ofNatClamp _).toNat ≤ _
    rcases Nat.lt_or_ge (f.toModel.unpack.toInt 0 (UInt32.size - 1)).toNat UInt32.size with h | h
    · rw [UInt32.toNat_ofNatClamp_of_lt h]
    · rw [UInt32.toNat_ofNatClamp_of_le h]; omega
  have hnw : w % 2 ^ 64 ≤ w := Nat.mod_le _ _
  have hn64 : w % 2 ^ 64 < 2 ^ 64 := Nat.mod_lt _ (by decide)
  generalize w % 2 ^ 64 = n at hlt hnw hn64
  rcases Nat.eq_zero_or_pos n with hn | hn
  · rw [hn, show UnpackedFloat.unpack .binary32 (UnpackedFloat.pack .binary32
      (UnpackedFloat.ofNat .binary32 0)) = .zero .positive from rfl] at hlt
    exfalso
    generalize f.toModel.unpack = u at h0 hlt
    cases u with
    | notANumber => simp [UnpackedFloat.lt, UnpackedFloat.compare] at hlt
    | infinity s => cases s <;> simp [UnpackedFloat.lt, UnpackedFloat.le, UnpackedFloat.compare] at hlt h0
    | zero s => simp [UnpackedFloat.lt, UnpackedFloat.compare] at hlt
    | finite s m e hm => cases s <;> simp [UnpackedFloat.lt, UnpackedFloat.le, UnpackedFloat.compare] at hlt h0
  obtain ⟨m, e, hm, hr, hm₁, hm₂, he₁, he₂⟩ := ofNat_binary32_normal hn hn64
  rw [hr, unpack_pack_normal _ _ hm (by simpa using hm₁) (by simpa using hm₂)
    (by simp [Format.exponentBias]; omega) (by simp [Format.exponentBias]; omega)] at hlt
  generalize f.toModel.unpack = u at h0 hlt hcanon htrunc
  cases u with
  | notANumber => simp [UnpackedFloat.lt, UnpackedFloat.compare] at hlt
  | infinity s => cases s <;> simp [UnpackedFloat.lt, UnpackedFloat.le, UnpackedFloat.compare] at hlt h0
  | zero s =>
    simp [UnpackedFloat.toInt] at htrunc
    omega
  | finite s m₁ e₁ h₁ =>
    cases s with
    | negative => simp [UnpackedFloat.le, UnpackedFloat.compare] at h0
    | positive =>
      have hcanon₂ : Canonical .binary32 (.finite .positive m e hm) := by
        refine ⟨?_, ?_, fun _ => ?_⟩
        · simp [Format.minExponent]; omega
        · simpa [Format.mantissaBits] using hm₂
        · simpa using hm₁
      have hv := lt_of_lt_ofNat hn hcanon hr (value_lt_of_lt hcanon hcanon₂ hlt)
      have hint := roundToInt_le m₁ e₁
      have hlt_int : roundToInt .positive m₁ e₁ < (n : Int) := by
        exact_mod_cast lt_of_le_of_lt hint hv
      simp only [UnpackedFloat.toInt] at htrunc
      omega

end Rgbd.FloatModel
