import Mathlib

/-!
Binary floating point read as exact arithmetic.

Lean specifies its floats by unpacking their bits into a sign, a positive mantissa `m` and
an exponent `e` (an `UnpackedFloat`), computing on that, and rounding back through a
mantissa that carries a round bit and a sticky bit. A finite float stands for the rational
`± m · 2 ^ e`. This module collects what later proofs need of those definitions:

* shifting a mantissa right divides it by a power of two, and shifting out only zero bits
  keeps it exact, so rounding then leaves it alone;
* `unpack` always yields the canonical pair: the exponent is at least the format's least
  one, the mantissa has at most `p` bits, and exactly `p` bits above the least exponent;
* on canonical positive floats, comparing exponents first and mantissas second orders
  them by value;
* conversion to an integer truncates towards zero;
* `x - x` is `+0` or NaN.
-/

namespace Rgbd.FloatModel

open Float.Model UnpackedFloat

/-- The rational a finite float stands for, `± m · 2 ^ e`; zeros, infinities and NaN stand
for zero. -/
def value : UnpackedFloat → ℚ
  | .finite s m e _ => (s.apply m : ℚ) * 2 ^ e
  | _ => 0

/-- The pairs `unpack` produces: the exponent is at least the least one of the format, the
mantissa has at most `mantissaBits` bits, and exactly that many above the least exponent.
Other floats are canonical as they are. -/
def Canonical (spec : Format) : UnpackedFloat → Prop
  | .finite _ m e _ =>
    spec.minExponent ≤ e ∧ m < 2 ^ spec.mantissaBits ∧
      (spec.minExponent < e → 2 ^ spec.mantissaBitsWithoutImplicit ≤ m)
  | _ => True

/-! ### Shifting and rounding mantissas -/

theorem shiftRight_mantissa (em : ExtendedMantissa) (k : Nat) :
    (em >>> k).mantissa = em.mantissa / 2 ^ k := by
  induction k with
  | zero => simp [HShiftRight.hShiftRight, Nat.repeat]
  | succ k ih =>
    show (ExtendedMantissa.shiftRightOne (em >>> k)).mantissa = _
    rw [ExtendedMantissa.shiftRightOne, ih, Nat.div_div_eq_div_mul, Nat.pow_succ]

theorem shiftRight_exact {m k : Nat} (hk : m % 2 ^ k = 0) :
    (ExtendedMantissa.ofMantissaAndAccuracy m .exact >>> k).roundBit = false ∧
      (ExtendedMantissa.ofMantissaAndAccuracy m .exact >>> k).stickyBit = false := by
  induction k with
  | zero => exact ⟨rfl, rfl⟩
  | succ k ih =>
    have hdvd : 2 ^ (k + 1) ∣ m := Nat.dvd_of_mod_eq_zero hk
    have hk' : m % 2 ^ k = 0 :=
      Nat.mod_eq_zero_of_dvd (Nat.dvd_trans (Nat.pow_dvd_pow 2 (Nat.le_succ k)) hdvd)
    obtain ⟨hround, hsticky⟩ := ih hk'
    have hbit : m / 2 ^ k % 2 = 0 := by
      obtain ⟨c, rfl⟩ := hdvd
      rw [Nat.pow_succ, Nat.mul_assoc, Nat.mul_div_cancel_left _ (Nat.two_pow_pos k)]
      simp
    have hstep : ExtendedMantissa.ofMantissaAndAccuracy m .exact >>> (k + 1) =
        (ExtendedMantissa.ofMantissaAndAccuracy m .exact >>> k).shiftRightOne := rfl
    have hmant : (ExtendedMantissa.ofMantissaAndAccuracy m .exact >>> k).mantissa = m / 2 ^ k := by
      rw [shiftRight_mantissa]; rfl
    rw [hstep]
    generalize ExtendedMantissa.ofMantissaAndAccuracy m .exact >>> k = em at hround hsticky hmant
    simp [ExtendedMantissa.shiftRightOne, hround, hsticky, hmant, hbit]

theorem roundedMantissa_le (em : ExtendedMantissa) : em.roundedMantissa ≤ em.mantissa + 1 := by
  obtain ⟨m, r, s⟩ := em
  have : m % 2 ≤ 1 := Nat.le_of_lt_succ (Nat.mod_lt m (by decide))
  cases r <;> cases s <;>
    simp [ExtendedMantissa.roundedMantissa, ExtendedMantissa.accuracy,
      Accuracy.roundToNearestEven, this]

theorem roundedMantissa_of_exact {em : ExtendedMantissa} (hr : em.roundBit = false)
    (hs : em.stickyBit = false) : em.roundedMantissa = em.mantissa := by
  obtain ⟨m, r, s⟩ := em
  simp only at hr hs
  subst hr hs
  rfl

theorem le_roundedMantissa (em : ExtendedMantissa) : em.mantissa ≤ em.roundedMantissa := by
  obtain ⟨m, r, s⟩ := em
  cases r <;> cases s <;>
    simp [ExtendedMantissa.roundedMantissa, ExtendedMantissa.accuracy,
      Accuracy.roundToNearestEven]

theorem ofMantissaAndAccuracy_exact (M : Nat) :
    ExtendedMantissa.ofMantissaAndAccuracy M .exact = ⟨M, false, false⟩ := rfl

theorem shiftToTargetExponent_eq {spec : Format} {M : Nat} {E : Int} {k : Nat} (acc : Accuracy)
    (hk : spec.targetExponent (totalExponent M E) = E + k) :
    shiftToTargetExponent spec M E acc =
      (ExtendedMantissa.ofMantissaAndAccuracy M acc >>> k, E + k) := by
  have hshift : (E + k - E).toNat = k := by omega
  simp only [shiftToTargetExponent, shiftToExponent, hk, hshift]

theorem log2_eq_of_bounds {m k : Nat} (hlow : 2 ^ k ≤ m) (hhigh : m < 2 ^ (k + 1)) :
    m.log2 = k := by
  apply Nat.le_antisymm
  · exact Nat.lt_succ_iff.mp ((Nat.log2_lt (by omega)).mpr hhigh)
  · exact (Nat.le_log2 (by have := Nat.two_pow_pos k; omega)).mpr hlow

/-! ### Canonical form of unpacked bits -/

theorem minExponent_eq (spec : Format) :
    spec.minExponent = 1 - (spec.exponentBias : Int) - spec.mantissaBitsWithoutImplicit := by
  have hpos : 1 ≤ 2 ^ (spec.exponentBits - 1) := Nat.one_le_two_pow
  simp only [Format.minExponent, Format.exponentBias, Format.mantissaBits]
  push_cast [Nat.cast_sub hpos]
  ring

theorem unpack_canonical (spec : Format) (b : BitVec spec.numBits) :
    Canonical spec (UnpackedFloat.unpack spec b) := by
  have hmin := minExponent_eq spec
  have hmant : (unpackMantissa b).toNat < 2 ^ spec.mantissaBitsWithoutImplicit :=
    (unpackMantissa b).isLt
  have hbits : spec.mantissaBits = spec.mantissaBitsWithoutImplicit + 1 := by
    simp only [Format.mantissaBits]; omega
  unfold UnpackedFloat.unpack
  simp only
  split
  · split <;> trivial
  · split
    · split
      · trivial
      · rename_i hexp _
        simp only [Canonical, hexp, BitVec.toNat_zero, Nat.cast_zero]
        refine ⟨by omega, ?_, fun h => by omega⟩
        rw [hbits, Nat.pow_succ]
        omega
    · rename_i _ hexp
      have hexp0 : (unpackExponent b).toNat ≠ 0 := fun h0 =>
        hexp (BitVec.eq_of_toNat_eq (by simpa using h0))
      have happ : (1#1 ++ unpackMantissa b).toNat =
          2 ^ spec.mantissaBitsWithoutImplicit + (unpackMantissa b).toNat := by
        rw [BitVec.toNat_append, BitVec.toNat_one, ← Nat.shiftLeft_add_eq_or_of_lt hmant,
          Nat.shiftLeft_eq, Nat.one_mul]
        exact Nat.one_pos
      simp only [Canonical, happ]
      refine ⟨by omega, ?_, fun _ => by omega⟩
      rw [hbits, Nat.pow_succ]
      omega

/-! ### Packing canonical floats -/

theorem unpackSign_packComponents {spec : Format} (s : Sign)
    (exponent : BitVec spec.exponentBits) (mantissa : BitVec spec.mantissaBitsWithoutImplicit) :
    Sign.ofBitVec (unpackSign (packComponents spec s exponent mantissa)) = s := by
  have hbit : unpackSign (packComponents spec s exponent mantissa) = s.toBitVec := by
    ext i hi
    have hi0 : i = 0 := by omega
    subst hi0
    simp [unpackSign, packComponents, BitVec.getLsbD_append, BitVec.getElem_append]
  rw [hbit]
  cases s <;> rfl

theorem finite_eq_of_eq {s : Sign} {m m' : Nat} {e e' : Int} {hm : 0 < m} {hm' : 0 < m'}
    (h₁ : m' = m) (h₂ : e' = e) : UnpackedFloat.finite s m' e' hm' = .finite s m e hm := by
  subst h₁ h₂
  rfl

theorem unpack_pack_normal (spec : Format) (s : Sign) {m : Nat} {e : Int} (hm : 0 < m)
    (hlow : 2 ^ spec.mantissaBitsWithoutImplicit ≤ m)
    (hhigh : m < 2 ^ (spec.mantissaBitsWithoutImplicit + 1))
    (he₁ : 1 ≤ e + spec.exponentBias + spec.mantissaBitsWithoutImplicit)
    (he₂ : e + spec.exponentBias + spec.mantissaBitsWithoutImplicit + 1 <
      ((2 ^ spec.exponentBits : Nat) : Int)) :
    UnpackedFloat.unpack spec (UnpackedFloat.pack spec (.finite s m e hm)) = .finite s m e hm := by
  have hlog : m.log2 = spec.mantissaBitsWithoutImplicit := log2_eq_of_bounds hlow hhigh
  set biased := (e + spec.exponentBias + spec.mantissaBitsWithoutImplicit).toNat with hb
  have hbiased : (biased : Int) = e + spec.exponentBias + spec.mantissaBitsWithoutImplicit := by
    omega
  have hblt : biased + 1 < 2 ^ spec.exponentBits := by omega
  have hpacked : UnpackedFloat.pack spec (.finite s m e hm) =
      packComponents spec s (BitVec.ofNat _ biased) (BitVec.ofNat _ m) := by
    simp only [UnpackedFloat.pack, Format.mantissaBits, hlog]
    rw [if_neg (by omega), if_pos (by omega)]
  have hexp : (BitVec.ofNat spec.exponentBits biased).toNat = biased := by
    simp [Nat.mod_eq_of_lt (by omega : biased < 2 ^ spec.exponentBits)]
  have hne_ones : BitVec.ofNat spec.exponentBits biased ≠ -1#_ := by
    intro h
    have := congrArg BitVec.toNat h
    rw [hexp, BitVec.neg_one_eq_allOnes, BitVec.toNat_allOnes] at this
    omega
  have hne_zero : BitVec.ofNat spec.exponentBits biased ≠ 0#_ := by
    intro h
    have := congrArg BitVec.toNat h
    rw [hexp, BitVec.toNat_zero] at this
    omega
  have hmant : (1#1 ++ BitVec.ofNat spec.mantissaBitsWithoutImplicit m).toNat = m := by
    have hmod : m % 2 ^ spec.mantissaBitsWithoutImplicit < 2 ^ spec.mantissaBitsWithoutImplicit :=
      Nat.mod_lt _ (Nat.two_pow_pos _)
    rw [BitVec.toNat_append, BitVec.toNat_one, BitVec.toNat_ofNat,
      ← Nat.shiftLeft_add_eq_or_of_lt hmod, Nat.shiftLeft_eq, Nat.one_mul]
    · rw [Nat.pow_succ] at hhigh
      rw [Nat.mod_eq_sub_mod hlow, Nat.mod_eq_of_lt (by omega)]
      omega
    · exact Nat.one_pos
  rw [hpacked]
  unfold UnpackedFloat.unpack
  simp only [unpackMantissa_packComponents, unpackExponent_packComponents,
    unpackSign_packComponents, if_neg hne_ones, if_neg hne_zero]
  exact finite_eq_of_eq hmant (by rw [hexp]; omega)

def Fits (spec : Format) : UnpackedFloat → Prop
  | .finite _ _ e _ =>
    e + spec.exponentBias + spec.mantissaBitsWithoutImplicit + 1 < ((2 ^ spec.exponentBits : Nat) : Int)
  | _ => True

theorem toNat_neg_one (n : Nat) : (-1#n).toNat = 2 ^ n - 1 := by
  rw [BitVec.neg_one_eq_allOnes, BitVec.toNat_allOnes]

theorem zero_ne_neg_one_exponent (spec : Format) : (0#_ : BitVec spec.exponentBits) ≠ -1#_ := by
  intro h
  have := congrArg BitVec.toNat h
  rw [toNat_neg_one, BitVec.toNat_zero] at this
  have := Nat.one_lt_two_pow spec.he.ne'
  omega

theorem unpack_fits (spec : Format) (heb : 2 ≤ spec.exponentBits) (b : BitVec spec.numBits) :
    Fits spec (UnpackedFloat.unpack spec b) := by
  have hpow : 4 ≤ 2 ^ spec.exponentBits :=
    (Nat.pow_le_pow_right (by decide) heb).trans_eq' (by norm_num)
  unfold UnpackedFloat.unpack
  simp only
  split
  · split <;> trivial
  · rename_i hones
    split
    · split
      · trivial
      · rename_i hexp _
        simp only [Fits, hexp, BitVec.toNat_zero, Nat.cast_zero]
        omega
    · have hne : (unpackExponent b).toNat ≠ 2 ^ spec.exponentBits - 1 := fun h =>
        hones (BitVec.eq_of_toNat_eq (by rw [h, toNat_neg_one]))
      have hlt := (unpackExponent b).isLt
      simp only [Fits]
      omega

theorem unpack_pack_zero (spec : Format) (s : Sign) :
    UnpackedFloat.unpack spec (UnpackedFloat.pack spec (.zero s)) = .zero s := by
  simp only [UnpackedFloat.pack, packedZero]
  unfold UnpackedFloat.unpack
  simp [unpackMantissa_packComponents, unpackExponent_packComponents,
    zero_ne_neg_one_exponent spec]

theorem unpack_pack_subnormal (spec : Format) (heb : 2 ≤ spec.exponentBits) (s : Sign) {m : Nat}
    (hm : 0 < m) (hlt : m < 2 ^ spec.mantissaBitsWithoutImplicit) :
    UnpackedFloat.unpack spec (UnpackedFloat.pack spec (.finite s m spec.minExponent hm)) =
      .finite s m spec.minExponent hm := by
  have hmin := minExponent_eq spec
  have hpow : 4 ≤ 2 ^ spec.exponentBits :=
    (Nat.pow_le_pow_right (by decide) heb).trans_eq' (by norm_num)
  have hlog : m.log2 < spec.mantissaBitsWithoutImplicit := (Nat.log2_lt (by omega)).2 hlt
  have hbiased :
      (spec.minExponent + spec.exponentBias + spec.mantissaBitsWithoutImplicit).toNat = 1 := by
    omega
  have hpacked : UnpackedFloat.pack spec (.finite s m spec.minExponent hm) =
      packComponents spec s 0#_ (BitVec.ofNat _ m) := by
    simp only [UnpackedFloat.pack, Format.mantissaBits, hbiased]
    rw [if_neg (by omega), if_neg (by omega)]
  have hmant : (BitVec.ofNat spec.mantissaBitsWithoutImplicit m).toNat = m := by
    rw [BitVec.toNat_ofNat, Nat.mod_eq_of_lt hlt]
  have hne_zero : BitVec.ofNat spec.mantissaBitsWithoutImplicit m ≠ 0#_ := by
    intro h
    have := congrArg BitVec.toNat h
    rw [hmant, BitVec.toNat_zero] at this
    omega
  rw [hpacked]
  unfold UnpackedFloat.unpack
  simp only [unpackMantissa_packComponents, unpackExponent_packComponents,
    unpackSign_packComponents, if_neg (zero_ne_neg_one_exponent spec), if_true, dif_neg hne_zero]
  exact finite_eq_of_eq hmant (by rw [hmin]; simp; omega)

theorem unpack_pack_finite (spec : Format) (heb : 2 ≤ spec.exponentBits) (s : Sign) {m : Nat}
    {e : Int} (hm : 0 < m) (c : Canonical spec (.finite s m e hm))
    (f : Fits spec (.finite s m e hm)) :
    UnpackedFloat.unpack spec (UnpackedFloat.pack spec (.finite s m e hm)) = .finite s m e hm := by
  obtain ⟨hmin, hlt, hnormal⟩ := c
  have hbits : spec.mantissaBits = spec.mantissaBitsWithoutImplicit + 1 := by
    simp only [Format.mantissaBits]; omega
  by_cases hlow : 2 ^ spec.mantissaBitsWithoutImplicit ≤ m
  · have := minExponent_eq spec
    exact unpack_pack_normal spec s hm hlow (hbits ▸ hlt) (by omega) f
  · have he : e = spec.minExponent := by
      by_contra hne
      exact hlow (hnormal (lt_of_le_of_ne hmin (Ne.symm hne)))
    subst he
    exact unpack_pack_subnormal spec heb s hm (by omega)

theorem unpack_pack_overflow (spec : Format) (s : Sign) {m : Nat} {e : Int} (hm : 0 < m)
    (f : ¬ Fits spec (.finite s m e hm)) :
    UnpackedFloat.unpack spec (UnpackedFloat.pack spec (.finite s m e hm)) = .infinity s := by
  simp only [Fits, not_lt] at f
  have hpacked : UnpackedFloat.pack spec (.finite s m e hm) = packedInfinity spec s := by
    simp only [UnpackedFloat.pack]
    rw [if_pos (by omega)]
  rw [hpacked]
  unfold UnpackedFloat.unpack
  simp [packedInfinity, unpackMantissa_packComponents, unpackExponent_packComponents]

theorem unpack_pack_infinity (spec : Format) (s : Sign) :
    UnpackedFloat.unpack spec (UnpackedFloat.pack spec (.infinity s)) = .infinity s := by
  simp only [UnpackedFloat.pack]
  unfold UnpackedFloat.unpack
  simp [packedInfinity, unpackMantissa_packComponents, unpackExponent_packComponents]

theorem unpack_pack_notANumber (spec : Format) :
    UnpackedFloat.unpack spec (UnpackedFloat.pack spec .notANumber) = .notANumber := by
  have hbit :
      ((1#_ : BitVec spec.mantissaBitsWithoutImplicit) <<< (spec.mantissaBitsWithoutImplicit - 1))
        ≠ 0#_ := by
    have hm := spec.hm
    intro h
    have := congrArg BitVec.toNat h
    rw [BitVec.toNat_shiftLeft, BitVec.toNat_ofNat, BitVec.toNat_zero,
      Nat.mod_eq_of_lt (Nat.one_lt_two_pow hm.ne'), Nat.one_shiftLeft,
      Nat.mod_eq_of_lt (Nat.pow_lt_pow_right (by norm_num) (by omega))] at this
    exact absurd this (Nat.two_pow_pos _).ne'
  simp only [UnpackedFloat.pack]
  unfold UnpackedFloat.unpack
  simp [packedNaN, unpackMantissa_packComponents, unpackExponent_packComponents, hbit]

theorem unpack_pack (spec : Format) (heb : 2 ≤ spec.exponentBits) {r : UnpackedFloat}
    (c : Canonical spec r) (f : Fits spec r) :
    UnpackedFloat.unpack spec (UnpackedFloat.pack spec r) = r := by
  cases r with
  | notANumber => exact unpack_pack_notANumber spec
  | infinity s => exact unpack_pack_infinity spec s
  | zero s => exact unpack_pack_zero spec s
  | finite s m e hm => exact unpack_pack_finite spec heb s hm c f

theorem isFinite_of_unpack_pack (spec : Format) {r : UnpackedFloat}
    (h : (UnpackedFloat.unpack spec (UnpackedFloat.pack spec r)).isFinite = true) :
    r.isFinite = true := by
  cases r with
  | notANumber => rw [unpack_pack_notANumber] at h; exact h
  | infinity s => rw [unpack_pack_infinity] at h; exact h
  | zero s => rfl
  | finite s m e hm => rfl

theorem unpack_pack_of_isFinite (spec : Format) (heb : 2 ≤ spec.exponentBits)
    {r : UnpackedFloat} (c : Canonical spec r)
    (h : (UnpackedFloat.unpack spec (UnpackedFloat.pack spec r)).isFinite = true) :
    UnpackedFloat.unpack spec (UnpackedFloat.pack spec r) = r := by
  cases r with
  | notANumber => rw [unpack_pack_notANumber] at h; simp [UnpackedFloat.isFinite] at h
  | infinity s => rw [unpack_pack_infinity] at h; simp [UnpackedFloat.isFinite] at h
  | zero s => exact unpack_pack_zero spec s
  | finite s m e hm =>
    by_cases f : Fits spec (.finite s m e hm)
    · exact unpack_pack_finite spec heb s hm c f
    · rw [unpack_pack_overflow spec s hm f] at h
      simp [UnpackedFloat.isFinite] at h

/-! ### Order and truncation -/

theorem value_lt_of_lt {spec : Format} {m₁ m₂ : Nat} {e₁ e₂ : Int} {h₁ : 0 < m₁}
    {h₂ : 0 < m₂} (c₁ : Canonical spec (.finite .positive m₁ e₁ h₁))
    (c₂ : Canonical spec (.finite .positive m₂ e₂ h₂))
    (h : (UnpackedFloat.finite .positive m₁ e₁ h₁).lt (.finite .positive m₂ e₂ h₂) = true) :
    (m₁ : ℚ) * 2 ^ e₁ < m₂ * 2 ^ e₂ := by
  obtain ⟨hmin₁, hlt₁, -⟩ := c₁
  obtain ⟨-, -, hlow₂⟩ := c₂
  simp only [UnpackedFloat.lt, UnpackedFloat.compare, beq_iff_eq, Option.some.injEq] at h
  rcases lt_trichotomy e₁ e₂ with he | he | he
  · have hm₂ : (2 : ℚ) ^ spec.mantissaBitsWithoutImplicit ≤ m₂ := by
      exact_mod_cast hlow₂ (lt_of_le_of_lt hmin₁ he)
    have hm₁ : (m₁ : ℚ) < 2 ^ (spec.mantissaBitsWithoutImplicit + 1) := by
      have : spec.mantissaBits = spec.mantissaBitsWithoutImplicit + 1 := by
        simp only [Format.mantissaBits]; omega
      exact_mod_cast this ▸ hlt₁
    have h2 : (0 : ℚ) < 2 ^ e₁ := zpow_pos (by norm_num) e₁
    calc (m₁ : ℚ) * 2 ^ e₁ < 2 ^ (spec.mantissaBitsWithoutImplicit + 1) * 2 ^ e₁ :=
          mul_lt_mul_of_pos_right hm₁ h2
      _ = 2 ^ spec.mantissaBitsWithoutImplicit * 2 ^ (e₁ + 1) := by
          rw [zpow_add₀ (by norm_num), pow_succ]; ring
      _ ≤ m₂ * 2 ^ (e₁ + 1) :=
          mul_le_mul_of_nonneg_right hm₂ (zpow_nonneg (by norm_num) _)
      _ ≤ m₂ * 2 ^ e₂ :=
          mul_le_mul_of_nonneg_left (zpow_le_zpow_right₀ (by norm_num) (by omega))
            (Nat.cast_nonneg _)
  · subst he
    have hm : m₁ < m₂ := by
      simpa [compare_eq_iff_eq, Ordering.then, Nat.compare_eq_lt] using h
    have h2 : (0 : ℚ) < 2 ^ e₁ := zpow_pos (by norm_num) e₁
    exact mul_lt_mul_of_pos_right (by exact_mod_cast hm) h2
  · have : compare e₁ e₂ = .gt := compare_gt_iff_gt.mpr he
    simp [this, Ordering.then] at h

theorem roundToInt_eq_floor (m : ℕ) (e : ℤ) : roundToInt .positive m e = ⌊(m : ℚ) * 2 ^ e⌋ := by
  rcases le_or_gt 0 e with he | he
  · obtain ⟨k, rfl⟩ := Int.eq_ofNat_of_zero_le he
    have hint : roundToInt .positive m k = ((m * 2 ^ k : Nat) : Int) := by
      simp [roundToInt, decreaseExponent, shiftToExponent, shiftRight_mantissa,
        ExtendedMantissa.ofMantissaAndAccuracy, Sign.apply, Nat.shiftLeft_eq]
    rw [hint, zpow_natCast, show (m : ℚ) * 2 ^ k = ((m * 2 ^ k : ℕ) : ℚ) by push_cast; rfl,
      Int.floor_natCast]
  · obtain ⟨k, rfl⟩ : ∃ k : Nat, e = -((k + 1 : Nat) : Int) := ⟨(-e - 1).toNat, by omega⟩
    have hint : roundToInt .positive m (-((k + 1 : Nat) : Int)) =
        ((m / 2 ^ (k + 1) : Nat) : Int) := by
      have hshift : (-1 + -(k : Int)).toNat = 0 := by omega
      simp [roundToInt, decreaseExponent, shiftToExponent, shiftRight_mantissa,
        ExtendedMantissa.ofMantissaAndAccuracy, Sign.apply, hshift]
    rw [hint, zpow_neg, zpow_natCast, ← div_eq_mul_inv,
      show ((2 : ℚ) ^ (k + 1)) = ((2 ^ (k + 1) : ℕ) : ℚ) by push_cast; rfl,
      Rat.floor_natCast_div_natCast]
    push_cast
    rfl

theorem roundToInt_le (m : Nat) (e : Int) :
    (roundToInt .positive m e : ℚ) ≤ m * 2 ^ e := by
  rw [roundToInt_eq_floor]
  exact Int.floor_le _

theorem sub_self_cases (spec : Format) (u : UnpackedFloat) :
    UnpackedFloat.sub spec u u = .zero .positive ∨ UnpackedFloat.sub spec u u = .notANumber := by
  cases u with
  | notANumber => exact .inr rfl
  | infinity s => cases s <;> exact .inr rfl
  | zero s => cases s <;> exact .inl rfl
  | finite s m e hm =>
    left
    simp [UnpackedFloat.sub, UnpackedFloat.normalize]

end Rgbd.FloatModel
