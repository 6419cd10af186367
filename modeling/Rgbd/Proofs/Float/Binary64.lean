import Rgbd.Proofs.Float.Arith
import Rgbd.Decimal.Shortest

/-!
Lean's binary64 `Float` read through the values of its unpacked form.

Every `Float` unpacks to a canonical float that fits the binary64 bits. A subtraction or a
division by `1000` with a finite result has finite operands and is the exact result rounded
to nearest, ties to even; `abs` drops the sign. Between finite floats `≤` implies the order
of the values, and the comparisons with zero read the sign of the value. The decoder
`Decimal.Binary.ofBits` reads the mantissa and exponent that unpacking reads.
-/

namespace Rgbd.FloatModel

open Float.Model UnpackedFloat

theorem canonical_toModel (a : Float) : Canonical .binary64 a.toModel.unpack :=
  unpack_canonical _ _

theorem fits_toModel (a : Float) : Fits .binary64 a.toModel.unpack :=
  unpack_fits _ (by decide) _

theorem unpack_zero_float : (0 : Float).toModel.unpack = .zero .positive := rfl

theorem unpack_thousand :
    (1000 : Float).toModel.unpack = .finite .positive (1000 * 2 ^ 43) (-43) (by decide) := rfl

theorem le_iff_unpack (a b : Float) : a ≤ b ↔ a.toModel.unpack.le b.toModel.unpack = true := by
  show decide (a.toModel ≤ b.toModel) = true ↔ _
  rw [decide_eq_true_iff]
  rfl

theorem lt_iff_unpack (a b : Float) : a < b ↔ a.toModel.unpack.lt b.toModel.unpack = true := by
  show decide (a.toModel < b.toModel) = true ↔ _
  rw [decide_eq_true_iff]
  rfl

/-! ### Operations -/

section Ops

variable {a b : Float}

theorem sub_value (h : (a - b).toModel.unpack.isFinite = true) :
    a.toModel.unpack.isFinite = true ∧ b.toModel.unpack.isFinite = true ∧
      value (a - b).toModel.unpack =
        roundNearest .binary64 (value a.toModel.unpack - value b.toModel.unpack) := by
  have hpack : (a - b).toModel.unpack = UnpackedFloat.unpack .binary64 (UnpackedFloat.pack .binary64
      (UnpackedFloat.sub .binary64 a.toModel.unpack b.toModel.unpack)) := rfl
  rw [hpack] at h ⊢
  obtain ⟨ha, hb⟩ := isFinite_of_sub _ (isFinite_of_unpack_pack _ h)
  obtain ⟨-, c, hval⟩ := sub_spec .binary64 ha hb (canonical_toModel a) (canonical_toModel b)
  rw [unpack_pack_of_isFinite _ (by decide) c h]
  exact ⟨ha, hb, hval⟩

theorem abs_unpack (a : Float) : a.abs.toModel.unpack = a.toModel.unpack.abs := by
  obtain ⟨c, f, -⟩ := abs_spec .binary64 (canonical_toModel a) (fits_toModel a)
  exact unpack_pack _ (by decide) c f

theorem div_thousand_value (h : (a / 1000).toModel.unpack.isFinite = true) :
    a.toModel.unpack.isFinite = true ∧
      value (a / 1000).toModel.unpack = roundNearest .binary64 (value a.toModel.unpack / 1000) := by
  have hpack : (a / 1000).toModel.unpack = UnpackedFloat.unpack .binary64 (UnpackedFloat.pack
      .binary64 (UnpackedFloat.div .binary64 a.toModel.unpack
        (.finite .positive (1000 * 2 ^ 43) (-43) (by decide)))) := by
    rw [← unpack_thousand]
    rfl
  rw [hpack] at h ⊢
  have ha := isFinite_of_div _ (isFinite_of_unpack_pack _ h)
  obtain ⟨-, c, hval⟩ := @div_spec .binary64 _ ha .positive (1000 * 2 ^ 43) (-43) (by decide)
  rw [unpack_pack_of_isFinite _ (by decide) c h, hval]
  refine ⟨ha, ?_⟩
  norm_num [value_finite, sgn, Sign.apply]

end Ops

/-! ### Comparisons -/

theorem value_le_of_float_le {a b : Float} (ha : a.toModel.unpack.isFinite = true)
    (hb : b.toModel.unpack.isFinite = true) (h : a ≤ b) :
    value a.toModel.unpack ≤ value b.toModel.unpack :=
  value_le_of_le .binary64 ha hb (canonical_toModel a) (canonical_toModel b)
    ((le_iff_unpack a b).1 h)

theorem nonneg_iff {a : Float} (ha : a.toModel.unpack.isFinite = true) :
    a ≥ 0 ↔ 0 ≤ value a.toModel.unpack := by
  rw [ge_iff_le, le_iff_unpack, unpack_zero_float]
  exact zero_le_iff .positive ha

theorem lt_zero_iff {a : Float} (ha : a.toModel.unpack.isFinite = true) :
    a < 0 ↔ value a.toModel.unpack < 0 := by
  rw [lt_iff_unpack, unpack_zero_float]
  generalize a.toModel.unpack = u at ha ⊢
  cases u with
  | notANumber | infinity _ => simp [UnpackedFloat.isFinite] at ha
  | zero s => simp [UnpackedFloat.lt, UnpackedFloat.compare, value]
  | finite s m e hm =>
    have hpos := mantissa_mul_pos hm e
    cases s
    · simp [UnpackedFloat.lt, UnpackedFloat.compare, value_negative, hpos]
    · simp [UnpackedFloat.lt, UnpackedFloat.compare, value_positive, hpos.le]

/-! ### Decoding the bits -/

theorem ofBits_unpack (bits : UInt64) :
    (Decimal.Binary.ofBits bits).map (fun b => (b.mantissa, b.exponent)) =
      match UnpackedFloat.unpack .binary64 bits.toBitVec with
      | .finite _ m e _ => some (m, e)
      | _ => none := by
  have hm : (@unpackMantissa .binary64 bits.toBitVec).toNat =
      (bits &&& 0xFFFFFFFFFFFFF).toNat := by
    simp only [unpackMantissa, BitVec.toNat_cast, BitVec.extractLsb_toNat, UInt64.toNat_and,
      UInt64.toNat_toBitVec]
    show bits.toNat >>> 0 % 2 ^ 52 = bits.toNat &&& (2 ^ 52 - 1)
    rw [Nat.and_two_pow_sub_one_eq_mod, Nat.shiftRight_zero]
  have he : (@unpackExponent .binary64 bits.toBitVec).toNat =
      ((bits >>> 52) &&& 0x7FF).toNat := by
    simp only [unpackExponent, BitVec.toNat_cast, BitVec.extractLsb_toNat, UInt64.toNat_and,
      UInt64.toNat_shiftRight, UInt64.toNat_toBitVec]
    show bits.toNat >>> 52 % 2 ^ 11 = bits.toNat >>> 52 &&& (2 ^ 11 - 1)
    rw [Nat.and_two_pow_sub_one_eq_mod]
  have hmlt := (@unpackMantissa .binary64 bits.toBitVec).isLt
  have happ : (1#1 ++ @unpackMantissa .binary64 bits.toBitVec).toNat =
      (@unpackMantissa .binary64 bits.toBitVec).toNat + Nat.pow 2 52 := by
    rw [BitVec.toNat_append, BitVec.toNat_one, ← Nat.shiftLeft_add_eq_or_of_lt hmlt,
      Nat.shiftLeft_eq, Nat.one_mul, Nat.add_comm]
    · rfl
    · exact Nat.one_pos
  unfold Decimal.Binary.ofBits UnpackedFloat.unpack
  rw [← hm, ← he]
  simp only [← BitVec.toNat_inj, toNat_neg_one, BitVec.toNat_zero, happ]
  clear hm he
  split_ifs <;> simp_all [Format.exponentBias]

end Rgbd.FloatModel
