import Rgbd.Proofs.Float.Binary64

/-!
Signs of floats.

Rounding keeps the sign it is given, and the sign of a product or a quotient is the product
or quotient of the signs, so no arithmetic on floats without a minus sign makes one. Packing
writes the sign into the top bit and unpacking reads it back, unless the bits are a NaN. A
float that carries no minus sign is never below zero.
-/

namespace Rgbd.FloatModel

open Float.Model UnpackedFloat

/-- Whether a float carries no minus sign: NaN, or a zero, finite or infinite float with the
positive sign. -/
def notNegative : UnpackedFloat → Bool
  | .finite .negative .. | .zero .negative | .infinity .negative => false
  | _ => true

section Arith

variable (spec : Format)

theorem notNegative_roundWithAccuracy (m : Nat) (e : Int) (a : Accuracy) :
    notNegative (roundWithAccuracy spec .positive m e a) = true := by
  unfold roundWithAccuracy
  dsimp only
  split <;> rfl

theorem notNegative_normalize (n : Nat) (e : Int) :
    notNegative (UnpackedFloat.normalize spec n e .positive) = true := by
  unfold UnpackedFloat.normalize
  split
  · rename_i hlt
    exact absurd hlt (by simp [compare_lt_iff_lt])
  · rfl
  · exact notNegative_roundWithAccuracy spec _ _ _

@[simp] theorem positive_mul_positive : Sign.positive * Sign.positive = .positive := rfl

@[simp] theorem positive_div_positive : Sign.positive / Sign.positive = .positive := rfl

variable {spec} {u v : UnpackedFloat}

/- Both operations give NaN, or a zero, an infinity or a rounded float with the product or
quotient of the signs; the hypotheses leave only positive signs. -/

theorem notNegative_mul (hu : notNegative u = true) (hv : notNegative v = true) :
    notNegative (UnpackedFloat.mul spec u v) = true := by
  rcases u with (_ | _) | _ | (_ | _) | ⟨(_ | _), m₁, e₁, h₁⟩ <;>
    rcases v with (_ | _) | _ | (_ | _) | ⟨(_ | _), m₂, e₂, h₂⟩ <;>
    simp only [UnpackedFloat.mul, positive_mul_positive, notNegative_roundWithAccuracy] <;>
    simp_all [notNegative]

theorem notNegative_div (hu : notNegative u = true) (hv : notNegative v = true) :
    notNegative (UnpackedFloat.div spec u v) = true := by
  rcases u with (_ | _) | _ | (_ | _) | ⟨(_ | _), m₁, e₁, h₁⟩ <;>
    rcases v with (_ | _) | _ | (_ | _) | ⟨(_ | _), m₂, e₂, h₂⟩ <;>
    simp only [UnpackedFloat.div, positive_div_positive, notNegative_roundWithAccuracy] <;>
    simp_all [notNegative]

end Arith

/-! ### Through the bits -/

section Bits

variable {spec : Format}

theorem notNegative_unpack {b : BitVec spec.numBits}
    (h : Sign.ofBitVec (unpackSign b) = .positive) :
    notNegative (UnpackedFloat.unpack spec b) = true := by
  unfold UnpackedFloat.unpack
  dsimp only
  rw [h]
  split_ifs <;> rfl

theorem notNegative_unpack_pack {u : UnpackedFloat} (hu : notNegative u = true) :
    notNegative (UnpackedFloat.unpack spec (UnpackedFloat.pack spec u)) = true := by
  cases u with
  | notANumber => rw [unpack_pack_notANumber]; rfl
  | zero s | infinity s =>
    cases s
    · simp [notNegative] at hu
    · exact notNegative_unpack (unpackSign_packComponents _ _ _)
  | finite s m e hm =>
    cases s
    · simp [notNegative] at hu
    · apply notNegative_unpack
      simp only [UnpackedFloat.pack, packedInfinity]
      split_ifs <;> exact unpackSign_packComponents _ _ _

end Bits

/-! ### A difference and its reverse

Subtracting in either order aligns the two mantissas at the same exponent and normalizes
opposite integers, and rounding writes the sign it is given and nothing else depends on it;
the two differences therefore have the same magnitude. Packing writes a sign bit beside the
exponent and mantissa fields, and the magnitude of an unpacked float is read from those
fields alone, so this survives the round trip through the bits. -/

section Difference

variable (spec : Format)

theorem abs_roundWithAccuracy (s s' : Sign) (m : Nat) (e : Int) (a : Accuracy) :
    (roundWithAccuracy spec s m e a).abs = (roundWithAccuracy spec s' m e a).abs := by
  unfold roundWithAccuracy
  dsimp only
  split <;> rfl

theorem abs_normalize_neg (n e : Int) :
    (UnpackedFloat.normalize spec (-n) e .positive).abs =
      (UnpackedFloat.normalize spec n e .positive).abs := by
  unfold UnpackedFloat.normalize UnpackedFloat.round
  rcases lt_trichotomy n 0 with h | rfl | h
  · have h₁ : compare (-n) 0 = .gt := compare_gt_iff_gt.2 (by omega)
    have h₂ : compare n 0 = .lt := compare_lt_iff_lt.2 h
    rw [h₁, h₂]
    exact abs_roundWithAccuracy spec _ _ _ _ _
  · rfl
  · have h₁ : compare (-n) 0 = .lt := compare_lt_iff_lt.2 (by omega)
    have h₂ : compare n 0 = .gt := compare_gt_iff_gt.2 h
    rw [h₁, h₂, neg_neg]
    exact abs_roundWithAccuracy spec _ _ _ _ _

theorem abs_sub_swap (u v : UnpackedFloat) :
    (UnpackedFloat.sub spec u v).abs = (UnpackedFloat.sub spec v u).abs := by
  rcases u with (_ | _) | _ | (_ | _) | ⟨s₁, m₁, e₁, h₁⟩ <;>
    rcases v with (_ | _) | _ | (_ | _) | ⟨s₂, m₂, e₂, h₂⟩ <;>
    try rfl
  simp only [UnpackedFloat.sub]
  rw [min_comm e₂ e₁, ← neg_sub, abs_normalize_neg]

variable {spec}

theorem abs_unpack_congr {b c : BitVec spec.numBits} (hm : unpackMantissa b = unpackMantissa c)
    (he : unpackExponent b = unpackExponent c) :
    (UnpackedFloat.unpack spec b).abs = (UnpackedFloat.unpack spec c).abs := by
  unfold UnpackedFloat.unpack
  simp only [hm, he]
  split_ifs <;> rfl

theorem fields_pack_abs (u : UnpackedFloat) :
    unpackMantissa (UnpackedFloat.pack spec u.abs) = unpackMantissa (UnpackedFloat.pack spec u) ∧
      unpackExponent (UnpackedFloat.pack spec u.abs) =
        unpackExponent (UnpackedFloat.pack spec u) := by
  cases u with
  | notANumber => exact ⟨rfl, rfl⟩
  | zero s | infinity s =>
    simp [UnpackedFloat.abs, UnpackedFloat.pack, packedZero, packedInfinity]
  | finite s m e hm =>
    simp only [UnpackedFloat.abs, UnpackedFloat.pack, packedInfinity]
    split_ifs <;> simp

theorem abs_unpack_pack_abs (u : UnpackedFloat) :
    (UnpackedFloat.unpack spec (UnpackedFloat.pack spec u.abs)).abs =
      (UnpackedFloat.unpack spec (UnpackedFloat.pack spec u)).abs :=
  abs_unpack_congr (fields_pack_abs u).1 (fields_pack_abs u).2

end Difference

theorem Float32.abs_sub_swap (a b : Float32) : (a - b).abs = (b - a).abs := by
  have h : ((a - b).toModel.unpack).abs = ((b - a).toModel.unpack).abs := by
    change (UnpackedFloat.unpack .binary32 (UnpackedFloat.pack .binary32
        (UnpackedFloat.sub .binary32 a.toModel.unpack b.toModel.unpack))).abs =
      (UnpackedFloat.unpack .binary32 (UnpackedFloat.pack .binary32
        (UnpackedFloat.sub .binary32 b.toModel.unpack a.toModel.unpack))).abs
    rw [← abs_unpack_pack_abs, FloatModel.abs_sub_swap, abs_unpack_pack_abs]
  change Float32.ofModel (Float32.Model.pack (a - b).toModel.unpack.abs) =
    Float32.ofModel (Float32.Model.pack (b - a).toModel.unpack.abs)
  rw [h]

/-! ### Binary64 -/

theorem not_lt_zero_of_notNegative {a : Float} (h : notNegative a.toModel.unpack = true) :
    ¬ a < 0 := by
  rw [lt_iff_unpack, unpack_zero_float]
  generalize a.toModel.unpack = u at h ⊢
  cases u with
  | finite s => cases s <;> simp_all [notNegative, UnpackedFloat.lt, UnpackedFloat.compare]
  | zero s | infinity s =>
    cases s <;> simp_all [notNegative, UnpackedFloat.lt, UnpackedFloat.compare]
  | notANumber => simp [UnpackedFloat.lt, UnpackedFloat.compare]

theorem not_lt_abs_sub_self {w : Float} (hw : ¬ w < 0) (x : Float) : ¬ w < (x - x).abs := by
  have hsub : (x - x).toModel.unpack = UnpackedFloat.unpack .binary64 (UnpackedFloat.pack .binary64
      (UnpackedFloat.sub .binary64 x.toModel.unpack x.toModel.unpack)) := rfl
  rw [lt_iff_unpack, abs_unpack, hsub]
  rcases sub_self_cases .binary64 x.toModel.unpack with h | h
  · rw [h, unpack_pack_zero]
    rwa [lt_iff_unpack, unpack_zero_float] at hw
  · rw [h, unpack_pack_notANumber]
    cases w.toModel.unpack <;> simp [UnpackedFloat.abs, UnpackedFloat.lt, UnpackedFloat.compare]

theorem notNegative_mul_float {a b : Float} (ha : notNegative a.toModel.unpack = true)
    (hb : notNegative b.toModel.unpack = true) : notNegative (a * b).toModel.unpack = true :=
  notNegative_unpack_pack (notNegative_mul ha hb)

theorem notNegative_div_float {a b : Float} (ha : notNegative a.toModel.unpack = true)
    (hb : notNegative b.toModel.unpack = true) : notNegative (a / b).toModel.unpack = true :=
  notNegative_unpack_pack (notNegative_div ha hb)

theorem notNegative_ofNat {n : Nat} (hn : n < 2 ^ 53) :
    notNegative (Float.ofNat n).toModel.unpack = true := by
  have hfast : Float.ofNat n =
      n.toUInt64.toFloat * Float.exactlyRepresentablePowersOfTen[0] := by
    simp only [Float.ofNat, OfScientific.ofScientific, Float.ofScientific]
    rw [dif_pos ⟨hn, by decide⟩]
    rfl
  rw [hfast]
  refine notNegative_mul_float ?_ (by decide)
  exact notNegative_unpack_pack (notNegative_normalize _ _ _)

end Rgbd.FloatModel
