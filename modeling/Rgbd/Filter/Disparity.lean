import Rgbd.Image

/-!
Converting depth to disparity and back.

Disparity is `factor / depth`, with `factor = focal · baseline / depth scale`. A depth of
zero (no measurement) is disparity zero, and a disparity that is not positive converts back
to depth zero. The way back divides in binary64, rounds half away from zero and saturates
to 16 bits, so a NaN quotient becomes the largest depth.
-/

namespace Rgbd

def Float.minNum (a b : Float) : Float :=
  if a.isNaN then b else if b.isNaN then a else if b < a then b else a

open Float.Model in
/-- The binary64 value of a binary32 value: every binary32 value is a binary64 value, so the
finite ones are carried over exactly, and zeros, infinities and NaN keep their kind. -/
def Float32.widen (x : Float32) : Float :=
  .ofModel (.pack (match x.toModel.unpack with
    | .finite s m e _ => UnpackedFloat.round .binary64 s m e
    | u => u))

open Float.Model in
/-- The whole number nearest to a binary64 value, a half rounding away from zero; the sign is
kept, so a negative value above `-1/2` rounds to `-0`. Zeros, infinities and NaN are kept. -/
def Float.roundHalfAway (x : Float) : Float :=
  match x.toModel.unpack with
  | .finite s m e _ =>
    if 0 ≤ e then x
    else
      let k := (-e).toNat
      .ofModel (.pack (UnpackedFloat.normalize .binary64
        (s.apply ((m + (1 <<< (k - 1))) >>> k : Nat)) 0 s))
  | _ => x

/-- Converts between raw depth and disparity. -/
structure DisparityConverter where
  factor : Float32
  deriving Inhabited

namespace DisparityConverter

def ofCalibration (focal baseline depthScale : Float32) : DisparityConverter :=
  ⟨focal * baseline / depthScale⟩

variable (c : DisparityConverter)

def disparityOf (raw : UInt16) : Float32 := if raw = 0 then 0 else c.factor / raw.toFloat32

def depthOf (d : Float32) : UInt16 :=
  if d > 0 then
    (Float.minNum (Float.roundHalfAway (Float32.widen c.factor / Float32.widen d)) 65535).toUInt16
  else 0

def toDisparity (depth : DepthImage) : FloatImage := depth.map c.disparityOf

def toDepth (disparity : FloatImage) : DepthImage := disparity.map c.depthOf

end DisparityConverter

end Rgbd
