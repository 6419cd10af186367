import Rgbd.Image
import Rgbd.Optics.Intrinsics

/-!
Organized point clouds.

A cloud keeps the layout of its depth frame: one point per depth pixel, row after row,
so point `i` belongs to pixel `(i mod width, i div width)`. The flat index is a 32-bit word
when it is split into column and row, so past `2 ^ 32` points the pixels repeat from the
first one. A pixel without a positive depth gives the origin instead of being left out. A
colored cloud also drops points beyond five meters to the origin, then paints each point
with the color pixel nearest to where it is imaged, or a fixed color when the color camera
does not see it.
-/

namespace Rgbd

def outOfBoundsColor : Rgb := ⟨96, 157, 198⟩

def maxColoredDepth : Float32 := 5.0

/-- Why a cloud cannot be built. Dimensions are `(width, height)`. -/
inductive CloudError where
  | depthDimensions (expected actual : Nat × Nat)
  | colorDimensions (expected actual : Nat × Nat)
  deriving Repr, DecidableEq

namespace CloudError

def kind : CloudError → String
  | depthDimensions .. => "DepthDimensions"
  | colorDimensions .. => "ColorDimensions"

def message : CloudError → String
  | depthDimensions e a =>
    "depth frame is (" ++ toString a.1 ++ ", " ++ toString a.2 ++ ") but the depth calibration is ("
      ++ toString e.1 ++ ", " ++ toString e.2 ++ ")"
  | colorDimensions e a =>
    "color frame is (" ++ toString a.1 ++ ", " ++ toString a.2 ++ ") but the color calibration is ("
      ++ toString e.1 ++ ", " ++ toString e.2 ++ ")"

end CloudError

/-- Points laid out on the pixel grid they were measured on. -/
structure OrganizedCloud (P : Type) where
  width : Nat
  height : Nat
  points : List P

def OrganizedCloud.get? {P : Type} (c : OrganizedCloud P) (x y : Nat) : Option P :=
  c.points[y * c.width + x]?

/-- One value per pixel of a depth frame, row after row: entry `i` is computed at the pixel
its index names once truncated to 32 bits. -/
def OrganizedCloud.layout {P : Type} (depth : DepthImage) (f : Nat → Nat → P) : OrganizedCloud P :=
  ⟨depth.width, depth.height,
    (List.range (depth.width * depth.height)).map fun i =>
      f (i % UInt32.size % depth.width) (i % UInt32.size / depth.width)⟩

/-- A point with its color packed as `0x00RRGGBB`. -/
structure ColoredPoint where
  x : Float32
  y : Float32
  z : Float32
  rgb : UInt32
  deriving Inhabited

namespace ColoredPoint

def ofPoint (p : Vec3) (c : Rgb) : ColoredPoint :=
  ⟨p.x, p.y, p.z, c.r.toUInt32 <<< 16 ||| c.g.toUInt32 <<< 8 ||| c.b.toUInt32⟩

def point (p : ColoredPoint) : Vec3 := ⟨p.x, p.y, p.z⟩

def color (p : ColoredPoint) : Rgb :=
  ⟨(p.rgb >>> 16).toUInt8, (p.rgb >>> 8).toUInt8, p.rgb.toUInt8⟩

end ColoredPoint

/-- The color camera a cloud is painted from. -/
structure ColorSource where
  image : ColorImage
  intrinsics : Intrinsics
  extrinsics : Extrinsics

/-- Deprojects the depth frames of one camera into organized clouds. -/
structure CloudBuilder where
  intrinsics : Intrinsics
  depthScale : Float32
  deriving Inhabited

namespace CloudBuilder

variable (b : CloudBuilder)

def point (depth : DepthImage) (x y : Nat) : Vec3 :=
  let meters := b.depthScale * (depth.getD x y 0).toFloat32
  b.intrinsics.deproject ⟨Float32.ofWord x, Float32.ofWord y⟩ meters

def checkDepth (depth : DepthImage) : Except CloudError Unit :=
  if depth.dimensions ≠ (b.intrinsics.width, b.intrinsics.height) then
    .error (.depthDimensions (b.intrinsics.width, b.intrinsics.height) depth.dimensions)
  else .ok ()

def depthCloud (depth : DepthImage) : Except CloudError (OrganizedCloud Vec3) := do
  b.checkDepth depth
  pure (OrganizedCloud.layout depth fun x y =>
    let p := b.point depth x y
    if p.z ≤ 0 then Vec3.origin else p)

def sample (src : ColorSource) (pixel : Pixel) : Rgb :=
  if !src.intrinsics.contains pixel then outOfBoundsColor
  else
    let x := min (pixel.x + 0.5).floor.toUInt32.toNat (src.image.width - 1)
    let y := min (pixel.y + 0.5).floor.toUInt32.toNat (src.image.height - 1)
    src.image.getD x y default

/-- A point for every depth pixel, painted from the color camera. Depth outside
`(0, 5]` meters gives the origin, which is painted too. -/
def coloredCloud (depth : DepthImage) (src : ColorSource) :
    Except CloudError (OrganizedCloud ColoredPoint) := do
  b.checkDepth depth
  if src.image.dimensions ≠ (src.intrinsics.width, src.intrinsics.height) then
    throw (.colorDimensions (src.intrinsics.width, src.intrinsics.height) src.image.dimensions)
  pure (OrganizedCloud.layout depth fun x y =>
    let p := b.point depth x y
    let p := if p.z ≤ 0 || p.z > maxColoredDepth then Vec3.origin else p
    ColoredPoint.ofPoint p (sample src (src.intrinsics.project (src.extrinsics.transform p))))

end CloudBuilder

end Rgbd
