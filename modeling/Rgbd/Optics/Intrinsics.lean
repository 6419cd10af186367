import Rgbd.Optics.Distortion
import Rgbd.Geometry.Pose

/-!
The pinhole camera of a video stream.

Deprojection turns a pixel and a measured depth into a point of the camera frame;
projection turns a point back into the pixel it is imaged at. Principal point and focal
lengths are in pixels, and distortion is compensated on normalized coordinates.
-/

namespace Rgbd

def Float32.ofWord (n : Nat) : Float32 := n.toUInt64.toFloat32

/-- Intrinsic parameters of one video stream as the device reports them. -/
structure Intrinsics where
  width : Nat
  height : Nat
  ppx : Float32
  ppy : Float32
  fx : Float32
  fy : Float32
  model : Distortion
  coeffs : Coefficients
  deriving Inhabited

namespace Intrinsics

def plain (width height : Nat) (fx fy ppx ppy : Float32) : Intrinsics :=
  ⟨width, height, ppx, ppy, fx, fy, .none, Coefficients.zero⟩

/-- An ideal camera with its principal point in the image center,
`(w / 2 - 0.5, h / 2 - 0.5)`. -/
def centered (width height : Nat) (focal : Float32) : Intrinsics :=
  plain width height focal focal (Float32.ofWord width / 2 - 0.5) (Float32.ofWord height / 2 - 0.5)

def contains (i : Intrinsics) (p : Pixel) : Bool :=
  p.x ≥ 0 && p.y ≥ 0 && p.x < Float32.ofWord i.width && p.y < Float32.ofWord i.height

def pixelCount (i : Intrinsics) : Nat := i.width * i.height

def deproject (i : Intrinsics) (pixel : Pixel) (depth : Float32) : Vec3 :=
  let x := (pixel.x - i.ppx) / i.fx
  let y := (pixel.y - i.ppy) / i.fy
  let (x, y) := i.model.undistort i.coeffs x y
  ⟨depth * x, depth * y, depth⟩

def project (i : Intrinsics) (p : Vec3) : Pixel :=
  let x := p.x / p.z
  let y := p.y / p.z
  let (x, y) := i.model.distort i.coeffs x y
  ⟨x * i.fx + i.ppx, y * i.fy + i.ppy⟩

end Intrinsics

/-- Per-frame calibration published with every image: each stream is its own monocular
camera, so rectification is the identity and the projection has no baseline. Matrices are
kept row after row. -/
structure CalibrationRecord where
  width : Nat
  height : Nat
  k : List Float32
  p : List Float32
  r : List Float32
  d : List Float32
  distortionModel : String
  deriving Inhabited

def plumbBob : String := "plumb_bob"

def Intrinsics.calibration (i : Intrinsics) : CalibrationRecord :=
  { width := i.width
    height := i.height
    k := [i.fx, 0, i.ppx, 0, i.fy, i.ppy, 0, 0, 1]
    p := [i.fx, 0, i.ppx, 0, 0, i.fy, i.ppy, 0, 0, 0, 1, 0]
    r := Matrix3.identity.toRowMajor
    d := i.coeffs.toList
    distortionModel := plumbBob }

end Rgbd
