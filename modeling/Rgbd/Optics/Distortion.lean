import Rgbd.Geometry.Vec

/-!
Lens distortion models.

Distortion acts on normalized coordinates, the pixel offset from the principal point
divided by the focal length. The Brown–Conrady variants share five coefficients
`k1 k2 p1 p2 k3`: three radial terms and two tangential terms. The equidistant fisheye
model uses `k1` alone, as its field-of-view parameter.

A model without a closed-form inverse is inverted by ten rounds of fixed-point iteration
started at the distorted point. All arithmetic is binary32 in the order written.
-/

namespace Rgbd

/-- The lens distortion model of a stream. -/
inductive Distortion where
  | none
  | modifiedBrownConrady
  | inverseBrownConrady
  | brownConrady
  | fTheta
  deriving Repr, DecidableEq, Inhabited

/-- The five distortion coefficients. -/
structure Coefficients where
  k1 : Float32
  k2 : Float32
  p1 : Float32
  p2 : Float32
  k3 : Float32
  deriving Inhabited

namespace Coefficients

def zero : Coefficients := ⟨0, 0, 0, 0, 0⟩

def toList (c : Coefficients) : List Float32 := [c.k1, c.k2, c.p1, c.p2, c.k3]

def ofList (l : List Float32) : Coefficients :=
  ⟨l.getD 0 0, l.getD 1 0, l.getD 2 0, l.getD 3 0, l.getD 4 0⟩

def radial (c : Coefficients) (r2 : Float32) : Float32 :=
  1 + ((c.k3 * r2 + c.k2) * r2 + c.k1) * r2

def tangential (c : Coefficients) (x y r2 : Float32) : Float32 × Float32 :=
  (2 * c.p1 * x * y + c.p2 * (r2 + 2 * x * x), 2 * c.p2 * x * y + c.p1 * (r2 + 2 * y * y))

def brownConrady (c : Coefficients) (x y : Float32) : Float32 × Float32 :=
  let r2 := x * x + y * y
  let f := c.radial r2
  let (dx, dy) := c.tangential x y r2
  (x * f + dx, y * f + dy)

/-- One round of the fixed-point inversion of Brown–Conrady towards `(u, v)`. With
`scaled` the tangential terms are taken at the radially scaled point, which inverts the
modified variant instead. -/
def invertStep (c : Coefficients) (scaled : Bool) (u v : Float32) (p : Float32 × Float32) :
    Float32 × Float32 :=
  let (x, y) := p
  let r2 := x * x + y * y
  let f := c.radial r2
  let (dx, dy) := if scaled then c.tangential (x * f) (y * f) r2 else c.tangential x y r2
  ((u - dx) / f, (v - dy) / f)

def invertBrownConrady (c : Coefficients) (scaled : Bool) (u v : Float32) : Float32 × Float32 :=
  (List.replicate 10 ()).foldl (fun p _ => c.invertStep scaled u v p) (u, v)

end Coefficients

def float32Epsilon : Float32 := Float32.ofBits 0x34000000

def maxNum (a b : Float32) : Float32 :=
  if a.isNaN then b else if b.isNaN then a else if a < b then b else a

def clampedRadius (x y : Float32) : Float32 := maxNum (x * x + y * y).sqrt float32Epsilon

namespace Distortion

def distort (model : Distortion) (c : Coefficients) (x y : Float32) : Float32 × Float32 :=
  match model with
  | none => (x, y)
  | brownConrady => c.brownConrady x y
  | modifiedBrownConrady =>
    let r2 := x * x + y * y
    let f := c.radial r2
    let (x, y) := (x * f, y * f)
    let (dx, dy) := c.tangential x y r2
    (x + dx, y + dy)
  | inverseBrownConrady => c.invertBrownConrady false x y
  | fTheta =>
    let r := clampedRadius x y
    let k := c.k1
    let rd := (2 * r * (k / 2).tan).atan / k
    (x * rd / r, y * rd / r)

def undistort (model : Distortion) (c : Coefficients) (x y : Float32) : Float32 × Float32 :=
  match model with
  | none => (x, y)
  | brownConrady => c.invertBrownConrady false x y
  | modifiedBrownConrady => c.invertBrownConrady true x y
  | inverseBrownConrady => c.brownConrady x y
  | fTheta =>
    let rd := clampedRadius x y
    let k := c.k1
    let r := (k * rd).tan / (2 * (k / 2).tan)
    (x * r / rd, y * r / rd)

def all : List Distortion := [none, modifiedBrownConrady, inverseBrownConrady, brownConrady, fTheta]

def name : Distortion → String
  | none => "None"
  | modifiedBrownConrady => "ModifiedBrownConrady"
  | inverseBrownConrady => "InverseBrownConrady"
  | brownConrady => "BrownConrady"
  | fTheta => "FTheta"

def ofName? (s : String) : Option Distortion := all.find? (·.name == s)

end Distortion

end Rgbd
