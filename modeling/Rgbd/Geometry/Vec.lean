/-!
Points and displacements in a camera's optical frame.

Coordinates are binary32 meters: `x` points right, `y` down and `z` forwards out of the
optical center, so the depth of a point is its `z`. Arithmetic is done in binary32 in the
order written, one rounding per operation.
-/

namespace Rgbd

/-- A binary32 point or displacement in a camera frame. -/
structure Vec3 where
  x : Float32
  y : Float32
  z : Float32
  deriving Inhabited

namespace Vec3

def zero : Vec3 := ⟨0, 0, 0⟩

def origin : Vec3 := zero

def depth (p : Vec3) : Float32 := p.z

/-- Equality with the origin under binary32 comparison: `-0.0` counts as zero, NaN as
nothing. -/
def isOrigin (p : Vec3) : Bool := p.x == 0 && p.y == 0 && p.z == 0

def add (a b : Vec3) : Vec3 := ⟨a.x + b.x, a.y + b.y, a.z + b.z⟩

def neg (a : Vec3) : Vec3 := ⟨-a.x, -a.y, -a.z⟩

def normSquared (a : Vec3) : Float32 := a.x * a.x + a.y * a.y + a.z * a.z

def norm (a : Vec3) : Float32 := a.normSquared.sqrt

def toList (a : Vec3) : List Float32 := [a.x, a.y, a.z]

end Vec3

/-- A pixel location: `x` grows to the right and `y` downwards, with the center of the
top-left pixel at `(0, 0)`. -/
structure Pixel where
  x : Float32
  y : Float32
  deriving Inhabited

end Rgbd
