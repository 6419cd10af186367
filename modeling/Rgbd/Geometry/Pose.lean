import Rgbd.Geometry.Vec

/-!
Rigid transforms between the optical frames of two streams.

`to = rotation · from + translation`, translation in meters. A matrix times a vector sums
its three products from the first column to the last, so row `i` of a product is
`(r i 0 · x + r i 1 · y) + r i 2 · z`. The rotation is taken as given: its inverse is its
transpose even when it is not orthonormal.
-/

namespace Rgbd

/-- A 3×3 binary32 matrix, given by its rows. -/
structure Matrix3 where
  row0 : Vec3
  row1 : Vec3
  row2 : Vec3
  deriving Inhabited

namespace Matrix3

def identity : Matrix3 := ⟨⟨1, 0, 0⟩, ⟨0, 1, 0⟩, ⟨0, 0, 1⟩⟩

def rowTimes (r v : Vec3) : Float32 := r.x * v.x + r.y * v.y + r.z * v.z

def mulVec (m : Matrix3) (v : Vec3) : Vec3 :=
  ⟨rowTimes m.row0 v, rowTimes m.row1 v, rowTimes m.row2 v⟩

def transpose (m : Matrix3) : Matrix3 :=
  ⟨⟨m.row0.x, m.row1.x, m.row2.x⟩, ⟨m.row0.y, m.row1.y, m.row2.y⟩,
    ⟨m.row0.z, m.row1.z, m.row2.z⟩⟩

def ofColumnMajor (a : Array Float32) : Matrix3 :=
  let e := fun i => a.getD i 0
  ⟨⟨e 0, e 3, e 6⟩, ⟨e 1, e 4, e 7⟩, ⟨e 2, e 5, e 8⟩⟩

def toColumnMajor (m : Matrix3) : List Float32 :=
  [m.row0.x, m.row1.x, m.row2.x, m.row0.y, m.row1.y, m.row2.y, m.row0.z, m.row1.z, m.row2.z]

def toRowMajor (m : Matrix3) : List Float32 := m.row0.toList ++ m.row1.toList ++ m.row2.toList

end Matrix3

/-- The rigid transform taking points of one camera frame into another's. -/
structure Extrinsics where
  rotation : Matrix3
  translation : Vec3
  deriving Inhabited

namespace Extrinsics

def identity : Extrinsics := ⟨Matrix3.identity, Vec3.zero⟩

def ofColumnMajor (rotation : Array Float32) (translation : Vec3) : Extrinsics :=
  ⟨Matrix3.ofColumnMajor rotation, translation⟩

def transform (e : Extrinsics) (p : Vec3) : Vec3 := (e.rotation.mulVec p).add e.translation

/-- The transform going the opposite way: the transposed rotation, and the rotated
translation negated. -/
def inverse (e : Extrinsics) : Extrinsics :=
  let r := e.rotation.transpose
  ⟨r, (r.mulVec e.translation).neg⟩

def baseline (e : Extrinsics) : Float32 := e.translation.norm

end Extrinsics

end Rgbd
