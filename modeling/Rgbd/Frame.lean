import Rgbd.Stream
import Rgbd.Image
import Rgbd.Geometry.Vec

/-!
Frames a device delivers.

A frame carries the pixels of one stream at one instant, or one inertial sample, with the
device's frame number and timestamp (milliseconds on the clock its domain names). A
delivery is one frame, or a set of frames captured together.
-/

namespace Rgbd

/-- Pixels or samples carried by a frame. -/
inductive FrameData where
  | depth (image : DepthImage)
  | color (image : ColorImage)
  | gray (image : GrayImage)
  | motion (axes : Vec3)
  deriving Inhabited

namespace FrameData

def blank (g : StreamGeometry) : Option FrameData :=
  match g.format with
  | .z16 => some (.depth (Raster.fill g.width g.height 0))
  | .rgb8 => some (.color (Raster.fill g.width g.height ⟨0, 0, 0⟩))
  | .y8 | .raw8 => some (.gray (Raster.fill g.width g.height 0))
  | .motionXyz32f => none

def dimensions : FrameData → Option (Nat × Nat)
  | .depth i => some i.dimensions
  | .color i => some i.dimensions
  | .gray i => some i.dimensions
  | .motion _ => none

/-- The buffer after copying `other` into it: `none`, with nothing copied, when the kinds
or the dimensions differ. -/
def copyFrom? (buffer other : FrameData) : Option FrameData :=
  match buffer, other with
  | .depth a, .depth b => (a.copyFrom? b).map .depth
  | .color a, .color b => (a.copyFrom? b).map .color
  | .gray a, .gray b => (a.copyFrom? b).map .gray
  | _, _ => none

end FrameData

/-- One frame of one stream. -/
structure Frame where
  key : StreamKey
  number : Nat
  timestamp : Float
  domain : TimestampDomain
  data : FrameData
  deriving Inhabited

/-- One invocation of a frame sink. -/
inductive Delivery where
  | single (frame : Frame)
  | set (frames : List Frame)
  deriving Inhabited

namespace Delivery

def isSet : Delivery → Bool
  | .set _ => true
  | .single _ => false

def frames : Delivery → List Frame
  | .single f => [f]
  | .set fs => fs

end Delivery

end Rgbd
