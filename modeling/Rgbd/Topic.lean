import Rgbd.Stream

/-!
What consumers subscribe to, and the names topics are published under.
-/

namespace Rgbd

/-- Everything a consumer can subscribe to. -/
inductive Topic where
  | image (k : StreamKey)
  | alignedDepth (k : StreamKey)
  | depthCloud
  | coloredCloud
  | imu (k : StreamKey)
  deriving Repr, DecidableEq

def Topic.name : Topic → String
  | .image k =>
    if k.isDepth || k.modality == .infrared then k.name ++ "/image_rect_raw" else k.name ++ "/image_raw"
  | .alignedDepth k => "aligned_depth_to_" ++ k.name ++ "/image_raw"
  | .depthCloud => "depth/points"
  | .coloredCloud => "depth/color/points"
  | .imu k => k.name ++ "/sample"

end Rgbd
