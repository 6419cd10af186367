import Rgbd.Topic
import Rgbd.Frame
import Rgbd.Imu
import Rgbd.Cloud
import Rgbd.Optics.Intrinsics

/-!
What a node hands to its consumers.

Per-frame messages carry a `Stamp`. Images are published with the calibration of their
stream, aligned depth with the calibration of the stream it is aligned to. Extrinsics and
the calibration of inertial streams change only with the configuration, so they are
published once per pipeline.
-/

namespace Rgbd

/-- One message handed to the consumers. -/
inductive Publication where
  | image (stream : StreamKey) (stamp : Stamp) (data : FrameData)
      (calibration : CalibrationRecord)
  | alignedDepth (target : StreamKey) (stamp : Stamp) (depth : DepthImage)
      (calibration : CalibrationRecord)
  | depthCloud (time : SystemTime) (cloud : OrganizedCloud Vec3)
  | coloredCloud (time : SystemTime) (cloud : OrganizedCloud ColoredPoint)
  | extrinsics (label : String) (e : Extrinsics)
  | imu (sample : ImuSample)
  | imuInfo (stream : StreamKey) (intrinsics : MotionIntrinsics)

def extrinsicsLabel (k : StreamKey) : String := "depth_to_" ++ k.name ++ "_extrinsics"

/-- The name a message is counted under: its topic's name, the label of extrinsics, and
`<stream>/imu_info` for inertial calibration. -/
def Publication.channel : Publication → String
  | .image k .. => (Topic.image k).name
  | .alignedDepth k .. => (Topic.alignedDepth k).name
  | .depthCloud .. => Topic.depthCloud.name
  | .coloredCloud .. => Topic.coloredCloud.name
  | .extrinsics label _ => label
  | .imu s => (Topic.imu s.stream).name
  | .imuInfo k _ => k.name ++ "/imu_info"

def tallyChannel (c : String) : List (String × Nat) → List (String × Nat)
  | [] => [(c, 1)]
  | (d, n) :: rest =>
    if c < d then (c, 1) :: (d, n) :: rest
    else if c = d then (d, n + 1) :: rest
    else (d, n) :: tallyChannel c rest

end Rgbd
