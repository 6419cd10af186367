import Rgbd.Geometry.Pose
import Rgbd.Stream
import Rgbd.Time

/-!
Inertial streams.

A gyroscope sample is an angular velocity in radians per second, an accelerometer sample
a linear acceleration in meters per second squared. Their calibration is a 3×4 matrix whose
first three columns scale and mix the axes and whose last column is the bias, with the
variances of the noise and of the bias per axis.
-/

namespace Rgbd

/-- Calibration of an inertial stream. -/
structure MotionIntrinsics where
  scale : Matrix3
  bias : Vec3
  noiseVariances : Vec3
  biasVariances : Vec3
  deriving Inhabited

namespace MotionIntrinsics

def unit : MotionIntrinsics := ⟨Matrix3.identity, Vec3.zero, Vec3.zero, Vec3.zero⟩

def flattened (m : MotionIntrinsics) : List Float32 :=
  m.scale.row0.toList ++ [m.bias.x] ++ m.scale.row1.toList ++ [m.bias.y] ++
    m.scale.row2.toList ++ [m.bias.z]

end MotionIntrinsics

/-- One inertial reading. -/
inductive ImuReading where
  | angularVelocity (v : Vec3)
  | linearAcceleration (v : Vec3)
  deriving Inhabited

namespace ImuReading

def ofSample (k : StreamKey) (v : Vec3) : ImuReading :=
  if k.modality == .gyro then .angularVelocity v else .linearAcceleration v

def name : ImuReading → String
  | angularVelocity _ => "AngularVelocity"
  | linearAcceleration _ => "LinearAcceleration"

def axes : ImuReading → Vec3
  | angularVelocity v | linearAcceleration v => v

end ImuReading

/-- The header of every per-frame message: its time and its sequence number in its
stream, counted from one. -/
structure Stamp where
  time : SystemTime
  seq : Nat
  deriving Inhabited

structure ImuSample where
  stream : StreamKey
  stamp : Stamp
  reading : ImuReading
  deriving Inhabited

end Rgbd
