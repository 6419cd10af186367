import Rgbd.Stream

/-!
Sensor modules and the stream profiles they offer.

A device groups its streams into sensor modules that are opened, started and stopped
together. Five module names are known, each serving a fixed set of standard streams.
-/

namespace Rgbd

/-- A stream configuration a sensor module can deliver. Inertial profiles have zero width
and height. -/
structure StreamProfile where
  key : StreamKey
  format : PixelFormat
  width : Nat
  height : Nat
  fps : Nat
  deriving Repr, DecidableEq, Inhabited

def StreamProfile.motion (key : StreamKey) (fps : Nat) : StreamProfile :=
  ⟨key, .motionXyz32f, 0, 0, fps⟩

def StreamProfile.geometry (p : StreamProfile) : StreamGeometry :=
  ⟨p.width, p.height, p.format, p.fps⟩

/-- A named group of streams sharing one sensor. -/
structure SensorModule where
  name : String
  profiles : List StreamProfile
  deriving Repr, DecidableEq, Inhabited

/-- What a device says about itself. -/
structure DeviceInfo where
  name : String
  serialNumber : String
  firmwareVersion : String
  productId : String
  deriving Repr, DecidableEq, Inhabited

def moduleStreams : String → Option (List StreamKey)
  | "Stereo Module" => some [.depth, .infra1, .infra2]
  | "Coded-Light Depth Sensor" => some [.depth, .infra1]
  | "RGB Camera" => some [.color]
  | "Wide FOV Camera" => some [.fisheye]
  | "Motion Module" => some [.gyro, .accel]
  | _ => none

end Rgbd
