import Rgbd.Device
import Rgbd.Frame
import Rgbd.Time

/-!
A synthetic camera that images a tilted plane in front of a color gradient.

The camera has a stereo module (depth and two infrared imagers), a color camera and an
inertial module, all video at one size and rate. Its frames depend only on the frame
number: depth rises towards the bottom of the image and to the right, with a hole in the
top left corner, and its phase cycles with the frame number; color is a horizontal and
vertical gradient; the gyroscope turns slowly about the vertical axis and the
accelerometer reads gravity. Pixel arithmetic wraps at the width of the pixel type.

A started module delivers one tick after another, its frames numbered from one. The
stereo module delivers each tick's frames as one set, the other modules one frame at a
time. A camera can stall: from some time after it was made it delivers nothing, until a
module is stopped.
-/

namespace Rgbd

namespace Synthetic

def stereo : String := "Stereo Module"
def rgb : String := "RGB Camera"
def inertial : String := "Motion Module"

def gyroFps : Nat := 200
def accelFps : Nat := 250

def depthAt (width height phase x y : Nat) : UInt16 :=
  if x < width / 8 ∧ y < height / 8 then 0
  else 800 + 6 * (height - y).toUInt16 + x.toUInt16 + phase.toUInt16

def gradient (v n : Nat) : UInt8 := (v.toUInt32 * 255 / (max n 1).toUInt32).toUInt8

def frame (width height : Nat) (p : StreamProfile) (number : Nat) (timestamp : Float) : Frame :=
  let phase := number % 64
  let data : FrameData := match p.key.modality with
    | .depth => .depth (Raster.ofFn width height (depthAt width height phase))
    | .color => .color (Raster.ofFn width height fun x y =>
        ⟨gradient x width, gradient y height, (phase * 4).toUInt8⟩)
    | .gyro => .motion ⟨0, 0.01 * Float32.ofNat phase, 0⟩
    | .accel => .motion ⟨0, 9.81, 0⟩
    | _ => .gray (Raster.ofFn width height fun x _ => gradient x width)
  ⟨p.key, number, timestamp, .hardwareClock, data⟩

def tick (width height : Nat) (m : String) (profiles : List StreamProfile) (number : Nat)
    (timestamp : Float) : List Delivery :=
  let frames := profiles.map fun p => frame width height p number timestamp
  if m == stereo then [.set frames] else frames.map .single

end Synthetic

/-- The state of a synthetic camera. -/
structure SyntheticCamera where
  width : Nat
  height : Nat
  fps : Nat
  stallAfter : Option Duration
  opened : List (String × List StreamProfile) := []
  running : List String := []

namespace SyntheticCamera

def new (width height fps : Nat) (stallAfter : Option Duration) : SyntheticCamera :=
  { width, height, fps := max fps 1, stallAfter }

def serial : String := "000000000001"

def info : DeviceInfo := ⟨"Synthetic D400", serial, "0.1.0", "0000"⟩

def modules (c : SyntheticCamera) : List SensorModule :=
  [ ⟨Synthetic.stereo, [⟨.depth, .z16, c.width, c.height, c.fps⟩,
      ⟨.infra1, .y8, c.width, c.height, c.fps⟩, ⟨.infra2, .y8, c.width, c.height, c.fps⟩]⟩,
    ⟨Synthetic.rgb, [⟨.color, .rgb8, c.width, c.height, c.fps⟩]⟩,
    ⟨Synthetic.inertial, [.motion .gyro Synthetic.gyroFps, .motion .accel Synthetic.accelFps]⟩ ]

def intrinsicsFor (p : StreamProfile) : Intrinsics :=
  Intrinsics.centered p.width p.height (Float32.ofWord p.width * 0.9)

/-- The transform to a stream: the second infrared imager sits 5 cm to the left, the
color camera 1.5 cm to the right, everything else in place. -/
def extrinsicsTo (p : StreamProfile) : Extrinsics :=
  let t : Vec3 := if p.key == .infra2 then ⟨-0.05, 0, 0⟩
    else if p.key == .color then ⟨0.015, 0, 0⟩
    else Vec3.zero
  ⟨Matrix3.identity, t⟩

def openModule (c : SyntheticCamera) (m : String) (profiles : List StreamProfile) :
    SyntheticCamera :=
  { c with opened := (c.opened.filter (·.1 != m)) ++ [(m, profiles)] }

def start (c : SyntheticCamera) (m : String) : Except DeviceError SyntheticCamera :=
  match c.opened.lookup m with
  | none => .error ⟨m ++ " is not open"⟩
  | some _ =>
    if c.running.contains m then .error ⟨m ++ " is already streaming"⟩
    else .ok { c with running := c.running ++ [m] }

def stop (c : SyntheticCamera) (m : String) : Except DeviceError SyntheticCamera :=
  if c.running.contains m then .ok { c with running := c.running.erase m, stallAfter := none }
  else .error ⟨m ++ " is not streaming"⟩

def period (c : SyntheticCamera) (m : String) : Duration :=
  let profiles := (c.opened.lookup m).getD []
  let fps := (profiles.map (·.fps)).max?.getD c.fps
  (Duration.ofSecondsFloat? (1 / Float.ofNat (max fps 1))).getD 0

def ticksBeforeStall (c : SyntheticCamera) (m : String) (wanted : Nat) : Nat :=
  match c.stallAfter with
  | none => wanted
  | some d =>
    let p := (c.period m).nanos
    if p = 0 then wanted else min wanted ((d.nanos + p - 1) / p - 1)

def deliveries (c : SyntheticCamera) (m : String) (count : Nat) : List Delivery :=
  let profiles := (c.opened.lookup m).getD []
  let perTick := if m == Synthetic.stereo then 1 else profiles.length
  if perTick = 0 then []
  else
    let ticks := c.ticksBeforeStall m ((count + perTick - 1) / perTick)
    let periodMs := (c.period m).nanos.toFloat / 1000000
    ((List.range ticks).flatMap fun i =>
      Synthetic.tick c.width c.height m profiles (i + 1) (Float.ofNat (i + 1) * periodMs)).take count

end SyntheticCamera

/-- A synthetic camera attached to a host whose publisher counts messages. -/
structure SyntheticRig where
  camera : SyntheticCamera
  counts : List (String × Nat) := []
  wall : SystemTime
  monotonic : Instant

namespace SyntheticRig

def onCamera (f : SyntheticCamera → Except DeviceError SyntheticCamera) :
    StateM SyntheticRig (Except DeviceError Unit) :=
  modifyGet fun r => match f r.camera with
    | .ok c => (.ok (), { r with camera := c })
    | .error e => (.error e, r)

instance : Provider SyntheticRig where
  acquire serial := pure (serial.all (· == SyntheticCamera.serial))

instance : Camera SyntheticRig where
  info _ := SyntheticCamera.info
  modules r := r.camera.modules
  depthScale _ _ := .ok 0.001
  intrinsics _ p := .ok (SyntheticCamera.intrinsicsFor p)
  motionIntrinsics _ _ := .ok MotionIntrinsics.unit
  extrinsics _ _ p := .ok (SyntheticCamera.extrinsicsTo p)
  openModule m ps := modifyGet fun r => (.ok (), { r with camera := r.camera.openModule m ps })
  start m _ := onCamera (·.start m)
  stop m := onCamera (·.stop m)

instance : Publisher SyntheticRig where
  subscribed _ _ := true
  publish p := modify fun r => { r with counts := tallyChannel p.channel r.counts }

instance : HostClock SyntheticRig where
  now r := r.wall
  monotonic r := r.monotonic

end SyntheticRig

end Rgbd
