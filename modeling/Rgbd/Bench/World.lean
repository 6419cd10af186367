import Rgbd.Device

/-!
A scripted bench to run nodes on.

The bench holds one device whose modules, calibration and failures are given by a script,
a provider from which the device can be detached, a publisher, and a manual clock. Every
call that changes the world is written to one event log, in call order: acquisitions,
openings, starts and stops with whether they succeeded, and, with the recording publisher,
every message published. The counting publisher counts messages per channel instead and
logs nothing; every topic has subscribers then.

The device answers as follows. A profile's intrinsics are centered, with a focal length
of the profile's width, unless the script gives some of their fields. Inertial streams have
unit calibration, and the extrinsics to a stream are the identity unless the script gives
them. A successful start adds the sink to its module's list; sinks are never removed.
-/

namespace Rgbd

/-- The fields of intrinsics a script gives; the width, height, focal lengths and
principal point default to those of the profile, the model and coefficients to none. -/
structure IntrinsicsPatch where
  width : Option Nat := none
  height : Option Nat := none
  fx : Option Float32 := none
  fy : Option Float32 := none
  ppx : Option Float32 := none
  ppy : Option Float32 := none
  model : Distortion := .none
  coeffs : Coefficients := Coefficients.zero

/-- The intrinsics of a `width × height` profile: focal length `width`, principal point
at the center of the pixel grid. -/
def defaultIntrinsics (width height : Nat) : Intrinsics :=
  Intrinsics.centered width height (Float32.ofWord width)

def IntrinsicsPatch.apply (q : IntrinsicsPatch) (i : Intrinsics) : Intrinsics :=
  { width := q.width.getD i.width, height := q.height.getD i.height, fx := q.fx.getD i.fx,
    fy := q.fy.getD i.fy, ppx := q.ppx.getD i.ppx, ppy := q.ppy.getD i.ppy, model := q.model,
    coeffs := q.coeffs }

/-- Which device calls fail. Streams are named by their display names. -/
structure FailSet where
  depthScale : Bool := false
  intrinsics : List String := []
  motionIntrinsics : List String := []
  extrinsics : List String := []
  openModules : List String := []
  start : List String := []
  stop : List String := []

/-- The script of a bench device. -/
structure BenchDevice where
  serial : String := "0001"
  modules : List SensorModule
  depthScale : Float32 := 0.001
  intrinsics : List (String × IntrinsicsPatch) := []
  extrinsics : List (String × Extrinsics) := []
  fail : FailSet := {}

namespace BenchDevice

/-- The modules of the default device: a stereo module, a color camera with two rates and
an inertial module. -/
def defaultModules : List SensorModule :=
  [ ⟨"Stereo Module", [⟨.depth, .z16, 8, 6, 30⟩, ⟨.infra1, .y8, 8, 6, 30⟩, ⟨.infra2, .y8, 8, 6, 30⟩]⟩,
    ⟨"RGB Camera", [⟨.color, .rgb8, 8, 6, 30⟩, ⟨.color, .rgb8, 8, 6, 15⟩]⟩,
    ⟨"Motion Module", [.motion .gyro 200, .motion .accel 250]⟩ ]

def info (d : BenchDevice) : DeviceInfo := ⟨"Mock D400", d.serial, "5.13.0", "0b07"⟩

def intrinsicsOf (d : BenchDevice) (p : StreamProfile) : Except DeviceError Intrinsics :=
  if d.fail.intrinsics.contains p.key.name then .error ⟨"no intrinsics for " ++ p.key.name⟩
  else
    let i := defaultIntrinsics p.width p.height
    .ok (match d.intrinsics.lookup p.key.name with
      | some q => q.apply i
      | none => i)

def motionIntrinsicsOf (d : BenchDevice) (p : StreamProfile) : Except DeviceError MotionIntrinsics :=
  if d.fail.motionIntrinsics.contains p.key.name then
    .error ⟨"no motion intrinsics for " ++ p.key.name⟩
  else .ok MotionIntrinsics.unit

def extrinsicsTo (d : BenchDevice) (p : StreamProfile) : Except DeviceError Extrinsics :=
  if d.fail.extrinsics.contains p.key.name then .error ⟨"no extrinsics to " ++ p.key.name⟩
  else .ok ((d.extrinsics.lookup p.key.name).getD .identity)

def depthScaleOf (d : BenchDevice) (m : String) : Except DeviceError Float32 :=
  if d.fail.depthScale then .error ⟨"depth scale unavailable on " ++ m⟩ else .ok d.depthScale

end BenchDevice

/-- One entry of the bench's event log. -/
inductive BenchEvent where
  | acquire (serial : Option String) (found : Bool)
  | openModule (m : String) (ok : Bool) (profiles : List StreamProfile)
  | start (m : String) (ok : Bool)
  | stop (m : String) (ok : Bool)
  | published (p : Publication)

/-- How the bench takes messages. -/
inductive BenchPublisher where
  | recorder (subscriptions : Option (List String))
  | counter (counts : List (String × Nat))

/-- The state of a bench. -/
structure Bench where
  device : BenchDevice
  attached : Bool := true
  acquisitions : Nat := 0
  sinks : List (String × List Sink) := []
  wall : SystemTime := SystemTime.ofParts 1000 0
  monotonic : Instant := ⟨0⟩
  publisher : BenchPublisher := .recorder none
  log : List BenchEvent := []

namespace Bench

def record (e : BenchEvent) (b : Bench) : Bench := { b with log := e :: b.log }

def events (b : Bench) : List BenchEvent := b.log.reverse

/-- The sink a module was started with: the latest one, or the one with the given
position among all it was started with. -/
def sinkOf (b : Bench) (m : String) (index : Option Nat) : Option Sink :=
  let sinks := (b.sinks.lookup m).getD []
  match index with
  | some i => sinks[i]?
  | none => sinks.getLast?

def addSink (m : String) (s : Sink) (b : Bench) : Bench :=
  if b.sinks.any (·.1 == m) then
    { b with sinks := b.sinks.map fun (n, ss) => if n == m then (n, ss ++ [s]) else (n, ss) }
  else { b with sinks := b.sinks ++ [(m, [s])] }

def advance (d : Duration) (b : Bench) : Bench :=
  { b with wall := b.wall.advance d, monotonic := b.monotonic.add d }

def outcome (fails : Bool) (message : String) : Except DeviceError Unit :=
  if fails then .error ⟨message⟩ else .ok ()

instance : Provider Bench where
  acquire serial := modifyGet fun b =>
    let found := b.attached && (serial.all (· == b.device.serial))
    let b := if found then { b with acquisitions := b.acquisitions + 1 } else b
    (found, b.record (.acquire serial found))

instance : Camera Bench where
  info b := b.device.info
  modules b := b.device.modules
  depthScale b m := b.device.depthScaleOf m
  intrinsics b p := b.device.intrinsicsOf p
  motionIntrinsics b p := b.device.motionIntrinsicsOf p
  extrinsics b _ p := b.device.extrinsicsTo p
  openModule m ps := modifyGet fun b =>
    let fails := b.device.fail.openModules.contains m
    (outcome fails ("failed to open " ++ m), b.record (.openModule m (!fails) ps))
  start m s := modifyGet fun b =>
    let fails := b.device.fail.start.contains m
    let b := if fails then b else b.addSink m s
    (outcome fails "usb transfer failed", b.record (.start m (!fails)))
  stop m := modifyGet fun b =>
    let fails := b.device.fail.stop.contains m
    (outcome fails ("failed to stop " ++ m), b.record (.stop m (!fails)))

instance : Publisher Bench where
  subscribed b t := match b.publisher with
    | .recorder none => true
    | .recorder (some names) => names.contains t.name
    | .counter _ => true
  publish p := modify fun b => match b.publisher with
    | .recorder _ => b.record (.published p)
    | .counter counts => { b with publisher := .counter (tallyChannel p.channel counts) }

instance : HostClock Bench where
  now b := b.wall
  monotonic b := b.monotonic

end Bench

end Rgbd
