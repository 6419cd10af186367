import Rgbd.Json.Value
import Rgbd.Publish
import Rgbd.Sensor
import Rgbd.Error
import Rgbd.Clock
import Rgbd.Watchdog
import Rgbd.Filter.Chain
import Rgbd.Settings.Basic

/-!
JSON forms of the library's values.

Binary32 values are written as the binary64 value they widen to. JSON has no literal for
NaN or the infinities, so those are written as the strings `"NaN"`, `"inf"` and `"-inf"`.
Times are `[seconds, nanoseconds]` pairs, with the seconds signed for wall-clock times.
Images are objects with their dimensions and their samples row after row, each color pixel
as three bytes. Errors are objects naming their kind and their message.
-/

namespace Rgbd

namespace Json

def ofFloat (x : Float) : Json :=
  if x.isNaN then .str "NaN"
  else if x.isInf then .str (if x > 0 then "inf" else "-inf")
  else .float x

def ofFloat32 (x : Float32) : Json := ofFloat x.toFloat

def ofFloats32 (xs : List Float32) : Json := .arr (xs.map ofFloat32)

def pair (a b : Nat) : Json := .arr [.nat a, .nat b]

def error (kind message : String) : Json := .obj [("error", .str kind), ("message", .str message)]

def ok : Json := .obj [("ok", .bool true)]

end Json

def Vec3.toJson (p : Vec3) : Json := Json.ofFloats32 p.toList

def Pixel.toJson (p : Pixel) : Json := Json.ofFloats32 [p.x, p.y]

def StreamKey.toJson (k : StreamKey) : Json := .str k.name

def Intrinsics.toJson (i : Intrinsics) : Json :=
  .obj [("width", .nat i.width), ("height", .nat i.height), ("ppx", .ofFloat32 i.ppx),
    ("ppy", .ofFloat32 i.ppy), ("fx", .ofFloat32 i.fx), ("fy", .ofFloat32 i.fy),
    ("model", .str i.model.name), ("coeffs", .ofFloats32 i.coeffs.toList)]

def Extrinsics.toJson (e : Extrinsics) : Json :=
  .obj [("rotation", .ofFloats32 e.rotation.toColumnMajor), ("translation", e.translation.toJson)]

def CalibrationRecord.toJson (c : CalibrationRecord) : Json :=
  .obj [("width", .nat c.width), ("height", .nat c.height), ("k", .ofFloats32 c.k),
    ("p", .ofFloats32 c.p), ("r", .ofFloats32 c.r), ("d", .ofFloats32 c.d),
    ("distortion_model", .str c.distortionModel)]

def MotionIntrinsics.toJson (m : MotionIntrinsics) : Json :=
  .obj [("data", .ofFloats32 m.flattened), ("noise_variances", m.noiseVariances.toJson),
    ("bias_variances", m.biasVariances.toJson)]

def Rgb.samples (c : Rgb) : List Json := [.nat c.r.toNat, .nat c.g.toNat, .nat c.b.toNat]

def Raster.members {α : Type} (f : α → List Json) (r : Raster α) : List (String × Json) :=
  [("width", .nat r.width), ("height", .nat r.height), ("data", .arr (r.toList.flatMap f))]

def DepthImage.toJson (d : DepthImage) : Json := .obj (d.members fun v => [.nat v.toNat])

def ColorImage.toJson (c : ColorImage) : Json := .obj (c.members Rgb.samples)

def GrayImage.toJson (g : GrayImage) : Json := .obj (g.members fun v => [.nat v.toNat])

def FloatImage.toJson (f : FloatImage) : Json := .obj (f.members fun v => [.ofFloat32 v])

def FrameData.toJson : FrameData → Json
  | .depth d => .obj (("kind", .str "depth") :: d.members fun v => [.nat v.toNat])
  | .color c => .obj (("kind", .str "color") :: c.members Rgb.samples)
  | .gray g => .obj (("kind", .str "gray") :: g.members fun v => [.nat v.toNat])
  | .motion v => .obj [("kind", .str "motion"), ("xyz", v.toJson)]

def ColoredPoint.toJson (p : ColoredPoint) : Json :=
  .arr [.ofFloat32 p.x, .ofFloat32 p.y, .ofFloat32 p.z, .nat p.rgb.toNat]

def OrganizedCloud.toJson {P : Type} (f : P → Json) (c : OrganizedCloud P) : Json :=
  .obj [("width", .nat c.width), ("height", .nat c.height), ("points", .arr (c.points.map f))]

def SystemTime.toJson (t : SystemTime) : Json := .arr [.int t.secs, .nat t.subsecNanos]

def Duration.toJson (d : Duration) : Json := Json.pair d.secs d.subsecNanos

def ClockBase.toJson (b : ClockBase) : Json :=
  .obj [("host", b.host.toJson), ("device", .ofFloat b.device)]

def WatchdogState.toJson : WatchdogState → Json
  | .inactive => .str "Inactive"
  | .fired => .str "Fired"
  | .armed d => .obj [("armed", d.sinceBase.toJson)]

def FilterSettings.toJson (f : FilterSettings) : Json :=
  .obj [("depth_to_disparity", .bool f.depthToDisparity), ("spatial", .bool f.spatial),
    ("temporal", .bool f.temporal), ("disparity_to_depth", .bool f.disparityToDepth)]

def FilterChain.stagesJson (c : FilterChain) : Json :=
  .arr (c.stages.map fun (s, on) => .arr [.str s.name, .bool on])

def StreamGeometry.toJson (g : StreamGeometry) : Json :=
  .obj [("width", .nat g.width), ("height", .nat g.height), ("format", .str g.format.name),
    ("fps", .nat g.fps)]

def StreamProfile.toJson (p : StreamProfile) : Json :=
  .obj [("stream", p.key.toJson), ("format", .str p.format.name), ("width", .nat p.width),
    ("height", .nat p.height), ("fps", .nat p.fps)]

def SensorModule.toJson (m : SensorModule) : Json :=
  .obj [("name", .str m.name), ("profiles", .arr (m.profiles.map StreamProfile.toJson))]

def DeviceInfo.toJson (i : DeviceInfo) : Json :=
  .arr [.str i.name, .str i.serialNumber, .str i.firmwareVersion, .str i.productId]

def DeviceError.toJson (e : DeviceError) : Json := Json.error "DeviceError" e.message

def EngineError.toJson (e : EngineError) : Json :=
  match e with
  | .streaming s =>
    .obj [("error", .str e.kind), ("message", .str e.message), ("action", .str s.action),
      ("failures", .arr (s.failures.map fun (m, d) => .arr [.str m, .str d.message]))]
  | _ => Json.error e.kind e.message

def AlignError.toJson (e : AlignError) : Json := Json.error e.kind e.message

def CloudError.toJson (e : CloudError) : Json := Json.error e.kind e.message

def FilterOrder.toJson (e : FilterOrder) : Json := (EngineError.filterOrder e).toJson

def StreamSettings.toJson (s : StreamSettings) : Json :=
  .obj [("enabled", .bool s.enabled), ("width", .nat s.width), ("height", .nat s.height),
    ("fps", .nat s.fps), ("format", match s.format with
      | some f => .str f.name
      | none => .null)]

/-- Settings with what they imply: per stream whether it is enabled and the format it is
requested in, and the watchdog timeout as a duration. -/
def Settings.report (s : Settings) : Json :=
  let stream := fun (k : StreamKey) (st : StreamSettings) =>
    match st.toJson with
    | .obj ms => (k.name, Json.obj (ms ++ [("effective_format", .str (s.format k).name),
        ("is_enabled", .bool (s.isEnabled k))]))
    | j => (k.name, j)
  .obj [("streams", .obj [stream .depth s.depth, stream .infra1 s.infra1, stream .infra2 s.infra2,
      stream .color s.color, stream .fisheye s.fisheye, stream .gyro s.gyro, stream .accel s.accel]),
    ("align_depth", .bool s.alignDepth), ("pointcloud", .bool s.pointcloud),
    ("sync_frames", .bool s.syncFrames), ("host_time", .bool s.hostTime),
    ("watchdog_timeout_secs", .ofFloat s.watchdogTimeoutSecs),
    ("watchdog_timeout", s.watchdogTimeout.toJson),
    ("serial_no", match s.serialNo with
      | some n => .str n
      | none => .null),
    ("filters", s.filters.toJson), ("output_depth_unit", .ofFloat32 s.outputDepthUnit)]

def Publication.toJson : Publication → Json
  | .image k st data cal =>
    .obj [("publish", .str "image"), ("stream", k.toJson), ("seq", .nat st.seq),
      ("time", st.time.toJson), ("image", data.toJson), ("calibration", cal.toJson)]
  | .alignedDepth k st depth cal =>
    .obj [("publish", .str "aligned_depth"), ("target", k.toJson), ("seq", .nat st.seq),
      ("time", st.time.toJson), ("depth", depth.toJson), ("calibration", cal.toJson)]
  | .depthCloud t c =>
    .obj [("publish", .str "depth_cloud"), ("time", t.toJson), ("cloud", c.toJson Vec3.toJson)]
  | .coloredCloud t c =>
    .obj [("publish", .str "colored_cloud"), ("time", t.toJson),
      ("cloud", c.toJson ColoredPoint.toJson)]
  | .extrinsics label e =>
    .obj [("publish", .str "extrinsics"), ("label", .str label), ("extrinsics", e.toJson)]
  | .imu s =>
    .obj [("publish", .str "imu"), ("stream", s.stream.toJson), ("seq", .nat s.stamp.seq),
      ("time", s.stamp.time.toJson), ("reading", .str s.reading.name),
      ("xyz", s.reading.axes.toJson)]
  | .imuInfo k m =>
    .obj [("publish", .str "imu_info"), ("stream", k.toJson), ("intrinsics", m.toJson)]

end Rgbd
