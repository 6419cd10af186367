import Rgbd.Stream
import Rgbd.Filter.Chain
import Rgbd.Time

/-!
The configuration of a camera node.

Each of the seven standard streams can be enabled and given a requested size, rate and
format; a zero size or rate accepts whatever the device offers first. Switches turn on
depth alignment, point clouds, frame grouping and host-time stamps, and `normalized`
applies their dependencies: derived products need grouped frames, and grouped frames of
independently clocked sensors can only share a host stamp.
-/

namespace Rgbd

/-- The requested configuration of one stream. -/
structure StreamSettings where
  enabled : Bool := true
  width : Nat := 0
  height : Nat := 0
  fps : Nat := 0
  format : Option PixelFormat := none
  deriving Repr, DecidableEq, Inhabited

namespace StreamSettings

def video (width height fps : Nat) : StreamSettings := { width, height, fps }

def motion (fps : Nat) : StreamSettings := { fps }

def disabled (s : StreamSettings) : StreamSettings := { s with enabled := false }

end StreamSettings

/-- The configuration of a node. -/
structure Settings where
  depth : StreamSettings := .video 640 480 30
  infra1 : StreamSettings := .video 640 480 30
  infra2 : StreamSettings := .video 640 480 30
  color : StreamSettings := .video 640 480 30
  fisheye : StreamSettings := .video 640 480 30
  gyro : StreamSettings := .motion 200
  accel : StreamSettings := .motion 250
  alignDepth : Bool := false
  pointcloud : Bool := false
  syncFrames : Bool := false
  hostTime : Bool := false
  watchdogTimeoutSecs : Float := 30
  serialNo : Option String := none
  filters : FilterSettings := {}
  outputDepthUnit : Float32 := 0.001
  deriving Inhabited

namespace Settings

def stream (s : Settings) (k : StreamKey) : Option StreamSettings :=
  if k == .depth then some s.depth
  else if k == .infra1 then some s.infra1
  else if k == .infra2 then some s.infra2
  else if k == .color then some s.color
  else if k == .fisheye then some s.fisheye
  else if k == .gyro then some s.gyro
  else if k == .accel then some s.accel
  else none

def modifyStream (s : Settings) (k : StreamKey) (f : StreamSettings → StreamSettings) :
    Option Settings :=
  if k == .depth then some { s with depth := f s.depth }
  else if k == .infra1 then some { s with infra1 := f s.infra1 }
  else if k == .infra2 then some { s with infra2 := f s.infra2 }
  else if k == .color then some { s with color := f s.color }
  else if k == .fisheye then some { s with fisheye := f s.fisheye }
  else if k == .gyro then some { s with gyro := f s.gyro }
  else if k == .accel then some { s with accel := f s.accel }
  else none

def isEnabled (s : Settings) (k : StreamKey) : Bool := (s.stream k).any (·.enabled)

def format (s : Settings) (k : StreamKey) : PixelFormat :=
  ((s.stream k).bind (·.format)).getD k.naturalFormat

def defaultWatchdogTimeout : Duration := Duration.ofSeconds 30

def watchdogTimeout (s : Settings) : Duration :=
  (Duration.ofSecondsFloat? s.watchdogTimeoutSecs).getD defaultWatchdogTimeout

/-- Derived products turn on grouping, and grouping turns on host-time stamps. -/
def normalized (s : Settings) : Settings :=
  let s := if (s.pointcloud || s.alignDepth) && !s.syncFrames then { s with syncFrames := true } else s
  if s.syncFrames && !s.hostTime then { s with hostTime := true } else s

end Settings

end Rgbd
