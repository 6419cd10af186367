/-!
Streams of a depth camera.

A camera delivers several streams at once: depth, stereo infrared, color, fisheye, and the
inertial samples of a gyroscope and an accelerometer. A stream is named by its modality
and an index that tells repeated modalities apart (the two infrared imagers). Streams are
ordered by modality in the order `depth, color, infrared, fisheye, gyro, accel`, then by
index; every collection keyed by streams is kept in that order.
-/

namespace Rgbd

/-- The kind of data a stream carries. -/
inductive Modality where
  | depth
  | color
  | infrared
  | fisheye
  | gyro
  | accel
  deriving Repr, DecidableEq, Inhabited

namespace Modality

def rank : Modality → Nat
  | depth => 0
  | color => 1
  | infrared => 2
  | fisheye => 3
  | gyro => 4
  | accel => 5

def name : Modality → String
  | depth => "depth"
  | color => "color"
  | infrared => "infra"
  | fisheye => "fisheye"
  | gyro => "gyro"
  | accel => "accel"

def isMotion : Modality → Bool
  | gyro | accel => true
  | _ => false

end Modality

/-- One stream of a device. The index is a byte. -/
structure StreamKey where
  modality : Modality
  index : Nat
  deriving Repr, DecidableEq, Inhabited

namespace StreamKey

def depth : StreamKey := ⟨.depth, 0⟩
def infra1 : StreamKey := ⟨.infrared, 1⟩
def infra2 : StreamKey := ⟨.infrared, 2⟩
def color : StreamKey := ⟨.color, 0⟩
def fisheye : StreamKey := ⟨.fisheye, 0⟩
def gyro : StreamKey := ⟨.gyro, 0⟩
def accel : StreamKey := ⟨.accel, 0⟩

def video : List StreamKey := [depth, infra1, infra2, color, fisheye]

def motion : List StreamKey := [gyro, accel]

def isDepth (k : StreamKey) : Bool := k.modality == .depth

def isMotion (k : StreamKey) : Bool := k.modality.isMotion

def compare (a b : StreamKey) : Ordering :=
  match Ord.compare a.modality.rank b.modality.rank with
  | .eq => Ord.compare a.index b.index
  | o => o

instance : Ord StreamKey := ⟨StreamKey.compare⟩

/-- The name of a stream: the modality's name, followed by the index unless the index is
zero and the modality is not infrared (`depth`, `infra0`, `infra1`, `color2`). -/
def name (k : StreamKey) : String :=
  if k.index == 0 && k.modality != .infrared then k.modality.name
  else k.modality.name ++ toString k.index

instance : ToString StreamKey := ⟨name⟩

end StreamKey

/-- Pixel layout of a stream. -/
inductive PixelFormat where
  | z16
  | y8
  | rgb8
  | raw8
  | motionXyz32f
  deriving Repr, DecidableEq, Inhabited

namespace PixelFormat

def bytesPerPixel : PixelFormat → Nat
  | z16 => 2
  | y8 | raw8 => 1
  | rgb8 => 3
  | motionXyz32f => 12

def all : List PixelFormat := [z16, y8, rgb8, raw8, motionXyz32f]

def name : PixelFormat → String
  | z16 => "Z16"
  | y8 => "Y8"
  | rgb8 => "Rgb8"
  | raw8 => "Raw8"
  | motionXyz32f => "MotionXyz32f"

def ofName? (s : String) : Option PixelFormat := all.find? (·.name == s)

end PixelFormat

def StreamKey.naturalFormat (k : StreamKey) : PixelFormat :=
  match k.modality with
  | .depth => .z16
  | .infrared => .y8
  | .color => .rgb8
  | .fisheye => .raw8
  | .gyro | .accel => .motionXyz32f

/-- Negotiated size, layout and rate of a stream. Sizes and rates are 32-bit words. -/
structure StreamGeometry where
  width : Nat
  height : Nat
  format : PixelFormat
  fps : Nat
  deriving Repr, DecidableEq, Inhabited

namespace StreamGeometry

def bytesPerPixel (g : StreamGeometry) : Nat := g.format.bytesPerPixel

def rowStep (g : StreamGeometry) : Nat := g.width * g.bytesPerPixel % Nat.pow 2 32

def pixelCount (g : StreamGeometry) : Nat := g.width * g.height

end StreamGeometry

/-- Which clock a frame timestamp was read from. -/
inductive TimestampDomain where
  | hardwareClock
  | systemTime
  | globalTime
  deriving Repr, DecidableEq, Inhabited

namespace TimestampDomain

def isDeviceClock : TimestampDomain → Bool
  | systemTime => false
  | _ => true

def name : TimestampDomain → String
  | hardwareClock => "HardwareClock"
  | systemTime => "SystemTime"
  | globalTime => "GlobalTime"

end TimestampDomain

end Rgbd
