import Rgbd.Frame
import Rgbd.StreamMap

/-!
Grouping the frames of independently delivering sensors into framesets.

A pending group is emitted when it holds every expected stream, before a frame of a stream
already in it, and before a frame further than the capture window from the group's first
frame. The window is half the frame period of the slowest expected stream, in
milliseconds; with no expected stream every frame is a group of its own.
-/

namespace Rgbd

/-- Groups frames into framesets. -/
structure FrameSyncer where
  expected : List StreamKey
  window : Float
  pending : List Frame := []
  deriving Inhabited

namespace FrameSyncer

def new (streams : List (StreamKey × Nat)) : FrameSyncer :=
  let expected := (StreamMap.ofList (streams.map fun (k, _) => (k, ()))).keys
  let slowest := streams.foldl (fun m (_, fps) => min m (max fps 1)) (Nat.pow 2 32 - 1)
  { expected, window := if expected.isEmpty then 0 else 500 / Float.ofNat slowest }

def flush (s : FrameSyncer) : Option (List Frame) × FrameSyncer :=
  if s.pending.isEmpty then (none, s) else (some s.pending, { s with pending := [] })

def isComplete (s : FrameSyncer) : Bool :=
  s.expected.all fun k => s.pending.any (·.key == k)

/-- Whether a frame ends the pending group before joining: its stream is already there, or
it lies outside the window of the group's first frame. -/
def breaksGroup (s : FrameSyncer) (f : Frame) : Bool :=
  match s.pending with
  | [] => false
  | first :: _ => s.pending.any (·.key == f.key) || (f.timestamp - first.timestamp).abs > s.window

def push (s : FrameSyncer) (f : Frame) : List (List Frame) × FrameSyncer :=
  let (before, s) := if s.breaksGroup f then s.flush else (none, s)
  let s := { s with pending := s.pending ++ [f] }
  let (after, s) := if s.isComplete then s.flush else (none, s)
  (before.toList ++ after.toList, s)

end FrameSyncer

end Rgbd
