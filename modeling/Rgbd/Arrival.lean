import Rgbd.StreamMap
import Rgbd.Error

/-!
Which configured streams arrived in one dispatch.

Each dispatch begins a fresh set with nothing arrived; marking a stream that is not
configured is an error and changes nothing.
-/

namespace Rgbd

/-- The streams present in one dispatch. -/
structure ArrivalSet where
  arrived : StreamMap Bool

namespace ArrivalSet

def mark (s : ArrivalSet) (k : StreamKey) : Except EngineError ArrivalSet :=
  if s.arrived.contains k then .ok ⟨s.arrived.modify k fun _ => true⟩
  else .error (.unsupportedStream k)

def arrivedAt (s : ArrivalSet) (k : StreamKey) : Bool := (s.arrived.find? k).getD false

def allArrived (s : ArrivalSet) (keys : List StreamKey) : Bool := keys.all s.arrivedAt

def flags (s : ArrivalSet) : List (StreamKey × Bool) := s.arrived.entries

end ArrivalSet

/-- The configured streams, handing out a fresh arrival set per dispatch. -/
structure ArrivalTracker where
  configured : List StreamKey
  deriving Inhabited

namespace ArrivalTracker

def new (keys : List StreamKey) : ArrivalTracker :=
  ⟨(StreamMap.ofList (keys.map fun k => (k, ()))).keys⟩

def isConfigured (t : ArrivalTracker) (k : StreamKey) : Bool := t.configured.contains k

def begin (t : ArrivalTracker) : ArrivalSet := ⟨⟨t.configured.map fun k => (k, false)⟩⟩

end ArrivalTracker

end Rgbd
