import Rgbd.Time

/-!
Mapping device timestamps onto the host clock.

A clock base pairs a host time with the device time (in milliseconds) it was taken at. A
device time maps to the base's host time moved by the device-time difference, converted to
the nearest nanosecond; when that difference has no duration or the move leaves the range
of wall-clock times, the base's host time is the answer.

The first stamp, and every stamp whose device time is not at least the previous stamp's
(a reset device clock, or NaN), takes a new base at the current host time. In device mode
a stamp is its device time mapped through the base in force after it; in host mode it is
the current host time.
-/

namespace Rgbd

/-- How dispatched frames are stamped. -/
inductive TimeSource where
  | device
  | host
  deriving Repr, DecidableEq, Inhabited

def TimeSource.name : TimeSource → String
  | device => "Device"
  | host => "Host"

/-- A pair of simultaneous host and device times. -/
structure ClockBase where
  host : SystemTime
  device : Float
  deriving Inhabited

def ClockBase.map (b : ClockBase) (device : Float) : SystemTime :=
  let delta := device - b.device
  let offset := (Duration.ofSecondsFloat? (delta.abs / 1000)).getD 0
  let mapped := if delta ≥ 0 then b.host.checkedAdd offset else b.host.checkedSub offset
  mapped.getD b.host

/-- Maps device timestamps onto the host clock, rebasing when device time goes back. -/
structure ClockSync where
  source : TimeSource
  base : Option ClockBase := none
  previous : Float := 0
  deriving Inhabited

namespace ClockSync

def isInitialized (c : ClockSync) : Bool := c.base.isSome

def baseFor (c : ClockSync) (device : Float) (now : SystemTime) : ClockBase :=
  match c.base with
  | some b => if device ≥ c.previous then b else ⟨now, device⟩
  | none => ⟨now, device⟩

def stamp (c : ClockSync) (device : Float) (now : SystemTime) : SystemTime × ClockSync :=
  let base := c.baseFor device now
  let time := match c.source with
    | .device => base.map device
    | .host => now
  (time, { c with base := some base, previous := device })

def map (c : ClockSync) (device : Float) : Option SystemTime := c.base.map (·.map device)

end ClockSync

end Rgbd
