import Rgbd.Time

/-!
Detecting a device that stopped delivering frames.

Arming sets a deadline one timeout after the given instant; rearming moves the deadline
only while armed; disarming stops watching. A poll at or after the deadline fires the
watchdog, which then stays fired: firing happens at most once.
-/

namespace Rgbd

inductive WatchdogState where
  | inactive
  | armed (deadline : Instant)
  | fired
  deriving Repr, DecidableEq, Inhabited

/-- Watches for frames arriving within a timeout of each other. -/
structure Watchdog where
  timeout : Duration
  state : WatchdogState := .inactive
  deriving Repr, DecidableEq, Inhabited

namespace Watchdog

variable (w : Watchdog)

def isArmed : Bool := match w.state with
  | .armed _ => true
  | _ => false

def arm (now : Instant) : Watchdog :=
  if w.state = .fired then w else { w with state := .armed (now.add w.timeout) }

def rearm (now : Instant) : Watchdog := if w.isArmed then w.arm now else w

def disarm : Watchdog := if w.state = .fired then w else { w with state := .inactive }

def poll (now : Instant) : Bool × Watchdog :=
  match w.state with
  | .armed deadline => if deadline ≤ now then (true, { w with state := .fired }) else (false, w)
  | _ => (false, w)

end Watchdog

end Rgbd
