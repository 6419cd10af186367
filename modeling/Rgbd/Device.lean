import Rgbd.Sensor
import Rgbd.Error
import Rgbd.Imu
import Rgbd.Publish
import Rgbd.Optics.Intrinsics

/-!
The collaborators of a node.

A node talks to four parties: a provider that hands out the attached device, the device
itself, a publisher that takes its messages, and the host clock. Each is a class over
the state `σ` of the world the node runs in; calls that change the world are `StateM σ`
actions and queries are functions of the state. A world holds at most one device, so the
device a provider hands out is named by nothing more than whether one was found.

A started module delivers into a `Sink`. A sink remembers the pipeline generation it was
made for, so deliveries into sinks of replaced pipelines can be told apart and dropped.
-/

namespace Rgbd

/-- Where a started module delivers its frames. -/
structure Sink where
  generation : Nat
  deriving Repr, DecidableEq, Inhabited

/-- Hands out the attached device. -/
class Provider (σ : Type) where
  acquire : Option String → StateM σ Bool

/-- A depth camera. Modules are addressed by name. -/
class Camera (σ : Type) where
  info : σ → DeviceInfo
  modules : σ → List SensorModule
  depthScale : σ → String → Except DeviceError Float32
  intrinsics : σ → StreamProfile → Except DeviceError Intrinsics
  motionIntrinsics : σ → StreamProfile → Except DeviceError MotionIntrinsics
  extrinsics : σ → StreamProfile → StreamProfile → Except DeviceError Extrinsics
  openModule : String → List StreamProfile → StateM σ (Except DeviceError Unit)
  start : String → Sink → StateM σ (Except DeviceError Unit)
  stop : String → StateM σ (Except DeviceError Unit)

/-- Hands messages to consumers. -/
class Publisher (σ : Type) where
  subscribed : σ → Topic → Bool
  publish : Publication → StateM σ Unit

/-- The host's clocks: wall-clock time for stamps, monotonic time for deadlines. -/
class HostClock (σ : Type) where
  now : σ → SystemTime
  monotonic : σ → Instant

/-- Runs an action on every module in order and collects the modules that failed; the
failures of some modules do not keep the others from being run. -/
def forEachModule {σ : Type} (modules : List String) (action : String)
    (f : String → StateM σ (Except DeviceError Unit)) : StateM σ (Except StreamingError Unit) :=
  go modules []
where
  go : List String → List (String × DeviceError) → StateM σ (Except StreamingError Unit)
    | [], [] => pure (.ok ())
    | [], failures => pure (.error ⟨action, failures.reverse⟩)
    | m :: rest, failures => do
      match ← f m with
      | .ok () => go rest failures
      | .error e => go rest ((m, e) :: failures)

end Rgbd
