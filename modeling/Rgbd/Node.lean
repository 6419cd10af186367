import Rgbd.Pipeline.Dispatch

/-!
Nodes: the long-lived owners of the device lifecycle.

A node holds its settings, the current filter toggles and at most one pipeline. Installing
acquires the device, builds a pipeline from the settings with the current filters,
publishes what only changes with the configuration, counts one more generation, and starts
streaming; failures to start are only reported. Without a device the node looks for it
again one watchdog timeout later.

Every started module delivers into a sink of the generation it was started for, and only
deliveries of the current generation reach the pipeline. When the watchdog of a streaming
pipeline fires, the pipeline is torn down (its modules stopped, failures ignored) and the
device is installed again from the same settings.
-/

namespace Rgbd

/-- A camera node. -/
structure Node where
  settings : Settings
  filters : FilterSettings
  generation : Nat := 0
  pipeline : Option Pipeline := none
  retryAt : Option Instant := none

abbrev NodeM (σ : Type) := StateT Node (StateM σ)

namespace Node

variable {σ : Type} [Provider σ] [Camera σ] [Publisher σ] [HostClock σ]

def world : NodeM σ σ := StateT.lift get

def inWorld {α : Type} (x : StateM σ α) : NodeM σ α := StateT.lift x

def isAttached (n : Node) : Bool := n.pipeline.isSome

def deviceInfo (n : Node) : Option DeviceInfo := n.pipeline.map (·.info)

def watchdogState (n : Node) : Option WatchdogState := n.pipeline.map (·.watchdog.state)

/-- The deadlines a node holds: its watchdog's while armed, and when to look for the
device again. -/
def deadlines (n : Node) : List Instant :=
  n.retryAt.toList ++ match n.watchdogState with
    | some (.armed deadline) => [deadline]
    | _ => []

/-- Whether a deadline the node holds, its retry time or its armed watchdog's deadline, is
past the instants the host can represent. The host computes each as an instant plus the
watchdog timeout and aborts when the sum is out of range; the node keeps the exact sum, so a
held deadline out of range marks a computation that aborted. -/
def overflowed (n : Node) : Bool := n.deadlines.any fun d => !d.isRepresentable

/-! ### Critical sections

Each of these runs under one lock of the node (the pipeline's, the filter toggles', or the
retry time's) and touches nothing else of it; the operations below are built from them and
from calls into the world. -/

/-- The modules to start and the sink to start them with, when a pipeline is installed and
not streaming yet: the sink carries the generation read together with the pipeline. -/
def streamingRequest : NodeM σ (Option (List String × Sink)) := do
  let n ← get
  match n.pipeline with
  | some p => return if p.streaming then none else some (p.modules, ⟨n.generation⟩)
  | none => return none

def markStreaming (now : Instant) : NodeM σ Unit :=
  modify fun n => { n with pipeline := n.pipeline.map (·.setStreaming true now) }

/-- Marks a streaming pipeline stopped at the host's monotonic time, and gives the modules
to stop. -/
def stopRequest : NodeM σ (Option (List String)) := do
  match (← get).pipeline with
  | some p =>
    if !p.streaming then return none
    let now := HostClock.monotonic (← world)
    modify fun n => { n with pipeline := some (p.setStreaming false now) }
    return some p.modules
  | none => return none

def commit (p : Pipeline) : NodeM σ Unit :=
  modify fun n => { n with generation := n.generation + 1, pipeline := some p }

def takePipeline : NodeM σ (Option Pipeline) := do
  let n ← get
  set { n with pipeline := none }
  return n.pipeline

/-- Polls the watchdog of the installed pipeline: whether it fired, or `none` without a
pipeline. -/
def pollPipeline (now : Instant) : NodeM σ (Option Bool) := do
  match (← get).pipeline with
  | some p =>
    let (fired, p) := p.pollWatchdog now
    modify fun n => { n with pipeline := some p }
    return some fired
  | none => return none

/-- Hands a delivery into a sink of the given generation to the pipeline: whether it was
ingested. Deliveries of other generations, and deliveries while no pipeline is installed,
are dropped. -/
def ingest (generation : Nat) (d : Delivery) : NodeM σ Bool := do
  let n ← get
  if n.generation != generation then return false
  match n.pipeline with
  | some p =>
    let p ← inWorld (p.ingest d)
    set { n with pipeline := some p }
    return true
  | none => return false

/-- Hands new filter toggles to the chain of the installed pipeline, or only checks them
when no pipeline is installed; refused toggles change nothing. -/
def configureInstalled (f : FilterSettings) : NodeM σ (Except EngineError Unit) := do
  let n ← get
  match n.pipeline with
  | some p =>
    match p.configureFilters f with
    | .ok p =>
      set { n with pipeline := some p }
      return .ok ()
    | .error e => return .error e
  | none =>
    match f.validate with
    | .ok () => return .ok ()
    | .error e => return .error (.filterOrder e)

def storeFilters (f : FilterSettings) : NodeM σ Unit :=
  modify fun n => { n with filters := f }

def retryDue (now : Instant) : NodeM σ Bool := do
  match (← get).retryAt with
  | some due => return decide (due ≤ now)
  | none => return false

def scheduleRetry (now : Instant) : NodeM σ Unit :=
  modify fun n => { n with retryAt := some (now.add n.settings.watchdogTimeout) }

def clearRetry : NodeM σ Unit :=
  modify fun n => { n with retryAt := none }

def acquireDevice : NodeM σ Bool := do
  inWorld (Provider.acquire (← get).settings.serialNo)

def buildPipeline : NodeM σ (Except EngineError Pipeline) := do
  let n ← get
  inWorld (Pipeline.build { n.settings with filters := n.filters }).run

/-! ### Operations -/

/-- Starts every opened module with a sink of the current generation, unless the pipeline
is streaming already, and marks the pipeline streaming even when some modules failed, as
long as no other pipeline was installed meanwhile. -/
def startStreaming (now : Instant) : NodeM σ (Except EngineError Unit) := do
  match ← streamingRequest with
  | some (modules, sink) =>
    let started ← inWorld (forEachModule modules "start" fun m => Camera.start m sink)
    if (← get).generation == sink.generation then markStreaming now
    return started.mapError .streaming
  | none => return .ok ()

def stopStreaming : NodeM σ (Except EngineError Unit) := do
  match ← stopRequest with
  | some modules => return (← inWorld (forEachModule modules "stop" Camera.stop)).mapError .streaming
  | none => return .ok ()

/-- Acquires the device, builds its pipeline and starts streaming. `false` when no device
is attached; discovery is then retried one watchdog timeout after `now`. -/
def install (now : Instant) : NodeM σ (Except EngineError Bool) := do
  if (← get).isAttached then return .ok true
  if !(← acquireDevice) then
    scheduleRetry now
    return .ok false
  clearRetry
  match ← buildPipeline with
  | .error e => return .error e
  | .ok p =>
    inWorld (p.staticPublications.forM Publisher.publish)
    commit p
    let _ ← startStreaming now
    return .ok true

def recover (now : Instant) : NodeM σ Unit := do
  if let some p ← takePipeline then
    let _ ← inWorld p.stopModules
  let _ ← install now

def rediscover (now : Instant) : NodeM σ Bool := do
  if ← retryDue now then return (← install now).toOption.getD false else return false

/-- Fires the watchdog when its deadline passed, installing the device again; a node
without a pipeline instead looks for its device. Whether the watchdog fired or a missing
device was installed. -/
def pollWatchdog (now : Instant) : NodeM σ Bool := do
  match ← pollPipeline now with
  | some true =>
    recover now
    return true
  | some false => return false
  | none => rediscover now

def reacquire : NodeM σ (Except EngineError Bool) := do
  install (HostClock.monotonic (← world))

def setStreaming (on : Bool) : NodeM σ (Except EngineError Unit) := do
  if on then startStreaming (HostClock.monotonic (← world)) else stopStreaming

/-- Replaces the filter toggles, for this and every later pipeline; refused toggles
change nothing. The installed chain takes them first, under the pipeline's lock, and they
are stored for later pipelines after that, under a lock of their own. -/
def configureFilters (f : FilterSettings) : NodeM σ (Except EngineError Unit) := do
  match ← configureInstalled f with
  | .ok () =>
    storeFilters f
    return .ok ()
  | .error e => return .error e

/-- Hands a delivery into a sink of the given generation to the pipeline; deliveries of
other generations are dropped. -/
def deliver (generation : Nat) (d : Delivery) : NodeM σ Unit := do
  let _ ← ingest generation d

def shutdown : NodeM σ Unit := do
  let _ ← stopStreaming

/-- A node with the given settings and its first pipeline installed, if building it
succeeded; without a device it starts detached. -/
def new (settings : Settings) : StateM σ (Except EngineError Node) := do
  let n : Node := { settings, filters := settings.filters }
  let now := HostClock.monotonic (← get)
  let (r, n) ← (install now).run n
  return r.map fun _ => n

/-- The period of the background timer that polls the watchdog: a tenth of the timeout,
between 10 ms and 1 s. -/
def timerPeriod (settings : Settings) : Duration :=
  settings.watchdogTimeout.tenth.clamp ⟨10000000⟩ ⟨1000000000⟩

end Node

end Rgbd
