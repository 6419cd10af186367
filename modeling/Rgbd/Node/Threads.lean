import Rgbd.Node

/-!
Node operations run by many threads at once.

Devices deliver from their own threads through the sinks the node handed out, the watchdog
timer polls from its thread, and callers reacquire the device or switch streaming on and
off. Each operation is a sequence of atomic steps: one critical section of the node
(`Node.streamingRequest`, `Node.commit`, …), one call into the world, or taking or
releasing the lock that keeps two installations apart. Between two sections a thread holds
no lock, and whatever it read stays in its place (`Pc`). A run interleaves the steps of all
threads in any order and may start new operations between any two of them.

A run also keeps a log, newest event first, of what happened to the pipeline slot and to
the sinks: every installation and teardown, every sink made for starting modules, and every
delivery with whether it was ingested.
-/

namespace Rgbd

/-- What a run records. -/
inductive Event where
  | installed (p : Pipeline)
  | tornDown
  | sinkMade (s : Sink)
  | delivered (s : Sink) (ingested : Bool)

/-- An operation a thread may start. -/
inductive Op where
  | deliver (i : Nat) (d : Delivery)
  | poll (now : Instant)
  | reacquire
  | setStreaming (on : Bool)

/-- Where a thread stands: the step it takes next, with what it has read so far. A thread
that starts streaming while installing holds the installation lock until it is done. -/
inductive Pc where
  | deliver (s : Sink) (d : Delivery)
  | poll (now : Instant)
  | takeStalled (now : Instant)
  | rediscover (now : Instant)
  | reacquire
  | setStreaming (on : Bool)
  | lockInstalling (now : Instant)
  | checkAttached (now : Instant)
  | acquire (now : Instant)
  | scheduleRetry (now : Instant)
  | clearRetry (now : Instant)
  | build (now : Instant)
  | publish (p : Pipeline) (now : Instant)
  | commit (p : Pipeline) (now : Instant)
  | requestStart (now : Instant) (installing : Bool)
  | startModules (modules : List String) (s : Sink) (now : Instant) (installing : Bool)
  | checkCurrent (s : Sink) (now : Instant) (installing : Bool)
  | markStreaming (now : Instant) (installing : Bool)
  | requestStop
  | stopModules (modules : List String) (next : Pc)
  | unlockInstalling
  | done

/-- The node shared by all threads, the world, and the threads themselves. -/
structure Sys (σ : Type) where
  node : Node
  world : σ
  installing : Bool := false
  sinks : List Sink := []
  threads : List Pc := []
  log : List Event := []

/-- How a run goes on: a new thread starts an operation, or thread `i` takes a step. -/
inductive Choice where
  | spawn (op : Op)
  | step (i : Nat)

namespace Sys

variable {σ : Type} [Provider σ] [Camera σ] [Publisher σ] [HostClock σ]

def fresh (settings : Settings) (w : σ) : Sys σ :=
  { node := { settings, filters := settings.filters }, world := w }

def atomically {α : Type} (x : NodeM σ α) : StateM (Sys σ) α := fun s =>
  let ((a, n), w) := (x.run s.node).run s.world
  (a, { s with node := n, world := w })

def record (e : Event) : StateM (Sys σ) Unit :=
  modify fun s => { s with log := e :: s.log }

def finish (installing : Bool) : Pc := if installing then .unlockInstalling else .done

def advance : Pc → StateM (Sys σ) Pc
  | .deliver s d => do
    let ingested ← atomically (Node.ingest s.generation d)
    record (.delivered s ingested)
    return .done
  | .poll now => do
    match ← atomically (Node.pollPipeline now) with
    | some true => return .takeStalled now
    | some false => return .done
    | none => return .rediscover now
  | .takeStalled now => do
    let stalled ← atomically Node.takePipeline
    record .tornDown
    return .stopModules ((stalled.map (·.modules)).getD []) (.lockInstalling now)
  | .rediscover now => do
    return if ← atomically (Node.retryDue now) then .lockInstalling now else .done
  | .reacquire => do
    return .lockInstalling (HostClock.monotonic (← get).world)
  | .setStreaming on => do
    let now := HostClock.monotonic (← get).world
    return if on then .requestStart now false else .requestStop
  | .lockInstalling now => do
    if (← get).installing then return .lockInstalling now
    modify fun s => { s with installing := true }
    return .checkAttached now
  | .checkAttached now => do
    return if (← get).node.isAttached then .unlockInstalling else .acquire now
  | .acquire now => do
    return if ← atomically Node.acquireDevice then .clearRetry now else .scheduleRetry now
  | .scheduleRetry now => do
    atomically (Node.scheduleRetry now)
    return .unlockInstalling
  | .clearRetry now => do
    atomically Node.clearRetry
    return .build now
  | .build now => do
    match ← atomically Node.buildPipeline with
    | .error _ => return .unlockInstalling
    | .ok p => return .publish p now
  | .publish p now => do
    atomically (Node.inWorld (p.staticPublications.forM Publisher.publish))
    return .commit p now
  | .commit p now => do
    atomically (Node.commit p)
    record (.installed p)
    return .requestStart now true
  | .requestStart now installing => do
    match ← atomically Node.streamingRequest with
    | some (modules, s) =>
      record (.sinkMade s)
      return .startModules modules s now installing
    | none => return finish installing
  | .startModules [] s now installing => return .checkCurrent s now installing
  | .startModules (m :: ms) s now installing => do
    let _ ← atomically (Node.inWorld (Camera.start m s))
    modify fun st => { st with sinks := st.sinks ++ [s] }
    return .startModules ms s now installing
  | .checkCurrent s now installing => do
    return if (← get).node.generation == s.generation then .markStreaming now installing
      else finish installing
  | .markStreaming now installing => do
    atomically (Node.markStreaming now)
    return finish installing
  | .requestStop => do
    match ← atomically Node.stopRequest with
    | some modules => return .stopModules modules .done
    | none => return .done
  | .stopModules [] next => return next
  | .stopModules (m :: ms) next => do
    let _ ← atomically (Node.inWorld (Camera.stop m))
    return .stopModules ms next
  | .unlockInstalling => do
    modify fun s => { s with installing := false }
    return .done
  | .done => return .done

def start (s : Sys σ) : Op → Option Pc
  | .deliver i d => s.sinks[i]?.map fun k => .deliver k d
  | .poll now => some (.poll now)
  | .reacquire => some .reacquire
  | .setStreaming on => some (.setStreaming on)

def next (s : Sys σ) : Choice → Sys σ
  | .spawn op =>
    match s.start op with
    | some pc => { s with threads := s.threads ++ [pc] }
    | none => s
  | .step i =>
    match s.threads[i]? with
    | some pc =>
      let (pc, s') := (advance pc).run s
      { s' with threads := s'.threads.set i pc }
    | none => s

def run (s : Sys σ) (choices : List Choice) : Sys σ := choices.foldl next s

end Sys

end Rgbd
