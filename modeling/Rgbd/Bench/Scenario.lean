import Rgbd.Node
import Rgbd.Bench.World

/-!
Scenarios: a node on a bench driven through a list of steps.

A step delivers frames into a sink a module was started with, moves the clocks, polls the
watchdog, changes streaming or the filters, acquires the device again, detaches or
attaches the device, changes which calls fail, or describes the node. A node that runs a
background timer polls its watchdog at the bench's monotonic time once the clocks moved
in a waiting step; polling again at the same instant changes nothing, so one poll stands
for all the timer's ticks.
-/

namespace Rgbd

/-- One step of a scenario. -/
inductive BenchStep where
  | deliver (m : String) (d : Delivery) (sink : Option Nat)
  | advance (d : Duration)
  | poll (instant : Option Instant)
  | setStreaming (on : Bool)
  | configureFilters (f : FilterSettings)
  | reacquire
  | detach
  | attach
  | setFail (f : FailSet)
  | describe (withSettings : Bool)
  | advanceWait (d : Duration) (generation : Nat) (attached streaming : Bool)

/-- What a step answered. -/
inductive StepResult where
  | delivered (ok : Bool)
  | now (t : SystemTime)
  | fired (b : Bool)
  | done (r : Except EngineError Unit)
  | attached (r : Except EngineError Bool)
  | ok
  | described (n : Node) (withSettings : Bool)
  | reached (ok : Bool) (t : SystemTime)

/-- A node running on a bench. -/
structure Scenario where
  node : Node
  bench : Bench
  timer : Bool

namespace Scenario

def run {α : Type} (s : Scenario) (x : NodeM Bench α) : α × Scenario :=
  let ((a, n), b) := (x.run s.node).run s.bench
  (a, { s with node := n, bench := b })

def streaming (n : Node) : Bool := (n.pipeline.map (·.streaming)).getD false

def step (s : Scenario) : BenchStep → StepResult × Scenario
  | .deliver m d sink =>
    match s.bench.sinkOf m sink with
    | some k => let ((), s) := s.run (Node.deliver k.generation d); (.delivered true, s)
    | none => (.delivered false, s)
  | .advance d =>
    let b := s.bench.advance d
    (.now b.wall, { s with bench := b })
  | .poll instant =>
    let (fired, s) := s.run (Node.pollWatchdog (instant.getD s.bench.monotonic))
    (.fired fired, s)
  | .setStreaming on => let (r, s) := s.run (Node.setStreaming on); (.done r, s)
  | .configureFilters f => let (r, s) := s.run (Node.configureFilters f); (.done r, s)
  | .reacquire => let (r, s) := s.run Node.reacquire; (.attached r, s)
  | .detach => (.ok, { s with bench := { s.bench with attached := false } })
  | .attach => (.ok, { s with bench := { s.bench with attached := true } })
  | .setFail f =>
    (.ok, { s with bench := { s.bench with device := { s.bench.device with fail := f } } })
  | .describe withSettings => (.described s.node withSettings, s)
  | .advanceWait d generation attached streaming =>
    let s := { s with bench := s.bench.advance d }
    let s := if s.timer then (s.run (Node.pollWatchdog s.bench.monotonic)).2 else s
    let ok := s.node.generation == generation && s.node.isAttached == attached &&
      Scenario.streaming s.node == streaming
    (.reached ok s.bench.wall, s)

def stepLogged (s : Scenario) (st : BenchStep) : StepResult × List BenchEvent × Scenario :=
  let before := s.bench.log.length
  let (r, s) := s.step st
  (r, s.bench.events.drop before, s)

/-- A scenario with a node built on a bench, or the error of building it with the events
logged until then. -/
def start (settings : Settings) (bench : Bench) (timer : Bool) :
    Except (EngineError × List BenchEvent) Scenario :=
  match (Node.new settings).run bench with
  | (.ok n, b) => .ok ⟨n, b, timer⟩
  | (.error e, b) => .error (e, b.events)

def finish (s : Scenario) : List BenchEvent :=
  let before := s.bench.log.length
  let ((), s) := s.run Node.shutdown
  s.bench.events.drop before

end Scenario

end Rgbd
