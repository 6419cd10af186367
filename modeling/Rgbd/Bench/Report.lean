import Rgbd.Bench.Scenario
import Rgbd.Encode

/-!
JSON reports of scenarios.

A report holds the events and state right after the node was built, then for each step
its result, the events it logged and the state after it, and last the events of shutting
the node down. With the counting publisher the counts per channel follow every state.
A node that could not be built is reported by its error and the events logged until then,
and a run that overflowed a deadline by the host's abort alone.
-/

namespace Rgbd

def BenchEvent.toJson : BenchEvent → Json
  | .acquire serial found =>
    .obj [("device", .str "acquire"), ("serial", match serial with
      | some s => .str s
      | none => .null), ("found", .bool found)]
  | .openModule m ok ps =>
    .obj [("device", .str "open"), ("module", .str m), ("ok", .bool ok),
      ("profiles", .arr (ps.map StreamProfile.toJson))]
  | .start m ok => .obj [("device", .str "start"), ("module", .str m), ("ok", .bool ok)]
  | .stop m ok => .obj [("device", .str "stop"), ("module", .str m), ("ok", .bool ok)]
  | .published p => p.toJson

def eventsJson (es : List BenchEvent) : Json := .arr (es.map BenchEvent.toJson)

def Pipeline.describe (p : Pipeline) : Json :=
  .obj [("device", .str p.info.serialNumber),
    ("streams", .arr (p.video.entries.map fun (k, v) =>
      .obj [("stream", k.toJson), ("geometry", v.profile.geometry.toJson),
        ("intrinsics", v.intrinsics.toJson), ("extrinsics", match p.extrinsics.find? k with
          | some e => e.toJson
          | none => .null)])),
    ("motion_streams", .arr (p.motionStreams.map StreamKey.toJson)),
    ("modules", .arr (p.modules.map Json.str)), ("depth_scale", .ofFloat32 p.depthScale),
    ("time_source", .str p.clock.source.name), ("filters", p.filters.settings.toJson),
    ("filters_active", .bool p.filters.isActive),
    ("watchdog_timeout", p.watchdog.timeout.toJson)]

/-- The state of a node: whether a pipeline is installed, the generation, the bench's
acquisitions, the watchdog and the pipeline's counters, streaming flag, clock base and
filters. -/
def Node.stateJson (n : Node) (b : Bench) : Json :=
  .obj [("attached", .bool n.isAttached), ("generation", .nat n.generation),
    ("acquisitions", .nat b.acquisitions),
    ("watchdog", match n.watchdogState with
      | some w => w.toJson
      | none => .null),
    ("pipeline", match n.pipeline with
      | some p => .obj [("sequences", .obj (p.sequences.entries.map fun (k, s) => (k.name, .nat s))),
          ("streaming", .bool p.streaming),
          ("clock_base", match p.clock.base with
            | some c => c.toJson
            | none => .null),
          ("filters", p.filters.settings.toJson)]
      | none => .null)]

def StepResult.toJson : StepResult → Json
  | .delivered b => .obj [("delivered", .bool b)]
  | .now t => .obj [("now", t.toJson)]
  | .fired b => .obj [("fired", .bool b)]
  | .done (.ok ()) => Json.ok
  | .done (.error e) => e.toJson
  | .attached (.ok b) => .obj [("attached", .bool b)]
  | .attached (.error e) => e.toJson
  | .ok => Json.ok
  | .described n withSettings =>
    .obj ([("pipeline", match n.pipeline with
        | some p => p.describe
        | none => .null),
      ("device_info", match n.deviceInfo with
        | some i => i.toJson
        | none => .null)] ++
      if withSettings then
        [("node_settings", n.settings.report), ("pipeline_settings", match n.pipeline with
          | some p => p.settings.report
          | none => .null)]
      else [])
  | .reached b t => .obj [("reached", .bool b), ("now", t.toJson)]

namespace Scenario

def countsMembers (s : Scenario) : List (String × Json) :=
  match s.bench.publisher with
  | .counter counts => [("counts", .obj (counts.map fun (c, n) => (c, .nat n)))]
  | .recorder _ => []

def overflowJson : Json :=
  .obj [("error", .str "panic"), ("message", .str "overflow when adding duration to instant")]

/-- Runs named steps in order and reports each; `none` when a step overflowed a deadline,
which aborts the run. -/
def reportSteps : Scenario → List (String × BenchStep) → Option (List Json × Scenario)
  | s, [] => some ([], s)
  | s, (name, st) :: rest =>
    let (r, events, s) := s.stepLogged st
    if s.node.overflowed then none
    else
      let entry := Json.obj ([("op", .str name), ("result", r.toJson),
        ("events", eventsJson events), ("state", s.node.stateJson s.bench)] ++ s.countsMembers)
      (reportSteps s rest).map fun (entries, s) => (entry :: entries, s)

/-- The report of a scenario: building the node on the bench, running the steps, and
shutting the node down. -/
def report (settings : Settings) (bench : Bench) (timer : Bool)
    (steps : List (String × BenchStep)) : Json :=
  match start settings bench timer with
  | .error (e, events) =>
    match e.toJson with
    | .obj ms => .obj (ms ++ [("events", eventsJson events)])
    | j => j
  | .ok s =>
    let setup := Json.obj ([("events", eventsJson s.bench.events),
      ("pipeline", match s.node.pipeline with
        | some p => p.describe
        | none => .null),
      ("state", s.node.stateJson s.bench)] ++ s.countsMembers)
    if s.node.overflowed then overflowJson
    else match reportSteps s steps with
      | none => overflowJson
      | some (entries, s) =>
        .obj [("setup", setup), ("steps", .arr entries), ("drop_events", eventsJson s.finish)]

end Scenario

end Rgbd
