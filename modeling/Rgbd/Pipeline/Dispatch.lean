import Rgbd.Pipeline.Basic

/-!
Handling deliveries.

Inertial samples are published on their own, once a video frame has set the clock base.
Video frames go through the syncer when frames are grouped, and are otherwise dispatched
as delivered. A dispatch stores each frame into its stream's buffer (filtering depth in
place) and marks it arrived; frames of streams that were not negotiated, or whose layout
differs from their stream's, are dropped. Only stored frames prove the device alive and
set the time: the watchdog is rearmed and the first stored frame's device time gives the
stamp of the whole dispatch.

Every stored frame counts in its stream's sequence, and its buffer is published when the
image topic has subscribers. Depth aligned to each stored stream other than depth is
published for a set that brought depth, when alignment is on. Clouds are built when depth
arrived in the dispatch (the colored cloud also needs color), first the colored cloud, then
the depth cloud. Products that cannot be built are skipped.
-/

namespace Rgbd

namespace Pipeline

variable {σ : Type} [Publisher σ] [HostClock σ]

def store (p : Pipeline) (f : Frame) : Except EngineError Pipeline :=
  match p.video.find? f.key with
  | none => .error (.unsupportedStream f.key)
  | some v =>
    match v.buffer.copyFrom? f.data with
    | none => .error (.frameMismatch f.key)
    | some (.depth d) =>
      let (d, filters) := p.filters.apply d
      .ok { p with video := p.video.modify f.key (fun v => { v with buffer := .depth d }), filters }
    | some b => .ok { p with video := p.video.modify f.key fun v => { v with buffer := b } }

/-- Stores and marks the frames of a dispatch in order; returns the frames that were
stored, in order. -/
def storeAll : Pipeline → ArrivalSet → List Frame → Pipeline × ArrivalSet × List Frame
  | p, arrivals, [] => (p, arrivals, [])
  | p, arrivals, f :: rest =>
    match p.store f with
    | .error _ => storeAll p arrivals rest
    | .ok p =>
      match arrivals.mark f.key with
      | .error _ => storeAll p arrivals rest
      | .ok arrivals =>
        let (p, arrivals, stored) := storeAll p arrivals rest
        (p, arrivals, f :: stored)

def nextStamp (p : Pipeline) (k : StreamKey) (time : SystemTime) : Stamp × Pipeline :=
  let seq := p.sequence k + 1
  (⟨time, seq⟩, { p with sequences := p.sequences.insert k seq })

def publishIf (topic : Topic) (m : Publication) : StateM σ Unit := do
  if Publisher.subscribed (← get) topic then Publisher.publish m

def publishFrame (p : Pipeline) (time : SystemTime) (k : StreamKey) : StateM σ Pipeline := do
  let (stamp, p) := p.nextStamp k time
  if let some v := p.video.find? k then
    publishIf (.image k) (.image k stamp v.buffer v.calibration)
  pure p

/-- Aligns the depth buffer to a target and publishes it, when the aligned topic has
subscribers. -/
def publishAligned (p : Pipeline) (time : SystemTime) (target : StreamKey) :
    StateM σ Pipeline := do
  if !Publisher.subscribed (← get) (.alignedDepth target) then return p
  match p.alignments.find? target, p.video.find? .depth, p.video.find? target with
  | some a, some ⟨_, _, _, .depth depth⟩, some stream =>
    match a.reprojector.reproject depth a.buffer with
    | .error _ => pure p
    | .ok buffer =>
      let seq := (p.alignedSequences.find? target).getD 0 + 1
      Publisher.publish (.alignedDepth target ⟨time, seq⟩ buffer stream.calibration)
      pure { p with
        alignments := p.alignments.modify target fun a => { a with buffer }
        alignedSequences := p.alignedSequences.insert target seq }
  | _, _, _ => pure p

def depthBuffer (p : Pipeline) : Option DepthImage :=
  match p.video.find? .depth with
  | some ⟨_, _, _, .depth d⟩ => some d
  | _ => none

def coloredCloud (p : Pipeline) (arrivals : ArrivalSet) :
    Option (OrganizedCloud ColoredPoint) := do
  if !arrivals.allArrived [.depth, .color] then none
  let builder ← p.clouds
  let depth ← p.depthBuffer
  let color ← p.video.find? .color
  let e ← p.extrinsics.find? .color
  match color.buffer with
  | .color image => (builder.coloredCloud depth ⟨image, color.intrinsics, e⟩).toOption
  | _ => none

def depthCloud (p : Pipeline) (arrivals : ArrivalSet) : Option (OrganizedCloud Vec3) := do
  if !arrivals.arrivedAt .depth then none
  let builder ← p.clouds
  let depth ← p.depthBuffer
  (builder.depthCloud depth).toOption

/-- Publishes the clouds a dispatch makes possible: the colored cloud, then the depth
cloud, each when its topic has subscribers. -/
def publishClouds (p : Pipeline) (time : SystemTime) (arrivals : ArrivalSet) :
    StateM σ Unit := do
  if p.clouds.isNone then return
  if Publisher.subscribed (← get) .coloredCloud then
    if let some c := p.coloredCloud arrivals then Publisher.publish (.coloredCloud time c)
  if Publisher.subscribed (← get) .depthCloud then
    if let some c := p.depthCloud arrivals then Publisher.publish (.depthCloud time c)

def dispatch (p : Pipeline) (frames : List Frame) (isSet : Bool) : StateM σ Pipeline := do
  let (p, arrivals, stored) := storeAll p p.arrivals.begin frames
  match stored with
  | [] => pure p
  | first :: _ =>
    let w ← get
    let (time, clock) := p.clock.stamp first.timestamp (HostClock.now w)
    let p := { p with watchdog := p.watchdog.rearm (HostClock.monotonic w), clock }
    let p ← stored.foldlM (fun p f => p.publishFrame time f.key) p
    let targets := (stored.filter fun f => !f.key.isDepth).map (·.key)
    let p ← if isSet && p.settings.alignDepth && arrivals.arrivedAt .depth then
        targets.foldlM (fun p k => p.publishAligned time k) p
      else pure p
    p.publishClouds time arrivals
    pure p

def dispatchMotion (p : Pipeline) (f : Frame) : StateM σ Pipeline := do
  match p.clock.map f.timestamp, p.motion.contains f.key, f.data with
  | some time, true, .motion axes =>
    let (stamp, p) := p.nextStamp f.key time
    publishIf (.imu f.key) (.imu ⟨f.key, stamp, .ofSample f.key axes⟩)
    pure p
  | _, _, _ => pure p

def pushAll (s : FrameSyncer) : List Frame → List (List Frame) × FrameSyncer
  | [] => ([], s)
  | f :: rest =>
    let (groups, s) := s.push f
    let (later, s) := pushAll s rest
    (groups ++ later, s)

def ingest (p : Pipeline) (d : Delivery) : StateM σ Pipeline := do
  let frames := d.frames
  let p ← (frames.filter (·.key.isMotion)).foldlM dispatchMotion p
  let video := frames.filter fun f => !f.key.isMotion
  if video.isEmpty then return p
  match p.syncer with
  | some s =>
    let (groups, s) := pushAll s video
    groups.foldlM (fun p g => dispatch p g true) { p with syncer := some s }
  | none => dispatch p video d.isSet

end Pipeline

end Rgbd
