import Rgbd.Pipeline.Negotiate
import Rgbd.Device
import Rgbd.Frame
import Rgbd.Align.Reproject
import Rgbd.Cloud
import Rgbd.Filter.Chain
import Rgbd.Clock
import Rgbd.Watchdog
import Rgbd.Syncer
import Rgbd.Arrival

/-!
Pipelines: everything that lives as long as one device configuration.

Building a pipeline negotiates the streams, opens the modules that serve them (each
once, in the order they were first chosen), reads the depth scale of the depth module and
the calibration of every chosen stream, and the extrinsics from depth to the fisheye,
color and infrared streams. Every video stream gets a blank buffer of its profile's
layout, and the calibration must describe an image of the profile's size. The disparity
conversion uses the depth focal length and the baseline to the second infrared imager
(one when there is none or it is not positive). Alignment targets are the video streams
other than depth that have extrinsics.

A pipeline is never reconfigured in place; recovery builds a new one.
-/

namespace Rgbd

/-- A negotiated video stream and its most recent frame, filtered for depth. -/
structure VideoStream where
  profile : StreamProfile
  intrinsics : Intrinsics
  calibration : CalibrationRecord
  buffer : FrameData
  deriving Inhabited

/-- Depth aligned to one stream, with the buffer it is splatted into. -/
structure Alignment where
  reprojector : Reprojector
  buffer : DepthImage

/-- The streams, calibration, buffers and per-stream state of one device configuration. -/
structure Pipeline where
  info : DeviceInfo
  settings : Settings
  modules : List String
  video : StreamMap VideoStream
  motion : StreamMap MotionIntrinsics
  depthScale : Float32
  extrinsics : StreamMap Extrinsics
  alignments : StreamMap Alignment
  clouds : Option CloudBuilder
  filters : FilterChain
  clock : ClockSync
  arrivals : ArrivalTracker
  syncer : Option FrameSyncer
  sequences : StreamMap Nat
  alignedSequences : StreamMap Nat
  watchdog : Watchdog
  streaming : Bool

def extrinsicsTargets : List StreamKey := [.fisheye, .color, .infra1, .infra2]

abbrev Build (σ : Type) := ExceptT EngineError (StateM σ)

namespace Build

variable {σ : Type}

def query {α : Type} (f : σ → Except DeviceError α) : Build σ α := do
  match f (← get) with
  | .ok a => pure a
  | .error e => throw (.device e)

def call {α : Type} (x : StateM σ (Except DeviceError α)) : Build σ α := do
  match ← (x : StateM σ _) with
  | .ok a => pure a
  | .error e => throw (.device e)

def lift {ε α : Type} (f : ε → EngineError) : Except ε α → Build σ α
  | .ok a => pure a
  | .error e => throw (f e)

end Build

namespace Pipeline

variable {σ : Type} [Camera σ]

def videoStream (p : StreamProfile) : Build σ VideoStream := do
  let i ← Build.query fun w => Camera.intrinsics w p
  if (i.width, i.height) ≠ (p.width, p.height) then throw (.calibrationMismatch p.key)
  match FrameData.blank p.geometry with
  | some buffer => pure ⟨p, i, i.calibration, buffer⟩
  | none => throw (.frameMismatch p.key)

def readStreams : List StreamProfile → StreamMap VideoStream → StreamMap MotionIntrinsics →
    Build σ (StreamMap VideoStream × StreamMap MotionIntrinsics)
  | [], video, motion => pure (video, motion)
  | p :: rest, video, motion => do
    if p.key.isMotion then
      let m ← Build.query fun w => Camera.motionIntrinsics w p
      readStreams rest video (motion.insert p.key m)
    else
      let v ← videoStream p
      readStreams rest (video.insert p.key v) motion

def readExtrinsics (depth : StreamProfile) (video : StreamMap VideoStream) :
    List StreamKey → StreamMap Extrinsics → Build σ (StreamMap Extrinsics)
  | [], acc => pure acc
  | k :: rest, acc => do
    match video.find? k with
    | some v =>
      let e ← Build.query fun w => Camera.extrinsics w depth v.profile
      readExtrinsics depth video rest (acc.insert k e)
    | none => readExtrinsics depth video rest acc

def openModules : List (String × List StreamProfile) → Build σ Unit
  | [] => pure ()
  | (m, ps) :: rest => do
    Build.call (Camera.openModule m ps)
    openModules rest

/-- The disparity conversion of a configuration: the depth focal length, the baseline to
the second infrared imager when it is positive and one otherwise, and the depth scale. -/
def converterFor (depth : Option Intrinsics) (extrinsics : StreamMap Extrinsics)
    (depthScale : Float32) : DisparityConverter :=
  match depth with
  | some i =>
    let baseline := match extrinsics.find? .infra2 with
      | some e => if e.baseline > 0 then e.baseline else 1
      | none => 1
    DisparityConverter.ofCalibration i.fx baseline depthScale
  | none => ⟨1⟩

/-- The alignments of a configuration: one per video stream other than depth that has
extrinsics, when alignment is on and there is depth. -/
def alignmentsFor (settings : Settings) (depth : Option Intrinsics) (depthScale : Float32)
    (video : StreamMap VideoStream) (extrinsics : StreamMap Extrinsics) : StreamMap Alignment :=
  match settings.alignDepth, depth with
  | true, some source =>
    ⟨video.entries.filterMap fun (k, v) =>
      if k.isDepth then none
      else (extrinsics.find? k).map fun e =>
        let r : Reprojector := ⟨source, v.intrinsics, e, depthScale, settings.outputDepthUnit⟩
        (k, ⟨r, r.buffer⟩)⟩
  | _, _ => {}

/-- Negotiates streams with the device, opens the modules and prepares every buffer the
configuration needs. -/
def build (settings : Settings) : Build σ Pipeline := do
  let w ← get
  let info := Camera.info w
  let selected ← Build.lift id (negotiate (Camera.modules w) settings)
  let opened := groupByModule selected
  openModules opened
  let depth := selected.find? fun (_, p) => p.key.isDepth
  let depthScale ← match depth with
    | some (m, _) => Build.query fun w => Camera.depthScale w m
    | none => pure 0
  let (video, motion) ← readStreams (selected.map (·.2)) {} {}
  let extrinsics ← match depth with
    | some (_, p) => readExtrinsics p video extrinsicsTargets {}
    | none => pure {}
  let depthIntrinsics := (video.find? .depth).map (·.intrinsics)
  let converter := converterFor depthIntrinsics extrinsics depthScale
  let filters ← Build.lift .filterOrder (FilterChain.new settings.filters converter)
  let alignments := alignmentsFor settings depthIntrinsics depthScale video extrinsics
  let clouds := if settings.pointcloud then
      depthIntrinsics.map fun i => (⟨i, depthScale⟩ : CloudBuilder)
    else none
  let syncer := if settings.syncFrames then
      some (FrameSyncer.new (video.values.map fun v => (v.profile.key, v.profile.fps)))
    else none
  pure {
    info, settings, video, motion, depthScale, extrinsics, alignments, clouds, filters, syncer
    modules := opened.map (·.1)
    clock := { source := if settings.hostTime then .host else .device }
    arrivals := ArrivalTracker.new video.keys
    sequences := ⟨(video.keys ++ motion.keys).map fun k => (k, 0)⟩
    alignedSequences := alignments.map fun _ => 0
    watchdog := { timeout := settings.watchdogTimeout }
    streaming := false }

def streams (p : Pipeline) : List StreamKey := p.video.keys

def motionStreams (p : Pipeline) : List StreamKey := p.motion.keys

def geometry (p : Pipeline) (k : StreamKey) : Option StreamGeometry :=
  (p.video.find? k).map (·.profile.geometry)

def intrinsics (p : Pipeline) (k : StreamKey) : Option Intrinsics :=
  (p.video.find? k).map (·.intrinsics)

def sequence (p : Pipeline) (k : StreamKey) : Nat := (p.sequences.find? k).getD 0

def configureFilters (p : Pipeline) (f : FilterSettings) : Except EngineError Pipeline :=
  match p.filters.configure f with
  | .ok c => .ok { p with filters := c }
  | .error e => .error (.filterOrder e)

def setStreaming (p : Pipeline) (on : Bool) (now : Instant) : Pipeline :=
  { p with streaming := on, watchdog := if on then p.watchdog.arm now else p.watchdog.disarm }

def pollWatchdog (p : Pipeline) (now : Instant) : Bool × Pipeline :=
  let (fired, w) := p.watchdog.poll now
  (fired, { p with watchdog := w })

/-- The messages that change only with the configuration: the extrinsics from depth in
stream order, then the calibration of each inertial stream. -/
def staticPublications (p : Pipeline) : List Publication :=
  p.extrinsics.entries.map (fun (k, e) => .extrinsics (extrinsicsLabel k) e) ++
    p.motion.entries.map fun (k, m) => .imuInfo k m

def stopModules (p : Pipeline) : StateM σ (Except StreamingError Unit) :=
  forEachModule p.modules "stop" Camera.stop

end Pipeline

end Rgbd
