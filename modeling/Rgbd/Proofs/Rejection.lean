import Rgbd.Proofs.Liveness
import Rgbd.Bench.World

/-!
Frames a pipeline rejects.

A video frame is rejected when no negotiated stream has a buffer of its kind and size
(`Pipeline.rejects`). Storing skips such a frame and changes nothing, so storing a list of
frames is storing those of them that fit (`storeAll_filter_fits`), and a dispatch is the
dispatch of its frames that fit: one whose frames are all rejected changes nothing.

Without a syncer, ingesting a delivery is ingesting it with its rejected frames removed, to
the last counter and message (`ingest_withoutRejected`). With a syncer every video frame is
pushed through it before any is stored, so a rejected frame still takes part in grouping:
it can end the pending group, or complete it. What holds there is that each group is
dispatched as the group of its frames that fit (`ingest_synced_fits`).
-/

namespace Rgbd

/-- The delivery with only the frames that pass `keep`, in order; a single frame that fails
leaves a set of no frames. -/
def Delivery.retain (keep : Frame → Bool) : Delivery → Delivery
  | .single f => if keep f then .single f else .set []
  | .set fs => .set (fs.filter keep)

namespace Delivery

variable (keep : Frame → Bool) (d : Delivery)

theorem frames_retain : (d.retain keep).frames = d.frames.filter keep := by
  cases d with
  | single f => by_cases h : keep f <;> simp [retain, frames, h]
  | set fs => rfl

theorem isSet_retain (h : (d.retain keep).frames ≠ []) : (d.retain keep).isSet = d.isSet := by
  cases d with
  | single f =>
    by_cases hf : keep f
    · simp [retain, hf]
    · simp [retain, hf, frames] at h
  | set fs => rfl

theorem motionFrames_retain (h : ∀ f, f.key.isMotion = true → keep f = true) :
    (d.retain keep).motionFrames = d.motionFrames := by
  simp only [motionFrames, frames_retain, List.filter_filter]
  refine List.filter_congr fun f _ => ?_
  cases hm : f.key.isMotion
  · rfl
  · simp [h f hm]

theorem videoFrames_retain : (d.retain keep).videoFrames = d.videoFrames.filter keep := by
  simp only [videoFrames, frames_retain, List.filter_filter, Bool.and_comm]

end Delivery

namespace Pipeline

/-- Whether the pipeline rejects a frame: a video frame whose stream was not negotiated, or
whose data differs in kind or size from the stream's buffer. -/
def rejects (p : Pipeline) (f : Frame) : Bool := !f.key.isMotion && !p.fits f

def withoutRejected (p : Pipeline) (d : Delivery) : Delivery := d.retain fun f => !p.rejects f

theorem motionFrames_withoutRejected (p : Pipeline) (d : Delivery) :
    (p.withoutRejected d).motionFrames = d.motionFrames :=
  Delivery.motionFrames_retain _ d fun f hf => by simp [rejects, hf]

theorem videoFrames_withoutRejected (p : Pipeline) (d : Delivery) :
    (p.withoutRejected d).videoFrames = d.videoFrames.filter p.fits := by
  rw [withoutRejected, Delivery.videoFrames_retain]
  refine List.filter_congr fun f hf => ?_
  have hm : f.key.isMotion = false := by
    simpa using (List.mem_filter.1 hf).2
  simp [rejects, hm]

theorem fits_false_of_rejects {p : Pipeline} {f : Frame} (h : p.rejects f = true) :
    p.fits f = false := by
  simp only [rejects, Bool.and_eq_true, Bool.not_eq_true'] at h
  exact h.2

theorem fits_of_video_eq {p q : Pipeline} (h : q.video = p.video) : q.fits = p.fits := by
  funext f
  unfold fits
  rw [h]

theorem store_of_fits_false {p : Pipeline} {f : Frame} (h : p.fits f = false) :
    ∃ e, p.store f = .error e := by
  unfold fits at h
  unfold store
  split
  · exact ⟨_, rfl⟩
  · rename_i v hv
    rw [hv] at h
    have hc : v.buffer.copyFrom? f.data = none := by simpa using h
    simp only [hc]
    exact ⟨_, rfl⟩

/-- Storing skips the frames that do not fit and nothing else: storing a list of frames is
storing those of them that fit. -/
theorem storeAll_filter_fits (p : Pipeline) (a : ArrivalSet) (fs : List Frame) :
    p.storeAll a (fs.filter p.fits) = p.storeAll a fs := by
  induction fs generalizing p a with
  | nil => rfl
  | cons f fs ih =>
    by_cases hf : p.fits f = true
    · rw [List.filter_cons_of_pos hf]
      rcases hs : p.store f with e | q
      · simp only [storeAll, hs]
        exact ih p a
      · have hq : q.fits = p.fits := fits_eq_of_sameStreams (sameStreams_store hs)
        rcases hm : a.mark f.key with e | a'
        · simp only [storeAll, hs, hm, ← hq, ih]
        · simp only [storeAll, hs, hm, ← hq, ih]
    · obtain ⟨e, he⟩ := store_of_fits_false (Bool.eq_false_iff.2 hf)
      rw [List.filter_cons_of_neg hf]
      simp only [storeAll, he]
      exact ih p a

section Dispatch

variable {σ : Type} [Publisher σ] [HostClock σ]

theorem dispatch_filter_fits (p : Pipeline) (fs : List Frame) (isSet : Bool) :
    p.dispatch (fs.filter p.fits) isSet = (p.dispatch fs isSet : StateM σ Pipeline) := by
  simp only [dispatch, storeAll_filter_fits]

theorem dispatch_of_rejected (p : Pipeline) {fs : List Frame} (h : ∀ f ∈ fs, p.fits f = false)
    (isSet : Bool) (w : σ) : (p.dispatch fs isSet).run w = (p, w) := by
  have hnil : fs.filter p.fits = [] := List.filter_eq_nil_iff.2 fun f hf => by simp [h f hf]
  rw [← dispatch_filter_fits, hnil]
  rfl

omit [HostClock σ] in
theorem fits_dispatchMotions (fs : List Frame) (p : Pipeline) (w : σ) :
    ((fs.foldlM dispatchMotion p).run w).1.fits = p.fits := by
  refine fits_of_video_eq (video_foldlM (fun p f w => ?_) fs p w)
  rcases dispatchMotion_eq p f w with h | ⟨sequences, h⟩ <;> rw [h]

/-- Without a syncer, ingesting a delivery is ingesting it with the frames the pipeline
rejects removed; a delivery left with no video frame dispatches nothing. -/
theorem ingest_withoutRejected {p : Pipeline} (hs : p.syncer = none) (d : Delivery) (w : σ) :
    (p.ingest (p.withoutRejected d)).run w = (p.ingest d).run w := by
  rw [ingest_unsynced hs, ingest_unsynced hs, motionFrames_withoutRejected,
    videoFrames_withoutRejected]
  dsimp only
  have hfits := fits_dispatchMotions d.motionFrames p w
  generalize (d.motionFrames.foldlM dispatchMotion p).run w = r at hfits ⊢
  obtain ⟨q, w'⟩ := r
  dsimp only at hfits ⊢
  by_cases hkept : d.videoFrames.filter p.fits = []
  · have hrej : ∀ f ∈ d.videoFrames, q.fits f = false := by
      intro f hf
      rw [hfits]
      simpa using List.filter_eq_nil_iff.1 hkept f hf
    rw [hkept, List.isEmpty_nil, if_pos rfl]
    split
    · rfl
    · exact (dispatch_of_rejected q hrej d.isSet w').symm
  · have hne : d.videoFrames ≠ [] := by
      intro hv
      rw [hv] at hkept
      exact hkept rfl
    have hset : (p.withoutRejected d).isSet = d.isSet := by
      refine Delivery.isSet_retain _ d fun hnil => hkept ?_
      rw [← videoFrames_withoutRejected, Delivery.videoFrames,
        show (p.withoutRejected d).frames = [] from hnil]
      rfl
    rw [if_neg (by simpa using hkept), if_neg (by simpa using hne), hset, ← hfits,
      dispatch_filter_fits]

theorem dispatchGroups_filter_fits (gs : List (List Frame)) {p q : Pipeline}
    (hq : q.fits = p.fits) (w : σ) :
    (gs.foldlM (fun (r : Pipeline) g => r.dispatch (g.filter p.fits) true) q).run w =
      (gs.foldlM (fun (r : Pipeline) g => r.dispatch g true) q).run w := by
  induction gs generalizing q w with
  | nil => rfl
  | cons g gs ih =>
    have hstep : (q.dispatch (g.filter p.fits) true : StateM σ Pipeline) = q.dispatch g true := by
      rw [← hq, dispatch_filter_fits]
    rw [run_foldlM_cons, run_foldlM_cons, hstep]
    exact ih ((fits_eq_of_sameStreams (sameStreams_dispatch q g true w)).trans hq) _

/-- With a syncer, a delivery publishes its inertial samples, then pushes all its video
frames through the syncer, rejected ones included, and dispatches each group it completes
as the group of its frames that fit. -/
theorem ingest_synced_fits {p : Pipeline} {s : FrameSyncer} (hs : p.syncer = some s)
    (d : Delivery) (w : σ) :
    (p.ingest d).run w =
      let r := (d.motionFrames.foldlM dispatchMotion p).run w
      ((pushAll s d.videoFrames).1.foldlM (fun (q : Pipeline) g => q.dispatch (g.filter p.fits) true)
        { r.1 with syncer := some (pushAll s d.videoFrames).2 }).run r.2 := by
  have hp : ({ p with syncer := some s } : Pipeline) = p := by rw [← hs]
  have hrun := ingest_synced p s d w
  rw [hp] at hrun
  rw [hrun]
  dsimp only
  rw [dispatchGroups_filter_fits]
  exact (fits_of_video_eq rfl).trans (fits_dispatchMotions d.motionFrames p w)

end Dispatch

end Pipeline

/-! ### The law, and where grouping breaks it -/

open Pipeline in
/-- Rejected frames change nothing but the grouping. Without a syncer, ingesting a delivery
leaves the pipeline and the world as ingesting it with its rejected video frames removed
does, and a dispatch of rejected frames changes nothing. With a syncer, all video frames are
pushed through it, rejected ones included, and each group it completes is dispatched as the
group of its frames that fit. -/
theorem rejected_frames_change_nothing_but_grouping :
    (∀ {σ : Type} [Publisher σ] [HostClock σ] (p : Pipeline) (d : Delivery) (w : σ),
      p.syncer = none → (p.ingest (p.withoutRejected d)).run w = (p.ingest d).run w) ∧
    (∀ {σ : Type} [Publisher σ] [HostClock σ] (p : Pipeline) (fs : List Frame) (isSet : Bool)
      (w : σ), (∀ f ∈ fs, p.rejects f = true) → (p.dispatch fs isSet).run w = (p, w)) ∧
    ∀ {σ : Type} [Publisher σ] [HostClock σ] (p : Pipeline) (s : FrameSyncer) (d : Delivery)
      (w : σ), p.syncer = some s →
      (p.ingest d).run w =
        let r := (d.motionFrames.foldlM dispatchMotion p).run w
        ((pushAll s d.videoFrames).1.foldlM
          (fun (q : Pipeline) g => q.dispatch (g.filter p.fits) true)
          { r.1 with syncer := some (pushAll s d.videoFrames).2 }).run r.2 :=
  ⟨fun _ _ _ hs => ingest_withoutRejected hs _ _,
    fun p _ _ _ h => dispatch_of_rejected p (fun f hf => fits_false_of_rejects (h f hf)) _ _,
    fun _ _ _ _ hs => ingest_synced_fits hs _ _⟩

/-- A depth and a color stream of one pixel each, grouped into framesets and stamped with
host time. -/
def depthColorSynced : Pipeline where
  info := ⟨"Mock D400", "0001", "5.13.0", "0b07"⟩
  settings := { syncFrames := true, hostTime := true }
  modules := ["Stereo Module", "RGB Camera"]
  video := (({} : StreamMap VideoStream).insert .depth
    ⟨⟨.depth, .z16, 1, 1, 30⟩, defaultIntrinsics 1 1, (defaultIntrinsics 1 1).calibration,
      .depth (Raster.fill 1 1 0)⟩).insert .color
    ⟨⟨.color, .rgb8, 1, 1, 30⟩, defaultIntrinsics 1 1, (defaultIntrinsics 1 1).calibration,
      .color (Raster.fill 1 1 ⟨0, 0, 0⟩)⟩
  motion := {}
  depthScale := 0.001
  extrinsics := {}
  alignments := {}
  clouds := none
  filters := default
  clock := { source := .host }
  arrivals := ArrivalTracker.new [.depth, .color]
  syncer := some (FrameSyncer.new [(.depth, 30), (.color, 30)])
  sequences := ⟨[(.depth, 0), (.color, 0)]⟩
  alignedSequences := {}
  watchdog := default
  streaming := true

def depthAt100 : Frame := ⟨.depth, 1, 100, .hardwareClock, .depth (Raster.fill 1 1 1000)⟩

def colorTooLarge : Frame := ⟨.color, 1, 101, .hardwareClock, .color (Raster.fill 2 2 ⟨1, 2, 3⟩)⟩

def bareBench : Bench := { device := { modules := [] } }

open Pipeline in
theorem rejected_frames_change_nothing_on_bench :
    let p : Pipeline := { depthColorSynced with syncer := none }
    let d : Delivery := .set [depthAt100, colorTooLarge]
    p.syncer = none ∧ (p.ingest (p.withoutRejected d)).run bareBench = (p.ingest d).run bareBench ∧
      (∀ f ∈ [colorTooLarge], p.rejects f = true) ∧
      (p.dispatch [colorTooLarge] true).run bareBench = (p, bareBench) ∧
      depthColorSynced.syncer = some (FrameSyncer.new [(.depth, 30), (.color, 30)]) ∧
      (depthColorSynced.ingest d).run bareBench =
        let s := FrameSyncer.new [(.depth, 30), (.color, 30)]
        let r := (d.motionFrames.foldlM dispatchMotion depthColorSynced).run bareBench
        ((pushAll s d.videoFrames).1.foldlM
          (fun (q : Pipeline) g => q.dispatch (g.filter depthColorSynced.fits) true)
          { r.1 with syncer := some (pushAll s d.videoFrames).2 }).run r.2 := by
  intro p d
  have h := rejected_frames_change_nothing_but_grouping
  exact ⟨rfl, h.1 p d bareBench rfl, by decide, h.2.1 p _ true bareBench (by decide), rfl,
    h.2.2 depthColorSynced _ d bareBench rfl⟩

/-- In synchronized mode a rejected frame still completes a group. A depth frame waits in the
syncer for color; a color frame of the wrong size then completes the group, so the depth
frame is dispatched and counted, while with the rejected frame removed it keeps waiting. -/
theorem rejected_frame_completes_pending_group :
    let r := (depthColorSynced.ingest (.single depthAt100)).run bareBench
    ((r.1.ingest (.single colorTooLarge)).run r.2).1.sequence .depth = 1 ∧
      ((r.1.ingest (r.1.withoutRejected (.single colorTooLarge))).run r.2).1.sequence .depth =
        0 := by
  decide

end Rgbd
