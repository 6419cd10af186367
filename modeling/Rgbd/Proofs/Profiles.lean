import Rgbd.Proofs.Products
import Rgbd.Proofs.Liveness

/-!
Buffers keep the layout of their negotiated profiles.

A build lays each stream's buffer out blank from the stream's profile, after checking that
the calibration describes an image of the profile's size (`profilesFit_build`). Storing
copies only frames of the buffer's kind and size and filtering keeps sizes, so every change
in place restores each stream (`sameStreams_evolves`): along every run of a built pipeline
each buffer has the kind and size of its profile, which are its calibration's
(`ProfilesFit`), and the pipeline stays consistent. No reprojection and no cloud then fails
on sizes, and a dispatch publishes each product whenever its inputs are there
(`built_pipelines_never_fail_on_sizes`).
-/

namespace Rgbd

/-- A stream whose buffer has the kind and size of a blank frame of its profile, and whose
calibration describes an image of the profile's size. -/
structure VideoStream.FitsProfile (v : VideoStream) : Prop where
  layout : ∃ b, FrameData.blank v.profile.geometry = some b ∧ b.SameLayout v.buffer
  width : v.intrinsics.width = v.profile.width
  height : v.intrinsics.height = v.profile.height

theorem VideoStream.FitsProfile.restored {v v' : VideoStream} (h : v.FitsProfile)
    (hr : VideoStream.Restored v v') : v'.FitsProfile := by
  obtain ⟨⟨b, hb, hl⟩, hw, hh⟩ := h
  refine ⟨⟨b, ?_, hl.trans hr.buffer⟩, ?_, ?_⟩
  · rw [hr.profile]
    exact hb
  · rw [hr.profile, hr.intrinsics]
    exact hw
  · rw [hr.profile, hr.intrinsics]
    exact hh

namespace Pipeline

/-- Every stream of the pipeline fits its profile. -/
def ProfilesFit (p : Pipeline) : Prop := ∀ k v, p.video.find? k = some v → v.FitsProfile

theorem ProfilesFit.restored {p q : Pipeline} (hp : p.ProfilesFit) (hs : SameStreams p q) :
    q.ProfilesFit := by
  intro k v' hv'
  obtain ⟨v, hv, hr⟩ := hs.find?_right hv'
  exact (hp k v hv).restored hr

/-! ### Every change in place restores the streams -/

section Changes

variable {σ : Type} [Publisher σ] [HostClock σ]

omit [Publisher σ] [HostClock σ] in
theorem sameStreams_foldlM {α : Type} {f : Pipeline → α → StateM σ Pipeline}
    (hf : ∀ p a w, SameStreams p ((f p a).run w).1) (as : List α) (p : Pipeline) (w : σ) :
    SameStreams p ((as.foldlM f p).run w).1 :=
  foldlM_rel SameStreams (fun _ => SameStreams.of_video_eq rfl) (fun _ _ _ => SameStreams.trans)
    hf as p w

omit [HostClock σ] in
theorem sameStreams_dispatchMotions (fs : List Frame) (p : Pipeline) (w : σ) :
    SameStreams p ((fs.foldlM dispatchMotion p).run w).1 :=
  sameStreams_foldlM (fun p f w => by
    rcases dispatchMotion_eq p f w with h | ⟨sequences, h⟩ <;> rw [h]
    · exact SameStreams.of_video_eq rfl
    · exact SameStreams.of_video_eq rfl) fs p w

theorem sameStreams_ingest (p : Pipeline) (d : Delivery) (w : σ) :
    SameStreams p ((p.ingest d).run w).1 := by
  unfold Pipeline.ingest
  dsimp only
  rw [run_bind]
  have hm := sameStreams_dispatchMotions (d.frames.filter fun f : Frame => f.key.isMotion) p w
  generalize ((d.frames.filter fun f : Frame => f.key.isMotion).foldlM Pipeline.dispatchMotion p :
    StateM σ Pipeline).run w = r at hm ⊢
  obtain ⟨q, w'⟩ := r
  dsimp only at hm ⊢
  split
  · exact hm
  · split
    · refine hm.trans (SameStreams.trans ?_
        (sameStreams_foldlM (fun q g w => sameStreams_dispatch q g true w) _ _ _))
      exact SameStreams.of_video_eq rfl
    · exact hm.trans (sameStreams_dispatch _ _ _ w')

/-- A pipeline restores its streams along every change in place. -/
theorem sameStreams_evolves {p q : Pipeline} (h : Pipeline.Evolves σ p q) : SameStreams p q := by
  induction h with
  | refl => exact SameStreams.of_video_eq rfl
  | tail _ hstep ih =>
    refine ih.trans ?_
    cases hstep with
    | ingest d w => exact sameStreams_ingest _ d w
    | poll now => exact SameStreams.of_video_eq rfl
    | setStreaming on now => exact SameStreams.of_video_eq rfl

end Changes

/-! ### Built streams fit their profiles -/

section Building

variable {σ : Type} [Camera σ]

theorem videoStream_fitsProfile (p : StreamProfile) :
    Yields (videoStream (σ := σ) p) VideoStream.FitsProfile := by
  unfold videoStream
  refine yields_bind (yields_true _) fun i _ => ?_
  dsimp only
  split
  · exact yields_bind (Q := fun _ => False) (yields_throw _) fun _ h => h.elim
  · rename_i hsize
    have hwh := Prod.mk.inj (not_not.1 hsize)
    split
    · rename_i b hb
      exact yields_pure ⟨⟨b, hb, FrameData.SameLayout.refl b⟩, hwh.1, hwh.2⟩
    · exact yields_throw _

theorem readStreams_fitsProfile (ps : List StreamProfile) (video : StreamMap VideoStream)
    (motion : StreamMap MotionIntrinsics) (h : ∀ k v, video.find? k = some v → v.FitsProfile) :
    Yields (readStreams (σ := σ) ps video motion)
      fun r => ∀ k v, r.1.find? k = some v → v.FitsProfile := by
  induction ps generalizing video motion with
  | nil => exact yields_pure h
  | cons p ps ih =>
    unfold readStreams
    split
    · exact yields_bind (yields_true _) fun m _ => ih _ _ h
    · refine yields_bind (videoStream_fitsProfile p) fun v hv => ih _ _ ?_
      intro k v' hk
      simp only [StreamMap.find?_insert] at hk
      split at hk
      · cases hk
        exact hv
      · exact h k v' hk

/-- Every stream of a built pipeline fits its profile. -/
theorem profilesFit_build (settings : Settings) : Yields (build (σ := σ) settings) ProfilesFit := by
  unfold build
  dsimp only
  refine yields_bind (yields_true _) fun _ _ => ?_
  refine yields_bind (yields_true _) fun _ _ => ?_
  refine yields_bind (yields_true _) fun _ _ => ?_
  split <;>
  · refine yields_bind (yields_true _) fun depthScale _ => ?_
    refine yields_bind (readStreams_fitsProfile _ {} {} (by simp)) fun r hfits => ?_
    obtain ⟨video, motion⟩ := r
    dsimp only
    refine yields_bind (yields_true _) fun extrinsics _ => ?_
    exact yields_bind (yields_true _) fun filters _ => yields_pure hfits

end Building

/-! ### No product fails on sizes -/

theorem Consistent.depthCloud_eq_ok {p : Pipeline} (hp : p.Consistent) {b : CloudBuilder}
    (hb : p.clouds = some b) {d : DepthImage} (hd : p.depthBuffer = some d) :
    ∃ cloud, b.depthCloud d = .ok cloud := by
  unfold CloudBuilder.depthCloud
  rw [hp.depthCloud_ok hb hd]
  exact ⟨_, rfl⟩

theorem Consistent.coloredCloud_eq_ok {p : Pipeline} (hp : p.Consistent) {b : CloudBuilder}
    (hb : p.clouds = some b) {d : DepthImage} (hd : p.depthBuffer = some d) {v : VideoStream}
    (hv : p.video.find? .color = some v) {c : ColorImage} (hc : v.buffer = .color c)
    (e : Extrinsics) : ∃ cloud, b.coloredCloud d ⟨c, v.intrinsics, e⟩ = .ok cloud := by
  have hsize : c.dimensions = (v.intrinsics.width, v.intrinsics.height) := by
    simpa [hc, FrameData.dimensions] using hp.buffers _ _ hv
  unfold CloudBuilder.coloredCloud
  rw [hp.depthCloud_ok hb hd]
  simp only [hsize, ne_eq, not_true_eq_false, if_false]
  exact ⟨_, rfl⟩

/-- What a pipeline guarantees about sizes: every stream fits its profile and has a buffer of
its calibration's size, every aligned buffer has its target's size, every reprojection and
cloud of the buffers can be built, and a dispatch publishes aligned depth and clouds whenever
their inputs are there (`dispatchTopics`), so no product is ever dropped for a size. -/
structure SizeSafe (σ : Type) [Publisher σ] [HostClock σ] (q : Pipeline) : Prop where
  streams : ∀ k v, q.video.find? k = some v → v.FitsProfile ∧
    v.buffer.dimensions = some (v.intrinsics.width, v.intrinsics.height)
  aligned : ∀ k a, q.alignments.find? k = some a →
    a.buffer.dimensions = (a.reprojector.target.width, a.reprojector.target.height)
  reproject : ∀ k a d, q.alignments.find? k = some a → q.depthBuffer = some d →
    ∃ b, a.reprojector.reproject d a.buffer = .ok b
  depthCloud : ∀ b d, q.clouds = some b → q.depthBuffer = some d →
    ∃ cloud, b.depthCloud d = .ok cloud
  coloredCloud : ∀ b d v c e, q.clouds = some b → q.depthBuffer = some d →
    q.video.find? .color = some v → v.buffer = .color c → q.extrinsics.find? .color = some e →
    ∃ cloud, b.coloredCloud d ⟨c, v.intrinsics, e⟩ = .ok cloud
  dispatch : KeepsSubscribers σ → ∀ (sub : Topic → Bool) (fs : List Frame) (isSet : Bool),
    Publishes sub (q.dispatch fs isSet : StateM σ Pipeline)
      (q.dispatchTopics sub isSet ((q.storeAll q.arrivals.begin fs).2.2.map (·.key))) Consistent

theorem sizeSafe_of_consistent {σ : Type} [Publisher σ] [HostClock σ] {q : Pipeline}
    (hc : q.Consistent) (hf : q.ProfilesFit) : SizeSafe σ q where
  streams k v hv := ⟨hf k v hv, hc.buffers k v hv⟩
  aligned k a ha := (hc.alignments k a ha).2
  reproject _ _ _ ha hd := (hc.reproject_ok ha hd).imp fun _ h => h.1
  depthCloud _ _ hb hd := hc.depthCloud_eq_ok hb hd
  coloredCloud _ _ _ _ e hb hd hv hcol _ := hc.coloredCloud_eq_ok hb hd hv hcol e
  dispatch hk _ fs isSet := dispatch_publishes hk hc fs isSet

/-- Dimension errors are unreachable in a built pipeline. For every device on which a build
succeeds, and along every run of the pipeline it builds (deliveries, watchdog polls,
streaming switches), every stream keeps the kind and size of its profile, which are its
calibration's, every aligned buffer keeps its target's size, and no reprojection or cloud
fails on sizes: a dispatch publishes aligned depth and clouds whenever their inputs are
there. -/
theorem built_pipelines_never_fail_on_sizes {σ₀ σ : Type} [Camera σ₀] [Publisher σ]
    [HostClock σ] (settings : Settings) (w₀ : σ₀) {p : Pipeline} {w₀' : σ₀}
    (hbuild : (build settings).run.run w₀ = (.ok p, w₀')) {q : Pipeline}
    (hq : Pipeline.Evolves σ p q) : SizeSafe σ q := by
  have hc : q.Consistent := (consistent_build settings w₀ p w₀' hbuild).evolves hq
  have hf : q.ProfilesFit :=
    (profilesFit_build settings w₀ p w₀' hbuild).restored (sameStreams_evolves hq)
  exact sizeSafe_of_consistent hc hf

def oneDepthBench : Bench := { device := { modules := [⟨"Stereo Module", [⟨.depth, .z16, 1, 1, 30⟩]⟩] } }

def oneDepthSettings : Settings := { depth := .video 1 1 30 }

theorem built_pipelines_never_fail_on_sizes_on_bench :
    ∃ p w', (build oneDepthSettings).run.run oneDepthBench = (.ok p, w') ∧ SizeSafe Bench p :=
  ⟨_, _, rfl, built_pipelines_never_fail_on_sizes oneDepthSettings oneDepthBench rfl .refl⟩

end Pipeline

end Rgbd
