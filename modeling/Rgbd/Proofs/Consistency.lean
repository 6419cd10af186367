import Rgbd.Proofs.Generations
import Rgbd.Proofs.StreamMap
import Rgbd.Proofs.Reproject
import Rgbd.Proofs.Dispatch

/-!
Consistent pipelines: every buffer fits its calibration.

Storing a frame, filtering depth and reprojecting into an aligned buffer all keep an image's
size, so the sizes a pipeline is built with stay: each stream's buffer is an image of the
size its calibration gives, the cloud builder and every alignment read the calibration of
the depth stream, and each aligned buffer has its target's size (`Consistent`). Storing
keeps each stream's profile and calibration and the kind and size of its buffer
(`Restored`). Dispatches, inertial samples and the watchdog keep a pipeline consistent, so
every pipeline a node changes in place stays consistent; in such a pipeline no
reprojection and no cloud fails on sizes.
-/

namespace Rgbd

/-! ### Operations that keep the size of an image -/

namespace Raster

variable {α β : Type}

@[simp] theorem map_dimensions (f : α → β) (r : Raster α) : (r.map f).dimensions = r.dimensions :=
  rfl

@[simp] theorem withData_dimensions (r : Raster α) (d : Array α) :
    (r.withData d).dimensions = r.dimensions := by
  unfold withData
  split <;> rfl

@[simp] theorem zipWith_dimensions (f : α → β → α) (r : Raster α) (s : Raster β) :
    (r.zipWith f s).dimensions = r.dimensions := by
  unfold zipWith
  split <;> simp

@[simp] theorem fill_dimensions (w h : Nat) (v : α) : (fill w h v).dimensions = (w, h) := rfl

theorem copyFrom?_dimensions {r s t : Raster α} (h : r.copyFrom? s = some t) :
    t.dimensions = r.dimensions := by
  unfold copyFrom? at h
  split at h
  · rename_i hs
    cases h
    simp [dimensions, hs.1, hs.2]
  · cases h

end Raster

@[simp] theorem SpatialFilter.apply_dimensions (f : SpatialFilter) (image : FloatImage) :
    (f.apply image).dimensions = image.dimensions := by
  unfold SpatialFilter.apply
  split <;> simp

@[simp] theorem TemporalFilter.apply_dimensions (t : TemporalFilter) (image : FloatImage) :
    (t.apply image).1.dimensions = image.dimensions := by
  unfold TemporalFilter.apply
  split
  · split <;> simp
  · rfl

@[simp] theorem FilterChain.apply_dimensions (c : FilterChain) (depth : DepthImage) :
    (c.apply depth).1.dimensions = depth.dimensions := by
  unfold FilterChain.apply DisparityConverter.toDisparity DisparityConverter.toDepth
  split
  · rfl
  · dsimp only
    split <;> split <;> simp

/-! ### Buffers of one layout -/

namespace FrameData

def SameLayout : FrameData → FrameData → Prop
  | .depth a, .depth b | .color a, .color b | .gray a, .gray b => b.dimensions = a.dimensions
  | .motion _, .motion _ => True
  | _, _ => False

theorem SameLayout.refl (a : FrameData) : a.SameLayout a := by
  cases a <;> simp [SameLayout]

theorem SameLayout.dimensions {a b : FrameData} (h : a.SameLayout b) :
    b.dimensions = a.dimensions := by
  cases a <;> cases b <;> simp_all [SameLayout, FrameData.dimensions]

theorem SameLayout.trans {a b c : FrameData} (h₁ : a.SameLayout b) (h₂ : b.SameLayout c) :
    a.SameLayout c := by
  cases a <;> cases b <;> cases c <;> simp_all [SameLayout]

theorem copyFrom?_sameLayout {buffer other b : FrameData} (h : buffer.copyFrom? other = some b) :
    buffer.SameLayout b := by
  cases buffer <;> cases other <;> simp only [copyFrom?, reduceCtorEq, Option.map_eq_some_iff] at h
  all_goals
    obtain ⟨t, ht, rfl⟩ := h
    exact Raster.copyFrom?_dimensions ht

end FrameData

/-- A stream after storing frames into it: the same profile and calibration, and a buffer of
the same layout. -/
structure VideoStream.Restored (v v' : VideoStream) : Prop where
  profile : v'.profile = v.profile
  intrinsics : v'.intrinsics = v.intrinsics
  calibration : v'.calibration = v.calibration
  buffer : v.buffer.SameLayout v'.buffer

namespace Pipeline

def SameStreams (p q : Pipeline) : Prop :=
  ∀ k, Option.Rel VideoStream.Restored (p.video.find? k) (q.video.find? k)

theorem SameStreams.of_video_eq {p q : Pipeline} (h : q.video = p.video) : SameStreams p q := by
  intro k
  rw [h]
  generalize p.video.find? k = o
  cases o with
  | none => exact .none
  | some v => exact .some ⟨rfl, rfl, rfl, FrameData.SameLayout.refl _⟩

theorem SameStreams.trans {p q r : Pipeline} (h₁ : SameStreams p q) (h₂ : SameStreams q r) :
    SameStreams p r := by
  intro k
  have h₁ := h₁ k
  have h₂ := h₂ k
  generalize p.video.find? k = a at h₁
  generalize q.video.find? k = b at h₁ h₂
  generalize r.video.find? k = c at h₂
  cases h₁ with
  | none => cases h₂; exact .none
  | some hr₁ =>
    cases h₂ with
    | some hr₂ =>
      exact .some ⟨hr₂.profile.trans hr₁.profile, hr₂.intrinsics.trans hr₁.intrinsics,
        hr₂.calibration.trans hr₁.calibration, hr₁.buffer.trans hr₂.buffer⟩

theorem SameStreams.find?_right {p q : Pipeline} (hs : SameStreams p q) {k : StreamKey}
    {v' : VideoStream} (h : q.video.find? k = some v') :
    ∃ v, p.video.find? k = some v ∧ VideoStream.Restored v v' := by
  have hk := hs k
  rw [h] at hk
  generalize p.video.find? k = o at hk
  cases hk with
  | some hr => exact ⟨_, rfl, hr⟩

theorem SameStreams.find?_left {p q : Pipeline} (hs : SameStreams p q) {k : StreamKey}
    {v : VideoStream} (h : p.video.find? k = some v) :
    ∃ v', q.video.find? k = some v' ∧ VideoStream.Restored v v' := by
  have hk := hs k
  rw [h] at hk
  generalize q.video.find? k = o at hk
  cases hk with
  | some hr => exact ⟨_, rfl, hr⟩

theorem store_restores {p q : Pipeline} {f : Frame} (h : p.store f = .ok q) :
    ∃ v b filters, p.video.find? f.key = some v ∧ v.buffer.SameLayout b ∧
      q = { p with video := p.video.modify f.key fun v => { v with buffer := b }, filters } := by
  unfold store at h
  split at h
  · cases h
  · rename_i v hv
    split at h
    · cases h
    · rename_i d hd
      cases h
      refine ⟨v, _, _, hv, ?_, rfl⟩
      have hs := FrameData.copyFrom?_sameLayout hd
      cases hb : v.buffer <;> rw [hb] at hs <;> simp only [FrameData.SameLayout] at hs ⊢
      exact (FilterChain.apply_dimensions _ _).trans hs
    · rename_i b _ hb
      cases h
      exact ⟨v, b, _, hv, FrameData.copyFrom?_sameLayout hb, rfl⟩

theorem sameStreams_store {p q : Pipeline} {f : Frame} (h : p.store f = .ok q) : SameStreams p q := by
  obtain ⟨v, b, filters, hv, hb, rfl⟩ := store_restores h
  intro k
  simp only [StreamMap.find?_modify]
  split
  · subst k
    rw [hv]
    exact .some ⟨rfl, rfl, rfl, hb⟩
  · exact SameStreams.of_video_eq rfl k

theorem store_alignments {p q : Pipeline} {f : Frame} (h : p.store f = .ok q) :
    q.alignments = p.alignments := by
  obtain ⟨video, filters, rfl⟩ := store_eq h
  rfl

theorem storeAll_restores (p : Pipeline) (arrivals : ArrivalSet) (fs : List Frame) :
    SameStreams p (p.storeAll arrivals fs).1 ∧ (p.storeAll arrivals fs).1.alignments = p.alignments := by
  induction fs generalizing p arrivals with
  | nil => exact ⟨SameStreams.of_video_eq rfl, rfl⟩
  | cons f fs ih =>
    unfold storeAll
    split
    · exact ih p arrivals
    · rename_i q hq
      have hs := sameStreams_store hq
      have ha := store_alignments hq
      split
      · exact ⟨hs.trans (ih q arrivals).1, (ih q arrivals).2.trans ha⟩
      · rename_i arrivals' _
        exact ⟨hs.trans (ih q arrivals').1, (ih q arrivals').2.trans ha⟩

/-! ### The invariant -/

/-- What the products of a pipeline need of its buffers. -/
structure Consistent (p : Pipeline) : Prop where
  /-- Every buffer is an image of the size its stream's calibration gives. -/
  buffers : ∀ k v, p.video.find? k = some v →
    v.buffer.dimensions = some (v.intrinsics.width, v.intrinsics.height)
  /-- The cloud builder reads the depth stream's calibration. -/
  clouds : ∀ b, p.clouds = some b → ∃ v, p.video.find? .depth = some v ∧ b.intrinsics = v.intrinsics
  /-- Each alignment reprojects from the depth stream's calibration into a buffer of its
  target's size. -/
  alignments : ∀ k a, p.alignments.find? k = some a →
    (∃ v, p.video.find? .depth = some v ∧ a.reprojector.source = v.intrinsics) ∧
      a.buffer.dimensions = (a.reprojector.target.width, a.reprojector.target.height)

theorem Consistent.restored {p q : Pipeline} (hp : p.Consistent) (hs : SameStreams p q)
    (ha : q.alignments = p.alignments) (hc : q.clouds = p.clouds) : q.Consistent := by
  refine ⟨?_, ?_, ?_⟩
  · intro k v' h
    obtain ⟨v, hv, hr⟩ := hs.find?_right h
    rw [hr.buffer.dimensions, hr.intrinsics]
    exact hp.buffers k v hv
  · intro b hb
    obtain ⟨v, hv, hi⟩ := hp.clouds b (hc ▸ hb)
    obtain ⟨v', hv', hr⟩ := hs.find?_left hv
    exact ⟨v', hv', hi.trans hr.intrinsics.symm⟩
  · intro k a h
    obtain ⟨⟨v, hv, hsrc⟩, hdim⟩ := hp.alignments k a (ha ▸ h)
    obtain ⟨v', hv', hr⟩ := hs.find?_left hv
    exact ⟨⟨v', hv', hsrc.trans hr.intrinsics.symm⟩, hdim⟩

theorem Consistent.of_eq {p q : Pipeline} (hp : p.Consistent) (hv : q.video = p.video)
    (ha : q.alignments = p.alignments) (hc : q.clouds = p.clouds) : q.Consistent :=
  hp.restored (SameStreams.of_video_eq hv) ha hc

/-! ### No product fails on sizes -/

theorem Consistent.depthBuffer {p : Pipeline} (hp : p.Consistent) {d : DepthImage}
    (hd : p.depthBuffer = some d) :
    ∃ v, p.video.find? .depth = some v ∧ d.dimensions = (v.intrinsics.width, v.intrinsics.height) := by
  unfold Pipeline.depthBuffer at hd
  split at hd
  · rename_i v hv
    cases hd
    refine ⟨_, hv, ?_⟩
    simpa [FrameData.dimensions] using hp.buffers _ _ hv
  · cases hd

theorem Consistent.reproject_ok {p : Pipeline} (hp : p.Consistent) {k : StreamKey} {a : Alignment}
    (ha : p.alignments.find? k = some a) {d : DepthImage} (hd : p.depthBuffer = some d) :
    ∃ b, a.reprojector.reproject d a.buffer = .ok b ∧ b.dimensions = a.buffer.dimensions := by
  obtain ⟨⟨v, hv, hsrc⟩, hdim⟩ := hp.alignments k a ha
  obtain ⟨v', hv', hd'⟩ := hp.depthBuffer hd
  rw [hv] at hv'
  cases hv'
  have hsize : d.dimensions = (a.reprojector.source.width, a.reprojector.source.height) := by
    rw [hd', hsrc]
  rw [Reprojector.reproject_eq, if_neg (not_not.2 hsize), if_neg (not_not.2 hdim)]
  refine ⟨_, rfl, ?_⟩
  simp only [Raster.dimensions, Prod.mk.injEq] at hdim ⊢
  simp [hdim]

theorem Consistent.depthCloud_ok {p : Pipeline} (hp : p.Consistent) {b : CloudBuilder}
    (hb : p.clouds = some b) {d : DepthImage} (hd : p.depthBuffer = some d) :
    b.checkDepth d = .ok () := by
  obtain ⟨v, hv, hi⟩ := hp.clouds b hb
  obtain ⟨v', hv', hd'⟩ := hp.depthBuffer hd
  rw [hv] at hv'
  cases hv'
  have hsize : d.dimensions = (b.intrinsics.width, b.intrinsics.height) := by rw [hd', hi]
  unfold CloudBuilder.checkDepth
  rw [if_neg (not_not.2 hsize)]

/-! ### What keeps a pipeline consistent -/

theorem reproject_dimensions {r : Reprojector} {depth out b : DepthImage}
    (h : r.reproject depth out = .ok b) : b.dimensions = (r.target.width, r.target.height) := by
  rw [Reprojector.reproject_eq] at h
  split at h
  · cases h
  · split at h
    · cases h
    · cases h
      simp [Raster.dimensions]

theorem Consistent.realign {p : Pipeline} (hp : p.Consistent) {k : StreamKey} {a : Alignment}
    (ha : p.alignments.find? k = some a) {b : DepthImage}
    (hb : b.dimensions = (a.reprojector.target.width, a.reprojector.target.height))
    (alignedSequences : StreamMap Nat) :
    ({ p with
        alignments := p.alignments.modify k fun a => { a with buffer := b }
        alignedSequences } : Pipeline).Consistent := by
  refine ⟨hp.buffers, hp.clouds, ?_⟩
  intro k' a' h
  simp only [StreamMap.find?_modify] at h
  split at h
  · subst k'
    rw [ha] at h
    cases h
    exact ⟨(hp.alignments k a ha).1, hb⟩
  · exact hp.alignments k' a' h

section Steps

variable {σ : Type} [Publisher σ]

theorem Consistent.publishAligned {p : Pipeline} (hp : p.Consistent) (time : SystemTime)
    (k : StreamKey) (w : σ) : ((p.publishAligned time k).run w).1.Consistent := by
  unfold Pipeline.publishAligned
  simp only [run_bind, run_get]
  by_cases hs : Publisher.subscribed w (.alignedDepth k) = true
  rotate_left
  · simp only [Bool.not_eq_true] at hs
    simp only [hs, Bool.not_false]
    split
    · exact hp
    · contradiction
  · simp only [hs, Bool.not_true]
    split
    · contradiction
    · split
      · rename_i a _ _ ha _ _
        split
        · exact hp
        · rename_i b hb
          exact hp.realign ha (reproject_dimensions hb) _
      · exact hp

theorem Consistent.dispatchMotion {p : Pipeline} (hp : p.Consistent) (f : Frame) (w : σ) :
    ((p.dispatchMotion f).run w).1.Consistent := by
  rcases dispatchMotion_eq p f w with h | ⟨sequences, h⟩ <;> rw [h]
  · exact hp
  · exact hp.of_eq rfl rfl rfl

theorem Consistent.publishFrame {p : Pipeline} (hp : p.Consistent) (time : SystemTime)
    (k : StreamKey) (w : σ) : ((p.publishFrame time k).run w).1.Consistent := by
  rw [publishFrame_eq]
  exact hp.of_eq rfl rfl rfl

omit [Publisher σ] in
theorem Consistent.foldlM {α : Type} {f : Pipeline → α → StateM σ Pipeline}
    (hf : ∀ p a w, p.Consistent → ((f p a).run w).1.Consistent) (as : List α) {p : Pipeline}
    (hp : p.Consistent) (w : σ) : ((as.foldlM f p).run w).1.Consistent :=
  foldlM_rel (fun p q => p.Consistent → q.Consistent) (fun _ h => h)
    (fun _ _ _ h₁ h₂ h => h₂ (h₁ h)) (fun p a w => hf p a w) as p w hp

variable [HostClock σ]

theorem Consistent.dispatch {p : Pipeline} (hp : p.Consistent) (fs : List Frame) (isSet : Bool)
    (w : σ) : ((p.dispatch fs isSet).run w).1.Consistent := by
  have hstored : (p.storeAll p.arrivals.begin fs).1.Consistent :=
    hp.restored (storeAll_restores _ _ _).1 (storeAll_restores _ _ _).2
      (storeAll_settled _ _ _).1.clouds
  rcases h : p.storeAll p.arrivals.begin fs with ⟨q, arrivals, _ | ⟨first, rest⟩⟩
  · rw [dispatch_run_nil isSet w h]
    simpa [h] using hstored
  · rw [dispatch_run_cons isSet w h]
    rw [h] at hstored
    dsimp only at hstored ⊢
    have hframes := Consistent.foldlM
      (fun r (f : Frame) w' (hr : r.Consistent) =>
        hr.publishFrame (q.clock.stamp first.timestamp (HostClock.now w)).1 f.key w')
      (first :: rest)
      (hstored.of_eq (q := { q with
        watchdog := q.watchdog.rearm (HostClock.monotonic w)
        clock := (q.clock.stamp first.timestamp (HostClock.now w)).2 }) rfl rfl rfl) w
    split
    · exact Consistent.foldlM (fun q k w hq => hq.publishAligned _ k w) _ hframes _
    · exact hframes

end Steps

theorem Consistent.ingest {σ : Type} [Publisher σ] [HostClock σ] {p : Pipeline} (hp : p.Consistent)
    (d : Delivery) (w : σ) : ((p.ingest d).run w).1.Consistent := by
  unfold Pipeline.ingest
  dsimp only
  rw [run_bind]
  have hm := Consistent.foldlM (fun q f w hq => hq.dispatchMotion f w)
    (d.frames.filter fun f : Frame => f.key.isMotion) hp w
  generalize ((d.frames.filter fun f : Frame => f.key.isMotion).foldlM Pipeline.dispatchMotion p :
    StateM σ Pipeline).run w = r at hm ⊢
  obtain ⟨q, w'⟩ := r
  dsimp only at hm ⊢
  split
  · exact hm
  · split
    · apply Consistent.foldlM fun q g w hq => hq.dispatch g true w
      exact hm.of_eq rfl rfl rfl
    · exact hm.dispatch _ _ w'

theorem Consistent.evolves {σ : Type} [Publisher σ] [HostClock σ] {p q : Pipeline}
    (hp : p.Consistent) (h : Pipeline.Evolves σ p q) : q.Consistent := by
  induction h with
  | refl => exact hp
  | tail _ hstep ih =>
    cases hstep with
    | ingest d w => exact ih.ingest d w
    | poll now => exact ih.of_eq rfl rfl rfl
    | setStreaming on now => exact ih.of_eq rfl rfl rfl

/-! ### Built pipelines are consistent -/

section Building

variable {σ : Type} {α β : Type}

def Yields (x : Build σ α) (P : α → Prop) : Prop :=
  ∀ w a w', x.run.run w = (.ok a, w') → P a

theorem yields_true (x : Build σ α) : Yields x fun _ => True := fun _ _ _ _ => trivial

theorem yields_pure {P : α → Prop} {a : α} (h : P a) : Yields (pure a : Build σ α) P := by
  intro w b w' hb
  cases hb
  exact h

theorem yields_throw {P : α → Prop} (e : EngineError) : Yields (throw e : Build σ α) P := by
  intro w b w' hb
  cases hb

theorem yields_bind {x : Build σ α} {f : α → Build σ β} {Q : α → Prop} {P : β → Prop}
    (hx : Yields x Q) (hf : ∀ a, Q a → Yields (f a) P) : Yields (x >>= f) P := by
  intro w b w' hb
  simp only [ExceptT.run_bind, run_bind] at hb
  generalize hr : x.run.run w = r at hb
  obtain ⟨_ | a, w₁⟩ := r
  · cases hb
  · exact hf a (hx w a w₁ hr) w₁ b w' hb

def Fits (v : VideoStream) : Prop :=
  v.buffer.dimensions = some (v.intrinsics.width, v.intrinsics.height)

theorem blank_dimensions {g : StreamGeometry} {b : FrameData} (h : FrameData.blank g = some b) :
    b.dimensions = some (g.width, g.height) := by
  unfold FrameData.blank at h
  split at h <;> cases h <;> rfl

variable [Camera σ]

theorem videoStream_fits (p : StreamProfile) : Yields (videoStream (σ := σ) p) Fits := by
  unfold videoStream
  refine yields_bind (yields_true _) fun i _ => ?_
  dsimp only
  split
  · exact yields_bind (Q := fun _ => False) (yields_throw _) fun _ h => h.elim
  · rename_i hsize
    split
    · rename_i b hb
      refine yields_pure ?_
      simp only [Fits, blank_dimensions hb]
      exact congrArg some (not_not.1 hsize).symm
    · exact yields_throw _

theorem readStreams_fits (ps : List StreamProfile) (video : StreamMap VideoStream)
    (motion : StreamMap MotionIntrinsics) (h : ∀ k v, video.find? k = some v → Fits v) :
    Yields (readStreams (σ := σ) ps video motion) fun r => ∀ k v, r.1.find? k = some v → Fits v := by
  induction ps generalizing video motion with
  | nil => exact yields_pure h
  | cons p ps ih =>
    unfold readStreams
    split
    · exact yields_bind (yields_true _) fun m _ => ih _ _ h
    · refine yields_bind (videoStream_fits p) fun v hv => ih _ _ ?_
      intro k v' hk
      simp only [StreamMap.find?_insert] at hk
      split at hk
      · cases hk
        exact hv
      · exact h k v' hk

theorem find?_alignmentsFor {settings : Settings} {depthScale : Float32}
    {video : StreamMap VideoStream} {extrinsics : StreamMap Extrinsics} {k : StreamKey}
    {a : Alignment}
    (h : (alignmentsFor settings ((video.find? .depth).map (·.intrinsics)) depthScale video
      extrinsics).find? k = some a) :
    (∃ v, video.find? .depth = some v ∧ a.reprojector.source = v.intrinsics) ∧
      a.buffer.dimensions = (a.reprojector.target.width, a.reprojector.target.height) := by
  unfold alignmentsFor at h
  split at h
  · rename_i source hsource
    have hmem := StreamMap.mem_of_find?_eq_some h
    obtain ⟨⟨k₀, v₀⟩, _, hk⟩ := List.mem_filterMap.1 hmem
    dsimp only at hk
    split at hk
    · cases hk
    · obtain ⟨e, _, he⟩ := Option.map_eq_some_iff.1 hk
      cases he
      obtain ⟨v, hv, rfl⟩ := Option.map_eq_some_iff.1 hsource
      exact ⟨⟨v, hv, rfl⟩, rfl⟩
  · cases h

theorem consistent_build (settings : Settings) : Yields (build (σ := σ) settings) Consistent := by
  unfold build
  dsimp only
  refine yields_bind (yields_true _) fun _ _ => ?_
  refine yields_bind (yields_true _) fun _ _ => ?_
  refine yields_bind (yields_true _) fun _ _ => ?_
  split <;>
  · refine yields_bind (yields_true _) fun depthScale _ => ?_
    refine yields_bind (readStreams_fits _ {} {} (by simp)) fun r hfits => ?_
    obtain ⟨video, motion⟩ := r
    dsimp only
    refine yields_bind (yields_true _) fun extrinsics _ => ?_
    refine yields_bind (yields_true _) fun filters _ => yields_pure ⟨hfits, ?_, ?_⟩
    · intro b hb
      dsimp only at hb
      split at hb
      · obtain ⟨i, hi, rfl⟩ := Option.map_eq_some_iff.1 hb
        obtain ⟨v, hv, rfl⟩ := Option.map_eq_some_iff.1 hi
        exact ⟨v, hv, rfl⟩
      · cases hb
    · intro k a ha
      exact find?_alignmentsFor ha

end Building

end Pipeline

end Rgbd
