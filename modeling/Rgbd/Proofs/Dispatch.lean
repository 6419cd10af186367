import Rgbd.Pipeline.Dispatch

/-!
What handling frames changes in a pipeline.

Storing, stamping and publishing frames touch only the per-frame state of a pipeline: the
stream buffers and the filters' history, the clock base, the sequence counters, the aligned
buffers and, in a dispatch that stored a frame, the watchdog. The device, the configuration,
the negotiated streams, the syncer and the streaming flag stay as they are (`Settled`). A
dispatch rearms the watchdog at the monotonic time it starts at exactly when it stored a
frame; inertial samples never touch the watchdog.
-/

namespace Rgbd

namespace Pipeline

/-! ### Running state computations -/

section Run

variable {σ α β : Type}

theorem run_bind (x : StateM σ α) (f : α → StateM σ β) (w : σ) :
    (x >>= f).run w = (f (x.run w).1).run (x.run w).2 := rfl

theorem run_pure (a : α) (w : σ) : (pure a : StateM σ α).run w = (a, w) := rfl

theorem run_get (w : σ) : (get : StateM σ σ).run w = (w, w) := rfl

theorem run_foldlM_cons (f : β → α → StateM σ β) (a : α) (as : List α) (b : β) (w : σ) :
    ((a :: as).foldlM f b).run w = (as.foldlM f ((f b a).run w).1).run ((f b a).run w).2 := rfl

theorem foldlM_rel (R : β → β → Prop) (hrefl : ∀ b, R b b) (htrans : ∀ a b c, R a b → R b c → R a c)
    {f : β → α → StateM σ β} (hf : ∀ b a w, R b ((f b a).run w).1) (as : List α) (b : β) (w : σ) :
    R b ((as.foldlM f b).run w).1 := by
  induction as generalizing b w with
  | nil => exact hrefl b
  | cons a as ih =>
    rw [run_foldlM_cons]
    exact htrans _ _ _ (hf b a w) (ih _ _)

end Run

/-! ### The parts that stay -/

/-- `q` has the configuration of `p`: the device, the settings, the opened modules, the
inertial streams, the depth scale and extrinsics, the cloud builder, the configured streams,
the syncer and the streaming flag. -/
structure Settled (p q : Pipeline) : Prop where
  info : q.info = p.info
  settings : q.settings = p.settings
  modules : q.modules = p.modules
  motion : q.motion = p.motion
  depthScale : q.depthScale = p.depthScale
  extrinsics : q.extrinsics = p.extrinsics
  clouds : q.clouds = p.clouds
  arrivals : q.arrivals = p.arrivals
  syncer : q.syncer = p.syncer
  streaming : q.streaming = p.streaming

namespace Settled

theorem refl (p : Pipeline) : Settled p p :=
  ⟨rfl, rfl, rfl, rfl, rfl, rfl, rfl, rfl, rfl, rfl⟩

theorem trans {p q r : Pipeline} (h₁ : Settled p q) (h₂ : Settled q r) : Settled p r :=
  ⟨h₂.1.trans h₁.1, h₂.2.trans h₁.2, h₂.3.trans h₁.3, h₂.4.trans h₁.4, h₂.5.trans h₁.5,
    h₂.6.trans h₁.6, h₂.7.trans h₁.7, h₂.8.trans h₁.8, h₂.9.trans h₁.9, h₂.10.trans h₁.10⟩

end Settled

theorem settled_foldlM {σ α : Type} {f : Pipeline → α → StateM σ Pipeline}
    (hf : ∀ p a w, Settled p ((f p a).run w).1) (as : List α) (p : Pipeline) (w : σ) :
    Settled p ((as.foldlM f p).run w).1 :=
  foldlM_rel Settled Settled.refl (fun _ _ _ => Settled.trans) hf as p w

theorem watchdog_foldlM {σ α : Type} {f : Pipeline → α → StateM σ Pipeline}
    (hf : ∀ p a w, ((f p a).run w).1.watchdog = p.watchdog) (as : List α) (p : Pipeline) (w : σ) :
    ((as.foldlM f p).run w).1.watchdog = p.watchdog :=
  foldlM_rel (fun p q => q.watchdog = p.watchdog) (fun _ => rfl)
    (fun a b c (h₁ : b.watchdog = a.watchdog) (h₂ : c.watchdog = b.watchdog) => h₂.trans h₁)
    hf as p w

/-! ### Storing frames -/

theorem store_eq {p q : Pipeline} {f : Frame} (h : p.store f = .ok q) :
    ∃ video filters, q = { p with video, filters } := by
  unfold store at h
  split at h
  · cases h
  · split at h
    · cases h
    · cases h
      exact ⟨_, _, rfl⟩
    · cases h
      exact ⟨_, _, rfl⟩

theorem settled_store {p q : Pipeline} {f : Frame} (h : p.store f = .ok q) : Settled p q := by
  obtain ⟨video, filters, rfl⟩ := store_eq h
  constructor <;> rfl

theorem store_watchdog {p q : Pipeline} {f : Frame} (h : p.store f = .ok q) :
    q.watchdog = p.watchdog := by
  obtain ⟨video, filters, rfl⟩ := store_eq h
  rfl

theorem storeAll_settled (p : Pipeline) (arrivals : ArrivalSet) (fs : List Frame) :
    Settled p (p.storeAll arrivals fs).1 ∧ (p.storeAll arrivals fs).1.watchdog = p.watchdog := by
  induction fs generalizing p arrivals with
  | nil => exact ⟨Settled.refl p, rfl⟩
  | cons f fs ih =>
    unfold storeAll
    split
    · exact ih p arrivals
    · rename_i q hq
      have hs := settled_store hq
      have hw := store_watchdog hq
      split
      · exact ⟨hs.trans (ih q arrivals).1, (ih q arrivals).2.trans hw⟩
      · rename_i arrivals' _
        exact ⟨hs.trans (ih q arrivals').1, (ih q arrivals').2.trans hw⟩

/-! ### Publishing -/

section Publishing

variable {σ : Type} [Publisher σ]

theorem publishFrame_eq (p : Pipeline) (time : SystemTime) (k : StreamKey) (w : σ) :
    ((p.publishFrame time k).run w).1 = (p.nextStamp k time).2 := by
  unfold publishFrame
  generalize p.nextStamp k time = counted
  obtain ⟨stamp, q⟩ := counted
  dsimp only
  split <;> rfl

theorem settled_publishFrame (p : Pipeline) (time : SystemTime) (k : StreamKey) (w : σ) :
    Settled p ((p.publishFrame time k).run w).1 := by
  rw [publishFrame_eq]
  constructor <;> rfl

theorem publishFrame_watchdog (p : Pipeline) (time : SystemTime) (k : StreamKey) (w : σ) :
    ((p.publishFrame time k).run w).1.watchdog = p.watchdog := by
  rw [publishFrame_eq]
  rfl

theorem publishAligned_eq (p : Pipeline) (time : SystemTime) (k : StreamKey) (w : σ) :
    ((p.publishAligned time k).run w).1 = p ∨
      ∃ alignments alignedSequences,
        ((p.publishAligned time k).run w).1 = { p with alignments, alignedSequences } := by
  unfold publishAligned
  simp only [run_bind, run_get]
  by_cases hs : Publisher.subscribed w (.alignedDepth k) = true
  rotate_left
  · simp only [Bool.not_eq_true] at hs
    simp only [hs, Bool.not_false]
    split
    · exact .inl rfl
    · contradiction
  · simp only [hs, Bool.not_true]
    split
    · contradiction
    · split
      · split
        · exact .inl rfl
        · exact .inr ⟨_, _, rfl⟩
      · exact .inl rfl

theorem settled_publishAligned (p : Pipeline) (time : SystemTime) (k : StreamKey) (w : σ) :
    Settled p ((p.publishAligned time k).run w).1 := by
  rcases publishAligned_eq p time k w with h | ⟨alignments, alignedSequences, h⟩ <;> rw [h]
  · exact Settled.refl p
  · constructor <;> rfl

theorem publishAligned_watchdog (p : Pipeline) (time : SystemTime) (k : StreamKey) (w : σ) :
    ((p.publishAligned time k).run w).1.watchdog = p.watchdog := by
  rcases publishAligned_eq p time k w with h | ⟨alignments, alignedSequences, h⟩ <;> rw [h]

theorem publishFrames_settled (time : SystemTime) (fs : List Frame) (p : Pipeline) (w : σ) :
    Settled p ((fs.foldlM (fun (p : Pipeline) (f : Frame) => p.publishFrame time f.key) p).run w).1 ∧
      ((fs.foldlM (fun (p : Pipeline) (f : Frame) => p.publishFrame time f.key) p).run w).1.watchdog =
        p.watchdog :=
  ⟨settled_foldlM (fun p f w => settled_publishFrame p time f.key w) fs p w,
    watchdog_foldlM (fun p f w => publishFrame_watchdog p time f.key w) fs p w⟩

theorem alignedStep_settled (c : Bool) (time : SystemTime) (targets : List StreamKey)
    (p : Pipeline) (w : σ) :
    Settled p ((if c then targets.foldlM (fun (p : Pipeline) k => p.publishAligned time k) p
      else pure p : StateM σ Pipeline).run w).1 ∧
    ((if c then targets.foldlM (fun (p : Pipeline) k => p.publishAligned time k) p
      else pure p : StateM σ Pipeline).run w).1.watchdog = p.watchdog := by
  cases c
  · exact ⟨Settled.refl p, rfl⟩
  · exact ⟨settled_foldlM (fun p k w => settled_publishAligned p time k w) targets p w,
      watchdog_foldlM (fun p k w => publishAligned_watchdog p time k w) targets p w⟩

end Publishing

/-! ### A dispatch -/

section Dispatch

variable {σ : Type} [Publisher σ] [HostClock σ]

theorem dispatch_run_nil {p q : Pipeline} {fs : List Frame} {arrivals : ArrivalSet} (isSet : Bool)
    (w : σ) (h : p.storeAll p.arrivals.begin fs = (q, arrivals, [])) :
    (p.dispatch fs isSet).run w = (q, w) := by
  unfold dispatch
  rw [h]
  rfl

theorem dispatch_run_cons {p q : Pipeline} {fs : List Frame} {arrivals : ArrivalSet}
    {first : Frame} {rest : List Frame} (isSet : Bool) (w : σ)
    (h : p.storeAll p.arrivals.begin fs = (q, arrivals, first :: rest)) :
    (p.dispatch fs isSet).run w =
      let time := (q.clock.stamp first.timestamp (HostClock.now w)).1
      let q₁ : Pipeline := { q with
        watchdog := q.watchdog.rearm (HostClock.monotonic w)
        clock := (q.clock.stamp first.timestamp (HostClock.now w)).2 }
      let r₂ : Pipeline × σ :=
        ((first :: rest).foldlM (fun (p : Pipeline) (f : Frame) => p.publishFrame time f.key) q₁).run w
      let targets := ((first :: rest).filter fun f => !f.key.isDepth).map (·.key)
      let r₃ : Pipeline × σ := (if isSet && r₂.1.settings.alignDepth && arrivals.arrivedAt .depth then
          targets.foldlM (fun (p : Pipeline) k => p.publishAligned time k) r₂.1
        else pure r₂.1).run r₂.2
      (r₃.1, ((r₃.1.publishClouds time arrivals).run r₃.2).2) := by
  unfold dispatch
  rw [h]
  simp only [run_bind, run_get]
  generalize q.clock.stamp first.timestamp (HostClock.now w) = stamped
  obtain ⟨time, clock⟩ := stamped
  dsimp only
  split <;> simp only [run_bind, run_pure]

theorem settled_dispatch (p : Pipeline) (fs : List Frame) (isSet : Bool) (w : σ) :
    Settled p ((p.dispatch fs isSet).run w).1 := by
  rcases h : p.storeAll p.arrivals.begin fs with ⟨q, arrivals, _ | ⟨first, rest⟩⟩
  · rw [dispatch_run_nil isSet w h]
    simpa [h] using (storeAll_settled p p.arrivals.begin fs).1
  · rw [dispatch_run_cons isSet w h]
    have hq : Settled p q := by simpa [h] using (storeAll_settled p p.arrivals.begin fs).1
    dsimp only
    have hq₁ : Settled q { q with
        watchdog := q.watchdog.rearm (HostClock.monotonic w)
        clock := (q.clock.stamp first.timestamp (HostClock.now w)).2 } := by
      constructor <;> rfl
    exact hq.trans (hq₁.trans ((publishFrames_settled _ _ _ w).1.trans (alignedStep_settled _ _ _ _ _).1))

theorem dispatch_watchdog (p : Pipeline) (fs : List Frame) (isSet : Bool) (w : σ) :
    ((p.dispatch fs isSet).run w).1.watchdog =
      if (p.storeAll p.arrivals.begin fs).2.2 = [] then p.watchdog
      else p.watchdog.rearm (HostClock.monotonic w) := by
  have hkeep := (storeAll_settled p p.arrivals.begin fs).2
  rcases h : p.storeAll p.arrivals.begin fs with ⟨q, arrivals, _ | ⟨first, rest⟩⟩
  · rw [dispatch_run_nil isSet w h, if_pos rfl]
    simpa [h] using hkeep
  · rw [dispatch_run_cons isSet w h, if_neg (List.cons_ne_nil first rest)]
    rw [h] at hkeep
    dsimp only at hkeep ⊢
    rw [(alignedStep_settled _ _ _ _ _).2, (publishFrames_settled _ _ _ w).2, hkeep]

end Dispatch

/-! ### Inertial samples -/

section Motion

variable {σ : Type} [Publisher σ]

theorem dispatchMotion_eq (p : Pipeline) (f : Frame) (w : σ) :
    ((p.dispatchMotion f).run w).1 = p ∨
      ∃ sequences, ((p.dispatchMotion f).run w).1 = { p with sequences } := by
  unfold dispatchMotion
  split
  · simp only [run_bind, run_pure]
    exact .inr ⟨_, rfl⟩
  · exact .inl rfl

theorem settled_dispatchMotion (p : Pipeline) (f : Frame) (w : σ) :
    Settled p ((p.dispatchMotion f).run w).1 := by
  rcases dispatchMotion_eq p f w with h | ⟨sequences, h⟩ <;> rw [h]
  · exact Settled.refl p
  · constructor <;> rfl

theorem dispatchMotion_watchdog (p : Pipeline) (f : Frame) (w : σ) :
    ((p.dispatchMotion f).run w).1.watchdog = p.watchdog := by
  rcases dispatchMotion_eq p f w with h | ⟨sequences, h⟩ <;> rw [h]

end Motion

end Pipeline

end Rgbd
