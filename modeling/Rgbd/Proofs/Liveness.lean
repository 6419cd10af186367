import Rgbd.Proofs.Watchdog
import Rgbd.Proofs.Framesets
import Rgbd.Proofs.Consistency

/-!
What feeds the watchdog of a pipeline.

A dispatch stores exactly the frames the pipeline accepts: those of a configured stream
with a buffer of the frame's kind and size (`storeAll_stored`). A delivery feeds the
watchdog when some frame it hands to dispatches is accepted (`feeds`): its video frames, or
with a syncer the frames of the groups they complete. Inertial samples, rejected frames and
frames left pending in the syncer feed nothing. Each dispatch that stores a frame reads the
host's clock as it starts, after whatever the dispatches before it published, and rearms the
watchdog at that instant (`feedReadings`, `ingest_watchdog`).

So each change in place of a pipeline gives the watchdog signals: a feed at each of those
instants, a poll, a start or a stop (`Change.signal`), and the watchdog after a history of changes is the watchdog rule run over
their signals (`watchdog_applyAll`). Main statements: after streaming starts, the watchdog
is armed one timeout after the most recent feeding delivery or the start (`deadlineAfter`),
until a poll is overdue (`deadline_after_start`, and `armed_after_start` while no poll
fired); after streaming stops, nothing fires it (`quiet_after_stop`); and along any history
at most one poll fires it (`firedPolls_le_one`).
-/

namespace Rgbd

theorem FrameData.SameLayout.copyFrom?_isSome {a b : FrameData} (h : a.SameLayout b)
    (x : FrameData) : (b.copyFrom? x).isSome = (a.copyFrom? x).isSome := by
  have hd := h.dimensions
  cases a <;> cases b <;> cases x <;>
    simp_all [FrameData.SameLayout, FrameData.copyFrom?, FrameData.dimensions,
      Raster.copyFrom?, Raster.dimensions]

namespace ArrivalSet

theorem mark_contains {s s' : ArrivalSet} {k : StreamKey} (h : s.mark k = .ok s')
    (k' : StreamKey) : s'.arrived.contains k' = s.arrived.contains k' := by
  unfold mark at h
  split at h
  · cases h
    rw [StreamMap.contains_eq_isSome, StreamMap.contains_eq_isSome, StreamMap.find?_modify]
    split
    · subst k'
      simp
    · rfl
  · cases h

theorem contains_of_mark_ok {s s' : ArrivalSet} {k : StreamKey} (h : s.mark k = .ok s') :
    s.arrived.contains k = true := by
  unfold mark at h
  split at h
  · assumption
  · cases h

theorem contains_of_mark_error {s : ArrivalSet} {k : StreamKey} {e : EngineError}
    (h : s.mark k = .error e) : s.arrived.contains k = false := by
  unfold mark at h
  split at h
  · cases h
  · rename_i hc
    simpa using hc

end ArrivalSet

theorem ArrivalTracker.begin_contains (t : ArrivalTracker) (k : StreamKey) :
    t.begin.arrived.contains k = t.isConfigured k := by
  simp [begin, isConfigured, StreamMap.contains, List.any_map, Function.comp_def]
  rw [Bool.eq_iff_iff, List.any_eq_true, decide_eq_true_iff]
  simp

namespace Pipeline

/-! ### The frames a dispatch stores -/

def fits (p : Pipeline) (f : Frame) : Bool :=
  match p.video.find? f.key with
  | some v => (v.buffer.copyFrom? f.data).isSome
  | none => false

def accepts (p : Pipeline) (f : Frame) : Bool := p.arrivals.isConfigured f.key && p.fits f

theorem fits_of_store {p q : Pipeline} {f : Frame} (h : p.store f = .ok q) : p.fits f = true := by
  obtain ⟨v, b, filters, hv, -, -⟩ := store_restores h
  unfold store at h
  unfold fits
  rw [hv] at h ⊢
  dsimp only at h ⊢
  split at h
  · cases h
  · rename_i hb
    simp [hb]
  · rename_i hb
    simp [hb]

theorem fits_of_store_error {p : Pipeline} {f : Frame} {e : EngineError}
    (h : p.store f = .error e) : p.fits f = false := by
  unfold store at h
  unfold fits
  split at h
  · rename_i hv
    rw [hv]
  · rename_i v hv
    rw [hv]
    dsimp only
    split at h
    · rename_i hb
      simp [hb]
    · cases h
    · cases h

theorem fits_eq_of_sameStreams {p q : Pipeline} (hs : SameStreams p q) : q.fits = p.fits := by
  funext f
  unfold fits
  have hk := hs f.key
  generalize p.video.find? f.key = a at hk
  generalize q.video.find? f.key = b at hk
  cases hk with
  | none => rfl
  | some hr => exact hr.buffer.copyFrom?_isSome f.data

theorem accepts_eq_of_sameStreams {p q : Pipeline} (hs : SameStreams p q)
    (ha : q.arrivals = p.arrivals) : q.accepts = p.accepts := by
  funext f
  unfold accepts
  rw [ha, fits_eq_of_sameStreams hs]

theorem storeAll_filter (p : Pipeline) (a : ArrivalSet) (fs : List Frame)
    (ha : ∀ k, a.arrived.contains k = p.arrivals.isConfigured k) :
    (p.storeAll a fs).2.2 = fs.filter p.accepts := by
  induction fs generalizing p a with
  | nil => rfl
  | cons f fs ih =>
    unfold storeAll
    split
    · rename_i e he
      rw [List.filter_cons_of_neg (by simp [accepts, fits_of_store_error he])]
      exact ih p a ha
    · rename_i q hq
      have hset := settled_store hq
      have hacc : q.accepts = p.accepts := accepts_eq_of_sameStreams (sameStreams_store hq)
        hset.arrivals
      have hq' : ∀ k, a.arrived.contains k = q.arrivals.isConfigured k := by
        rw [hset.arrivals]
        exact ha
      split
      · rename_i e he
        rw [List.filter_cons_of_neg (by simp [accepts, ← ha, ArrivalSet.contains_of_mark_error he]),
          ← hacc]
        exact ih q a hq'
      · rename_i a' ha'
        have hrest := ih q a' fun k => (ArrivalSet.mark_contains ha' k).trans (hq' k)
        rw [List.filter_cons_of_pos (by
          simp [accepts, fits_of_store hq, ← ha, ArrivalSet.contains_of_mark_ok ha']), ← hacc]
        generalize q.storeAll a' fs = r at hrest ⊢
        obtain ⟨q', a'', stored⟩ := r
        dsimp only at hrest ⊢
        rw [hrest]

/-- A dispatch stores the frames the pipeline accepts, in order. -/
theorem storeAll_stored (p : Pipeline) (fs : List Frame) :
    (p.storeAll p.arrivals.begin fs).2.2 = fs.filter p.accepts :=
  storeAll_filter p _ fs p.arrivals.begin_contains

/-! ### Computations that leave part of the world alone -/

section Keeping

variable {σ γ α β : Type} [Publisher σ]

def Keeps (obs : σ → γ) (x : StateM σ α) : Prop :=
  ∀ w, obs (x.run w).2 = obs w

variable {obs : σ → γ}

omit [Publisher σ] in
theorem Keeps.pure (a : α) : Keeps obs (pure a : StateM σ α) := fun _ => rfl

omit [Publisher σ] in
theorem keeps_get : Keeps obs (get : StateM σ σ) := fun _ => rfl

omit [Publisher σ] in
theorem Keeps.bind {x : StateM σ α} {f : α → StateM σ β} (hx : Keeps obs x)
    (hf : ∀ a, Keeps obs (f a)) : Keeps obs (x >>= f) :=
  fun w => (hf _ _).trans (hx w)

omit [Publisher σ] in
theorem Keeps.foldlM {f : β → α → StateM σ β} (hf : ∀ b a, Keeps obs (f b a)) (as : List α)
    (b : β) : Keeps obs (as.foldlM f b) := by
  induction as generalizing b with
  | nil => exact Keeps.pure b
  | cons a as ih => exact Keeps.bind (hf b a) fun b' => ih b'

/-! What publishing leaves alone, the pipeline's computations leave alone. -/

section Publishing

variable (hp : ∀ m : Publication, Keeps obs (Publisher.publish m : StateM σ Unit))
include hp

theorem keeps_publishIf (t : Topic) (m : Publication) :
    Keeps obs (publishIf t m : StateM σ Unit) := by
  unfold publishIf
  refine Keeps.bind keeps_get fun w => ?_
  split
  · exact hp m
  · exact Keeps.pure ()

theorem keeps_publishFrame (p : Pipeline) (time : SystemTime) (k : StreamKey) :
    Keeps obs (p.publishFrame time k : StateM σ Pipeline) := by
  unfold publishFrame
  split
  dsimp only
  split
  · exact Keeps.bind (keeps_publishIf hp _ _) fun _ => Keeps.pure _
  · exact Keeps.pure _

theorem keeps_publishAligned (p : Pipeline) (time : SystemTime) (k : StreamKey) :
    Keeps obs (p.publishAligned time k : StateM σ Pipeline) := by
  unfold publishAligned
  refine Keeps.bind keeps_get fun w => ?_
  dsimp only
  split
  · exact Keeps.pure p
  · split
    · split
      · exact Keeps.pure p
      · exact Keeps.bind (hp _) fun _ => Keeps.pure _
    · exact Keeps.pure p

theorem keeps_publishClouds (p : Pipeline) (time : SystemTime) (arrivals : ArrivalSet) :
    Keeps obs (p.publishClouds time arrivals : StateM σ Unit) := by
  unfold publishClouds
  dsimp only
  split
  · exact Keeps.pure ()
  · refine Keeps.bind keeps_get fun w => ?_
    split
    case' isTrue =>
      split
      case' h_1 => refine Keeps.bind (hp _) fun _ => ?_
    all_goals
      refine Keeps.bind keeps_get fun w' => ?_
      split
      · split
        · exact hp _
        · exact Keeps.pure ()
      · exact Keeps.pure ()

theorem keeps_alignedStep (c : Bool) (time : SystemTime) (targets : List StreamKey)
    (p : Pipeline) :
    Keeps obs (if c then targets.foldlM (fun (p : Pipeline) k => p.publishAligned time k) p
      else pure p : StateM σ Pipeline) := by
  cases c
  · exact Keeps.pure p
  · exact Keeps.foldlM (fun q k => keeps_publishAligned hp q time k) targets p

theorem keeps_dispatchMotion (p : Pipeline) (f : Frame) :
    Keeps obs (p.dispatchMotion f : StateM σ Pipeline) := by
  unfold dispatchMotion
  split
  · dsimp only
    exact Keeps.bind (keeps_publishIf hp _ _) fun _ => Keeps.pure _
  · exact Keeps.pure p

variable [HostClock σ]

theorem keeps_dispatch (p : Pipeline) (fs : List Frame) (isSet : Bool) :
    Keeps obs (p.dispatch fs isSet : StateM σ Pipeline) := by
  intro w
  rcases h : p.storeAll p.arrivals.begin fs with ⟨q, arrivals, _ | ⟨first, rest⟩⟩
  · rw [dispatch_run_nil isSet w h]
  · rw [dispatch_run_cons isSet w h]
    dsimp only
    rw [keeps_publishClouds hp, keeps_alignedStep hp]
    exact Keeps.foldlM (fun q (f : Frame) => keeps_publishFrame hp q _ f.key) _ _ w

theorem keeps_ingest (p : Pipeline) (d : Delivery) :
    Keeps obs (p.ingest d : StateM σ Pipeline) := by
  unfold ingest
  dsimp only
  refine Keeps.bind (Keeps.foldlM (fun q f => keeps_dispatchMotion hp q f) _ _) fun q => ?_
  split
  · exact Keeps.pure q
  · split
    · exact Keeps.foldlM (fun q g => keeps_dispatch hp q g true) _ _
    · exact keeps_dispatch hp q _ _

end Publishing

end Keeping

/-! ### The watchdog of a delivery -/

section Feeding

variable {σ : Type} [Publisher σ] [HostClock σ]

theorem accepts_of_eq {p q : Pipeline} (hv : q.video = p.video) (ha : q.arrivals = p.arrivals) :
    q.accepts = p.accepts := by
  unfold accepts fits
  rw [hv, ha]

omit [Publisher σ] [HostClock σ] in
theorem video_foldlM {α : Type} {f : Pipeline → α → StateM σ Pipeline}
    (hf : ∀ p a w, ((f p a).run w).1.video = p.video) (as : List α) (p : Pipeline) (w : σ) :
    ((as.foldlM f p).run w).1.video = p.video :=
  foldlM_rel (fun p q => q.video = p.video) (fun _ => rfl)
    (fun a b c (h₁ : b.video = a.video) (h₂ : c.video = b.video) => h₂.trans h₁)
    hf as p w

omit [HostClock σ] in
theorem accepts_dispatchMotions (fs : List Frame) (p : Pipeline) (w : σ) :
    ((fs.foldlM dispatchMotion p).run w).1.accepts = p.accepts := by
  refine accepts_of_eq (video_foldlM (fun p f w => ?_) fs p w)
    (settled_dispatchMotions fs p w).arrivals
  rcases dispatchMotion_eq p f w with h | ⟨sequences, h⟩ <;> rw [h]

theorem sameStreams_dispatch (p : Pipeline) (fs : List Frame) (isSet : Bool) (w : σ) :
    SameStreams p ((p.dispatch fs isSet).run w).1 := by
  have hs := (storeAll_restores p p.arrivals.begin fs).1
  rcases h : p.storeAll p.arrivals.begin fs with ⟨q, arrivals, _ | ⟨first, rest⟩⟩
  · rw [dispatch_run_nil isSet w h]
    simpa [h] using hs
  · rw [dispatch_run_cons isSet w h]
    rw [h] at hs
    dsimp only
    refine hs.trans (SameStreams.of_video_eq ?_)
    generalize (q.clock.stamp first.timestamp (HostClock.now w)).1 = time
    have haligned : ∀ (c : Bool) (targets : List StreamKey) (r : Pipeline) (w' : σ),
        ((if c then targets.foldlM (fun (p : Pipeline) k => p.publishAligned time k) r
          else pure r : StateM σ Pipeline).run w').1.video = r.video := by
      intro c targets r w'
      cases c
      · rfl
      · refine video_foldlM (fun p k w => ?_) targets r w'
        rcases publishAligned_eq p time k w with h | ⟨a, s, h⟩ <;> rw [h]
    rw [haligned, video_foldlM (fun p f w => by rw [publishFrame_eq]; rfl)]

theorem accepts_dispatch (p : Pipeline) (fs : List Frame) (isSet : Bool) (w : σ) :
    ((p.dispatch fs isSet).run w).1.accepts = p.accepts :=
  accepts_eq_of_sameStreams (sameStreams_dispatch p fs isSet w)
    (settled_dispatch p fs isSet w).arrivals

theorem dispatch_watchdog_accepts (p : Pipeline) (fs : List Frame) (isSet : Bool) (w : σ) :
    ((p.dispatch fs isSet).run w).1.watchdog =
      if fs.any p.accepts then p.watchdog.rearm (HostClock.monotonic w) else p.watchdog := by
  rw [dispatch_watchdog, storeAll_stored]
  by_cases h : fs.any p.accepts = true
  · obtain ⟨f, hf, hacc⟩ := List.any_eq_true.1 h
    rw [if_pos h, if_neg]
    intro hnil
    exact (List.filter_eq_nil_iff.1 hnil f hf) hacc
  · rw [if_neg h, if_pos]
    refine List.filter_eq_nil_iff.2 fun f hf hacc => h ?_
    exact List.any_eq_true.2 ⟨f, hf, hacc⟩

/-- The instants at which dispatching groups in turn reads the host's clock to rearm the
watchdog: one for each group with a frame the pipeline accepts, in the world its dispatch
starts in. -/
def dispatchReadings (isSet : Bool) : Pipeline → List (List Frame) → σ → List Instant
  | _, [], _ => []
  | p, g :: gs, w =>
    (if g.any p.accepts then [HostClock.monotonic w] else []) ++
      dispatchReadings isSet ((p.dispatch g isSet).run w).1 gs ((p.dispatch g isSet).run w).2

theorem dispatchAll_watchdog (isSet : Bool) (gs : List (List Frame)) (p : Pipeline) (w : σ) :
    ((gs.foldlM (fun (p : Pipeline) g => p.dispatch g isSet) p).run w).1.watchdog =
      p.watchdog.run ((dispatchReadings isSet p gs w).map .feed) := by
  induction gs generalizing p w with
  | nil => rfl
  | cons g gs ih =>
    rw [run_foldlM_cons, ih, dispatch_watchdog_accepts, dispatchReadings]
    by_cases hg : g.any p.accepts = true <;> simp [hg, Watchdog.step]

theorem dispatchReadings_eq_nil_iff (isSet : Bool) (gs : List (List Frame)) (p : Pipeline)
    (w : σ) : dispatchReadings isSet p gs w = [] ↔ gs.any (fun g => g.any p.accepts) = false := by
  induction gs generalizing p w with
  | nil => simp [dispatchReadings]
  | cons g gs ih =>
    rw [dispatchReadings, List.append_eq_nil_iff, ih, accepts_dispatch]
    by_cases hg : g.any p.accepts = true <;> simp [hg]

/-- Whether a delivery feeds the watchdog: some frame it hands to dispatches is accepted. The
frames handed on are its video frames, or with a syncer the frames of the groups they
complete. -/
def feeds (p : Pipeline) (d : Delivery) : Bool :=
  match p.syncer with
  | some s => (pushAll s d.videoFrames).1.any fun g => g.any p.accepts
  | none => d.videoFrames.any p.accepts

theorem ingest_unsynced {p : Pipeline} (hs : p.syncer = none) (d : Delivery) (w : σ) :
    (p.ingest d).run w =
      let r := (d.motionFrames.foldlM dispatchMotion p).run w
      if d.videoFrames.isEmpty then r else (r.1.dispatch d.videoFrames d.isSet).run r.2 := by
  unfold ingest
  dsimp only
  rw [show d.frames.filter (·.key.isMotion) = d.motionFrames from rfl,
    show (d.frames.filter fun f => !f.key.isMotion) = d.videoFrames from rfl, run_bind]
  have hsync := (settled_dispatchMotions d.motionFrames p w).syncer
  generalize (d.motionFrames.foldlM dispatchMotion p).run w = r at hsync ⊢
  obtain ⟨q, w'⟩ := r
  dsimp only at hsync ⊢
  by_cases hv : d.videoFrames.isEmpty = true
  · rw [if_pos hv, if_pos hv]
    rfl
  · rw [if_neg hv, if_neg hv, hsync, hs]

/-- The instants at which ingesting a delivery reads the host's clock to rearm the watchdog:
once its inertial samples are published, each dispatch of its video frames, or of the groups
they complete, that stores a frame reads the clock as it starts. -/
def feedReadings (p : Pipeline) (d : Delivery) (w : σ) : List Instant :=
  let r := (d.motionFrames.foldlM dispatchMotion p).run w
  match p.syncer with
  | some s => dispatchReadings true { r.1 with syncer := some (pushAll s d.videoFrames).2 }
      (pushAll s d.videoFrames).1 r.2
  | none => dispatchReadings d.isSet r.1 [d.videoFrames] r.2

theorem feedReadings_eq_nil_iff (p : Pipeline) (d : Delivery) (w : σ) :
    p.feedReadings d w = [] ↔ p.feeds d = false := by
  have hacc := accepts_dispatchMotions d.motionFrames p w
  unfold feedReadings feeds
  generalize (d.motionFrames.foldlM dispatchMotion p).run w = r at hacc
  cases p.syncer with
  | some s =>
    have hq : ({ r.1 with syncer := some (pushAll s d.videoFrames).2 } : Pipeline).accepts =
        r.1.accepts := accepts_of_eq rfl rfl
    rw [dispatchReadings_eq_nil_iff, hq, hacc]
  | none =>
    rw [dispatchReadings_eq_nil_iff, hacc]
    simp

/-- A delivery rearms the watchdog at each instant its dispatches read the clock at, and leaves
it alone when it does not feed it. -/
theorem ingest_watchdog (p : Pipeline) (d : Delivery) (w : σ) :
    ((p.ingest d).run w).1.watchdog = p.watchdog.run ((p.feedReadings d w).map .feed) := by
  have hmotion := watchdog_foldlM (fun p f w => dispatchMotion_watchdog p f w) d.motionFrames p w
  unfold feedReadings
  cases hs : p.syncer with
  | some s =>
    have hp : ({ p with syncer := some s } : Pipeline) = p := by rw [← hs]
    have hrun := ingest_synced p s d w
    rw [hp] at hrun
    rw [hrun]
    dsimp only
    rw [dispatchAll_watchdog]
    exact congrArg (Watchdog.run · _) hmotion
  | none =>
    rw [ingest_unsynced hs]
    dsimp only
    by_cases hv : d.videoFrames.isEmpty = true
    · rw [if_pos hv, List.isEmpty_iff.1 hv, hmotion]
      simp [dispatchReadings]
    · rw [if_neg hv, ← hmotion]
      exact dispatchAll_watchdog d.isSet [d.videoFrames] _ _

end Feeding

/-! ### Histories of changes -/

section Changes

variable (σ : Type) [Publisher σ] [HostClock σ]

/-- A change in place of an installed pipeline: a delivery ingested in a world, a poll of its
watchdog, or streaming switched on or off at an instant. -/
inductive Change where
  | ingest (d : Delivery) (w : σ)
  | poll (now : Instant)
  | setStreaming (on : Bool) (now : Instant)

variable {σ}

namespace Change

def apply : Change σ → Pipeline → Pipeline
  | .ingest d w, p => ((p.ingest d).run w).1
  | .poll now, p => (p.pollWatchdog now).2
  | .setStreaming on now, p => p.setStreaming on now

/-- The signals a change gives the watchdog of `p`: a delivery feeds it at each instant its
dispatches read the clock at; a poll; streaming started or stopped. -/
def signal (p : Pipeline) : Change σ → List Watchdog.Signal
  | .ingest d w => (p.feedReadings d w).map .feed
  | .poll now => [.poll now]
  | .setStreaming true now => [.start now]
  | .setStreaming false _ => [.stop]

def switches : Change σ → Bool
  | .setStreaming .. => true
  | _ => false

def fires (p : Pipeline) : Change σ → Bool
  | .poll now => (p.pollWatchdog now).1
  | _ => false

theorem watchdog_apply (c : Change σ) (p : Pipeline) :
    (c.apply p).watchdog = p.watchdog.run (c.signal p) := by
  cases c with
  | ingest d w => exact ingest_watchdog p d w
  | poll now => rfl
  | setStreaming on now => cases on <;> rfl

theorem fires_eq_firings (c : Change σ) (p : Pipeline) :
    (if c.fires p then 1 else 0) = p.watchdog.firings (c.signal p) := by
  cases c with
  | ingest d w => exact (Watchdog.firings_feeds _ _).symm
  | poll now => rfl
  | setStreaming on now => cases on <;> rfl

theorem signal_switches {c : Change σ} (hc : c.switches = false) (p : Pipeline) :
    ∀ s ∈ c.signal p, s.switches = false := by
  cases c with
  | ingest d w => simp [signal, Watchdog.Signal.switches]
  | poll now => simp [signal, Watchdog.Signal.switches]
  | setStreaming on now => cases hc

theorem signal_ne_start {c : Change σ} (hc : ∀ t, c ≠ .setStreaming true t) (p : Pipeline) :
    ∀ s ∈ c.signal p, ∀ t, s ≠ .start t := by
  cases c with
  | ingest d w => simp [signal]
  | poll now => simp [signal]
  | setStreaming on now =>
    cases on with
    | true => exact absurd rfl (hc now)
    | false => simp [signal]

end Change

def applyAll (p : Pipeline) (cs : List (Change σ)) : Pipeline := cs.foldl (fun p c => c.apply p) p

def signals : Pipeline → List (Change σ) → List Watchdog.Signal
  | _, [] => []
  | p, c :: cs => c.signal p ++ signals (c.apply p) cs

/-- The deadline of the watchdog of `q` once streaming started at `t₀` and the changes `cs`
followed: one timeout after the most recent feeding delivery among them, or after the start. -/
def deadlineAfter (q : Pipeline) (t₀ : Instant) (cs : List (Change σ)) : Instant :=
  (Watchdog.since t₀ (signals (q.setStreaming true t₀) cs)).add q.watchdog.timeout

def firedPolls : Pipeline → List (Change σ) → Nat
  | _, [] => 0
  | p, c :: cs => (if c.fires p then 1 else 0) + firedPolls (c.apply p) cs

theorem applyAll_append (p : Pipeline) (cs cs' : List (Change σ)) :
    applyAll p (cs ++ cs') = applyAll (applyAll p cs) cs' :=
  List.foldl_append

theorem firedPolls_append (p : Pipeline) (cs cs' : List (Change σ)) :
    firedPolls p (cs ++ cs') = firedPolls p cs + firedPolls (applyAll p cs) cs' := by
  induction cs generalizing p with
  | nil => simp [firedPolls, applyAll]
  | cons c cs ih =>
    simp only [List.cons_append, firedPolls, ih]
    rw [Nat.add_assoc]
    rfl

/-- The watchdog after changes is the watchdog rule run over their signals. -/
theorem watchdog_applyAll (p : Pipeline) (cs : List (Change σ)) :
    (applyAll p cs).watchdog = p.watchdog.run (signals p cs) := by
  induction cs generalizing p with
  | nil => rfl
  | cons c cs ih =>
    rw [signals, Watchdog.run_append, ← Change.watchdog_apply]
    exact ih (c.apply p)

theorem firedPolls_eq_firings (p : Pipeline) (cs : List (Change σ)) :
    firedPolls p cs = p.watchdog.firings (signals p cs) := by
  induction cs generalizing p with
  | nil => rfl
  | cons c cs ih =>
    rw [firedPolls, signals, Watchdog.firings_append, Change.fires_eq_firings,
      ← Change.watchdog_apply, ih]

/-- Along any history of changes at most one poll fires the watchdog. -/
theorem firedPolls_le_one (p : Pipeline) (cs : List (Change σ)) :
    firedPolls p cs ≤ 1 := by
  rw [firedPolls_eq_firings]
  exact Watchdog.firings_le_one _ _

theorem signals_switches {cs : List (Change σ)} (hcs : ∀ c ∈ cs, c.switches = false)
    (p : Pipeline) : ∀ s ∈ signals p cs, s.switches = false := by
  induction cs generalizing p with
  | nil => simp [signals]
  | cons c cs ih =>
    intro s hs
    rcases List.mem_append.1 hs with hs | hs
    · exact Change.signal_switches (hcs c List.mem_cons_self) p s hs
    · exact ih (fun c' hc' => hcs c' (List.mem_cons_of_mem _ hc')) _ s hs

theorem signals_ne_start {cs : List (Change σ)} (hcs : ∀ c ∈ cs, ∀ t, c ≠ .setStreaming true t)
    (p : Pipeline) : ∀ s ∈ signals p cs, ∀ t, s ≠ .start t := by
  induction cs generalizing p with
  | nil => simp [signals]
  | cons c cs ih =>
    intro s hs
    rcases List.mem_append.1 hs with hs | hs
    · exact Change.signal_ne_start (hcs c List.mem_cons_self) p s hs
    · exact ih (fun c' hc' => hcs c' (List.mem_cons_of_mem _ hc')) _ s hs

/-- After streaming starts at `t₀` on a pipeline whose watchdog has not fired, changes that
switch nothing leave the watchdog fired when some poll was overdue, and otherwise armed one
timeout after the most recent feeding delivery or the start. -/
theorem deadline_after_start {q : Pipeline} (hq : q.watchdog.state ≠ .fired)
    (t₀ : Instant) {cs : List (Change σ)} (hcs : ∀ c ∈ cs, c.switches = false) :
    ((applyAll (q.setStreaming true t₀) cs).watchdog.state = .fired ∧
        Watchdog.Overdue q.watchdog.timeout t₀ (signals (q.setStreaming true t₀) cs)) ∨
      ((applyAll (q.setStreaming true t₀) cs).watchdog.state = .armed (deadlineAfter q t₀ cs) ∧
        ¬Watchdog.Overdue q.watchdog.timeout t₀ (signals (q.setStreaming true t₀) cs)) := by
  rw [watchdog_applyAll]
  exact Watchdog.run_started hq t₀ (signals_switches hcs _)

/-- After streaming starts at `t₀` on a pipeline whose watchdog has not fired, changes that
switch nothing and fire no poll leave the watchdog armed one timeout after the most recent
feeding delivery or the start, with no poll overdue. -/
theorem armed_after_start {q : Pipeline} (hq : q.watchdog.state ≠ .fired)
    (t₀ : Instant) {cs : List (Change σ)} (hcs : ∀ c ∈ cs, c.switches = false)
    (hf : firedPolls (q.setStreaming true t₀) cs = 0) :
    (applyAll (q.setStreaming true t₀) cs).watchdog.state = .armed (deadlineAfter q t₀ cs) ∧
      ¬Watchdog.Overdue q.watchdog.timeout t₀ (signals (q.setStreaming true t₀) cs) := by
  rcases deadline_after_start hq t₀ hcs with ⟨hfired, -⟩ | harmed
  · have hstart : (q.setStreaming true t₀).watchdog.state ≠ .fired := by
      simp [setStreaming, Watchdog.arm, hq]
    rw [watchdog_applyAll] at hfired
    have hpos := Watchdog.firings_pos_of_fired hstart hfired
    rw [firedPolls_eq_firings] at hf
    omega
  · exact harmed

/-- After streaming stops on a pipeline whose watchdog has not fired, no change but a start
makes the watchdog watch again, and no poll fires it. -/
theorem quiet_after_stop {q : Pipeline} (hq : q.watchdog.state ≠ .fired)
    (now : Instant) {cs : List (Change σ)} (hcs : ∀ c ∈ cs, ∀ t, c ≠ .setStreaming true t) :
    (applyAll (q.setStreaming false now) cs).watchdog.state = .inactive ∧
      firedPolls (q.setStreaming false now) cs = 0 := by
  rw [watchdog_applyAll, firedPolls_eq_firings]
  exact Watchdog.run_stopped hq (signals_ne_start hcs _)

end Changes

end Pipeline

end Rgbd
