import Rgbd.Proofs.Profiles

/-!
Sequence counters.

Every stream counts the frames it accepts: a video frame when a dispatch stores it, an
inertial sample when the clock base exists, its stream was negotiated and it carries motion.
A frame counts whether or not its topic has subscribers, and the message published for it
carries the count that includes it. Depth aligned to a target counts only the frames it
publishes. All messages of one dispatch carry one time: the stamp of the first frame it
stored.

`Tallied` says that the messages published between two pipelines carry, stream by stream,
the counts that the counters went through. Each step function has one lemma saying what its
run does (`publishFrame_run`, `publishAligned_run`, `publishClouds_run`, `dispatchMotion_run`);
from them every dispatch and delivery keeps `Tallied`, and so does a run of deliveries.
-/

namespace Rgbd

/-! ### What messages carry -/

namespace Publication

/-- The count a message carries for stream `k`: that of an image or an inertial sample of
`k`. -/
def seqOf (k : StreamKey) : Publication → Option Nat
  | .image k' s _ _ => if k' = k then some s.seq else none
  | .imu s => if s.stream = k then some s.stamp.seq else none
  | _ => none

def alignedSeqOf (t : StreamKey) : Publication → Option Nat
  | .alignedDepth t' s _ _ => if t' = t then some s.seq else none
  | _ => none

def time : Publication → Option SystemTime
  | .image _ s _ _ | .alignedDepth _ s _ _ => some s.time
  | .depthCloud t _ | .coloredCloud t _ => some t
  | .imu s => some s.stamp.time
  | .extrinsics .. | .imuInfo .. => none

theorem counts_of_cloud {m : Publication}
    (hm : m.topic = some .coloredCloud ∨ m.topic = some .depthCloud) (k t : StreamKey) :
    m.seqOf k = none ∧ m.alignedSeqOf t = none := by
  cases m <;> simp_all [topic, seqOf, alignedSeqOf]

end Publication

/-- The topic the frames of a stream go out on: samples for an inertial stream, images
otherwise. -/
def StreamKey.topic (k : StreamKey) : Topic := if k.isMotion then .imu k else .image k

def FrameData.isMotion : FrameData → Bool
  | .motion _ => true
  | _ => false

/-! ### Counts and the messages that carry them -/

def picked : Nat → List Bool → List Nat
  | _, [] => []
  | n, f :: fs => (if f then [n] else []) ++ picked (n + 1) fs

theorem picked_append (n : Nat) (fs gs : List Bool) :
    picked n (fs ++ gs) = picked n fs ++ picked (n + fs.length) gs := by
  induction fs generalizing n with
  | nil => rfl
  | cons f fs ih =>
    simp only [List.cons_append, picked, ih, List.append_assoc, List.length_cons]
    congr 3
    omega

theorem picked_replicate (n m : Nat) (on : Bool) :
    picked n (List.replicate m on) = if on then List.range' n m else [] := by
  induction m generalizing n with
  | zero => cases on <;> rfl
  | succ m ih =>
    rw [List.replicate_succ, picked, ih, List.range'_succ]
    cases on <;> rfl

theorem picked_sublist (n : Nat) (fs : List Bool) :
    (picked n fs).Sublist (List.range' n fs.length) := by
  induction fs generalizing n with
  | nil => exact .slnil
  | cons f fs ih =>
    rw [picked, List.length_cons, List.range'_succ]
    cases f
    · exact (ih (n + 1)).cons n
    · exact (ih (n + 1)).cons_cons n

/-- A counter went from `a` to `b`, and the numbers `ns` that messages carried are those of
the counts `a + 1, …, b` whose message went out, in order; whether one went out is a flag that
`F` allows. -/
def Numbered (F : Bool → Prop) (a b : Nat) (ns : List Nat) : Prop :=
  ∃ flags : List Bool, (∀ f ∈ flags, F f) ∧ a + flags.length = b ∧ ns = picked (a + 1) flags

namespace Numbered

variable {F : Bool → Prop}

theorem refl (F : Bool → Prop) (a : Nat) : Numbered F a a [] :=
  ⟨[], by simp, rfl, rfl⟩

theorem trans {a b c : Nat} {ns ns' : List Nat} (h₁ : Numbered F a b ns)
    (h₂ : Numbered F b c ns') : Numbered F a c (ns ++ ns') := by
  obtain ⟨fs, hfs, rfl, rfl⟩ := h₁
  obtain ⟨gs, hgs, rfl, rfl⟩ := h₂
  refine ⟨fs ++ gs, fun f hf => ?_, by simp [Nat.add_assoc], ?_⟩
  · rcases List.mem_append.1 hf with hf | hf
    exacts [hfs f hf, hgs f hf]
  · rw [picked_append, Nat.add_right_comm]

theorem succ {f : Bool} (hf : F f) (a : Nat) :
    Numbered F a (a + 1) (if f then [a + 1] else []) :=
  ⟨[f], by simpa using hf, rfl, by cases f <;> rfl⟩

theorem sublist {a b : Nat} {ns : List Nat} (h : Numbered F a b ns) :
    a ≤ b ∧ ns.Sublist (List.range' (a + 1) (b - a)) := by
  obtain ⟨fs, -, rfl, rfl⟩ := h
  exact ⟨Nat.le_add_right a _, by simpa using picked_sublist (a + 1) fs⟩

theorem eq_of_forced {on : Bool} {a b : Nat} {ns : List Nat} (h : Numbered (· = on) a b ns) :
    ns = if on then List.range' (a + 1) (b - a) else [] := by
  obtain ⟨fs, hfs, rfl, rfl⟩ := h
  rw [List.eq_replicate_iff.2 ⟨rfl, hfs⟩, picked_replicate]
  simp

theorem mono {G : Bool → Prop} (hFG : ∀ f, F f → G f) {a b : Nat} {ns : List Nat}
    (h : Numbered F a b ns) : Numbered G a b ns := by
  obtain ⟨fs, hfs, hlen, hns⟩ := h
  exact ⟨fs, fun f hf => hFG f (hfs f hf), hlen, hns⟩

theorem pairwise_lt {b : Nat} {ns : List Nat} (h : Numbered F 0 b ns) : ns.Pairwise (· < ·) :=
  List.Pairwise.sublist h.sublist.2 List.pairwise_lt_range'

end Numbered

namespace Pipeline

def alignedSequence (p : Pipeline) (t : StreamKey) : Nat := (p.alignedSequences.find? t).getD 0

/-- Whether an inertial sample is counted: the clock base exists, the sample's stream was
negotiated, and it carries motion. -/
def takesMotion (p : Pipeline) (f : Frame) : Bool :=
  p.clock.isInitialized && p.motion.contains f.key && f.data.isMotion

def Heard {σ : Type} [Publisher σ] (W : σ → Prop) (k : StreamKey) (f : Bool) : Prop :=
  ∃ w, W w ∧ Publisher.subscribed w k.topic = f

/-- Between the pipelines `p` and `q` the messages `ms` went out, in worlds of `W`: the
messages of every stream carry, in order, those of the counts its counter went through whose
topic had subscribers at the time; the messages of depth aligned to a target carry all the
counts its aligned counter went through. -/
structure Tallied {σ : Type} [Publisher σ] (W : σ → Prop) (p q : Pipeline)
    (ms : List Publication) : Prop where
  frames : ∀ k, Numbered (Heard W k) (p.sequence k) (q.sequence k)
    (ms.filterMap (Publication.seqOf k))
  aligned : ∀ t, Numbered (· = true) (p.alignedSequence t) (q.alignedSequence t)
    (ms.filterMap (Publication.alignedSeqOf t))

namespace Tallied

variable {σ : Type} [Publisher σ] {W : σ → Prop}

theorem trans {p q r : Pipeline} {ms ms' : List Publication} (h₁ : Tallied W p q ms)
    (h₂ : Tallied W q r ms') : Tallied W p r (ms ++ ms') where
  frames k := by
    rw [List.filterMap_append]
    exact (h₁.frames k).trans (h₂.frames k)
  aligned t := by
    rw [List.filterMap_append]
    exact (h₁.aligned t).trans (h₂.aligned t)

theorem uncounted {p q : Pipeline} {ms : List Publication} (hs : q.sequences = p.sequences)
    (ha : q.alignedSequences = p.alignedSequences)
    (hms : ∀ m ∈ ms, ∀ k t, m.seqOf k = none ∧ m.alignedSeqOf t = none) : Tallied W p q ms where
  frames k := by
    rw [List.filterMap_eq_nil_iff.2 fun m hm => (hms m hm k k).1]
    simpa [sequence, hs] using Numbered.refl (Heard W k) (p.sequence k)
  aligned t := by
    rw [List.filterMap_eq_nil_iff.2 fun m hm => (hms m hm t t).2]
    simpa [alignedSequence, ha] using Numbered.refl (· = true) (p.alignedSequence t)

theorem refl (W : σ → Prop) (p : Pipeline) : Tallied W p p [] :=
  ⟨fun k => Numbered.refl _ (p.sequence k), fun t => Numbered.refl _ (p.alignedSequence t)⟩

theorem of_counters_eq {p q : Pipeline} (hs : q.sequences = p.sequences)
    (ha : q.alignedSequences = p.alignedSequences) : Tallied W p q [] :=
  uncounted hs ha fun _ hm => (List.not_mem_nil hm).elim

end Tallied

/-! ### Counting one frame -/

@[simp] theorem sequence_nextStamp (p : Pipeline) (k k' : StreamKey) (time : SystemTime) :
    (p.nextStamp k time).2.sequence k' = if k' = k then p.sequence k + 1 else p.sequence k' := by
  unfold nextStamp sequence
  simp only [StreamMap.find?_insert]
  split <;> rfl

theorem tallied_nextStamp {σ : Type} [Publisher σ] {W : σ → Prop} (p : Pipeline) (k : StreamKey)
    (time : SystemTime) (m : Publication) {f : Bool} (hf : Heard W k f)
    (hm : m.seqOf k = some (p.sequence k + 1)) (hm' : ∀ k', k' ≠ k → m.seqOf k' = none)
    (ha : ∀ t, m.alignedSeqOf t = none) :
    Tallied W p (p.nextStamp k time).2 (if f then [m] else []) where
  frames k' := by
    rw [sequence_nextStamp]
    by_cases hk : k' = k
    · subst hk
      rw [if_pos rfl]
      convert Numbered.succ hf (p.sequence k') using 1
      split <;> simp [hm]
    · rw [if_neg hk]
      convert Numbered.refl (Heard W k') (p.sequence k') using 1
      split <;> simp [hm' k' hk]
  aligned t := by
    have hms : (if f then [m] else []).filterMap (Publication.alignedSeqOf t) = [] := by
      split <;> simp [ha t]
    rw [hms]
    exact Numbered.refl _ _

/-! ### Messages of a computation -/

section Emitting

variable {σ : Type} [Publisher σ] {α β : Type}

/-- Run in a world of which `W` holds, `x` publishes messages of which, with the value it
returns, `R` holds, and nothing else. -/
def Emits (W : σ → Prop) (x : StateM σ α) (R : List Publication → α → Prop) : Prop :=
  ∀ w, W w → ∃ ms, (x.run w).2 = published ms w ∧ R ms (x.run w).1

def Stable (W : σ → Prop) : Prop := ∀ m w, W w → W ((Publisher.publish m).run w).2

variable {W : σ → Prop}

theorem Stable.published (hW : Stable W) (ms : List Publication) {w : σ} (hw : W w) :
    W (published ms w) := by
  induction ms generalizing w with
  | nil => exact hw
  | cons m ms ih => exact ih (hW m w hw)

def Reached (w : σ) (w' : σ) : Prop := ∃ ms, w' = published ms w

theorem stable_reached (w : σ) : Stable (Reached w) := by
  rintro m _ ⟨ms, rfl⟩
  exact ⟨ms ++ [m], by rw [published_append]; rfl⟩

theorem reached_self (w : σ) : Reached w w := ⟨[], rfl⟩

theorem stable_true : Stable fun _ : σ => True := fun _ _ _ => trivial

theorem Emits.pure {R : List Publication → α → Prop} {a : α} (h : R [] a) :
    Emits W (Pure.pure a : StateM σ α) R :=
  fun _ _ => ⟨[], rfl, h⟩

theorem Emits.mono {x : StateM σ α} {R S : List Publication → α → Prop} (hx : Emits W x R)
    (h : ∀ ms a, R ms a → S ms a) : Emits W x S := by
  intro w hw
  obtain ⟨ms, hrun, hr⟩ := hx w hw
  exact ⟨ms, hrun, h _ _ hr⟩

theorem Emits.bind (hW : Stable W) {x : StateM σ α} {f : α → StateM σ β}
    {R : List Publication → α → Prop} {S : List Publication → β → Prop} (hx : Emits W x R)
    (hf : ∀ ms a, R ms a → Emits W (f a) fun ms' b => S (ms ++ ms') b) :
    Emits W (x >>= f) S := by
  intro w hw
  obtain ⟨ms, hrun, hr⟩ := hx w hw
  have hw' : W (x.run w).2 := by
    rw [hrun]
    exact hW.published ms hw
  obtain ⟨ms', hrun', hs⟩ := hf ms _ hr _ hw'
  refine ⟨ms ++ ms', ?_, ?_⟩
  · rw [run_bind, hrun', hrun, published_append]
  · rw [run_bind]
    exact hs

theorem Emits.foldlM (hW : Stable W) {f : β → α → StateM σ β}
    {T : β → List Publication → β → Prop} {I : β → Prop} (hrefl : ∀ b, T b [] b)
    (htrans : ∀ a b c ms ms', T a ms b → T b ms' c → T a (ms ++ ms') c) (as : List α)
    (hf : ∀ b, I b → ∀ a ∈ as, Emits W (f b a) fun ms c => T b ms c ∧ I c) {b : β} (hb : I b) :
    Emits W (as.foldlM f b) fun ms c => T b ms c ∧ I c := by
  induction as generalizing b with
  | nil => exact Emits.pure ⟨hrefl b, hb⟩
  | cons a as ih =>
    rw [List.foldlM_cons]
    refine (hf b hb a List.mem_cons_self).bind hW fun ms c ⟨hbc, hc⟩ => ?_
    refine (ih (fun b hb a ha => hf b hb a (List.mem_cons_of_mem _ ha)) hc).mono ?_
    rintro ms' d ⟨hcd, hd⟩
    exact ⟨htrans _ _ _ _ _ hbc hcd, hd⟩

end Emitting

/-! ### Messages of one kind -/

section Only

variable {σ : Type} [Publisher σ] {α β : Type} {Q : Publication → Prop}

def EmitsOnly (x : StateM σ α) (Q : Publication → Prop) : Prop :=
  Emits (fun _ => True) x fun ms _ => ∀ m ∈ ms, Q m

theorem EmitsOnly.bind {x : StateM σ α} {f : α → StateM σ β} (hx : EmitsOnly x Q)
    (hf : ∀ a, EmitsOnly (f a) Q) : EmitsOnly (x >>= f) Q :=
  Emits.bind stable_true hx fun ms a hms => (hf a).mono fun ms' _ hms' m hm => by
    rcases List.mem_append.1 hm with hm | hm
    · exact hms m hm
    · exact hms' m hm

theorem emitsOnly_pure (a : α) : EmitsOnly (Pure.pure a : StateM σ α) Q :=
  Emits.pure fun _ hm => (List.not_mem_nil hm).elim

theorem emitsOnly_get : EmitsOnly (get : StateM σ σ) Q :=
  fun _ _ => ⟨[], rfl, fun _ hm => (List.not_mem_nil hm).elim⟩

theorem emitsOnly_publish {m : Publication} (hm : Q m) :
    EmitsOnly (Publisher.publish m : StateM σ Unit) Q :=
  fun _ _ => ⟨[m], rfl, fun m' hm' => by rw [List.mem_singleton.1 hm']; exact hm⟩

theorem EmitsOnly.foldlM {f : β → α → StateM σ β} (hf : ∀ b a, EmitsOnly (f b a) Q)
    (as : List α) (b : β) : EmitsOnly (as.foldlM f b) Q := by
  induction as generalizing b with
  | nil => exact emitsOnly_pure b
  | cons a as ih => exact (hf b a).bind ih

theorem emitsOnly_publishIf {t : Topic} {m : Publication} (hm : Q m) :
    EmitsOnly (publishIf t m : StateM σ Unit) Q := by
  unfold publishIf
  refine emitsOnly_get.bind fun w => ?_
  split
  · exact emitsOnly_publish hm
  · exact emitsOnly_pure _

theorem emitsOnly_publishClouds (p : Pipeline) (time : SystemTime) (arrivals : ArrivalSet) :
    EmitsOnly (p.publishClouds time arrivals : StateM σ Unit) fun m =>
      m.time = some time ∧ (m.topic = some .coloredCloud ∨ m.topic = some .depthCloud) := by
  unfold publishClouds
  split
  · exact emitsOnly_pure _
  refine emitsOnly_get.bind fun w => ?_
  dsimp only
  split
  case' isTrue =>
    split
    case' h_1 =>
      refine (emitsOnly_publish ⟨rfl, .inl rfl⟩).bind fun _ => emitsOnly_get.bind fun w => ?_
    case' h_2 => refine emitsOnly_get.bind fun w => ?_
  case' isFalse => refine emitsOnly_get.bind fun w => ?_
  all_goals
    split
    · split
      · exact emitsOnly_publish ⟨rfl, .inr rfl⟩
      · exact emitsOnly_pure _
    · exact emitsOnly_pure _

end Only

/-! ### What each step does -/

section Steps

variable {σ : Type} [Publisher σ]

theorem topic_of_isMotion {k : StreamKey} (h : k.isMotion = true) : k.topic = .imu k := by
  simp [StreamKey.topic, h]

theorem topic_of_not_isMotion {k : StreamKey} (h : k.isMotion = false) : k.topic = .image k := by
  simp [StreamKey.topic, h]

/-- Publishing a frame of a stream with a buffer counts it, and sends the buffer, stamped with
the new count, when the stream's image topic has subscribers. -/
theorem publishFrame_run (p : Pipeline) (time : SystemTime) {k : StreamKey} {v : VideoStream}
    (hv : p.video.find? k = some v) (w : σ) :
    (p.publishFrame time k).run w = ((p.nextStamp k time).2,
      published (if Publisher.subscribed w (.image k) then
        [.image k ⟨time, p.sequence k + 1⟩ v.buffer v.calibration] else []) w) := by
  unfold publishFrame nextStamp publishIf
  dsimp only
  rw [hv]
  simp only [run_bind, run_get]
  by_cases hs : Publisher.subscribed w (.image k) = true <;> simp only [hs, ↓reduceIte] <;> rfl

/-- Aligning depth to a target either does nothing or, when the aligned topic has
subscribers and the reprojection succeeds, replaces the aligned buffer, counts one more
aligned frame of the target, and sends it stamped with the new count. -/
theorem publishAligned_run (p : Pipeline) (time : SystemTime) (t : StreamKey) (w : σ) :
    (p.publishAligned time t).run w = (p, w) ∨
      ∃ alignments b cal, (p.publishAligned time t).run w =
        ({ p with
            alignments := alignments
            alignedSequences := p.alignedSequences.insert t (p.alignedSequence t + 1) },
          published [.alignedDepth t ⟨time, p.alignedSequence t + 1⟩ b cal] w) := by
  unfold publishAligned
  simp only [run_bind, run_get]
  by_cases hs : Publisher.subscribed w (.alignedDepth t) = true
  · simp only [hs, Bool.not_true, Bool.false_eq_true, ↓reduceIte]
    split
    · split
      · exact .inl rfl
      · exact .inr ⟨_, _, _, rfl⟩
    · exact .inl rfl
  · simp only [hs, Bool.not_false, ↓reduceIte]
    exact .inl rfl

theorem clock_map_isSome (c : ClockSync) (device : Float) :
    (c.map device).isSome = c.isInitialized := by
  unfold ClockSync.map ClockSync.isInitialized
  cases c.base <;> rfl

/-- An inertial sample is either not counted, and changes nothing, or counted, and sent
stamped with the new count and its mapped time when its topic has subscribers. -/
theorem dispatchMotion_run (p : Pipeline) (f : Frame) (w : σ) :
    (p.takesMotion f = false ∧ (p.dispatchMotion f).run w = (p, w)) ∨
      ∃ time axes, p.takesMotion f = true ∧ p.clock.map f.timestamp = some time ∧
        (p.dispatchMotion f).run w = ((p.nextStamp f.key time).2,
          published (if Publisher.subscribed w (.imu f.key) then
            [.imu ⟨f.key, ⟨time, p.sequence f.key + 1⟩, .ofSample f.key axes⟩] else []) w) := by
  unfold dispatchMotion
  split
  · rename_i time axes hmap hcontains hdata
    refine .inr ⟨time, axes, ?_, hmap, ?_⟩
    · simp [takesMotion, ← clock_map_isSome p.clock f.timestamp, hmap, hcontains, hdata,
        FrameData.isMotion]
    · unfold nextStamp publishIf
      simp only [run_bind, run_get]
      by_cases hs : Publisher.subscribed w (.imu f.key) = true <;>
        simp only [hs, ↓reduceIte] <;> rfl
  · rename_i hnot
    refine .inl ⟨?_, rfl⟩
    cases hmap : p.clock.map f.timestamp with
    | none => simp [takesMotion, ← clock_map_isSome p.clock f.timestamp, hmap]
    | some time =>
      cases hdata : f.data with
      | motion axes =>
        have hc : p.motion.contains f.key = false := by
          cases hcont : p.motion.contains f.key
          · rfl
          · exact (hnot time axes hmap hcont hdata).elim
        simp [takesMotion, hc]
      | _ => simp [takesMotion, hdata, FrameData.isMotion]

end Steps

/-! ### What counting needs of a pipeline -/

/-- What counting needs of a pipeline: no video stream is an inertial stream, and every video
stream is tracked for arrival, so that a dispatch stores exactly the frames that fit. -/
structure Tracked (p : Pipeline) : Prop where
  notMotion : ∀ k v, p.video.find? k = some v → k.isMotion = false
  configured : ∀ k v, p.video.find? k = some v → p.arrivals.isConfigured k = true

theorem Tracked.restored {p q : Pipeline} (hp : p.Tracked) (hs : SameStreams p q)
    (ha : q.arrivals = p.arrivals) : q.Tracked where
  notMotion k v hv := by
    obtain ⟨v', hv', -⟩ := hs.find?_right hv
    exact hp.notMotion k v' hv'
  configured k v hv := by
    obtain ⟨v', hv', -⟩ := hs.find?_right hv
    rw [ha]
    exact hp.configured k v' hv'

theorem Tracked.accepts_eq {p : Pipeline} (hp : p.Tracked) : p.accepts = p.fits := by
  funext f
  unfold accepts
  cases hf : p.fits f with
  | false => simp
  | true =>
    have hv : (p.video.find? f.key).isSome := by
      unfold fits at hf
      split at hf
      · rename_i _ v hv
        rw [hv]
        rfl
      · cases hf
    obtain ⟨v, hv⟩ := Option.isSome_iff_exists.1 hv
    simp [hp.configured f.key v hv]

/-! ### Each step keeps the tally -/

section Tally

variable {σ : Type} [Publisher σ] {W : σ → Prop}

/-- From `p`, in worlds of `W`, `x` publishes messages that carry the counts its counters go
through, and returns a pipeline of which `P` holds. -/
def Tallies (W : σ → Prop) (p : Pipeline) (x : StateM σ Pipeline) (P : Pipeline → Prop) :
    Prop :=
  Emits W x fun ms q => Tallied W p q ms ∧ P q

theorem tallies_publishFrame (p : Pipeline) (time : SystemTime) {k : StreamKey}
    {v : VideoStream} (hv : p.video.find? k = some v) (hk : k.isMotion = false) :
    Tallies W p (p.publishFrame time k : StateM σ Pipeline) fun q => q.video = p.video := by
  intro w hw
  rw [publishFrame_run p time hv w, ← topic_of_not_isMotion hk]
  refine ⟨_, rfl, tallied_nextStamp p k time _ ⟨w, hw, rfl⟩ ?_ ?_ ?_, rfl⟩
  · simp [Publication.seqOf]
  · intro k' hk'
    simp [Publication.seqOf, Ne.symm hk']
  · intro t
    rfl

theorem tallies_publishFrames (hW : Stable W) (q : Pipeline) (time : SystemTime)
    (fs : List Frame) (hfs : ∀ f ∈ fs, (q.video.find? f.key).isSome ∧ f.key.isMotion = false) :
    Tallies W q (fs.foldlM (fun (p : Pipeline) (f : Frame) => p.publishFrame time f.key) q :
      StateM σ Pipeline) fun r => r.video = q.video := by
  refine Emits.foldlM hW (T := fun p ms r => Tallied W p r ms)
    (Tallied.refl W) (fun _ _ _ _ _ => Tallied.trans) fs (fun p hp f hf => ?_) rfl
  obtain ⟨hfound, hmotion⟩ := hfs f hf
  obtain ⟨v, hv⟩ := Option.isSome_iff_exists.1 (hp ▸ hfound)
  refine (tallies_publishFrame p time hv hmotion).mono ?_
  rintro ms r ⟨ht, hr⟩
  exact ⟨ht, hr.trans hp⟩

theorem tallies_publishAligned (p : Pipeline) (time : SystemTime) (t : StreamKey) :
    Tallies W p (p.publishAligned time t : StateM σ Pipeline)
      fun q => q.sequences = p.sequences := by
  intro w _
  rcases publishAligned_run p time t w with h | ⟨alignments, b, cal, h⟩ <;> rw [h]
  · exact ⟨[], rfl, Tallied.refl W p, rfl⟩
  refine ⟨_, rfl, ⟨fun k => Numbered.refl _ _, fun t' => ?_⟩, rfl⟩
  change Numbered (· = true) _ (((p.alignedSequences.insert t (p.alignedSequence t + 1)).find? t').getD 0) _
  rw [StreamMap.find?_insert]
  by_cases ht : t' = t
  · subst ht
    convert Numbered.succ (F := (· = true)) (f := true) rfl (p.alignedSequence t') using 1 <;>
      simp [Publication.alignedSeqOf]
  · simpa [ht, alignedSequence, Publication.alignedSeqOf, Ne.symm ht] using
      Numbered.refl _ (p.alignedSequence t')

theorem tallies_alignedStep (hW : Stable W) (c : Bool) (time : SystemTime)
    (targets : List StreamKey) (r : Pipeline) :
    Tallies W r (if c then targets.foldlM (fun (p : Pipeline) k => p.publishAligned time k) r
      else pure r : StateM σ Pipeline) fun q => q.sequences = r.sequences := by
  cases c
  · exact Emits.pure ⟨Tallied.refl W r, rfl⟩
  · refine Emits.foldlM hW (T := fun p ms q => Tallied W p q ms)
      (Tallied.refl W) (fun _ _ _ _ _ => Tallied.trans) targets (fun p hp t _ => ?_) rfl
    refine (tallies_publishAligned p time t).mono ?_
    rintro ms q ⟨ht, hq⟩
    exact ⟨ht, hq.trans hp⟩

theorem storeAll_eq (p : Pipeline) (a : ArrivalSet) (fs : List Frame) :
    ∃ video filters, (p.storeAll a fs).1 = { p with video, filters } := by
  induction fs generalizing p a with
  | nil => exact ⟨p.video, p.filters, rfl⟩
  | cons f fs ih =>
    unfold storeAll
    split
    · exact ih p a
    · rename_i q hq
      obtain ⟨video, filters, rfl⟩ := store_eq hq
      split
      · obtain ⟨video', filters', h⟩ := ih { p with video, filters } a
        exact ⟨video', filters', h⟩
      · rename_i a' _
        obtain ⟨video', filters', h⟩ := ih { p with video, filters } a'
        generalize Pipeline.storeAll _ a' fs = r at h ⊢
        obtain ⟨q', a'', stored⟩ := r
        exact ⟨video', filters', h⟩

variable [HostClock σ]

theorem tallies_dispatch (hW : Stable W) {p : Pipeline} (hp : p.Tracked)
    (fs : List Frame) (isSet : Bool) :
    Tallies W p (p.dispatch fs isSet : StateM σ Pipeline) Tracked := by
  intro w hw
  have hend : ((p.dispatch fs isSet).run w).1.Tracked :=
    hp.restored (sameStreams_dispatch p fs isSet w) (settled_dispatch p fs isSet w).arrivals
  have hsame := (storeAll_restores p p.arrivals.begin fs).1
  have harr := (storeAll_settled p p.arrivals.begin fs).1.arrivals
  have hfound := storeAll_found p p.arrivals.begin fs
  obtain ⟨video, filters, hq⟩ := storeAll_eq p p.arrivals.begin fs
  rcases h : p.storeAll p.arrivals.begin fs with ⟨q, arrivals, _ | ⟨first, rest⟩⟩
  · rw [dispatch_run_nil isSet w h] at hend ⊢
    rw [h] at hq
    dsimp only at hq
    exact ⟨[], rfl, Tallied.of_counters_eq (by rw [hq]) (by rw [hq]), hend⟩
  rw [h] at hsame harr hfound hq
  dsimp only at hsame harr hfound hq
  have hqt : q.Tracked := hp.restored hsame harr
  rw [dispatch_run_cons isSet w h] at hend ⊢
  dsimp only at hend ⊢
  generalize (q.clock.stamp first.timestamp (HostClock.now w)).1 = time at hend ⊢
  generalize hq₁ : ({ q with
    watchdog := q.watchdog.rearm (HostClock.monotonic w)
    clock := (q.clock.stamp first.timestamp (HostClock.now w)).2 } : Pipeline) = q₁ at hend ⊢
  have hv₁ : q₁.video = q.video := by rw [← hq₁]
  have ht₀ : Tallied W p q₁ [] := Tallied.of_counters_eq (by rw [← hq₁, hq]) (by rw [← hq₁, hq])
  obtain ⟨ms₁, hw₁, ht₁, -⟩ := tallies_publishFrames hW q₁ time (first :: rest)
    (fun f hf => by
      obtain ⟨v, hv⟩ := Option.isSome_iff_exists.1 (hfound f hf)
      exact ⟨by rw [hv₁, hv]; rfl, hqt.notMotion f.key v hv⟩) w hw
  generalize ((first :: rest).foldlM (fun (p : Pipeline) (f : Frame) => p.publishFrame time f.key)
    q₁ : StateM σ Pipeline).run w = r₂ at hw₁ ht₁ hend ⊢
  obtain ⟨q₂, w₂⟩ := r₂
  dsimp only at hw₁ ht₁ hend ⊢
  obtain ⟨ms₂, hw₂, ht₂, -⟩ := tallies_alignedStep hW
    (isSet && q₂.settings.alignDepth && arrivals.arrivedAt .depth) time
    (((first :: rest).filter fun f => !f.key.isDepth).map (·.key)) q₂ w₂
    (show W w₂ by
      rw [hw₁]
      exact hW.published ms₁ hw)
  generalize (if isSet && q₂.settings.alignDepth && arrivals.arrivedAt .depth then
      (((first :: rest).filter fun f => !f.key.isDepth).map (·.key)).foldlM
        (fun (p : Pipeline) k => p.publishAligned time k) q₂
    else pure q₂ : StateM σ Pipeline).run w₂ = r₃ at hw₂ ht₂ hend ⊢
  obtain ⟨q₃, w₃⟩ := r₃
  dsimp only at hw₂ ht₂ hend ⊢
  obtain ⟨ms₃, hw₃, hc₃⟩ := emitsOnly_publishClouds q₃ time arrivals w₃ trivial
  have ht₃ : Tallied W q₃ q₃ ms₃ :=
    Tallied.uncounted rfl rfl fun m hm k t => Publication.counts_of_cloud (hc₃ m hm).2 k t
  refine ⟨ms₁ ++ ms₂ ++ ms₃, ?_, ?_, hend⟩
  · rw [hw₃, hw₂, hw₁, published_append, published_append]
  · simpa using ((ht₀.trans ht₁).trans ht₂).trans ht₃

end Tally

/-! ### Counters count accepted frames -/

section Counting

variable {σ : Type} [Publisher σ]

theorem sequence_of_sequences_eq {p q : Pipeline} (h : q.sequences = p.sequences) (k : StreamKey) :
    q.sequence k = p.sequence k := by
  unfold sequence
  rw [h]

theorem sequence_publishFrames (time : SystemTime) (fs : List Frame) (q : Pipeline) (w : σ)
    (k : StreamKey) :
    ((fs.foldlM (fun (p : Pipeline) (f : Frame) => p.publishFrame time f.key) q).run w).1.sequence k =
      q.sequence k + fs.countP (·.key == k) := by
  induction fs generalizing q w with
  | nil => rfl
  | cons f fs ih =>
    rw [run_foldlM_cons, ih, publishFrame_eq, sequence_nextStamp, List.countP_cons]
    by_cases h : f.key = k
    · subst h
      simp
      omega
    · simp [h, Ne.symm h]

theorem sequences_alignedStep (c : Bool) (time : SystemTime) (targets : List StreamKey)
    (r : Pipeline) (w : σ) :
    ((if c then targets.foldlM (fun (p : Pipeline) k => p.publishAligned time k) r
      else pure r : StateM σ Pipeline).run w).1.sequences = r.sequences := by
  cases c
  · rfl
  · exact foldlM_rel (fun p q => q.sequences = p.sequences) (fun _ => rfl)
      (fun a b c (h₁ : b.sequences = a.sequences) (h₂ : c.sequences = b.sequences) => h₂.trans h₁)
      (fun p k w => by rcases publishAligned_eq p time k w with h | ⟨a, s, h⟩ <;> rw [h])
      targets r w

theorem sequence_dispatchMotions (fs : List Frame) (p : Pipeline) (w : σ) (k : StreamKey) :
    ((fs.foldlM dispatchMotion p).run w).1.sequence k =
      p.sequence k + (fs.filter p.takesMotion).countP (·.key == k) := by
  induction fs generalizing p w with
  | nil => rfl
  | cons f fs ih =>
    rw [run_foldlM_cons, ih]
    rcases dispatchMotion_run p f w with ⟨hf, h⟩ | ⟨time, axes, hf, -, h⟩ <;> rw [h] <;>
      dsimp only
    · rw [List.filter_cons_of_neg (by simp [hf])]
    · have htakes : (p.nextStamp f.key time).2.takesMotion = p.takesMotion := rfl
      rw [htakes, sequence_nextStamp, List.filter_cons_of_pos hf, List.countP_cons]
      by_cases hk : f.key = k
      · subst hk
        simp
        omega
      · simp [hk, Ne.symm hk]

variable [HostClock σ]

theorem sequence_dispatch (p : Pipeline) (fs : List Frame) (isSet : Bool) (w : σ)
    (k : StreamKey) :
    ((p.dispatch fs isSet).run w).1.sequence k =
      p.sequence k + (fs.filter p.accepts).countP (·.key == k) := by
  have hstored := storeAll_stored p fs
  obtain ⟨video, filters, hq⟩ := storeAll_eq p p.arrivals.begin fs
  rcases h : p.storeAll p.arrivals.begin fs with ⟨q, arrivals, _ | ⟨first, rest⟩⟩
  · rw [h] at hstored hq
    dsimp only at hstored hq
    rw [dispatch_run_nil isSet w h, ← hstored, hq]
    rfl
  · rw [h] at hstored hq
    dsimp only at hstored hq
    rw [dispatch_run_cons isSet w h, ← hstored]
    dsimp only
    rw [sequence_of_sequences_eq (sequences_alignedStep _ _ _ _ _), sequence_publishFrames, hq]
    rfl

theorem sequence_dispatchGroups (gs : List (List Frame)) (q : Pipeline) (w : σ) (k : StreamKey) :
    ((gs.foldlM (fun (p : Pipeline) g => p.dispatch g true) q).run w).1.sequence k =
      q.sequence k + (gs.flatten.filter q.accepts).countP (·.key == k) := by
  induction gs generalizing q w with
  | nil => rfl
  | cons g gs ih =>
    rw [run_foldlM_cons, ih, accepts_dispatch, sequence_dispatch, List.flatten_cons,
      List.filter_append, List.countP_append]
    omega

/-- The video frames a delivery hands to dispatches: with a syncer, those of the groups that
pushing the delivery's video frames completes, in order; otherwise its own video frames. -/
def handed (p : Pipeline) (d : Delivery) : List Frame :=
  match p.syncer with
  | some s => (pushAll s d.videoFrames).1.flatten
  | none => d.videoFrames

theorem sequence_ingest (p : Pipeline) (d : Delivery) (w : σ) (k : StreamKey) :
    ((p.ingest d).run w).1.sequence k = p.sequence k +
      (d.motionFrames.filter p.takesMotion ++ (p.handed d).filter p.accepts).countP (·.key == k) := by
  have hmotion := sequence_dispatchMotions d.motionFrames p w k
  have hacc := accepts_dispatchMotions d.motionFrames p w
  rw [List.countP_append, ← Nat.add_assoc, ← hmotion]
  cases hs : p.syncer with
  | some s =>
    have hp : ({ p with syncer := some s } : Pipeline) = p := by rw [← hs]
    have hrun := ingest_synced p s d w
    rw [hp] at hrun
    rw [hrun]
    dsimp only
    simp only [handed, hs]
    generalize (d.motionFrames.foldlM dispatchMotion p).run w = r at hacc ⊢
    obtain ⟨q, w'⟩ := r
    dsimp only at hacc ⊢
    have hq : ({ q with syncer := some (pushAll s d.videoFrames).2 } : Pipeline).accepts =
        q.accepts := accepts_of_eq rfl rfl
    rw [sequence_dispatchGroups, hq, hacc]
    rfl
  | none =>
    rw [ingest_unsynced hs]
    dsimp only
    simp only [handed, hs]
    generalize (d.motionFrames.foldlM dispatchMotion p).run w = r at hacc ⊢
    obtain ⟨q, w'⟩ := r
    dsimp only at hacc ⊢
    by_cases hv : d.videoFrames.isEmpty = true
    · rw [if_pos hv, List.isEmpty_iff.1 hv]
      rfl
    · rw [if_neg hv, sequence_dispatch, hacc]

end Counting

/-! ### Deliveries keep the tally -/

section Deliveries

variable {σ : Type} [Publisher σ] [HostClock σ] {W : σ → Prop}

omit [HostClock σ] in
theorem tallies_dispatchMotion {p : Pipeline} (hp : p.Tracked) {f : Frame}
    (hf : f.key.isMotion = true) :
    Tallies W p (p.dispatchMotion f : StateM σ Pipeline) Tracked := by
  intro w hw
  rcases dispatchMotion_run p f w with ⟨-, h⟩ | ⟨time, axes, -, -, h⟩ <;> rw [h]
  · exact ⟨[], rfl, Tallied.refl W p, hp⟩
  rw [← topic_of_isMotion hf]
  refine ⟨_, rfl, tallied_nextStamp p f.key time _ ⟨w, hw, rfl⟩ ?_ ?_ ?_,
    hp.restored (SameStreams.of_video_eq rfl) rfl⟩
  · simp [Publication.seqOf]
  · intro k' hk'
    simp [Publication.seqOf, Ne.symm hk']
  · intro t
    rfl

omit [HostClock σ] in
theorem tallies_dispatchMotions (hW : Stable W) {p : Pipeline} (hp : p.Tracked)
    (fs : List Frame) (hfs : ∀ f ∈ fs, f.key.isMotion = true) :
    Tallies W p (fs.foldlM dispatchMotion p : StateM σ Pipeline) Tracked :=
  Emits.foldlM hW (T := fun p ms q => Tallied W p q ms) (I := Tracked)
    (Tallied.refl W) (fun _ _ _ _ _ => Tallied.trans) fs
    (fun q hq f hf => (tallies_dispatchMotion hq (hfs f hf) : Tallies W q _ _)) hp

theorem tallies_dispatchGroups (hW : Stable W) {q : Pipeline} (hq : q.Tracked)
    (gs : List (List Frame)) :
    Tallies W q (gs.foldlM (fun (p : Pipeline) g => p.dispatch g true) q : StateM σ Pipeline)
      Tracked :=
  Emits.foldlM hW (T := fun p ms q => Tallied W p q ms) (I := Tracked)
    (Tallied.refl W) (fun _ _ _ _ _ => Tallied.trans) gs
    (fun r hr g _ => (tallies_dispatch hW hr g true : Tallies W r _ _)) hq

theorem tallies_ingest (hW : Stable W) {p : Pipeline} (hp : p.Tracked) (d : Delivery) :
    Tallies W p (p.ingest d : StateM σ Pipeline) Tracked := by
  unfold ingest
  refine (tallies_dispatchMotions hW hp _ fun f hf => (List.mem_filter.1 hf).2).bind
    hW fun ms q ⟨ht, hq⟩ => ?_
  dsimp only
  split
  · exact Emits.pure ⟨by simpa using ht, hq⟩
  split
  · refine Emits.mono (tallies_dispatchGroups hW ?_ _) ?_
    · exact hq.restored (SameStreams.of_video_eq rfl) rfl
    rintro ms' r ⟨ht', hr⟩
    exact ⟨ht.trans ⟨ht'.frames, ht'.aligned⟩, hr⟩
  · refine (tallies_dispatch hW hq _ _).mono ?_
    rintro ms' r ⟨ht', hr⟩
    exact ⟨ht.trans ht', hr⟩

end Deliveries

/-! ### One time per dispatch -/

section Stamping

variable {σ : Type} [Publisher σ]

theorem emitsOnly_publishFrame (p : Pipeline) (time : SystemTime) (k : StreamKey) :
    EmitsOnly (p.publishFrame time k : StateM σ Pipeline) fun m => m.time = some time := by
  unfold publishFrame nextStamp
  dsimp only
  split
  · exact EmitsOnly.bind (emitsOnly_publishIf rfl) fun _ => emitsOnly_pure _
  · exact emitsOnly_pure _

theorem emitsOnly_alignedStep (c : Bool) (time : SystemTime) (targets : List StreamKey)
    (r : Pipeline) :
    EmitsOnly (if c then targets.foldlM (fun (p : Pipeline) k => p.publishAligned time k) r
      else pure r : StateM σ Pipeline) fun m => m.time = some time := by
  cases c
  · exact emitsOnly_pure r
  · refine EmitsOnly.foldlM (fun p t w _ => ?_) targets r
    rcases publishAligned_run p time t w with h | ⟨alignments, b, cal, h⟩ <;> rw [h]
    · exact ⟨[], rfl, fun _ hm => (List.not_mem_nil hm).elim⟩
    · exact ⟨_, rfl, fun m hm => by rw [List.mem_singleton.1 hm]; rfl⟩

variable [HostClock σ]

theorem dispatch_stamped (p : Pipeline) (fs : List Frame) (isSet : Bool) (w : σ) :
    ∃ ms, ((p.dispatch fs isSet).run w).2 = published ms w ∧
      ∀ m ∈ ms, m.time = (fs.find? p.accepts).map fun first =>
        (p.clock.stamp first.timestamp (HostClock.now w)).1 := by
  have hstored := storeAll_stored p fs
  obtain ⟨video, filters, hq⟩ := storeAll_eq p p.arrivals.begin fs
  rcases h : p.storeAll p.arrivals.begin fs with ⟨q, arrivals, _ | ⟨first, rest⟩⟩
  · rw [dispatch_run_nil isSet w h]
    exact ⟨[], rfl, fun _ hm => (List.not_mem_nil hm).elim⟩
  rw [h] at hstored hq
  dsimp only at hstored hq
  have hfirst : fs.find? p.accepts = some first := by
    rw [← List.head?_filter, ← hstored]
    rfl
  have hclock : q.clock = p.clock := by rw [hq]
  rw [hfirst, dispatch_run_cons isSet w h, Option.map_some]
  dsimp only
  rw [hclock]
  generalize (p.clock.stamp first.timestamp (HostClock.now w)).1 = time
  generalize ({ q with
    watchdog := q.watchdog.rearm (HostClock.monotonic w)
    clock := (p.clock.stamp first.timestamp (HostClock.now w)).2 } : Pipeline) = q₁
  obtain ⟨ms₁, hw₁, h₁⟩ := EmitsOnly.foldlM (fun r f => emitsOnly_publishFrame r time f.key)
    (first :: rest) q₁ w trivial
  generalize ((first :: rest).foldlM (fun (p : Pipeline) (f : Frame) => p.publishFrame time f.key)
    q₁ : StateM σ Pipeline).run w = r₂ at hw₁ ⊢
  obtain ⟨q₂, w₂⟩ := r₂
  dsimp only at hw₁ ⊢
  obtain ⟨ms₂, hw₂, h₂⟩ := emitsOnly_alignedStep
    (isSet && q₂.settings.alignDepth && arrivals.arrivedAt .depth) time
    (((first :: rest).filter fun f => !f.key.isDepth).map (·.key)) q₂ w₂ trivial
  generalize (if isSet && q₂.settings.alignDepth && arrivals.arrivedAt .depth then
      (((first :: rest).filter fun f => !f.key.isDepth).map (·.key)).foldlM
        (fun (p : Pipeline) k => p.publishAligned time k) q₂
    else pure q₂ : StateM σ Pipeline).run w₂ = r₃ at hw₂ ⊢
  obtain ⟨q₃, w₃⟩ := r₃
  dsimp only at hw₂ ⊢
  obtain ⟨ms₃, hw₃, h₃⟩ := emitsOnly_publishClouds q₃ time arrivals w₃ trivial
  refine ⟨ms₁ ++ ms₂ ++ ms₃, ?_, ?_⟩
  · rw [hw₃, hw₂, hw₁, published_append, published_append]
  · simp only [List.mem_append]
    rintro m ((hm | hm) | hm)
    · exact h₁ m hm
    · exact h₂ m hm
    · exact (h₃ m hm).1

end Stamping

/-! ### Runs of deliveries -/

section Runs

variable {σ : Type} [Publisher σ] [HostClock σ]

def ingestAll (p : Pipeline) (ds : List Delivery) : StateM σ Pipeline :=
  ds.foldlM (fun q d => q.ingest d) p

/-- The frames a delivery gets counted: its inertial samples that are taken, then the handed
video frames that a dispatch can store. -/
def acceptedIn (p : Pipeline) (d : Delivery) : List Frame :=
  d.motionFrames.filter p.takesMotion ++ (p.handed d).filter p.fits

/-- The frames a run of deliveries gets counted, delivery after delivery, each as the pipeline
it finds decides. -/
def acceptedAlong : Pipeline → List Delivery → σ → List Frame
  | _, [], _ => []
  | p, d :: ds, w => p.acceptedIn d ++ acceptedAlong ((p.ingest d).run w).1 ds ((p.ingest d).run w).2

theorem arrivals_ingest (p : Pipeline) (d : Delivery) (w : σ) :
    ((p.ingest d).run w).1.arrivals = p.arrivals := by
  unfold Pipeline.ingest
  dsimp only
  rw [run_bind]
  have hm := (settled_dispatchMotions (d.frames.filter fun f : Frame => f.key.isMotion) p w).arrivals
  generalize ((d.frames.filter fun f : Frame => f.key.isMotion).foldlM Pipeline.dispatchMotion p :
    StateM σ Pipeline).run w = r at hm ⊢
  obtain ⟨q, w'⟩ := r
  dsimp only at hm ⊢
  split
  · exact hm
  · split
    · exact (settled_dispatchGroups _ _ w').arrivals.trans hm
    · exact (settled_dispatch _ _ _ w').arrivals.trans hm

theorem Tracked.ingest {p : Pipeline} (hp : p.Tracked) (d : Delivery) (w : σ) :
    ((p.ingest d).run w).1.Tracked :=
  hp.restored (sameStreams_ingest p d w) (arrivals_ingest p d w)

theorem sequence_ingestAll {p : Pipeline} (hp : p.Tracked) (ds : List Delivery) (w : σ)
    (k : StreamKey) :
    ((p.ingestAll ds).run w).1.sequence k =
      p.sequence k + (p.acceptedAlong ds w).countP (·.key == k) := by
  induction ds generalizing p w with
  | nil => rfl
  | cons d ds ih =>
    unfold ingestAll at ih ⊢
    rw [run_foldlM_cons, ih (hp.ingest d w), sequence_ingest, acceptedAlong, acceptedIn,
      hp.accepts_eq]
    simp only [List.countP_append]
    omega

theorem tallies_ingestAll {W : σ → Prop} (hW : Stable W) {p : Pipeline}
    (hp : p.Tracked) (ds : List Delivery) :
    Tallies W p (p.ingestAll ds : StateM σ Pipeline) Tracked :=
  Emits.foldlM hW (T := fun p ms q => Tallied W p q ms) (I := Tracked)
    (Tallied.refl W) (fun _ _ _ _ _ => Tallied.trans) ds
    (fun q hq d _ => (tallies_ingest hW hq d : Tallies W q _ _)) hp

end Runs

end Pipeline

/-! ### Built pipelines count from zero -/

theorem StreamMap.find?_foldl_insert_isSome {α : Type} (l : List (StreamKey × α))
    (m : StreamMap α) (k : StreamKey) (h : (m.find? k).isSome ∨ k ∈ l.map (·.1)) :
    ((l.foldl (fun m e => m.insert e.1 e.2) m).find? k).isSome := by
  induction l generalizing m with
  | nil => simpa using h
  | cons e l ih =>
    rw [List.foldl_cons]
    apply ih
    by_cases he : k = e.1
    · left
      simp [he]
    · rcases h with h | h
      · left
        simpa [he] using h
      · right
        simpa [he] using h

theorem StreamMap.find?_ofList_isSome {α : Type} {l : List (StreamKey × α)} {k : StreamKey}
    (h : k ∈ l.map (·.1)) : ((StreamMap.ofList l).find? k).isSome :=
  StreamMap.find?_foldl_insert_isSome l {} k (.inr h)

theorem ArrivalTracker.isConfigured_new {keys : List StreamKey} {k : StreamKey} (h : k ∈ keys) :
    (ArrivalTracker.new keys).isConfigured k = true := by
  have hs := StreamMap.find?_ofList_isSome (l := keys.map fun k => (k, ())) (k := k)
    (by simpa using h)
  obtain ⟨v, hv⟩ := Option.isSome_iff_exists.1 hs
  have hmem := StreamMap.mem_of_find?_eq_some hv
  unfold ArrivalTracker.new ArrivalTracker.isConfigured StreamMap.keys
  simpa using ⟨v, hmem⟩

namespace Pipeline

theorem sequence_of_zeros {p : Pipeline} {ks : List StreamKey}
    (h : p.sequences = ⟨ks.map fun k => (k, 0)⟩) (k : StreamKey) : p.sequence k = 0 := by
  unfold sequence StreamMap.find?
  rw [h]
  cases hf : (ks.map fun k => (k, 0)).find? (·.1 == k) with
  | none => rfl
  | some e =>
    obtain ⟨k', -, rfl⟩ := List.mem_map.1 (List.mem_of_find?_eq_some hf)
    rfl

theorem alignedSequence_of_zeros {p : Pipeline} {m : StreamMap Alignment}
    (h : p.alignedSequences = m.map fun _ => 0) (t : StreamKey) : p.alignedSequence t = 0 := by
  unfold alignedSequence
  rw [h, StreamMap.find?_map]
  cases m.find? t <;> rfl

section Building

variable {σ : Type} [Camera σ]

theorem readStreams_notMotion (ps : List StreamProfile) (video : StreamMap VideoStream)
    (motion : StreamMap MotionIntrinsics) (h : ∀ k v, video.find? k = some v → k.isMotion = false) :
    Yields (readStreams (σ := σ) ps video motion)
      fun r => ∀ k v, r.1.find? k = some v → k.isMotion = false := by
  induction ps generalizing video motion with
  | nil => exact yields_pure h
  | cons p ps ih =>
    unfold readStreams
    split
    · exact yields_bind (yields_true _) fun m _ => ih _ _ h
    · rename_i hp
      refine yields_bind (yields_true _) fun v _ => ih _ _ ?_
      intro k v' hk
      simp only [StreamMap.find?_insert] at hk
      split at hk
      · subst k
        simpa using hp
      · exact h k v' hk

theorem fresh_build (settings : Settings) :
    Yields (build (σ := σ) settings) fun p =>
      p.Tracked ∧ (∀ k, p.sequence k = 0) ∧ ∀ t, p.alignedSequence t = 0 := by
  unfold build
  dsimp only
  refine yields_bind (yields_true _) fun _ _ => ?_
  refine yields_bind (yields_true _) fun _ _ => ?_
  refine yields_bind (yields_true _) fun _ _ => ?_
  split <;>
  · refine yields_bind (yields_true _) fun depthScale _ => ?_
    refine yields_bind (readStreams_notMotion _ {} {} (by simp)) fun r hvideo => ?_
    obtain ⟨video, motion⟩ := r
    dsimp only at hvideo ⊢
    refine yields_bind (yields_true _) fun extrinsics _ => ?_
    refine yields_bind (yields_true _) fun filters _ => yields_pure
      ⟨⟨hvideo, fun k v hv => ?_⟩, sequence_of_zeros rfl, alignedSequence_of_zeros rfl⟩
    exact ArrivalTracker.isConfigured_new
      (List.mem_map.2 ⟨(k, v), StreamMap.mem_of_find?_eq_some hv, rfl⟩)

end Building

/-! ### What the counters promise -/

section Promise

variable {σ : Type} [Publisher σ] [HostClock σ]

theorem Tracked.ingestAll {p : Pipeline} (hp : p.Tracked) (ds : List Delivery) (w : σ) :
    ((p.ingestAll ds).run w).1.Tracked :=
  foldlM_rel (fun p q => p.Tracked → q.Tracked) (fun _ h => h) (fun _ _ _ h₁ h₂ h => h₂ (h₁ h))
    (fun _ d w hq => hq.ingest d w) ds p w hp

variable (σ) in
/-- What the counters of a pipeline promise along every run of deliveries `ds` into it, in
every world `w`. Every stream's counter is the number of its frames accepted so far. The
messages of a stream carry, in order, those of the counts one, two, …, one for each accepted
frame, whose frame found the stream's topic subscribed in the world of that moment, a world
publishing reaches from `w`; so they strictly increase, and when publishing leaves the
subscriptions alone they are all the counts or none. The messages of depth aligned to a target
carry one, two, … up to its aligned counter. Every message of a dispatch of a pipeline the run
reaches carries the stamp of the first frame the dispatch stores. -/
structure CountsFrames (p : Pipeline) : Prop where
  counters : ∀ (ds : List Delivery) (w : σ) (k : StreamKey),
    ((p.ingestAll ds).run w).1.sequence k = (p.acceptedAlong ds w).countP (·.key == k)
  messages : ∀ (ds : List Delivery) (w : σ), ∃ ms : List Publication,
    ((p.ingestAll ds).run w).2 = published ms w ∧
    (∀ k, Numbered (Heard (Reached w) k) 0 ((p.acceptedAlong ds w).countP (·.key == k))
      (ms.filterMap (Publication.seqOf k))) ∧
    (∀ k, (ms.filterMap (Publication.seqOf k)).Pairwise (· < ·)) ∧
    (KeepsSubscribers σ → ∀ k, ms.filterMap (Publication.seqOf k) =
      if Publisher.subscribed w k.topic then
        List.range' 1 ((p.acceptedAlong ds w).countP (·.key == k))
      else []) ∧
    ∀ t, ms.filterMap (Publication.alignedSeqOf t) =
      List.range' 1 (((p.ingestAll ds).run w).1.alignedSequence t)
  stamps : ∀ (ds : List Delivery) (w : σ) (fs : List Frame) (isSet : Bool) (w' : σ),
    ∃ ms : List Publication,
      ((((p.ingestAll ds).run w).1.dispatch fs isSet).run w').2 = published ms w' ∧
      ∀ m ∈ ms, m.time = (fs.find? ((p.ingestAll ds).run w).1.fits).map fun first =>
        ((((p.ingestAll ds).run w).1.clock.stamp first.timestamp (HostClock.now w')).1)

end Promise

end Pipeline

/-- Sequence counters count accepted frames. From every pipeline a device builds, along every
run of deliveries, every stream's counter is the number of its frames accepted so far: a video
frame when a dispatch stores it, whether or not its image topic has subscribers, and an
inertial sample when the clock base exists, its stream was negotiated and it carries motion.
The messages of a stream carry the counts of the accepted frames whose topic had subscribers
when they went out, in order, whatever subscribes or unsubscribes along the run; the messages
of depth aligned to a target are numbered by its aligned counter; every message of one
dispatch carries the stamp of its first stored frame. -/
theorem sequences_count_accepted_frames {σ₀ σ : Type} [Camera σ₀] [Publisher σ] [HostClock σ]
    (settings : Settings) (w₀ : σ₀) {p : Pipeline} {w₀' : σ₀}
    (hbuild : (Pipeline.build settings).run.run w₀ = (.ok p, w₀')) : Pipeline.CountsFrames σ p := by
  obtain ⟨hp, hzero, hazero⟩ := Pipeline.fresh_build settings w₀ p w₀' hbuild
  refine ⟨fun ds w k => ?_, fun ds w => ?_, fun ds w fs isSet w' => ?_⟩
  · rw [Pipeline.sequence_ingestAll hp, hzero, Nat.zero_add]
  · obtain ⟨ms, hrun, ht, -⟩ :=
      Pipeline.tallies_ingestAll (Pipeline.stable_reached w) hp ds w (Pipeline.reached_self w)
    have hnum : ∀ k, Numbered (Pipeline.Heard (Pipeline.Reached w) k) 0
        ((p.acceptedAlong ds w).countP (·.key == k)) (ms.filterMap (Publication.seqOf k)) := by
      intro k
      have hk := ht.frames k
      rwa [Pipeline.sequence_ingestAll hp, hzero, Nat.zero_add] at hk
    refine ⟨ms, hrun, hnum, fun k => (hnum k).pairwise_lt, fun hkeep k => ?_, fun t => ?_⟩
    · have hforced := (hnum k).mono (G := (· = Publisher.subscribed w k.topic)) fun f hf => by
        obtain ⟨w', ⟨ms', rfl⟩, hf⟩ := hf
        rw [← hf, Pipeline.subscribed_published hkeep]
      rw [hforced.eq_of_forced]
      simp
    · rw [(ht.aligned t).eq_of_forced, hazero]
      simp
  · rw [← (hp.ingestAll ds w).accepts_eq]
    exact Pipeline.dispatch_stamped _ fs isSet w'

open Pipeline in
theorem sequences_count_accepted_frames_on_bench :
    ∃ p w', (build oneDepthSettings).run.run oneDepthBench = (.ok p, w') ∧ CountsFrames Bench p :=
  ⟨_, _, rfl, sequences_count_accepted_frames oneDepthSettings oneDepthBench rfl⟩

end Rgbd
