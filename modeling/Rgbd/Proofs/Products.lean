import Rgbd.Proofs.Consistency
import Rgbd.Bench.World

/-!
The products of one dispatch.

A dispatch publishes, in order: the image of every stored frame whose topic has
subscribers; depth aligned to every stored stream other than depth that has an alignment and
subscribers, once per stored frame of it, when the dispatch is a frameset with alignment on
and depth among its stored streams; the colored cloud; the depth cloud. Each cloud needs a
cloud builder, subscribers, depth stored and a depth buffer; the colored cloud also needs
color stored, extrinsics to color and a color buffer. Which streams count as stored is
decided by this dispatch's frames alone: the arrival set starts empty at every dispatch.

The statements are about worlds in which publishing a message changes no subscription
(`KeepsSubscribers`): a computation then publishes on a list of topics fixed by the
subscriptions it starts with (`Publishes`), and these lists compose through binds and
folds. In a consistent pipeline no product fails on sizes, so the conditions above are
all there is. `dispatchTopics` lists the topics of a dispatch from the streams it stored, and
`dispatch_derives_products` states that a dispatch publishes on exactly those.
-/

namespace Rgbd

def Publication.topic : Publication → Option Topic
  | .image k .. => some (.image k)
  | .alignedDepth k .. => some (.alignedDepth k)
  | .depthCloud .. => some .depthCloud
  | .coloredCloud .. => some .coloredCloud
  | .imu s => some (.imu s.stream)
  | .extrinsics .. | .imuInfo .. => none

theorem flatMap_ite_singleton {α β : Type} (c : α → Bool) (g : α → β) (l : List α) :
    (l.flatMap fun a => if c a then [g a] else []) = (l.filter c).map g := by
  induction l with
  | nil => rfl
  | cons a l ih =>
    by_cases h : c a <;> simp [h, ih]

namespace Pipeline

def colorBuffer (p : Pipeline) : Option ColorImage :=
  match p.video.find? .color with
  | some ⟨_, _, _, .color c⟩ => some c
  | _ => none

theorem depthBuffer_of_video_eq {p q : Pipeline} (h : q.video = p.video) :
    q.depthBuffer = p.depthBuffer := by
  unfold depthBuffer
  rw [h]

theorem colorBuffer_of_video_eq {p q : Pipeline} (h : q.video = p.video) :
    q.colorBuffer = p.colorBuffer := by
  unfold colorBuffer
  rw [h]

/-! ### Publishing in a world that keeps its subscribers -/

section Messages

variable {σ : Type} [Publisher σ]

def published (ms : List Publication) (w : σ) : σ := ((ms.forM Publisher.publish).run w).2

@[simp] theorem published_nil (w : σ) : published [] w = w := rfl

theorem published_cons (m : Publication) (ms : List Publication) (w : σ) :
    published (m :: ms) w = published ms ((Publisher.publish m).run w).2 := rfl

theorem published_append (ms ms' : List Publication) (w : σ) :
    published (ms ++ ms') w = published ms' (published ms w) := by
  induction ms generalizing w with
  | nil => rfl
  | cons m ms ih => rw [List.cons_append, published_cons, published_cons, ih]

variable (σ) in
/-- Publishing a message changes no subscription. -/
def KeepsSubscribers : Prop :=
  ∀ (m : Publication) (w : σ),
    Publisher.subscribed ((Publisher.publish m).run w).2 = Publisher.subscribed w

theorem subscribed_publish (hk : KeepsSubscribers σ) (m : Publication) (w : σ) (t : Topic) :
    Publisher.subscribed ((Publisher.publish m).run w).2 t = Publisher.subscribed w t :=
  congrFun (hk m w) t

theorem subscribed_published (hk : KeepsSubscribers σ) (ms : List Publication) (w : σ) :
    Publisher.subscribed (published ms w) = Publisher.subscribed w := by
  induction ms generalizing w with
  | nil => rfl
  | cons m ms ih => rw [published_cons, ih, hk]

/-- Run in a world whose subscriptions are `sub`, `x` publishes messages on the topics `ts`,
in order, and nothing else, and returns a value of which `P` holds. -/
def Publishes {α : Type} (sub : Topic → Bool) (x : StateM σ α) (ts : List Topic)
    (P : α → Prop) : Prop :=
  ∀ w, Publisher.subscribed w = sub → ∃ ms : List Publication,
    ms.map Publication.topic = ts.map some ∧ (x.run w).2 = published ms w ∧ P (x.run w).1

variable {sub : Topic → Bool} {α β : Type}

theorem Publishes.pure {P : α → Prop} {a : α} (h : P a) :
    Publishes sub (Pure.pure a : StateM σ α) [] P :=
  fun _ _ => ⟨[], rfl, rfl, h⟩

theorem Publishes.mono {x : StateM σ α} {ts : List Topic} {P Q : α → Prop}
    (hx : Publishes sub x ts P) (h : ∀ a, P a → Q a) : Publishes sub x ts Q := by
  intro w hw
  obtain ⟨ms, hms, hrun, hp⟩ := hx w hw
  exact ⟨ms, hms, hrun, h _ hp⟩

theorem Publishes.bind (hk : KeepsSubscribers σ) {x : StateM σ α} {f : α → StateM σ β}
    {ts ts' : List Topic} {Q : α → Prop} {P : β → Prop} (hx : Publishes sub x ts Q)
    (hf : ∀ a, Q a → Publishes sub (f a) ts' P) : Publishes sub (x >>= f) (ts ++ ts') P := by
  intro w hw
  obtain ⟨ms, hms, hrun, hq⟩ := hx w hw
  have hw' : Publisher.subscribed (x.run w).2 = sub := by
    rw [hrun, subscribed_published hk, hw]
  obtain ⟨ms', hms', hrun', hp⟩ := hf _ hq _ hw'
  refine ⟨ms ++ ms', by simp [hms, hms'], ?_, ?_⟩
  · rw [run_bind, hrun', hrun, published_append]
  · rw [run_bind]
    exact hp

theorem Publishes.foldlM (hk : KeepsSubscribers σ) {f : β → α → StateM σ β}
    {ts : α → List Topic} {I : β → Prop} (as : List α)
    (hf : ∀ b, ∀ a ∈ as, I b → Publishes sub (f b a) (ts a) I) {b : β} (hb : I b) :
    Publishes sub (as.foldlM f b) (as.flatMap ts) I := by
  induction as generalizing b with
  | nil => exact Publishes.pure hb
  | cons a as ih =>
    rw [List.foldlM_cons, List.flatMap_cons]
    exact (hf b a List.mem_cons_self hb).bind hk fun b' hb' =>
      ih (fun b a ha => hf b a (List.mem_cons_of_mem _ ha)) hb'

theorem publishes_publishIf {t : Topic} {m : Publication} (hm : m.topic = some t) :
    Publishes sub (publishIf t m : StateM σ Unit) (if sub t then [t] else []) fun _ => True := by
  intro w hw
  unfold publishIf
  simp only [run_bind, run_get, hw]
  split
  · exact ⟨[m], by simp [hm], rfl, trivial⟩
  · exact ⟨[], rfl, rfl, trivial⟩

end Messages

/-! ### What a dispatch stores -/

theorem arrivedAt_begin (t : ArrivalTracker) (k : StreamKey) : t.begin.arrivedAt k = false := by
  unfold ArrivalTracker.begin ArrivalSet.arrivedAt
  cases h : StreamMap.find? ⟨t.configured.map fun k => (k, false)⟩ k with
  | none => rfl
  | some b =>
    have hmem := StreamMap.mem_of_find?_eq_some h
    simp only [List.mem_map, Prod.mk.injEq] at hmem
    obtain ⟨_, _, _, rfl⟩ := hmem
    rfl

theorem arrivedAt_mark {s s' : ArrivalSet} {k : StreamKey} (h : s.mark k = .ok s')
    (k' : StreamKey) : s'.arrivedAt k' = (s.arrivedAt k' || k' == k) := by
  unfold ArrivalSet.mark at h
  split at h
  · rename_i hc
    cases h
    unfold ArrivalSet.arrivedAt
    rw [StreamMap.find?_modify]
    split
    · subst k'
      rw [StreamMap.contains_eq_isSome] at hc
      obtain ⟨b, hb⟩ := Option.isSome_iff_exists.1 hc
      simp [hb]
    · simp [*]
  · cases h

theorem storeAll_arrivedAt (p : Pipeline) (a : ArrivalSet) (fs : List Frame) (k : StreamKey) :
    (p.storeAll a fs).2.1.arrivedAt k =
      (a.arrivedAt k || ((p.storeAll a fs).2.2.map (·.key)).contains k) := by
  induction fs generalizing p a with
  | nil => simp [storeAll]
  | cons f fs ih =>
    unfold storeAll
    split
    · exact ih p a
    · rename_i q _
      split
      · exact ih q a
      · rename_i a' ha'
        have hrest := ih q a'
        generalize q.storeAll a' fs = r at hrest ⊢
        obtain ⟨q', a'', stored⟩ := r
        dsimp only at hrest ⊢
        rw [hrest, arrivedAt_mark ha']
        by_cases hk : k = f.key
        · simp [hk]
        · have hne : (k == f.key) = false := by simpa using hk
          simp [hne, hk]

theorem storeAll_sublist (p : Pipeline) (a : ArrivalSet) (fs : List Frame) :
    (p.storeAll a fs).2.2.Sublist fs := by
  induction fs generalizing p a with
  | nil => exact List.Sublist.slnil
  | cons f fs ih =>
    unfold storeAll
    split
    · exact (ih p a).cons f
    · rename_i q _
      split
      · exact (ih q a).cons f
      · rename_i a' _
        have hrest := ih q a'
        generalize q.storeAll a' fs = r at hrest ⊢
        obtain ⟨q', a'', stored⟩ := r
        exact hrest.cons_cons f

theorem storeAll_found (p : Pipeline) (a : ArrivalSet) (fs : List Frame) :
    ∀ f ∈ (p.storeAll a fs).2.2, ((p.storeAll a fs).1.video.find? f.key).isSome := by
  induction fs generalizing p a with
  | nil => simp [storeAll]
  | cons f fs ih =>
    unfold storeAll
    split
    · exact ih p a
    · rename_i q hq
      split
      · exact ih q a
      · rename_i a' _
        have hrest := ih q a'
        have hlater := (storeAll_restores q a' fs).1
        obtain ⟨v, _, _, hv, _⟩ := store_restores hq
        generalize q.storeAll a' fs = r at hrest hlater ⊢
        obtain ⟨q', a'', stored⟩ := r
        intro g hg
        rcases List.mem_cons.1 hg with rfl | hg
        · obtain ⟨v', hv', _⟩ := ((sameStreams_store hq).trans hlater).find?_left hv
          simp [hv']
        · exact hrest g hg

theorem SameStreams.depthBuffer_isSome {p q : Pipeline} (hs : SameStreams p q) :
    q.depthBuffer.isSome = p.depthBuffer.isSome := by
  have hk := hs .depth
  unfold depthBuffer
  generalize p.video.find? .depth = a at hk
  generalize q.video.find? .depth = b at hk
  cases hk with
  | none => rfl
  | some hr =>
    rename_i v v'
    obtain ⟨_, _, _, b⟩ := v
    obtain ⟨_, _, _, b'⟩ := v'
    have hl := hr.buffer
    cases b <;> cases b' <;> simp_all [FrameData.SameLayout]

theorem SameStreams.colorBuffer_isSome {p q : Pipeline} (hs : SameStreams p q) :
    q.colorBuffer.isSome = p.colorBuffer.isSome := by
  have hk := hs .color
  unfold colorBuffer
  generalize p.video.find? .color = a at hk
  generalize q.video.find? .color = b at hk
  cases hk with
  | none => rfl
  | some hr =>
    rename_i v v'
    obtain ⟨_, _, _, b⟩ := v
    obtain ⟨_, _, _, b'⟩ := v'
    have hl := hr.buffer
    cases b <;> cases b' <;> simp_all [FrameData.SameLayout]

/-! ### Each product -/

section Products

variable {σ : Type} [Publisher σ] {sub : Topic → Bool}

theorem publishes_publishFrame (p : Pipeline) (time : SystemTime) {k : StreamKey}
    (hk : (p.video.find? k).isSome) :
    Publishes sub (p.publishFrame time k : StateM σ Pipeline)
      (if sub (.image k) then [.image k] else [])
      fun q => q = (p.nextStamp k time).2 := by
  obtain ⟨v, hv⟩ := Option.isSome_iff_exists.1 hk
  intro w hw
  obtain ⟨ms, hms, hrun, -⟩ := publishes_publishIf (t := .image k)
    (m := .image k ⟨time, p.sequence k + 1⟩ v.buffer v.calibration) rfl w hw
  unfold publishFrame nextStamp
  dsimp only
  rw [hv]
  exact ⟨ms, hms, hrun, rfl⟩

theorem publishes_publishAligned {p : Pipeline} (hp : p.Consistent) (time : SystemTime)
    {k : StreamKey} (hk : (p.video.find? k).isSome) :
    Publishes sub (p.publishAligned time k : StateM σ Pipeline)
      (if sub (.alignedDepth k) && p.alignments.contains k && p.depthBuffer.isSome then
        [.alignedDepth k] else [])
      fun q => q.video = p.video ∧ Settled p q ∧ q.Consistent ∧
        ∀ t, q.alignments.contains t = p.alignments.contains t := by
  obtain ⟨v, hv⟩ := Option.isSome_iff_exists.1 hk
  intro w hw
  have hstay : True ∧ Settled p p ∧ p.Consistent ∧ ∀ _ : StreamKey, True :=
    ⟨trivial, Settled.refl p, hp, fun _ => trivial⟩
  unfold publishAligned
  simp only [run_bind, run_get, hw, StreamMap.contains_eq_isSome]
  by_cases hs : sub (.alignedDepth k) = true
  swap
  · simp only [hs, Bool.not_false, Bool.false_eq_true, Bool.false_and, ↓reduceIte,
      run_pure]
    exact ⟨[], rfl, rfl, hstay⟩
  cases ha : p.alignments.find? k with
  | none =>
    simp only [hs, Bool.not_true, Bool.false_eq_true, Option.isSome_none, Bool.and_false,
      Bool.false_and, ↓reduceIte, run_pure]
    exact ⟨[], rfl, rfl, hstay⟩
  | some a =>
    rcases hdv : p.video.find? .depth with _ | ⟨prof, intr, cal, buf⟩
    · simp only [hs, hdv, Bool.not_true, Bool.false_eq_true, depthBuffer, ↓reduceIte,
        run_pure, Option.isSome_none, Bool.and_false]
      exact ⟨[], rfl, rfl, hstay⟩
    · cases buf with
      | depth d =>
        obtain ⟨b, hb, hdim⟩ := hp.reproject_ok ha (d := d) (by simp [depthBuffer, hdv])
        simp only [hs, hdv, hv, hb, Bool.not_true, Bool.false_eq_true, depthBuffer, ↓reduceIte,
          run_bind, run_pure, Option.isSome_some, Bool.and_self]
        refine ⟨[.alignedDepth k ⟨time, (p.alignedSequences.find? k).getD 0 + 1⟩ b v.calibration],
          rfl, rfl, trivial, by constructor <;> rfl, hp.realign ha ?_ _, fun t => ?_⟩
        · rw [hdim]
          exact (hp.alignments k a ha).2
        · rw [StreamMap.find?_modify]
          split
          · subst t
            simp [ha]
          · rfl
      | _ =>
        simp only [hs, hdv, Bool.not_true, Bool.false_eq_true, depthBuffer, ↓reduceIte,
          run_pure, Option.isSome_none, Bool.and_false]
        exact ⟨[], rfl, rfl, hstay⟩

theorem publishes_publishClouds (hk : KeepsSubscribers σ) (p : Pipeline) (time : SystemTime)
    (arrivals : ArrivalSet) :
    Publishes sub (p.publishClouds time arrivals : StateM σ Unit)
      ((if sub .coloredCloud && (p.coloredCloud arrivals).isSome then [.coloredCloud] else []) ++
        (if sub .depthCloud && (p.depthCloud arrivals).isSome then [.depthCloud] else []))
      fun _ => True := by
  intro w hw
  have hnone : p.clouds.isNone = true →
      p.coloredCloud arrivals = none ∧ p.depthCloud arrivals = none := by
    intro h
    rw [Option.isNone_iff_eq_none] at h
    simp [coloredCloud, depthCloud, h]
  unfold publishClouds
  by_cases hc : p.clouds.isNone = true
  · obtain ⟨h₁, h₂⟩ := hnone hc
    simp only [hc, ↓reduceIte, h₁, h₂, Option.isSome_none, Bool.and_false, Bool.false_eq_true,
      List.append_nil]
    exact ⟨[], rfl, rfl, trivial⟩
  · simp only [hc, Bool.false_eq_true, ↓reduceIte]
    refine ⟨(if sub .coloredCloud then ((p.coloredCloud arrivals).map (.coloredCloud time)).toList
        else []) ++
      (if sub .depthCloud then ((p.depthCloud arrivals).map (.depthCloud time)).toList else []),
      ?_, ?_, trivial⟩
    · cases p.coloredCloud arrivals <;> cases p.depthCloud arrivals <;>
        cases sub .coloredCloud <;> cases sub .depthCloud <;> rfl
    · simp only [run_bind, run_get, hw]
      cases p.coloredCloud arrivals <;> cases p.depthCloud arrivals <;>
        cases hs₁ : sub .coloredCloud <;> cases hs₂ : sub .depthCloud <;>
        simp only [hs₂, subscribed_publish hk, hw, run_bind, run_get, run_pure, Bool.false_eq_true,
          ↓reduceIte, Option.map_some, Option.map_none, Option.toList_some, Option.toList_none,
          List.nil_append, List.cons_append, published_cons, published_nil]

end Products

/-! ### Which clouds can be built -/

theorem Consistent.depthCloud_isSome {p : Pipeline} (hp : p.Consistent) (arrivals : ArrivalSet) :
    (p.depthCloud arrivals).isSome =
      (p.clouds.isSome && arrivals.arrivedAt .depth && p.depthBuffer.isSome) := by
  unfold Pipeline.depthCloud
  cases hb : p.clouds with
  | none => cases arrivals.arrivedAt .depth <;> rfl
  | some b =>
    cases hd : p.depthBuffer with
    | none => cases arrivals.arrivedAt .depth <;> rfl
    | some d =>
      have hok := hp.depthCloud_ok hb hd
      cases arrivals.arrivedAt .depth
      · rfl
      · simp [CloudBuilder.depthCloud, hok, Except.toOption]

theorem Consistent.coloredCloud_isSome {p : Pipeline} (hp : p.Consistent) (arrivals : ArrivalSet) :
    (p.coloredCloud arrivals).isSome =
      (p.clouds.isSome && arrivals.arrivedAt .depth && arrivals.arrivedAt .color &&
        p.depthBuffer.isSome && p.extrinsics.contains .color && p.colorBuffer.isSome) := by
  unfold Pipeline.coloredCloud
  simp only [ArrivalSet.allArrived, List.all_cons, List.all_nil, Bool.and_true]
  cases hb : p.clouds with
  | none => simp
  | some b =>
    cases hd : p.depthBuffer with
    | none => simp
    | some d =>
      rcases hcv : p.video.find? .color with _ | ⟨prof, intr, cal, buf⟩
      · simp [colorBuffer, hcv]
      · cases buf with
        | color image =>
          have hsize : image.dimensions = (intr.width, intr.height) := by
            simpa [FrameData.dimensions] using hp.buffers _ _ hcv
          have hok := hp.depthCloud_ok hb hd
          cases he : p.extrinsics.find? .color with
          | none => simp [colorBuffer, hcv, he, StreamMap.contains_eq_isSome]
          | some e =>
            simp only [colorBuffer, hcv, he, StreamMap.contains_eq_isSome, Option.isSome_some,
              Bool.and_true]
            cases arrivals.arrivedAt .depth <;> cases arrivals.arrivedAt .color <;>
              simp [CloudBuilder.coloredCloud, hok, hsize, Except.toOption]
        | _ => simp [colorBuffer, hcv]

/-! ### The phases of a dispatch -/

section Phases

variable {σ : Type} [Publisher σ] {sub : Topic → Bool}

theorem filter_targets (fs : List Frame) (c : StreamKey → Bool) :
    ((fs.filter fun f => !f.key.isDepth).map (·.key)).filter c =
      (fs.map (·.key)).filter fun t => !t.isDepth && c t := by
  induction fs with
  | nil => rfl
  | cons f fs ih =>
    by_cases hd : f.key.isDepth <;> by_cases hc : c f.key <;> simp [hd, hc, ih]

theorem publishes_publishFrames (hk : KeepsSubscribers σ) (q : Pipeline) (time : SystemTime)
    (fs : List Frame) (hfound : ∀ f ∈ fs, (q.video.find? f.key).isSome) :
    Publishes sub (fs.foldlM (fun (p : Pipeline) (f : Frame) => p.publishFrame time f.key) q :
        StateM σ Pipeline)
      (((fs.map (·.key)).filter fun k => sub (.image k)).map .image)
      fun r => ∃ sequences, r = { q with sequences } := by
  have h : Publishes sub
      (fs.foldlM (fun (p : Pipeline) (f : Frame) => p.publishFrame time f.key) q :
        StateM σ Pipeline)
      (fs.flatMap fun f => if sub (.image f.key) then [.image f.key] else [])
      fun r => ∃ sequences, r = { q with sequences } :=
    Publishes.foldlM hk fs (fun r f hf ⟨sequences, hr⟩ => by
      subst hr
      refine (publishes_publishFrame { q with sequences } time (hfound f hf)).mono ?_
      rintro _ rfl
      exact ⟨_, rfl⟩) ⟨q.sequences, rfl⟩
  rw [flatMap_ite_singleton] at h
  rw [List.filter_map, List.map_map]
  exact h

theorem publishes_alignedDepth (hk : KeepsSubscribers σ) {q : Pipeline} (hq : q.Consistent)
    (time : SystemTime) (c : Bool) (fs : List Frame)
    (hfound : ∀ f ∈ fs, (q.video.find? f.key).isSome) :
    Publishes sub (if c then ((fs.filter fun f => !f.key.isDepth).map (·.key)).foldlM
        (fun (p : Pipeline) k => p.publishAligned time k) q else pure q : StateM σ Pipeline)
      (if c && q.depthBuffer.isSome then
        ((fs.map (·.key)).filter fun t => !t.isDepth && sub (.alignedDepth t) &&
          q.alignments.contains t).map .alignedDepth
      else [])
      fun r => r.video = q.video ∧ Settled q r ∧ r.Consistent := by
  cases c with
  | false => exact Publishes.pure ⟨rfl, Settled.refl q, hq⟩
  | true =>
    have h : Publishes sub (((fs.filter fun f => !f.key.isDepth).map (·.key)).foldlM
          (fun (p : Pipeline) k => p.publishAligned time k) q : StateM σ Pipeline)
        (((fs.filter fun f => !f.key.isDepth).map (·.key)).flatMap fun k =>
          if sub (.alignedDepth k) && q.alignments.contains k && q.depthBuffer.isSome then
            [.alignedDepth k] else [])
        fun r => r.video = q.video ∧ Settled q r ∧ r.Consistent ∧
          ∀ t, r.alignments.contains t = q.alignments.contains t :=
      Publishes.foldlM hk _ (fun r k hk' ⟨hv, hs, hr, ha⟩ => by
        obtain ⟨f, hf, rfl⟩ := List.mem_map.1 hk'
        have hstep : Publishes sub (r.publishAligned time f.key : StateM σ Pipeline) _ _ :=
          publishes_publishAligned hr time (hv ▸ hfound f (List.mem_filter.1 hf).1)
        rw [ha, depthBuffer_of_video_eq hv] at hstep
        refine hstep.mono ?_
        rintro r' ⟨hv', hs', hr', ha'⟩
        exact ⟨hv'.trans hv, hs.trans hs', hr', fun t => (ha' t).trans (ha t)⟩)
        ⟨rfl, Settled.refl q, hq, fun _ => rfl⟩
    have htopics : (((fs.filter fun f => !f.key.isDepth).map (·.key)).flatMap fun k =>
          if sub (.alignedDepth k) && q.alignments.contains k && q.depthBuffer.isSome then
            [Topic.alignedDepth k] else []) =
        if true && q.depthBuffer.isSome then
          ((fs.map (·.key)).filter fun t => !t.isDepth && sub (.alignedDepth t) &&
            q.alignments.contains t).map .alignedDepth
        else [] := by
      cases q.depthBuffer.isSome
      · simp
      · simp only [Bool.and_true, ↓reduceIte, flatMap_ite_singleton,
          filter_targets, Bool.and_assoc]
    rw [htopics] at h
    exact h.mono fun r ⟨hv, hs, hr, _⟩ => ⟨hv, hs, hr⟩

theorem publishes_clouds (hk : KeepsSubscribers σ) {q : Pipeline} (hq : q.Consistent)
    (time : SystemTime) (arrivals : ArrivalSet) :
    Publishes sub (q.publishClouds time arrivals : StateM σ Unit)
      ((if q.clouds.isSome && sub .coloredCloud && arrivals.arrivedAt .depth &&
          arrivals.arrivedAt .color && q.depthBuffer.isSome && q.extrinsics.contains .color &&
          q.colorBuffer.isSome then [.coloredCloud] else []) ++
        (if q.clouds.isSome && sub .depthCloud && arrivals.arrivedAt .depth &&
          q.depthBuffer.isSome then [.depthCloud] else []))
      fun _ => True := by
  have h : Publishes sub (q.publishClouds time arrivals : StateM σ Unit) _ _ :=
    publishes_publishClouds hk q time arrivals
  rw [hq.coloredCloud_isSome, hq.depthCloud_isSome] at h
  have swap₇ : ∀ a b c d e f g : Bool,
      (a && (b && c && d && e && f && g)) = (b && a && c && d && e && f && g) := by decide
  have swap₄ : ∀ a b c d : Bool, (a && (b && c && d)) = (b && a && c && d) := by decide
  rwa [swap₇, swap₄] at h

end Phases

/-! ### A dispatch -/

/-- The topics a dispatch publishes on, in order, given the streams it stored and the topics
with subscribers: the image of each stored stream; for a frameset with alignment on that
stored depth, when there is a depth buffer, depth aligned to each stored stream other than
depth that has an alignment; then the colored cloud, when depth and color were stored and
there are a cloud builder, a depth buffer, extrinsics to color and a color buffer; then the
depth cloud, when depth was stored and there are a cloud builder and a depth buffer. Each
topic is there only when it has subscribers. -/
def dispatchTopics (p : Pipeline) (sub : Topic → Bool) (isSet : Bool) (stored : List StreamKey) :
    List Topic :=
  (stored.filter fun k => sub (.image k)).map .image ++
    (if isSet && p.settings.alignDepth && stored.contains .depth && p.depthBuffer.isSome then
      (stored.filter fun t => !t.isDepth && sub (.alignedDepth t) &&
        p.alignments.contains t).map .alignedDepth
    else []) ++
    ((if p.clouds.isSome && sub .coloredCloud && stored.contains .depth &&
        stored.contains .color && p.depthBuffer.isSome && p.extrinsics.contains .color &&
        p.colorBuffer.isSome then [.coloredCloud] else []) ++
      (if p.clouds.isSome && sub .depthCloud && stored.contains .depth &&
        p.depthBuffer.isSome then [.depthCloud] else []))

section Dispatch

variable {σ : Type} [Publisher σ] [HostClock σ] {sub : Topic → Bool}

theorem dispatch_publishes (hk : KeepsSubscribers σ) {p : Pipeline} (hp : p.Consistent)
    (fs : List Frame) (isSet : Bool) :
    Publishes sub (p.dispatch fs isSet : StateM σ Pipeline)
      (p.dispatchTopics sub isSet ((p.storeAll p.arrivals.begin fs).2.2.map (·.key)))
      Consistent := by
  intro w hw
  have hset := (storeAll_settled p p.arrivals.begin fs).1
  have hsame := storeAll_restores p p.arrivals.begin fs
  have harr := storeAll_arrivedAt p p.arrivals.begin fs
  have hfound := storeAll_found p p.arrivals.begin fs
  have hend := hp.dispatch fs isSet w
  rcases h : p.storeAll p.arrivals.begin fs with ⟨q, arrivals, _ | ⟨first, rest⟩⟩
  · rw [dispatch_run_nil isSet w h] at hend ⊢
    exact ⟨[], by simp [dispatchTopics], rfl, hend⟩
  rw [h] at hset hsame harr hfound
  have hq : q.Consistent := hp.restored hsame.1 hsame.2 hset.clouds
  have harr' : ∀ k, arrivals.arrivedAt k = ((first :: rest).map (·.key)).contains k := by
    intro k
    simpa [arrivedAt_begin] using harr k
  have hdepth : q.depthBuffer.isSome = p.depthBuffer.isSome := hsame.1.depthBuffer_isSome
  have hcolor : q.colorBuffer.isSome = p.colorBuffer.isSome := hsame.1.colorBuffer_isSome
  rw [dispatch_run_cons isSet w h] at hend ⊢
  dsimp only at hend ⊢
  generalize (q.clock.stamp first.timestamp (HostClock.now w)).1 = time at hend ⊢
  generalize hq₁ : ({ q with
    watchdog := q.watchdog.rearm (HostClock.monotonic w)
    clock := (q.clock.stamp first.timestamp (HostClock.now w)).2 } : Pipeline) = q₁ at hend ⊢
  have hv₁ : q₁.video = q.video := by rw [← hq₁]
  have hs₁ : Settled q q₁ := by rw [← hq₁]; constructor <;> rfl
  have ha₁ : q₁.alignments = q.alignments := by rw [← hq₁]
  obtain ⟨ms₁, ht₁, hw₁, seqs, hr₂⟩ := publishes_publishFrames hk q₁ time (first :: rest)
    (fun f hf => hv₁ ▸ hfound f hf) w hw
  generalize ((first :: rest).foldlM (fun (p : Pipeline) (f : Frame) => p.publishFrame time f.key)
    q₁ : StateM σ Pipeline).run w = r₂ at hw₁ hr₂ hend ⊢
  obtain ⟨q₂, w₂⟩ := r₂
  dsimp only at hw₁ hr₂ hend ⊢
  have hv₂ : q₂.video = q.video := by rw [hr₂]; exact hv₁
  have hs₂ : Settled q q₂ := by rw [hr₂]; exact hs₁.trans (by constructor <;> rfl)
  have ha₂ : q₂.alignments = q.alignments := by rw [hr₂]; exact ha₁
  obtain ⟨ms₂, ht₂, hw₂, hv₃, hs₃, hq₃⟩ := publishes_alignedDepth hk (hq.of_eq hv₂ ha₂ hs₂.clouds)
    time (isSet && q₂.settings.alignDepth && arrivals.arrivedAt .depth) (first :: rest)
    (fun f hf => hv₂ ▸ hfound f hf) w₂ (by rw [hw₁, subscribed_published hk, hw])
  generalize (if isSet && q₂.settings.alignDepth && arrivals.arrivedAt .depth then
      (((first :: rest).filter fun f => !f.key.isDepth).map (·.key)).foldlM
        (fun (p : Pipeline) k => p.publishAligned time k) q₂
    else pure q₂ : StateM σ Pipeline).run w₂ = r₃ at hw₂ hv₃ hs₃ hq₃ hend ⊢
  obtain ⟨q₃, w₃⟩ := r₃
  dsimp only at hw₂ hv₃ hs₃ hq₃ hend ⊢
  obtain ⟨ms₃, ht₃, hw₃, -⟩ := publishes_clouds hk hq₃ time arrivals w₃
    (by rw [hw₂, subscribed_published hk, hw₁, subscribed_published hk, hw])
  refine ⟨ms₁ ++ ms₂ ++ ms₃, ?_, ?_, hend⟩
  · have hv : q₃.video = q.video := hv₃.trans hv₂
    have hs : Settled p q₃ := hset.trans (hs₂.trans hs₃)
    rw [List.map_append, List.map_append, ht₁, ht₂, ht₃]
    simp only [dispatchTopics, List.map_append]
    rw [depthBuffer_of_video_eq hv, colorBuffer_of_video_eq hv, depthBuffer_of_video_eq hv₂,
      hdepth, hcolor, hs.clouds, hs.extrinsics, (hset.trans hs₂).settings, ha₂, hsame.2,
      harr', harr']
  · rw [hw₃, hw₂, hw₁, published_append, published_append]

/-- A dispatch from a consistent pipeline stores frames of some of its streams, in order, and
publishes exactly on `dispatchTopics` of those streams alone, whatever earlier dispatches
stored; the pipeline stays consistent for the next dispatch. -/
theorem dispatch_derives_products (hk : KeepsSubscribers σ) {p : Pipeline} (hp : p.Consistent)
    (fs : List Frame) (isSet : Bool) (w : σ) :
    ((p.storeAll p.arrivals.begin fs).2.2.map (·.key)).Sublist (fs.map (·.key)) ∧
      ∃ ms : List Publication,
        ms.map Publication.topic = (p.dispatchTopics (Publisher.subscribed w) isSet
          ((p.storeAll p.arrivals.begin fs).2.2.map (·.key))).map some ∧
        ((p.dispatch fs isSet).run w).2 = published ms w ∧
        ((p.dispatch fs isSet).run w).1.Consistent :=
  ⟨(storeAll_sublist p p.arrivals.begin fs).map _, dispatch_publishes hk hp fs isSet w rfl⟩

end Dispatch

/-! ### On the bench -/

def onePixelDepth : Pipeline where
  info := ⟨"Mock D400", "0001", "5.13.0", "0b07"⟩
  settings := default
  modules := ["Stereo Module"]
  video := ({} : StreamMap VideoStream).insert .depth
    ⟨⟨.depth, .z16, 1, 1, 30⟩, defaultIntrinsics 1 1, (defaultIntrinsics 1 1).calibration,
      .depth (Raster.fill 1 1 0)⟩
  motion := {}
  depthScale := 0.001
  extrinsics := {}
  alignments := {}
  clouds := some ⟨defaultIntrinsics 1 1, 0.001⟩
  filters := default
  clock := default
  arrivals := ArrivalTracker.new [.depth]
  syncer := none
  sequences := {}
  alignedSequences := {}
  watchdog := default
  streaming := true

theorem onePixelDepth_consistent : onePixelDepth.Consistent where
  buffers k v hv := by
    simp only [onePixelDepth, StreamMap.find?_insert, StreamMap.find?_empty] at hv
    split_ifs at hv
    cases hv
    rfl
  clouds b hb := by
    cases hb
    exact ⟨_, rfl, rfl⟩
  alignments k a ha := by cases ha

example : onePixelDepth.dispatchTopics (fun _ => true) true [.depth] =
    [.image .depth, .depthCloud] := by decide

end Pipeline

theorem Bench.keepsSubscribers : Pipeline.KeepsSubscribers Bench := by
  intro m b
  obtain ⟨device, attached, acquisitions, sinks, wall, monotonic, publisher, log⟩ := b
  cases publisher <;> rfl

open Pipeline in
theorem dispatch_derives_products_on_bench :
    KeepsSubscribers Bench ∧ onePixelDepth.Consistent ∧
      let fs : List Frame := [⟨.depth, 1, 0, .hardwareClock, .depth (Raster.fill 1 1 0)⟩]
      let w : Bench := { device := { modules := BenchDevice.defaultModules } }
      ((onePixelDepth.storeAll onePixelDepth.arrivals.begin fs).2.2.map (·.key)).Sublist
          (fs.map (·.key)) ∧
        ∃ ms : List Publication,
          ms.map Publication.topic = (onePixelDepth.dispatchTopics (Publisher.subscribed w) true
            ((onePixelDepth.storeAll onePixelDepth.arrivals.begin fs).2.2.map (·.key))).map some ∧
          ((onePixelDepth.dispatch fs true).run w).2 = published ms w ∧
          ((onePixelDepth.dispatch fs true).run w).1.Consistent :=
  ⟨Bench.keepsSubscribers, onePixelDepth_consistent,
    dispatch_derives_products Bench.keepsSubscribers onePixelDepth_consistent _ _ _⟩

end Rgbd
