import Rgbd.Node.Threads
import Mathlib.Logic.Relation

/-!
Generations keep the pipelines of a node apart, whatever its threads do.

The node counts its installations, and a sink carries the count read together with the
pipeline whose modules it starts. A run of many threads may tear the pipeline down and
install another between any two steps of a thread that starts streaming, and devices keep
delivering through old sinks. Still, at every point of every run:

* the generation is the number of installations so far, and the pipeline in place is the
  one installed last, changed only in place, or none after a teardown;
* every sink was made while a pipeline was installed, and carries that installation's
  number;
* a delivery is ingested exactly when its sink's number is the current installation's and
  a pipeline is in place, and it comes through a sink made before.

The proof is one invariant (`Sys.Inv`) that every atomic step keeps.
-/

namespace Rgbd

section Evolution

variable (σ : Type) [Publisher σ] [HostClock σ]

/-- One change an installed pipeline goes through in place: ingesting a delivery, polling
its watchdog, starting or stopping its streaming. -/
inductive Pipeline.Update : Pipeline → Pipeline → Prop
  | ingest (p : Pipeline) (d : Delivery) (w : σ) : Update p ((p.ingest d).run w).1
  | poll (p : Pipeline) (now : Instant) : Update p (p.pollWatchdog now).2
  | setStreaming (p : Pipeline) (on : Bool) (now : Instant) : Update p (p.setStreaming on now)

def Pipeline.Evolves : Pipeline → Pipeline → Prop := Relation.ReflTransGen (Pipeline.Update σ)

variable {σ}

theorem Pipeline.evolves_rel_refl (o : Option Pipeline) : Option.Rel (Pipeline.Evolves σ) o o := by
  cases o with
  | none => exact .none
  | some p => exact .some .refl

theorem Pipeline.evolves_rel_trans {a b c : Option Pipeline}
    (hab : Option.Rel (Pipeline.Evolves σ) a b) (hbc : Option.Rel (Pipeline.Evolves σ) b c) :
    Option.Rel (Pipeline.Evolves σ) a c := by
  cases hab with
  | none => exact hbc
  | some h =>
    cases hbc with
    | some h' => exact .some (h.trans h')

theorem isSome_eq_of_rel {α β : Type} {r : α → β → Prop} {a : Option α} {b : Option β}
    (h : Option.Rel r a b) : a.isSome = b.isSome := by
  cases h <;> rfl

end Evolution

/-! ### What each critical section does to the pipeline slot -/

namespace Node

section Sections

variable {σ : Type} [Publisher σ] [HostClock σ]

def InPlace {α : Type} (x : NodeM σ α) : Prop :=
  ∀ n w, ((x.run n).run w).1.2.generation = n.generation ∧
    Option.Rel (Pipeline.Evolves σ) n.pipeline ((x.run n).run w).1.2.pipeline

theorem InPlace.intro {α : Type} {x : NodeM σ α}
    (h : ∀ n w, ((x.run n).run w).1.2 = n ∨ ∃ p q, n.pipeline = some p ∧
      Pipeline.Update σ p q ∧ ((x.run n).run w).1.2 = { n with pipeline := some q }) :
    InPlace x := by
  intro n w
  rcases h n w with hn | ⟨p, q, hp, hpq, hn⟩
  · rw [hn]
    exact ⟨rfl, Pipeline.evolves_rel_refl _⟩
  · rw [hn, hp]
    exact ⟨rfl, .some (.single hpq)⟩

theorem inPlace_inWorld {α : Type} (x : StateM σ α) : InPlace (inWorld x) :=
  InPlace.intro fun _ _ => .inl rfl

theorem ingest_run (g : Nat) (d : Delivery) (n : Node) (w : σ) :
    ((ingest g d).run n).run w =
      match n.pipeline with
      | some p => if n.generation = g then
          ((true, { n with pipeline := some ((p.ingest d).run w).1 }), ((p.ingest d).run w).2)
        else ((false, n), w)
      | none => ((false, n), w) := by
  unfold ingest
  by_cases hg : n.generation = g <;> cases hp : n.pipeline <;> simp [hg, hp] <;> rfl

theorem ingest_result (g : Nat) (d : Delivery) (n : Node) (w : σ) :
    (((ingest g d).run n).run w).1.1 = (n.pipeline.isSome && g == n.generation) := by
  rw [ingest_run]
  by_cases hg : n.generation = g
  · cases n.pipeline <;> simp [hg]
  · cases n.pipeline <;> simp [hg, Ne.symm hg]

theorem inPlace_ingest (g : Nat) (d : Delivery) : InPlace (σ := σ) (ingest g d) := by
  refine InPlace.intro fun n w => ?_
  rw [ingest_run]
  cases hp : n.pipeline with
  | none => exact .inl rfl
  | some p =>
    dsimp only
    by_cases hg : n.generation = g
    · rw [if_pos hg]
      exact .inr ⟨p, _, rfl, .ingest p d w, rfl⟩
    · rw [if_neg hg]
      exact .inl rfl

omit [Publisher σ] [HostClock σ] in
theorem pollPipeline_run (now : Instant) (n : Node) (w : σ) :
    ((pollPipeline now).run n).run w =
      match n.pipeline with
      | some p =>
        ((some (p.pollWatchdog now).1, { n with pipeline := some (p.pollWatchdog now).2 }), w)
      | none => ((none, n), w) := by
  unfold pollPipeline
  cases hp : n.pipeline <;> simp [hp] <;> rfl

theorem inPlace_pollPipeline (now : Instant) : InPlace (σ := σ) (pollPipeline now) := by
  refine InPlace.intro fun n w => ?_
  rw [pollPipeline_run]
  cases hp : n.pipeline with
  | none => exact .inl rfl
  | some p => exact .inr ⟨p, _, rfl, .poll p now, rfl⟩

theorem inPlace_markStreaming (now : Instant) : InPlace (σ := σ) (markStreaming now) := by
  refine InPlace.intro fun n w => ?_
  have hrun : (((markStreaming now).run n).run w).1.2 =
      { n with pipeline := n.pipeline.map (·.setStreaming true now) } := rfl
  rw [hrun]
  cases hp : n.pipeline with
  | none => exact .inl (by cases n; simp_all)
  | some p => exact .inr ⟨p, _, rfl, .setStreaming p true now, rfl⟩

omit [Publisher σ] in
theorem stopRequest_run (n : Node) (w : σ) :
    (stopRequest.run n).run w =
      match n.pipeline with
      | some p =>
        if p.streaming then
          ((some p.modules,
            { n with pipeline := some (p.setStreaming false (HostClock.monotonic w)) }), w)
        else ((none, n), w)
      | none => ((none, n), w) := by
  unfold stopRequest
  cases hp : n.pipeline with
  | none => simp [hp]; rfl
  | some p => cases hs : p.streaming <;> simp [hp, hs] <;> rfl

theorem inPlace_stopRequest : InPlace (σ := σ) stopRequest := by
  refine InPlace.intro fun n w => ?_
  rw [stopRequest_run]
  cases hp : n.pipeline with
  | none => exact .inl rfl
  | some p =>
    dsimp only
    cases hs : p.streaming
    · exact .inl rfl
    · exact .inr ⟨p, _, rfl, .setStreaming p false (HostClock.monotonic w), rfl⟩

theorem inPlace_retryDue (now : Instant) : InPlace (σ := σ) (retryDue now) := by
  refine InPlace.intro fun n w => .inl ?_
  unfold retryDue
  cases hr : n.retryAt <;> simp [hr] <;> rfl

theorem inPlace_scheduleRetry (now : Instant) : InPlace (σ := σ) (scheduleRetry now) :=
  fun _ _ => ⟨rfl, Pipeline.evolves_rel_refl _⟩

theorem inPlace_clearRetry : InPlace (σ := σ) clearRetry :=
  fun _ _ => ⟨rfl, Pipeline.evolves_rel_refl _⟩

theorem inPlace_acquireDevice [Provider σ] : InPlace (σ := σ) acquireDevice :=
  InPlace.intro fun _ _ => .inl rfl

theorem inPlace_buildPipeline [Camera σ] : InPlace (σ := σ) buildPipeline :=
  InPlace.intro fun _ _ => .inl rfl

omit [Publisher σ] [HostClock σ] in
theorem streamingRequest_run (n : Node) (w : σ) :
    (streamingRequest.run n).run w =
      ((match n.pipeline with
        | some p => if p.streaming then none else some (p.modules, ⟨n.generation⟩)
        | none => none, n), w) := by
  unfold streamingRequest
  cases hp : n.pipeline <;> simp [hp] <;> rfl

omit [Publisher σ] [HostClock σ] in
theorem streamingRequest_sink {n : Node} {w : σ} {modules : List String} {k : Sink}
    (h : ((streamingRequest.run n).run w).1.1 = some (modules, k)) :
    n.pipeline.isSome ∧ k.generation = n.generation := by
  rw [streamingRequest_run] at h
  cases hp : n.pipeline with
  | none => simp [hp] at h
  | some p =>
    simp only [hp] at h
    split at h
    · cases h
    · cases h
      exact ⟨rfl, rfl⟩

theorem inPlace_streamingRequest : InPlace (σ := σ) streamingRequest :=
  InPlace.intro fun n w => .inl (by rw [streamingRequest_run])

end Sections

end Node

/-! ### The log of a run -/

namespace Event

def slot : List Event → Option Pipeline
  | [] => none
  | .installed p :: _ => some p
  | .tornDown :: _ => none
  | _ :: log => slot log

def installs : List Event → Nat
  | [] => 0
  | .installed _ :: log => installs log + 1
  | _ :: log => installs log

/-- What an event asks of the log before it: a sink is made while a pipeline is in place
and carries the number of installations so far; a delivery is ingested exactly when that
number is its sink's and a pipeline is in place, and comes through a sink made before. -/
def Allowed (pre : List Event) : Event → Prop
  | .sinkMade k => (slot pre).isSome ∧ k.generation = installs pre
  | .delivered k b =>
    (b = true ↔ (slot pre).isSome ∧ k.generation = installs pre) ∧ sinkMade k ∈ pre
  | _ => True

def Lawful : List Event → Prop
  | [] => True
  | e :: pre => Allowed pre e ∧ Lawful pre

theorem Lawful.allowed {post pre : List Event} {e : Event} (h : Lawful (post ++ e :: pre)) :
    Allowed pre e := by
  induction post with
  | nil => exact h.1
  | cons e' post ih => exact ih h.2

end Event

/-! ### The invariant of a run -/

def Pc.sink : Pc → Option Sink
  | .deliver s _ => some s
  | .startModules _ s _ _ => some s
  | .checkCurrent s _ _ => some s
  | .stopModules _ next => next.sink
  | _ => none

namespace Sys

variable {σ : Type}

def Holds (s : Sys σ) (pc : Pc) : Prop := ∀ k, pc.sink = some k → .sinkMade k ∈ s.log

theorem Holds.of_sink_none {s : Sys σ} {pc : Pc} (h : pc.sink = none) : s.Holds pc := by
  intro k hk
  rw [h] at hk
  cases hk

theorem Holds.mono {s s' : Sys σ} {pc : Pc} (h : s.Holds pc) (hlog : ∃ new, s'.log = new ++ s.log) :
    s'.Holds pc := by
  intro k hk
  obtain ⟨new, hnew⟩ := hlog
  rw [hnew]
  exact List.mem_append_right new (h k hk)

theorem run_bind {α β : Type} (x : StateM (Sys σ) α) (f : α → StateM (Sys σ) β) (s : Sys σ) :
    (x >>= f).run s = (f (x.run s).1).run (x.run s).2 := rfl

theorem pure_run {α : Type} (a : α) (s : Sys σ) : (pure a : StateM (Sys σ) α).run s = (a, s) :=
  rfl

theorem atomically_run {α : Type} (x : NodeM σ α) (s : Sys σ) :
    (atomically x).run s = (((x.run s.node).run s.world).1.1,
      { s with node := ((x.run s.node).run s.world).1.2, world := ((x.run s.node).run s.world).2 }) :=
  rfl

theorem record_run (e : Event) (s : Sys σ) :
    (record e).run s = ((), { s with log := e :: s.log }) := rfl

section Sound

variable [Publisher σ] [HostClock σ]

/-- What the node, the world and the log satisfy at every point of a run. -/
structure Sound (s : Sys σ) : Prop where
  /-- The generation counts the installations. -/
  generation : s.node.generation = Event.installs s.log
  /-- The pipeline in place is the one installed last, changed in place. -/
  slot : Option.Rel (Pipeline.Evolves σ) (Event.slot s.log) s.node.pipeline
  lawful : Event.Lawful s.log
  /-- Every sink handed out was made. -/
  sinks : ∀ k ∈ s.sinks, .sinkMade k ∈ s.log

structure Inv (s : Sys σ) : Prop extends Sound s where
  threads : ∀ pc ∈ s.threads, s.Holds pc

/-- What one step of a thread keeps: soundness and the threads; the log only grows, and the
thread's sink is one that was made. -/
structure StepOk (s : Sys σ) (r : Pc × Sys σ) : Prop where
  sound : r.2.Sound
  threads : r.2.threads = s.threads
  log : ∃ new, r.2.log = new ++ s.log
  holds : r.2.Holds r.1

theorem stepOk_inPlace {s : Sys σ} (h : s.Sound) {n : Node} (w : σ)
    (hgen : n.generation = s.node.generation)
    (hrel : Option.Rel (Pipeline.Evolves σ) s.node.pipeline n.pipeline) {pc : Pc}
    (hpc : s.Holds pc) : StepOk s (pc, { s with node := n, world := w }) where
  sound := ⟨hgen.trans h.generation, Pipeline.evolves_rel_trans h.slot hrel, h.lawful, h.sinks⟩
  threads := rfl
  log := ⟨[], rfl⟩
  holds := hpc

theorem stepOk_same {s : Sys σ} (h : s.Sound) {pc : Pc} (hpc : s.Holds pc) : StepOk s (pc, s) :=
  ⟨h, rfl, ⟨[], rfl⟩, hpc⟩

theorem stepOk_installing {s : Sys σ} (h : s.Sound) (b : Bool) {pc : Pc} (hpc : s.Holds pc) :
    StepOk s (pc, { s with installing := b }) where
  sound := ⟨h.generation, h.slot, h.lawful, h.sinks⟩
  threads := rfl
  log := ⟨[], rfl⟩
  holds := hpc

theorem stepOk_record {s : Sys σ} (h : s.Sound) {n : Node} (w : σ)
    (hgen : n.generation = s.node.generation)
    (hrel : Option.Rel (Pipeline.Evolves σ) s.node.pipeline n.pipeline) (e : Event)
    (hslot : Event.slot (e :: s.log) = Event.slot s.log)
    (hinstalls : Event.installs (e :: s.log) = Event.installs s.log)
    (he : Event.Allowed s.log e) {pc : Pc} (hpc : ∀ k, pc.sink = some k → .sinkMade k ∈ e :: s.log) :
    StepOk s (pc, { s with node := n, world := w, log := e :: s.log }) where
  sound :=
    { generation := hgen.trans (h.generation.trans hinstalls.symm)
      slot := hslot ▸ Pipeline.evolves_rel_trans h.slot hrel
      lawful := ⟨he, h.lawful⟩
      sinks := fun k hk => List.mem_cons_of_mem e (h.sinks k hk) }
  threads := rfl
  log := ⟨[e], rfl⟩
  holds := hpc

end Sound

section Steps

variable [Provider σ] [Camera σ] [Publisher σ] [HostClock σ]

theorem finish_sink (installing : Bool) : (finish installing).sink = none := by
  cases installing <;> rfl

theorem ite_sink {c : Prop} [Decidable c] {a b : Pc} (ha : a.sink = none) (hb : b.sink = none) :
    (if c then a else b).sink = none := by
  split
  · exact ha
  · exact hb

theorem stepOk_advance {s : Sys σ} (h : s.Sound) {pc : Pc} (hpc : s.Holds pc) :
    StepOk s ((advance pc).run s) := by
  cases pc with
  | deliver k d =>
    obtain ⟨hgen, hrel⟩ := Node.inPlace_ingest k.generation d s.node s.world
    have hb := Node.ingest_result k.generation d s.node s.world
    simp only [advance, run_bind, atomically_run, record_run, pure_run]
    refine stepOk_record h _ hgen hrel (.delivered k _) rfl rfl ⟨?_, hpc k rfl⟩
      (fun _ hk => by cases hk)
    rw [hb, ← h.generation, isSome_eq_of_rel h.slot]
    simp
  | poll now =>
    obtain ⟨hgen, hrel⟩ := Node.inPlace_pollPipeline now s.node s.world
    simp only [advance, run_bind, atomically_run]
    split <;> exact stepOk_inPlace h _ hgen hrel (Holds.of_sink_none rfl)
  | takeStalled now =>
    simp only [advance, run_bind, atomically_run, record_run, pure_run]
    exact
      { sound :=
          { generation := h.generation
            slot := .none
            lawful := ⟨trivial, h.lawful⟩
            sinks := fun k hk => List.mem_cons_of_mem _ (h.sinks k hk) }
        threads := rfl
        log := ⟨[.tornDown], rfl⟩
        holds := Holds.of_sink_none rfl }
  | rediscover now =>
    obtain ⟨hgen, hrel⟩ := Node.inPlace_retryDue now s.node s.world
    simp only [advance, run_bind, atomically_run, pure_run]
    exact stepOk_inPlace h _ hgen hrel (Holds.of_sink_none (ite_sink rfl rfl))
  | reacquire => exact stepOk_same h (Holds.of_sink_none rfl)
  | setStreaming on =>
    simp only [advance, run_bind, pure_run]
    split <;> exact stepOk_same h (Holds.of_sink_none rfl)
  | lockInstalling now =>
    simp only [advance, run_bind]
    split
    · exact stepOk_same h (Holds.of_sink_none rfl)
    · exact stepOk_installing h true (Holds.of_sink_none rfl)
  | checkAttached now =>
    simp only [advance, run_bind, pure_run]
    split <;> exact stepOk_same h (Holds.of_sink_none rfl)
  | acquire now =>
    obtain ⟨hgen, hrel⟩ := Node.inPlace_acquireDevice (σ := σ) s.node s.world
    simp only [advance, run_bind, atomically_run, pure_run]
    exact stepOk_inPlace h _ hgen hrel (Holds.of_sink_none (ite_sink rfl rfl))
  | scheduleRetry now =>
    obtain ⟨hgen, hrel⟩ := Node.inPlace_scheduleRetry (σ := σ) now s.node s.world
    exact stepOk_inPlace h _ hgen hrel (Holds.of_sink_none rfl)
  | clearRetry now =>
    obtain ⟨hgen, hrel⟩ := Node.inPlace_clearRetry (σ := σ) s.node s.world
    exact stepOk_inPlace h _ hgen hrel (Holds.of_sink_none rfl)
  | build now =>
    obtain ⟨hgen, hrel⟩ := Node.inPlace_buildPipeline (σ := σ) s.node s.world
    simp only [advance, run_bind, atomically_run]
    split <;> exact stepOk_inPlace h _ hgen hrel (Holds.of_sink_none rfl)
  | publish p now =>
    obtain ⟨hgen, hrel⟩ := Node.inPlace_inWorld (p.staticPublications.forM Publisher.publish)
      s.node s.world
    exact stepOk_inPlace h _ hgen hrel (Holds.of_sink_none rfl)
  | commit p now =>
    exact
      { sound :=
          { generation := congrArg (· + 1) h.generation
            slot := .some .refl
            lawful := ⟨trivial, h.lawful⟩
            sinks := fun k hk => List.mem_cons_of_mem _ (h.sinks k hk) }
        threads := rfl
        log := ⟨[.installed p], rfl⟩
        holds := Holds.of_sink_none rfl }
  | requestStart now installing =>
    obtain ⟨hgen, hrel⟩ := Node.inPlace_streamingRequest (σ := σ) s.node s.world
    simp only [advance, run_bind, atomically_run]
    split
    · rename_i modules k hreq
      obtain ⟨hsome, hk⟩ := Node.streamingRequest_sink hreq
      refine stepOk_record h _ hgen hrel (.sinkMade k) rfl rfl ⟨?_, ?_⟩ (fun k' hk' => ?_)
      · rw [isSome_eq_of_rel h.slot]
        exact hsome
      · rw [hk, h.generation]
      · cases hk'
        exact List.mem_cons_self
    · exact stepOk_inPlace h _ hgen hrel (Holds.of_sink_none (finish_sink installing))
  | startModules modules k now installing =>
    cases modules with
    | nil => exact stepOk_same h hpc
    | cons m ms =>
      exact
        { sound :=
            { generation := h.generation
              slot := h.slot
              lawful := h.lawful
              sinks := fun k' hk' => by
                rcases List.mem_append.1 hk' with hk' | hk'
                · exact h.sinks k' hk'
                · rw [List.mem_singleton.1 hk']
                  exact hpc k rfl }
          threads := rfl
          log := ⟨[], rfl⟩
          holds := hpc }
  | checkCurrent k now installing =>
    simp only [advance, run_bind, pure_run]
    split
    · exact stepOk_same h (Holds.of_sink_none rfl)
    · exact stepOk_same h (Holds.of_sink_none (finish_sink installing))
  | markStreaming now installing =>
    obtain ⟨hgen, hrel⟩ := Node.inPlace_markStreaming (σ := σ) now s.node s.world
    exact stepOk_inPlace h _ hgen hrel (Holds.of_sink_none (finish_sink installing))
  | requestStop =>
    obtain ⟨hgen, hrel⟩ := Node.inPlace_stopRequest (σ := σ) s.node s.world
    simp only [advance, run_bind, atomically_run]
    split <;> exact stepOk_inPlace h _ hgen hrel (Holds.of_sink_none rfl)
  | stopModules modules next =>
    cases modules with
    | nil => exact stepOk_same h hpc
    | cons m ms =>
      obtain ⟨hgen, hrel⟩ := Node.inPlace_inWorld (Camera.stop (σ := σ) m) s.node s.world
      exact stepOk_inPlace h _ hgen hrel hpc
  | unlockInstalling => exact stepOk_installing h false (Holds.of_sink_none rfl)
  | done => exact stepOk_same h hpc

omit [Provider σ] [Camera σ] in
theorem start_holds {s : Sys σ} (h : s.Sound) {op : Op} {pc : Pc} (hop : s.start op = some pc) :
    s.Holds pc := by
  cases op with
  | deliver i d =>
    obtain ⟨k, hk, rfl⟩ := Option.map_eq_some_iff.1 hop
    intro k' hk'
    cases hk'
    exact h.sinks k (List.mem_of_getElem? hk)
  | poll now =>
    cases hop
    exact Holds.of_sink_none rfl
  | reacquire =>
    cases hop
    exact Holds.of_sink_none rfl
  | setStreaming on =>
    cases hop
    exact Holds.of_sink_none rfl

theorem Inv.next {s : Sys σ} (h : s.Inv) (c : Choice) : (s.next c).Inv := by
  cases c with
  | spawn op =>
    cases hop : s.start op with
    | none =>
      simp only [Sys.next, hop]
      exact h
    | some pc =>
      simp only [Sys.next, hop]
      refine ⟨⟨h.generation, h.slot, h.lawful, h.sinks⟩, fun q hq => ?_⟩
      rcases List.mem_append.1 hq with hq | hq
      · exact h.threads q hq
      · rw [List.mem_singleton.1 hq]
        exact start_holds h.toSound hop
  | step i =>
    cases hi : s.threads[i]? with
    | none =>
      simp only [Sys.next, hi]
      exact h
    | some pc =>
      have hstep := stepOk_advance h.toSound (h.threads pc (List.mem_of_getElem? hi))
      simp only [Sys.next, hi]
      generalize (advance pc).run s = r at hstep ⊢
      obtain ⟨pc', s'⟩ := r
      refine ⟨⟨hstep.sound.generation, hstep.sound.slot, hstep.sound.lawful, hstep.sound.sinks⟩,
        fun q hq => ?_⟩
      rcases List.mem_or_eq_of_mem_set hq with hq | rfl
      · rw [hstep.threads] at hq
        exact (h.threads q hq).mono hstep.log
      · exact hstep.holds

theorem Inv.run {s : Sys σ} (h : s.Inv) (choices : List Choice) : (s.run choices).Inv := by
  induction choices generalizing s with
  | nil => exact h
  | cons c cs ih => exact ih (h.next c)

omit [Provider σ] [Camera σ] in
theorem inv_fresh (settings : Settings) (w : σ) : (fresh settings w).Inv :=
  ⟨⟨rfl, .none, trivial, fun _ hk => by cases hk⟩, fun _ hq => by cases hq⟩

end Steps

end Sys

variable {σ : Type} [Provider σ] [Camera σ] [Publisher σ] [HostClock σ]

/-- Stale deliveries never reach a newer pipeline. In every run of a node's threads from
its creation (deliveries through any sink handed out, watchdog polls with their recoveries
and rediscoveries, reacquisitions and streaming switches, interleaved at their atomic
steps): the generation counts the installations, and the pipeline in place is the one
installed last, changed only in place, or none after a teardown; every sink was made while
a pipeline was in place and carries the number of installations at that time; and a
delivery is ingested exactly when its sink carries the number of installations at that
time and a pipeline is in place, through a sink made before. -/
theorem generations_isolate_pipelines (settings : Settings) (w : σ) (choices : List Choice) :
    let s := (Sys.fresh settings w).run choices
    s.node.generation = Event.installs s.log ∧
    Option.Rel (Pipeline.Evolves σ) (Event.slot s.log) s.node.pipeline ∧
    (∀ post k pre, s.log = post ++ .sinkMade k :: pre →
      (Event.slot pre).isSome ∧ k.generation = Event.installs pre) ∧
    (∀ post k b pre, s.log = post ++ .delivered k b :: pre →
      (b = true ↔ (Event.slot pre).isSome ∧ k.generation = Event.installs pre) ∧
        .sinkMade k ∈ pre) := by
  intro s
  have h : s.Inv := (Sys.inv_fresh settings w).run choices
  refine ⟨h.generation, h.slot, fun post k pre hlog => ?_, fun post k b pre hlog => ?_⟩
  · exact Event.Lawful.allowed (hlog ▸ h.lawful)
  · exact Event.Lawful.allowed (hlog ▸ h.lawful)

end Rgbd
