import Rgbd.Proofs.Liveness
import Rgbd.Bench.World

/-!
Recovering from a stalled device.

A node's poll at `now` fires exactly when the watchdog of its pipeline is armed with a
deadline at or before `now`. A poll that does not fire changes nothing. One that fires takes
the pipeline out, stops its modules once each, asks the provider for the device once and,
when the device is there and a pipeline builds, installs that pipeline under the next
generation, streaming, with its watchdog armed one timeout after `now` (`pollWatchdog_spec`).

Between polls a node serves requests, each in a world of its own, so the host's clock may
move between them: deliveries, streaming switched on or off, polls. Each passes on at most one
change to the pipeline in place (`after_attached`), so a run of requests is a history of
changes up to the poll that fires (`afterAll_attached`), and the rule of
`Rgbd.Proofs.Liveness` gives the deadline that poll compares with.

Which calls a world sees is told by a trace of the teardown calls and acquisitions
(`Traces`); building a pipeline, publishing and starting modules leave it alone. Main
statement: `watchdog_recovery`, the laws of `StallRecovery`, which the bench satisfies
(`watchdog_recovery_on_bench`).
-/

namespace Rgbd

/-- A call that tears a device down or looks for it. -/
inductive Call where
  | stop (m : String)
  | acquire
  deriving Repr, DecidableEq

section Tracing

variable (σ : Type) [Provider σ] [Camera σ] [Publisher σ]

/-- `trace` lists, oldest first, the modules a world stopped and the acquisitions it
answered; no other call of the world changes it. -/
structure Traces (trace : σ → List Call) : Prop where
  acquire : ∀ s w, trace ((Provider.acquire s).run w).2 = trace w ++ [.acquire]
  stop : ∀ m w, trace ((Camera.stop m).run w).2 = trace w ++ [.stop m]
  openModule : ∀ m ps, Pipeline.Keeps trace (Camera.openModule m ps : StateM σ _)
  start : ∀ m k, Pipeline.Keeps trace (Camera.start m k : StateM σ _)
  publish : ∀ m, Pipeline.Keeps trace (Publisher.publish m : StateM σ Unit)

end Tracing

namespace Pipeline

/-! ### Building leaves the trace alone -/

section Building

variable {σ γ α β : Type} {obs : σ → γ}

theorem Keeps.build_bind {x : Build σ α} {f : α → Build σ β} (hx : Keeps obs x.run)
    (hf : ∀ a, Keeps obs (f a).run) : Keeps obs (x >>= f).run := by
  intro w
  simp only [ExceptT.run_bind, run_bind]
  have hxw := hx w
  generalize x.run.run w = r at hxw
  obtain ⟨_ | a, w₁⟩ := r
  · exact hxw
  · exact (hf a w₁).trans hxw

theorem Keeps.build_pure (a : α) : Keeps obs (Pure.pure a : Build σ α).run := fun _ => rfl

theorem Keeps.build_throw (e : EngineError) : Keeps obs (throw e : Build σ α).run :=
  fun _ => rfl

theorem keeps_query (f : σ → Except DeviceError α) : Keeps obs (Build.query f).run := by
  unfold Build.query
  refine Keeps.build_bind (fun _ => rfl) fun w => ?_
  split
  · exact Keeps.build_pure _
  · exact Keeps.build_throw _

theorem keeps_call {x : StateM σ (Except DeviceError α)} (hx : Keeps obs x) :
    Keeps obs (Build.call x).run := by
  unfold Build.call
  refine Keeps.build_bind hx fun r => ?_
  split
  · exact Keeps.build_pure _
  · exact Keeps.build_throw _

theorem keeps_lift {ε : Type} (f : ε → EngineError) (r : Except ε α) :
    Keeps obs (Build.lift f r : Build σ α).run := by
  cases r with
  | ok a => exact Keeps.build_pure a
  | error e => exact Keeps.build_throw _

variable [Camera σ]

theorem keeps_videoStream (p : StreamProfile) : Keeps obs (videoStream (σ := σ) p).run := by
  unfold videoStream
  refine Keeps.build_bind (keeps_query _) fun i => ?_
  dsimp only
  split
  · refine Keeps.build_bind (Keeps.build_throw _) fun _ => ?_
    split
    · exact Keeps.build_pure _
    · exact Keeps.build_throw _
  · split
    · exact Keeps.build_pure _
    · exact Keeps.build_throw _

theorem keeps_readStreams (ps : List StreamProfile) (video : StreamMap VideoStream)
    (motion : StreamMap MotionIntrinsics) :
    Keeps obs (readStreams (σ := σ) ps video motion).run := by
  induction ps generalizing video motion with
  | nil => exact Keeps.build_pure _
  | cons p ps ih =>
    unfold readStreams
    split
    · exact Keeps.build_bind (keeps_query _) fun _ => ih _ _
    · exact Keeps.build_bind (keeps_videoStream p) fun _ => ih _ _

theorem keeps_readExtrinsics (depth : StreamProfile) (video : StreamMap VideoStream)
    (ks : List StreamKey) (acc : StreamMap Extrinsics) :
    Keeps obs (readExtrinsics (σ := σ) depth video ks acc).run := by
  induction ks generalizing acc with
  | nil => exact Keeps.build_pure _
  | cons k ks ih =>
    unfold readExtrinsics
    split
    · exact Keeps.build_bind (keeps_query _) fun _ => ih _
    · exact ih _

theorem keeps_openModules (hopen : ∀ m ps, Keeps obs (Camera.openModule m ps : StateM σ _))
    (ms : List (String × List StreamProfile)) : Keeps obs (openModules (σ := σ) ms).run := by
  induction ms with
  | nil => exact Keeps.build_pure ()
  | cons m ms ih =>
    unfold openModules
    exact Keeps.build_bind (keeps_call (hopen _ _)) fun _ => ih

theorem keeps_build (hopen : ∀ m ps, Keeps obs (Camera.openModule m ps : StateM σ _))
    (settings : Settings) : Keeps obs (build (σ := σ) settings).run := by
  unfold build
  dsimp only
  refine Keeps.build_bind (fun _ => rfl) fun w => ?_
  refine Keeps.build_bind (keeps_lift _ _) fun selected => ?_
  refine Keeps.build_bind (keeps_openModules hopen _) fun _ => ?_
  split
  · refine Keeps.build_bind (keeps_query _) fun depthScale => ?_
    refine Keeps.build_bind (keeps_readStreams _ _ _) fun r => ?_
    split
    · refine Keeps.build_bind (keeps_readExtrinsics _ _ _ _) fun extrinsics => ?_
      exact Keeps.build_bind (keeps_lift _ _) fun _ => Keeps.build_pure _
    · rename_i hnone
      cases hnone
  · refine Keeps.build_bind (Keeps.build_pure _) fun depthScale => ?_
    refine Keeps.build_bind (keeps_readStreams _ _ _) fun r => ?_
    refine Keeps.build_bind (Keeps.build_pure _) fun extrinsics => ?_
    exact Keeps.build_bind (keeps_lift _ _) fun _ => Keeps.build_pure _

theorem build_fresh (settings : Settings) :
    Yields (build (σ := σ) settings) fun p =>
      p.watchdog = { timeout := settings.watchdogTimeout } ∧ p.streaming = false := by
  unfold build
  dsimp only
  refine yields_bind (yields_true _) fun _ _ => ?_
  refine yields_bind (yields_true _) fun _ _ => ?_
  refine yields_bind (yields_true _) fun _ _ => ?_
  split <;>
  · refine yields_bind (yields_true _) fun _ _ => ?_
    refine yields_bind (yields_true _) fun _ _ => ?_
    refine yields_bind (yields_true _) fun _ _ => ?_
    exact yields_bind (yields_true _) fun _ _ => yields_pure ⟨rfl, rfl⟩

end Building

/-! ### Stopping and starting modules -/

section Modules

variable {σ γ : Type} {obs : σ → γ}

theorem Keeps.forM {α : Type} {f : α → StateM σ Unit} (hf : ∀ a, Keeps obs (f a)) (as : List α) :
    Keeps obs (as.forM f) := by
  induction as with
  | nil => exact Keeps.pure ()
  | cons a as ih => exact Keeps.bind (hf a) fun _ => ih

theorem keeps_forEachModule {f : String → StateM σ (Except DeviceError Unit)}
    (hf : ∀ m, Keeps obs (f m)) (ms : List String) (action : String) :
    Keeps obs (forEachModule ms action f) := by
  unfold forEachModule
  suffices h : ∀ failures, Keeps obs (forEachModule.go action f ms failures) from h []
  induction ms with
  | nil =>
    intro failures
    cases failures <;> exact Keeps.pure _
  | cons m ms ih =>
    intro failures
    unfold forEachModule.go
    refine Keeps.bind (hf m) fun r => ?_
    split
    · exact ih _
    · exact ih _

variable [Provider σ] [Camera σ] [Publisher σ] {trace : σ → List Call}

theorem trace_stopModules (ht : Traces σ trace) (p : Pipeline) (w : σ) :
    trace ((p.stopModules).run w).2 = trace w ++ p.modules.map .stop := by
  unfold stopModules forEachModule
  suffices h : ∀ ms failures w, trace ((forEachModule.go "stop" Camera.stop ms failures).run w).2 =
      trace w ++ ms.map .stop from h _ [] w
  intro ms
  induction ms with
  | nil =>
    intro failures w
    cases failures <;> simp <;> rfl
  | cons m ms ih =>
    intro failures w
    unfold forEachModule.go
    rw [run_bind]
    split <;> rw [ih, ht.stop, List.map_cons, List.append_assoc, List.singleton_append]

end Modules

theorem pollWatchdog_of_quiet {p : Pipeline} {now : Instant}
    (hf : (p.watchdog.poll now).1 = false) :
    p.pollWatchdog now = (false, p) := by
  unfold pollWatchdog
  rw [Watchdog.poll_of_fires_false hf]

end Pipeline

/-! ### The node's poll -/

namespace Node

variable {σ : Type}

section Run

variable {α β : Type}

theorem run_bind (x : NodeM σ α) (f : α → NodeM σ β) (n : Node) (w : σ) :
    ((x >>= f).run n).run w =
      ((f ((x.run n).run w).1.1).run ((x.run n).run w).1.2).run ((x.run n).run w).2 := rfl

theorem run_pure (a : α) (n : Node) (w : σ) : ((pure a : NodeM σ α).run n).run w = ((a, n), w) :=
  rfl

theorem run_get (n : Node) (w : σ) : ((get : NodeM σ Node).run n).run w = ((n, n), w) := rfl

theorem run_inWorld (x : StateM σ α) (n : Node) (w : σ) :
    ((inWorld x).run n).run w = (((x.run w).1, n), (x.run w).2) := rfl

theorem takePipeline_run (n : Node) (w : σ) :
    (takePipeline.run n).run w = ((n.pipeline, { n with pipeline := none }), w) := rfl

theorem markStreaming_run (now : Instant) (n : Node) (w : σ) :
    ((markStreaming now).run n).run w =
      (((), { n with pipeline := n.pipeline.map (·.setStreaming true now) }), w) := rfl

theorem run_world [HostClock σ] (n : Node) (w : σ) :
    ((world : NodeM σ σ).run n).run w = ((w, n), w) :=
  rfl

theorem update_pipeline_self {n : Node} {p : Pipeline} (hn : n.pipeline = some p) :
    ({ n with pipeline := some p } : Node) = n := by
  rw [← hn]

end Run

variable [Provider σ] [Camera σ] [Publisher σ]

omit [Camera σ] [Publisher σ] in
theorem acquireDevice_run (n : Node) (w : σ) :
    (acquireDevice.run n).run w =
      ((((Provider.acquire n.settings.serialNo).run w).1, n),
        ((Provider.acquire n.settings.serialNo).run w).2) := rfl

omit [Provider σ] [Camera σ] [Publisher σ] in
theorem scheduleRetry_run (now : Instant) (n : Node) (w : σ) :
    ((scheduleRetry now).run n).run w =
      (((), { n with retryAt := some (now.add n.settings.watchdogTimeout) }), w) := rfl

omit [Provider σ] [Camera σ] [Publisher σ] in
theorem clearRetry_run (n : Node) (w : σ) :
    (clearRetry.run n).run w = (((), { n with retryAt := none }), w) := rfl

omit [Provider σ] [Publisher σ] in
theorem buildPipeline_run (n : Node) (w : σ) :
    (buildPipeline.run n).run w =
      ((((Pipeline.build { n.settings with filters := n.filters }).run.run w).1, n),
        ((Pipeline.build { n.settings with filters := n.filters }).run.run w).2) := rfl

omit [Provider σ] [Camera σ] [Publisher σ] in
theorem commit_run (p : Pipeline) (n : Node) (w : σ) :
    ((commit p).run n).run w =
      (((), { n with generation := n.generation + 1, pipeline := some p }), w) := rfl

omit [Provider σ] [Publisher σ] in
theorem startStreaming_idle {n : Node} {p : Pipeline} (hn : n.pipeline = some p)
    (hp : p.streaming = false) (now : Instant) (w : σ) :
    ((startStreaming now).run n).run w =
      let started := (forEachModule p.modules "start" fun m => Camera.start m ⟨n.generation⟩).run w
      ((started.1.mapError .streaming, { n with pipeline := some (p.setStreaming true now) }),
        started.2) := by
  unfold startStreaming
  rw [run_bind, streamingRequest_run]
  simp only [hn, hp, Bool.false_eq_true, ↓reduceIte, run_bind, run_inWorld, run_get,
    beq_self_eq_true]
  rw [markStreaming_run, run_pure, hn]
  rfl

omit [Provider σ] [Publisher σ] in
theorem startStreaming_streaming {n : Node} {p : Pipeline} (hn : n.pipeline = some p)
    (hp : p.streaming = true) (now : Instant) (w : σ) :
    ((startStreaming now).run n).run w = ((.ok (), n), w) := by
  unfold startStreaming
  rw [run_bind, streamingRequest_run]
  simp only [hn, hp, ↓reduceIte]
  rfl

theorem install_detached {n : Node} (hn : n.pipeline = none) (now : Instant) (w : σ) :
    ((install now).run n).run w =
      let a := (Provider.acquire n.settings.serialNo).run w
      if a.1 then
        let b := (Pipeline.build { n.settings with filters := n.filters }).run.run a.2
        match b.1 with
        | .error e => ((.error e, { n with retryAt := none }), b.2)
        | .ok p =>
          let r := ((startStreaming now).run
            { n with retryAt := none, generation := n.generation + 1, pipeline := some p }).run
            ((p.staticPublications.forM Publisher.publish).run b.2).2
          ((.ok true, r.1.2), r.2)
      else ((.ok false, { n with retryAt := some (now.add n.settings.watchdogTimeout) }), a.2) := by
  unfold install
  rw [run_bind, run_get]
  have hatt : n.isAttached = false := by simp [isAttached, hn]
  simp only [hatt, Bool.false_eq_true, ↓reduceIte]
  rw [run_bind, acquireDevice_run]
  generalize (Provider.acquire n.settings.serialNo).run w = a
  obtain ⟨found, w₁⟩ := a
  cases found with
  | false =>
    simp only [Bool.not_false, Bool.false_eq_true, ↓reduceIte, run_bind, scheduleRetry_run,
      run_pure]
  | true =>
    simp only [Bool.not_true, Bool.false_eq_true, ↓reduceIte, run_bind, clearRetry_run,
      buildPipeline_run]
    generalize (Pipeline.build { n.settings with filters := n.filters }).run.run w₁ = b
    obtain ⟨_ | p, w₂⟩ := b
    · rfl
    · simp only [run_bind, run_inWorld, commit_run, run_pure]

/-- What installing at `now` on node `n`, without a pipeline, in world `w` may leave: with the
device and a pipeline `p` built on it, `p` streaming in place under the next generation, its
watchdog armed one timeout after `now`; otherwise still no pipeline, in the same generation. -/
def Installs (n : Node) (now : Instant) (w : σ) (n' : Node) : Prop :=
  match (Provider.acquire n.settings.serialNo).run w with
  | (true, w₁) =>
    match ((Pipeline.build { n.settings with filters := n.filters }).run.run w₁).1 with
    | .ok p =>
      n'.generation = n.generation + 1 ∧ n'.pipeline = some (p.setStreaming true now) ∧
        (p.setStreaming true now).watchdog.state = .armed (now.add n.settings.watchdogTimeout)
    | .error _ => n'.generation = n.generation ∧ n'.pipeline = none
  | (false, _) => n'.generation = n.generation ∧ n'.pipeline = none

theorem install_detached_spec {trace : σ → List Call} (ht : Traces σ trace) {n : Node}
    (hn : n.pipeline = none) (now : Instant) (w : σ) :
    trace (((install now).run n).run w).2 = trace w ++ [.acquire] ∧
      Installs n now w (((install now).run n).run w).1.2 := by
  rw [install_detached hn]
  unfold Installs
  have hacq := ht.acquire n.settings.serialNo w
  generalize (Provider.acquire n.settings.serialNo).run w = a at hacq ⊢
  obtain ⟨_ | _, w₁⟩ := a
  · exact ⟨hacq, rfl, hn⟩
  · have hbuild := Pipeline.keeps_build ht.openModule { n.settings with filters := n.filters } w₁
    have hfresh := Pipeline.build_fresh (σ := σ) { n.settings with filters := n.filters } w₁
    dsimp only at hacq ⊢
    generalize (Pipeline.build { n.settings with filters := n.filters }).run.run w₁ = b
      at hbuild hfresh ⊢
    obtain ⟨_ | p, w₂⟩ := b
    · exact ⟨hbuild.trans hacq, rfl, hn⟩
    · obtain ⟨hdog, hidle⟩ := hfresh p w₂ rfl
      have hpub := Pipeline.Keeps.forM ht.publish p.staticPublications w₂
      dsimp only
      rw [if_pos rfl]
      generalize ((p.staticPublications.forM Publisher.publish).run w₂).2 = w₃ at hpub
      have hstart := startStreaming_idle
        (n := { n with retryAt := none, generation := n.generation + 1, pipeline := some p })
        rfl hidle now w₃
      have hmods := Pipeline.keeps_forEachModule (fun m => ht.start m ⟨n.generation + 1⟩)
        p.modules "start" w₃
      dsimp only at hstart hmods
      rw [hstart]
      refine ⟨hmods.trans (hpub.trans (hbuild.trans hacq)), rfl, rfl, ?_⟩
      simp [Pipeline.setStreaming, Watchdog.arm, hdog, Settings.watchdogTimeout]

theorem pollWatchdog_quiet {n : Node} {P : Pipeline} (hP : n.pipeline = some P) {now : Instant}
    (hf : (P.watchdog.poll now).1 = false) (w : σ) :
    ((pollWatchdog now).run n).run w = ((false, n), w) := by
  have hpoll := Pipeline.pollWatchdog_of_quiet hf
  unfold pollWatchdog
  rw [run_bind, pollPipeline_run, hP]
  simp only [hpoll, update_pipeline_self hP]
  rfl

theorem pollWatchdog_fired {n : Node} {P : Pipeline} (hP : n.pipeline = some P) {now : Instant}
    (hf : (P.watchdog.poll now).1 = true) (w : σ) :
    ((pollWatchdog now).run n).run w =
      let r := ((install now).run { n with pipeline := none }).run (P.stopModules.run w).2
      ((true, r.1.2), r.2) := by
  unfold pollWatchdog
  rw [run_bind, pollPipeline_run, hP]
  simp only [Pipeline.pollWatchdog, hf]
  unfold recover
  simp only [run_bind, takePipeline_run, run_inWorld, run_pure]
  rfl

variable {trace : σ → List Call}

/-- A node's poll at `now` fires exactly when the watchdog of its pipeline `P` is armed with a
deadline at or before `now`. A poll that does not fire changes neither the node nor the world;
one that fires stops the modules of `P` once each, asks for the device once, and installs as
`Installs` says on the node without a pipeline, in the world the stops left. -/
theorem pollWatchdog_spec (ht : Traces σ trace) {n : Node} {P : Pipeline}
    (hP : n.pipeline = some P) (now : Instant) (w : σ) :
    ((((pollWatchdog now).run n).run w).1.1 = true ↔
        ∃ deadline, P.watchdog.state = .armed deadline ∧ deadline ≤ now) ∧
      ((((pollWatchdog now).run n).run w).1.1 = false →
        ((pollWatchdog now).run n).run w = ((false, n), w)) ∧
      ((((pollWatchdog now).run n).run w).1.1 = true →
        trace (((pollWatchdog now).run n).run w).2 =
            trace w ++ P.modules.map .stop ++ [.acquire] ∧
          Installs { n with pipeline := none } now (P.stopModules.run w).2
            (((pollWatchdog now).run n).run w).1.2) := by
  have hfires := Watchdog.poll_fires_iff P.watchdog now
  cases hf : (P.watchdog.poll now).1 with
  | false =>
    rw [pollWatchdog_quiet hP hf]
    refine ⟨?_, fun _ => rfl, fun h => Bool.noConfusion h⟩
    rw [← hfires, hf]
  | true =>
    rw [pollWatchdog_fired hP hf]
    dsimp only
    obtain ⟨htrace, hinstalls⟩ :=
      install_detached_spec ht (n := { n with pipeline := none }) rfl now (P.stopModules.run w).2
    refine ⟨iff_of_true rfl (hfires.1 hf), fun h => Bool.noConfusion h, fun _ => ?_⟩
    rw [htrace, Pipeline.trace_stopModules ht]
    exact ⟨rfl, hinstalls⟩

end Node

/-! ### Runs of requests -/

/-- A request a node serves: a delivery through a sink of some generation, streaming switched
on or off, or a poll of the watchdog. -/
inductive Request where
  | deliver (generation : Nat) (d : Delivery)
  | setStreaming (on : Bool)
  | poll (now : Instant)

namespace Request

section Serving

variable {σ : Type} [Provider σ] [Camera σ] [Publisher σ] [HostClock σ]

def serve : Request → NodeM σ Unit
  | .deliver g d => Node.deliver g d
  | .setStreaming on => do let _ ← Node.setStreaming on
  | .poll now => do let _ ← Node.pollWatchdog now

def after (r : Request) (n : Node) (w : σ) : Node := ((r.serve.run n).run w).1.2

/-- The node after serving requests in turn, each in a world of its own, so the host's clock
may move between them. -/
def afterAll (rs : List (Request × σ)) (n : Node) : Node :=
  rs.foldl (fun n rw => rw.1.after n rw.2) n

end Serving

section Forwarding

variable {σ : Type} [HostClock σ]

/-- The change in place a request served in a world passes on to the pipeline of a node of
generation `g`: a delivery of that generation is ingested in that world, streaming is switched
at the world's monotonic instant, a poll is a poll. -/
inductive Forwards (g : Nat) : Request × σ → Pipeline.Change σ → Prop
  | deliver (d : Delivery) (w : σ) : Forwards g (.deliver g d, w) (.ingest d w)
  | setStreaming (on : Bool) (w : σ) :
      Forwards g (.setStreaming on, w) (.setStreaming on (HostClock.monotonic w))
  | poll (now : Instant) (w : σ) : Forwards g (.poll now, w) (.poll now)

/-- The changes are passed on, in order, by some of the requests. -/
inductive Served (g : Nat) : List (Request × σ) → List (Pipeline.Change σ) → Prop
  | nil : Served g [] []
  | skip (r : Request × σ) {rs : List (Request × σ)} {cs : List (Pipeline.Change σ)} :
      Served g rs cs → Served g (r :: rs) cs
  | forward {r : Request × σ} {c : Pipeline.Change σ} {rs : List (Request × σ)}
      {cs : List (Pipeline.Change σ)} :
      Forwards g r c → Served g rs cs → Served g (r :: rs) (c :: cs)

variable {g : Nat}

theorem Served.cons_append {r : Request × σ} {rs : List (Request × σ)}
    {cs₁ cs₂ : List (Pipeline.Change σ)} (h₁ : Served g [r] cs₁) (h₂ : Served g rs cs₂) :
    Served g (r :: rs) (cs₁ ++ cs₂) := by
  cases h₁ with
  | skip _ h => cases h; exact .skip r h₂
  | forward hf h => cases h; exact .forward hf h₂

theorem Served.exists_forwards {rs : List (Request × σ)} {cs : List (Pipeline.Change σ)}
    (h : Served g rs cs) : ∀ c ∈ cs, ∃ r ∈ rs, Forwards g r c := by
  induction h with
  | nil => simp
  | skip r _ ih =>
    intro c hc
    obtain ⟨r', hr', hf⟩ := ih c hc
    exact ⟨r', List.mem_cons_of_mem r hr', hf⟩
  | @forward r c' _ _ hf _ ih =>
    intro c hc
    rcases List.mem_cons.1 hc with rfl | hc
    · exact ⟨r, List.mem_cons_self, hf⟩
    · obtain ⟨r', hr', hf'⟩ := ih c hc
      exact ⟨r', List.mem_cons_of_mem r hr', hf'⟩

theorem Served.switches {rs : List (Request × σ)} {cs : List (Pipeline.Change σ)}
    (h : Served g rs cs) (hrs : ∀ r ∈ rs, ∀ on, r.1 ≠ .setStreaming on) :
    ∀ c ∈ cs, c.switches = false := by
  intro c hc
  obtain ⟨r, hr, hf⟩ := h.exists_forwards c hc
  cases hf with
  | deliver d w => rfl
  | setStreaming on w => exact absurd rfl (hrs _ hr on)
  | poll now w => rfl

theorem Served.ne_start {rs : List (Request × σ)} {cs : List (Pipeline.Change σ)}
    (h : Served g rs cs) (hrs : ∀ r ∈ rs, r.1 ≠ .setStreaming true) :
    ∀ c ∈ cs, ∀ t, c ≠ .setStreaming true t := by
  intro c hc t hct
  obtain ⟨r, hr, hf⟩ := h.exists_forwards c hc
  subst hct
  cases hf
  exact hrs _ hr rfl

end Forwarding

section Attached

variable {σ : Type} [Provider σ] [Camera σ] [Publisher σ] [HostClock σ]

open Pipeline (Change applyAll firedPolls deadlineAfter)

theorem after_setStreaming {n : Node} {p : Pipeline} (hn : n.pipeline = some p) (on : Bool)
    (w : σ) :
    (Request.setStreaming on).after n w =
      if p.streaming = on then n
      else { n with pipeline := some (p.setStreaming on (HostClock.monotonic w)) } := by
  cases on with
  | true =>
    simp only [after, serve, Node.setStreaming, ↓reduceIte, Node.run_bind, Node.run_world]
    cases hs : p.streaming with
    | false =>
      rw [Node.startStreaming_idle hn hs]
      rfl
    | true =>
      rw [Node.startStreaming_streaming hn hs]
      rfl
  | false =>
    simp only [after, serve, Node.setStreaming, Bool.false_eq_true, ↓reduceIte,
      Node.stopStreaming, Node.run_bind, Node.stopRequest_run, hn]
    cases p.streaming <;> rfl

/-- Serving a request in a world on a node holding `p` either is a poll that fires the
watchdog of `p`, or passes on at most one change to `p`, no poll that fires, and leaves the
node otherwise as it was. -/
theorem after_attached {n : Node} {p : Pipeline} (hn : n.pipeline = some p) (r : Request)
    (w : σ) :
    (∃ now, r = .poll now ∧ (p.pollWatchdog now).1 = true) ∨
      ∃ cs : List (Change σ), Served n.generation [(r, w)] cs ∧ firedPolls p cs = 0 ∧
        r.after n w = { n with pipeline := some (applyAll p cs) } := by
  have hsame := Node.update_pipeline_self hn
  cases r with
  | deliver g d =>
    refine .inr ?_
    simp only [after, serve, Node.deliver, Node.run_bind, Node.ingest_run, hn]
    by_cases hg : n.generation = g
    · subst hg
      exact ⟨[.ingest d w], .forward (.deliver d w) .nil, rfl, by rw [if_pos rfl]; rfl⟩
    · exact ⟨[], .skip _ .nil, rfl, by rw [if_neg hg]; exact hsame.symm⟩
  | setStreaming on =>
    refine .inr ?_
    rw [after_setStreaming hn]
    by_cases hs : p.streaming = on
    · exact ⟨[], .skip _ .nil, rfl, by rw [if_pos hs]; exact hsame.symm⟩
    · exact ⟨[.setStreaming on (HostClock.monotonic w)], .forward (.setStreaming on w) .nil,
        rfl, by rw [if_neg hs]; rfl⟩
  | poll now =>
    cases hf : (p.watchdog.poll now).1 with
    | true => exact .inl ⟨now, rfl, hf⟩
    | false =>
      have hquiet := Pipeline.pollWatchdog_of_quiet hf
      refine .inr ⟨[.poll now], .forward (.poll now w) .nil, ?_, ?_⟩
      · simp [firedPolls, Change.fires, hquiet]
      · simp only [after, serve, Node.run_bind, Node.pollWatchdog_quiet hn hf]
        simp [applyAll, Change.apply, hquiet, hsame]
        rfl

/-- Serving requests, each in its world, on a node holding `p` passes on to `p` the changes of
some of them, in order, until a poll fires its watchdog: either no poll fires and the node
holds `p` after those changes, or some poll fires on `p` after the changes of the requests
before it. -/
theorem afterAll_attached (rs : List (Request × σ)) {n : Node} {p : Pipeline}
    (hn : n.pipeline = some p) :
    (∃ cs : List (Change σ), Served n.generation rs cs ∧ firedPolls p cs = 0 ∧
        afterAll rs n = { n with pipeline := some (applyAll p cs) }) ∨
      ∃ pre now w post, rs = pre ++ (.poll now, w) :: post ∧
        ∃ cs : List (Change σ), Served n.generation pre cs ∧ firedPolls p cs = 0 ∧
          ((applyAll p cs).pollWatchdog now).1 = true := by
  induction rs generalizing n p with
  | nil =>
    exact .inl ⟨[], .nil, rfl, (Node.update_pipeline_self hn).symm⟩
  | cons rw rs ih =>
    obtain ⟨r, w⟩ := rw
    rcases after_attached hn r w with ⟨now, rfl, hf⟩ | ⟨cs₁, hs₁, hf₁, hn₁⟩
    · exact .inr ⟨[], now, w, rs, rfl, [], .nil, rfl, hf⟩
    · have hp₁ : (r.after n w).pipeline = some (applyAll p cs₁) := by rw [hn₁]
      have hgen : (r.after n w).generation = n.generation := by rw [hn₁]
      rcases ih hp₁ with ⟨cs₂, hs₂, hf₂, hn₂⟩ | ⟨pre, now, w', post, rfl, cs₂, hs₂, hf₂, hfire⟩
      · rw [hgen] at hs₂
        refine .inl ⟨cs₁ ++ cs₂, hs₁.cons_append hs₂, ?_, ?_⟩
        · rw [Pipeline.firedPolls_append, hf₁, hf₂]
        · rw [afterAll, List.foldl_cons, ← afterAll, hn₂, hn₁, Pipeline.applyAll_append]
      · rw [hgen] at hs₂
        refine .inr ⟨(r, w) :: pre, now, w', post, rfl, cs₁ ++ cs₂, hs₁.cons_append hs₂, ?_, ?_⟩
        · rw [Pipeline.firedPolls_append, hf₁, hf₂]
        · rw [Pipeline.applyAll_append]
          exact hfire

open Pipeline (signals) in
theorem deadline_along_requests {n : Node} {q : Pipeline} (hq : q.watchdog.state ≠ .fired)
    {t₀ : Instant} (hn : n.pipeline = some (q.setStreaming true t₀)) {rs : List (Request × σ)}
    (hrs : ∀ r ∈ rs, ∀ on, r.1 ≠ .setStreaming on) :
    (∃ cs : List (Change σ), Served n.generation rs cs ∧
        afterAll rs n = { n with pipeline := some (applyAll (q.setStreaming true t₀) cs) } ∧
        (applyAll (q.setStreaming true t₀) cs).watchdog.state = .armed (deadlineAfter q t₀ cs) ∧
        ¬Watchdog.Overdue q.watchdog.timeout t₀ (signals (q.setStreaming true t₀) cs)) ∨
      ∃ pre now w post, rs = pre ++ (.poll now, w) :: post ∧
        ∃ cs : List (Change σ), Served n.generation pre cs ∧
          (applyAll (q.setStreaming true t₀) cs).watchdog.state = .armed (deadlineAfter q t₀ cs) ∧
          ¬Watchdog.Overdue q.watchdog.timeout t₀ (signals (q.setStreaming true t₀) cs) ∧
          deadlineAfter q t₀ cs ≤ now := by
  rcases afterAll_attached rs hn with ⟨cs, hs, hf, hnode⟩ |
      ⟨pre, now, w, post, rfl, cs, hs, hf, hfire⟩
  · exact .inl ⟨cs, hs, hnode, Pipeline.armed_after_start hq t₀ (hs.switches hrs) hf⟩
  · have hpre : ∀ r ∈ pre, ∀ on, r.1 ≠ .setStreaming on := fun r hr =>
      hrs r (List.mem_append_left _ hr)
    obtain ⟨harmed, hnot⟩ := Pipeline.armed_after_start hq t₀ (hs.switches hpre) hf
    obtain ⟨deadline, hd, hle⟩ := (Watchdog.poll_fires_iff _ now).1 hfire
    rw [harmed] at hd
    cases hd
    exact .inr ⟨pre, now, w, post, rfl, cs, hs, harmed, hnot, hle⟩

theorem quiet_along_requests {n : Node} {q : Pipeline} (hq : q.watchdog.state ≠ .fired)
    {t₀ : Instant} (hn : n.pipeline = some (q.setStreaming false t₀)) {rs : List (Request × σ)}
    (hrs : ∀ r ∈ rs, r.1 ≠ .setStreaming true) :
    ∃ cs : List (Change σ), Served n.generation rs cs ∧
      afterAll rs n = { n with pipeline := some (applyAll (q.setStreaming false t₀) cs) } ∧
      (applyAll (q.setStreaming false t₀) cs).watchdog.state = .inactive := by
  rcases afterAll_attached rs hn with ⟨cs, hs, -, hnode⟩ |
      ⟨pre, now, w, post, rfl, cs, hs, -, hfire⟩
  · exact ⟨cs, hs, hnode, (Pipeline.quiet_after_stop hq t₀ (hs.ne_start hrs)).1⟩
  · have hpre : ∀ r ∈ pre, r.1 ≠ .setStreaming true := fun r hr =>
      hrs r (List.mem_append_left _ hr)
    have hcs : ∀ c ∈ cs ++ [.poll now], ∀ t, c ≠ .setStreaming true t := by
      intro c hc' t
      rcases List.mem_append.1 hc' with hc' | hc'
      · exact hs.ne_start hpre c hc' t
      · rw [List.mem_singleton.1 hc']
        exact fun h => by cases h
    have hnone := (Pipeline.quiet_after_stop hq t₀ hcs).2
    rw [Pipeline.firedPolls_append] at hnone
    simp [firedPolls, Change.fires, hfire] at hnone

end Attached

end Request

/-! ### Recovery from a stall -/

section Recovery

variable (σ : Type) [Provider σ] [Camera σ] [Publisher σ] [HostClock σ]

open Pipeline (Change applyAll firedPolls signals deadlineAfter)

/-- How a node deals with a stalled device, in a world whose calls `trace` records. -/
structure StallRecovery (trace : σ → List Call) : Prop where
  /-- A poll fires exactly when the watchdog of the pipeline `P` is armed with a deadline at or
  before `now`. One that does not fire changes nothing; one that fires stops the modules of `P`
  once each, asks for the device once, and installs as `Installs` says. -/
  poll : ∀ (n : Node) (P : Pipeline) (now : Instant) (w : σ), n.pipeline = some P →
    ((((Node.pollWatchdog now).run n).run w).1.1 = true ↔
        ∃ deadline, P.watchdog.state = .armed deadline ∧ deadline ≤ now) ∧
      ((((Node.pollWatchdog now).run n).run w).1.1 = false →
        ((Node.pollWatchdog now).run n).run w = ((false, n), w)) ∧
      ((((Node.pollWatchdog now).run n).run w).1.1 = true →
        trace (((Node.pollWatchdog now).run n).run w).2 =
            trace w ++ P.modules.map .stop ++ [.acquire] ∧
          Node.Installs { n with pipeline := none } now (P.stopModules.run w).2
            (((Node.pollWatchdog now).run n).run w).1.2)
  /-- Switching streaming to what it is changes nothing; otherwise the pipeline switches at the
  world's monotonic instant. -/
  switch : ∀ (n : Node) (p : Pipeline) (on : Bool) (w : σ), n.pipeline = some p →
    (Request.setStreaming on).after n w =
      if p.streaming = on then n
      else { n with pipeline := some (p.setStreaming on (HostClock.monotonic w)) }
  /-- Once the pipeline started streaming at `t₀`, and until a poll fires, requests served in
  worlds of their own that switch nothing keep its watchdog armed one timeout after the most
  recent clock reading of a feeding dispatch, or the start, with no poll overdue; the poll that
  fires comes at or after that deadline. -/
  deadline : ∀ (n : Node) (q : Pipeline) (t₀ : Instant) (rs : List (Request × σ)),
    q.watchdog.state ≠ .fired → n.pipeline = some (q.setStreaming true t₀) →
    (∀ r ∈ rs, ∀ on, r.1 ≠ .setStreaming on) →
    (∃ cs : List (Change σ), Request.Served n.generation rs cs ∧
        Request.afterAll rs n =
          { n with pipeline := some (applyAll (q.setStreaming true t₀) cs) } ∧
        (applyAll (q.setStreaming true t₀) cs).watchdog.state = .armed (deadlineAfter q t₀ cs) ∧
        ¬Watchdog.Overdue q.watchdog.timeout t₀ (signals (q.setStreaming true t₀) cs)) ∨
      ∃ pre now w post, rs = pre ++ (.poll now, w) :: post ∧
        ∃ cs : List (Change σ), Request.Served n.generation pre cs ∧
          (applyAll (q.setStreaming true t₀) cs).watchdog.state = .armed (deadlineAfter q t₀ cs) ∧
          ¬Watchdog.Overdue q.watchdog.timeout t₀ (signals (q.setStreaming true t₀) cs) ∧
          deadlineAfter q t₀ cs ≤ now
  /-- Once the pipeline stopped streaming, requests that never switch it on leave its watchdog
  inactive, and no poll fires it. -/
  quiet : ∀ (n : Node) (q : Pipeline) (t₀ : Instant) (rs : List (Request × σ)),
    q.watchdog.state ≠ .fired → n.pipeline = some (q.setStreaming false t₀) →
    (∀ r ∈ rs, r.1 ≠ .setStreaming true) →
    ∃ cs : List (Change σ), Request.Served n.generation rs cs ∧
      Request.afterAll rs n =
        { n with pipeline := some (applyAll (q.setStreaming false t₀) cs) } ∧
      (applyAll (q.setStreaming false t₀) cs).watchdog.state = .inactive
  /-- A delivery rearms the watchdog at each instant at which one of its dispatches that
  stores a frame reads the host's clock, oldest first, and reads it exactly when it feeds the
  watchdog: when some video frame it hands to a dispatch is accepted; inertial samples and
  frames a syncer keeps waiting are never handed to one. -/
  feed : ∀ (p : Pipeline) (d : Delivery) (w : σ),
    ((p.ingest d).run w).1.watchdog = p.watchdog.run ((p.feedReadings d w).map .feed) ∧
      (p.feedReadings d w = [] ↔ p.feeds d = false)
  /-- The frames a dispatch stores are those it accepts. -/
  stored : ∀ (p : Pipeline) (fs : List Frame),
    (p.storeAll p.arrivals.begin fs).2.2 = fs.filter p.accepts
  /-- Along any history of changes at most one poll fires the watchdog. -/
  once : ∀ (p : Pipeline) (cs : List (Change σ)), firedPolls p cs ≤ 1

variable {σ}

/-- A node recovers from a stalled device as `StallRecovery` says, in every world whose calls
a trace records. -/
theorem watchdog_recovery {trace : σ → List Call} (ht : Traces σ trace) :
    StallRecovery σ trace where
  poll _ _ now w hP := Node.pollWatchdog_spec ht hP now w
  switch _ _ on w hn := Request.after_setStreaming hn on w
  deadline _ _ _ _ hq hn hrs := Request.deadline_along_requests hq hn hrs
  quiet _ _ _ _ hq hn hrs := Request.quiet_along_requests hq hn hrs
  feed p d w := ⟨Pipeline.ingest_watchdog p d w, Pipeline.feedReadings_eq_nil_iff p d w⟩
  stored := Pipeline.storeAll_stored
  once := Pipeline.firedPolls_le_one

end Recovery

/-! ### On the bench -/

namespace Bench

def call : BenchEvent → Option Call
  | .acquire _ _ => some .acquire
  | .stop m _ => some (.stop m)
  | _ => none

def calls (b : Bench) : List Call := b.events.filterMap call

theorem calls_record (e : BenchEvent) (b : Bench) :
    (b.record e).calls = b.calls ++ (call e).toList := by
  simp only [calls, events, record, List.reverse_cons, List.filterMap_append]
  cases h : call e <;> simp [h]

theorem traces : Traces Bench calls where
  acquire s b := by
    show (record _ _).calls = _
    rw [calls_record]
    split <;> rfl
  stop m b := by
    show (record _ b).calls = _
    rw [calls_record]
    rfl
  openModule m ps b := by
    show (record _ b).calls = _
    rw [calls_record]
    simp [call]
  start m k b := by
    show (record _ _).calls = _
    rw [calls_record]
    simp only [call, Option.toList_none, List.append_nil]
    split
    · rfl
    · unfold addSink
      split <;> rfl
  publish m b := by
    obtain ⟨device, attached, acquisitions, sinks, wall, monotonic, publisher, log⟩ := b
    cases publisher with
    | recorder names =>
      show (record _ _).calls = _
      rw [calls_record]
      simp [call]
    | counter counts => rfl

end Bench

/-- The bench traces its teardowns and acquisitions, so a node on it deals with a stalled
device as `StallRecovery` says. -/
theorem watchdog_recovery_on_bench : Traces Bench Bench.calls ∧ StallRecovery Bench Bench.calls :=
  ⟨Bench.traces, watchdog_recovery Bench.traces⟩

end Rgbd
