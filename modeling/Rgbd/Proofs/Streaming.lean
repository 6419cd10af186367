import Rgbd.Proofs.Rediscovery

/-!
Streaming control reaches every module.

Starting or stopping streaming calls the device on every opened module of the pipeline, once
each and in pipeline order, whatever the earlier calls answered; the answer is `ok` exactly
when no call failed, and otherwise lists the failing modules in order, each with its error
(`forEachModule_sweeps`). The node marks its pipeline as if every call had succeeded:
streaming with its watchdog armed one timeout after a start, stopped with it inactive after a
stop.

Which calls a world saw is told by a log of module calls (`LogsModuleCalls`): each start and
stop appends one entry with its answer, and nothing else a node calls changes the log. Main
statement: `streaming_sweeps_every_module`, the laws of `StreamingSweeps` for switching
streaming, polling the watchdog (a poll that fires stops the old pipeline and starts the one
installed after it) and dropping the node, at every node that switches and polls reach from
a node just made; the bench satisfies them (`streaming_sweeps_on_bench`).
-/

namespace Rgbd

/-- A start or stop of one module, with the device's answer. -/
structure ModuleCall where
  action : String
  module : String
  result : Except DeviceError Unit
  deriving Repr

namespace ModuleCall

def failed (c : ModuleCall) : Option (String × DeviceError) :=
  match c.result with
  | .ok () => none
  | .error e => some (c.module, e)

def failures (calls : List ModuleCall) : List (String × DeviceError) := calls.filterMap failed

def Sweeps (action : String) (modules : List String) (calls : List ModuleCall) : Prop :=
  calls.map (fun c => (c.action, c.module)) = modules.map (action, ·)

theorem Sweeps.cons {action m : String} {ms : List String} {calls : List ModuleCall}
    (h : Sweeps action ms calls) (r : Except DeviceError Unit) :
    Sweeps action (m :: ms) (⟨action, m, r⟩ :: calls) := by
  simp only [Sweeps, List.map_cons] at h ⊢
  rw [h]

theorem failures_eq_nil_iff (calls : List ModuleCall) :
    failures calls = [] ↔ ∀ c ∈ calls, c.result = .ok () := by
  simp only [failures, List.filterMap_eq_nil_iff, failed]
  refine forall₂_congr fun c _ => ?_
  cases c.result <;> simp

end ModuleCall

/-- The answer to running `action` over modules with these failures: `ok` when there are none,
and otherwise the failures, in order. -/
def StreamingError.collect (action : String) (failures : List (String × DeviceError)) :
    Except StreamingError Unit :=
  if failures.isEmpty then .ok () else .error ⟨action, failures⟩

theorem StreamingError.collect_eq_ok_iff (action : String)
    (failures : List (String × DeviceError)) : collect action failures = .ok () ↔ failures = [] := by
  cases failures <;> simp [collect]

open ModuleCall

section Logging

variable (σ : Type) [Provider σ] [Camera σ] [Publisher σ]

/-- Acquiring a device, opening modules and publishing leave `obs` alone. -/
structure KeepsInstalling {γ : Type} (obs : σ → γ) : Prop where
  acquire : ∀ s, Pipeline.Keeps obs (Provider.acquire s : StateM σ Bool)
  openModule : ∀ m ps, Pipeline.Keeps obs (Camera.openModule m ps : StateM σ _)
  publish : ∀ m, Pipeline.Keeps obs (Publisher.publish m : StateM σ Unit)

/-- `log` lists, oldest first, the starts and stops a world answered, with their answers; no
other call of the world changes it. -/
structure LogsModuleCalls (log : σ → List ModuleCall) : Prop extends KeepsInstalling σ log where
  start : ∀ m k w,
    log ((Camera.start m k).run w).2 = log w ++ [⟨"start", m, ((Camera.start m k).run w).1⟩]
  stop : ∀ m w, log ((Camera.stop m).run w).2 = log w ++ [⟨"stop", m, ((Camera.stop m).run w).1⟩]

end Logging

/-! ### One action over every module -/

section Sweeping

variable {σ : Type} {log : σ → List ModuleCall} {action : String}
  {f : String → StateM σ (Except DeviceError Unit)}

theorem forEachModule_go_sweeps
    (hf : ∀ m w, log ((f m).run w).2 = log w ++ [⟨action, m, ((f m).run w).1⟩])
    (ms : List String) (acc : List (String × DeviceError)) (w : σ) :
    ∃ calls, Sweeps action ms calls ∧
      log ((forEachModule.go action f ms acc).run w).2 = log w ++ calls ∧
      ((forEachModule.go action f ms acc).run w).1 =
        StreamingError.collect action (acc.reverse ++ failures calls) := by
  induction ms generalizing acc w with
  | nil =>
    cases acc with
    | nil => exact ⟨[], rfl, (List.append_nil _).symm, rfl⟩
    | cons a acc =>
      refine ⟨[], rfl, (List.append_nil _).symm, ?_⟩
      show (Except.error ⟨action, (a :: acc).reverse⟩ : Except StreamingError Unit) = _
      simp [StreamingError.collect, failures]
  | cons m ms ih =>
    unfold forEachModule.go
    rw [Pipeline.run_bind]
    have hm := hf m w
    generalize (f m).run w = r at hm ⊢
    obtain ⟨res, w₁⟩ := r
    cases res with
    | ok u =>
      obtain ⟨calls, hs, hlog, hres⟩ := ih acc w₁
      refine ⟨⟨action, m, .ok u⟩ :: calls, hs.cons _, ?_, ?_⟩
      · rw [hlog, hm, List.append_assoc, List.singleton_append]
      · rw [hres]
        rfl
    | error e =>
      obtain ⟨calls, hs, hlog, hres⟩ := ih ((m, e) :: acc) w₁
      refine ⟨⟨action, m, .error e⟩ :: calls, hs.cons _, ?_, ?_⟩
      · rw [hlog, hm, List.append_assoc, List.singleton_append]
      · rw [hres]
        simp [failures, failed]

/-- Running an action over modules calls it on each of them once, in order, whatever the
earlier calls answered, and answers with the failures in order. -/
theorem forEachModule_sweeps
    (hf : ∀ m w, log ((f m).run w).2 = log w ++ [⟨action, m, ((f m).run w).1⟩])
    (ms : List String) (w : σ) :
    ∃ calls, Sweeps action ms calls ∧
      log ((forEachModule ms action f).run w).2 = log w ++ calls ∧
      ((forEachModule ms action f).run w).1 = StreamingError.collect action (failures calls) := by
  have h := forEachModule_go_sweeps hf ms [] w
  simp only [List.reverse_nil, List.nil_append] at h
  exact h

theorem forEachModule_ok_iff
    (hf : ∀ m w, log ((f m).run w).2 = log w ++ [⟨action, m, ((f m).run w).1⟩])
    (ms : List String) (w : σ) :
    ∃ calls, log ((forEachModule ms action f).run w).2 = log w ++ calls ∧
      (((forEachModule ms action f).run w).1 = .ok () ↔ ∀ c ∈ calls, c.result = .ok ()) := by
  obtain ⟨calls, -, hlog, hanswer⟩ := forEachModule_sweeps hf ms w
  refine ⟨calls, hlog, ?_⟩
  rw [hanswer, StreamingError.collect_eq_ok_iff, failures_eq_nil_iff]

end Sweeping

/-! ### Switching a node -/

theorem Pipeline.setStreaming_watchdog {p : Pipeline} (hp : p.watchdog.state ≠ .fired)
    (on : Bool) (now : Instant) :
    (p.setStreaming on now).watchdog =
      { p.watchdog with state := if on then .armed (now.add p.watchdog.timeout) else .inactive } := by
  cases on with
  | true => exact Watchdog.arm_of_ne_fired hp now
  | false => exact Watchdog.disarm_of_ne_fired hp

namespace Node

/-- No pipeline the node holds has a fired watchdog. The poll that fires a watchdog tears its
pipeline down, so no node that switches and polls reach holds one. -/
def Unfired (n : Node) : Prop := ∀ p, n.pipeline = some p → p.watchdog.state ≠ .fired

/-- The pipeline a node holds, if any, streams with its watchdog armed one timeout after
`now`. -/
def StreamsSince (now : Instant) : Option Pipeline → Prop
  | some q => q.streaming = true ∧ q.watchdog.state = .armed (now.add q.watchdog.timeout)
  | none => True

/-- `calls` start every module of the pipeline a node holds once, in order, and are none when
it holds no pipeline. -/
def StartsAll (calls : List ModuleCall) : Option Pipeline → Prop
  | some q => Sweeps "start" q.modules calls
  | none => calls = []

theorem StreamsSince.unfired {now : Instant} {n : Node} (h : StreamsSince now n.pipeline) :
    n.Unfired := by
  intro q hq
  rw [hq] at h
  rw [h.2]
  exact nofun

theorem Unfired.setStreaming {n : Node} (hn : n.Unfired) {p : Pipeline}
    (hp : n.pipeline = some p) (on : Bool) (t : Instant) :
    ({ n with pipeline := some (p.setStreaming on t) } : Node).Unfired := by
  rintro q ⟨⟩
  rw [Pipeline.setStreaming_watchdog (hn p hp)]
  cases on <;> exact nofun

section Switching

variable {σ : Type} [Camera σ]

theorem startStreaming_detached {n : Node} (hn : n.pipeline = none) (now : Instant) (w : σ) :
    ((startStreaming now).run n).run w = ((.ok (), n), w) := by
  unfold startStreaming
  rw [run_bind, streamingRequest_run, hn]
  rfl

variable [HostClock σ]

theorem setStreaming_run (on : Bool) (n : Node) (w : σ) :
    ((setStreaming on).run n).run w =
      if on then ((startStreaming (HostClock.monotonic w)).run n).run w
      else (stopStreaming.run n).run w := by
  cases on <;> rfl

theorem stopStreaming_streaming {n : Node} {p : Pipeline} (hn : n.pipeline = some p)
    (hs : p.streaming = true) (w : σ) :
    (stopStreaming.run n).run w =
      let stopped := (forEachModule p.modules "stop" Camera.stop).run w
      ((stopped.1.mapError .streaming,
        { n with pipeline := some (p.setStreaming false (HostClock.monotonic w)) }), stopped.2) := by
  unfold stopStreaming
  rw [run_bind, stopRequest_run, hn]
  simp only [hs, ↓reduceIte, run_bind, run_inWorld, run_pure]

theorem stopStreaming_idle {n : Node} (hn : ∀ p, n.pipeline = some p → p.streaming = false)
    (w : σ) :
    (stopStreaming.run n).run w = ((.ok (), n), w) := by
  unfold stopStreaming
  rw [run_bind, stopRequest_run]
  cases hp : n.pipeline with
  | none => rfl
  | some p =>
    simp only [hn p hp, Bool.false_eq_true, ↓reduceIte]
    rfl

theorem setStreaming_detached {n : Node} (hn : n.pipeline = none) (on : Bool) (w : σ) :
    ((setStreaming on).run n).run w = ((.ok (), n), w) := by
  rw [setStreaming_run]
  cases on with
  | true => exact startStreaming_detached hn _ w
  | false => exact stopStreaming_idle (fun p hp => by rw [hn] at hp; cases hp) w

theorem setStreaming_same {n : Node} {p : Pipeline} (hn : n.pipeline = some p) {on : Bool}
    (hs : p.streaming = on) (w : σ) :
    ((setStreaming on).run n).run w = ((.ok (), n), w) := by
  rw [setStreaming_run]
  cases on with
  | true => exact startStreaming_streaming hn hs _ w
  | false => exact stopStreaming_idle (fun q hq => by rw [hn] at hq; cases hq; exact hs) w

theorem shutdown_run (n : Node) (w : σ) :
    (shutdown.run n).run w =
      (((), (((setStreaming false).run n).run w).1.2), (((setStreaming false).run n).run w).2) :=
  rfl

end Switching

/-! ### Installing and polling -/

section Installing

variable {σ : Type} [Provider σ] [Camera σ] [Publisher σ] {log : σ → List ModuleCall}

theorem install_detached_cases {n : Node} (hn : n.pipeline = none) (now : Instant) (w : σ) :
    ((((install now).run n).run w).1.2.pipeline = none ∧
        ∀ {γ : Type} (obs : σ → γ), KeepsInstalling σ obs →
          obs (((install now).run n).run w).2 = obs w) ∨
      ∃ (p : Pipeline) (w' : σ), p.watchdog.state ≠ .fired ∧ p.streaming = false ∧
        (∀ {γ : Type} (obs : σ → γ), KeepsInstalling σ obs → obs w' = obs w) ∧
        (((install now).run n).run w).1.2.pipeline = some (p.setStreaming true now) ∧
        (((install now).run n).run w).2 =
          ((forEachModule p.modules "start" fun m => Camera.start m ⟨n.generation + 1⟩).run
            w').2 := by
  rw [install_detached hn]
  have hacq : ∀ {γ : Type} (obs : σ → γ), KeepsInstalling σ obs →
      obs ((Provider.acquire n.settings.serialNo).run w).2 = obs w :=
    fun obs h => h.acquire _ w
  generalize (Provider.acquire n.settings.serialNo).run w = a at hacq ⊢
  obtain ⟨_ | _, w₁⟩ := a
  · simp only [Bool.false_eq_true, ↓reduceIte]
    exact .inl ⟨hn, hacq⟩
  · have hbuild : ∀ {γ : Type} (obs : σ → γ), KeepsInstalling σ obs →
        obs ((Pipeline.build { n.settings with filters := n.filters }).run.run w₁).2 = obs w₁ :=
      fun obs h => Pipeline.keeps_build h.openModule _ w₁
    have hfresh := Pipeline.build_fresh (σ := σ) { n.settings with filters := n.filters } w₁
    dsimp only at hacq ⊢
    generalize (Pipeline.build { n.settings with filters := n.filters }).run.run w₁ = b
      at hbuild hfresh ⊢
    obtain ⟨_ | p, w₂⟩ := b
    · simp only [↓reduceIte]
      exact .inl ⟨hn, fun obs h => (hbuild obs h).trans (hacq obs h)⟩
    · obtain ⟨hdog, hidle⟩ := hfresh p w₂ rfl
      have hstart := startStreaming_idle
        (n := { n with retryAt := none, generation := n.generation + 1, pipeline := some p })
        rfl hidle now ((p.staticPublications.forM Publisher.publish).run w₂).2
      simp only [↓reduceIte]
      rw [hstart]
      refine .inr ⟨p, _, by rw [hdog]; exact nofun, hidle, fun obs h => ?_, rfl, rfl⟩
      rw [Pipeline.Keeps.forM h.publish _ w₂]
      exact (hbuild obs h).trans (hacq obs h)

theorem install_streams {n : Node} (hn : n.pipeline = none) (now : Instant) (w : σ) :
    StreamsSince now (((install now).run n).run w).1.2.pipeline := by
  rcases install_detached_cases hn now w with ⟨hnone, -⟩ | ⟨p, w', hdog, -, -, hsome, -⟩
  · rw [hnone]
    trivial
  · rw [hsome]
    exact ⟨rfl, by rw [Pipeline.setStreaming_watchdog hdog]; rfl⟩

theorem install_startsAll (hlog : LogsModuleCalls σ log) {n : Node} (hn : n.pipeline = none)
    (now : Instant) (w : σ) :
    ∃ calls, log (((install now).run n).run w).2 = log w ++ calls ∧
      StartsAll calls (((install now).run n).run w).1.2.pipeline := by
  rcases install_detached_cases hn now w with ⟨hnone, hkeep⟩ |
      ⟨p, w', -, -, hkeep, hsome, hworld⟩
  · refine ⟨[], ?_, by rw [hnone]; rfl⟩
    rw [hkeep log hlog.toKeepsInstalling, List.append_nil]
  · obtain ⟨calls, hsw, hl, -⟩ :=
      forEachModule_sweeps (fun m w => hlog.start m ⟨n.generation + 1⟩ w) p.modules w'
    refine ⟨calls, ?_, by rw [hsome]; exact hsw⟩
    rw [hworld, hl, hkeep log hlog.toKeepsInstalling]

/-- Polling the watchdog of node `n` at `now` in world `w`. A poll that fires the watchdog of
the pipeline `p` stops every module of `p` once, in order (`stops`), and installs the device
again (`starts`); one that does not fire changes nothing. A node without a pipeline may
install the device. A pipeline a poll installs streams with its watchdog armed one timeout
after `now`, every module of it started once, in order. -/
def Polls (log : σ → List ModuleCall) (n : Node) (w : σ) (now : Instant) : Prop :=
  match n.pipeline with
  | some p =>
    if (p.watchdog.poll now).1 then
      ∃ stops starts, Sweeps "stop" p.modules stops ∧
        log (((pollWatchdog now).run n).run w).2 = log w ++ stops ++ starts ∧
        StartsAll starts (((pollWatchdog now).run n).run w).1.2.pipeline ∧
        StreamsSince now (((pollWatchdog now).run n).run w).1.2.pipeline
    else ((pollWatchdog now).run n).run w = ((false, n), w)
  | none => ∃ starts, log (((pollWatchdog now).run n).run w).2 = log w ++ starts ∧
      StartsAll starts (((pollWatchdog now).run n).run w).1.2.pipeline ∧
      StreamsSince now (((pollWatchdog now).run n).run w).1.2.pipeline

theorem polls (hlog : LogsModuleCalls σ log) (n : Node) (w : σ) (now : Instant) :
    Polls log n w now := by
  unfold Polls
  cases hp : n.pipeline with
  | none =>
    dsimp only
    rw [pollWatchdog_detached hp]
    split_ifs
    · obtain ⟨starts, hl, hs⟩ := install_startsAll hlog hp now w
      exact ⟨starts, hl, hs, install_streams hp now w⟩
    · exact ⟨[], (List.append_nil _).symm, by simp only [hp, StartsAll],
        by simp only [hp, StreamsSince]⟩
  | some p =>
    dsimp only
    cases hf : (p.watchdog.poll now).1 with
    | false =>
      simp only [Bool.false_eq_true, ↓reduceIte]
      exact pollWatchdog_quiet hp hf w
    | true =>
      simp only [↓reduceIte]
      rw [pollWatchdog_fired hp hf]
      obtain ⟨stops, hsw, hl, -⟩ := forEachModule_sweeps hlog.stop p.modules w
      obtain ⟨starts, hl', hs⟩ :=
        install_startsAll hlog (n := { n with pipeline := none }) rfl now (p.stopModules.run w).2
      refine ⟨stops, starts, hsw, ?_, hs, install_streams rfl now _⟩
      rw [hl', Pipeline.stopModules, hl]

theorem unfired_pollWatchdog {n : Node} (hn : n.Unfired) (now : Instant) (w : σ) :
    (((pollWatchdog now).run n).run w).1.2.Unfired := by
  cases hp : n.pipeline with
  | none =>
    rw [pollWatchdog_detached hp]
    split_ifs
    · exact (install_streams hp now w).unfired
    · exact hn
  | some p =>
    cases hf : (p.watchdog.poll now).1 with
    | false => rwa [pollWatchdog_quiet hp hf]
    | true =>
      rw [pollWatchdog_fired hp hf]
      exact (install_streams (n := { n with pipeline := none }) rfl now _).unfired

end Installing

/-! ### Switching laws -/

section Laws

variable {σ : Type} [Provider σ] [Camera σ] [Publisher σ] [HostClock σ]
  {log : σ → List ModuleCall}

/-- Switching streaming to `on` on node `n` in world `w`: without a pipeline, or with one that
is in that state already, nothing happens and the answer is `ok`. Otherwise every module of
the pipeline `p` is started (stopped) once, in order, the answer lists the failures, and `p`
switches at the world's monotonic instant whatever the modules answered, its watchdog armed
one timeout later on a start and inactive after a stop. -/
def Switches (log : σ → List ModuleCall) (n : Node) (w : σ) (on : Bool) : Prop :=
  match n.pipeline with
  | some p =>
    if p.streaming = on then ((setStreaming on).run n).run w = ((.ok (), n), w)
    else ∃ calls, Sweeps (if on then "start" else "stop") p.modules calls ∧
      log (((setStreaming on).run n).run w).2 = log w ++ calls ∧
      (((setStreaming on).run n).run w).1.1 =
        (StreamingError.collect (if on then "start" else "stop") (failures calls)).mapError
          .streaming ∧
      (((setStreaming on).run n).run w).1.2 =
        { n with pipeline := some (p.setStreaming on (HostClock.monotonic w)) } ∧
      (p.setStreaming on (HostClock.monotonic w)).watchdog.state =
        if on then .armed ((HostClock.monotonic w).add p.watchdog.timeout) else .inactive
  | none => ((setStreaming on).run n).run w = ((.ok (), n), w)

theorem switches (hlog : LogsModuleCalls σ log) {n : Node} (hn : n.Unfired) (w : σ)
    (on : Bool) : Switches log n w on := by
  unfold Switches
  cases hp : n.pipeline with
  | none => exact setStreaming_detached hp on w
  | some p =>
    have hdog := congrArg Watchdog.state
      (Pipeline.setStreaming_watchdog (hn p hp) on (HostClock.monotonic w))
    dsimp only
    by_cases hs : p.streaming = on
    · rw [if_pos hs]
      exact setStreaming_same hp hs w
    · rw [if_neg hs, setStreaming_run]
      cases on with
      | true =>
        simp only [↓reduceIte]
        rw [startStreaming_idle hp (by simpa using hs)]
        obtain ⟨calls, hsw, hl, hr⟩ :=
          forEachModule_sweeps (fun m w => hlog.start m ⟨n.generation⟩ w) p.modules w
        exact ⟨calls, hsw, hl, congrArg (Except.mapError EngineError.streaming) hr, rfl, hdog⟩
      | false =>
        simp only [Bool.false_eq_true, ↓reduceIte]
        rw [stopStreaming_streaming hp (by simpa using hs)]
        obtain ⟨calls, hsw, hl, hr⟩ := forEachModule_sweeps hlog.stop p.modules w
        exact ⟨calls, hsw, hl, congrArg (Except.mapError EngineError.streaming) hr, rfl, hdog⟩

theorem unfired_setStreaming {n : Node} (hn : n.Unfired) (on : Bool) (w : σ) :
    (((setStreaming on).run n).run w).1.2.Unfired := by
  cases hp : n.pipeline with
  | none => rwa [setStreaming_detached hp]
  | some p =>
    have hafter : (((setStreaming on).run n).run w).1.2 =
        if p.streaming = on then n
        else { n with pipeline := some (p.setStreaming on (HostClock.monotonic w)) } :=
      Request.after_setStreaming hp on w
    rw [hafter]
    split_ifs
    · exact hn
    · exact hn.setStreaming hp on _

theorem new_installs {settings : Settings} {w w' : σ} {n : Node}
    (h : (Node.new settings).run w = (.ok n, w')) :
    ∃ b, ((install (HostClock.monotonic w)).run { settings, filters := settings.filters }).run w =
      ((.ok b, n), w') := by
  have hnew : (Node.new settings).run w =
      (fun r => (r.1.1.map fun _ => r.1.2, r.2))
        (((install (HostClock.monotonic w)).run { settings, filters := settings.filters }).run w) :=
    rfl
  rw [hnew] at h
  generalize ((install (HostClock.monotonic w)).run { settings, filters := settings.filters }).run
    w = r at h ⊢
  obtain ⟨⟨_ | b, n'⟩, w''⟩ := r
  · cases h
  · simp only [Except.map] at h
    cases h
    exact ⟨b, rfl⟩

end Laws

end Node

/-! ### Runs of switches and polls -/

/-- A call that switches streaming on or off, or polls the watchdog. -/
inductive Control where
  | setStreaming (on : Bool)
  | poll (now : Instant)

namespace Control

def toRequest : Control → Request
  | .setStreaming on => .setStreaming on
  | .poll now => .poll now

variable {σ : Type} [Provider σ] [Camera σ] [Publisher σ] [HostClock σ]

def serveAll (cs : List Control) : NodeM σ Unit := (cs.map toRequest).forM Request.serve

theorem unfired_serve (c : Control) {n : Node} (hn : n.Unfired) (w : σ) :
    ((c.toRequest.serve.run n).run w).1.2.Unfired := by
  cases c with
  | setStreaming on => exact Node.unfired_setStreaming hn on w
  | poll now => exact Node.unfired_pollWatchdog hn now w

theorem unfired_serveAll (cs : List Control) {n : Node} (hn : n.Unfired) (w : σ) :
    (((serveAll cs).run n).run w).1.2.Unfired := by
  induction cs generalizing n w with
  | nil => exact hn
  | cons c cs ih =>
    change (((c.toRequest.serve >>= fun _ => serveAll cs).run n).run w).1.2.Unfired
    rw [Node.run_bind]
    exact ih (unfired_serve c hn w) _

end Control

/-! ### Streaming control -/

section Sweeps

variable (σ : Type) [Provider σ] [Camera σ] [Publisher σ] [HostClock σ]

/-- How a node starts and stops its modules, in a world whose module calls `log` records. -/
structure StreamingSweeps (log : σ → List ModuleCall) : Prop where
  /-- A node made successfully holds its pipeline, if any, streaming with its watchdog armed
  one timeout after the world's monotonic instant, every module of it started once, in order. -/
  new : ∀ (settings : Settings) (w w' : σ) (n : Node), (Node.new settings).run w = (.ok n, w') →
    Node.StreamsSince (HostClock.monotonic w) n.pipeline ∧
      ∃ calls, log w' = log w ++ calls ∧ Node.StartsAll calls n.pipeline
  /-- No node that switches and polls reach from a node made successfully, in any worlds,
  holds a fired watchdog. -/
  reached : ∀ (settings : Settings) (w w' : σ) (n : Node),
    (Node.new settings).run w = (.ok n, w') →
    ∀ (cs : List Control) (w'' : σ), (((Control.serveAll cs).run n).run w'').1.2.Unfired
  /-- On such a node a switch calls every module once, in order, and reports exactly the
  failures (`Node.Switches`). -/
  switch : ∀ (n : Node) (w : σ) (on : Bool), n.Unfired → Node.Switches log n w on
  /-- A poll that fires stops every module of the old pipeline and starts every module of the
  new one (`Node.Polls`). -/
  poll : ∀ (n : Node) (w : σ) (now : Instant), Node.Polls log n w now
  /-- Dropping a node switches streaming off, the answer ignored. -/
  drop : ∀ (n : Node) (w : σ), (Node.shutdown.run n).run w =
    (((), (((Node.setStreaming false).run n).run w).1.2),
      (((Node.setStreaming false).run n).run w).2)

variable {σ}

/-- Streaming control never lets one failing module hide the others: in every world that logs
its module calls, whichever of them fail, every start and stop of streaming (by a switch, by
the installation of a new node, by the recovery of a poll that fires, or by dropping the node)
calls every module of the pipeline once, in order; a switch answers with exactly the failing
modules, in order, and switches the pipeline as if all had succeeded, and a switch to the state
the pipeline is in, or on a node without one, calls nothing. -/
theorem streaming_sweeps_every_module {log : σ → List ModuleCall}
    (hlog : LogsModuleCalls σ log) : StreamingSweeps σ log where
  new settings w w' n h := by
    obtain ⟨b, hb⟩ := Node.new_installs h
    have hstreams := Node.install_streams
      (n := { settings, filters := settings.filters }) rfl (HostClock.monotonic w) w
    have hstarts := Node.install_startsAll hlog
      (n := { settings, filters := settings.filters }) rfl (HostClock.monotonic w) w
    rw [hb] at hstreams hstarts
    exact ⟨hstreams, hstarts⟩
  reached settings w w' n h cs w'' := by
    obtain ⟨b, hb⟩ := Node.new_installs h
    have hstreams := Node.install_streams
      (n := { settings, filters := settings.filters }) rfl (HostClock.monotonic w) w
    rw [hb] at hstreams
    exact Control.unfired_serveAll cs hstreams.unfired w''
  switch _ w on hn := Node.switches hlog hn w on
  poll n w now := Node.polls hlog n w now
  drop := Node.shutdown_run

end Sweeps

/-! ### On the bench -/

namespace Bench

def moduleCall : BenchEvent → Option ModuleCall
  | .start m ok => some ⟨"start", m, outcome (!ok) "usb transfer failed"⟩
  | .stop m ok => some ⟨"stop", m, outcome (!ok) ("failed to stop " ++ m)⟩
  | _ => none

def moduleCalls (b : Bench) : List ModuleCall := b.events.filterMap moduleCall

theorem moduleCalls_record (e : BenchEvent) (b : Bench) :
    (b.record e).moduleCalls = b.moduleCalls ++ (moduleCall e).toList := by
  simp only [moduleCalls, events, record, List.reverse_cons, List.filterMap_append]
  cases h : moduleCall e <;> simp [h]

theorem logsModuleCalls : LogsModuleCalls Bench moduleCalls where
  acquire s b := by
    show (record _ _).moduleCalls = _
    rw [moduleCalls_record]
    simp only [moduleCall, Option.toList_none, List.append_nil]
    split <;> rfl
  openModule m ps b := by
    show (record _ b).moduleCalls = _
    rw [moduleCalls_record]
    simp [moduleCall]
  publish m b := by
    obtain ⟨device, attached, acquisitions, sinks, wall, monotonic, publisher, log⟩ := b
    cases publisher with
    | recorder names =>
      show (record _ _).moduleCalls = _
      rw [moduleCalls_record]
      simp [moduleCall]
    | counter counts => rfl
  start m k b := by
    show (record _ _).moduleCalls = _
    rw [moduleCalls_record]
    simp only [moduleCall, Bool.not_not, Option.toList_some]
    split
    · rfl
    · unfold addSink
      split <;> rfl
  stop m b := by
    show (record _ b).moduleCalls = _
    rw [moduleCalls_record]
    simp only [moduleCall, Bool.not_not, Option.toList_some]
    rfl

end Bench

/-- The bench logs its starts and stops, with whichever of them its script makes fail, so a
node on it starts and stops its modules as `StreamingSweeps` says. -/
theorem streaming_sweeps_on_bench :
    LogsModuleCalls Bench Bench.moduleCalls ∧ StreamingSweeps Bench Bench.moduleCalls :=
  ⟨Bench.logsModuleCalls, streaming_sweeps_every_module Bench.logsModuleCalls⟩

end Rgbd
