import Rgbd.Proofs.Recovery
import Rgbd.Proofs.Profiles

/-!
Looking for a missing device.

A node is searching when it has a pipeline or a time to look for its device again. An
installation on a node without a pipeline asks for the device once: without it, the node
looks again one watchdog timeout later; with it, the node is attached if the pipeline builds,
and left with neither a pipeline nor a time to look again if it does not (`searching_install`).
Deliveries, streaming switches and new filter toggles touch neither (`Lookout`), so serving a
command keeps a node searching exactly unless the command installs, finds the device and fails
to build (`Command.strands`).

A poll of a node without a pipeline asks for the device only at or after its time to look
again, and a search that misses the device moves that time one timeout past the poll, so the
polls of the next timeout change nothing. Main statement:
`detached_nodes_search_unless_builds_fail`, the laws of `Rediscovery`. A build that fails during
a recovery strands the node for good (`failed_rebuild_strands_node`).
-/

namespace Rgbd

namespace Node

def searching (n : Node) : Bool := n.isAttached || n.retryAt.isSome

def retryPassed (n : Node) (now : Instant) : Bool := n.retryAt.any fun due => decide (due ≤ now)

theorem searching_eq_false {n : Node} :
    n.searching = false ↔ n.pipeline = none ∧ n.retryAt = none := by
  simp [searching, isAttached, Option.isSome_eq_false_iff, Option.isNone_iff_eq_none]

/-! ### Computations that leave the search alone -/

section Lookout

variable {σ α β : Type}

/-- A node computation that leaves alone whether a pipeline is installed and when the node
looks for its device again. -/
def Lookout (x : NodeM σ α) : Prop :=
  ∀ n w, ((x.run n).run w).1.2.isAttached = n.isAttached ∧
    ((x.run n).run w).1.2.retryAt = n.retryAt

theorem Lookout.pure (a : α) : Lookout (Pure.pure a : NodeM σ α) := fun _ _ => ⟨rfl, rfl⟩

theorem Lookout.bind {x : NodeM σ α} {f : α → NodeM σ β} (hx : Lookout x)
    (hf : ∀ a, Lookout (f a)) : Lookout (x >>= f) := by
  intro n w
  rw [run_bind]
  obtain ⟨hatt, hretry⟩ := hx n w
  obtain ⟨hatt', hretry'⟩ := hf ((x.run n).run w).1.1 ((x.run n).run w).1.2 ((x.run n).run w).2
  exact ⟨hatt'.trans hatt, hretry'.trans hretry⟩

theorem lookout_get : Lookout (get : NodeM σ Node) := fun _ _ => ⟨rfl, rfl⟩

theorem lookout_inWorld (x : StateM σ α) : Lookout (inWorld x) := fun _ _ => ⟨rfl, rfl⟩

theorem Lookout.of_pipeline {x : NodeM σ α}
    (h : ∀ n w, ((x.run n).run w).1.2 = n ∨ ∃ p q, n.pipeline = some p ∧
      ((x.run n).run w).1.2 = { n with pipeline := some q }) : Lookout x := by
  intro n w
  rcases h n w with hn | ⟨p, q, hp, hn⟩
  · rw [hn]; exact ⟨rfl, rfl⟩
  · rw [hn]; exact ⟨by simp [isAttached, hp], rfl⟩

theorem lookout_streamingRequest : Lookout (σ := σ) streamingRequest :=
  Lookout.of_pipeline fun n w => .inl (by rw [streamingRequest_run])

theorem lookout_markStreaming (now : Instant) : Lookout (σ := σ) (markStreaming now) := by
  refine Lookout.of_pipeline fun n w => ?_
  rw [markStreaming_run]
  cases hp : n.pipeline with
  | none => exact .inl (by cases n; simp_all)
  | some p => exact .inr ⟨p, _, rfl, rfl⟩

theorem lookout_ingest [Publisher σ] [HostClock σ] (g : Nat) (d : Delivery) :
    Lookout (σ := σ) (ingest g d) := by
  refine Lookout.of_pipeline fun n w => ?_
  rw [ingest_run]
  cases hp : n.pipeline with
  | none => exact .inl rfl
  | some p =>
    dsimp only
    split
    · exact .inr ⟨p, _, rfl, rfl⟩
    · exact .inl rfl

theorem lookout_stopRequest [HostClock σ] : Lookout (σ := σ) stopRequest := by
  refine Lookout.of_pipeline fun n w => ?_
  rw [stopRequest_run]
  cases hp : n.pipeline with
  | none => exact .inl rfl
  | some p =>
    dsimp only
    split
    · exact .inr ⟨p, _, rfl, rfl⟩
    · exact .inl rfl

theorem lookout_configureInstalled (f : FilterSettings) :
    Lookout (σ := σ) (configureInstalled f) := by
  refine Lookout.of_pipeline fun n w => ?_
  unfold configureInstalled
  cases hp : n.pipeline with
  | none =>
    simp only [run_bind, run_get, hp]
    cases f.validate <;> exact .inl rfl
  | some p =>
    simp only [run_bind, run_get, hp]
    cases p.configureFilters f with
    | ok q => exact .inr ⟨p, q, rfl, rfl⟩
    | error e => exact .inl rfl

theorem lookout_storeFilters (f : FilterSettings) : Lookout (σ := σ) (storeFilters f) :=
  fun _ _ => ⟨rfl, rfl⟩

theorem lookout_startStreaming [Camera σ] (now : Instant) :
    Lookout (σ := σ) (startStreaming now) := by
  unfold startStreaming
  refine Lookout.bind lookout_streamingRequest fun r => ?_
  split
  · refine Lookout.bind (lookout_inWorld _) fun _ => Lookout.bind lookout_get fun _ => ?_
    dsimp only
    split
    · exact Lookout.bind (lookout_markStreaming now) fun _ => Lookout.pure _
    · exact Lookout.pure _
  · exact Lookout.pure _

theorem lookout_stopStreaming [Camera σ] [HostClock σ] : Lookout (σ := σ) stopStreaming := by
  unfold stopStreaming
  refine Lookout.bind lookout_stopRequest fun r => ?_
  split
  · exact Lookout.bind (lookout_inWorld _) fun _ => Lookout.pure _
  · exact Lookout.pure _

theorem lookout_deliver [Publisher σ] [HostClock σ] (g : Nat) (d : Delivery) :
    Lookout (σ := σ) (deliver g d) :=
  Lookout.bind (lookout_ingest g d) fun _ => Lookout.pure ()

theorem lookout_setStreaming [Provider σ] [Camera σ] [Publisher σ] [HostClock σ] (on : Bool) :
    Lookout (σ := σ) (setStreaming on) := by
  unfold setStreaming
  split
  · exact Lookout.bind (lookout_inWorld _) fun w => lookout_startStreaming _
  · exact lookout_stopStreaming

theorem lookout_configureFilters [HostClock σ] (f : FilterSettings) :
    Lookout (σ := σ) (configureFilters f) := by
  unfold configureFilters
  refine Lookout.bind (lookout_configureInstalled f) fun r => ?_
  split
  · exact Lookout.bind (lookout_storeFilters f) fun _ => Lookout.pure _
  · exact Lookout.pure _

end Lookout

/-! ### Installing and polling -/

section Installing

variable {σ : Type} [Provider σ] [Camera σ] [Publisher σ]

def buildFails (n : Node) (w : σ) : Bool :=
  ((Provider.acquire n.settings.serialNo).run w).1 &&
    !((Pipeline.build { n.settings with filters := n.filters }).run.run
      ((Provider.acquire n.settings.serialNo).run w).2).1.isOk

theorem install_attached {n : Node} (hn : n.isAttached = true) (now : Instant) (w : σ) :
    ((install now).run n).run w = ((.ok true, n), w) := by
  unfold install
  simp only [run_bind, run_get, hn, if_true]
  rfl

/-- Installing on a node without a pipeline leaves it searching exactly unless it finds the
device and fails to build. -/
theorem searching_install [HostClock σ] {n : Node} (hn : n.pipeline = none) (now : Instant)
    (w : σ) :
    (((install now).run n).run w).1.2.searching = !n.buildFails w := by
  rw [install_detached hn]
  unfold buildFails
  generalize (Provider.acquire n.settings.serialNo).run w = a
  obtain ⟨_ | _, w₁⟩ := a
  · simp [searching, isAttached, hn]
  · dsimp only
    generalize (Pipeline.build { n.settings with filters := n.filters }).run.run w₁ = b
    obtain ⟨_ | p, w₂⟩ := b
    · simp [searching, isAttached, hn, Except.isOk, Except.toBool]
    · obtain ⟨hatt, -⟩ := lookout_startStreaming now
        { n with retryAt := none, generation := n.generation + 1, pipeline := some p }
        ((p.staticPublications.forM Publisher.publish).run w₂).2
      simp only [if_true, searching, Except.isOk, Except.toBool, Bool.not_true, Bool.and_false,
        Bool.not_false]
      rw [hatt]
      rfl

theorem isOk_install {n : Node} (hn : n.pipeline = none) (now : Instant) (w : σ) :
    (((install now).run n).run w).1.1.isOk = !n.buildFails w := by
  rw [install_detached hn]
  unfold buildFails
  generalize (Provider.acquire n.settings.serialNo).run w = a
  obtain ⟨_ | _, w₁⟩ := a
  · rfl
  · dsimp only
    generalize (Pipeline.build { n.settings with filters := n.filters }).run.run w₁ = b
    obtain ⟨_ | p, w₂⟩ := b <;> rfl

theorem install_missing {n : Node} (hn : n.pipeline = none) {now : Instant} {w : σ}
    (hmiss : ((Provider.acquire n.settings.serialNo).run w).1 = false) :
    (((install now).run n).run w).1.2 =
      { n with retryAt := some (now.add n.settings.watchdogTimeout) } := by
  rw [install_detached hn]
  simp only [hmiss, Bool.false_eq_true, if_false]

theorem pollWatchdog_detached {n : Node} (hn : n.pipeline = none) (now : Instant) (w : σ) :
    ((pollWatchdog now).run n).run w =
      if n.retryPassed now then
        ((((((install now).run n).run w).1.1.toOption.getD false,
          (((install now).run n).run w).1.2), (((install now).run n).run w).2))
      else ((false, n), w) := by
  unfold pollWatchdog rediscover retryDue retryPassed
  rw [run_bind, pollPipeline_run, hn]
  dsimp only
  rw [run_bind, run_bind, run_get]
  cases hr : n.retryAt with
  | none => simp only [Option.any_none, Bool.false_eq_true, if_false]; rfl
  | some due =>
    by_cases hdue : due ≤ now
    · simp only [Option.any_some, decide_eq_true hdue, if_true]
      rfl
    · simp only [Option.any_some, decide_eq_false hdue, Bool.false_eq_true, if_false]
      rfl

theorem pollWatchdog_early {n : Node} (hn : n.pipeline = none) {now : Instant}
    (hearly : n.retryPassed now = false) (w : σ) :
    ((pollWatchdog now).run n).run w = ((false, n), w) := by
  rw [pollWatchdog_detached hn, hearly]
  rfl

theorem pollWatchdog_due {trace : σ → List Call} (ht : Traces σ trace) {n : Node}
    (hn : n.pipeline = none) {now : Instant} (hdue : n.retryPassed now = true) (w : σ) :
    trace (((pollWatchdog now).run n).run w).2 = trace w ++ [.acquire] ∧
      (((Provider.acquire n.settings.serialNo).run w).1 = false →
        (((pollWatchdog now).run n).run w).1.2 =
          { n with retryAt := some (now.add n.settings.watchdogTimeout) }) := by
  rw [pollWatchdog_detached hn, hdue, if_pos rfl]
  exact ⟨(install_detached_spec ht hn now w).1, install_missing hn⟩

theorem retryPassed_rescheduled (n : Node) {now t : Instant} (T : Duration)
    (ht : t.nanos < now.nanos + T.nanos) :
    ({ n with retryAt := some (now.add T) } : Node).retryPassed t = false := by
  simp only [retryPassed, Option.any_some, decide_eq_false_iff_not]
  show ¬now.nanos + T.nanos ≤ t.nanos
  omega

end Installing

/-! ### Commands -/

/-- A call a node serves: a delivery through a sink of some generation, a poll of the
watchdog, a reacquisition, streaming switched on or off, or new filter toggles. -/
inductive Command where
  | deliver (generation : Nat) (d : Delivery)
  | poll (now : Instant)
  | reacquire
  | setStreaming (on : Bool)
  | configureFilters (f : FilterSettings)

namespace Command

variable {σ : Type} [Provider σ] [Camera σ] [Publisher σ] [HostClock σ]

def serve : Command → NodeM σ Unit
  | .deliver g d => Node.deliver g d
  | .poll now => do let _ ← pollWatchdog now
  | .reacquire => do let _ ← Node.reacquire
  | .setStreaming on => do let _ ← Node.setStreaming on
  | .configureFilters f => do let _ ← Node.configureFilters f

def serveAll (cs : List Command) : NodeM σ Unit := cs.forM serve

def after (c : Command) (n : Node) (w : σ) : Node := ((c.serve.run n).run w).1.2

/-- Whether serving a command installs on a node without a pipeline, finds the device and
fails to build: a poll that fires the watchdog and whose recovery fails so, a poll past the
retry time of a node without a pipeline, or a reacquisition of a node without one. -/
def strands : Command → Node → σ → Bool
  | .poll now, n, w =>
    match n.pipeline with
    | some p =>
      (p.watchdog.poll now).1 && buildFails { n with pipeline := none } (p.stopModules.run w).2
    | none => n.retryPassed now && n.buildFails w
  | .reacquire, n, w => !n.isAttached && n.buildFails w
  | _, _, _ => false

theorem after_poll_detached {n : Node} (hn : n.pipeline = none) (now : Instant) (w : σ) :
    (Command.poll now).after n w =
      if n.retryPassed now then (((install now).run n).run w).1.2 else n := by
  unfold after serve
  rw [run_bind, pollWatchdog_detached hn]
  split <;> rfl

theorem searching_of_lookout (c : Command) (hc : Lookout (σ := σ) c.serve) {n : Node}
    (hs : n.searching = true) (w : σ) : (c.after n w).searching = true := by
  obtain ⟨hatt, hretry⟩ := hc n w
  simp only [after, searching, hatt, hretry]
  exact hs

theorem searching_after (c : Command) {n : Node} (hs : n.searching = true) (w : σ) :
    (c.after n w).searching = !c.strands n w := by
  cases c with
  | deliver g d => exact searching_of_lookout (.deliver g d) (lookout_deliver g d) hs w
  | setStreaming on =>
    exact searching_of_lookout (.setStreaming on)
      (Lookout.bind (lookout_setStreaming on) fun _ => Lookout.pure ()) hs w
  | configureFilters f =>
    exact searching_of_lookout (.configureFilters f)
      (Lookout.bind (lookout_configureFilters f) fun _ => Lookout.pure ()) hs w
  | reacquire =>
    simp only [after, serve, strands, Node.reacquire, run_bind, run_world, run_pure]
    cases hp : n.pipeline with
    | none =>
      have hatt : n.isAttached = false := by simp [isAttached, hp]
      rw [searching_install hp, hatt]
      rfl
    | some p =>
      have hatt : n.isAttached = true := by simp [isAttached, hp]
      rw [install_attached hatt, hatt]
      exact hs
  | poll now =>
    cases hp : n.pipeline with
    | none =>
      rw [after_poll_detached hp]
      simp only [strands, hp]
      cases hdue : n.retryPassed now with
      | true =>
        rw [if_pos rfl, searching_install hp]
        rfl
      | false =>
        rw [if_neg Bool.false_ne_true]
        exact hs
    | some P =>
      simp only [strands, hp]
      cases hf : (P.watchdog.poll now).1 with
      | false =>
        simp only [after, serve, run_bind, pollWatchdog_quiet hp hf]
        exact hs
      | true =>
        simp only [after, serve, run_bind, pollWatchdog_fired hp hf]
        exact searching_install (n := { n with pipeline := none }) rfl now _

theorem after_strands (c : Command) {n : Node} (hs : n.searching = true) (w : σ) :
    (c.strands n w = false → (c.after n w).searching = true) ∧
      (c.strands n w = true → (c.after n w).pipeline = none ∧ (c.after n w).retryAt = none) := by
  rw [← searching_eq_false, searching_after c hs w]
  cases c.strands n w <;> simp

variable (σ) in
/-- The nodes a node reaches by serving commands, each in a world of its own, none of which
strands it. -/
inductive Reaches : Node → Node → Prop
  | refl (n : Node) : Reaches n n
  | serve {n n' : Node} (c : Command) (w : σ) :
      Reaches n n' → c.strands n' w = false → Reaches n (c.after n' w)

theorem Reaches.searching {n n' : Node} (h : Reaches σ n n') (hs : n.searching = true) :
    n'.searching = true := by
  induction h with
  | refl => exact hs
  | serve c w _ hc ih => exact (after_strands (σ := σ) c ih w).1 hc

end Command

/-! ### Searching again -/

section Polls

variable {σ : Type} [Provider σ] [Camera σ] [Publisher σ] [HostClock σ]

theorem searching_new {settings : Settings} {w w' : σ} {n : Node}
    (h : (Node.new settings).run w = (.ok n, w')) : n.searching = true := by
  have hfresh : ({ settings, filters := settings.filters } : Node).pipeline = none := rfl
  have hnew : (Node.new settings).run w =
      (((((install (HostClock.monotonic w)).run { settings, filters := settings.filters }).run
        w).1.1.map fun _ => (((install (HostClock.monotonic w)).run
          { settings, filters := settings.filters }).run w).1.2),
        (((install (HostClock.monotonic w)).run { settings, filters := settings.filters }).run
          w).2) := rfl
  rw [hnew] at h
  have hok := isOk_install hfresh (HostClock.monotonic w) w
  rw [← searching_install hfresh (HostClock.monotonic w) w] at hok
  generalize ((install (HostClock.monotonic w)).run { settings, filters := settings.filters }).run
    w = r at h hok
  obtain ⟨⟨_ | _, n'⟩, w''⟩ := r
  · cases h
  · simp only [Except.map] at h
    cases h
    exact hok.symm

namespace Command

theorem serveAll_cons (c : Command) (cs : List Command) :
    (serveAll (c :: cs) : NodeM σ Unit) = c.serve >>= fun _ => serveAll cs := rfl

theorem serveAll_early_polls {n : Node} (hn : n.pipeline = none) (ts : List Instant)
    (hts : ∀ t ∈ ts, n.retryPassed t = false) (w : σ) :
    ((serveAll (ts.map .poll)).run n).run w = (((), n), w) := by
  induction ts with
  | nil => rfl
  | cons t ts ih =>
    have hrest := ih fun t' ht' => hts t' (List.mem_cons_of_mem t ht')
    simp only [List.map_cons, serveAll_cons, serve, run_bind,
      pollWatchdog_early hn (hts t List.mem_cons_self) w, run_pure]
    exact hrest

theorem serveAll_polls_after_miss {n : Node} (hn : n.pipeline = none) {now : Instant}
    (hdue : n.retryPassed now = true) {w : σ}
    (hmiss : ((Provider.acquire n.settings.serialNo).run w).1 = false) (ts : List Instant)
    (hts : ∀ t ∈ ts, t.nanos < now.nanos + n.settings.watchdogTimeout.nanos) (w' : σ) :
    ((serveAll (ts.map .poll)).run (((pollWatchdog now).run n).run w).1.2).run w' =
      (((), (((pollWatchdog now).run n).run w).1.2), w') := by
  have hmissed : (((pollWatchdog now).run n).run w).1.2 =
      { n with retryAt := some (now.add n.settings.watchdogTimeout) } := by
    rw [pollWatchdog_detached hn, hdue, if_pos rfl]
    exact install_missing hn hmiss
  rw [hmissed]
  exact serveAll_early_polls (n := { n with retryAt := some (now.add _) }) hn ts
    (fun t ht => retryPassed_rescheduled n _ (hts t ht)) w'

end Command

end Polls

end Node

/-! ### Rediscovery -/

section Rediscovery

variable (σ : Type) [Provider σ] [Camera σ] [Publisher σ] [HostClock σ]

/-- How a node looks for a missing device, in a world whose acquisitions `trace` records. -/
structure Rediscovery (trace : σ → List Call) : Prop where
  /-- A node made successfully has a pipeline or a time to look for its device again. -/
  new : ∀ (settings : Settings) (w w' : σ) (n : Node),
    (Node.new settings).run w = (.ok n, w') → n.searching = true
  /-- Serving a command keeps a searching node searching unless the command strands it: it
  installs, finds the device and fails to build, which leaves the node with neither a pipeline
  nor a time to look again. -/
  serve : ∀ (c : Node.Command) (n : Node) (w : σ), n.searching = true →
    (c.strands n w = false → (c.after n w).searching = true) ∧
      (c.strands n w = true → (c.after n w).pipeline = none ∧ (c.after n w).retryAt = none)
  /-- So every node reached from a searching one by commands that strand nothing searches. -/
  reaches : ∀ n n' : Node, Node.Command.Reaches σ n n' → n.searching = true →
    n'.searching = true
  /-- A poll of a node without a pipeline before its retry time changes nothing. -/
  early : ∀ (n : Node) (now : Instant) (w : σ), n.pipeline = none →
    n.retryPassed now = false → ((Node.pollWatchdog now).run n).run w = ((false, n), w)
  /-- One at or after it asks for the device once; without the device, the node looks again
  one watchdog timeout after the poll. -/
  due : ∀ (n : Node) (now : Instant) (w : σ), n.pipeline = none → n.retryPassed now = true →
    trace (((Node.pollWatchdog now).run n).run w).2 = trace w ++ [.acquire] ∧
      (((Provider.acquire n.settings.serialNo).run w).1 = false →
        (((Node.pollWatchdog now).run n).run w).1.2 =
          { n with retryAt := some (now.add n.settings.watchdogTimeout) })
  /-- So after a search that misses the device, the polls of the next timeout change nothing,
  in any world. -/
  spaced : ∀ (n : Node) (now : Instant) (w : σ), n.pipeline = none → n.retryPassed now = true →
    ((Provider.acquire n.settings.serialNo).run w).1 = false →
    ∀ (ts : List Instant) (w' : σ),
      (∀ t ∈ ts, t.nanos < now.nanos + n.settings.watchdogTimeout.nanos) →
      ((Node.Command.serveAll (ts.map .poll)).run
          (((Node.pollWatchdog now).run n).run w).1.2).run w' =
        (((), (((Node.pollWatchdog now).run n).run w).1.2), w')

variable {σ}

/-- A node looks for a missing device as `Rediscovery` says, in every world whose acquisitions
a trace records: it keeps searching unless a build fails after the device was found. -/
theorem detached_nodes_search_unless_builds_fail {trace : σ → List Call} (ht : Traces σ trace) :
    Rediscovery σ trace where
  new _ _ _ _ h := Node.searching_new h
  serve c _ w hs := Node.Command.after_strands c hs w
  reaches _ _ h hs := h.searching hs
  early _ _ w hn h := Node.pollWatchdog_early hn h w
  due _ _ w hn h := Node.pollWatchdog_due ht hn h w
  spaced _ _ _ hn hdue hmiss ts w' hts :=
    Node.Command.serveAll_polls_after_miss hn hdue hmiss ts hts w'

end Rediscovery

/-- The bench traces its acquisitions, so a node on it looks for a missing device as
`Rediscovery` says. -/
theorem detached_nodes_search_on_bench :
    Traces Bench Bench.calls ∧ Rediscovery Bench Bench.calls :=
  ⟨Bench.traces, detached_nodes_search_unless_builds_fail Bench.traces⟩

open Pipeline (oneDepthSettings oneDepthBench) in
/-- A rebuild that fails strands a node. On the one-pixel bench, a node made attached whose
device then stops reporting its depth scale is torn down by the poll that fires its watchdog,
and left with neither a pipeline nor a time to look again: no later poll, in any world, asks
for the device. -/
theorem failed_rebuild_strands_node :
    ∃ n w, (Node.new oneDepthSettings).run oneDepthBench = (.ok n, w) ∧ n.isAttached = true ∧
      let broken : Bench := { w with device := { w.device with fail := { depthScale := true } } }
      let stranded := (Node.Command.poll ⟨31000000000⟩).after n broken
      stranded.pipeline = none ∧ stranded.retryAt = none ∧
      ∀ (now : Instant) (w' : Bench),
        ((Node.pollWatchdog now).run stranded).run w' = ((false, stranded), w') := by
  have hrun : (((Node.new oneDepthSettings).run oneDepthBench).1.toOption.any fun n =>
      n.isAttached && (Node.Command.poll ⟨31000000000⟩).strands n
        { ((Node.new oneDepthSettings).run oneDepthBench).2 with
          device := { ((Node.new oneDepthSettings).run oneDepthBench).2.device with
            fail := { depthScale := true } } }) = true := by decide +kernel
  generalize (Node.new oneDepthSettings).run oneDepthBench = made at hrun ⊢
  obtain ⟨_ | n, w⟩ := made
  · simp [Except.toOption] at hrun
  · simp only [Except.toOption, Option.any_some, Bool.and_eq_true] at hrun
    obtain ⟨hatt, hstrand⟩ := hrun
    have hs : n.searching = true := by simp [Node.searching, hatt]
    obtain ⟨hpipe, hretry⟩ := (Node.Command.after_strands _ hs _).2 hstrand
    refine ⟨n, w, rfl, hatt, hpipe, hretry, fun now w' => ?_⟩
    exact Node.pollWatchdog_early hpipe (by simp [Node.retryPassed, hretry]) w'

end Rgbd
