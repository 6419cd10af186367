import Rgbd.Proofs.Rediscovery

/-!
Deadlines of a node and the instants a host can represent.

A node computes a deadline in two places: it arms the watchdog of its pipeline when streaming
starts or a dispatch stores a frame, and it schedules the next search for a missing device.
Both add the watchdog timeout of its settings to an instant the node was handed: the instant
of a poll, the host's monotonic clock when the node is made, reacquires or starts streaming,
or the clock as each dispatch that stores a frame reads it (`Command.instants`). Every command
keeps the deadlines one timeout after such instants (`Node.Deadlined`,
`Command.deadlined_after`), so along any run every deadline is one timeout after an instant
the run handed to the node (`deadlines_from_handed_instants`).

The host aborts when such a sum lies past the instants it can represent. A timeout is any
duration below `2⁶⁴` seconds, beyond the `2⁶³` seconds an instant can reach, so a node stays in
range exactly as long as every instant handed to it lies one timeout before that end
(`deadlines_stay_in_range`); a timeout of `10¹⁹` seconds overflows the first deadline
(`huge_timeout_overflows_deadline`).
-/

namespace Rgbd

/-! ### Watchdogs armed from allowed instants -/

namespace Watchdog

/-- A watchdog with timeout `T` that, when armed, waits one timeout after an instant `S`
allows. -/
def ArmedFrom (S : Instant → Prop) (T : Duration) (w : Watchdog) : Prop :=
  w.timeout = T ∧ ∀ d, w.state = .armed d → ∃ t, S t ∧ d = t.add T

variable {S : Instant → Prop} {T : Duration} {w : Watchdog}

theorem armedFrom_fresh : ({ timeout := T } : Watchdog).ArmedFrom S T :=
  ⟨rfl, fun _ hs => nomatch hs⟩

theorem ArmedFrom.arm (h : w.ArmedFrom S T) {t : Instant} (ht : S t) :
    (w.arm t).ArmedFrom S T := by
  unfold Watchdog.arm
  split
  · exact h
  · refine ⟨h.1, fun d hs => ⟨t, ht, ?_⟩⟩
    injection hs with hs
    rw [← hs, h.1]

theorem ArmedFrom.rearm (h : w.ArmedFrom S T) {t : Instant} (ht : S t) :
    (w.rearm t).ArmedFrom S T := by
  unfold Watchdog.rearm
  split
  · exact h.arm ht
  · exact h

theorem ArmedFrom.disarm (h : w.ArmedFrom S T) : w.disarm.ArmedFrom S T := by
  unfold Watchdog.disarm
  split
  · exact h
  · exact ⟨h.1, fun _ hs => nomatch hs⟩

theorem ArmedFrom.run_feeds (h : w.ArmedFrom S T) {ts : List Instant} (hts : ∀ t ∈ ts, S t) :
    (w.run (ts.map .feed)).ArmedFrom S T := by
  induction ts generalizing w with
  | nil => exact h
  | cons t ts ih =>
    exact ih ((h.rearm (hts t List.mem_cons_self))) fun t' ht' =>
      hts t' (List.mem_cons_of_mem t ht')

theorem ArmedFrom.poll (h : w.ArmedFrom S T) (now : Instant) : (w.poll now).2.ArmedFrom S T := by
  unfold Watchdog.poll
  split
  · split
    · exact ⟨h.1, fun _ hs => nomatch hs⟩
    · exact h
  · exact h

end Watchdog

theorem Pipeline.configureFilters_watchdog {p q : Pipeline} {f : FilterSettings}
    (h : p.configureFilters f = .ok q) : q.watchdog = p.watchdog := by
  unfold Pipeline.configureFilters at h
  split at h
  · cases h
    rfl
  · cases h

/-! ### Nodes whose deadlines come from allowed instants -/

namespace Node

theorem mem_deadlines {n : Node} {d : Instant} :
    d ∈ n.deadlines ↔
      n.retryAt = some d ∨ ∃ p, n.pipeline = some p ∧ p.watchdog.state = .armed d := by
  unfold deadlines watchdogState
  cases hp : n.pipeline with
  | none => simp
  | some p => cases hs : p.watchdog.state <;> simp [hs, eq_comm]

theorem overflowed_eq_false_iff {n : Node} :
    n.overflowed = false ↔ ∀ d ∈ n.deadlines, d.isRepresentable = true := by
  simp [overflowed]

/-- A node whose deadlines lie one watchdog timeout of its settings after instants `S`
allows, and whose pipeline's watchdog counts that timeout. -/
structure Deadlined (S : Instant → Prop) (n : Node) : Prop where
  retry : ∀ d, n.retryAt = some d → ∃ t, S t ∧ d = t.add n.settings.watchdogTimeout
  watchdog : ∀ p, n.pipeline = some p → p.watchdog.ArmedFrom S n.settings.watchdogTimeout

namespace Deadlined

variable {S : Instant → Prop} {n : Node}

theorem of_eq (h : n.Deadlined S) {n' : Node} (hr : n'.retryAt = n.retryAt)
    (hp : n'.pipeline = n.pipeline) (hs : n'.settings = n.settings) : n'.Deadlined S := by
  refine ⟨fun d hd => ?_, fun p hq => ?_⟩
  · rw [hs]
    exact h.retry d (hr ▸ hd)
  · rw [hs]
    exact h.watchdog p (hp ▸ hq)

theorem with_pipeline (h : n.Deadlined S) {q : Pipeline}
    (hq : q.watchdog.ArmedFrom S n.settings.watchdogTimeout) :
    ({ n with pipeline := some q } : Node).Deadlined S :=
  ⟨h.retry, fun _ hp => Option.some.inj hp ▸ hq⟩

theorem without_pipeline (h : n.Deadlined S) : ({ n with pipeline := none } : Node).Deadlined S :=
  ⟨h.retry, fun _ hp => nomatch hp⟩

theorem with_retry (h : n.Deadlined S) {t : Instant} (ht : S t) :
    ({ n with retryAt := some (t.add n.settings.watchdogTimeout) } : Node).Deadlined S :=
  ⟨fun _ hd => ⟨t, ht, (Option.some.inj hd).symm⟩, h.watchdog⟩

theorem without_retry (h : n.Deadlined S) : ({ n with retryAt := none } : Node).Deadlined S :=
  ⟨fun _ hd => (nomatch hd), h.watchdog⟩

theorem exists_of_mem (h : n.Deadlined S) {d : Instant} (hd : d ∈ n.deadlines) :
    ∃ t, S t ∧ d = t.add n.settings.watchdogTimeout := by
  rcases mem_deadlines.1 hd with hr | ⟨p, hp, hs⟩
  · exact h.retry d hr
  · exact (h.watchdog p hp).2 d hs

end Deadlined

/-! ### What each operation does to the deadlines -/

section Steps

variable {σ : Type} [Provider σ] [Camera σ] [Publisher σ] [HostClock σ] {S : Instant → Prop}
  {n : Node}

omit [HostClock σ] in
theorem install_deadlined (h : n.Deadlined S) {now : Instant} (hnow : S now) (w : σ) :
    (((install now).run n).run w).1.2.settings = n.settings ∧
      (((install now).run n).run w).1.2.Deadlined S := by
  cases hp : n.pipeline with
  | some p =>
    rw [install_attached (by simp [isAttached, hp])]
    exact ⟨rfl, h⟩
  | none =>
    rw [install_detached hp]
    have hfresh := Pipeline.build_fresh (σ := σ) { n.settings with filters := n.filters }
    generalize (Provider.acquire n.settings.serialNo).run w = a
    obtain ⟨_ | _, w₁⟩ := a
    · exact ⟨rfl, h.with_retry hnow⟩
    · dsimp only
      generalize hb : (Pipeline.build { n.settings with filters := n.filters }).run.run w₁ = b
      obtain ⟨_ | p, w₂⟩ := b
      · exact ⟨rfl, h.without_retry⟩
      · obtain ⟨hdog, hidle⟩ := hfresh w₁ p w₂ hb
        have hstart := startStreaming_idle
          (n := { n with retryAt := none, generation := n.generation + 1, pipeline := some p })
          rfl hidle now ((p.staticPublications.forM Publisher.publish).run w₂).2
        dsimp only
        rw [hstart]
        have harmed : (p.setStreaming true now).watchdog.ArmedFrom S n.settings.watchdogTimeout := by
          show (p.watchdog.arm now).ArmedFrom S _
          rw [hdog]
          exact Watchdog.armedFrom_fresh.arm hnow
        exact ⟨rfl, h.without_retry.with_pipeline harmed |>.of_eq rfl rfl rfl⟩

omit [HostClock σ] in
theorem pollWatchdog_deadlined (h : n.Deadlined S) {now : Instant} (hnow : S now) (w : σ) :
    (((pollWatchdog now).run n).run w).1.2.settings = n.settings ∧
      (((pollWatchdog now).run n).run w).1.2.Deadlined S := by
  cases hp : n.pipeline with
  | some P =>
    cases hf : (P.watchdog.poll now).1 with
    | false =>
      rw [pollWatchdog_quiet hp hf]
      exact ⟨rfl, h⟩
    | true =>
      rw [pollWatchdog_fired hp hf]
      exact install_deadlined h.without_pipeline hnow _
  | none =>
    rw [pollWatchdog_detached hp]
    split
    · exact install_deadlined h hnow w
    · exact ⟨rfl, h⟩

omit [Provider σ] [Camera σ] in
theorem ingest_deadlined (h : n.Deadlined S) {p : Pipeline} (hp : n.pipeline = some p) {w : σ}
    {g : Nat} {d : Delivery} (hnow : n.generation = g → ∀ t ∈ p.feedReadings d w, S t) :
    (((ingest g d).run n).run w).1.2.settings = n.settings ∧
      (((ingest g d).run n).run w).1.2.Deadlined S := by
  rw [ingest_run, hp]
  dsimp only
  split
  · rename_i hg
    refine ⟨rfl, h.with_pipeline ?_⟩
    rw [Pipeline.ingest_watchdog]
    exact (h.watchdog p hp).run_feeds (hnow hg)
  · exact ⟨rfl, h⟩

omit [Provider σ] [Camera σ] in
theorem ingest_detached (h : n.Deadlined S) (hp : n.pipeline = none) (w : σ) (g : Nat)
    (d : Delivery) :
    (((ingest g d).run n).run w).1.2.settings = n.settings ∧
      (((ingest g d).run n).run w).1.2.Deadlined S := by
  rw [ingest_run, hp]
  exact ⟨rfl, h⟩

omit [Provider σ] [Publisher σ] [HostClock σ] in
theorem startStreaming_deadlined (h : n.Deadlined S) {now : Instant} (hnow : S now) (w : σ) :
    (((startStreaming now).run n).run w).1.2.settings = n.settings ∧
      (((startStreaming now).run n).run w).1.2.Deadlined S := by
  cases hp : n.pipeline with
  | none =>
    unfold startStreaming
    rw [run_bind, streamingRequest_run, hp]
    exact ⟨rfl, h⟩
  | some p =>
    cases hs : p.streaming with
    | false =>
      rw [startStreaming_idle hp hs]
      exact ⟨rfl, h.with_pipeline ((h.watchdog p hp).arm hnow)⟩
    | true =>
      rw [startStreaming_streaming hp hs]
      exact ⟨rfl, h⟩

omit [Provider σ] [Publisher σ] in
theorem stopStreaming_deadlined (h : n.Deadlined S) (w : σ) :
    ((stopStreaming.run n).run w).1.2.settings = n.settings ∧
      ((stopStreaming.run n).run w).1.2.Deadlined S := by
  unfold stopStreaming
  rw [run_bind, stopRequest_run]
  cases hp : n.pipeline with
  | none => exact ⟨rfl, h⟩
  | some p =>
    dsimp only
    cases hs : p.streaming with
    | false => exact ⟨rfl, h⟩
    | true => exact ⟨rfl, h.with_pipeline (h.watchdog p hp).disarm⟩

omit [Provider σ] [Camera σ] [Publisher σ] [HostClock σ] in
theorem configureFilters_deadlined (h : n.Deadlined S) (f : FilterSettings) (w : σ) :
    (((configureFilters f).run n).run w).1.2.settings = n.settings ∧
      (((configureFilters f).run n).run w).1.2.Deadlined S := by
  unfold configureFilters configureInstalled
  cases hp : n.pipeline with
  | none =>
    simp only [run_bind, run_get, hp]
    cases f.validate with
    | ok u => exact ⟨rfl, h.of_eq rfl rfl rfl⟩
    | error e => exact ⟨rfl, h⟩
  | some p =>
    simp only [run_bind, run_get, hp]
    cases hq : p.configureFilters f with
    | ok q =>
      have hdog := Pipeline.configureFilters_watchdog hq
      exact ⟨rfl, h.with_pipeline (hdog ▸ h.watchdog p hp) |>.of_eq rfl rfl rfl⟩
    | error e => exact ⟨rfl, h⟩

end Steps

/-! ### Commands and runs -/

namespace Command

variable {σ : Type} [Provider σ] [Camera σ] [Publisher σ] [HostClock σ] {S : Instant → Prop}

/-- The instants serving a command in world `w` hands to node `n`: a poll's own instant; the
host's clock as each dispatch of a delivery that stores a frame reads it; the host's clock when
it reacquires or starts streaming. Stopping and new filter toggles set no deadline. -/
def instants (c : Command) (n : Node) (w : σ) : List Instant :=
  match c with
  | .poll now => [now]
  | .deliver g d =>
    match n.pipeline with
    | some p => if n.generation = g then p.feedReadings d w else []
    | none => []
  | .reacquire | .setStreaming true => [HostClock.monotonic w]
  | .setStreaming false | .configureFilters _ => []

/-- Serving a command keeps the settings and adds at most deadlines one timeout after the
instants it hands to the node. -/
theorem deadlined_after (c : Command) {n : Node} (h : n.Deadlined S) (w : σ)
    (hnow : ∀ t ∈ c.instants n w, S t) :
    (c.after n w).settings = n.settings ∧ (c.after n w).Deadlined S := by
  cases c with
  | deliver g d =>
    cases hp : n.pipeline with
    | none => exact ingest_detached h hp w g d
    | some p =>
      refine ingest_deadlined h hp fun hg t ht => hnow t ?_
      simpa [instants, hp, hg] using ht
  | poll now => exact pollWatchdog_deadlined h (hnow now List.mem_cons_self) w
  | reacquire => exact install_deadlined h (hnow _ List.mem_cons_self) w
  | setStreaming on =>
    cases on with
    | true => exact startStreaming_deadlined h (hnow _ List.mem_cons_self) w
    | false => exact stopStreaming_deadlined h w
  | configureFilters f => exact configureFilters_deadlined h f w

def afterAll (cs : List (Command × σ)) (n : Node) : Node :=
  cs.foldl (fun n cw => cw.1.after n cw.2) n

/-- The instants commands served in turn hand to a node, each command in the node the ones
before it left. -/
def instantsAll : List (Command × σ) → Node → List Instant
  | [], _ => []
  | (c, w) :: cs, n => c.instants n w ++ instantsAll cs (c.after n w)

/-- The instants a run hands to a node made in world `w`: the host's clock when it is made,
then the instants of each command. -/
def handed (w : σ) (cs : List (Command × σ)) (n : Node) : List Instant :=
  HostClock.monotonic w :: instantsAll cs n

theorem deadlined_afterAll (cs : List (Command × σ)) {n : Node} (h : n.Deadlined S)
    (hcs : ∀ t ∈ instantsAll cs n, S t) :
    (afterAll cs n).settings = n.settings ∧ (afterAll cs n).Deadlined S := by
  induction cs generalizing n with
  | nil => exact ⟨rfl, h⟩
  | cons cw cs ih =>
    obtain ⟨c, w⟩ := cw
    obtain ⟨hs, h'⟩ := deadlined_after c h w fun t ht =>
      hcs t (List.mem_append_left _ ht)
    obtain ⟨hs', h''⟩ := ih h' fun t ht => hcs t (List.mem_append_right _ ht)
    exact ⟨hs'.trans hs, h''⟩

end Command

section Made

variable {σ : Type} [Provider σ] [Camera σ] [Publisher σ] [HostClock σ]

theorem new_eq_ok {settings : Settings} {w w' : σ} {n : Node}
    (hnew : (Node.new settings).run w = (.ok n, w')) :
    ∃ b, ((install (HostClock.monotonic w)).run { settings, filters := settings.filters }).run w =
      ((.ok b, n), w') := by
  have hrun : (Node.new settings).run w =
      (((((install (HostClock.monotonic w)).run { settings, filters := settings.filters }).run
        w).1.1.map fun _ => (((install (HostClock.monotonic w)).run
          { settings, filters := settings.filters }).run w).1.2),
        (((install (HostClock.monotonic w)).run { settings, filters := settings.filters }).run
          w).2) := rfl
  rw [hrun] at hnew
  generalize ((install (HostClock.monotonic w)).run { settings, filters := settings.filters }).run
    w = r at hnew ⊢
  obtain ⟨⟨_ | b, n'⟩, w''⟩ := r
  · cases hnew
  · simp only [Except.map] at hnew
    cases hnew
    exact ⟨b, rfl⟩

theorem new_deadlined {S : Instant → Prop} {settings : Settings} {w w' : σ} {n : Node}
    (hnew : (Node.new settings).run w = (.ok n, w')) (hnow : S (HostClock.monotonic w)) :
    n.settings = settings ∧ n.Deadlined S := by
  have hfresh : ({ settings, filters := settings.filters } : Node).Deadlined S :=
    ⟨fun _ hr => (nomatch hr), fun _ hp => nomatch hp⟩
  obtain ⟨b, hrun⟩ := new_eq_ok hnew
  have hinstall := install_deadlined hfresh hnow w
  rw [hrun] at hinstall
  exact hinstall

end Made

end Node

section Runs

variable {σ : Type} [Provider σ] [Camera σ] [Publisher σ] [HostClock σ]

open Node.Command (afterAll handed) in
/-- Every deadline of a node made from `settings`, after any run of commands, is one watchdog
timeout after an instant the run handed to it. -/
theorem deadlines_from_handed_instants {settings : Settings} {w w' : σ} {n : Node}
    (hnew : (Node.new settings).run w = (.ok n, w')) (cs : List (Node.Command × σ)) :
    ∀ d ∈ (afterAll cs n).deadlines, ∃ t ∈ handed w cs n, d = t.add settings.watchdogTimeout := by
  obtain ⟨hs₀, h₀⟩ := Node.new_deadlined (S := fun t => t ∈ handed w cs n) hnew
    List.mem_cons_self
  obtain ⟨hs, h⟩ := Node.Command.deadlined_afterAll cs h₀ fun t ht => List.mem_cons_of_mem _ ht
  intro d hd
  obtain ⟨t, ht, hdt⟩ := h.exists_of_mem hd
  rw [hs, hs₀] at hdt
  exact ⟨t, ht, hdt⟩

open Node.Command (afterAll handed) in
/-- A node made from `settings` never holds a deadline the host cannot represent, along any
run of commands, as long as every instant handed to it lies one watchdog timeout before the
end of the instants the host represents. -/
theorem deadlines_stay_in_range {settings : Settings} {w w' : σ} {n : Node}
    (hnew : (Node.new settings).run w = (.ok n, w')) (cs : List (Node.Command × σ))
    (hrange : ∀ t ∈ handed w cs n, (t.add settings.watchdogTimeout).isRepresentable = true) :
    (afterAll cs n).overflowed = false := by
  rw [Node.overflowed_eq_false_iff]
  intro d hd
  obtain ⟨t, ht, rfl⟩ := deadlines_from_handed_instants hnew cs d hd
  exact hrange t ht

end Runs

open Pipeline (oneDepthBench) in
def benchCommands : List (Node.Command × Bench) :=
  [(.poll ⟨31000000000⟩, oneDepthBench), (.setStreaming false, oneDepthBench),
    (.setStreaming true, oneDepthBench)]

open Pipeline (oneDepthSettings oneDepthBench) in
/-- On the one-pixel bench, a node made at the base instant, polled past its deadline, and
switched off and on again, is handed instants in range and keeps every deadline in range. -/
theorem deadlines_stay_in_range_on_bench :
    ∃ n w, (Node.new oneDepthSettings).run oneDepthBench = (.ok n, w) ∧
      (∀ t ∈ Node.Command.handed oneDepthBench benchCommands n,
        (t.add oneDepthSettings.watchdogTimeout).isRepresentable = true) ∧
      (Node.Command.afterAll benchCommands n).overflowed = false := by
  have hok : (((Node.new oneDepthSettings).run oneDepthBench).1.toOption.any fun n =>
      (Node.Command.handed oneDepthBench benchCommands n).all fun t =>
        (t.add oneDepthSettings.watchdogTimeout).isRepresentable) = true := by decide +kernel
  generalize hmade : (Node.new oneDepthSettings).run oneDepthBench = made at hok
  obtain ⟨_ | n, w⟩ := made
  · simp [Except.toOption] at hok
  · have hrange := List.all_eq_true.1 hok
    exact ⟨n, w, rfl, hrange, deadlines_stay_in_range hmade _ hrange⟩

open Pipeline (oneDepthSettings oneDepthBench) in
/-- A watchdog timeout of `10¹⁹` seconds is a duration, so the settings keep it rather than
fall back, but no instant lies that far after the base: the node made on the one-pixel bench
at the base instant arms its watchdog past the instants the host can represent. -/
theorem huge_timeout_overflows_deadline :
    ({ oneDepthSettings with watchdogTimeoutSecs := 1e19 } : Settings).watchdogTimeout =
        Duration.ofSeconds 10000000000000000000 ∧
      ∃ n w, (Node.new { oneDepthSettings with watchdogTimeoutSecs := 1e19 }).run oneDepthBench =
        (.ok n, w) ∧ n.overflowed = true := by
  have hrun : (((Node.new { oneDepthSettings with watchdogTimeoutSecs := 1e19 }).run
      oneDepthBench).1.toOption.any Node.overflowed) = true := by decide +kernel
  refine ⟨by decide +kernel, ?_⟩
  generalize (Node.new { oneDepthSettings with watchdogTimeoutSecs := 1e19 }).run
    oneDepthBench = made at hrun
  obtain ⟨_ | n, w⟩ := made
  · simp [Except.toOption] at hrun
  · exact ⟨n, w, rfl, by simpa [Except.toOption] using hrun⟩

end Rgbd
