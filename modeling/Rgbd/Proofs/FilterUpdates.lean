import Rgbd.Node.Configuring
import Rgbd.Proofs.Generations
import Rgbd.Proofs.Recovery
import Rgbd.Proofs.Profiles

/-!
Filter updates against installations.

Configuring the filters hands the toggles to the installed chain and then stores them for
later pipelines, in two critical sections; an installation reads the stored toggles when it
builds a pipeline and puts the pipeline in place later. Deliveries, polls and streaming
switches never change the toggles a chain runs (`Pipeline.settings_evolves`), and a pipeline
is built with the toggles stored (`Pipeline.build_filters`).

So whenever a caller's two sections do not overlap the span of an installation from its
build to its commit, and callers do not overlap each other, the installed chain runs the
stored toggles at every point where no caller stands between its sections
(`filters_agree_apart_from_installations`). The proof is one invariant (`Configuring.Agreed`)
kept by every step of a thread (`Sys.toggleStep_advance`) and of a caller.

Without that separation an update is lost: a caller whose sections fall between a build and
its commit returns successfully, yet the pipeline put in place runs the toggles read before,
while the node stores the caller's (`configured_filters_lost_to_installation`).
-/

namespace Rgbd

/-! ### Changes in place keep the toggles a chain runs -/

theorem FilterChain.settings_apply (c : FilterChain) (d : DepthImage) :
    (c.apply d).2.settings = c.settings := by
  unfold FilterChain.apply
  split <;> rfl

theorem FilterChain.new_eq_ok {s : FilterSettings} {converter : DisparityConverter}
    {c : FilterChain} :
    FilterChain.new s converter = .ok c ↔ s.validate = .ok () ∧ c = { settings := s, converter } := by
  unfold FilterChain.new
  cases s.validate with
  | error e => simp [Except.map]
  | ok u => simp [Except.map, eq_comm]

theorem FilterChain.settings_new {s : FilterSettings} {converter : DisparityConverter}
    {c : FilterChain} (h : FilterChain.new s converter = .ok c) : c.settings = s := by
  rw [(FilterChain.new_eq_ok.1 h).2]

namespace Pipeline

theorem settings_store {p q : Pipeline} {f : Frame} (h : p.store f = .ok q) :
    q.filters.settings = p.filters.settings := by
  unfold store at h
  split at h
  · cases h
  · split at h
    · cases h
    · cases h
      exact FilterChain.settings_apply _ _
    · cases h
      rfl

theorem settings_storeAll (p : Pipeline) (arrivals : ArrivalSet) (fs : List Frame) :
    (p.storeAll arrivals fs).1.filters.settings = p.filters.settings := by
  induction fs generalizing p arrivals with
  | nil => rfl
  | cons f fs ih =>
    unfold storeAll
    split
    · exact ih p arrivals
    · rename_i q hq
      split
      · exact (ih q arrivals).trans (settings_store hq)
      · exact (ih q _).trans (settings_store hq)

theorem settings_foldlM {σ α : Type} {f : Pipeline → α → StateM σ Pipeline}
    (hf : ∀ p a w, ((f p a).run w).1.filters.settings = p.filters.settings) (as : List α)
    (p : Pipeline) (w : σ) :
    ((as.foldlM f p).run w).1.filters.settings = p.filters.settings :=
  foldlM_rel (fun p q => q.filters.settings = p.filters.settings) (fun _ => rfl)
    (fun a b c (h₁ : b.filters.settings = a.filters.settings)
      (h₂ : c.filters.settings = b.filters.settings) => h₂.trans h₁)
    hf as p w

section Deliveries

variable {σ : Type} [Publisher σ] [HostClock σ]

omit [HostClock σ] in
theorem settings_publishFrame (p : Pipeline) (time : SystemTime) (k : StreamKey) (w : σ) :
    ((p.publishFrame time k).run w).1.filters.settings = p.filters.settings := by
  rw [publishFrame_eq]
  rfl

omit [HostClock σ] in
theorem settings_alignedStep (c : Bool) (time : SystemTime) (targets : List StreamKey)
    (p : Pipeline) (w : σ) :
    ((if c then targets.foldlM (fun (p : Pipeline) k => p.publishAligned time k) p
      else pure p : StateM σ Pipeline).run w).1.filters.settings = p.filters.settings := by
  cases c
  · rfl
  · refine settings_foldlM (fun p k w => ?_) targets p w
    rcases publishAligned_eq p time k w with h | ⟨alignments, alignedSequences, h⟩ <;> rw [h]

theorem settings_dispatch (p : Pipeline) (fs : List Frame) (isSet : Bool) (w : σ) :
    ((p.dispatch fs isSet).run w).1.filters.settings = p.filters.settings := by
  have hstored := settings_storeAll p p.arrivals.begin fs
  rcases h : p.storeAll p.arrivals.begin fs with ⟨q, arrivals, _ | ⟨first, rest⟩⟩
  · rw [dispatch_run_nil isSet w h]
    simpa [h] using hstored
  · rw [dispatch_run_cons isSet w h]
    rw [h] at hstored
    dsimp only at hstored ⊢
    rw [settings_alignedStep]
    exact (settings_foldlM (fun (p : Pipeline) (f : Frame) w => settings_publishFrame p _ f.key w)
      _ _ w).trans hstored

omit [HostClock σ] in
theorem settings_dispatchMotion (p : Pipeline) (f : Frame) (w : σ) :
    ((p.dispatchMotion f).run w).1.filters.settings = p.filters.settings := by
  rcases dispatchMotion_eq p f w with h | ⟨sequences, h⟩ <;> rw [h]

theorem settings_ingest (p : Pipeline) (d : Delivery) (w : σ) :
    ((p.ingest d).run w).1.filters.settings = p.filters.settings := by
  unfold Pipeline.ingest
  dsimp only
  rw [run_bind]
  have hm := settings_foldlM (fun p f w => settings_dispatchMotion p f w)
    (d.frames.filter fun f : Frame => f.key.isMotion) p w
  generalize ((d.frames.filter fun f : Frame => f.key.isMotion).foldlM Pipeline.dispatchMotion p :
    StateM σ Pipeline).run w = r at hm ⊢
  obtain ⟨q, w'⟩ := r
  dsimp only at hm ⊢
  split
  · exact hm
  · split
    · exact (settings_foldlM (fun q g w => settings_dispatch q g true w) _ _ _).trans hm
    · exact (settings_dispatch _ _ _ w').trans hm

/-- A pipeline keeps the toggles of its chain along every change in place. -/
theorem settings_evolves {p q : Pipeline} (h : Pipeline.Evolves σ p q) :
    q.filters.settings = p.filters.settings := by
  induction h with
  | refl => rfl
  | tail _ hstep ih =>
    refine Eq.trans ?_ ih
    cases hstep with
    | ingest d w => exact settings_ingest _ d w
    | poll now => rfl
    | setStreaming on now => rfl

end Deliveries

/-! ### A pipeline is built with the toggles stored -/

section Building

variable {σ : Type} [Camera σ]

omit [Camera σ] in
theorem yields_lift {ε α : Type} (f : ε → EngineError) (r : Except ε α) :
    Yields (Build.lift (σ := σ) f r) fun a => r = .ok a := by
  cases r with
  | error e => exact yields_throw _
  | ok a => exact yields_pure rfl

/-- A built pipeline's chain runs the toggles of the settings it was built from. -/
theorem build_filters (settings : Settings) :
    Yields (build (σ := σ) settings) fun p => p.filters.settings = settings.filters := by
  unfold build
  dsimp only
  refine yields_bind (yields_true _) fun _ _ => ?_
  refine yields_bind (yields_true _) fun _ _ => ?_
  refine yields_bind (yields_true _) fun _ _ => ?_
  split <;>
  · refine yields_bind (yields_true _) fun _ _ => ?_
    refine yields_bind (yields_true _) fun _ _ => ?_
    refine yields_bind (yields_true _) fun _ _ => ?_
    exact yields_bind (yields_lift _ _) fun _ h => yields_pure (FilterChain.settings_new h)

end Building

end Pipeline

/-! ### What the critical sections of a node do to the toggles -/

namespace Node

def Runs (n : Node) (f : FilterSettings) : Prop :=
  ∀ p, n.pipeline = some p → p.filters.settings = f

def Agrees (n : Node) : Prop := n.Runs n.filters

theorem runs_of_pipeline_none {n : Node} (h : n.pipeline = none) (f : FilterSettings) :
    n.Runs f := by
  intro p hp
  rw [h] at hp
  cases hp

theorem Runs.of_evolves {σ : Type} [Publisher σ] [HostClock σ] {n n' : Node} {f : FilterSettings}
    (h : n.Runs f) (hrel : Option.Rel (Pipeline.Evolves σ) n.pipeline n'.pipeline) : n'.Runs f := by
  intro q hq
  rw [hq] at hrel
  cases hn : n.pipeline with
  | none =>
    rw [hn] at hrel
    cases hrel
  | some p =>
    rw [hn] at hrel
    cases hrel with
    | some hev => exact (Pipeline.settings_evolves hev).trans (h p hn)

/-- A node computation that keeps the stored toggles and the toggles the installed chain
runs. -/
def KeepsToggles {σ α : Type} (x : NodeM σ α) : Prop :=
  ∀ n w, ((x.run n).run w).1.2.filters = n.filters ∧
    ∀ f, n.Runs f → ((x.run n).run w).1.2.Runs f

theorem KeepsToggles.of_node_eq {σ α : Type} {x : NodeM σ α}
    (h : ∀ n w, ((x.run n).run w).1.2 = n) : KeepsToggles x := by
  intro n w
  rw [h n w]
  exact ⟨rfl, fun _ hr => hr⟩

section Sections

variable {σ : Type} [Publisher σ] [HostClock σ]

theorem KeepsToggles.of_inPlace {α : Type} {x : NodeM σ α} (h : InPlace x)
    (hf : ∀ n w, ((x.run n).run w).1.2.filters = n.filters) : KeepsToggles x :=
  fun n w => ⟨hf n w, fun _ hr => hr.of_evolves (h n w).2⟩

theorem keepsToggles_ingest (g : Nat) (d : Delivery) : KeepsToggles (σ := σ) (ingest g d) := by
  refine .of_inPlace (inPlace_ingest g d) fun n w => ?_
  rw [ingest_run]
  split
  · split <;> rfl
  · rfl

theorem keepsToggles_pollPipeline (now : Instant) : KeepsToggles (σ := σ) (pollPipeline now) := by
  refine .of_inPlace (inPlace_pollPipeline now) fun n w => ?_
  rw [pollPipeline_run]
  split <;> rfl

theorem keepsToggles_stopRequest : KeepsToggles (σ := σ) stopRequest := by
  refine .of_inPlace inPlace_stopRequest fun n w => ?_
  rw [stopRequest_run]
  split
  · split <;> rfl
  · rfl

theorem keepsToggles_markStreaming (now : Instant) : KeepsToggles (σ := σ) (markStreaming now) :=
  .of_inPlace (inPlace_markStreaming now) fun _ _ => rfl

theorem keepsToggles_scheduleRetry (now : Instant) : KeepsToggles (σ := σ) (scheduleRetry now) :=
  .of_inPlace (inPlace_scheduleRetry now) fun _ _ => rfl

theorem keepsToggles_clearRetry : KeepsToggles (σ := σ) clearRetry :=
  .of_inPlace inPlace_clearRetry fun _ _ => rfl

omit [Publisher σ] [HostClock σ] in
theorem keepsToggles_streamingRequest : KeepsToggles (σ := σ) streamingRequest :=
  .of_node_eq fun n w => by rw [streamingRequest_run]

omit [Publisher σ] [HostClock σ] in
theorem keepsToggles_retryDue (now : Instant) : KeepsToggles (σ := σ) (retryDue now) := by
  refine .of_node_eq fun n w => ?_
  unfold retryDue
  cases hr : n.retryAt <;> simp [hr] <;> rfl

omit [Publisher σ] [HostClock σ] in
theorem keepsToggles_inWorld {α : Type} (x : StateM σ α) : KeepsToggles (inWorld x) :=
  .of_node_eq fun _ _ => rfl

end Sections

section Configure

variable {σ : Type}

theorem configureInstalled_spec (f : FilterSettings) (n : Node) (w : σ) :
    (((configureInstalled f).run n).run w).2 = w ∧
      ((((configureInstalled f).run n).run w).1.1 = .ok () ∧
        (((configureInstalled f).run n).run w).1.2.filters = n.filters ∧
        (((configureInstalled f).run n).run w).1.2.Runs f ∨
      ∃ e, (((configureInstalled f).run n).run w).1.1 = .error e ∧
        (((configureInstalled f).run n).run w).1.2 = n) := by
  unfold configureInstalled
  cases hp : n.pipeline with
  | some p =>
    cases hc : p.configureFilters f with
    | ok q =>
      simp only [run_bind, run_get, hp, hc]
      refine ⟨rfl, .inl ⟨rfl, rfl, fun q' hq' => ?_⟩⟩
      cases hq'
      unfold Pipeline.configureFilters at hc
      split at hc
      · rename_i c hconf
        cases hc
        unfold FilterChain.configure at hconf
        cases hv : f.validate <;> rw [hv] at hconf <;> cases hconf
        rfl
      · cases hc
    | error e =>
      simp only [run_bind, run_get, hp, hc]
      exact ⟨rfl, .inr ⟨e, rfl, rfl⟩⟩
  | none =>
    simp only [run_bind, run_get, hp]
    cases hv : f.validate with
    | ok u => exact ⟨rfl, .inl ⟨rfl, rfl, runs_of_pipeline_none hp f⟩⟩
    | error e => exact ⟨rfl, .inr ⟨_, rfl, rfl⟩⟩

end Configure

end Node

/-! ### One step of a thread -/

namespace Pc

def held : Pc → Option Pipeline
  | .publish p _ => some p
  | .commit p _ => some p
  | .stopModules _ next => next.held
  | _ => none

def builds : Pc → Bool
  | .build _ => true
  | _ => false

end Pc

namespace Sys

variable {σ : Type} [Provider σ] [Camera σ] [Publisher σ] [HostClock σ]

/-- What one step of a thread does to the filter toggles: the stored toggles stay; the
installed chain keeps its toggles unless the step puts the pipeline the thread held in
place; a thread holds a pipeline after its step only if it held it before or has just built
it with the stored toggles; and no other thread moves. -/
structure ToggleStep (pc : Pc) (s : Sys σ) (r : Pc × Sys σ) : Prop where
  filters : r.2.node.filters = s.node.filters
  runs : ∀ f, s.node.Runs f → (∀ p, pc.held = some p → p.filters.settings = f) → r.2.node.Runs f
  held : ∀ p, r.1.held = some p →
    pc.held = some p ∨ pc.builds = true ∧ p.filters.settings = s.node.filters
  threads : r.2.threads = s.threads

omit [Provider σ] [Camera σ] [Publisher σ] [HostClock σ] in
theorem ToggleStep.keeping {pc : Pc} {s : Sys σ} {r : Pc × Sys σ}
    (hf : r.2.node.filters = s.node.filters) (hr : ∀ f, s.node.Runs f → r.2.node.Runs f)
    (hheld : r.1.held = none) (ht : r.2.threads = s.threads) : ToggleStep pc s r where
  filters := hf
  runs f h _ := hr f h
  held p hp := by
    rw [hheld] at hp
    cases hp
  threads := ht

omit [Provider σ] [Camera σ] [Publisher σ] [HostClock σ] in
theorem ToggleStep.same {pc pc' : Pc} {s s' : Sys σ} (hnode : s'.node = s.node)
    (hheld : pc'.held = none) (ht : s'.threads = s.threads) : ToggleStep pc s (pc', s') :=
  .keeping (by rw [hnode]) (fun _ h => hnode ▸ h) hheld ht

omit [Provider σ] [Camera σ] [Publisher σ] [HostClock σ] in
theorem ToggleStep.section {α : Type} {pc pc' : Pc} {s : Sys σ} {x : NodeM σ α}
    (hx : Node.KeepsToggles x) (hheld : pc'.held = none) (log : List Event) :
    ToggleStep pc s (pc', { s with
      node := ((x.run s.node).run s.world).1.2, world := ((x.run s.node).run s.world).2, log }) :=
  .keeping (hx s.node s.world).1 (hx s.node s.world).2 hheld rfl

theorem finish_held (installing : Bool) : (finish installing).held = none := by
  cases installing <;> rfl

theorem ite_held {c : Prop} [Decidable c] {a b : Pc} (ha : a.held = none) (hb : b.held = none) :
    (if c then a else b).held = none := by
  split
  · exact ha
  · exact hb

/-- Every atomic step of every thread acts on the toggles as `ToggleStep` says. -/
theorem toggleStep_advance (pc : Pc) (s : Sys σ) : ToggleStep pc s ((advance pc).run s) := by
  cases pc with
  | deliver k d =>
    simp only [advance, run_bind, atomically_run, record_run, pure_run]
    exact .section (Node.keepsToggles_ingest k.generation d) rfl _
  | poll now =>
    simp only [advance, run_bind, atomically_run]
    split <;> exact .section (Node.keepsToggles_pollPipeline now) rfl s.log
  | takeStalled now =>
    simp only [advance, run_bind, atomically_run, record_run, pure_run]
    exact .keeping rfl (fun f _ => Node.runs_of_pipeline_none rfl f) rfl rfl
  | rediscover now =>
    simp only [advance, run_bind, atomically_run, pure_run]
    exact .section (Node.keepsToggles_retryDue now) (ite_held rfl rfl) s.log
  | reacquire => exact .same rfl rfl rfl
  | setStreaming on =>
    simp only [advance, run_bind, pure_run]
    split <;> exact .same rfl rfl rfl
  | lockInstalling now =>
    simp only [advance, run_bind]
    split
    · exact .same rfl rfl rfl
    · exact .same rfl rfl rfl
  | checkAttached now =>
    simp only [advance, run_bind, pure_run]
    split <;> exact .same rfl rfl rfl
  | acquire now =>
    simp only [advance, run_bind, atomically_run, pure_run]
    exact .section (Node.keepsToggles_inWorld _) (ite_held rfl rfl) s.log
  | scheduleRetry now => exact .section (Node.keepsToggles_scheduleRetry now) rfl s.log
  | clearRetry now => exact .section Node.keepsToggles_clearRetry rfl s.log
  | build now =>
    have hbuilt := Pipeline.build_filters (σ := σ)
      { s.node.settings with filters := s.node.filters } s.world
    simp only [advance, run_bind, atomically_run, Node.buildPipeline_run]
    split
    · exact .keeping rfl (fun _ h => h) rfl rfl
    · rename_i p hp
      refine ⟨rfl, fun _ h _ => h, fun q hq => .inr ⟨rfl, ?_⟩, rfl⟩
      cases hq
      exact hbuilt p _ (Prod.ext hp rfl)
  | publish p now =>
    refine ⟨rfl, fun _ h _ => h, fun q hq => .inl hq, rfl⟩
  | commit p now =>
    refine ⟨rfl, fun f _ hp q hq => ?_, fun q hq => (by cases hq), rfl⟩
    cases hq
    exact hp p rfl
  | requestStart now installing =>
    simp only [advance, run_bind, atomically_run]
    split
    · exact .keeping (Node.keepsToggles_streamingRequest s.node s.world).1
        (Node.keepsToggles_streamingRequest s.node s.world).2 rfl rfl
    · exact .section Node.keepsToggles_streamingRequest (finish_held installing) s.log
  | startModules modules k now installing =>
    cases modules with
    | nil => exact .same rfl rfl rfl
    | cons m ms => exact .same rfl rfl rfl
  | checkCurrent k now installing =>
    simp only [advance, run_bind, pure_run]
    split
    · exact .same rfl rfl rfl
    · exact .same rfl (finish_held installing) rfl
  | markStreaming now installing =>
    exact .section (Node.keepsToggles_markStreaming now) (finish_held installing) s.log
  | requestStop =>
    simp only [advance, run_bind, atomically_run]
    split <;> exact .section Node.keepsToggles_stopRequest rfl s.log
  | stopModules modules next =>
    cases modules with
    | nil => exact ⟨rfl, fun _ h _ => h, fun q hq => .inl hq, rfl⟩
    | cons m ms =>
      have hx := Node.keepsToggles_inWorld (Camera.stop (σ := σ) m) s.node s.world
      exact ⟨hx.1, fun f h _ => hx.2 f h, fun q hq => .inl hq, rfl⟩
  | unlockInstalling => exact .same rfl rfl rfl
  | done => exact .same rfl rfl rfl

end Sys

/-! ### Callers -/

namespace Caller

def pending : Caller → Option FilterSettings
  | .store f => some f
  | _ => none

def configures : Caller → Bool
  | .configure _ => true
  | _ => false

variable {σ : Type}

theorem advance_configure (f : FilterSettings) (s : Sys σ) :
    (∃ n, (advance (.configure f)).run s = (.store f, { s with node := n }) ∧
      n.filters = s.node.filters ∧ n.Runs f) ∨
    ∃ e, (advance (.configure f)).run s = (.returned (.error e), s) := by
  obtain ⟨hw, ⟨hok, hf, hr⟩ | ⟨e, herr, hn⟩⟩ := Node.configureInstalled_spec f s.node s.world
  · refine .inl ⟨_, ?_, hf, hr⟩
    simp only [advance, Sys.run_bind, Sys.atomically_run, hok, hw]
    rfl
  · refine .inr ⟨e, ?_⟩
    simp only [advance, Sys.run_bind, Sys.atomically_run, herr, hn, hw]
    rfl

theorem advance_store (f : FilterSettings) (s : Sys σ) :
    (advance (.store f)).run s =
      (.returned (.ok ()), { s with node := { s.node with filters := f } }) := rfl

theorem advance_returned (r : Except EngineError Unit) (s : Sys σ) :
    (advance (.returned r)).run s = (.returned r, s) := rfl

end Caller

namespace Configuring

section Invariant

variable {σ : Type}

def pendingAt (c : Configuring σ) (i : Nat) : Option FilterSettings :=
  c.callers[i]?.bind Caller.pending

def Quiet (c : Configuring σ) : Prop := ∀ k ∈ c.callers, k.pending = none

instance (c : Configuring σ) : Decidable c.Quiet :=
  inferInstanceAs (Decidable (∀ k ∈ c.callers, k.pending = none))

theorem quiet_iff_pendingAt (c : Configuring σ) : c.Quiet ↔ ∀ i, c.pendingAt i = none := by
  constructor
  · intro h i
    cases hi : c.callers[i]? with
    | none => simp [pendingAt, hi]
    | some k => simpa [pendingAt, hi] using h k (List.mem_of_getElem? hi)
  · intro h k hk
    obtain ⟨i, hi⟩ := List.mem_iff_getElem?.1 hk
    simpa [pendingAt, hi] using h i

/-- What keeps the installed chain on the stored toggles along a run. -/
structure Agreed (c : Configuring σ) : Prop where
  /-- At most one caller stands between its two sections. -/
  alone : ∀ i j f g, c.pendingAt i = some f → c.pendingAt j = some g → i = j
  /-- With no caller between its sections, the installed chain runs the stored toggles. -/
  settled : c.Quiet → c.sys.node.Agrees
  /-- A caller between its sections has handed its toggles to the installed chain. -/
  pending : ∀ i f, c.pendingAt i = some f → c.sys.node.Runs f
  /-- A pipeline held between its build and its commit was built with the stored toggles,
  and meanwhile no caller stands between its sections. -/
  held : ∀ pc ∈ c.sys.threads, ∀ p, pc.held = some p →
    p.filters.settings = c.sys.node.filters ∧ c.Quiet

theorem Agreed.of_pendingAt {c c' : Configuring σ} (h : c.Agreed) (hsys : c'.sys = c.sys)
    (hp : ∀ j, c'.pendingAt j = c.pendingAt j) : c'.Agreed := by
  have hq : c'.Quiet ↔ c.Quiet := by simp only [quiet_iff_pendingAt, hp]
  refine ⟨fun i j f g hi hj => ?_, fun hc => ?_, fun i f hi => ?_, fun pc hpc p hp' => ?_⟩
  · rw [hp] at hi hj
    exact h.alone i j f g hi hj
  · rw [hsys]
    exact h.settled (hq.1 hc)
  · rw [hp] at hi
    rw [hsys]
    exact h.pending i f hi
  · rw [hsys] at hpc ⊢
    exact ⟨(h.held pc hpc p hp').1, hq.2 (h.held pc hpc p hp').2⟩

theorem pendingAt_set {c : Configuring σ} {i : Nat} {k : Caller} (hi : c.callers[i]? = some k)
    (s : Sys σ) (k' : Caller) (j : Nat) :
    ({ sys := s, callers := c.callers.set i k' } : Configuring σ).pendingAt j =
      if i = j then k'.pending else c.pendingAt j := by
  simp only [pendingAt, List.getElem?_set]
  by_cases hij : i = j
  · subst hij
    simp [(List.getElem?_eq_some_iff.1 hi).1]
  · simp [hij]

theorem pendingAt_set_of_pending {c : Configuring σ} {i : Nat} {k : Caller}
    (hi : c.callers[i]? = some k) {s : Sys σ} {k' : Caller} (hk : k'.pending = k.pending)
    (j : Nat) : ({ sys := s, callers := c.callers.set i k' } : Configuring σ).pendingAt j =
      c.pendingAt j := by
  rw [pendingAt_set hi]
  split
  · rename_i hij
    subst hij
    simp [pendingAt, hi, hk]
  · rfl

theorem not_quiet_of_pendingAt {c : Configuring σ} {i : Nat} {f : FilterSettings}
    (hi : c.pendingAt i = some f) : ¬ c.Quiet := by
  intro hq
  rw [(quiet_iff_pendingAt c).1 hq i] at hi
  cases hi

theorem start_held {s : Sys σ} {op : Op} {pc : Pc} (h : s.start op = some pc) : pc.held = none := by
  cases op with
  | deliver i d =>
    obtain ⟨k, _, rfl⟩ := Option.map_eq_some_iff.1 h
    rfl
  | poll now => cases h; rfl
  | reacquire => cases h; rfl
  | setStreaming on => cases h; rfl

theorem Agreed.handed {c : Configuring σ} {i : Nat} {f : FilterSettings}
    (hi : c.callers[i]? = some (.configure f)) (hquiet : c.Quiet)
    (hfree : ∀ pc ∈ c.sys.threads, pc.held = none) {n : Node} (hr : n.Runs f) :
    Agreed ⟨{ c.sys with node := n }, c.callers.set i (.store f)⟩ := by
  have hp : ∀ j g,
      ({ sys := { c.sys with node := n }, callers := c.callers.set i (.store f) } :
        Configuring σ).pendingAt j = some g → i = j ∧ g = f := by
    intro j g hj
    rw [pendingAt_set hi, (quiet_iff_pendingAt c).1 hquiet j] at hj
    split at hj
    · exact ⟨‹_›, (Option.some.inj hj).symm⟩
    · cases hj
  refine ⟨fun j₁ j₂ g₁ g₂ h₁ h₂ => (hp j₁ g₁ h₁).1.symm.trans (hp j₂ g₂ h₂).1,
    fun hc => absurd hc (not_quiet_of_pendingAt (i := i) (f := f) ?_), fun j g hj => (hp j g hj).2 ▸ hr,
    fun pc hpc p hp' => ?_⟩
  · rw [pendingAt_set hi, if_pos rfl]
    rfl
  · rw [hfree pc hpc] at hp'
    cases hp'

theorem Agreed.stored {c : Configuring σ} (h : c.Agreed) {i : Nat} {f : FilterSettings}
    (hi : c.callers[i]? = some (.store f)) :
    Agreed ⟨{ c.sys with node := { c.sys.node with filters := f } },
      c.callers.set i (.returned (.ok ()))⟩ := by
  have hfi : c.pendingAt i = some f := by simp [pendingAt, hi, Caller.pending]
  have hquiet : ∀ j,
      ({ sys := { c.sys with node := { c.sys.node with filters := f } },
          callers := c.callers.set i (.returned (.ok ())) } : Configuring σ).pendingAt j =
        none := by
    intro j
    rw [pendingAt_set hi]
    split
    · rfl
    · rename_i hij
      cases hj : c.pendingAt j with
      | none => rfl
      | some g => exact absurd (h.alone i j f g hfi hj) hij
  refine ⟨fun j _ g _ hj => (by rw [hquiet j] at hj; cases hj), fun _ => h.pending i f hfi,
    fun j g hj => (by rw [hquiet j] at hj; cases hj), fun pc hpc p hp' => ?_⟩
  exact absurd (h.held pc hpc p hp').2 (not_quiet_of_pendingAt hfi)

end Invariant

section Steps

variable {σ : Type} [Provider σ] [Camera σ] [Publisher σ] [HostClock σ]

/-- Whether a choice keeps filter updates apart from installations: a caller hands its
toggles to the chain only while no caller stands between its sections and no thread holds a
built pipeline, and a thread builds only while no caller stands between its sections. -/
def apart (c : Configuring σ) : Choice → Bool
  | .node (.step i) => !(c.sys.threads[i]?.any Pc.builds) || decide c.Quiet
  | .step i => !(c.callers[i]?.any Caller.configures) ||
      (decide c.Quiet && c.sys.threads.all fun pc => pc.held.isNone)
  | _ => true

/-- Whether every choice of a schedule keeps filter updates apart from installations, each
at the state it is taken in. -/
def apartAlong : Configuring σ → List Choice → Bool
  | _, [] => true
  | c, x :: xs => c.apart x && apartAlong (c.next x) xs

theorem pendingAt_call (c : Configuring σ) (f : FilterSettings) (j : Nat) :
    (c.next (.call f)).pendingAt j = c.pendingAt j := by
  simp only [next, pendingAt, List.getElem?_append]
  split
  · rfl
  · rename_i hj
    rw [List.getElem?_eq_none (Nat.le_of_not_lt hj)]
    cases j - c.callers.length <;> rfl

theorem Agreed.step_caller {c : Configuring σ} (h : c.Agreed) (i : Nat)
    (ha : c.apart (.step i) = true) : (c.next (.step i)).Agreed := by
  cases hi : c.callers[i]? with
  | none =>
    simp only [next, hi]
    exact h
  | some k =>
    simp only [next, hi]
    cases k with
    | configure f =>
      simp only [apart, hi, Option.any_some, Caller.configures, Bool.not_true, Bool.false_or,
        Bool.and_eq_true, decide_eq_true_eq, List.all_eq_true, Option.isNone_iff_eq_none] at ha
      obtain ⟨hquiet, hfree⟩ := ha
      rcases Caller.advance_configure f c.sys with ⟨n, hrun, -, hr⟩ | ⟨e, hrun⟩
      · rw [hrun]
        dsimp only
        exact Agreed.handed hi hquiet hfree hr
      · rw [hrun]
        exact h.of_pendingAt rfl (pendingAt_set_of_pending hi rfl)
    | store f =>
      rw [Caller.advance_store]
      dsimp only
      exact h.stored hi
    | returned r =>
      rw [Caller.advance_returned]
      exact h.of_pendingAt rfl (pendingAt_set_of_pending hi rfl)

theorem Agreed.step_node {c : Configuring σ} (h : c.Agreed) (x : Rgbd.Choice)
    (ha : c.apart (.node x) = true) : (c.next (.node x)).Agreed := by
  cases x with
  | spawn op =>
    cases hop : c.sys.start op with
    | none =>
      simp only [next, Sys.next, hop]
      exact h
    | some pc₀ =>
      simp only [next, Sys.next, hop]
      refine ⟨h.alone, h.settled, h.pending, fun pc hpc p hp => ?_⟩
      rcases List.mem_append.1 hpc with hpc | hpc
      · exact h.held pc hpc p hp
      · rw [List.mem_singleton.1 hpc, start_held hop] at hp
        cases hp
  | step i =>
    cases hi : c.sys.threads[i]? with
    | none =>
      simp only [next, Sys.next, hi]
      exact h
    | some pc =>
      have hstep := Sys.toggleStep_advance pc c.sys
      have hpc := List.mem_of_getElem? hi
      have hbuild : pc.builds = true → c.Quiet := by
        intro hb
        simpa [apart, hi, hb] using ha
      simp only [next, Sys.next, hi]
      generalize (Sys.advance pc).run c.sys = r at hstep ⊢
      obtain ⟨pc', s'⟩ := r
      refine ⟨h.alone, fun hq => ?_, fun j f (hj : c.pendingAt j = some f) => ?_,
        fun q hq p hp => ?_⟩
      · show s'.node.Runs s'.node.filters
        rw [hstep.filters]
        exact hstep.runs _ (h.settled hq) fun p hp => (h.held pc hpc p hp).1
      · refine hstep.runs f (h.pending j f hj) fun p hp => ?_
        have := (quiet_iff_pendingAt c).1 (h.held pc hpc p hp).2 j
        rw [hj] at this
        cases this
      · show p.filters.settings = s'.node.filters ∧ c.Quiet
        rw [hstep.filters]
        rcases List.mem_or_eq_of_mem_set hq with hq | rfl
        · rw [hstep.threads] at hq
          exact h.held q hq p hp
        · rcases hstep.held p hp with hp | ⟨hb, hs⟩
          · exact h.held pc hpc p hp
          · exact ⟨hs, hbuild hb⟩

theorem Agreed.next {c : Configuring σ} (h : c.Agreed) (x : Choice) (ha : c.apart x = true) :
    (c.next x).Agreed := by
  cases x with
  | node x => exact h.step_node x ha
  | call f => exact h.of_pendingAt rfl (pendingAt_call c f)
  | step i => exact h.step_caller i ha

theorem Agreed.run {c : Configuring σ} (h : c.Agreed) (xs : List Choice)
    (ha : c.apartAlong xs = true) : (c.run xs).Agreed := by
  induction xs generalizing c with
  | nil => exact h
  | cons x xs ih =>
    simp only [apartAlong, Bool.and_eq_true] at ha
    exact ih (h.next x ha.1) ha.2

end Steps

theorem agreed_fresh {σ : Type} (settings : Settings) (w : σ) : (fresh settings w).Agreed where
  alone _ _ _ _ h := by cases h
  settled _ := Node.runs_of_pipeline_none rfl _
  pending _ _ h := by cases h
  held _ h := by cases h

end Configuring

variable {σ : Type} [Provider σ] [Camera σ] [Publisher σ] [HostClock σ]

/-- Filter updates kept apart from installations are never lost. In every run of a node's
threads and of callers configuring its filters from its creation, in which a caller hands
its toggles to the chain only while no other caller stands between its two sections and no
thread holds a pipeline it built but has not put in place, and a thread builds only while no
caller stands between its sections: at every point where no caller stands between its
sections, the installed pipeline, if any, runs the stored toggles. -/
theorem filters_agree_apart_from_installations (settings : Settings) (w : σ)
    (choices : List Configuring.Choice)
    (hapart : (Configuring.fresh settings w).apartAlong choices = true) :
    let c := (Configuring.fresh settings w).run choices
    c.Quiet → ∀ p, c.sys.node.pipeline = some p → p.filters.settings = c.sys.node.filters := by
  intro c hquiet
  exact ((Configuring.agreed_fresh settings w).run choices hapart).settled hquiet

/-! ### On the bench -/

namespace Configuring

def installThenConfigure : List Choice :=
  .node (.spawn .reacquire) :: List.replicate 14 (.node (.step 0)) ++
    [.call FilterSettings.all, .step 0, .step 0]

/-- A reacquisition that has built its pipeline, then a caller that configures every filter
stage and returns before that pipeline is in place, then the rest of the reacquisition. -/
def lostUpdate : List Choice :=
  .node (.spawn .reacquire) :: List.replicate 6 (.node (.step 0)) ++
    [.call FilterSettings.all, .step 0, .step 0] ++ List.replicate 8 (.node (.step 0))

end Configuring

open Pipeline (oneDepthSettings oneDepthBench) in
theorem filters_agree_after_installing_then_configuring :
    let c₀ := Configuring.fresh oneDepthSettings oneDepthBench
    let c := c₀.run Configuring.installThenConfigure
    c₀.apartAlong Configuring.installThenConfigure = true ∧ c.Quiet ∧
      ∀ p, c.sys.node.pipeline = some p → p.filters.settings = c.sys.node.filters :=
  have hapart : (Configuring.fresh oneDepthSettings oneDepthBench).apartAlong
      Configuring.installThenConfigure = true := by decide +kernel
  have hquiet : ((Configuring.fresh oneDepthSettings oneDepthBench).run
      Configuring.installThenConfigure).Quiet := by decide +kernel
  ⟨hapart, hquiet, filters_agree_apart_from_installations oneDepthSettings oneDepthBench
    Configuring.installThenConfigure hapart hquiet⟩

open Pipeline (oneDepthSettings oneDepthBench) in
/-- Configuring the filters while a reacquisition builds loses the update. On a node fresh
from its settings, a reacquisition builds its pipeline with the stored toggles; a caller then
configures every filter stage, finds no pipeline in place, stores its toggles and returns
successfully; the reacquisition puts its pipeline in place and every thread is done. The
schedule does not keep the update apart from the installation, and the installed chain runs
the toggles read before the update, while the node stores the caller's. -/
theorem configured_filters_lost_to_installation :
    let c₀ := Configuring.fresh oneDepthSettings oneDepthBench
    let c := c₀.run Configuring.lostUpdate
    c₀.apartAlong Configuring.lostUpdate = false ∧
      (c.callers.all fun k => k matches .returned (.ok ())) = true ∧
      (c.sys.threads.all fun pc => pc matches .done) = true ∧ Event.installs c.sys.log = 1 ∧
      c.sys.node.filters = FilterSettings.all ∧
      ∃ p, c.sys.node.pipeline = some p ∧ p.filters.settings = oneDepthSettings.filters ∧
        p.filters.settings ≠ c.sys.node.filters := by
  have hrun : (Configuring.fresh oneDepthSettings oneDepthBench).apartAlong
        Configuring.lostUpdate = false ∧
      (((Configuring.fresh oneDepthSettings oneDepthBench).run Configuring.lostUpdate).callers.all
        fun k => k matches .returned (.ok ())) = true ∧
      (((Configuring.fresh oneDepthSettings oneDepthBench).run Configuring.lostUpdate).sys.threads.all
        fun pc => pc matches .done) = true ∧
      Event.installs ((Configuring.fresh oneDepthSettings oneDepthBench).run
        Configuring.lostUpdate).sys.log = 1 ∧
      ((Configuring.fresh oneDepthSettings oneDepthBench).run
        Configuring.lostUpdate).sys.node.filters = FilterSettings.all ∧
      ((Configuring.fresh oneDepthSettings oneDepthBench).run
        Configuring.lostUpdate).sys.node.pipeline.map (·.filters.settings) =
        some oneDepthSettings.filters := by
    decide +kernel
  obtain ⟨hapart, hcallers, hthreads, hinstalls, hfilters, hchain⟩ := hrun
  obtain ⟨p, hp, hs⟩ := Option.map_eq_some_iff.1 hchain
  refine ⟨hapart, hcallers, hthreads, hinstalls, hfilters, p, hp, hs, ?_⟩
  rw [hs, hfilters]
  decide

end Rgbd
