import Rgbd.Proofs.FilterUpdates

/-!
# Filter toggles: refused settings change nothing

A chain's toggles are checked before anything changes. Main statements:

* along any calls of `configure` and `apply` from a chain that `FilterChain.new` built, the
  toggles stay valid and a chain whose temporal stage is off holds no history
  (`FilterChain.Runnable.run`);
* `configure` fails exactly when `validate` does, with its error, and the call then leaves the
  chain as it was; otherwise it sets the toggles and forgets the history exactly when the
  temporal stage goes off (`FilterChain.configure_spec`);
* a node's `configureFilters` fails with that same error and then changes neither the node
  nor the world; otherwise it hands the toggles to the installed chain and stores them
  (`Node.configureFilters_refused`, `Node.configureFilters_accepted`).
-/

namespace Rgbd

namespace FilterChain

/-- A call on a chain. -/
inductive Op where
  | configure (settings : FilterSettings)
  | apply (depth : DepthImage)

def step (c : FilterChain) : Op → FilterChain
  | .configure s => (c.configure s).toOption.getD c
  | .apply d => (c.apply d).2

/-- The chain after calls, oldest first. -/
def run (c : FilterChain) (ops : List Op) : FilterChain := ops.foldl step c

@[simp] theorem run_nil (c : FilterChain) : c.run [] = c := rfl

@[simp] theorem run_cons (c : FilterChain) (op : Op) (ops : List Op) :
    c.run (op :: ops) = (c.step op).run ops := rfl

def reconfigured (c : FilterChain) (s : FilterSettings) : FilterChain :=
  { c with settings := s, temporal := if s.temporal then c.temporal else c.temporal.reset }

theorem configure_eq (c : FilterChain) (s : FilterSettings) :
    c.configure s = s.validate.map fun _ => c.reconfigured s := rfl

theorem step_configure (c : FilterChain) (s : FilterSettings) :
    c.step (.configure s) = if s.validate = .ok () then c.reconfigured s else c := by
  simp only [step, configure_eq]
  cases s.validate <;> simp [Except.map, Except.toOption]

/-- `configure` fails exactly when `validate` does, with its error, and then the call leaves the
chain as it was; otherwise it sets the toggles, keeps the converter and the spatial stage, and
forgets the history exactly when the temporal stage goes off. -/
theorem configure_spec (c : FilterChain) (s : FilterSettings) :
    (∀ e, c.configure s = .error e ↔ s.validate = .error e) ∧
    (∀ e, s.validate = .error e → c.step (.configure s) = c) ∧
    (s.validate = .ok () →
      c.configure s = .ok (c.reconfigured s) ∧ (c.reconfigured s).settings = s ∧
      (c.reconfigured s).converter = c.converter ∧ (c.reconfigured s).spatial = c.spatial ∧
      (c.reconfigured s).temporal.history = (if s.temporal then c.temporal.history else none) ∧
      (c.reconfigured s).temporal.alpha = c.temporal.alpha ∧
      (c.reconfigured s).temporal.delta = c.temporal.delta) := by
  refine ⟨fun e => ?_, fun e he => ?_, fun hv => ?_⟩
  · rw [configure_eq]
    cases s.validate <;> simp [Except.map]
  · simp [step_configure, he]
  · rw [configure_eq, hv]
    refine ⟨rfl, rfl, rfl, rfl, ?_⟩
    simp only [reconfigured]
    split <;> simp [TemporalFilter.reset]

theorem temporal_apply_of_off {c : FilterChain} (h : c.settings.temporal = false) (d : DepthImage) :
    (c.apply d).2.temporal = c.temporal := by
  unfold FilterChain.apply
  split
  · rfl
  · simp [h]

/-! ### Chains that can run -/

/-- A chain that can run: valid toggles, and no history while the temporal stage is off. -/
structure Runnable (c : FilterChain) : Prop where
  valid : c.settings.validate = .ok ()
  history : c.settings.temporal = false → c.temporal.history = none

theorem Runnable.new {s : FilterSettings} {conv : DisparityConverter} {c : FilterChain}
    (h : FilterChain.new s conv = .ok c) : Runnable c := by
  obtain ⟨hv, rfl⟩ := new_eq_ok.1 h
  exact ⟨hv, fun _ => rfl⟩

theorem Runnable.step {c : FilterChain} (hc : Runnable c) (op : Op) : Runnable (c.step op) := by
  cases op with
  | configure s =>
    rw [step_configure]
    split
    · rename_i hv
      refine ⟨hv, fun ht => ?_⟩
      simp only [reconfigured] at ht ⊢
      simp [ht, TemporalFilter.reset]
    · exact hc
  | apply d =>
    have hs := settings_apply c d
    refine ⟨?_, fun hoff => ?_⟩
    · rw [FilterChain.step, hs]
      exact hc.valid
    · rw [FilterChain.step] at hoff ⊢
      rw [hs] at hoff
      rw [temporal_apply_of_off hoff]
      exact hc.history hoff

theorem Runnable.run {c : FilterChain} (hc : Runnable c) (ops : List Op) : Runnable (c.run ops) := by
  induction ops generalizing c with
  | nil => exact hc
  | cons op ops ih => exact ih (hc.step op)

end FilterChain

/-! ### At the node -/

namespace Node

variable {σ : Type}

/-- Refused toggles: the node's `configureFilters` fails with the error of `validate` and
changes neither the node nor the world. -/
theorem configureFilters_refused {f : FilterSettings} {e : FilterOrder} (h : f.validate = .error e)
    (n : Node) (w : σ) :
    ((configureFilters f).run n).run w = ((.error (.filterOrder e), n), w) := by
  unfold configureFilters configureInstalled
  cases hp : n.pipeline <;>
    simp [hp, h, Pipeline.configureFilters, FilterChain.configure_eq, Except.map] <;> rfl

/-- Valid toggles go to the installed chain, if any, and are stored for later pipelines. -/
theorem configureFilters_accepted {f : FilterSettings} (h : f.validate = .ok ()) (n : Node) (w : σ) :
    ((configureFilters f).run n).run w =
      ((.ok (), { n with filters := f, pipeline := n.pipeline.map fun p =>
        { p with filters := p.filters.reconfigured f } }), w) := by
  obtain ⟨settings, filters, generation, pipeline, retryAt⟩ := n
  cases pipeline <;>
    simp [configureFilters, configureInstalled, storeFilters, h, Pipeline.configureFilters,
      FilterChain.configure_eq, Except.map] <;> rfl

end Node

/-- Configuring the filters is atomic and keeps the chain runnable: along any calls from a
chain that `FilterChain.new` built, the toggles stay valid and a chain with the temporal stage
off holds no history; `configure` fails exactly when `validate` does, with its error, and then
leaves the chain as it was, and otherwise sets the toggles and forgets the history exactly when
the temporal stage goes off; a node's `configureFilters` fails with the same error and then
changes neither the node, its installed chain and stored toggles included, nor the world. -/
theorem filter_configuration_atomic {s₀ : FilterSettings} {conv : DisparityConverter}
    {c₀ : FilterChain} (h₀ : FilterChain.new s₀ conv = .ok c₀) :
    (∀ ops, (c₀.run ops).Runnable) ∧
    (∀ (c : FilterChain) (s : FilterSettings),
      (∀ e, c.configure s = .error e ↔ s.validate = .error e) ∧
      (∀ e, s.validate = .error e → c.step (.configure s) = c) ∧
      (s.validate = .ok () →
        c.configure s = .ok (c.reconfigured s) ∧ (c.reconfigured s).settings = s ∧
        (c.reconfigured s).converter = c.converter ∧ (c.reconfigured s).spatial = c.spatial ∧
        (c.reconfigured s).temporal.history = (if s.temporal then c.temporal.history else none) ∧
        (c.reconfigured s).temporal.alpha = c.temporal.alpha ∧
        (c.reconfigured s).temporal.delta = c.temporal.delta)) ∧
    (∀ {σ : Type} (f : FilterSettings) (n : Node) (w : σ),
      (∀ e, f.validate = .error e →
        ((Node.configureFilters f).run n).run w = ((.error (.filterOrder e), n), w)) ∧
      (f.validate = .ok () →
        ((Node.configureFilters f).run n).run w =
          ((.ok (), { n with filters := f, pipeline := n.pipeline.map fun p =>
            { p with filters := p.filters.reconfigured f } }), w))) :=
  ⟨(FilterChain.Runnable.new h₀).run, FilterChain.configure_spec,
    fun _ n w => ⟨fun _ he => Node.configureFilters_refused he n w,
      fun hv => Node.configureFilters_accepted hv n w⟩⟩

/-- `filter_configuration_atomic` at a chain with every stage on. -/
theorem filter_configuration_atomic_all_stages :
    FilterChain.new .all ⟨1⟩ = .ok { settings := .all, converter := ⟨1⟩ } ∧
    (∀ ops, (({ settings := .all, converter := ⟨1⟩ } : FilterChain).run ops).Runnable) :=
  ⟨rfl, (@filter_configuration_atomic .all ⟨1⟩ _ rfl).1⟩

end Rgbd
