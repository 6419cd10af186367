import Rgbd.Proofs.Dispatch
import Rgbd.Proofs.Float.Sign

/-!
Framesets: how the syncer cuts the stream of frames into groups.

A pushed frame first ends the pending group when it repeats a stream of it or lies outside
the window of its first frame, then joins the pending frames, which are emitted at once when
they hold every expected stream (`push_eq`). So the groups returned, followed by what is
still pending, are always the frames pushed, in order and each once; every group is
nonempty and a push returns at most two. A pending group keeps its streams distinct and its
frames within the window of its first frame, and it never holds every expected stream; the
window is never below zero, so a frame is always within the window of itself, NaN
timestamps included.

Ingesting a delivery in synchronized mode dispatches, in order, the groups its video frames
complete, after publishing its inertial samples.
-/

namespace Rgbd

namespace FrameSyncer

def covers (expected : List StreamKey) (g : List Frame) : Bool :=
  expected.all fun k => g.any (·.key == k)

/-- The group a pushed frame joins: the pending frames unless the frame breaks them off,
then the frame. -/
def joined (s : FrameSyncer) (f : Frame) : List Frame :=
  (if s.breaksGroup f then [] else s.pending) ++ [f]

/-- A group as the syncer forms it: no stream twice, and every frame within `window` of the
first one. -/
def WellFormed (window : Float) (g : List Frame) : Prop :=
  (g.map (·.key)).Nodup ∧ ∀ first ∈ g.head?, ∀ f ∈ g, ¬ (f.timestamp - first.timestamp).abs > window

section Push

variable (s : FrameSyncer) (f : Frame)

theorem isComplete_eq : s.isComplete = covers s.expected s.pending := rfl

theorem pending_ne_nil_of_breaksGroup (h : s.breaksGroup f = true) : s.pending ≠ [] := by
  unfold breaksGroup at h
  split at h
  · cases h
  · simp_all

theorem joined_ne_nil : s.joined f ≠ [] := by simp [joined]

theorem joined_getLast? : (s.joined f).getLast? = some f := by simp [joined]

/-- What a push does: it emits the pending group when the frame breaks it off, then emits
the group the frame joined when that group holds every expected stream, and keeps it
pending otherwise. -/
theorem push_eq :
    s.push f =
      ((if s.breaksGroup f then [s.pending] else []) ++
          (if covers s.expected (s.joined f) then [s.joined f] else []),
        { s with pending := if covers s.expected (s.joined f) then [] else s.joined f }) := by
  unfold push
  by_cases hb : s.breaksGroup f = true
  · have hne := s.pending_ne_nil_of_breaksGroup f hb
    by_cases hc : covers s.expected [f] = true <;>
      simp [hb, hne, hc, flush, isComplete_eq, joined]
  · by_cases hc : covers s.expected (s.pending ++ [f]) = true <;>
      simp [hb, hc, flush, isComplete_eq, joined]

@[simp] theorem push_expected : (s.push f).2.expected = s.expected := by
  rw [push_eq]

@[simp] theorem push_window : (s.push f).2.window = s.window := by
  rw [push_eq]

theorem push_flatten : (s.push f).1.flatten ++ (s.push f).2.pending = s.pending ++ [f] := by
  rw [push_eq]
  by_cases hc : covers s.expected (s.joined f) = true
  · simp only [hc, if_true]
    by_cases hb : s.breaksGroup f = true <;> simp [hb, joined]
  · simp only [hc, Bool.false_eq_true, if_false]
    by_cases hb : s.breaksGroup f = true <;> simp [hb, joined]

theorem push_ne_nil : ∀ g ∈ (s.push f).1, g ≠ [] := by
  rw [push_eq]
  intro g hg
  simp only [List.mem_append] at hg
  rcases hg with hg | hg
  · split at hg
    · rename_i hb
      rw [List.mem_singleton.1 hg]
      exact s.pending_ne_nil_of_breaksGroup f hb
    · cases hg
  · split at hg
    · rw [List.mem_singleton.1 hg]
      exact s.joined_ne_nil f
    · cases hg

theorem push_length_le : (s.push f).1.length ≤ 2 := by
  rw [push_eq]
  simp only [List.length_append]
  split <;> split <;> simp

end Push

/-! ### Runs of pushes -/

section Runs

open Pipeline (pushAll)

theorem pushAll_cons (s : FrameSyncer) (f : Frame) (fs : List Frame) :
    pushAll s (f :: fs) = ((s.push f).1 ++ (pushAll (s.push f).2 fs).1, (pushAll (s.push f).2 fs).2) :=
  rfl

theorem pushAll_append (s : FrameSyncer) (xs ys : List Frame) :
    pushAll s (xs ++ ys) =
      ((pushAll s xs).1 ++ (pushAll (pushAll s xs).2 ys).1, (pushAll (pushAll s xs).2 ys).2) := by
  induction xs generalizing s with
  | nil => rfl
  | cons x xs ih => simp [pushAll_cons, ih]

theorem pushAll_flatten (s : FrameSyncer) (fs : List Frame) :
    (pushAll s fs).1.flatten ++ (pushAll s fs).2.pending = s.pending ++ fs := by
  induction fs generalizing s with
  | nil => simp [pushAll]
  | cons f fs ih =>
    rw [pushAll_cons, List.flatten_append, List.append_assoc, ih, ← List.append_assoc,
      push_flatten, List.append_assoc, List.singleton_append]

theorem pushAll_ne_nil (s : FrameSyncer) (fs : List Frame) : ∀ g ∈ (pushAll s fs).1, g ≠ [] := by
  induction fs generalizing s with
  | nil => simp [pushAll]
  | cons f fs ih =>
    rw [pushAll_cons]
    intro g hg
    rcases List.mem_append.1 hg with hg | hg
    · exact s.push_ne_nil f g hg
    · exact ih _ g hg

theorem pushAll_expected (s : FrameSyncer) (fs : List Frame) :
    (pushAll s fs).2.expected = s.expected ∧ (pushAll s fs).2.window = s.window := by
  induction fs generalizing s with
  | nil => exact ⟨rfl, rfl⟩
  | cons f fs ih =>
    rw [pushAll_cons]
    obtain ⟨he, hw⟩ := ih (s.push f).2
    exact ⟨he.trans (s.push_expected f), hw.trans (s.push_window f)⟩

theorem flush_flatten (s : FrameSyncer) : s.flush.1.toList.flatten = s.pending := by
  unfold flush
  split
  · rename_i h
    simp [List.isEmpty_iff.1 h]
  · simp

theorem flush_ne_nil (s : FrameSyncer) : ∀ g ∈ s.flush.1, g ≠ [] := by
  unfold flush
  split
  · simp
  · rename_i h
    intro g hg
    cases hg
    simpa using h

end Runs

/-! ### The shape of groups -/

theorem new_window_not_neg (streams : List (StreamKey × Nat)) : ¬ (new streams).window < 0 := by
  have hslow : ∀ (l : List (StreamKey × Nat)) (init : Nat),
      l.foldl (fun m (x : StreamKey × Nat) => min m (max x.2 1)) init ≤ init := by
    intro l
    induction l with
    | nil => intro init; exact le_refl _
    | cons x l ih => intro init; exact (ih _).trans (min_le_left _ _)
  unfold new
  dsimp only
  split
  · exact FloatModel.not_lt_zero_of_notNegative (by rw [FloatModel.unpack_zero_float]; rfl)
  · refine FloatModel.not_lt_zero_of_notNegative (FloatModel.notNegative_div_float
      (FloatModel.notNegative_ofNat (by norm_num)) (FloatModel.notNegative_ofNat ?_))
    exact lt_of_le_of_lt (hslow streams _) (by norm_num)

/-- What holds of a syncer between pushes: the window is not below zero, the pending group is
well formed, and it misses some expected stream. -/
structure Inv (s : FrameSyncer) : Prop where
  window : ¬ s.window < 0
  pending : WellFormed s.window s.pending
  incomplete : s.pending ≠ [] → covers s.expected s.pending = false

theorem inv_new (streams : List (StreamKey × Nat)) : Inv (new streams) where
  window := new_window_not_neg streams
  pending := ⟨List.nodup_nil, by simp [new]⟩
  incomplete h := absurd rfl h

section Shape

variable {s : FrameSyncer} (f : Frame)

theorem wellFormed_single {window : Float} (hw : ¬ window < 0) : WellFormed window [f] :=
  ⟨by simp, by
    simp only [List.head?_cons, Option.mem_def, Option.some.injEq, List.mem_singleton]
    rintro _ rfl _ rfl
    exact FloatModel.not_lt_abs_sub_self hw _⟩

theorem Inv.joined (h : Inv s) : WellFormed s.window (s.joined f) := by
  unfold FrameSyncer.joined
  by_cases hb : s.breaksGroup f = true
  · simpa [hb] using wellFormed_single f h.window
  · rw [if_neg hb]
    cases hp : s.pending with
    | nil => exact wellFormed_single f h.window
    | cons first rest =>
      have hwf := h.pending
      rw [hp] at hwf
      simp only [breaksGroup, hp, Bool.or_eq_true, decide_eq_true_eq, not_or] at hb
      obtain ⟨hkey, hnear⟩ := hb
      refine ⟨?_, ?_⟩
      · rw [List.map_append, List.nodup_append]
        refine ⟨hwf.1, by simp, ?_⟩
        intro a ha b hb hab
        simp only [List.map_cons, List.map_nil, List.mem_singleton] at hb
        obtain ⟨g, hg, rfl⟩ := List.mem_map.1 ha
        exact hkey (List.any_eq_true.2 ⟨g, hg, by simp [hab, hb]⟩)
      · intro x hx g hg
        rw [show x = first by simpa [eq_comm] using hx]
        rcases List.mem_append.1 hg with hg | hg
        · exact hwf.2 first rfl g hg
        · rw [List.mem_singleton.1 hg]
          exact hnear

theorem Inv.push (h : Inv s) : Inv (s.push f).2 := by
  rw [push_eq]
  refine ⟨h.window, ?_, ?_⟩
  · dsimp only
    split
    · exact ⟨List.nodup_nil, by simp⟩
    · exact h.joined f
  · dsimp only
    split
    · intro hne
      exact absurd rfl hne
    · rename_i hc
      intro _
      simpa using hc

theorem Inv.push_groups (h : Inv s) : ∀ g ∈ (s.push f).1, WellFormed s.window g := by
  rw [push_eq]
  intro g hg
  rcases List.mem_append.1 hg with hg | hg
  · split at hg
    · rw [List.mem_singleton.1 hg]
      exact h.pending
    · cases hg
  · split at hg
    · rw [List.mem_singleton.1 hg]
      exact h.joined f
    · cases hg

theorem push_pending_cases :
    ((s.push f).2.pending = [] ∧ ∃ g, (s.push f).1.getLast? = some g ∧ g.getLast? = some f ∧
        covers s.expected g = true) ∨
      ((s.push f).2.pending.getLast? = some f ∧ covers s.expected (s.push f).2.pending = false) := by
  rw [push_eq]
  dsimp only
  by_cases hc : covers s.expected (s.joined f) = true
  · exact Or.inl ⟨by simp [hc], s.joined f, by simp [hc], s.joined_getLast? f, hc⟩
  · simp only [hc, Bool.false_eq_true, if_false]
    exact Or.inr ⟨s.joined_getLast? f, by simp⟩

theorem Inv.push_of_expected_nil (h : Inv s) (he : s.expected = []) : s.push f = ([[f]], s) := by
  have hcov : ∀ g, covers s.expected g = true := by simp [covers, he]
  have hp : s.pending = [] := by
    by_contra hne
    exact absurd (h.incomplete hne) (by simp [hcov])
  have hb : s.breaksGroup f = false := by simp [breaksGroup, hp]
  have hj : s.joined f = [f] := by simp [FrameSyncer.joined, hb, hp]
  have hs : { s with pending := [] } = s := by rw [← hp]
  rw [push_eq]
  simp [hb, hcov, hj, hs]

end Shape

open Pipeline (pushAll)

theorem inv_pushAll {s : FrameSyncer} (h : Inv s) (fs : List Frame) : Inv (pushAll s fs).2 := by
  induction fs generalizing s with
  | nil => exact h
  | cons f fs ih => exact ih (h.push f)

theorem Inv.pushAll_groups {s : FrameSyncer} (h : Inv s) (fs : List Frame) :
    ∀ g ∈ (pushAll s fs).1, WellFormed s.window g := by
  induction fs generalizing s with
  | nil => simp [pushAll]
  | cons f fs ih =>
    rw [pushAll_cons]
    intro g hg
    rcases List.mem_append.1 hg with hg | hg
    · exact h.push_groups f g hg
    · simpa using ih (h.push f) g hg

theorem Inv.flush_groups {s : FrameSyncer} (h : Inv s) : ∀ g ∈ s.flush.1, WellFormed s.window g := by
  unfold flush
  split
  · simp
  · intro g hg
    cases hg
    exact h.pending

theorem Inv.pushAll_of_expected_nil {s : FrameSyncer} (h : Inv s) (he : s.expected = [])
    (fs : List Frame) : pushAll s fs = (fs.map fun f => [f], s) := by
  induction fs with
  | nil => rfl
  | cons f fs ih => rw [pushAll_cons, h.push_of_expected_nil f he, ih]; rfl

end FrameSyncer

/-! ### Ingesting in synchronized mode -/

namespace Delivery

def motionFrames (d : Delivery) : List Frame := d.frames.filter (·.key.isMotion)

def videoFrames (d : Delivery) : List Frame := d.frames.filter fun f => !f.key.isMotion

end Delivery

namespace Pipeline

variable {σ : Type} [Publisher σ] [HostClock σ]

omit [HostClock σ] in
theorem settled_dispatchMotions (fs : List Frame) (p : Pipeline) (w : σ) :
    Settled p ((fs.foldlM dispatchMotion p).run w).1 :=
  settled_foldlM (fun p f w => settled_dispatchMotion p f w) fs p w

theorem settled_dispatchGroups (gs : List (List Frame)) (p : Pipeline) (w : σ) :
    Settled p ((gs.foldlM (fun (p : Pipeline) g => p.dispatch g true) p).run w).1 :=
  settled_foldlM (fun p g w => settled_dispatch p g true w) gs p w

theorem ingest_synced (p : Pipeline) (s : FrameSyncer) (d : Delivery) (w : σ) :
    (({ p with syncer := some s } : Pipeline).ingest d).run w =
      let r := (d.motionFrames.foldlM dispatchMotion ({ p with syncer := some s } : Pipeline)).run w
      ((pushAll s d.videoFrames).1.foldlM (fun (p : Pipeline) g => p.dispatch g true)
        { r.1 with syncer := some (pushAll s d.videoFrames).2 }).run r.2 := by
  unfold ingest
  dsimp only
  rw [show d.frames.filter (·.key.isMotion) = d.motionFrames from rfl,
    show (d.frames.filter fun f => !f.key.isMotion) = d.videoFrames from rfl, run_bind]
  have hs := (settled_dispatchMotions d.motionFrames ({ p with syncer := some s } : Pipeline) w).syncer
  generalize (d.motionFrames.foldlM dispatchMotion ({ p with syncer := some s } : Pipeline)).run w = r
    at hs ⊢
  obtain ⟨q, w'⟩ := r
  dsimp only at hs ⊢
  by_cases hv : d.videoFrames = []
  · have hq : ({ q with syncer := some s } : Pipeline) = q := by rw [← hs]
    simp [hv, pushAll, hq]
  · rw [if_neg (by simpa using hv), hs]

theorem ingestAll_syncer (ds : List Delivery) (p : Pipeline) (s : FrameSyncer) (w : σ) :
    ((ds.foldlM (fun (p : Pipeline) d => p.ingest d)
      ({ p with syncer := some s } : Pipeline)).run w).1.syncer =
      some (pushAll s (ds.flatMap Delivery.videoFrames)).2 := by
  induction ds generalizing p s w with
  | nil => rfl
  | cons d ds ih =>
    rw [run_foldlM_cons, ingest_synced]
    dsimp only
    generalize hr : (((pushAll s d.videoFrames).1.foldlM
      (fun (p : Pipeline) g => p.dispatch g true) _).run _ : Pipeline × σ) = r
    have hsync : r.1.syncer = some (pushAll s d.videoFrames).2 := by
      rw [← hr, (settled_dispatchGroups _ _ _).syncer]
    have hq : (r.1 : Pipeline) = { r.1 with syncer := some (pushAll s d.videoFrames).2 } := by
      rw [← hsync]
    rw [hq, ih, List.flatMap_cons, FrameSyncer.pushAll_append]

end Pipeline

/-! ### The syncer's contract -/

open FrameSyncer Pipeline

/-- The syncer loses, duplicates and reorders nothing. From a fresh syncer, the groups of any
run of pushes followed by those of the closing flush are the pushed frames, and none is
empty; no push returns more than two groups. In synchronized mode a delivery, after its
inertial samples, dispatches in order groups that, followed by what the syncer then holds,
are the frames it held before followed by the delivery's video frames. -/
theorem syncer_partitions_frames (streams : List (StreamKey × Nat)) (fs : List Frame) :
    let run := pushAll (new streams) fs
    (run.1 ++ run.2.flush.1.toList).flatten = fs ∧
      (∀ g ∈ run.1 ++ run.2.flush.1.toList, g ≠ []) ∧
      (∀ (s : FrameSyncer) (f : Frame), (s.push f).1.length ≤ 2) ∧
      ∀ {σ : Type} [Publisher σ] [HostClock σ] (p : Pipeline) (s : FrameSyncer) (d : Delivery)
        (w : σ), ∃ (gs : List (List Frame)) (s' : FrameSyncer),
          gs.flatten ++ s'.pending = s.pending ++ d.videoFrames ∧ (∀ g ∈ gs, g ≠ []) ∧
          (({ p with syncer := some s } : Pipeline).ingest d).run w =
            let r := (d.motionFrames.foldlM dispatchMotion
              ({ p with syncer := some s } : Pipeline)).run w
            (gs.foldlM (fun (p : Pipeline) g => p.dispatch g true)
              { r.1 with syncer := some s' }).run r.2 := by
  intro run
  refine ⟨?_, ?_, push_length_le, ?_⟩
  · rw [List.flatten_append, flush_flatten, pushAll_flatten]
    rfl
  · intro g hg
    rcases List.mem_append.1 hg with hg | hg
    · exact pushAll_ne_nil _ _ g hg
    · exact flush_ne_nil _ g (Option.mem_toList.1 hg)
  · intro σ _ _ p s d w
    exact ⟨_, _, pushAll_flatten s d.videoFrames, pushAll_ne_nil s d.videoFrames,
      ingest_synced p s d w⟩

/-- Every group the syncer emits, from a push or a flush, repeats no stream and keeps its
frames within the window of its first one. A push that completes a group emits it at once,
so what stays pending misses an expected stream; with no expected stream every frame is a
group of its own. -/
theorem syncer_groups_well_formed (streams : List (StreamKey × Nat)) (fs : List Frame) :
    let run := pushAll (new streams) fs
    (∀ g ∈ run.1 ++ run.2.flush.1.toList, WellFormed (new streams).window g) ∧
      (∀ (s : FrameSyncer) (f : Frame),
        ((s.push f).2.pending = [] ∧ ∃ g, (s.push f).1.getLast? = some g ∧ g.getLast? = some f ∧
            covers s.expected g = true) ∨
          ((s.push f).2.pending.getLast? = some f ∧
            covers s.expected (s.push f).2.pending = false)) ∧
      pushAll (new []) fs = (fs.map fun f => [f], new []) := by
  intro run
  refine ⟨?_, fun s f => push_pending_cases (s := s) f,
    (inv_new []).pushAll_of_expected_nil rfl fs⟩
  intro g hg
  rcases List.mem_append.1 hg with hg | hg
  · exact (inv_new streams).pushAll_groups fs g hg
  · have hw := (pushAll_expected (new streams) fs).2
    rw [← hw]
    exact (inv_pushAll (inv_new streams) fs).flush_groups g (Option.mem_toList.1 hg)

end Rgbd
