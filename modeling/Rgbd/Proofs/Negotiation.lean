import Rgbd.Proofs.Recovery

/-!
Choosing stream profiles.

The rules of negotiation, stated on their own: the first module whose name is not one of the
five supported ones is refused. Otherwise each standard stream belongs to the last module
that serves it (`servingModule`), and the streams are visited in order; an enabled stream
gets the first profile of its module that offers it as requested (`StreamProfile.Offers`: key
and format those asked for, and width, height and rate each equal to the request unless that
is zero, for video and inertial streams alike), and a stream with none is skipped
(`offeredProfile`). Video without depth is refused.

A build opens each module once with the profiles chosen for it, in the order they were
chosen (`groupByModule_spec`), and its pipeline holds exactly the chosen streams. Main
statement: `negotiation_follows_the_rules`, the laws of `Negotiates`; the bench satisfies
them (`negotiation_follows_the_rules_on_bench`).
-/

namespace Rgbd

namespace SensorModule

def supported (m : SensorModule) : Bool := (moduleStreams m.name).isSome

def served (m : SensorModule) : List StreamKey := (moduleStreams m.name).getD []

end SensorModule

/-- The module serving stream `k`: the last one in list order that serves it. -/
def servingModule (modules : List SensorModule) (k : StreamKey) : Option SensorModule :=
  (modules.filter fun m => k ∈ m.served).getLast?

/-- A profile that offers stream `k` in format `format` as `requested`: its key and format are
those, and its width, height and rate each equal the request unless that is zero. -/
def StreamProfile.Offers (p : StreamProfile) (k : StreamKey) (format : PixelFormat)
    (requested : StreamSettings) : Prop :=
  p.key = k ∧ p.format = format ∧ (requested.width = 0 ∨ requested.width = p.width) ∧
    (requested.height = 0 ∨ requested.height = p.height) ∧
    (requested.fps = 0 ∨ requested.fps = p.fps)

instance (p : StreamProfile) (k : StreamKey) (format : PixelFormat) (requested : StreamSettings) :
    Decidable (p.Offers k format requested) :=
  inferInstanceAs (Decidable (_ ∧ _))

/-- The profile chosen for stream `k`, with its module: when the stream is enabled, the first
profile of its serving module that offers it as requested. -/
def offeredProfile (modules : List SensorModule) (settings : Settings) (k : StreamKey) :
    Option (String × StreamProfile) := do
  let requested ← settings.stream k
  if !requested.enabled then none
  let m ← servingModule modules k
  let p ← m.profiles.find? fun p => decide (p.Offers k (settings.format k) requested)
  pure (m.name, p)

def selection (modules : List SensorModule) (settings : Settings) : List (String × StreamProfile) :=
  (StreamKey.video ++ StreamKey.motion).filterMap (offeredProfile modules settings)

/-! ### Matching a request -/

theorem accepts_iff (wanted offered : Nat) :
    accepts wanted offered = true ↔ wanted = 0 ∨ wanted = offered := by
  simp [accepts]

theorem meets_eq_decide (p : StreamProfile) (k : StreamKey) (format : PixelFormat)
    (requested : StreamSettings) :
    p.meets k format requested = decide (p.Offers k format requested) := by
  rw [Bool.eq_iff_iff, decide_eq_true_iff]
  unfold StreamProfile.meets StreamProfile.Offers
  rw [Bool.and_eq_true, Bool.and_eq_true, Bool.and_eq_true, Bool.and_eq_true, beq_iff_eq,
    beq_iff_eq, accepts_iff, accepts_iff, accepts_iff]
  tauto

/-! ### Owners of streams -/

theorem find?_foldl_insert (keys : List StreamKey) (m : SensorModule)
    (owners : StreamMap SensorModule) (k : StreamKey) :
    (keys.foldl (fun o k => o.insert k m) owners).find? k =
      if k ∈ keys then some m else owners.find? k := by
  induction keys generalizing owners with
  | nil => simp
  | cons k₁ keys ih =>
    rw [List.foldl_cons, ih, StreamMap.find?_insert]
    by_cases h₁ : k = k₁ <;> by_cases h : k ∈ keys <;> simp [h₁, h]

theorem servingModule_append_singleton (modules : List SensorModule) (m : SensorModule)
    (k : StreamKey) :
    servingModule (modules ++ [m]) k =
      if k ∈ m.served then some m else servingModule modules k := by
  unfold servingModule
  rw [List.filter_append, List.getLast?_append]
  by_cases hk : k ∈ m.served <;> simp [hk]

theorem streamOwners_spec (modules : List SensorModule) :
    (∃ m, modules.find? (!·.supported) = some m ∧
        streamOwners modules = .error (.unsupportedModule m.name)) ∨
      (modules.find? (!·.supported) = none ∧
        ∃ owners, streamOwners modules = .ok owners ∧
          ∀ k, owners.find? k = servingModule modules k) := by
  unfold streamOwners
  induction modules using List.reverseRecOn with
  | nil => exact .inr ⟨rfl, _, rfl, fun k => rfl⟩
  | append_singleton ms m ih =>
    rw [List.foldlM_append, List.find?_append]
    rcases ih with ⟨m₀, hfind, herr⟩ | ⟨hfind, owners, hok, howners⟩
    · refine .inl ⟨m₀, by rw [hfind]; rfl, ?_⟩
      rw [herr]
      rfl
    · rw [hfind, hok, Option.none_or]
      cases hs : moduleStreams m.name with
      | none =>
        refine .inl ⟨m, by simp [SensorModule.supported, hs], ?_⟩
        simp only [List.foldlM_cons, List.foldlM_nil, hs]
        rfl
      | some keys =>
        refine .inr ⟨by simp [SensorModule.supported, hs],
          keys.foldl (fun o k => o.insert k m) owners,
          by simp only [List.foldlM_cons, List.foldlM_nil, hs]; rfl, fun k => ?_⟩
        rw [find?_foldl_insert, howners, servingModule_append_singleton]
        simp [SensorModule.served, hs]

/-! ### Negotiation -/

theorem chooseProfile_eq {modules : List SensorModule} {owners : StreamMap SensorModule}
    (howners : ∀ k, owners.find? k = servingModule modules k) (settings : Settings)
    (k : StreamKey) : chooseProfile settings owners k = offeredProfile modules settings k := by
  unfold chooseProfile offeredProfile
  simp only [howners, meets_eq_decide]

theorem negotiate_unsupported {modules : List SensorModule} {m : SensorModule}
    (h : modules.find? (!·.supported) = some m) (settings : Settings) :
    negotiate modules settings = .error (.unsupportedModule m.name) := by
  rcases streamOwners_spec modules with ⟨m₀, hm₀, herr⟩ | ⟨hnone, -⟩
  · rw [h] at hm₀
    cases hm₀
    unfold negotiate
    rw [herr]
    rfl
  · rw [h] at hnone
    cases hnone

theorem negotiate_supported {modules : List SensorModule}
    (h : modules.find? (!·.supported) = none) (settings : Settings) :
    negotiate modules settings =
      if (∃ c ∈ selection modules settings, c.2.key.isMotion = false) ∧
          ¬∃ c ∈ selection modules settings, c.2.key.isDepth = true then
        .error .missingDepthProfile
      else .ok (selection modules settings) := by
  rcases streamOwners_spec modules with ⟨m, hm, -⟩ | ⟨-, owners, hok, howners⟩
  · rw [h] at hm
    cases hm
  · have hsel : (StreamKey.video ++ StreamKey.motion).filterMap (chooseProfile settings owners) =
        selection modules settings := by
      unfold selection
      congr 1
      funext k
      exact chooseProfile_eq howners settings k
    unfold negotiate
    rw [hok]
    show (if _ then _ else _) = _
    rw [hsel]
    have hcond : ((((selection modules settings).any fun c => !c.2.key.isMotion) &&
        !(selection modules settings).any fun c => c.2.key.isDepth) = true) ↔
        (∃ c ∈ selection modules settings, c.2.key.isMotion = false) ∧
          ¬∃ c ∈ selection modules settings, c.2.key.isDepth = true := by
      simp [List.any_eq_true]
    exact if_congr hcond rfl rfl

theorem offeredProfile_eq_some_iff (modules : List SensorModule) (settings : Settings)
    (k : StreamKey) (name : String) (p : StreamProfile) :
    offeredProfile modules settings k = some (name, p) ↔
      ∃ requested m, settings.stream k = some requested ∧ requested.enabled = true ∧
        servingModule modules k = some m ∧ m.name = name ∧
        p.Offers k (settings.format k) requested ∧
        ∃ pre post, m.profiles = pre ++ p :: post ∧
          ∀ q ∈ pre, ¬q.Offers k (settings.format k) requested := by
  unfold offeredProfile
  cases hs : settings.stream k with
  | none => simp
  | some r =>
    cases he : r.enabled with
    | false => simp [he]
    | true =>
      cases hm : servingModule modules k with
      | none => simp
      | some m =>
        simp [he]
        rw [Option.bind_eq_some_iff]
        constructor
        · rintro ⟨q, hq, ⟨⟩⟩
          obtain ⟨hoff, pre, post, hsplit, hpre⟩ := List.find?_eq_some_iff_append.1 hq
          exact ⟨rfl, of_decide_eq_true hoff, pre, ⟨post, hsplit⟩,
            fun q' hq' => by simpa using hpre q' hq'⟩
        · rintro ⟨rfl, hoff, pre, ⟨post, hsplit⟩, hpre⟩
          exact ⟨p, List.find?_eq_some_iff_append.2 ⟨decide_eq_true hoff, pre, post, hsplit,
            fun q' hq' => by simpa using hpre q' hq'⟩, rfl⟩

theorem negotiate_eq_ok {modules : List SensorModule} {settings : Settings}
    {selected : List (String × StreamProfile)} (h : negotiate modules settings = .ok selected) :
    selected = selection modules settings := by
  cases hfind : modules.find? (!·.supported) with
  | some m =>
    rw [negotiate_unsupported hfind] at h
    cases h
  | none =>
    rw [negotiate_supported hfind] at h
    split_ifs at h
    cases h
    rfl

theorem offeredProfile_key {modules : List SensorModule} {settings : Settings} {k : StreamKey}
    {c : String × StreamProfile} (h : offeredProfile modules settings k = some c) : c.2.key = k := by
  obtain ⟨name, p⟩ := c
  obtain ⟨_, _, _, _, _, _, hoffers, _⟩ := (offeredProfile_eq_some_iff _ _ _ _ _).1 h
  exact hoffers.1

theorem nodup_selection_keys (modules : List SensorModule) (settings : Settings) :
    ((selection modules settings).map (·.2.key)).Nodup := by
  unfold selection
  rw [List.map_filterMap]
  refine List.Nodup.filterMap (fun k k' key hk hk' => ?_) (by decide)
  obtain ⟨c, hc, rfl⟩ := Option.mem_map.1 hk
  obtain ⟨c', hc', hkey⟩ := Option.mem_map.1 hk'
  rw [← offeredProfile_key hc, ← offeredProfile_key hc', hkey]

/-! ### Grouping by module -/

def chosenFrom (selected : List (String × StreamProfile)) (m : String) : List StreamProfile :=
  (selected.filter (·.1 == m)).map (·.2)

def GroupsOf (selected : List (String × StreamProfile))
    (groups : List (String × List StreamProfile)) : Prop :=
  (groups.map (·.1)).Nodup ∧
    ∀ m ps, (m, ps) ∈ groups ↔ m ∈ selected.map (·.1) ∧ ps = chosenFrom selected m

theorem chosenFrom_append_singleton (selected : List (String × StreamProfile)) (m n : String)
    (p : StreamProfile) :
    chosenFrom (selected ++ [(m, p)]) n = chosenFrom selected n ++ if m = n then [p] else [] := by
  unfold chosenFrom
  by_cases h : m = n <;> simp [List.filter_append, h]

theorem chosenFrom_eq_nil {selected : List (String × StreamProfile)} {m : String}
    (h : m ∉ selected.map (·.1)) : chosenFrom selected m = [] := by
  unfold chosenFrom
  rw [List.map_eq_nil_iff, List.filter_eq_nil_iff]
  intro e he hm
  exact h (List.mem_map.2 ⟨e, he, by simpa using hm⟩)

theorem GroupsOf.mem_names {selected : List (String × StreamProfile)}
    {groups : List (String × List StreamProfile)} (h : GroupsOf selected groups) (m : String) :
    m ∈ groups.map (·.1) ↔ m ∈ selected.map (·.1) := by
  constructor
  · intro hm
    obtain ⟨⟨n, ps⟩, hmem, rfl⟩ := List.mem_map.1 hm
    exact ((h.2 n ps).1 hmem).1
  · intro hm
    exact List.mem_map.2 ⟨(m, _), (h.2 m _).2 ⟨hm, rfl⟩, rfl⟩

theorem groupByModule_append_singleton (selected : List (String × StreamProfile)) (m : String)
    (p : StreamProfile) :
    groupByModule (selected ++ [(m, p)]) =
      if (groupByModule selected).any (·.1 == m) then
        (groupByModule selected).map fun g => if g.1 == m then (g.1, g.2 ++ [p]) else g
      else groupByModule selected ++ [(m, [p])] := by
  unfold groupByModule
  rw [List.foldl_append]
  rfl

theorem GroupsOf.join {selected : List (String × StreamProfile)}
    {groups : List (String × List StreamProfile)} (h : GroupsOf selected groups) {m : String}
    (hm : m ∈ selected.map (·.1)) (p : StreamProfile) :
    GroupsOf (selected ++ [(m, p)])
      (groups.map fun g => if g.1 == m then (g.1, g.2 ++ [p]) else g) := by
  obtain ⟨hnodup, hmem⟩ := h
  refine ⟨?_, fun n ps => ?_⟩
  · have hnames : (groups.map fun g => if g.1 == m then (g.1, g.2 ++ [p]) else g).map (·.1) =
        groups.map (·.1) := by
      rw [List.map_map]
      refine List.map_congr_left fun g _ => ?_
      simp only [Function.comp_apply]
      split <;> rfl
    rw [hnames]
    exact hnodup
  · rw [List.mem_map, chosenFrom_append_singleton, List.map_append, List.mem_append]
    by_cases hn : m = n
    · subst hn
      simp only [↓reduceIte, List.map_cons, List.map_nil, List.mem_singleton, or_true, true_and]
      constructor
      · rintro ⟨⟨n', ps'⟩, hg, heq⟩
        by_cases hn' : n' = m
        · subst hn'
          simp only [beq_self_eq_true, ↓reduceIte, Prod.mk.injEq, true_and] at heq
          rw [← heq, ((hmem n' ps').1 hg).2]
        · rw [if_neg (by simpa using hn'), Prod.mk.injEq] at heq
          exact absurd heq.1 hn'
      · rintro rfl
        exact ⟨(m, chosenFrom selected m), (hmem m _).2 ⟨hm, rfl⟩, by simp⟩
    · simp only [hn, ↓reduceIte, List.append_nil, List.map_cons, List.map_nil,
        List.mem_singleton, Ne.symm hn, or_false]
      rw [← hmem n ps]
      constructor
      · rintro ⟨g, hg, heq⟩
        by_cases hgm : g.1 = m
        · rw [if_pos (by simpa using hgm), Prod.mk.injEq] at heq
          exact absurd (hgm.symm.trans heq.1) hn
        · rw [if_neg (by simpa using hgm)] at heq
          rwa [← heq]
      · intro hg
        refine ⟨(n, ps), hg, ?_⟩
        rw [if_neg (by simpa using Ne.symm hn)]

theorem GroupsOf.start {selected : List (String × StreamProfile)}
    {groups : List (String × List StreamProfile)} (h : GroupsOf selected groups) {m : String}
    (hm : m ∉ selected.map (·.1)) (p : StreamProfile) :
    GroupsOf (selected ++ [(m, p)]) (groups ++ [(m, [p])]) := by
  have hnames := h.mem_names
  obtain ⟨hnodup, hmem⟩ := h
  refine ⟨?_, fun n ps => ?_⟩
  · rw [List.map_append, List.nodup_append]
    refine ⟨hnodup, List.nodup_singleton m, fun a ha b hb => ?_⟩
    rw [List.map_cons, List.map_nil, List.mem_singleton] at hb
    rintro rfl
    obtain rfl : a = m := hb
    exact hm ((hnames a).1 ha)
  · rw [List.mem_append, List.mem_singleton, chosenFrom_append_singleton, List.map_append,
      List.mem_append, hmem]
    by_cases hn : m = n
    · subst hn
      simp only [↓reduceIte, hm, false_and, false_or, chosenFrom_eq_nil hm, List.nil_append,
        List.map_cons, List.map_nil, List.mem_singleton, or_true, true_and, Prod.mk.injEq]
    · simp only [if_neg hn, List.append_nil, Prod.mk.injEq, Ne.symm hn, false_and, or_false,
        List.map_cons, List.map_nil, List.mem_singleton]

/-- Grouping the chosen profiles by module names each module once, with the profiles chosen
from it in the order they were chosen. -/
theorem groupByModule_spec (selected : List (String × StreamProfile)) :
    GroupsOf selected (groupByModule selected) := by
  induction selected using List.reverseRecOn with
  | nil => exact ⟨List.nodup_nil, fun m ps => by simp [groupByModule]⟩
  | append_singleton l x ih =>
    obtain ⟨m, p⟩ := x
    rw [groupByModule_append_singleton]
    have hnames := ih.mem_names m
    generalize groupByModule l = g at ih hnames ⊢
    by_cases hm : m ∈ l.map (·.1)
    · have hany : g.any (·.1 == m) = true := by
        obtain ⟨e, he, rfl⟩ := List.mem_map.1 (hnames.2 hm)
        exact List.any_eq_true.2 ⟨e, he, beq_self_eq_true _⟩
      rw [if_pos hany]
      exact ih.join hm p
    · have hany : g.any (·.1 == m) = false := by
        rw [Bool.eq_false_iff, ne_eq, List.any_eq_true]
        rintro ⟨e, he, hem⟩
        exact hm (hnames.1 (List.mem_map.2 ⟨e, he, by simpa using hem⟩))
      rw [if_neg (by simp [hany])]
      exact ih.start hm p

/-! ### Keys of stream maps -/

theorem StreamMap.keys_insertEntry {α : Type} {k : StreamKey} {l : List (StreamKey × α)}
    (h : k ∉ l.map (·.1)) (v : α) :
    ((StreamMap.insertEntry k v l).map (·.1)).Perm (k :: l.map (·.1)) := by
  induction l with
  | nil => exact .refl _
  | cons e rest ih =>
    obtain ⟨k', v'⟩ := e
    rw [List.map_cons, List.mem_cons, not_or] at h
    unfold StreamMap.insertEntry
    split
    · exact .refl _
    · rename_i heq
      exact absurd (StreamKey.compare_eq_iff.1 heq) h.1
    · rw [List.map_cons, List.map_cons]
      exact ((ih h.2).cons k').trans (.swap k k' _)

theorem StreamMap.keys_insert {α : Type} {m : StreamMap α} {k : StreamKey} (h : k ∉ m.keys)
    (v : α) : (m.insert k v).keys.Perm (k :: m.keys) :=
  StreamMap.keys_insertEntry h v

/-! ### Successful builds -/

section Building

variable {σ : Type} {α β : Type}

theorem Build.run_bind_eq_ok {x : Build σ α} {f : α → Build σ β} {w w' : σ} {b : β}
    (h : (x >>= f).run.run w = (.ok b, w')) :
    ∃ a w₁, x.run.run w = (.ok a, w₁) ∧ (f a).run.run w₁ = (.ok b, w') := by
  simp only [ExceptT.run_bind, Pipeline.run_bind] at h
  generalize hr : x.run.run w = r at h
  obtain ⟨_ | a, w₁⟩ := r
  · cases h
  · exact ⟨a, w₁, rfl, h⟩

theorem Pipeline.Keeps.world_eq {x : Build σ α} (hx : Pipeline.Keeps id x.run) {w w' : σ}
    {a : α} (h : x.run.run w = (.ok a, w')) : w' = w := by
  have hw := hx w
  rw [h] at hw
  exact hw

theorem Build.call_eq_ok {x : StateM σ (Except DeviceError α)} {w w' : σ} {a : α}
    (h : (Build.call x).run.run w = (.ok a, w')) : x.run w = (.ok a, w') := by
  unfold Build.call at h
  obtain ⟨r, w₁, hr, hmatch⟩ := Build.run_bind_eq_ok h
  have hlift : (liftM x : Build σ _).run.run w = (.ok (x.run w).1, (x.run w).2) := rfl
  rw [hlift, Prod.mk.injEq, Except.ok.injEq] at hr
  obtain ⟨hr, rfl⟩ := hr
  cases r with
  | ok b =>
    cases hmatch
    exact Prod.ext hr rfl
  | error e => cases hmatch

theorem Build.lift_eq_ok {ε : Type} {f : ε → EngineError} {r : Except ε α} {w w' : σ} {a : α}
    (h : (Build.lift f r : Build σ α).run.run w = (.ok a, w')) : r = .ok a ∧ w' = w := by
  cases r with
  | ok b =>
    cases h
    exact ⟨rfl, rfl⟩
  | error e => cases h

variable [Camera σ]

/-- `log` lists, oldest first, the modules a world opened, each with the profiles it was
opened with. -/
def LogsOpenings (log : σ → List (String × List StreamProfile)) : Prop :=
  ∀ m ps w, log ((Camera.openModule m ps : StateM σ _).run w).2 = log w ++ [(m, ps)]

variable {log : σ → List (String × List StreamProfile)}

theorem log_openModules (hlog : LogsOpenings log) (groups : List (String × List StreamProfile))
    {w w' : σ} (h : (Pipeline.openModules groups).run.run w = (.ok (), w')) :
    log w' = log w ++ groups := by
  induction groups generalizing w with
  | nil =>
    cases h
    exact (List.append_nil _).symm
  | cons g groups ih =>
    obtain ⟨m, ps⟩ := g
    unfold Pipeline.openModules at h
    obtain ⟨u, w₁, hopen, hrest⟩ := Build.run_bind_eq_ok h
    have hlogged : log w₁ = log w ++ [(m, ps)] := by
      rw [← hlog m ps w, Build.call_eq_ok hopen]
    rw [ih hrest, hlogged, List.append_assoc, List.singleton_append]

theorem readStreams_keys {ps : List StreamProfile} {video : StreamMap VideoStream}
    {motion : StreamMap MotionIntrinsics} (hnodup : (ps.map (·.key)).Nodup)
    (hfresh : ∀ p ∈ ps, p.key ∉ video.keys ∧ p.key ∉ motion.keys) {w w' : σ}
    {r : StreamMap VideoStream × StreamMap MotionIntrinsics}
    (h : (Pipeline.readStreams ps video motion).run.run w = (.ok r, w')) :
    r.1.keys.Perm (video.keys ++ (ps.map (·.key)).filter (!·.isMotion)) ∧
      r.2.keys.Perm (motion.keys ++ (ps.map (·.key)).filter (·.isMotion)) := by
  induction ps generalizing video motion w with
  | nil =>
    cases h
    simp
  | cons p ps ih =>
    rw [List.map_cons, List.nodup_cons] at hnodup
    have hnew := hfresh p List.mem_cons_self
    have hold : ∀ q ∈ ps, q.key ≠ p.key ∧ q.key ∉ video.keys ∧ q.key ∉ motion.keys :=
      fun q hq => ⟨fun he => hnodup.1 (he ▸ List.mem_map_of_mem hq),
        hfresh q (List.mem_cons_of_mem p hq)⟩
    unfold Pipeline.readStreams at h
    split at h
    · rename_i hm
      obtain ⟨mi, w₁, -, h⟩ := Build.run_bind_eq_ok h
      have hkeys := StreamMap.keys_insert hnew.2 mi
      obtain ⟨hv, hmo⟩ := ih hnodup.2 (fun q hq => ⟨(hold q hq).2.1, fun hk =>
        ((List.mem_cons.1 (hkeys.mem_iff.1 hk)).elim (hold q hq).1 (hold q hq).2.2)⟩) h
      rw [List.map_cons, List.filter_cons_of_neg (by simp [hm]), List.filter_cons_of_pos hm]
      exact ⟨hv, hmo.trans ((hkeys.append_right _).trans List.perm_middle.symm)⟩
    · rename_i hm
      obtain ⟨v, w₁, -, h⟩ := Build.run_bind_eq_ok h
      have hkeys := StreamMap.keys_insert hnew.1 v
      obtain ⟨hv, hmo⟩ := ih hnodup.2 (fun q hq => ⟨fun hk =>
        ((List.mem_cons.1 (hkeys.mem_iff.1 hk)).elim (hold q hq).1 (hold q hq).2.1),
        (hold q hq).2.2⟩) h
      rw [List.map_cons, List.filter_cons_of_pos (by simp [hm]), List.filter_cons_of_neg hm]
      exact ⟨hv.trans ((hkeys.append_right _).trans List.perm_middle.symm), hmo⟩

theorem build_opens_chosen (hlog : LogsOpenings log) {settings : Settings} {w w' : σ}
    {p : Pipeline} (h : (Pipeline.build settings).run.run w = (.ok p, w')) :
    negotiate (Camera.modules w) settings = .ok (selection (Camera.modules w) settings) ∧
      log w' = log w ++ groupByModule (selection (Camera.modules w) settings) ∧
      p.streams.Perm (((selection (Camera.modules w) settings).map (·.2.key)).filter
        (!·.isMotion)) ∧
      p.motionStreams.Perm (((selection (Camera.modules w) settings).map (·.2.key)).filter
        (·.isMotion)) := by
  unfold Pipeline.build at h
  obtain ⟨w₀, w₁, hget, h₁⟩ := Build.run_bind_eq_ok h
  obtain ⟨hw₀, hw₁⟩ : w₀ = w ∧ w₁ = w := by
    cases hget
    exact ⟨rfl, rfl⟩
  subst w₀ w₁
  dsimp only at h₁
  obtain ⟨selected, w₂, hlift, h₂⟩ := Build.run_bind_eq_ok h₁
  obtain ⟨hneg, hw₂⟩ := Build.lift_eq_ok hlift
  subst w₂
  obtain rfl := negotiate_eq_ok hneg
  obtain ⟨u, w₃, hopen, h₃⟩ := Build.run_bind_eq_ok h₂
  have hopened := log_openModules hlog _ hopen
  have hread : ∀ {w₄ w₅ : σ} {r : StreamMap VideoStream × StreamMap MotionIntrinsics},
      (Pipeline.readStreams ((selection (Camera.modules w) settings).map (·.2)) {} {}).run.run
        w₄ = (.ok r, w₅) →
      r.1.keys.Perm (((selection (Camera.modules w) settings).map (·.2.key)).filter
        (!·.isMotion)) ∧
      r.2.keys.Perm (((selection (Camera.modules w) settings).map (·.2.key)).filter
        (·.isMotion)) := fun h => by
    have hkeys := readStreams_keys (by rw [List.map_map]; exact nodup_selection_keys _ _)
      (fun _ _ => ⟨List.not_mem_nil, List.not_mem_nil⟩) h
    rwa [List.map_map] at hkeys
  cases hdepth : (selection (Camera.modules w) settings).find? (·.2.key.isDepth) <;>
    rw [hdepth] at h₃ <;> dsimp only at h₃ <;>
    obtain ⟨depthScale, w₄, hscale, h₄⟩ := Build.run_bind_eq_ok h₃
  on_goal 1 => cases hscale
  on_goal 2 => obtain rfl := (Pipeline.keeps_query _ : Pipeline.Keeps id _).world_eq hscale
  all_goals
    obtain ⟨⟨video, motion⟩, w₅, hstreams, h₅⟩ := Build.run_bind_eq_ok h₄
    obtain rfl := (Pipeline.keeps_readStreams _ _ _ : Pipeline.Keeps id _).world_eq hstreams
    obtain ⟨hvideo, hmotion⟩ := hread hstreams
    dsimp only at h₅
    obtain ⟨extrinsics, w₆, hext, h₆⟩ := Build.run_bind_eq_ok h₅
  on_goal 1 => cases hext
  on_goal 2 =>
    obtain rfl := (Pipeline.keeps_readExtrinsics _ _ _ _ : Pipeline.Keeps id _).world_eq hext
  all_goals
    obtain ⟨filters, w₇, hfilters, h₇⟩ := Build.run_bind_eq_ok h₆
    obtain ⟨-, rfl⟩ := Build.lift_eq_ok hfilters
    cases h₇
    exact ⟨hneg, hopened, hvideo, hmotion⟩

end Building

/-! ### The rules -/

section Rules

variable (σ : Type) [Camera σ]

/-- How profiles are chosen and modules opened, in a world whose openings `log` records. -/
structure Negotiates (log : σ → List (String × List StreamProfile)) : Prop where
  /-- The first module that is not supported is refused. -/
  unsupported : ∀ (modules : List SensorModule) (settings : Settings) (m : SensorModule),
    modules.find? (!·.supported) = some m →
      negotiate modules settings = .error (.unsupportedModule m.name)
  /-- Otherwise the chosen profiles come back, in stream visiting order, unless video was
  chosen without depth. -/
  supported : ∀ (modules : List SensorModule) (settings : Settings),
    modules.find? (!·.supported) = none →
      negotiate modules settings =
        if (∃ c ∈ selection modules settings, c.2.key.isMotion = false) ∧
            ¬∃ c ∈ selection modules settings, c.2.key.isDepth = true then
          .error .missingDepthProfile
        else .ok (selection modules settings)
  /-- An enabled stream gets the first profile of its serving module that offers it as
  requested; a disabled or unserved stream, or one no such profile offers, is skipped. -/
  chosen : ∀ (modules : List SensorModule) (settings : Settings) (k : StreamKey) (name : String)
    (p : StreamProfile),
    offeredProfile modules settings k = some (name, p) ↔
      ∃ requested m, settings.stream k = some requested ∧ requested.enabled = true ∧
        servingModule modules k = some m ∧ m.name = name ∧
        p.Offers k (settings.format k) requested ∧
        ∃ pre post, m.profiles = pre ++ p :: post ∧
          ∀ q ∈ pre, ¬q.Offers k (settings.format k) requested
  /-- A build that succeeds negotiated with the modules of the world it started in, opened the
  chosen profiles grouped by module, and holds exactly the chosen streams. -/
  build : ∀ (settings : Settings) (w w' : σ) (p : Pipeline),
    (Pipeline.build settings).run.run w = (.ok p, w') →
      negotiate (Camera.modules w) settings = .ok (selection (Camera.modules w) settings) ∧
        log w' = log w ++ groupByModule (selection (Camera.modules w) settings) ∧
        p.streams.Perm (((selection (Camera.modules w) settings).map (·.2.key)).filter
          (!·.isMotion)) ∧
        p.motionStreams.Perm (((selection (Camera.modules w) settings).map (·.2.key)).filter
          (·.isMotion))
  /-- Grouping names each module once, with the profiles chosen from it in the order they
  were chosen. -/
  groups : ∀ selected : List (String × StreamProfile), GroupsOf selected (groupByModule selected)

variable {σ}

/-- Profile negotiation follows its rules: the first unsupported module is refused; otherwise
each enabled standard stream, visited in order, gets the first profile of the last module
serving it whose key and format are those asked for and whose width, height and rate equal
the request wherever that is not zero, inertial streams included; streams without one are
skipped, and video without depth is refused. A build that succeeds opens each module once
with its chosen profiles in the order they were chosen, and holds exactly the chosen
streams. -/
theorem negotiation_follows_the_rules {log : σ → List (String × List StreamProfile)}
    (hlog : LogsOpenings log) : Negotiates σ log where
  unsupported _ settings _ h := negotiate_unsupported h settings
  supported _ settings h := negotiate_supported h settings
  chosen := offeredProfile_eq_some_iff
  build _ _ _ _ h := build_opens_chosen hlog h
  groups := groupByModule_spec

end Rules

def gyroWidthSettings : Settings :=
  { depth := .video 8 6 30, infra1 := { enabled := false }, infra2 := { enabled := false },
    color := { enabled := false }, fisheye := { enabled := false }, gyro := { width := 5, fps := 200 },
    accel := { enabled := false } }

/-- An inertial stream asked for with a width is skipped, although its module offers it in the
format and at the rate asked for: inertial profiles have no width, and the request's width is
matched as for video. -/
theorem gyro_with_width_is_skipped :
    negotiate BenchDevice.defaultModules gyroWidthSettings =
        .ok [("Stereo Module", ⟨.depth, .z16, 8, 6, 30⟩)] ∧
      StreamProfile.motion .gyro 200 ∈
        (servingModule BenchDevice.defaultModules .gyro).elim [] (·.profiles) ∧
      (StreamProfile.motion .gyro 200).format = gyroWidthSettings.format .gyro ∧
      (StreamProfile.motion .gyro 200).fps = 200 := by
  decide +kernel

/-! ### On the bench -/

namespace Bench

def opening : BenchEvent → Option (String × List StreamProfile)
  | .openModule m _ ps => some (m, ps)
  | _ => none

def openings (b : Bench) : List (String × List StreamProfile) := b.events.filterMap opening

theorem logsOpenings : LogsOpenings openings := by
  intro m ps b
  show (record _ b).events.filterMap opening = _
  simp [events, record, opening, openings]

end Bench

/-- The bench logs what it opens, so negotiation and builds on it follow the rules of
`Negotiates`. -/
theorem negotiation_follows_the_rules_on_bench :
    LogsOpenings Bench.openings ∧ Negotiates Bench Bench.openings :=
  ⟨Bench.logsOpenings, negotiation_follows_the_rules Bench.logsOpenings⟩

end Rgbd
