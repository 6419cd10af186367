import Rgbd.Proofs.Smoothing
import Rgbd.Proofs.Disparity
import Rgbd.Proofs.Toggles
import Rgbd.Proofs.Consistency

/-!
# A filter chain keeps every hole

A depth of zero is a hole: the sensor measured nothing there. In a chain a hole becomes
disparity zero, which no smoothing stage blends and which converts back to zero. A measured
depth becomes a disparity between `2 ^ -126` and the factor `F`; blends keep disparities in the
band from `2 ^ -126` to `bandTop F`, the least power of two above `F` or else the largest
binary32 value, and that top is at most `2 F`, so every disparity of the band converts back to
a depth of at least one. Main statement: for a chain that `FilterChain.new` built with a finite
factor of at least `65535 · 2 ^ -126`, after any calls of `configure` and `apply`, `apply`
returns a frame with its holes exactly where the frame it was given has them
(`filter_chain_keeps_holes`).
-/

namespace Rgbd

open FloatModel Float.Model UnpackedFloat

/-! ### The band of a factor -/

/-- The top of the band of disparities for a factor of value `F`: the least power of two above
`F`, or the largest binary32 value where that power is past it. -/
def bandTop (F : ℚ) : ℚ :=
  if Int.log 2 F < 127 then 2 ^ (Int.log 2 F + 1) else (2 ^ 24 - 1) * 2 ^ (104 : ℤ)

theorem le_bandTop {F : ℚ} (hmax : F ≤ (2 ^ 24 - 1) * 2 ^ (104 : ℤ)) : F ≤ bandTop F := by
  unfold bandTop
  split_ifs
  · exact_mod_cast (Int.lt_zpow_succ_log_self one_lt_two F).le
  · exact hmax

theorem bandTop_le_two_mul {F : ℚ} (hF₀ : 0 < F) : bandTop F ≤ 2 * F := by
  unfold bandTop
  split_ifs with hlog
  · have hpow : (2 : ℚ) ^ Int.log 2 F ≤ F := by exact_mod_cast Int.zpow_log_le_self one_lt_two hF₀
    rw [zpow_add_one₀ two_ne_zero]
    linarith
  · have h127 : (2 : ℚ) ^ (127 : ℤ) ≤ F := by
      exact_mod_cast (Int.zpow_le_iff_le_log (x := 127) one_lt_two hF₀).2 (by omega)
    calc (2 ^ 24 - 1) * 2 ^ (104 : ℤ) ≤ 2 * (2 : ℚ) ^ (127 : ℤ) := by norm_num
      _ ≤ 2 * F := by linarith

theorem bandTop_isTop {F : ℚ} (hF : (65535 : ℚ) * 2 ^ (-126 : ℤ) ≤ F) : BandTop (bandTop F) := by
  have hF₀ : 0 < F := lt_of_lt_of_le (by positivity) hF
  unfold bandTop
  split_ifs with hlog
  · have hlow : -111 ≤ Int.log 2 F := by
      apply (Int.zpow_le_iff_le_log one_lt_two hF₀).1
      exact_mod_cast le_trans (by norm_num) hF
    exact bandTop_pow (by omega) (by omega)
  · exact bandTop_maxFinite

/-! ### Converting depth to the band and back -/

namespace DisparityConverter

variable (c : DisparityConverter)

theorem disparityOf_inBand (hfin : c.factor.toModel.unpack.isFinite = true)
    (hF : (65535 : ℚ) * 2 ^ (-126 : ℤ) ≤ value c.factor.toModel.unpack) (raw : UInt16) :
    InBand (2 ^ (-126 : ℤ)) (bandTop (value c.factor.toModel.unpack)) (c.disparityOf raw) ∧
      (c.disparityOf raw = 0 ↔ raw = 0) := by
  by_cases h0 : raw = 0
  · subst h0
    exact ⟨Or.inl rfl, iff_of_true c.disparityOf_zero rfl⟩
  · obtain ⟨hlo, hhi⟩ := c.quotient_bounds hF h0
    obtain ⟨hdf, hdv⟩ := c.disparityOf_value hfin hF h0
    have hq_lo : 2 ^ (-126 : ℤ) ≤ value (c.disparityOf raw).toModel.unpack := by
      rw [hdv, ← roundNearest_two_zpow .binary32 (by decide)]
      exact roundNearest_mono _ hlo
    have hq_hi : value (c.disparityOf raw).toModel.unpack ≤ value c.factor.toModel.unpack := by
      rw [hdv]
      exact (roundNearest_mono _ hhi).trans_eq
        (roundNearest_value _ hfin (unpack_canonical _ _))
    have hF_top := le_bandTop (le_of_abs_le (Float32.abs_value_le_max c.factor))
    refine ⟨Or.inr ⟨hdf, hq_lo, hq_hi.trans hF_top⟩, ?_⟩
    exact iff_of_false (ne_zero_of_value_pos (lt_of_lt_of_le (by positivity) hq_lo)) h0

theorem depthOf_ne_zero (hfin : c.factor.toModel.unpack.isFinite = true) {v : Float32}
    (hv : v.toModel.unpack.isFinite = true) (hlo : 2 ^ (-126 : ℤ) ≤ value v.toModel.unpack)
    (hhi : value v.toModel.unpack ≤ 2 * value c.factor.toModel.unpack) :
    c.depthOf v ≠ 0 := by
  set F := value c.factor.toModel.unpack with hF_def
  set V := value v.toModel.unpack with hV_def
  have hV : 0 < V := lt_of_lt_of_le (by positivity) hlo
  have hx_lo : 2 ^ (-1 : ℤ) ≤ F / V := by
    rw [le_div_iff₀ hV]
    norm_num
    linarith
  have hx_hi : F / V ≤ 2 ^ (254 : ℤ) := by
    have hF : F < 2 ^ (128 : ℤ) := by
      have := lt_of_abs_lt (Float32.abs_value_lt c.factor)
      exact_mod_cast this
    rw [div_le_iff₀ hV]
    calc F ≤ 2 ^ (128 : ℤ) := hF.le
      _ = 2 ^ (254 : ℤ) * 2 ^ (-126 : ℤ) := by rw [← zpow_add₀ two_ne_zero]; norm_num
      _ ≤ 2 ^ (254 : ℤ) * V := by gcongr
  have hz_lo : 1 / 2 ≤ roundNearest .binary64 (F / V) := by
    calc (1 / 2 : ℚ) = roundNearest .binary64 (2 ^ (-1 : ℤ)) := by
          rw [roundNearest_two_zpow .binary64 (by decide)]
          norm_num
      _ ≤ roundNearest .binary64 (F / V) := roundNearest_mono _ hx_lo
  have hz_hi : roundNearest .binary64 (F / V) ≤ 2 ^ (254 : ℤ) :=
    (roundNearest_mono _ hx_hi).trans_eq (roundNearest_two_zpow .binary64 (by decide))
  have hz_lt : |roundNearest .binary64 (F / V)| < 2 ^ 1024 := by
    rw [abs_of_pos (by linarith), ← zpow_natCast]
    exact hz_hi.trans_lt (zpow_lt_zpow_right₀ one_lt_two (by norm_num))
  obtain ⟨hqf, hqv⟩ := c.quotient_value hfin hv hV hz_lt
  obtain ⟨hrf, hrv⟩ := Float.roundHalfAway_one_le hqf (by rw [hqv]; exact hz_lo)
  have hsat : ∀ y : Float, y.toModel.unpack.isFinite = true → 1 ≤ value y.toModel.unpack →
      y.toUInt16 ≠ 0 := by
    intro y hy h1
    obtain ⟨m', e', hm', hu'⟩ := eq_finite_positive hy (by linarith)
    rw [hu', value_positive] at h1
    exact Float.toUInt16_ne_zero hu' h1
  have h65535 : (65535 : Float).toModel.unpack =
      .finite .positive (65535 * 2 ^ 37) (-37) (by decide) := rfl
  unfold depthOf
  rw [if_pos (Float32.zero_lt_of_value_pos hv hV)]
  rcases Float.minNum_eq_or (Float.roundHalfAway (Float32.widen c.factor / Float32.widen v)) 65535
    with h | h
  · rw [h]
    exact hsat _ hrf hrv
  · rw [h]
    exact hsat 65535 rfl (by rw [h65535, value_positive]; norm_num)

theorem depthOf_eq_zero_iff (hfin : c.factor.toModel.unpack.isFinite = true)
    (hF : (65535 : ℚ) * 2 ^ (-126 : ℤ) ≤ value c.factor.toModel.unpack) {v : Float32}
    (hv : InBand (2 ^ (-126 : ℤ)) (bandTop (value c.factor.toModel.unpack)) v) :
    c.depthOf v = 0 ↔ v = 0 := by
  rcases hv with rfl | ⟨hvf, hlo, hhi⟩
  · exact iff_of_true c.depthOf_zero rfl
  · have hF₀ : 0 < value c.factor.toModel.unpack := lt_of_lt_of_le (by positivity) hF
    exact iff_of_false (c.depthOf_ne_zero hfin hvf hlo (hhi.trans (bandTop_le_two_mul hF₀)))
      (ne_zero_of_value_pos (lt_of_lt_of_le (by positivity) hlo))

end DisparityConverter

/-! ### Hole masks -/

theorem getElem?_map_eq_zero {α β : Type} [OfNat α 0] [OfNat β 0] {f : α → β} {d : Array α}
    (hf : ∀ x ∈ d, f x = 0 ↔ x = 0) (i : Nat) : (d.map f)[i]? = some 0 ↔ d[i]? = some 0 := by
  rw [Array.getElem?_map]
  cases h : d[i]? with
  | none => simp
  | some x => simp [hf x (Array.mem_of_getElem? h)]

theorem map_holes_eq {d e : DepthImage} (hdim : e.dimensions = d.dimensions)
    (holes : ∀ i : Nat, e.data[i]? = some 0 ↔ d.data[i]? = some 0) :
    e.map (· == 0) = d.map (· == 0) := by
  obtain ⟨w, h, data, hs⟩ := d
  obtain ⟨w', h', data', hs'⟩ := e
  simp only [Raster.dimensions, Prod.mk.injEq] at hdim holes
  obtain ⟨rfl, rfl⟩ := hdim
  simp only [Raster.map, Raster.mk.injEq, true_and]
  apply Array.ext_getElem?
  intro i
  rw [Array.getElem?_map, Array.getElem?_map]
  cases hd : data[i]? with
  | none =>
    rw [Array.getElem?_eq_none (by rw [hs', ← hs]; exact Array.getElem?_eq_none_iff.1 hd)]
  | some x =>
    obtain ⟨hi, -⟩ := Array.getElem?_eq_some_iff.1 hd
    have hi' : i < data'.size := by omega
    have hx := holes i
    rw [hd, Array.getElem?_eq_getElem hi', Option.some.injEq, Option.some.injEq] at hx
    rw [Array.getElem?_eq_getElem hi', Option.map_some, Option.map_some, Option.some.injEq,
      beq_eq_beq]
    exact hx

/-! ### The chain across calls -/

namespace FilterChain

variable {c : DisparityConverter} {chain : FilterChain}

/-- What a chain with converter `c` keeps across calls: the converter, smoothing weights that
keep the band of `c`'s factor, and a history in that band. -/
structure Sound (c : DisparityConverter) (chain : FilterChain) : Prop where
  converter_eq : chain.converter = c
  spatial : Closes chain.spatial.alpha (2 ^ (-126 : ℤ)) (bandTop (value c.factor.toModel.unpack))
  temporal : Closes chain.temporal.alpha (2 ^ (-126 : ℤ)) (bandTop (value c.factor.toModel.unpack))
  history : chain.temporal.HistoryInBand (2 ^ (-126 : ℤ)) (bandTop (value c.factor.toModel.unpack))

/-- A new chain has the default weights, which keep the band, and no history. -/
theorem Sound.new (hF : (65535 : ℚ) * 2 ^ (-126 : ℤ) ≤ value c.factor.toModel.unpack)
    {s : FilterSettings} (h : FilterChain.new s c = .ok chain) : chain.Sound c := by
  rw [(new_eq_ok.1 h).2]
  exact ⟨rfl, SpatialFilter.closes_default (bandTop_isTop hF),
    TemporalFilter.closes_default (bandTop_isTop hF), fun _ hlast => by cases hlast⟩

section Stages

variable (h : chain.Sound c) {d : FloatImage}
  (hd : ∀ v ∈ d.data, InBand (2 ^ (-126 : ℤ)) (bandTop (value c.factor.toModel.unpack)) v)
include h hd

theorem Sound.spatialStage :
    KeepsHoles (2 ^ (-126 : ℤ)) (bandTop (value c.factor.toModel.unpack)) d.data
      (if chain.settings.spatial then chain.spatial.apply d else d).data := by
  split
  · exact chain.spatial.apply_keepsHoles h.spatial hd
  · exact .refl hd

theorem Sound.temporalStage :
    KeepsHoles (2 ^ (-126 : ℤ)) (bandTop (value c.factor.toModel.unpack)) d.data
        (if chain.settings.temporal then chain.temporal.apply d else (d, chain.temporal)).1.data ∧
      (if chain.settings.temporal then chain.temporal.apply d else (d, chain.temporal)).2.HistoryInBand
        (2 ^ (-126 : ℤ)) (bandTop (value c.factor.toModel.unpack)) ∧
      (if chain.settings.temporal then chain.temporal.apply d else (d, chain.temporal)).2.alpha =
        chain.temporal.alpha := by
  split
  · exact chain.temporal.apply_keepsHoles h.temporal h.history hd
  · exact ⟨.refl hd, h.history, rfl⟩

end Stages

theorem Sound.apply_holes (hfin : c.factor.toModel.unpack.isFinite = true)
    (hF : (65535 : ℚ) * 2 ^ (-126 : ℤ) ≤ value c.factor.toModel.unpack)
    (h : chain.Sound c) (depth : DepthImage) :
    (chain.apply depth).2.Sound c ∧
      ∀ i : Nat, (chain.apply depth).1.data[i]? = some 0 ↔ depth.data[i]? = some 0 := by
  unfold FilterChain.apply
  split
  · exact ⟨h, fun _ => Iff.rfl⟩
  · rw [h.converter_eq]
    dsimp only
    have hdisp := c.disparityOf_inBand hfin hF
    have h₁ : ∀ v ∈ (c.toDisparity depth).data, InBand (2 ^ (-126 : ℤ))
        (bandTop (value c.factor.toModel.unpack)) v := by
      intro v hv
      obtain ⟨raw, -, rfl⟩ := Array.mem_map.1 hv
      exact (hdisp raw).1
    have h₂ := h.spatialStage h₁
    generalize (if chain.settings.spatial then chain.spatial.apply (c.toDisparity depth)
      else c.toDisparity depth) = d₂ at h₂ ⊢
    obtain ⟨h₃, hhist, halpha⟩ := h.temporalStage h₂.inBand
    generalize (if chain.settings.temporal then chain.temporal.apply d₂
      else (d₂, chain.temporal)) = r at h₃ hhist halpha ⊢
    obtain ⟨d₃, t⟩ := r
    refine ⟨⟨rfl, h.spatial, halpha ▸ h.temporal, hhist⟩, fun i => ?_⟩
    have hk := h₂.trans h₃
    have hback := getElem?_map_eq_zero (f := c.depthOf) (d := d₃.data)
      (fun v hv => c.depthOf_eq_zero_iff hfin hF (hk.inBand v hv)) i
    have hforth := getElem?_map_eq_zero (f := c.disparityOf) (d := depth.data)
      (fun raw _ => (hdisp raw).2) i
    exact hback.trans ((hk.holes i).trans hforth)

/-- `apply` keeps a sound chain sound and returns a frame with the hole mask of the frame it was
given. -/
theorem Sound.apply (hfin : c.factor.toModel.unpack.isFinite = true)
    (hF : (65535 : ℚ) * 2 ^ (-126 : ℤ) ≤ value c.factor.toModel.unpack)
    (h : chain.Sound c) (depth : DepthImage) :
    (chain.apply depth).2.Sound c ∧ (chain.apply depth).1.map (· == 0) = depth.map (· == 0) := by
  obtain ⟨hsound, holes⟩ := h.apply_holes hfin hF depth
  exact ⟨hsound, map_holes_eq (FilterChain.apply_dimensions chain depth) holes⟩

theorem Sound.step (hfin : c.factor.toModel.unpack.isFinite = true)
    (hF : (65535 : ℚ) * 2 ^ (-126 : ℤ) ≤ value c.factor.toModel.unpack)
    (h : chain.Sound c) (op : Op) : (chain.step op).Sound c := by
  cases op with
  | configure s =>
    rw [step_configure]
    split
    · have halpha : (chain.reconfigured s).temporal.alpha = chain.temporal.alpha := by
        simp only [reconfigured]
        split <;> rfl
      refine ⟨h.converter_eq, h.spatial, halpha ▸ h.temporal, ?_⟩
      simp only [reconfigured]
      split
      · exact h.history
      · exact TemporalFilter.reset_historyInBand _
    · exact h
  | apply d => exact (h.apply hfin hF d).1

theorem Sound.run (hfin : c.factor.toModel.unpack.isFinite = true)
    (hF : (65535 : ℚ) * 2 ^ (-126 : ℤ) ≤ value c.factor.toModel.unpack)
    (h : chain.Sound c) (ops : List Op) : (chain.run ops).Sound c := by
  induction ops generalizing chain with
  | nil => exact h
  | cons op ops ih => exact ih (h.step hfin hF op)

/-- A filter chain keeps every hole. After any calls of `configure` and `apply` on a chain that
`new` built, with any toggles, and a finite factor of at least `65535 · 2 ^ -126`, `apply`
returns a frame of the size it was given whose pixels are zero exactly where the given frame's
are: a depth of zero stays zero and every other depth stays above zero, whatever the history
the temporal stage holds. -/
theorem hole_mask_after_calls {s : FilterSettings} (hfin : c.factor.isFinite = true)
    (hF : (65535 : ℚ) * 2 ^ (-126 : ℤ) ≤ value c.factor.toModel.unpack)
    (hnew : FilterChain.new s c = .ok chain) (ops : List Op) (depth : DepthImage) :
    ((chain.run ops).apply depth).1.map (· == 0) = depth.map (· == 0) :=
  (((Sound.new hF hnew).run hfin hF ops).apply hfin hF depth).2

/-- A chain with every stage on and the factor `20000` keeps every hole. -/
theorem hole_mask_after_calls_factor_20000 :
    (20000 : Float32).isFinite = true ∧
      (65535 : ℚ) * 2 ^ (-126 : ℤ) ≤ value (20000 : Float32).toModel.unpack ∧
      FilterChain.new .all ⟨20000⟩ = .ok { settings := .all, converter := ⟨20000⟩ } ∧
      ∀ (ops : List Op) (depth : DepthImage),
        ((({ settings := .all, converter := ⟨20000⟩ } : FilterChain).run ops).apply depth).1.map
          (· == 0) = depth.map (· == 0) := by
  have hnew : FilterChain.new .all ⟨20000⟩ = .ok { settings := .all, converter := ⟨20000⟩ } := rfl
  exact ⟨rfl, DisparityConverter.factor_20000_in_range, hnew,
    hole_mask_after_calls rfl DisparityConverter.factor_20000_in_range hnew⟩

end FilterChain

end Rgbd
