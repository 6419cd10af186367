import Rgbd.Proofs.Float.Convert
import Rgbd.Filter.Smoothing

/-!
# Smoothing keeps a band of disparities and the holes

Both smoothing filters blend a positive pixel `c` with a positive neighbour `h` into
`α c + (1 - α) h`, rounded after each operation: as exact arithmetic that is
`rn (rn (a c) + rn (b h))`, with `a` and `b` the binary32 values of `α` and `1 - α`. Rounding is
monotone, so the blend is monotone in both pixels. When the blend of `lo` with itself is at
least `lo` and the blend of `hi` with itself at most `hi` (`Closes`), blending keeps the band
`[lo, hi]`; a hole (zero) is never blended and a blend is never zero. Every pixel therefore
stays a hole or in the band, and holes stay where they were (`KeepsHoles`), through each
sweep of the spatial filter and through the temporal blend with the previous frame.
-/

namespace Rgbd

open FloatModel Float.Model UnpackedFloat

def InBand (lo hi : ℚ) (v : Float32) : Prop :=
  v = 0 ∨ (v.toModel.unpack.isFinite = true ∧ lo ≤ value v.toModel.unpack ∧
    value v.toModel.unpack ≤ hi)

def blendValue (a b c h : ℚ) : ℚ :=
  roundNearest .binary32 (roundNearest .binary32 (a * c) + roundNearest .binary32 (b * h))

/-- Blending with weight `α` keeps the band `[lo, hi]`: both weights lie in `[0, 1]`, `hi` is a
binary32 value, and the band's ends blended with themselves stay inside it. -/
structure Closes (α : Float32) (lo hi : ℚ) : Prop where
  finite_weight : α.toModel.unpack.isFinite = true
  finite_rest : (1 - α).toModel.unpack.isFinite = true
  weight_nonneg : 0 ≤ value α.toModel.unpack
  weight_le_one : value α.toModel.unpack ≤ 1
  rest_nonneg : 0 ≤ value (1 - α).toModel.unpack
  rest_le_one : value (1 - α).toModel.unpack ≤ 1
  lo_pos : 0 < lo
  hi_exact : roundNearest .binary32 hi = hi
  hi_lt : hi < 2 ^ 128
  lo_le_blend : lo ≤ blendValue (value α.toModel.unpack) (value (1 - α).toModel.unpack) lo lo
  blend_le_hi : blendValue (value α.toModel.unpack) (value (1 - α).toModel.unpack) hi hi ≤ hi

theorem blendValue_mono {a b c c' h h' : ℚ} (ha : 0 ≤ a) (hb : 0 ≤ b) (hc : c ≤ c')
    (hh : h ≤ h') : blendValue a b c h ≤ blendValue a b c' h' := by
  unfold blendValue
  apply roundNearest_mono
  gcongr
  · exact roundNearest_mono _ (mul_le_mul_of_nonneg_left hc ha)
  · exact roundNearest_mono _ (mul_le_mul_of_nonneg_left hh hb)

theorem ne_zero_of_value_pos {v : Float32} (h : 0 < value v.toModel.unpack) : v ≠ 0 := by
  rintro rfl
  exact absurd h (lt_irrefl 0)

theorem weighted_value {w v : Float32} {hi : ℚ} (hw : w.toModel.unpack.isFinite = true)
    (hw₀ : 0 ≤ value w.toModel.unpack) (hw₁ : value w.toModel.unpack ≤ 1)
    (hv : v.toModel.unpack.isFinite = true) (hv₀ : 0 ≤ value v.toModel.unpack)
    (hvhi : value v.toModel.unpack ≤ hi) (hexact : roundNearest .binary32 hi = hi)
    (hhi : hi < 2 ^ 128) :
    (w * v).toModel.unpack.isFinite = true ∧
      value (w * v).toModel.unpack =
        roundNearest .binary32 (value w.toModel.unpack * value v.toModel.unpack) := by
  apply Float32.mul_value hw hv
  have hprod : value w.toModel.unpack * value v.toModel.unpack ≤ hi := by
    calc value w.toModel.unpack * value v.toModel.unpack ≤ 1 * value v.toModel.unpack :=
          mul_le_mul_of_nonneg_right hw₁ hv₀
      _ ≤ hi := by rw [one_mul]; exact hvhi
  rw [abs_of_nonneg (roundNearest_nonneg _ (mul_nonneg hw₀ hv₀))]
  exact lt_of_le_of_lt (hexact ▸ roundNearest_mono _ hprod) hhi

theorem blendPixel_inBand {α δ : Float32} {lo hi : ℚ} (hα : Closes α lo hi) {h c : Float32}
    (hh : InBand lo hi h) (hc : InBand lo hi c) :
    InBand lo hi (blendPixel α δ h c) ∧ (blendPixel α δ h c = 0 ↔ c = 0) := by
  unfold blendPixel
  split_ifs with hcond
  · simp only [Bool.and_eq_true, decide_eq_true_eq] at hcond
    obtain ⟨⟨hcpos, hhpos⟩, -⟩ := hcond
    have hzero : ¬ ((0 : Float32) > 0) := by decide
    obtain ⟨hcf, hclo, hchi⟩ := hc.resolve_left fun h0 => hzero (h0 ▸ hcpos)
    obtain ⟨hhf, hhlo, hhhi⟩ := hh.resolve_left fun h0 => hzero (h0 ▸ hhpos)
    have hc₀ : 0 ≤ value c.toModel.unpack := hα.lo_pos.le.trans hclo
    have hh₀ : 0 ≤ value h.toModel.unpack := hα.lo_pos.le.trans hhlo
    obtain ⟨hxf, hxv⟩ := weighted_value hα.finite_weight hα.weight_nonneg hα.weight_le_one hcf hc₀
      hchi hα.hi_exact hα.hi_lt
    obtain ⟨hyf, hyv⟩ := weighted_value hα.finite_rest hα.rest_nonneg hα.rest_le_one hhf hh₀
      hhhi hα.hi_exact hα.hi_lt
    have hlo : lo ≤ blendValue (value α.toModel.unpack) (value (1 - α).toModel.unpack)
        (value c.toModel.unpack) (value h.toModel.unpack) :=
      hα.lo_le_blend.trans (blendValue_mono hα.weight_nonneg hα.rest_nonneg hclo hhlo)
    have hhi : blendValue (value α.toModel.unpack) (value (1 - α).toModel.unpack)
        (value c.toModel.unpack) (value h.toModel.unpack) ≤ hi :=
      (blendValue_mono hα.weight_nonneg hα.rest_nonneg hchi hhhi).trans hα.blend_le_hi
    have hsum := Float32.add_value hxf hyf (by
      rw [hxv, hyv]
      change |blendValue _ _ (value c.toModel.unpack) (value h.toModel.unpack)| < 2 ^ 128
      rw [abs_of_pos (hα.lo_pos.trans_le hlo)]
      exact hhi.trans_lt hα.hi_lt)
    rw [hxv, hyv] at hsum
    obtain ⟨hzf, hzv⟩ := hsum
    have hz : 0 < value (α * c + (1 - α) * h).toModel.unpack := by
      rw [hzv]
      exact hα.lo_pos.trans_le hlo
    refine ⟨Or.inr ⟨hzf, hzv ▸ hlo, hzv ▸ hhi⟩, ?_⟩
    exact iff_of_false (ne_zero_of_value_pos hz)
      (ne_zero_of_value_pos (hα.lo_pos.trans_le hclo))
  · exact ⟨hc, Iff.rfl⟩

/-! ### Arrays that keep their holes -/

/-- `d'` is `d` smoothed: it has the size of `d`, every entry in the band, and its holes
exactly where `d` has them. -/
structure KeepsHoles (lo hi : ℚ) (d d' : Array Float32) : Prop where
  size_eq : d'.size = d.size
  inBand : ∀ v ∈ d', InBand lo hi v
  holes : ∀ i : Nat, d'[i]? = some 0 ↔ d[i]? = some 0

namespace KeepsHoles

variable {lo hi : ℚ} {d d₁ d₂ d₃ : Array Float32}

theorem refl (hd : ∀ v ∈ d, InBand lo hi v) : KeepsHoles lo hi d d :=
  ⟨rfl, hd, fun _ => Iff.rfl⟩

theorem trans (h₁ : KeepsHoles lo hi d₁ d₂) (h₂ : KeepsHoles lo hi d₂ d₃) :
    KeepsHoles lo hi d₁ d₃ :=
  ⟨h₂.size_eq.trans h₁.size_eq, h₂.inBand, fun i => (h₂.holes i).trans (h₁.holes i)⟩

theorem setIfInBounds (hd : ∀ v ∈ d, InBand lo hi v) {i : Nat} {v : Float32}
    (hv : InBand lo hi v) (hz : v = 0 ↔ d.getD i 0 = 0) :
    KeepsHoles lo hi d (d.setIfInBounds i v) := by
  refine ⟨Array.size_setIfInBounds, fun w hw => ?_, fun j => ?_⟩
  · rcases Array.mem_or_eq_of_mem_setIfInBounds hw with hw | rfl
    · exact hd w hw
    · exact hv
  · rw [Array.getElem?_setIfInBounds]
    split_ifs with hij hlt
    · subst hij
      rw [Array.getD_eq_getD_getElem?, Array.getElem?_eq_getElem hlt, Option.getD_some] at hz
      rw [Array.getElem?_eq_getElem hlt, Option.some.injEq, Option.some.injEq]
      exact hz
    · subst hij
      simp [Array.getElem?_eq_none (show d.size ≤ i by omega)]
    · rfl

theorem zipWith {β : Type} {g : Float32 → β → Float32} {e : Array β} (hsize : e.size = d.size)
    (hg : ∀ x ∈ d, ∀ y ∈ e, InBand lo hi (g x y) ∧ (g x y = 0 ↔ x = 0)) :
    KeepsHoles lo hi d (d.zipWith g e) := by
  refine ⟨by simp [hsize], fun w hw => ?_, fun i => ?_⟩
  · obtain ⟨i, hi⟩ := Array.mem_iff_getElem?.1 hw
    obtain ⟨x, y, hx, hy, rfl⟩ := Array.getElem?_zipWith_eq_some.1 hi
    exact (hg x (Array.mem_of_getElem? hx) y (Array.mem_of_getElem? hy)).1
  · rw [Array.getElem?_zipWith_eq_some]
    constructor
    · rintro ⟨x, y, hx, hy, hxy⟩
      rw [hx, ← (hg x (Array.mem_of_getElem? hx) y (Array.mem_of_getElem? hy)).2.1 hxy]
    · intro hx
      have hi : i < e.size := by
        rw [hsize]
        exact (Array.getElem?_eq_some_iff.1 hx).1
      refine ⟨0, e[i], hx, Array.getElem?_eq_getElem hi, ?_⟩
      exact (hg 0 (Array.mem_of_getElem? hx) e[i] (Array.getElem_mem hi)).2.2 rfl

theorem foldl {β : Type} {g : Array Float32 → β → Array Float32}
    (hg : ∀ d b, (∀ v ∈ d, InBand lo hi v) → KeepsHoles lo hi d (g d b)) (bs : List β)
    (h : KeepsHoles lo hi d₁ d₂) : KeepsHoles lo hi d₁ (bs.foldl g d₂) := by
  induction bs generalizing d₂ with
  | nil => exact h
  | cons b bs ih => exact ih (h.trans (hg d₂ b h.inBand))

end KeepsHoles

/-! ### The spatial filter -/

namespace SpatialFilter

variable (f : SpatialFilter) {lo hi : ℚ}

theorem sweepStep_keepsHoles (hα : Closes f.alpha lo hi) {acc : Float32 × Array Float32}
    (hp : InBand lo hi acc.1) (hd : ∀ v ∈ acc.2, InBand lo hi v) (i : Nat) :
    InBand lo hi (f.sweepStep acc i).1 ∧ KeepsHoles lo hi acc.2 (f.sweepStep acc i).2 := by
  have hget : InBand lo hi (acc.2.getD i 0) := by
    rw [Array.getD_eq_getD_getElem?]
    cases h : acc.2[i]? with
    | none => exact Or.inl rfl
    | some v => exact hd v (Array.mem_of_getElem? h)
  obtain ⟨hv, hz⟩ := blendPixel_inBand hα hp hget
  exact ⟨hv, KeepsHoles.setIfInBounds hd hv hz⟩

theorem sweep_keepsHoles (hα : Closes f.alpha lo hi) {d : Array Float32}
    (hd : ∀ v ∈ d, InBand lo hi v) (ps : List Nat) : KeepsHoles lo hi d (f.sweep d ps) := by
  suffices h : ∀ acc : Float32 × Array Float32, InBand lo hi acc.1 → KeepsHoles lo hi d acc.2 →
      KeepsHoles lo hi d (ps.foldl f.sweepStep acc).2 from h (0, d) (Or.inl rfl) (.refl hd)
  induction ps with
  | nil => exact fun _ _ hk => hk
  | cons i ps ih =>
    intro acc hp hk
    obtain ⟨hv, hstep⟩ := f.sweepStep_keepsHoles hα hp hk.inBand i
    exact ih _ hv (hk.trans hstep)

theorem sweepBoth_keepsHoles (hα : Closes f.alpha lo hi) {d : Array Float32}
    (hd : ∀ v ∈ d, InBand lo hi v) (ps : List Nat) : KeepsHoles lo hi d (f.sweepBoth d ps) := by
  have hfwd := f.sweep_keepsHoles hα hd ps
  exact hfwd.trans (f.sweep_keepsHoles hα hfwd.inBand ps.reverse)

theorem pass_keepsHoles (hα : Closes f.alpha lo hi) (width height : Nat) {d : Array Float32}
    (hd : ∀ v ∈ d, InBand lo hi v) : KeepsHoles lo hi d (f.pass width height d) := by
  have hrows := KeepsHoles.foldl (g := fun d y =>
    f.sweepBoth d ((List.range width).map fun x => y * width + x))
    (fun _ _ hd' => f.sweepBoth_keepsHoles hα hd' _) (List.range height) (.refl hd)
  exact KeepsHoles.foldl (fun _ _ hd' => f.sweepBoth_keepsHoles hα hd' _) (List.range width) hrows

theorem apply_keepsHoles (hα : Closes f.alpha lo hi) {image : FloatImage}
    (hd : ∀ v ∈ image.data, InBand lo hi v) : KeepsHoles lo hi image.data (f.apply image).data := by
  unfold apply
  split_ifs
  · exact .refl hd
  · have hk := KeepsHoles.foldl (fun _ _ hd' => f.pass_keepsHoles hα image.width image.height hd')
      (List.replicate f.iterations ()) (.refl hd)
    unfold Raster.withData
    split_ifs
    · exact hk
    · exact .refl hd

end SpatialFilter

/-! ### The temporal filter -/

namespace TemporalFilter

variable {lo hi : ℚ}

def HistoryInBand (lo hi : ℚ) (t : TemporalFilter) : Prop :=
  ∀ last, t.history = some last → ∀ v ∈ last.data, InBand lo hi v

theorem reset_historyInBand (t : TemporalFilter) : t.reset.HistoryInBand lo hi := by
  intro last h
  simp [reset] at h

theorem apply_keepsHoles (t : TemporalFilter) (hα : Closes t.alpha lo hi)
    (ht : t.HistoryInBand lo hi) {image : FloatImage} (hd : ∀ v ∈ image.data, InBand lo hi v) :
    KeepsHoles lo hi image.data (t.apply image).1.data ∧ (t.apply image).2.HistoryInBand lo hi ∧
      (t.apply image).2.alpha = t.alpha := by
  have hkeep : ∀ u : TemporalFilter, u.alpha = t.alpha →
      KeepsHoles lo hi image.data image.data ∧
        ({ u with history := some image } : TemporalFilter).HistoryInBand lo hi ∧
        ({ u with history := some image } : TemporalFilter).alpha = t.alpha := by
    intro u hu
    refine ⟨.refl hd, ?_, hu⟩
    intro last hlast
    cases hlast
    exact hd
  unfold apply
  cases hh : t.history with
  | none => exact hkeep t rfl
  | some last =>
    simp only
    split_ifs with hdim
    · have hlast := ht last hh
      simp only [Raster.dimensions, Prod.mk.injEq] at hdim
      have hsize : last.data.size = image.data.size := by
        rw [last.size_eq, image.size_eq, hdim.1, hdim.2]
      have hk : KeepsHoles lo hi image.data
          (image.data.zipWith (fun c h => blendPixel t.alpha t.delta h c) last.data) :=
        KeepsHoles.zipWith hsize fun x hx y hy => blendPixel_inBand hα (hlast y hy) (hd x hx)
      have hout : (image.zipWith (fun c h => blendPixel t.alpha t.delta h c) last).data =
          image.data.zipWith (fun c h => blendPixel t.alpha t.delta h c) last.data := by
        unfold Raster.zipWith Raster.withData
        rw [if_pos hdim, dif_pos (by rw [hk.size_eq, image.size_eq])]
      refine ⟨hout ▸ hk, ?_, rfl⟩
      intro out hout'
      cases hout'
      exact hout ▸ hk.inBand
    · exact hkeep t rfl

end TemporalFilter

/-! ### The default weights -/

def Float32.minNormal : Float32 := Float32.ofBits 0x00800000

def Float32.maxFinite : Float32 := Float32.ofBits 0x7F7FFFFF

theorem value_minNormal : value Float32.minNormal.toModel.unpack = 2 ^ (-126 : ℤ) := by
  rw [show Float32.minNormal.toModel.unpack = .finite .positive (2 ^ 23) (-149) (by decide)
    from rfl, value_positive]
  norm_num

theorem value_maxFinite :
    value Float32.maxFinite.toModel.unpack = (2 ^ 24 - 1) * 2 ^ (104 : ℤ) := by
  rw [show Float32.maxFinite.toModel.unpack = .finite .positive (2 ^ 24 - 1) 104 (by decide)
    from rfl, value_positive]
  norm_num

theorem value_half : value (0.5 : Float32).toModel.unpack = 1 / 2 := by
  rw [show (0.5 : Float32).toModel.unpack = .finite .positive (2 ^ 23) (-24) (by decide) from rfl,
    value_positive]
  norm_num

theorem value_one_sub_half : value (1 - 0.5 : Float32).toModel.unpack = 1 / 2 := by
  rw [show (1 - 0.5 : Float32).toModel.unpack = .finite .positive (2 ^ 23) (-24) (by decide)
    from rfl, value_positive]
  norm_num

theorem value_fourTenths : value (0.4 : Float32).toModel.unpack = 13421773 * 2 ^ (-25 : ℤ) := by
  rw [show (0.4 : Float32).toModel.unpack = .finite .positive 13421773 (-25) (by decide) from rfl,
    value_positive]
  norm_num

theorem value_one_sub_fourTenths :
    value (1 - 0.4 : Float32).toModel.unpack = 10066330 * 2 ^ (-24 : ℤ) := by
  rw [show (1 - 0.4 : Float32).toModel.unpack = .finite .positive 10066330 (-24) (by decide)
    from rfl, value_positive]
  norm_num

theorem blendValue_self_of_eq {α v : Float32} (hα : α.toModel.unpack.isFinite = true)
    (hr : (1 - α).toModel.unpack.isFinite = true) (hv : v.toModel.unpack.isFinite = true)
    (hx : (α * v).toModel.unpack.isFinite = true)
    (hy : ((1 - α) * v).toModel.unpack.isFinite = true) (h : α * v + (1 - α) * v = v) :
    blendValue (value α.toModel.unpack) (value (1 - α).toModel.unpack) (value v.toModel.unpack)
      (value v.toModel.unpack) = value v.toModel.unpack := by
  have hz := Float32.add_value_of_isFinite hx hy (by rw [h]; exact hv)
  rw [Float32.mul_value_of_isFinite hα hv hx, Float32.mul_value_of_isFinite hr hv hy, h] at hz
  exact hz.symm

theorem blendValue_half_pow {k : ℤ} (hk : -148 ≤ k) :
    blendValue (1 / 2) (1 / 2) (2 ^ k) (2 ^ k) = 2 ^ k := by
  have hhalf : (1 / 2 : ℚ) * 2 ^ k = 2 ^ (k - 1) := by
    rw [zpow_sub₀ two_ne_zero]
    ring
  have hsum : (2 : ℚ) ^ (k - 1) + 2 ^ (k - 1) = 2 ^ k := by
    rw [zpow_sub₀ two_ne_zero]
    ring
  unfold blendValue
  rw [hhalf, roundNearest_two_zpow .binary32 (by simp [Format.minExponent, Format.mantissaBits]; omega),
    hsum, roundNearest_two_zpow .binary32 (by simp [Format.minExponent, Format.mantissaBits]; omega)]

theorem blendValue_fourTenths_pow {k : ℤ} (hk : -124 ≤ k) :
    blendValue (13421773 * 2 ^ (-25 : ℤ)) (10066330 * 2 ^ (-24 : ℤ)) (2 ^ k) (2 ^ k) = 2 ^ k := by
  have hmin : Format.binary32.minExponent = -149 := rfl
  have ha : roundNearest .binary32 (13421773 * 2 ^ (-25 : ℤ) * 2 ^ k) = 13421773 * 2 ^ (k - 25) := by
    rw [mul_assoc, ← zpow_add₀ two_ne_zero, show -25 + k = k - 25 by ring]
    exact_mod_cast roundNearest_intCast_mul .binary32 (k := 13421773) (t := k - 25) (by decide)
      (by omega)
  have hb : roundNearest .binary32 (10066330 * 2 ^ (-24 : ℤ) * 2 ^ k) = 10066330 * 2 ^ (k - 24) := by
    rw [mul_assoc, ← zpow_add₀ two_ne_zero, show -24 + k = k - 24 by ring]
    exact_mod_cast roundNearest_intCast_mul .binary32 (k := 10066330) (t := k - 24) (by decide)
      (by omega)
  have hpow : (0 : ℚ) < 2 ^ (k - 25) := zpow_pos two_pos _
  have hsum : (13421773 : ℚ) * 2 ^ (k - 25) + 10066330 * 2 ^ (k - 24) =
      33554433 * 2 ^ (k - 25) := by
    rw [show k - 24 = k - 25 + 1 by ring, zpow_add₀ two_ne_zero]
    ring
  have hq : quantum .binary32 (33554433 * 2 ^ (k - 25)) = k - 23 := by
    have hlog : Int.log 2 ((33554433 : ℚ) * 2 ^ (k - 25)) = k := by
      have := log_mul_zpow (m := 33554433) (by norm_num) (x := 33554433) (by norm_num)
        (by norm_num) (k - 25)
      rw [this, log2_eq_of_bounds (k := 25) (by norm_num) (by norm_num)]
      push_cast
      ring
    have hnormal : (2 : ℚ) ^ (Format.binary32.minExponent + Format.binary32.mantissaBits - 1) ≤
        |33554433 * 2 ^ (k - 25)| := by
      rw [abs_of_pos (by positivity)]
      calc (2 : ℚ) ^ (Format.binary32.minExponent + Format.binary32.mantissaBits - 1)
          ≤ 2 ^ (k - 25 + 25) := zpow_le_zpow_right₀ one_le_two (by
            simp only [Format.mantissaBits, hmin]; omega)
        _ = 2 ^ 25 * 2 ^ (k - 25) := by rw [zpow_add₀ two_ne_zero]; ring
        _ ≤ 33554433 * 2 ^ (k - 25) := by gcongr; norm_num
    rw [quantum_of_normal .binary32 hnormal, abs_of_pos (by positivity), hlog]
    simp [Format.mantissaBits]
    ring
  have hunit : (2 : ℚ) ^ (k - 23) = 4 * 2 ^ (k - 25) := by
    rw [show k - 23 = k - 25 + 2 by ring, zpow_add₀ two_ne_zero]
    ring
  have hnear : |33554433 * 2 ^ (k - 25) - ((2 ^ 23 : ℤ) : ℚ) *
      2 ^ quantum .binary32 (33554433 * 2 ^ (k - 25))| <
        2 ^ quantum .binary32 (33554433 * 2 ^ (k - 25)) / 2 := by
    rw [hq, hunit, show (33554433 : ℚ) * 2 ^ (k - 25) - ((2 ^ 23 : ℤ) : ℚ) * (4 * 2 ^ (k - 25)) =
      2 ^ (k - 25) by push_cast; ring, abs_of_pos hpow]
    linarith
  unfold blendValue
  rw [ha, hb, hsum, roundNearest_eq_of_near .binary32 hnear, hq]
  rw [show k = 23 + (k - 23) by ring, zpow_add₀ two_ne_zero]
  push_cast
  ring_nf

/-- A top for the band of disparities: a binary32 value below `2 ^ 128` that the blends of both
default filters keep in place. -/
structure BandTop (hi : ℚ) : Prop where
  exact : roundNearest .binary32 hi = hi
  lt : hi < 2 ^ 128
  half : blendValue (1 / 2) (1 / 2) hi hi ≤ hi
  fourTenths : blendValue (13421773 * 2 ^ (-25 : ℤ)) (10066330 * 2 ^ (-24 : ℤ)) hi hi ≤ hi

theorem bandTop_pow {k : ℤ} (hk₁ : -124 ≤ k) (hk₂ : k ≤ 127) : BandTop (2 ^ k) where
  exact := roundNearest_two_zpow .binary32 (by simp [Format.minExponent, Format.mantissaBits]; omega)
  lt := by
    calc (2 : ℚ) ^ k < 2 ^ (128 : ℤ) := zpow_lt_zpow_right₀ one_lt_two (by omega)
      _ = 2 ^ 128 := by norm_num
  half := (blendValue_half_pow (by omega)).le
  fourTenths := (blendValue_fourTenths_pow hk₁).le

theorem bandTop_maxFinite : BandTop ((2 ^ 24 - 1) * 2 ^ (104 : ℤ)) where
  exact := by
    have h := roundNearest_intCast_mul .binary32 (k := 2 ^ 24 - 1) (t := 104) (by decide) (by decide)
    norm_num at h ⊢
    exact h
  lt := by norm_num
  half := by
    have h := blendValue_self_of_eq (α := 0.5) (v := Float32.maxFinite) (by decide) (by decide)
      (by decide) (by decide) (by decide) (by decide)
    rw [value_half, value_one_sub_half, value_maxFinite] at h
    exact h.le
  fourTenths := by
    have h := blendValue_self_of_eq (α := 0.4) (v := Float32.maxFinite) (by decide) (by decide)
      (by decide) (by decide) (by decide) (by decide)
    rw [value_fourTenths, value_one_sub_fourTenths, value_maxFinite] at h
    exact h.le

theorem closes_of_values {α : Float32} {a b hi : ℚ} (hα : α.toModel.unpack.isFinite = true)
    (hr : (1 - α).toModel.unpack.isFinite = true) (ha : value α.toModel.unpack = a)
    (hb : value (1 - α).toModel.unpack = b) (ha₀ : 0 ≤ a) (ha₁ : a ≤ 1) (hb₀ : 0 ≤ b)
    (hb₁ : b ≤ 1) (hlo : 2 ^ (-126 : ℤ) ≤ blendValue a b (2 ^ (-126 : ℤ)) (2 ^ (-126 : ℤ)))
    (htop : BandTop hi) (hhi : blendValue a b hi hi ≤ hi) : Closes α (2 ^ (-126 : ℤ)) hi := by
  subst ha hb
  exact ⟨hα, hr, ha₀, ha₁, hb₀, hb₁, by positivity, htop.exact, htop.lt, hlo, hhi⟩

theorem SpatialFilter.closes_default {hi : ℚ} (h : BandTop hi) :
    Closes ({} : SpatialFilter).alpha (2 ^ (-126 : ℤ)) hi :=
  closes_of_values (by decide) (by decide) value_half value_one_sub_half (by norm_num)
    (by norm_num) (by norm_num) (by norm_num) (blendValue_half_pow (by norm_num)).ge h h.half

theorem TemporalFilter.closes_default {hi : ℚ} (h : BandTop hi) :
    Closes ({} : TemporalFilter).alpha (2 ^ (-126 : ℤ)) hi := by
  have hfix := blendValue_self_of_eq (α := 0.4) (v := Float32.minNormal) (by decide) (by decide)
    (by decide) (by decide) (by decide) (by decide)
  rw [value_minNormal, value_fourTenths, value_one_sub_fourTenths] at hfix
  exact closes_of_values (by decide) (by decide) value_fourTenths value_one_sub_fourTenths
    (by norm_num) (by norm_num) (by norm_num) (by norm_num) hfix.ge h h.fourTenths

end Rgbd
