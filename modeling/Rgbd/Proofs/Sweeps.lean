import Rgbd.Proofs.Float.Sign
import Rgbd.Proofs.Consistency

/-!
# Spatial smoothing touches no hole and blends across no edge

Both smoothing filters blend a pixel `c` with a neighbour value `h` into `α c + (1 - α) h`
exactly when the two are `Close`: both positive and less than `δ` apart. A difference and
its reverse have the same magnitude, so closeness does not depend on the order of the pixels.

A sweep of the spatial filter walks a line of positions and blends each pixel with the value
it left at the position before; the first pixel is compared with zero and so never blended.
The filter as a whole is one fold of sweeps along the lines of its schedule (`apply_data`):
each iteration sweeps every row forwards and backwards, then every column downwards and
upwards. Consecutive positions of a row line are horizontal neighbours in that row, those of
a column line vertical neighbours in that column (`IsRow`, `IsColumn`), and a sweep along a
line leaves at each position the blend of the pixel there with what it left at the position
before (`SweptAlong`). Hence a pixel that is not positive (zero, negative or NaN) keeps its
bits through every sweep, and on a `Calm` image, where no two adjacent pixels are close,
every sweep rewrites each pixel with itself. Main statement:
`spatial_filter_respects_holes_and_edges`.
-/

namespace Rgbd

open FloatModel

/-! ### The blend rule -/

/-- Two pixels the smoothing filters blend: both positive and closer than `δ`. -/
def Close (δ c h : Float32) : Prop := 0 < c ∧ 0 < h ∧ (c - h).abs < δ

instance (δ c h : Float32) : Decidable (Close δ c h) :=
  inferInstanceAs (Decidable (0 < c ∧ 0 < h ∧ (c - h).abs < δ))

theorem Close.symm {δ c h : Float32} (hc : Close δ c h) : Close δ h c :=
  ⟨hc.2.1, hc.1, Float32.abs_sub_swap c h ▸ hc.2.2⟩

theorem not_close_zero (δ c : Float32) : ¬ Close δ c 0 := fun hc =>
  absurd hc.2.1 (by decide)

variable {α δ h c : Float32}

theorem blendPixel_of_close (hc : Close δ c h) : blendPixel α δ h c = α * c + (1 - α) * h := by
  obtain ⟨hcpos, hhpos, hnear⟩ := hc
  unfold blendPixel
  rw [if_pos (by simp [hcpos, hhpos, hnear])]

theorem blendPixel_of_not_close (hc : ¬ Close δ c h) : blendPixel α δ h c = c := by
  unfold blendPixel
  rw [if_neg (by simpa [Close, and_assoc] using hc)]

theorem blendPixel_of_not_pos (hc : ¬ 0 < c) : blendPixel α δ h c = c :=
  blendPixel_of_not_close fun hcl => hc hcl.1

/-! ### Images without close neighbours -/

/-- No two horizontally or vertically adjacent pixels are both positive and closer than `δ`. -/
def Raster.Calm (δ : Float32) (r : FloatImage) : Prop :=
  ∀ y < r.height, ∀ x < r.width,
    (x + 1 < r.width → ¬ Close δ (r.getD x y 0) (r.getD (x + 1) y 0)) ∧
      (y + 1 < r.height → ¬ Close δ (r.getD x y 0) (r.getD x (y + 1) 0))

instance (δ : Float32) (r : FloatImage) : Decidable (r.Calm δ) :=
  inferInstanceAs (Decidable (∀ y < r.height, ∀ x < r.width, _))

theorem Raster.ext_data {α : Type} {r s : Raster α} (hw : r.width = s.width)
    (hh : r.height = s.height) (hd : r.data = s.data) : r = s := by
  cases r
  cases s
  subst hw hh hd
  rfl

namespace SpatialFilter

variable (f : SpatialFilter)

/-! ### The lines the filter sweeps -/

def rowLine (w y : Nat) : List Nat := (List.range w).map fun x => y * w + x

def columnLine (w h x : Nat) : List Nat := (List.range h).map fun y => y * w + x

/-- The lines one iteration sweeps, in order: each row forwards and backwards, then each
column downwards and upwards. -/
def passLines (w h : Nat) : List (List Nat) :=
  (List.range h).flatMap (fun y => [rowLine w y, (rowLine w y).reverse]) ++
    (List.range w).flatMap fun x => [columnLine w h x, (columnLine w h x).reverse]

def schedule (w h : Nat) : List (List Nat) := (List.replicate f.iterations (passLines w h)).flatten

/-- A line along row `y < h` of a `w × h` grid: its positions are cells of that row and each
is the horizontal neighbour of the one before. -/
def IsRow (w h : Nat) (line : List Nat) : Prop :=
  ∃ y < h, (∀ p ∈ line, ∃ x < w, p = y * w + x) ∧ line.IsChain fun p q => q = p + 1 ∨ p = q + 1

/-- A line along column `x < w` of a `w × h` grid: its positions are cells of that column and
each is the vertical neighbour of the one before. -/
def IsColumn (w h : Nat) (line : List Nat) : Prop :=
  ∃ x < w, (∀ p ∈ line, ∃ y < h, p = y * w + x) ∧ line.IsChain fun p q => q = p + w ∨ p = q + w

theorem isChain_reverse_of_symm {R : Nat → Nat → Prop} (hR : ∀ p q, R p q → R q p)
    {l : List Nat} (h : l.IsChain R) : l.reverse.IsChain R :=
  List.isChain_reverse.2 (h.imp fun p q hpq => hR p q hpq)

theorem isRow_rowLine {w h y : Nat} (hy : y < h) : IsRow w h (rowLine w y) := by
  refine ⟨y, hy, fun p hp => ?_, ?_⟩
  · obtain ⟨x, hx, rfl⟩ := List.mem_map.1 hp
    exact ⟨x, List.mem_range.1 hx, rfl⟩
  · unfold rowLine
    rw [List.isChain_map, List.isChain_range]
    exact fun m _ => .inl (by omega)

theorem isRow_reverse {w h : Nat} {line : List Nat} (hl : IsRow w h line) :
    IsRow w h line.reverse := by
  obtain ⟨y, hy, hrow, hchain⟩ := hl
  exact ⟨y, hy, fun p hp => hrow p (List.mem_reverse.1 hp),
    isChain_reverse_of_symm (fun _ _ => Or.symm) hchain⟩

theorem isColumn_columnLine {w h x : Nat} (hx : x < w) : IsColumn w h (columnLine w h x) := by
  refine ⟨x, hx, fun p hp => ?_, ?_⟩
  · obtain ⟨y, hy, rfl⟩ := List.mem_map.1 hp
    exact ⟨y, List.mem_range.1 hy, rfl⟩
  · unfold columnLine
    rw [List.isChain_map, List.isChain_range]
    exact fun m _ => .inl (by rw [Nat.succ_mul]; omega)

theorem isColumn_reverse {w h : Nat} {line : List Nat} (hl : IsColumn w h line) :
    IsColumn w h line.reverse := by
  obtain ⟨x, hx, hcol, hchain⟩ := hl
  exact ⟨x, hx, fun p hp => hcol p (List.mem_reverse.1 hp),
    isChain_reverse_of_symm (fun _ _ => Or.symm) hchain⟩

theorem nodup_rowLine (w y : Nat) : (rowLine w y).Nodup :=
  (List.nodup_range).map fun _ _ h => Nat.add_left_cancel h

theorem nodup_columnLine {w : Nat} (hw : 0 < w) (h x : Nat) : (columnLine w h x).Nodup :=
  (List.nodup_range).map fun _ _ hy => Nat.eq_of_mul_eq_mul_right hw (Nat.add_right_cancel hy)

theorem mem_passLines {w h : Nat} {line : List Nat} (hl : line ∈ passLines w h) :
    (∃ y < h, line = rowLine w y ∨ line = (rowLine w y).reverse) ∨
      ∃ x < w, line = columnLine w h x ∨ line = (columnLine w h x).reverse := by
  rcases List.mem_append.1 hl with hrow | hcol
  · obtain ⟨y, hy, hmem⟩ := List.mem_flatMap.1 hrow
    simp only [List.mem_cons, List.not_mem_nil, or_false] at hmem
    exact .inl ⟨y, List.mem_range.1 hy, hmem⟩
  · obtain ⟨x, hx, hmem⟩ := List.mem_flatMap.1 hcol
    simp only [List.mem_cons, List.not_mem_nil, or_false] at hmem
    exact .inr ⟨x, List.mem_range.1 hx, hmem⟩

theorem mem_passLines_of_mem_schedule {w h : Nat} {line : List Nat}
    (hl : line ∈ f.schedule w h) : line ∈ passLines w h := by
  obtain ⟨lines, hlines, hline⟩ := List.mem_flatten.1 hl
  rwa [List.eq_of_mem_replicate hlines] at hline

theorem row_or_column_of_mem_passLines {w h : Nat} {line : List Nat}
    (hl : line ∈ passLines w h) : (IsRow w h line ∨ IsColumn w h line) ∧ line.Nodup := by
  rcases mem_passLines hl with ⟨y, hy, rfl | rfl⟩ | ⟨x, hx, rfl | rfl⟩
  · exact ⟨.inl (isRow_rowLine hy), nodup_rowLine w y⟩
  · exact ⟨.inl (isRow_reverse (isRow_rowLine hy)), List.nodup_reverse.2 (nodup_rowLine w y)⟩
  · exact ⟨.inr (isColumn_columnLine hx), nodup_columnLine (Nat.zero_lt_of_lt hx) h x⟩
  · exact ⟨.inr (isColumn_reverse (isColumn_columnLine hx)),
      List.nodup_reverse.2 (nodup_columnLine (Nat.zero_lt_of_lt hx) h x)⟩

theorem pass_eq (w h : Nat) (d : Array Float32) :
    f.pass w h d = (passLines w h).foldl f.sweep d := by
  simp only [pass, passLines, List.foldl_append, List.foldl_flatMap, sweepBoth, rowLine,
    columnLine, List.foldl_cons, List.foldl_nil]

/-! ### Sweeps -/

@[simp] theorem size_foldl_sweepStep (ps : List Nat) (acc : Float32 × Array Float32) :
    (ps.foldl f.sweepStep acc).2.size = acc.2.size := by
  induction ps generalizing acc with
  | nil => rfl
  | cons i ps ih => rw [List.foldl_cons, ih, sweepStep, Array.size_setIfInBounds]

@[simp] theorem size_sweep (d : Array Float32) (ps : List Nat) : (f.sweep d ps).size = d.size :=
  f.size_foldl_sweepStep ps (0, d)

theorem size_foldl_sweep (lines : List (List Nat)) (d : Array Float32) :
    (lines.foldl f.sweep d).size = d.size := by
  induction lines generalizing d with
  | nil => rfl
  | cons l lines ih => rw [List.foldl_cons, ih, size_sweep]

theorem foldl_sweep_of_forall_nil {lines : List (List Nat)} (hl : ∀ l ∈ lines, l = [])
    (d : Array Float32) : lines.foldl f.sweep d = d := by
  induction lines with
  | nil => rfl
  | cons l lines ih =>
    rw [List.foldl_cons, hl l List.mem_cons_self]
    exact ih fun l' hl' => hl l' (List.mem_cons_of_mem _ hl')

theorem foldl_pass_eq (w h n : Nat) (d : Array Float32) :
    (List.replicate n ()).foldl (fun d _ => f.pass w h d) d =
      (List.replicate n (passLines w h)).flatten.foldl f.sweep d := by
  induction n generalizing d with
  | zero => rfl
  | succ n ih =>
    rw [List.replicate_succ, List.foldl_cons, ih, List.replicate_succ, List.flatten_cons,
      List.foldl_append, pass_eq]

/-- The spatial filter is one fold of sweeps along the lines of its schedule. -/
theorem apply_data (image : FloatImage) :
    (f.apply image).data = (f.schedule image.width image.height).foldl f.sweep image.data := by
  unfold apply schedule
  split
  · rename_i hempty
    refine (f.foldl_sweep_of_forall_nil (fun l hl => ?_) image.data).symm
    have hl := mem_passLines (f.mem_passLines_of_mem_schedule hl)
    rcases hl with ⟨y, hy, rfl | rfl⟩ | ⟨x, hx, rfl | rfl⟩ <;>
      simp [rowLine, columnLine] <;> omega
  · rw [f.foldl_pass_eq]
    unfold Raster.withData
    rw [dif_pos (by rw [f.size_foldl_sweep, image.size_eq])]

/-! ### What a sweep leaves along its line -/

/-- `d'` holds at each position of a line the blend of the pixel of `d` there with the value
`d'` holds at the position before; `v` stands before the first position. -/
def Scans (d d' : Array Float32) : Float32 → List Nat → Prop
  | _, [] => True
  | v, i :: ps =>
    d'.getD i 0 = blendPixel f.alpha f.delta v (d.getD i 0) ∧ Scans d d' (d'.getD i 0) ps

/-- `d'` is `d` swept along `line`: each position of the line holds the blend of its pixel with
what the sweep left at the position before, zero before the first, and every other entry is
the entry of `d`. -/
structure SweptAlong (d : Array Float32) (line : List Nat) (d' : Array Float32) : Prop where
  size_eq : d'.size = d.size
  scans : f.Scans d d' 0 line
  frame : ∀ j ∉ line, d'[j]? = d[j]?

theorem Scans.of_agree {d e d' : Array Float32} {v : Float32} {ps : List Nat}
    (hde : ∀ j ∈ ps, d.getD j 0 = e.getD j 0) (h : f.Scans d d' v ps) : f.Scans e d' v ps := by
  induction ps generalizing v with
  | nil => trivial
  | cons i ps ih =>
    obtain ⟨hi, hrest⟩ := h
    refine ⟨hde i List.mem_cons_self ▸ hi, ih (fun j hj => hde j (List.mem_cons_of_mem _ hj)) hrest⟩

theorem getD_sweepStep_self (v : Float32) (d : Array Float32) (i : Nat) :
    (f.sweepStep (v, d) i).2.getD i 0 = (f.sweepStep (v, d) i).1 := by
  simp only [sweepStep, Array.getD_eq_getD_getElem?, Array.getElem?_setIfInBounds_self]
  split
  · rfl
  · rename_i hi
    rw [Array.getElem?_eq_none (by omega), Option.getD_none,
      blendPixel_of_not_pos (by decide : ¬ (0 : Float32) < 0)]

theorem foldl_sweepStep_sweptAlong {ps : List Nat} (hnd : ps.Nodup) (v : Float32)
    (d : Array Float32) :
    f.Scans d (ps.foldl f.sweepStep (v, d)).2 v ps ∧
      ∀ j ∉ ps, (ps.foldl f.sweepStep (v, d)).2[j]? = d[j]? := by
  induction ps generalizing v d with
  | nil => exact ⟨trivial, fun _ _ => rfl⟩
  | cons i ps ih =>
    obtain ⟨hi, hnd⟩ := List.nodup_cons.1 hnd
    rw [List.foldl_cons]
    have hstep : f.sweepStep (v, d) i = ((f.sweepStep (v, d) i).1, (f.sweepStep (v, d) i).2) := rfl
    obtain ⟨hscan, hframe⟩ := ih hnd (f.sweepStep (v, d) i).1 (f.sweepStep (v, d) i).2
    rw [← hstep] at hscan hframe
    generalize hr : (ps.foldl f.sweepStep (f.sweepStep (v, d) i)).2 = r at hscan hframe
    have hri : r.getD i 0 = (f.sweepStep (v, d) i).1 := by
      rw [Array.getD_eq_getD_getElem?, hframe i hi, ← Array.getD_eq_getD_getElem?,
        getD_sweepStep_self]
    have hset : ∀ j, j ≠ i → (f.sweepStep (v, d) i).2[j]? = d[j]? := fun j hj =>
      Array.getElem?_setIfInBounds_ne (Ne.symm hj)
    refine ⟨⟨hri, ?_⟩, fun j hj => ?_⟩
    · rw [hri]
      refine Scans.of_agree f (fun j hj => ?_) hscan
      rw [Array.getD_eq_getD_getElem?, Array.getD_eq_getD_getElem?,
        hset j (fun h => hi (h ▸ hj))]
    · rw [List.mem_cons, not_or] at hj
      rw [hframe j hj.2, hset j hj.1]

theorem sweep_sweptAlong {line : List Nat} (hnd : line.Nodup) (d : Array Float32) :
    f.SweptAlong d line (f.sweep d line) :=
  ⟨f.size_sweep d line, (f.foldl_sweepStep_sweptAlong hnd 0 d).1,
    (f.foldl_sweepStep_sweptAlong hnd 0 d).2⟩

/-! ### Pixels that are not positive -/

def KeepsNonPositive (d d' : Array Float32) : Prop :=
  ∀ (i : Nat) (v : Float32), d[i]? = some v → ¬ 0 < v → d'[i]? = some v

theorem KeepsNonPositive.refl (d : Array Float32) : KeepsNonPositive d d := fun _ _ h _ => h

theorem KeepsNonPositive.trans {d₁ d₂ d₃ : Array Float32} (h₁ : KeepsNonPositive d₁ d₂)
    (h₂ : KeepsNonPositive d₂ d₃) : KeepsNonPositive d₁ d₃ :=
  fun i v hi hv => h₂ i v (h₁ i v hi hv) hv

theorem keepsNonPositive_sweepStep (acc : Float32 × Array Float32) (i : Nat) :
    KeepsNonPositive acc.2 (f.sweepStep acc i).2 := by
  intro j v hj hv
  by_cases hij : i = j
  · subst hij
    have hlt : i < acc.2.size := (Array.getElem?_eq_some_iff.1 hj).1
    have hread : acc.2.getD i 0 = v := by rw [Array.getD_eq_getD_getElem?, hj, Option.getD_some]
    simp only [sweepStep, hread, blendPixel_of_not_pos hv]
    exact Array.getElem?_setIfInBounds_self_of_lt hlt
  · rw [sweepStep, Array.getElem?_setIfInBounds_ne hij]
    exact hj

theorem keepsNonPositive_sweep (d : Array Float32) (ps : List Nat) :
    KeepsNonPositive d (f.sweep d ps) := by
  suffices h : ∀ acc : Float32 × Array Float32, KeepsNonPositive d acc.2 →
      KeepsNonPositive d (ps.foldl f.sweepStep acc).2 from h (0, d) (.refl d)
  induction ps with
  | nil => exact fun _ h => h
  | cons i ps ih => exact fun acc h => ih _ (h.trans (f.keepsNonPositive_sweepStep acc i))

theorem keepsNonPositive_foldl_sweep (lines : List (List Nat)) (d : Array Float32) :
    KeepsNonPositive d (lines.foldl f.sweep d) := by
  induction lines generalizing d with
  | nil => exact .refl d
  | cons l lines ih => exact (f.keepsNonPositive_sweep d l).trans (ih _)

/-! ### Lines without close neighbours -/

theorem setIfInBounds_getD_self (d : Array Float32) (i : Nat) :
    d.setIfInBounds i (d.getD i 0) = d := by
  by_cases hi : i < d.size
  · rw [Array.getD_eq_getD_getElem?, Array.getElem?_eq_getElem hi, Option.getD_some,
      Array.setIfInBounds_def, dif_pos hi, Array.set_getElem_self]
  · exact Array.setIfInBounds_eq_of_size_le (by omega)

theorem foldl_sweepStep_self {d : Array Float32} {ps : List Nat} (v : Float32)
    (hv : ∀ q ∈ ps.head?, ¬ Close f.delta (d.getD q 0) v)
    (hps : ps.IsChain fun p q => ¬ Close f.delta (d.getD q 0) (d.getD p 0)) :
    (ps.foldl f.sweepStep (v, d)).2 = d := by
  induction ps generalizing v with
  | nil => rfl
  | cons i ps ih =>
    have hstep : f.sweepStep (v, d) i = (d.getD i 0, d) := by
      rw [sweepStep, blendPixel_of_not_close (hv i rfl), setIfInBounds_getD_self]
    obtain ⟨hhead, htail⟩ := List.isChain_cons.1 hps
    rw [List.foldl_cons, hstep]
    exact ih _ hhead htail

theorem sweep_self {d : Array Float32} {ps : List Nat}
    (hps : ps.IsChain fun p q => ¬ Close f.delta (d.getD q 0) (d.getD p 0)) :
    f.sweep d ps = d :=
  f.foldl_sweepStep_self 0 (fun _ _ => not_close_zero _ _) hps

theorem isChain_not_close_of_calm {image : FloatImage} (hc : image.Calm f.delta)
    {line : List Nat} (hl : IsRow image.width image.height line ∨
      IsColumn image.width image.height line) :
    line.IsChain fun p q => ¬ Close f.delta (image.data.getD q 0) (image.data.getD p 0) := by
  rcases hl with ⟨y, hy, hrow, hchain⟩ | ⟨x, hx, hcol, hchain⟩
  · refine hchain.imp_of_mem_imp fun p q hp hq hpq => ?_
    obtain ⟨x₁, hx₁, rfl⟩ := hrow p hp
    obtain ⟨x₂, hx₂, rfl⟩ := hrow q hq
    change ¬ Close f.delta (image.getD x₂ y 0) (image.getD x₁ y 0)
    rcases hpq with hpq | hpq
    · obtain rfl : x₂ = x₁ + 1 := by omega
      exact fun h => (hc y hy x₁ hx₁).1 hx₂ h.symm
    · obtain rfl : x₁ = x₂ + 1 := by omega
      exact (hc y hy x₂ hx₂).1 hx₁
  · refine hchain.imp_of_mem_imp fun p q hp hq hpq => ?_
    obtain ⟨y₁, hy₁, rfl⟩ := hcol p hp
    obtain ⟨y₂, hy₂, rfl⟩ := hcol q hq
    change ¬ Close f.delta (image.getD x y₂ 0) (image.getD x y₁ 0)
    have hw : 0 < image.width := Nat.zero_lt_of_lt hx
    rcases hpq with hpq | hpq
    · obtain rfl : y₂ = y₁ + 1 :=
        Nat.eq_of_mul_eq_mul_right hw (by rw [Nat.succ_mul]; omega)
      exact fun h => (hc y₁ hy₁ x hx).2 hy₂ h.symm
    · obtain rfl : y₁ = y₂ + 1 :=
        Nat.eq_of_mul_eq_mul_right hw (by rw [Nat.succ_mul]; omega)
      exact (hc y₂ hy₂ x hx).2 hy₁

theorem foldl_sweep_of_calm {image : FloatImage} (hc : image.Calm f.delta)
    {lines : List (List Nat)} (hl : ∀ l ∈ lines, l ∈ passLines image.width image.height) :
    lines.foldl f.sweep image.data = image.data := by
  induction lines with
  | nil => rfl
  | cons l lines ih =>
    have hline := (row_or_column_of_mem_passLines (hl l List.mem_cons_self)).1
    rw [List.foldl_cons, f.sweep_self (f.isChain_not_close_of_calm hc hline)]
    exact ih fun l' hl' => hl l' (List.mem_cons_of_mem _ hl')

theorem apply_of_calm {image : FloatImage} (hc : image.Calm f.delta) : f.apply image = image := by
  have hdata : (f.apply image).data = image.data := by
    rw [apply_data]
    exact f.foldl_sweep_of_calm hc fun l hl => f.mem_passLines_of_mem_schedule hl
  have hdim := f.apply_dimensions image
  simp only [Raster.dimensions, Prod.mk.injEq] at hdim
  exact Raster.ext_data hdim.1 hdim.2 hdata

/-! ### The spatial filter -/

/-- The spatial filter touches no hole and blends across no edge. For every weight, step bound
(NaN included), iteration count and image: the dimensions stay; every entry that is not
positive (zero, negative or NaN) keeps its bits; an image where no two horizontally or
vertically adjacent pixels are both positive and closer than `δ` comes back bit for bit. The
filter is the sweeps along the lines of its schedule; each line is a row walked one way or the
other, its consecutive positions horizontal neighbours, or a column `x`, its consecutive
positions vertical neighbours in that column; and a sweep leaves at each position of its line
the blend of the pixel there with what it left at the position before, so it compares only
neighbours. -/
theorem apply_respects_holes_and_edges (image : FloatImage) :
    (f.apply image).dimensions = image.dimensions ∧
      (∀ (i : Nat) (v : Float32), image.data[i]? = some v → ¬ 0 < v →
        (f.apply image).data[i]? = some v) ∧
      (image.Calm f.delta → f.apply image = image) ∧
      (f.apply image).data = (f.schedule image.width image.height).foldl f.sweep image.data ∧
      ∀ line ∈ f.schedule image.width image.height,
        (IsRow image.width image.height line ∨ IsColumn image.width image.height line) ∧
          ∀ d, f.SweptAlong d line (f.sweep d line) := by
  refine ⟨f.apply_dimensions image, fun i v hi hv => ?_, f.apply_of_calm, f.apply_data image,
    fun line hl => ?_⟩
  · rw [apply_data]
    exact f.keepsNonPositive_foldl_sweep _ _ i v hi hv
  · obtain ⟨hshape, hnd⟩ := row_or_column_of_mem_passLines (f.mem_passLines_of_mem_schedule hl)
    exact ⟨hshape, fun d => f.sweep_sweptAlong hnd d⟩

example : (({} : SpatialFilter).apply ⟨3, 3, #[5, 5, 5, 5, 0, 5, 5, 5, 5], rfl⟩).getD 1 1 0 = 0 := by
  decide +kernel

end SpatialFilter

end Rgbd
