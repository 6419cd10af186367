import Rgbd.Align.Reproject
import Rgbd.Proofs.Raster
import Rgbd.Proofs.Float.Binary32

/-!
The forward splat, cell by cell.

With the rows splatted one after another, a target cell of an aligned frame holds the output
value of the last source pixel, in row-major order, whose patch covers it, and zero when no
patch does. A patch covers the
cells between the target pixels of its two corners, and both corners are inside the target
whenever the patch is drawn at all, so every write of the splat lands on the cell it names.
The buffer's previous contents never show: it is cleared first.
-/

namespace Rgbd.Reprojector

open Rgbd.FloatModel

variable (r : Reprojector)

def rowMajor (width height : Nat) : List (Nat × Nat) :=
  (List.range height).flatMap fun y => (List.range width).map fun x => (x, y)

/-- Whether the source pixel `(x, y)` is splatted onto the target cell `(tx, ty)`: it has a
patch, and the cell lies between the patch's two corners. -/
def covers (depth : DepthImage) (x y tx ty : Nat) : Bool :=
  match r.patch x y (depth.getD x y 0) with
  | some ((x0, y0), (x1, y1)) => decide (x0 ≤ tx ∧ tx ≤ x1 ∧ y0 ≤ ty ∧ ty ≤ y1)
  | none => false

/-- The aligned depth of a target cell: the output value of the last source pixel that is
splatted onto it, or zero. -/
def alignedValue (depth : DepthImage) (tx ty : Nat) : UInt16 :=
  match ((rowMajor depth.width depth.height).filter fun p => r.covers depth p.1 p.2 tx ty).getLast?
  with
  | some p => r.outputValue (depth.getD p.1 p.2 0)
  | none => 0

/-! ### Target pixels lie inside the target -/

theorem targetPixel_lt {src : Pixel} {d : Float32} {a b : Nat}
    (h : r.targetPixel src d = some (a, b)) : a < r.target.width ∧ b < r.target.height := by
  unfold targetPixel Intrinsics.contains at h
  dsimp only at h
  split at h
  · rename_i hin
    simp only [Bool.and_eq_true, decide_eq_true_eq] at hin
    obtain ⟨⟨⟨hx0, hy0⟩, hxw⟩, hyh⟩ := hin
    simp only [Option.some.injEq, Prod.mk.injEq] at h
    obtain ⟨rfl, rfl⟩ := h
    exact ⟨Float32.toUInt32_lt_of_lt_ofWord hx0 hxw, Float32.toUInt32_lt_of_lt_ofWord hy0 hyh⟩
  · cases h

theorem patch_lt {x y : Nat} {raw : UInt16} {c0 c1 : Nat × Nat}
    (h : r.patch x y raw = some (c0, c1)) :
    (c0.1 < r.target.width ∧ c0.2 < r.target.height) ∧
      c1.1 < r.target.width ∧ c1.2 < r.target.height := by
  unfold patch at h
  split_ifs at h
  dsimp only at h
  split at h
  · cases h
  · rename_i c0' h0
    split at h
    · cases h
    · rename_i c1' h1
      simp only [Option.some.injEq, Prod.mk.injEq] at h
      obtain ⟨rfl, rfl⟩ := h
      exact ⟨r.targetPixel_lt h0, r.targetPixel_lt h1⟩

/-! ### Writing a rectangle -/

section Rect

variable {α : Type}

theorem foldl_width {β : Type} (f : Raster α → β → Raster α)
    (hf : ∀ b a, (f b a).width = b.width) (l : List β) (buf : Raster α) :
    (l.foldl f buf).width = buf.width := by
  induction l generalizing buf with
  | nil => rfl
  | cons a l ih => rw [List.foldl_cons, ih, hf]

theorem foldl_height {β : Type} (f : Raster α → β → Raster α)
    (hf : ∀ b a, (f b a).height = b.height) (l : List β) (buf : Raster α) :
    (l.foldl f buf).height = buf.height := by
  induction l generalizing buf with
  | nil => rfl
  | cons a l ih => rw [List.foldl_cons, ih, hf]

theorem getD_foldl_row (y : Nat) (v d : α) (xs : List Nat) (buf : Raster α)
    (hxs : ∀ x ∈ xs, x < buf.width) {tx ty : Nat} (htx : tx < buf.width)
    (hty : ty < buf.height) :
    (xs.foldl (fun b x => b.set x y v) buf).getD tx ty d =
      if tx ∈ xs ∧ y = ty then v else buf.getD tx ty d := by
  induction xs generalizing buf with
  | nil => simp
  | cons x xs ih =>
    rw [List.foldl_cons, ih (buf.set x y v) (fun x' hx' => hxs x' (by simp [hx']))
      htx hty, Raster.getD_set buf (hxs x (by simp)) htx hty]
    split_ifs <;> simp_all [eq_comm]

theorem getD_foldl_rows (v d : α) (xs ys : List Nat) (buf : Raster α)
    (hxs : ∀ x ∈ xs, x < buf.width) {tx ty : Nat} (htx : tx < buf.width)
    (hty : ty < buf.height) :
    (ys.foldl (fun b y => xs.foldl (fun b x => b.set x y v) b) buf).getD tx ty d =
      if tx ∈ xs ∧ ty ∈ ys then v else buf.getD tx ty d := by
  induction ys generalizing buf with
  | nil => simp
  | cons y ys ih =>
    have hw : (xs.foldl (fun b x => b.set x y v) buf).width = buf.width :=
      foldl_width (fun b x => b.set x y v) (fun _ _ => rfl) xs buf
    have hh : (xs.foldl (fun b x => b.set x y v) buf).height = buf.height :=
      foldl_height (fun b x => b.set x y v) (fun _ _ => rfl) xs buf
    rw [List.foldl_cons, ih _ (hw ▸ hxs) (hw ▸ htx) (hh ▸ hty),
      getD_foldl_row y v d xs buf hxs htx hty]
    split_ifs <;> simp_all [eq_comm]

end Rect

theorem mem_span {a b t : Nat} : t ∈ span a b ↔ a ≤ t ∧ t ≤ b := by
  simp only [span, List.mem_range'_1]
  omega

@[simp] theorem fillRect_width (buf : DepthImage) (c0 c1 : Nat × Nat) (v : UInt16) :
    (fillRect buf c0 c1 v).width = buf.width :=
  foldl_width _ (fun b y => foldl_width (fun b x => b.set x y v) (fun _ _ => rfl) _ b) _ _

@[simp] theorem fillRect_height (buf : DepthImage) (c0 c1 : Nat × Nat) (v : UInt16) :
    (fillRect buf c0 c1 v).height = buf.height :=
  foldl_height _ (fun b y => foldl_height (fun b x => b.set x y v) (fun _ _ => rfl) _ b) _ _

theorem getD_fillRect (buf : DepthImage) {c0 c1 : Nat × Nat} (hc1 : c1.1 < buf.width)
    (v : UInt16) {tx ty : Nat} (htx : tx < buf.width) (hty : ty < buf.height) :
    (fillRect buf c0 c1 v).getD tx ty 0 =
      if c0.1 ≤ tx ∧ tx ≤ c1.1 ∧ c0.2 ≤ ty ∧ ty ≤ c1.2 then v else buf.getD tx ty 0 := by
  have hxs : ∀ x ∈ span c0.1 c1.1, x < buf.width := fun x hx => by
    have := mem_span.mp hx; omega
  rw [fillRect, getD_foldl_rows v 0 _ _ buf hxs htx hty]
  simp only [mem_span, and_assoc]

/-! ### Splatting -/

@[simp] theorem splatPixel_width (depth buf : DepthImage) (x y : Nat) :
    (r.splatPixel depth buf x y).width = buf.width := by
  unfold splatPixel
  dsimp only
  split <;> simp

@[simp] theorem splatPixel_height (depth buf : DepthImage) (x y : Nat) :
    (r.splatPixel depth buf x y).height = buf.height := by
  unfold splatPixel
  dsimp only
  split <;> simp

theorem getD_splatPixel (depth buf : DepthImage) (x y : Nat) (hw : buf.width = r.target.width)
    {tx ty : Nat} (htx : tx < buf.width) (hty : ty < buf.height) :
    (r.splatPixel depth buf x y).getD tx ty 0 =
      if r.covers depth x y tx ty then r.outputValue (depth.getD x y 0) else buf.getD tx ty 0 := by
  unfold splatPixel covers
  dsimp only
  rcases hp : r.patch x y (depth.getD x y 0) with _ | ⟨⟨x0, y0⟩, x1, y1⟩
  · simp
  · have hx1 : x1 < buf.width := hw ▸ (r.patch_lt hp).2.1
    rw [getD_fillRect buf hx1 _ htx hty]
    simp

theorem getD_foldl_splatPixel (depth : DepthImage) (pixels : List (Nat × Nat))
    (buf : DepthImage) (hw : buf.width = r.target.width) {tx ty : Nat}
    (htx : tx < buf.width) (hty : ty < buf.height) :
    (pixels.foldl (fun b (p : Nat × Nat) => r.splatPixel depth b p.1 p.2) buf).getD tx ty 0 =
      match (pixels.filter fun p => r.covers depth p.1 p.2 tx ty).getLast? with
      | some p => r.outputValue (depth.getD p.1 p.2 0)
      | none => buf.getD tx ty 0 := by
  induction pixels generalizing buf with
  | nil => rfl
  | cons p ps ih =>
    rw [List.foldl_cons, ih _ (by rw [splatPixel_width, hw])
      (by rw [splatPixel_width]; exact htx) (by rw [splatPixel_height]; exact hty),
      getD_splatPixel r depth buf p.1 p.2 hw htx hty, List.filter_cons]
    cases hlast : (ps.filter fun p => r.covers depth p.1 p.2 tx ty).getLast? <;>
      by_cases hp : r.covers depth p.1 p.2 tx ty <;> simp [hlast, hp, List.getLast?_cons]

theorem splat_eq_foldl (depth buf : DepthImage) :
    r.splat depth buf =
      (rowMajor depth.width depth.height).foldl
        (fun b (p : Nat × Nat) => r.splatPixel depth b p.1 p.2) buf := by
  simp [splat, rowMajor, List.foldl_flatMap, List.foldl_map]

@[simp] theorem splat_width (depth buf : DepthImage) : (r.splat depth buf).width = buf.width := by
  rw [splat_eq_foldl]
  exact foldl_width _ (fun b (p : Nat × Nat) => r.splatPixel_width depth b p.1 p.2) _ _

@[simp] theorem splat_height (depth buf : DepthImage) :
    (r.splat depth buf).height = buf.height := by
  rw [splat_eq_foldl]
  exact foldl_height _ (fun b (p : Nat × Nat) => r.splatPixel_height depth b p.1 p.2) _ _

theorem splat_fill (depth : DepthImage) :
    r.splat depth (Raster.fill r.target.width r.target.height 0) =
      Raster.ofFn r.target.width r.target.height (r.alignedValue depth) := by
  apply Raster.ext_getD (by simp) (by simp) 0
  intro tx ty htx hty
  simp only [splat_width, splat_height, Raster.fill_width, Raster.fill_height] at htx hty
  rw [splat_eq_foldl, getD_foldl_splatPixel r depth _ _ rfl htx hty,
    Raster.getD_ofFn _ htx hty, alignedValue]
  split <;> simp [Raster.getD_fill htx hty]

theorem reproject_eq (depth out : DepthImage) :
    r.reproject depth out =
      if depth.dimensions ≠ (r.source.width, r.source.height) then
        .error (.sourceDimensions (r.source.width, r.source.height) depth.dimensions)
      else if out.dimensions ≠ (r.target.width, r.target.height) then
        .error (.targetDimensions (r.target.width, r.target.height) out.dimensions)
      else .ok (Raster.ofFn r.target.width r.target.height (r.alignedValue depth)) := by
  unfold reproject
  split_ifs with hsrc htgt
  · rfl
  · rfl
  · simp only [Raster.dimensions, ne_eq, Decidable.not_not, Prod.mk.injEq] at htgt
    rw [htgt.1, htgt.2, splat_fill]

theorem reproject_last_cover (depth out : DepthImage) :
    r.reproject depth out =
        (if depth.dimensions ≠ (r.source.width, r.source.height) then
          .error (.sourceDimensions (r.source.width, r.source.height) depth.dimensions)
        else if out.dimensions ≠ (r.target.width, r.target.height) then
          .error (.targetDimensions (r.target.width, r.target.height) out.dimensions)
        else .ok (Raster.ofFn r.target.width r.target.height (r.alignedValue depth))) ∧
      (out.dimensions = (r.target.width, r.target.height) →
        r.reprojectImage depth = r.reproject depth out) := by
  refine ⟨r.reproject_eq depth out, fun hout => ?_⟩
  have hbuf : r.buffer.dimensions = (r.target.width, r.target.height) := rfl
  rw [reprojectImage, reproject_eq, reproject_eq, hbuf, hout]

/-! ### The writes of a splat

Splatting a source pixel writes its output value into each cell of its patch, the patch's
rows outer and its columns inner, and the source pixels come in row-major order. Listed one
by one, these writes make the whole splat, and each names a cell inside the target, since
both corners of a drawn patch are target pixels. -/

def writes (depth : DepthImage) : List ((Nat × Nat) × UInt16) :=
  (rowMajor depth.width depth.height).flatMap fun p => r.pixelWrites depth p.1 p.2

theorem splatPixel_eq_writes (depth buf : DepthImage) (x y : Nat) :
    r.splatPixel depth buf x y = (r.pixelWrites depth x y).foldl write buf := by
  unfold splatPixel pixelWrites
  dsimp only
  rcases r.patch x y (depth.getD x y 0) with _ | ⟨c0, c1⟩
  · rfl
  · simp [fillRect, List.foldl_flatMap, List.foldl_map, write]

theorem splat_eq_writes (depth buf : DepthImage) :
    r.splat depth buf = (r.writes depth).foldl write buf := by
  rw [splat_eq_foldl, writes, List.foldl_flatMap]
  simp only [splatPixel_eq_writes]

theorem lt_of_mem_pixelWrites {depth : DepthImage} {x y : Nat} {s : (Nat × Nat) × UInt16}
    (h : s ∈ r.pixelWrites depth x y) : s.1.1 < r.target.width ∧ s.1.2 < r.target.height := by
  unfold pixelWrites at h
  split at h
  · rename_i c0 c1 hp
    have hc1 := (r.patch_lt hp).2
    simp only [List.mem_flatMap, List.mem_map, mem_span] at h
    obtain ⟨ty, ⟨_, hty⟩, tx, ⟨_, htx⟩, rfl⟩ := h
    dsimp only
    exact ⟨by omega, by omega⟩
  · cases h

theorem lt_of_mem_writes {depth : DepthImage} {s : (Nat × Nat) × UInt16}
    (h : s ∈ r.writes depth) : s.1.1 < r.target.width ∧ s.1.2 < r.target.height := by
  obtain ⟨p, -, hs⟩ := List.mem_flatMap.1 h
  exact r.lt_of_mem_pixelWrites hs

/-- Reprojection never writes outside its buffer. Every write of a splat names a cell inside
the target, whatever the calibrations, extrinsics, scales and depths, non-finite ones
included; and a frame and buffer that pass the size checks are aligned by performing exactly
these writes, in order, on the cleared buffer, each at an entry of the buffer's data. -/
theorem reproject_writes_inside_buffer (depth out : DepthImage) :
    (∀ s ∈ r.writes depth, s.1.1 < r.target.width ∧ s.1.2 < r.target.height) ∧
      (depth.dimensions = (r.source.width, r.source.height) →
        out.dimensions = (r.target.width, r.target.height) →
        r.reproject depth out =
          .ok ((r.writes depth).foldl write (Raster.fill out.width out.height 0)) ∧
          ∀ s ∈ r.writes depth, s.1.2 * out.width + s.1.1 < out.data.size) := by
  refine ⟨fun s hs => r.lt_of_mem_writes hs, fun hsrc hout => ⟨?_, fun s hs => ?_⟩⟩
  · unfold reproject
    rw [if_neg (not_not.2 hsrc), if_neg (not_not.2 hout), splat_eq_writes]
  · simp only [Raster.dimensions, Prod.mk.injEq] at hout
    obtain ⟨hx, hy⟩ := r.lt_of_mem_writes hs
    rw [out.size_eq]
    exact Raster.cell_index_lt (hout.1 ▸ hx) (hout.2 ▸ hy)

end Rgbd.Reprojector
