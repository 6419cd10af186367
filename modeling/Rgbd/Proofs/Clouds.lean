import Rgbd.Cloud
import Rgbd.Proofs.Raster
import Rgbd.Proofs.Float.Binary32

/-!
Organized clouds, cell by cell.

A cloud laid out from a depth frame has the frame's width and height and one entry per
pixel, and entry `i` holds the value computed at the pixel that `i` names once truncated to
32 bits (`getElem?_layout_points`). Reading the cell `(x, y)` looks at entry `y * width + x`,
so below `2 ^ 32` entries it finds the value of `(x, y)` itself, and past them the value of the
pixel `2 ^ 32` entries earlier (`get?_layout`).

Main statements: a depth cloud is refused exactly for a frame of another size, and otherwise
holds at each cell below `2 ^ 32` entries the deprojected pixel, or the origin where the depth
is not positive, and the colored cloud is laid out the same way (`depthCloud_organized`);
larger frames break that law (`depthCloud_wraps_past_32_bits`). A colored cloud holds at each
cell the depth cloud's point, moved to the origin beyond five meters and painted from the
color pixel nearest to where it is imaged, or with the fixed color when the color camera does
not see it (`coloredCloud_agrees_with_depthCloud`).
-/

namespace Rgbd

open Rgbd.FloatModel

/-! ### Layouts -/

namespace OrganizedCloud

variable {P : Type} (depth : DepthImage) (f : Nat → Nat → P)

@[simp] theorem layout_width : (layout depth f).width = depth.width := rfl

@[simp] theorem layout_height : (layout depth f).height = depth.height := rfl

@[simp] theorem length_layout_points :
    (layout depth f).points.length = depth.width * depth.height := by
  simp [layout]

theorem getElem?_layout_points (i : Nat) :
    (layout depth f).points[i]? =
      if i < depth.width * depth.height then
        some (f (i % 2 ^ 32 % depth.width) (i % 2 ^ 32 / depth.width))
      else none := by
  by_cases hi : i < depth.width * depth.height <;> simp [layout, hi]

theorem get?_layout {x y : Nat} (hx : x < depth.width) (hy : y < depth.height) :
    (layout depth f).get? x y =
      some (f ((y * depth.width + x) % 2 ^ 32 % depth.width)
        ((y * depth.width + x) % 2 ^ 32 / depth.width)) := by
  rw [get?, layout_width, getElem?_layout_points, if_pos (Raster.cell_index_lt hx hy)]

theorem get?_layout_of_lt {x y : Nat} (hx : x < depth.width) (hy : y < depth.height)
    (hsmall : y * depth.width + x < 2 ^ 32) : (layout depth f).get? x y = some (f x y) := by
  rw [get?_layout depth f hx hy, Nat.mod_eq_of_lt hsmall, Raster.cell_index_mod hx,
    Raster.cell_index_div hx]

end OrganizedCloud

/-! ### Colored points -/

namespace ColoredPoint

@[simp] theorem point_ofPoint (p : Vec3) (c : Rgb) : (ofPoint p c).point = p := rfl

theorem toNat_rgb_ofPoint (p : Vec3) (c : Rgb) :
    (ofPoint p c).rgb.toNat = c.r.toNat * 65536 + c.g.toNat * 256 + c.b.toNat := by
  have hr := c.r.toNat_lt
  have hg := c.g.toNat_lt
  have hb := c.b.toNat_lt
  simp only [ofPoint, UInt32.toNat_or, UInt32.toNat_shiftLeft, UInt8.toNat_toUInt32,
    UInt32.reduceToNat, Nat.reduceMod, Nat.shiftLeft_eq]
  have hhigh : c.r.toNat * 2 ^ 16 % 2 ^ 32 = 2 ^ 16 * c.r.toNat := by omega
  have hlow : c.g.toNat * 2 ^ 8 % 2 ^ 32 < 2 ^ 16 := by omega
  rw [hhigh, ← Nat.two_pow_add_eq_or_of_lt hlow]
  have hmid : 2 ^ 16 * c.r.toNat + c.g.toNat * 2 ^ 8 % 2 ^ 32 =
      2 ^ 8 * (256 * c.r.toNat + c.g.toNat) := by
    omega
  rw [hmid, ← Nat.two_pow_add_eq_or_of_lt (show c.b.toNat < 2 ^ 8 from hb)]
  omega

@[simp] theorem color_ofPoint (p : Vec3) (c : Rgb) : (ofPoint p c).color = c := by
  obtain ⟨r, g, b⟩ := c
  have hrgb := toNat_rgb_ofPoint p ⟨r, g, b⟩
  have hr := r.toNat_lt
  have hg := g.toNat_lt
  have hb := b.toNat_lt
  dsimp only at hrgb
  simp only [color, Rgb.mk.injEq]
  refine ⟨?_, ?_, ?_⟩ <;> apply UInt8.toNat_inj.1 <;>
    simp only [UInt32.toNat_toUInt8, UInt32.toNat_shiftRight, UInt32.reduceToNat, Nat.reduceMod,
      Nat.shiftRight_eq_div_pow] <;> omega

end ColoredPoint

/-! ### What a cloud holds for each pixel -/

namespace ColorSource

variable (src : ColorSource)

/-- The color pixel nearest to a location: its coordinates rounded half up and truncated to
32 bits, then clamped to the last column and row. -/
def nearest (pixel : Pixel) : Nat × Nat :=
  (min (pixel.x + 0.5).floor.toUInt32.toNat (src.image.width - 1),
    min (pixel.y + 0.5).floor.toUInt32.toNat (src.image.height - 1))

/-- The colored point a color camera makes of a camera point: the point, painted from where
it is imaged. -/
def paint (p : Vec3) : ColoredPoint :=
  ColoredPoint.ofPoint p
    (CloudBuilder.sample src (src.intrinsics.project (src.extrinsics.transform p)))

theorem nearest_lt {pixel : Pixel}
    (hsize : src.image.dimensions = (src.intrinsics.width, src.intrinsics.height))
    (hin : src.intrinsics.contains pixel = true) :
    (src.nearest pixel).1 < src.image.width ∧ (src.nearest pixel).2 < src.image.height := by
  simp only [Intrinsics.contains, Bool.and_eq_true, decide_eq_true_eq] at hin
  obtain ⟨⟨⟨hx0, hy0⟩, hxw⟩, hyh⟩ := hin
  simp only [Raster.dimensions, Prod.mk.injEq] at hsize
  have hw := Float32.toUInt32_lt_of_lt_ofWord hx0 hxw
  have hh := Float32.toUInt32_lt_of_lt_ofWord hy0 hyh
  simp only [nearest]
  omega

theorem sample_eq (pixel : Pixel) :
    CloudBuilder.sample src pixel =
      if src.intrinsics.contains pixel then
        src.image.getD (src.nearest pixel).1 (src.nearest pixel).2 default
      else outOfBoundsColor := by
  unfold CloudBuilder.sample nearest
  cases src.intrinsics.contains pixel <;> rfl

end ColorSource

namespace CloudBuilder

variable (b : CloudBuilder)

/-- What a depth cloud holds for the pixel `(x, y)`: the pixel deprojected at its measured
depth, or the origin where that depth is not positive. -/
def cellPoint (depth : DepthImage) (x y : Nat) : Vec3 :=
  let meters := b.depthScale * (depth.getD x y 0).toFloat32
  if meters ≤ 0 then Vec3.origin
  else b.intrinsics.deproject ⟨Float32.ofWord x, Float32.ofWord y⟩ meters

/-- A colored cloud keeps the points of a depth cloud up to five meters, and moves those
further away to the origin. -/
def clip (p : Vec3) : Vec3 := if p.z > maxColoredDepth then Vec3.origin else p

theorem depthCloud_eq (depth : DepthImage) :
    b.depthCloud depth =
      if depth.dimensions ≠ (b.intrinsics.width, b.intrinsics.height) then
        .error (.depthDimensions (b.intrinsics.width, b.intrinsics.height) depth.dimensions)
      else .ok (OrganizedCloud.layout depth (b.cellPoint depth)) := by
  unfold depthCloud checkDepth
  split_ifs <;> rfl

theorem point_z (depth : DepthImage) (x y : Nat) :
    (b.point depth x y).z = b.depthScale * (depth.getD x y 0).toFloat32 :=
  rfl

theorem clip_cellPoint (depth : DepthImage) (x y : Nat) :
    clip (b.cellPoint depth x y) =
      let p := b.point depth x y
      if p.z ≤ 0 || p.z > maxColoredDepth then Vec3.origin else p := by
  have hfar : ¬ (0 : Float32) > maxColoredDepth := by decide
  unfold clip cellPoint
  simp only [point_z]
  by_cases hz : b.depthScale * (depth.getD x y 0).toFloat32 ≤ 0
  · simp only [hz, if_true, decide_true, Bool.true_or]
    exact if_neg hfar
  · have hdz : (b.intrinsics.deproject ⟨Float32.ofWord x, Float32.ofWord y⟩
        (b.depthScale * (depth.getD x y 0).toFloat32)).z =
        b.depthScale * (depth.getD x y 0).toFloat32 := rfl
    by_cases hf : b.depthScale * (depth.getD x y 0).toFloat32 > maxColoredDepth
    · simp [hz, hf, hdz]
    · simp [hz, hf, hdz]
      rfl

theorem coloredCloud_eq (depth : DepthImage) (src : ColorSource) :
    b.coloredCloud depth src =
      if depth.dimensions ≠ (b.intrinsics.width, b.intrinsics.height) then
        .error (.depthDimensions (b.intrinsics.width, b.intrinsics.height) depth.dimensions)
      else if src.image.dimensions ≠ (src.intrinsics.width, src.intrinsics.height) then
        .error (.colorDimensions (src.intrinsics.width, src.intrinsics.height) src.image.dimensions)
      else .ok (OrganizedCloud.layout depth fun x y =>
        src.paint (clip (b.cellPoint depth x y))) := by
  simp only [clip_cellPoint]
  unfold coloredCloud checkDepth
  split_ifs <;> rfl

/-- Depth clouds are organized. A frame of another size than the calibration is refused.
Otherwise the cloud has the frame's width and height and one point per pixel, the cell
`(x, y)` holding the point of the pixel its entry names once truncated to 32 bits; below
`2 ^ 32` entries that is `(x, y)` deprojected at its measured depth, or the origin where that
depth is not positive. A colored cloud of the frame is laid out the same way, entry by
entry. -/
theorem depthCloud_organized (depth : DepthImage) :
    (b.depthCloud depth =
        .error (.depthDimensions (b.intrinsics.width, b.intrinsics.height) depth.dimensions) ↔
      depth.dimensions ≠ (b.intrinsics.width, b.intrinsics.height)) ∧
    (depth.dimensions = (b.intrinsics.width, b.intrinsics.height) →
      ∃ c, b.depthCloud depth = .ok c ∧ c.width = depth.width ∧ c.height = depth.height ∧
        c.points.length = depth.width * depth.height ∧
        ∀ x y, x < depth.width → y < depth.height →
          c.get? x y = some (b.cellPoint depth ((y * depth.width + x) % 2 ^ 32 % depth.width)
            ((y * depth.width + x) % 2 ^ 32 / depth.width)) ∧
          (y * depth.width + x < 2 ^ 32 → c.get? x y = some (b.cellPoint depth x y))) ∧
    ∀ src : ColorSource, depth.dimensions = (b.intrinsics.width, b.intrinsics.height) →
      src.image.dimensions = (src.intrinsics.width, src.intrinsics.height) →
      ∃ c, b.coloredCloud depth src = .ok c ∧ c.width = depth.width ∧
        c.height = depth.height ∧ c.points.length = depth.width * depth.height ∧
        ∀ i, i < depth.width * depth.height → i < 2 ^ 32 →
          c.points[i]? =
            some (src.paint (clip (b.cellPoint depth (i % depth.width) (i / depth.width)))) := by
  refine ⟨?_, fun hsize => ?_, fun src hsize hcolor => ?_⟩
  · rw [depthCloud_eq]
    split_ifs with hsize
    · exact iff_of_true rfl hsize
    · exact iff_of_false (fun h => by cases h) hsize
  · rw [depthCloud_eq, if_neg (not_not.2 hsize)]
    refine ⟨_, rfl, rfl, rfl, OrganizedCloud.length_layout_points _ _, fun x y hx hy => ?_⟩
    exact ⟨OrganizedCloud.get?_layout _ _ hx hy, OrganizedCloud.get?_layout_of_lt _ _ hx hy⟩
  · rw [coloredCloud_eq, if_neg (not_not.2 hsize), if_neg (not_not.2 hcolor)]
    refine ⟨_, rfl, rfl, rfl, OrganizedCloud.length_layout_points _ _, fun i hi hsmall => ?_⟩
    rw [OrganizedCloud.getElem?_layout_points, if_pos hi, Nat.mod_eq_of_lt hsmall]

/-- Past `2 ^ 32` pixels the layout law fails. In the depth cloud of a `65536 × 65537` frame
of ones at unit scale, with unit focal lengths and the principal point at the corner, the
cell `(0, 65536)` holds the point of the pixel `(0, 0)`, not that cell deprojected at its
depth of one meter. -/
theorem depthCloud_wraps_past_32_bits :
    let b : CloudBuilder := ⟨Intrinsics.plain 65536 65537 1 1 0 0, 1⟩
    let depth : DepthImage := Raster.fill 65536 65537 1
    ∃ c, b.depthCloud depth = .ok c ∧ c.get? 0 65536 = some (b.cellPoint depth 0 0) ∧
      c.get? 0 65536 ≠ some (b.cellPoint depth 0 65536) := by
  intro b depth
  have hcell := OrganizedCloud.get?_layout depth (b.cellPoint depth) (x := 0) (y := 65536)
    (by decide) (by decide)
  simp only [depth, Raster.fill_width] at hcell
  norm_num at hcell
  refine ⟨_, by rw [depthCloud_eq, if_neg (by decide)], hcell, fun h => ?_⟩
  have h00 : (Raster.fill 65536 65537 (1 : UInt16)).getD 0 0 0 = 1 :=
    Raster.getD_fill (by decide) (by decide) 1 0
  have h01 : (Raster.fill 65536 65537 (1 : UInt16)).getD 0 65536 0 = 1 :=
    Raster.getD_fill (by decide) (by decide) 1 0
  have hy := congrArg (Option.map Vec3.y) (hcell.symm.trans h)
  simp only [Option.map_some, cellPoint, depth, b, h00, h01] at hy
  revert hy
  decide

/-- Colored and depth-only clouds agree. A colored cloud refuses a depth frame of another size
than the depth calibration first, then a color image of another size than the color
calibration. Otherwise both clouds have the frame's size, and at every cell the colored cloud
holds the depth cloud's point, moved to the origin beyond five meters, painted with the fixed
color when the color camera does not see where that point is imaged, and otherwise with the
color pixel nearest to that location, which lies inside the color image. Packing a color
keeps it. -/
theorem coloredCloud_agrees_with_depthCloud (depth : DepthImage) (src : ColorSource) :
    (depth.dimensions ≠ (b.intrinsics.width, b.intrinsics.height) →
      b.coloredCloud depth src =
        .error (.depthDimensions (b.intrinsics.width, b.intrinsics.height) depth.dimensions)) ∧
    (depth.dimensions = (b.intrinsics.width, b.intrinsics.height) →
      src.image.dimensions ≠ (src.intrinsics.width, src.intrinsics.height) →
      b.coloredCloud depth src =
        .error (.colorDimensions (src.intrinsics.width, src.intrinsics.height)
          src.image.dimensions)) ∧
    (depth.dimensions = (b.intrinsics.width, b.intrinsics.height) →
      src.image.dimensions = (src.intrinsics.width, src.intrinsics.height) →
      ∃ dc cc, b.depthCloud depth = .ok dc ∧ b.coloredCloud depth src = .ok cc ∧
        cc.width = dc.width ∧ cc.height = dc.height ∧ cc.points.length = dc.points.length ∧
        ∀ x y, x < depth.width → y < depth.height →
          ∃ q pt, dc.get? x y = some q ∧ cc.get? x y = some pt ∧
            pt.point = (if q.z > maxColoredDepth then Vec3.origin else q) ∧
            let imaged := src.intrinsics.project (src.extrinsics.transform pt.point)
            (src.intrinsics.contains imaged = false → pt.color = outOfBoundsColor) ∧
            (src.intrinsics.contains imaged = true →
              (src.nearest imaged).1 < src.image.width ∧ (src.nearest imaged).2 < src.image.height ∧
              src.image.at? (src.image.index (src.nearest imaged).1 (src.nearest imaged).2) =
                some pt.color)) ∧
    ∀ p c, (ColoredPoint.ofPoint p c).point = p ∧ (ColoredPoint.ofPoint p c).color = c := by
  refine ⟨fun hsize => ?_, fun hsize hcolor => ?_, fun hsize hcolor => ?_,
    fun p c => ⟨rfl, ColoredPoint.color_ofPoint p c⟩⟩
  · rw [coloredCloud_eq, if_pos hsize]
  · rw [coloredCloud_eq, if_neg (not_not.2 hsize), if_pos hcolor]
  · rw [depthCloud_eq, coloredCloud_eq, if_neg (not_not.2 hsize), if_neg (not_not.2 hsize),
      if_neg (not_not.2 hcolor)]
    refine ⟨_, _, rfl, rfl, rfl, rfl, by simp, fun x y hx hy => ?_⟩
    rw [OrganizedCloud.get?_layout _ _ hx hy, OrganizedCloud.get?_layout _ _ hx hy]
    refine ⟨_, _, rfl, rfl, rfl, ?_⟩
    generalize b.cellPoint depth _ _ = q
    simp only [ColorSource.paint, ColoredPoint.point_ofPoint, ColoredPoint.color_ofPoint,
      ColorSource.sample_eq]
    refine ⟨fun hout => by simp [hout], fun hin => ?_⟩
    obtain ⟨hcx, hcy⟩ := src.nearest_lt hcolor hin
    rw [if_pos hin]
    exact ⟨hcx, hcy, Raster.at?_index _ hcx hcy _⟩

end CloudBuilder

end Rgbd
