import Rgbd.Synthetic
import Rgbd.Proofs.Raster

/-!
The pixel arithmetic of the synthetic scene.

The scene computes depth in 16-bit words, `800 + 6 · (height - y) + x + phase` with the row
distance and the column each cut to 16 bits, and the gradients of color and gray images in
32-bit words, `v · 255 / n` cut to a byte. Cutting and wrapping change nothing exactly when
the deepest pixel of any frame, the top right one at phase 63, fits a 16-bit word:
`6 · height + width + 862 < 2¹⁶` (`Fits`). Then every frame shows the exact plane, with its
hole in the top left corner and nowhere else, and the exact gradients (`frame_showsScene`); for
any larger scene the deepest pixel wraps (`deepest_pixel_wraps`).

Main statement: `scene_exact_iff_fits`. A scene two pixels wide and 10789 tall wraps a pixel
of its first frame to zero, far from the corner (`tall_scene_wraps_to_a_hole`).
-/

namespace Rgbd.Synthetic

/-- The exact depth of the plane at pixel `(x, y)` at a phase: zero in the hole at the top left,
and `800 + 6 · (height - y) + x + phase` elsewhere. -/
def planeDepth (width height phase x y : Nat) : Nat :=
  if x < width / 8 ∧ y < height / 8 then 0 else 800 + 6 * (height - y) + x + phase

def shade (v n : Nat) : Nat := v * 255 / max n 1

/-- Scene sizes whose deepest pixel, the top right one at phase 63, fits a 16-bit word. -/
def Fits (width height : Nat) : Prop := 6 * height + width + 862 < 65536

instance (width height : Nat) : Decidable (Fits width height) :=
  inferInstanceAs (Decidable (_ < _))

/-- Frame data that shows a `width × height` scene exactly, for the frame of the given
number: depth images the plane at the frame's phase, color images the horizontal and vertical
gradients with the phase in blue, gray images the horizontal gradient. -/
def ShowsScene (width height number : Nat) : FrameData → Prop
  | .depth r => r.width = width ∧ r.height = height ∧ ∀ x y, x < width → y < height →
      (r.getD x y 0).toNat = planeDepth width height (number % 64) x y
  | .color r => r.width = width ∧ r.height = height ∧ ∀ x y, x < width → y < height →
      (r.getD x y default).r.toNat = shade x width ∧ (r.getD x y default).g.toNat = shade y height ∧
        (r.getD x y default).b.toNat = number % 64 * 4
  | .gray r => r.width = width ∧ r.height = height ∧ ∀ x y, x < width → y < height →
      (r.getD x y 0).toNat = shade x width
  | .motion _ => True

def Exact (width height : Nat) : Prop :=
  ∀ (p : StreamProfile) (number : Nat) (timestamp : Float),
    ShowsScene width height number (frame width height p number timestamp).data

/-- No frame of a `width × height` scene has a depth pixel of zero outside the hole at the top
left. -/
def HoleOnlyInCorner (width height : Nat) : Prop :=
  ∀ (p : StreamProfile) (number : Nat) (timestamp : Float) (r : DepthImage),
    (frame width height p number timestamp).data = .depth r → ∀ x y, x < width → y < height →
      ¬(x < width / 8 ∧ y < height / 8) → r.getD x y 0 ≠ 0

/-! ### Pixels -/

theorem depthAt_toNat {width height phase x y : Nat} (hfit : Fits width height)
    (hx : x < width) (hy : y < height) (hphase : phase < 64) :
    (depthAt width height phase x y).toNat = planeDepth width height phase x y := by
  unfold Fits at hfit
  unfold depthAt planeDepth
  split
  · rfl
  · simp only [UInt16.toNat_add, UInt16.toNat_mul, Nat.toUInt16_eq, UInt16.toNat_ofNat',
      UInt16.toNat_ofNat]
    omega

theorem gradient_toNat {v n : Nat} (hv : v < n) (hfit : v * 255 < 4294967296)
    (hn : n < 4294967296) : (gradient v n).toNat = shade v n := by
  have hmax : max n 1 = n := by omega
  have hbyte : v * 255 / n < 256 := by
    rw [Nat.div_lt_iff_lt_mul (by omega)]
    omega
  simp only [gradient, shade, hmax, UInt32.toNat_toUInt8, UInt32.toNat_div, UInt32.toNat_mul,
    Nat.toUInt32_eq, UInt32.toNat_ofNat', UInt32.toNat_ofNat]
  rw [Nat.mod_eq_of_lt (a := v) (by omega), Nat.mod_eq_of_lt (a := n) (by omega),
    Nat.mod_eq_of_lt (a := 255) (by omega), Nat.mod_eq_of_lt hfit, Nat.mod_eq_of_lt hbyte]

theorem gradient_toNat_of_fits {width height v n : Nat} (hfit : Fits width height)
    (hv : v < n) (hn : n = width ∨ n = height) : (gradient v n).toNat = shade v n := by
  unfold Fits at hfit
  exact gradient_toNat hv (by omega) (by omega)

theorem planeDepth_pos {width height phase x y : Nat} (hout : ¬(x < width / 8 ∧ y < height / 8)) :
    0 < planeDepth width height phase x y := by
  unfold planeDepth
  rw [if_neg hout]
  omega

/-! ### Frames -/

section Frames

variable {width height number : Nat} {p : StreamProfile} {timestamp : Float}

theorem frame_data_depth (hm : p.key.modality = .depth) :
    (frame width height p number timestamp).data =
      .depth (Raster.ofFn width height (depthAt width height (number % 64))) := by
  simp [frame, hm]

/-- Every frame of a scene that fits shows the scene exactly. -/
theorem frame_showsScene (hfit : Fits width height) :
    ShowsScene width height number (frame width height p number timestamp).data := by
  have hphase : number % 64 < 64 := Nat.mod_lt _ (by decide)
  unfold frame
  cases p.key.modality with
  | depth =>
    refine ⟨rfl, rfl, fun x y hx hy => ?_⟩
    rw [Raster.getD_ofFn _ hx hy]
    exact depthAt_toNat hfit hx hy hphase
  | color =>
    refine ⟨rfl, rfl, fun x y hx hy => ?_⟩
    rw [Raster.getD_ofFn _ hx hy]
    refine ⟨gradient_toNat_of_fits hfit hx (.inl rfl), gradient_toNat_of_fits hfit hy (.inr rfl),
      ?_⟩
    simp only [Nat.toUInt8_eq, UInt8.toNat_ofNat']
    omega
  | infrared | fisheye =>
    refine ⟨rfl, rfl, fun x y hx hy => ?_⟩
    rw [Raster.getD_ofFn _ hx hy]
    exact gradient_toNat_of_fits hfit hx (.inl rfl)
  | gyro | accel => trivial

/-- In a scene too large to fit, the top right pixel of depth frame 63 wraps: it is not the
plane's depth there. -/
theorem deepest_pixel_wraps (hw : 0 < width) (hh : 0 < height) (hnot : ¬Fits width height)
    (timestamp : Float) :
    ¬ShowsScene width height 63
      (frame width height ⟨.depth, .z16, width, height, 30⟩ 63 timestamp).data := by
  rw [frame_data_depth rfl]
  rintro ⟨-, -, hpix⟩
  have hdeep := hpix (width - 1) 0 (by omega) hh
  rw [Raster.getD_ofFn _ (by omega) hh] at hdeep
  have hout : ¬(width - 1 < width / 8 ∧ 0 < height / 8) := by omega
  rw [planeDepth, if_neg hout] at hdeep
  have hword := (depthAt width height (63 % 64) (width - 1) 0).toNat_lt
  unfold Fits at hnot
  omega

theorem ShowsScene.depth_ne_zero {r : DepthImage}
    (hshows : ShowsScene width height number (.depth r)) {x y : Nat} (hx : x < width)
    (hy : y < height) (hout : ¬(x < width / 8 ∧ y < height / 8)) : r.getD x y 0 ≠ 0 := by
  intro hzero
  have hpix := hshows.2.2 x y hx hy
  rw [hzero] at hpix
  exact absurd hpix (Nat.ne_of_lt (planeDepth_pos hout))

end Frames

/-- The scene's pixel arithmetic is exact for every frame exactly when the deepest pixel fits
a 16-bit word, and then no depth pixel outside the hole at the top left is zero. -/
theorem scene_exact_iff_fits {w h : Nat} (hw : 0 < w) (hh : 0 < h) :
    (Exact w h ↔ Fits w h) ∧ (Fits w h → HoleOnlyInCorner w h) := by
  refine ⟨⟨fun hexact => ?_, fun hfit p number t => frame_showsScene hfit⟩, ?_⟩
  · exact Decidable.byContradiction fun hnot => deepest_pixel_wraps hw hh hnot 0 (hexact _ 63 0)
  · intro hfit p number t r hr x y hx hy hout
    have hshows : ShowsScene w h number (frame w h p number t).data := frame_showsScene hfit
    rw [hr] at hshows
    exact hshows.depth_ne_zero hx hy hout

/-- The scene the sandbox streams by default, 64 × 48, is exact. -/
theorem default_scene_is_exact : Exact 64 48 ∧ HoleOnlyInCorner 64 48 :=
  have hiff := scene_exact_iff_fits (w := 64) (h := 48) (by decide) (by decide)
  ⟨hiff.1.2 (by decide), hiff.2 (by decide)⟩

/-- A scene two pixels wide and 10789 tall wraps pixel `(1, 0)` of its first depth frame,
`800 + 6 · 10789 + 1 + 1 = 2¹⁶`, to zero, although the scene has no hole at all. -/
theorem tall_scene_wraps_to_a_hole :
    ∃ r, (frame 2 10789 ⟨.depth, .z16, 2, 10789, 30⟩ 1 0).data = .depth r ∧
      ¬(1 < 2 / 8 ∧ 0 < 10789 / 8) ∧ r.getD 1 0 0 = 0 := by
  refine ⟨_, frame_data_depth rfl, by decide, ?_⟩
  rw [Raster.getD_ofFn _ (by decide) (by decide)]
  decide

end Rgbd.Synthetic
