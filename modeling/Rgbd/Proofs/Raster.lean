import Rgbd.Image

/-!
Reading and writing single pixels of a raster.

A pixel `(x, y)` of the grid lives at entry `y * width + x`, and two cells of the grid never
share an entry. Writes inside the grid therefore touch exactly their own cell, a filled
raster reads its fill value everywhere on the grid, and two rasters of the same size agree
as soon as they agree on every cell of the grid.
-/

namespace Rgbd.Raster

variable {α : Type} {w h : Nat}

theorem cell_index_lt {x y : Nat} (hx : x < w) (hy : y < h) : y * w + x < w * h := by
  have : (y + 1) * w ≤ h * w := Nat.mul_le_mul_right w hy
  rw [Nat.mul_comm w h]
  rw [Nat.succ_mul] at this
  omega

theorem cell_index_mod {x y : Nat} (hx : x < w) : (y * w + x) % w = x := by
  rw [Nat.mul_comm, Nat.mul_add_mod, Nat.mod_eq_of_lt hx]

theorem cell_index_div {x y : Nat} (hx : x < w) : (y * w + x) / w = y := by
  rw [Nat.mul_comm, Nat.mul_add_div (by omega), Nat.div_eq_of_lt hx, Nat.add_zero]

theorem cell_index_inj {x y x' y' : Nat} (hx : x < w) (hx' : x' < w)
    (h : y * w + x = y' * w + x') : x = x' ∧ y = y' := by
  constructor
  · rw [← cell_index_mod (y := y) hx, ← cell_index_mod (y := y') hx', h]
  · rw [← cell_index_div (y := y) hx, ← cell_index_div (y := y') hx', h]

@[simp] theorem set_width (r : Raster α) (x y : Nat) (v : α) : (r.set x y v).width = r.width :=
  rfl

@[simp] theorem set_height (r : Raster α) (x y : Nat) (v : α) :
    (r.set x y v).height = r.height :=
  rfl

theorem getD_set (r : Raster α) {x y tx ty : Nat} (hx : x < r.width) (htx : tx < r.width)
    (hty : ty < r.height) (v d : α) :
    (r.set x y v).getD tx ty d = if x = tx ∧ y = ty then v else r.getD tx ty d := by
  have hlt : ty * r.width + tx < r.data.size := by
    rw [r.size_eq]; exact cell_index_lt htx hty
  simp only [getD, set, index, Array.getD_eq_getD_getElem?, Array.getElem?_setIfInBounds]
  by_cases hsame : x = tx ∧ y = ty
  · obtain ⟨rfl, rfl⟩ := hsame
    simp [hlt]
  · have hne : y * r.width + x ≠ ty * r.width + tx := fun he =>
      hsame (cell_index_inj hx htx he)
    simp [hne, hsame]

@[simp] theorem fill_width (v : α) : (fill w h v).width = w := rfl

@[simp] theorem fill_height (v : α) : (fill w h v).height = h := rfl

theorem getD_fill {x y : Nat} (hx : x < w) (hy : y < h) (v d : α) :
    (fill w h v).getD x y d = v := by
  have hlt := cell_index_lt hx hy
  simp [fill, getD, index, Array.getD_eq_getD_getElem?, hlt]

@[simp] theorem ofFn_width (f : Nat → Nat → α) : (ofFn w h f).width = w := rfl

@[simp] theorem ofFn_height (f : Nat → Nat → α) : (ofFn w h f).height = h := rfl

theorem getD_ofFn (f : Nat → Nat → α) {x y : Nat} (hx : x < w) (hy : y < h) (d : α) :
    (ofFn w h f).getD x y d = f x y := by
  have hlt := cell_index_lt hx hy
  simp [ofFn, getD, index, Array.getD_eq_getD_getElem?, hlt, cell_index_mod hx, cell_index_div hx]

theorem at?_index (r : Raster α) {x y : Nat} (hx : x < r.width) (hy : y < r.height) (d : α) :
    r.at? (r.index x y) = some (r.getD x y d) := by
  have hlt : r.index x y < r.data.size := by
    rw [r.size_eq]; exact cell_index_lt hx hy
  simp [at?, getD, Array.getD_eq_getD_getElem?, hlt]

theorem ext_getD {r s : Raster α} (hw : r.width = s.width) (hh : r.height = s.height) (d : α)
    (hcell : ∀ x y, x < r.width → y < r.height → r.getD x y d = s.getD x y d) : r = s := by
  obtain ⟨w, h, data, hsize⟩ := r
  obtain ⟨w', h', data', hsize'⟩ := s
  simp only at hw hh
  subst hw hh
  have hdata : data = data' := by
    apply Array.ext (by rw [hsize, hsize'])
    intro i hi hi'
    have hw0 : 0 < w := Nat.pos_of_ne_zero fun h0 => by
      rw [h0, Nat.zero_mul] at hsize; omega
    have hx : i % w < w := Nat.mod_lt i hw0
    have hy : i / w < h := by
      rw [Nat.div_lt_iff_lt_mul hw0, Nat.mul_comm]; omega
    have hi_eq : i / w * w + i % w = i := by
      rw [Nat.mul_comm]; exact Nat.div_add_mod i w
    have := hcell (i % w) (i / w) hx hy
    simpa [getD, index, Array.getD_eq_getD_getElem?, hi_eq, hi, hi'] using this
  subst hdata
  rfl

theorem map_map_of_leftInverse {β : Type} {f : α → β} {g : β → α} (hgf : ∀ a, g (f a) = a)
    (r : Raster α) : (r.map f).map g = r := by
  obtain ⟨w, h, data, hsize⟩ := r
  simp [map, Array.map_map, Function.comp_def, hgf]

end Rgbd.Raster
