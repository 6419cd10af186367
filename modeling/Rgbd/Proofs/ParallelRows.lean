import Rgbd.Proofs.Reproject

/-!
Reprojection with the source rows splatted in parallel.

Each row makes its writes in order, but the rows run side by side, so each target cell keeps
the last of the writes to it in some interleaving of the rows' write lists. A cell then holds
zero when no patch covers it, and otherwise the value of the last covering pixel of one of
the rows that cover it (`CoveredBySomeRow`), and each row that covers the cell can be that
row: let it run after all the others. The sequential splat is one of the outcomes.

Main statement: `reproject_parallel_cover`. Two pixels of different rows that cover one
target cell make the two builds disagree: the parallel one can keep the earlier row's value
where the sequential one keeps the later (`parallel_rows_keep_earlier_row`).
-/

namespace Rgbd

section Interleaving

variable {α : Type}

theorem Shuffle.perm {l l' m : List α} (h : Shuffle l l' m) : m.Perm (l ++ l') := by
  induction h with
  | nil => exact .nil
  | left a _ ih => exact ih.cons a
  | right a _ ih => exact (ih.cons a).trans List.perm_middle.symm

theorem Shuffle.nil_left (l : List α) : Shuffle [] l l := by
  induction l with
  | nil => exact .nil
  | cons a l ih => exact .right a ih

theorem Shuffle.nil_right (l : List α) : Shuffle l [] l := by
  induction l with
  | nil => exact .nil
  | cons a l ih => exact .left a ih

theorem Shuffle.append_left (l l' : List α) : Shuffle l l' (l ++ l') := by
  induction l with
  | nil => exact .nil_left l'
  | cons a l ih => exact .left a ih

theorem Shuffle.append_right (l l' : List α) : Shuffle l l' (l' ++ l) := by
  induction l' with
  | nil => exact .nil_right l
  | cons a l' ih => exact .right a ih

theorem Interleaving.perm {ls : List (List α)} {m : List α} (h : Interleaving ls m) :
    m.Perm ls.flatten := by
  induction h with
  | nil => exact .nil
  | cons _ hs ih => exact hs.perm.trans (ih.append_left _)

theorem Interleaving.flatten (ls : List (List α)) : Interleaving ls ls.flatten := by
  induction ls with
  | nil => exact .nil
  | cons l ls ih => exact .cons ih (.append_left l _)

theorem Interleaving.last (pre : List (List α)) (l : List α) (post : List (List α)) :
    Interleaving (pre ++ l :: post) (pre.flatten ++ (post.flatten ++ l)) := by
  induction pre with
  | nil => exact .cons (.flatten post) (.append_right l _)
  | cons p pre ih =>
    rw [List.flatten_cons, List.append_assoc]
    exact .cons ih (.append_left p _)

end Interleaving

/-! ### The last write to a cell -/

section LastWrite

variable {c : Nat × Nat}

theorem lastWrite_append (ws ws' : List ((Nat × Nat) × UInt16)) :
    lastWrite c (ws ++ ws') = (lastWrite c ws').or (lastWrite c ws) := by
  simp only [lastWrite, List.filter_append, List.getLast?_append]
  cases (ws'.filter fun s => s.1 == c).getLast? <;> simp

@[simp] theorem lastWrite_cons (s : (Nat × Nat) × UInt16) (ws : List ((Nat × Nat) × UInt16)) :
    lastWrite c (s :: ws) = (lastWrite c ws).or (if s.1 = c then some s.2 else none) := by
  rw [← List.singleton_append, lastWrite_append]
  by_cases hs : s.1 = c <;> simp [lastWrite, hs]

theorem lastWrite_eq_none_iff {ws : List ((Nat × Nat) × UInt16)} :
    lastWrite c ws = none ↔ ∀ s ∈ ws, s.1 ≠ c := by
  simp [lastWrite]

theorem lastWrite_eq_none_of_subset {ws ws' : List ((Nat × Nat) × UInt16)}
    (h : ∀ s ∈ ws, s ∈ ws') (hn : lastWrite c ws' = none) : lastWrite c ws = none :=
  lastWrite_eq_none_iff.2 fun s hs => lastWrite_eq_none_iff.1 hn s (h s hs)

theorem lastWrite_of_forall_snd {ws : List ((Nat × Nat) × UInt16)} {v : UInt16}
    (h : ∀ s ∈ ws, s.2 = v) : lastWrite c ws = if ∃ s ∈ ws, s.1 = c then some v else none := by
  split_ifs with hc
  · obtain ⟨s, hs, hsc⟩ := hc
    cases hl : (ws.filter fun s => s.1 == c).getLast? with
    | none =>
      rw [List.getLast?_eq_none_iff, List.filter_eq_nil_iff] at hl
      exact absurd hsc (by simpa using hl s hs)
    | some t =>
      have ht := List.mem_filter.1 (List.mem_of_getLast? hl)
      simp [lastWrite, hl, h t ht.1]
  · exact lastWrite_eq_none_iff.2 fun s hs hsc => hc ⟨s, hs, hsc⟩

theorem Shuffle.lastWrite_eq_some {l l' m : List ((Nat × Nat) × UInt16)} (h : Shuffle l l' m)
    {v : UInt16} (hv : lastWrite c m = some v) :
    lastWrite c l = some v ∨ lastWrite c l' = some v := by
  induction h with
  | nil => cases hv
  | @left a l l' m hs ih =>
    rw [lastWrite_cons] at hv ⊢
    cases hm : lastWrite c m with
    | some w =>
      rw [hm, Option.some_or] at hv
      rcases ih (hm ▸ hv ▸ rfl) with hl | hl'
      · exact .inl (by rw [hl, Option.some_or])
      · exact .inr hl'
    | none =>
      have hl : lastWrite c l = none := lastWrite_eq_none_of_subset
        (fun _ hs' => hs.perm.mem_iff.2 (List.mem_append_left _ hs')) hm
      rw [hm, Option.none_or] at hv
      exact .inl (by rw [hl, Option.none_or, hv])
  | @right a l l' m hs ih =>
    rw [lastWrite_cons] at hv ⊢
    cases hm : lastWrite c m with
    | some w =>
      rw [hm, Option.some_or] at hv
      rcases ih (hm ▸ hv ▸ rfl) with hl | hl'
      · exact .inl hl
      · exact .inr (by rw [hl', Option.some_or])
    | none =>
      have hl' : lastWrite c l' = none := lastWrite_eq_none_of_subset
        (fun _ hs' => hs.perm.mem_iff.2 (List.mem_append_right _ hs')) hm
      rw [hm, Option.none_or] at hv
      exact .inr (by rw [hl', Option.none_or, hv])

theorem Interleaving.lastWrite_eq_some {ls : List (List ((Nat × Nat) × UInt16))}
    {m : List ((Nat × Nat) × UInt16)} (h : Interleaving ls m) {v : UInt16}
    (hv : lastWrite c m = some v) : ∃ l ∈ ls, lastWrite c l = some v := by
  induction h with
  | nil => cases hv
  | @cons l ls m m' _ hs ih =>
    rcases hs.lastWrite_eq_some hv with hl | hm'
    · exact ⟨l, List.mem_cons_self, hl⟩
    · obtain ⟨l', hl', hv'⟩ := ih hm'
      exact ⟨l', List.mem_cons_of_mem _ hl', hv'⟩

theorem exists_mem_of_lastWrite_eq_some {ws : List ((Nat × Nat) × UInt16)} {v : UInt16}
    (h : lastWrite c ws = some v) : ∃ s ∈ ws, s.1 = c :=
  Decidable.byContradiction fun hno =>
    absurd (lastWrite_eq_none_iff.2 fun s hs hsc => hno ⟨s, hs, hsc⟩) (by rw [h]; simp)

theorem Interleaving.lastWrite_eq_none {ls : List (List ((Nat × Nat) × UInt16))}
    {m : List ((Nat × Nat) × UInt16)} (h : Interleaving ls m) (hv : lastWrite c m = none) :
    ∀ l ∈ ls, lastWrite c l = none := fun l hl =>
  lastWrite_eq_none_of_subset (fun _ hs => h.perm.mem_iff.2 (List.mem_flatten.2 ⟨l, hl, hs⟩)) hv

end LastWrite

namespace Reprojector

variable (r : Reprojector)

theorem getD_foldl_write (ws : List ((Nat × Nat) × UInt16)) (buf : DepthImage)
    (hws : ∀ s ∈ ws, s.1.1 < buf.width) {tx ty : Nat} (htx : tx < buf.width)
    (hty : ty < buf.height) :
    (ws.foldl write buf).getD tx ty 0 = (lastWrite (tx, ty) ws).getD (buf.getD tx ty 0) := by
  induction ws generalizing buf with
  | nil => rfl
  | cons s ws ih =>
    rw [List.foldl_cons, ih (write buf s) (fun s' hs' => hws s' (List.mem_cons_of_mem _ hs'))
      htx hty, write, Raster.getD_set buf (hws s List.mem_cons_self) htx hty, lastWrite_cons]
    cases lastWrite (tx, ty) ws <;> split_ifs <;> simp_all [Prod.ext_iff]

/-! ### The writes of one row -/

/-- The output value of the last pixel of source row `y`, left to right, that is splatted onto
the target cell `(tx, ty)`. -/
def rowCover (depth : DepthImage) (y tx ty : Nat) : Option UInt16 :=
  ((List.range depth.width).filter fun x => r.covers depth x y tx ty).getLast?.map
    fun x => r.outputValue (depth.getD x y 0)

theorem snd_of_mem_pixelWrites {depth : DepthImage} {x y : Nat} {s : (Nat × Nat) × UInt16}
    (h : s ∈ r.pixelWrites depth x y) : s.2 = r.outputValue (depth.getD x y 0) := by
  unfold pixelWrites at h
  split at h
  · simp only [List.mem_flatMap, List.mem_map] at h
    obtain ⟨_, _, _, _, rfl⟩ := h
    rfl
  · cases h

theorem exists_pixelWrites_cell_iff (depth : DepthImage) (x y tx ty : Nat) :
    (∃ s ∈ r.pixelWrites depth x y, s.1 = (tx, ty)) ↔ r.covers depth x y tx ty := by
  unfold pixelWrites covers
  rcases r.patch x y (depth.getD x y 0) with _ | ⟨⟨x0, y0⟩, x1, y1⟩
  · simp
  · simp only [List.mem_flatMap, List.mem_map, mem_span, decide_eq_true_eq]
    constructor
    · rintro ⟨_, ⟨ty', hty', tx', htx', rfl⟩, he⟩
      simp only [Prod.mk.injEq] at he
      obtain ⟨rfl, rfl⟩ := he
      omega
    · intro hc
      exact ⟨_, ⟨ty, ⟨hc.2.2.1, hc.2.2.2⟩, tx, ⟨hc.1, hc.2.1⟩, rfl⟩, rfl⟩

theorem lastWrite_pixelWrites (depth : DepthImage) (x y tx ty : Nat) :
    lastWrite (tx, ty) (r.pixelWrites depth x y) =
      if r.covers depth x y tx ty then some (r.outputValue (depth.getD x y 0)) else none := by
  rw [lastWrite_of_forall_snd fun s hs => r.snd_of_mem_pixelWrites hs]
  simp only [r.exists_pixelWrites_cell_iff]

theorem lastWrite_rowWrites (depth : DepthImage) (y tx ty : Nat) :
    lastWrite (tx, ty) (r.rowWrites depth y) = r.rowCover depth y tx ty := by
  unfold rowWrites rowCover
  induction depth.width with
  | zero => rfl
  | succ n ih =>
    rw [List.range_succ, List.flatMap_append, lastWrite_append, ih, List.filter_append,
      List.getLast?_append, List.flatMap_singleton, lastWrite_pixelWrites]
    by_cases hc : r.covers depth n y tx ty <;> simp [hc]

theorem lt_of_mem_rowWrites {depth : DepthImage} {y : Nat} {s : (Nat × Nat) × UInt16}
    (h : s ∈ r.rowWrites depth y) : s.1.1 < r.target.width ∧ s.1.2 < r.target.height := by
  obtain ⟨x, -, hs⟩ := List.mem_flatMap.1 h
  exact r.lt_of_mem_pixelWrites hs

theorem writes_eq_flatten (depth : DepthImage) :
    r.writes depth = ((List.range depth.height).map (r.rowWrites depth)).flatten := by
  rw [← List.flatMap_def]
  simp only [writes, rowMajor, List.flatMap_assoc, List.flatMap_map]
  rfl

/-! ### Interleaved rows -/

section Parallel

variable {depth : DepthImage} {m : List ((Nat × Nat) × UInt16)}

/-- Every cell of `img` holds zero when no source pixel covers it, and otherwise the value of
the last covering pixel of one of the source rows that cover it. -/
def CoveredBySomeRow (depth img : DepthImage) : Prop :=
  img.width = r.target.width ∧ img.height = r.target.height ∧
    ∀ tx ty, tx < r.target.width → ty < r.target.height →
      (img.getD tx ty 0 = 0 ∧ ∀ y < depth.height, r.rowCover depth y tx ty = none) ∨
        ∃ y < depth.height, r.rowCover depth y tx ty = some (img.getD tx ty 0)

theorem getD_interleaving
    (hm : Interleaving ((List.range depth.height).map (r.rowWrites depth)) m) {tx ty : Nat}
    (htx : tx < r.target.width) (hty : ty < r.target.height) :
    (m.foldl write (Raster.fill r.target.width r.target.height 0)).getD tx ty 0 =
      (lastWrite (tx, ty) m).getD 0 := by
  have hinside : ∀ s ∈ m, s.1.1 < r.target.width := fun s hs => by
    obtain ⟨l, hl, hs⟩ := List.mem_flatten.1 (hm.perm.mem_iff.1 hs)
    obtain ⟨y, -, rfl⟩ := List.mem_map.1 hl
    exact (r.lt_of_mem_rowWrites hs).1
  rw [getD_foldl_write m _ hinside htx hty, Raster.getD_fill htx hty]

theorem cells_of_interleaving {out : DepthImage}
    (hout : out.dimensions = (r.target.width, r.target.height))
    (hm : Interleaving ((List.range depth.height).map (r.rowWrites depth)) m) :
    (m.foldl write (Raster.fill out.width out.height 0)).dimensions = out.dimensions ∧
      ∀ tx ty, tx < out.width → ty < out.height →
        ∃ m', Interleaving ((List.range depth.height).map (r.rowWrites depth)) m' ∧
          (m.foldl write (Raster.fill out.width out.height 0)).getD tx ty 0 =
            (lastWrite (tx, ty) m').getD 0 := by
  simp only [Raster.dimensions, Prod.mk.injEq] at hout
  refine ⟨?_, fun tx ty htx hty => ⟨m, hm, ?_⟩⟩
  · rw [Raster.dimensions, foldl_width write (fun _ _ => rfl), foldl_height write (fun _ _ => rfl)]
    rfl
  · rw [hout.1, hout.2]
    exact r.getD_interleaving hm (hout.1 ▸ htx) (hout.2 ▸ hty)

theorem coveredBySomeRow_of_cells {img : DepthImage}
    (hdim : img.dimensions = (r.target.width, r.target.height))
    (hcell : ∀ tx ty, tx < r.target.width → ty < r.target.height →
      ∃ m, Interleaving ((List.range depth.height).map (r.rowWrites depth)) m ∧
        img.getD tx ty 0 = (lastWrite (tx, ty) m).getD 0) :
    r.CoveredBySomeRow depth img := by
  simp only [Raster.dimensions, Prod.mk.injEq] at hdim
  refine ⟨hdim.1, hdim.2, fun tx ty htx hty => ?_⟩
  obtain ⟨m, hm, hget⟩ := hcell tx ty htx hty
  rw [hget]
  cases hv : lastWrite (tx, ty) m with
  | none =>
    refine .inl ⟨rfl, fun y hy => ?_⟩
    rw [← r.lastWrite_rowWrites]
    exact hm.lastWrite_eq_none hv _ (List.mem_map.2 ⟨y, List.mem_range.2 hy, rfl⟩)
  | some v =>
    obtain ⟨l, hl, hlv⟩ := hm.lastWrite_eq_some hv
    obtain ⟨y, hy, rfl⟩ := List.mem_map.1 hl
    exact .inr ⟨y, List.mem_range.1 hy, by rw [← r.lastWrite_rowWrites, hlv]; rfl⟩

theorem exists_interleaving_of_rowCover {y tx ty : Nat} {v : UInt16} (hy : y < depth.height)
    (hv : r.rowCover depth y tx ty = some v) :
    ∃ m, Interleaving ((List.range depth.height).map (r.rowWrites depth)) m ∧
      lastWrite (tx, ty) m = some v := by
  have hrow : r.rowWrites depth y ∈ (List.range depth.height).map (r.rowWrites depth) :=
    List.mem_map.2 ⟨y, List.mem_range.2 hy, rfl⟩
  obtain ⟨pre, post, hsplit⟩ := List.append_of_mem hrow
  refine ⟨pre.flatten ++ (post.flatten ++ r.rowWrites depth y), ?_, ?_⟩
  · rw [hsplit]
    exact Interleaving.last pre _ post
  · rw [lastWrite_append, lastWrite_append, r.lastWrite_rowWrites, hv, Option.some_or,
      Option.some_or]

theorem lt_of_rowCover_eq_some {y tx ty : Nat} {v : UInt16}
    (hv : r.rowCover depth y tx ty = some v) : tx < r.target.width ∧ ty < r.target.height := by
  rw [← r.lastWrite_rowWrites] at hv
  obtain ⟨s, hs, hsc⟩ := exists_mem_of_lastWrite_eq_some hv
  have hlt := r.lt_of_mem_rowWrites hs
  rw [hsc] at hlt
  exact hlt

theorem reprojectsInParallel_reproject (depth out : DepthImage) :
    r.ReprojectsInParallel depth out (r.reproject depth out) := by
  unfold ReprojectsInParallel reproject
  split_ifs with hsrc hout
  · rfl
  · rfl
  · rw [splat_eq_writes, writes_eq_flatten]
    exact ⟨_, rfl, r.cells_of_interleaving (not_not.1 hout) (.flatten _)⟩

theorem reprojectsInParallel_congr {out out' : DepthImage} (h : out.dimensions = out'.dimensions)
    (res : Except AlignError DepthImage) :
    r.ReprojectsInParallel depth out res ↔ r.ReprojectsInParallel depth out' res := by
  have hw : out.width = out'.width := congrArg Prod.fst h
  have hh : out.height = out'.height := congrArg Prod.snd h
  unfold ReprojectsInParallel
  rw [h, hw, hh]

theorem exists_reprojectsInParallel_of_rowCover {out : DepthImage}
    (hsrc : depth.dimensions = (r.source.width, r.source.height))
    (hout : out.dimensions = (r.target.width, r.target.height)) {y tx ty : Nat} {v : UInt16}
    (hy : y < depth.height) (hv : r.rowCover depth y tx ty = some v) :
    ∃ img, r.ReprojectsInParallel depth out (.ok img) ∧ img.getD tx ty 0 = v := by
  obtain ⟨m, hm, hlast⟩ := r.exists_interleaving_of_rowCover hy hv
  have hin := r.lt_of_rowCover_eq_some hv
  refine ⟨m.foldl write (Raster.fill out.width out.height 0), ?_, ?_⟩
  · unfold ReprojectsInParallel
    rw [if_neg (not_not.2 hsrc), if_neg (not_not.2 hout)]
    exact ⟨_, rfl, r.cells_of_interleaving hout hm⟩
  · simp only [Raster.dimensions, Prod.mk.injEq] at hout
    rw [hout.1, hout.2, r.getD_interleaving hm hin.1 hin.2, hlast]
    rfl

end Parallel

/-- With the rows splatted in parallel, reprojection checks the frame against the source and
the buffer against the target, in that order, and otherwise leaves in each target cell zero
when no source pixel covers it and else the value of the last covering pixel of one of the
rows that cover it. Each such row can be the one, the sequential result is one of the
outcomes, and a fresh buffer has the outcomes of any buffer of the target's size. -/
theorem reproject_parallel_cover (depth out : DepthImage) :
    (∀ res, r.ReprojectsInParallel depth out res →
      if depth.dimensions ≠ (r.source.width, r.source.height) then
        res = .error (.sourceDimensions (r.source.width, r.source.height) depth.dimensions)
      else if out.dimensions ≠ (r.target.width, r.target.height) then
        res = .error (.targetDimensions (r.target.width, r.target.height) out.dimensions)
      else ∃ img, res = .ok img ∧ r.CoveredBySomeRow depth img) ∧
    (depth.dimensions = (r.source.width, r.source.height) →
      out.dimensions = (r.target.width, r.target.height) →
      ∀ y tx ty v, y < depth.height → r.rowCover depth y tx ty = some v →
        ∃ img, r.ReprojectsInParallel depth out (.ok img) ∧ img.getD tx ty 0 = v) ∧
    r.ReprojectsInParallel depth out (r.reproject depth out) ∧
    (out.dimensions = (r.target.width, r.target.height) →
      ∀ res, r.ReprojectsInParallel depth r.buffer res ↔ r.ReprojectsInParallel depth out res) := by
  refine ⟨fun res h => ?_, fun hsrc hout y tx ty v hy hv =>
    r.exists_reprojectsInParallel_of_rowCover hsrc hout hy hv,
    r.reprojectsInParallel_reproject depth out,
    fun hout res => r.reprojectsInParallel_congr (hout ▸ rfl) res⟩
  unfold ReprojectsInParallel at h
  split_ifs at h ⊢ with hsrc hout
  · exact h
  · exact h
  · obtain ⟨img, rfl, hdim, hcell⟩ := h
    have hsize := not_not.1 hout
    refine ⟨img, rfl, r.coveredBySomeRow_of_cells (hdim.trans hsize) fun tx ty htx hty => ?_⟩
    simp only [Raster.dimensions, Prod.mk.injEq] at hsize
    exact hcell tx ty (hsize.1 ▸ htx) (hsize.2 ▸ hty)

/-- An 8 × 8 source onto a 2 × 2 target of the same view: a source pixel covers a quarter of
a target pixel. -/
def quarterScale : Reprojector where
  source := Intrinsics.plain 8 8 8 8 3.5 3.5
  target := Intrinsics.plain 2 2 2 2 0.5 0.5
  extrinsics := Extrinsics.identity
  depthScale := 0.001

def twoRowFrame : DepthImage := ((Raster.fill 8 8 0).set 2 1 2000).set 2 2 1000

/-- Both pixels of `twoRowFrame` cover the target cell `(0, 0)`. The last of them in row-major
order leaves 1000 there, but with the rows in parallel the row of the first can run last and
leave 2000. -/
theorem parallel_rows_keep_earlier_row :
    quarterScale.alignedValue twoRowFrame 0 0 = 1000 ∧
      ∃ img, quarterScale.ReprojectsInParallel twoRowFrame quarterScale.buffer (.ok img) ∧
        img.getD 0 0 0 = 2000 :=
  ⟨by decide +kernel, quarterScale.exists_reprojectsInParallel_of_rowCover rfl rfl
    (y := 1) (by decide) (by decide +kernel)⟩

end Reprojector

end Rgbd
