import Rgbd.Proofs.Sweeps

/-!
# The temporal filter's recurrence

A temporal filter remembers one frame. Served a frame, it returns it unchanged when it
remembers none, or one of other dimensions; otherwise it returns the frame with each pixel `c`
over the remembered pixel `h` replaced by `α c + (1 - α) h` exactly when the two are close
(`Smooths`). Either way it then remembers the frame it returned, so each output is smoothed
against the previous output, not the previous input; a reset forgets the frame.

The run law `Recurs` states this over any sequence of frames and resets, in terms of the
calls and the answers alone; `serveAll_recurs` proves it from the one-call lemmas
`apply_smooths` and `apply_history` by induction on the calls.
-/

namespace Rgbd

namespace TemporalFilter

/-- A call on a temporal filter: filter a frame, or forget the remembered one. -/
inductive Call where
  | apply (image : FloatImage)
  | reset

def serve (t : TemporalFilter) : Call → Option FloatImage × TemporalFilter
  | .apply image => (some (t.apply image).1, (t.apply image).2)
  | .reset => (none, t.reset)

def serveAll (t : TemporalFilter) : List Call → List (Option FloatImage × TemporalFilter)
  | [] => []
  | c :: cs => t.serve c :: serveAll (t.serve c).2 cs

theorem blendPixel_eq_ite (α δ h c : Float32) :
    blendPixel α δ h c = if Close δ c h then α * c + (1 - α) * h else c := by
  split_ifs with hc
  · exact blendPixel_of_close hc
  · exact blendPixel_of_not_close hc

/-- `out` is `image` smoothed against the remembered frame `last`: with no frame remembered,
or one of other dimensions, `image` itself; otherwise an image of the same dimensions whose
pixel over `c` in `image` and `h` in `last` is `α c + (1 - α) h` when the two are close and
`c` when they are not. -/
def Smooths (α δ : Float32) (last : Option FloatImage) (image out : FloatImage) : Prop :=
  match last with
  | some h =>
    if h.dimensions = image.dimensions then
      out.dimensions = image.dimensions ∧
        ∀ (i : Nat) (c p : Float32), image.data[i]? = some c → h.data[i]? = some p →
          out.data[i]? = some (if Close δ c p then α * c + (1 - α) * p else c)
    else out = image
  | none => out = image

/-- The run law: each call is answered from the frame remembered before it, none at first and
after a reset. A frame comes back smoothed against that memory, and what came back is
remembered; a reset returns nothing and leaves nothing remembered. -/
def Recurs (α δ : Float32) :
    Option FloatImage → List Call → List (Option FloatImage × TemporalFilter) → Prop
  | _, [], [] => True
  | _, .reset :: cs, (r, t) :: rs => r = none ∧ t.history = none ∧ Recurs α δ none cs rs
  | last, .apply image :: cs, (r, t) :: rs =>
    ∃ out, r = some out ∧ Smooths α δ last image out ∧ t.history = some out ∧
      Recurs α δ (some out) cs rs
  | _, _, _ => False

/-! ### One call -/

variable (t : TemporalFilter) (image : FloatImage)

/-- A frame comes back smoothed against the remembered one. -/
theorem apply_smooths : Smooths t.alpha t.delta t.history image (t.apply image).1 := by
  unfold apply Smooths
  cases t.history with
  | none => rfl
  | some last =>
    dsimp only
    split_ifs with hdim
    · simp only [Raster.dimensions, Prod.mk.injEq] at hdim
      have hsize : (image.data.zipWith (fun c h => blendPixel t.alpha t.delta h c)
          last.data).size = image.width * image.height := by
        rw [Array.size_zipWith, image.size_eq, last.size_eq, hdim.1, hdim.2, Nat.min_self]
      have hout : (image.zipWith (fun c h => blendPixel t.alpha t.delta h c) last).data =
          image.data.zipWith (fun c h => blendPixel t.alpha t.delta h c) last.data := by
        unfold Raster.zipWith Raster.withData
        rw [if_pos hdim, dif_pos hsize]
      refine ⟨Raster.zipWith_dimensions _ _ _, fun i c p hc hp => ?_⟩
      rw [hout, Array.getElem?_zipWith, hc, hp]
      exact congrArg some (blendPixel_eq_ite _ _ _ _)
    · rfl

/-- What comes back is remembered, bit for bit. -/
theorem apply_history : (t.apply image).2.history = some (t.apply image).1 := by
  unfold apply
  cases t.history with
  | none => rfl
  | some last =>
    dsimp only
    split_ifs <;> rfl

theorem apply_alpha : (t.apply image).2.alpha = t.alpha := by
  unfold apply
  split
  · split_ifs <;> rfl
  · rfl

theorem apply_delta : (t.apply image).2.delta = t.delta := by
  unfold apply
  split
  · split_ifs <;> rfl
  · rfl

/-! ### Runs of calls -/

/-- Every run of calls obeys the run law, from the frame the filter remembers. -/
theorem serveAll_recurs (calls : List Call) :
    Recurs t.alpha t.delta t.history calls (t.serveAll calls) := by
  induction calls generalizing t with
  | nil => trivial
  | cons c cs ih =>
    cases c with
    | reset => exact ⟨rfl, rfl, ih t.reset⟩
    | apply image =>
      refine ⟨(t.apply image).1, rfl, t.apply_smooths image, t.apply_history image, ?_⟩
      have h := ih (t.apply image).2
      rwa [apply_alpha, apply_delta, apply_history] at h

/-- The temporal filter's recurrence. For every weight `α`, step bound `δ` and sequence of
frames and resets served by a fresh filter: a frame comes back unchanged when nothing is
remembered (at first and after a reset) or the remembered frame has other dimensions, and
otherwise with each pixel `c` over the remembered pixel `h` set to `α c + (1 - α) h` exactly
when `c > 0`, `h > 0` and `|c - h| < δ`, and kept otherwise; after each frame the filter
remembers, bit for bit, the frame it returned. -/
theorem recurrence_from_fresh (α δ : Float32) (calls : List Call) :
    Recurs α δ none calls (({ alpha := α, delta := δ } : TemporalFilter).serveAll calls) :=
  serveAll_recurs { alpha := α, delta := δ } calls

example : ((({} : TemporalFilter).apply (Raster.fill 2 2 10)).2.apply
    ((Raster.fill 2 2 15).set 1 1 90)).1.getD 1 1 0 = 90 := by
  decide +kernel

end TemporalFilter

end Rgbd
