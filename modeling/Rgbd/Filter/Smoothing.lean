import Rgbd.Image

/-!
Edge-preserving smoothing of disparity.

Both filters blend a pixel `c` with a neighbour value `h` into `α c + (1 - α) h`, and only
when both are positive and differ by less than `δ`: holes (zero, negative or NaN) are
never touched and nothing is blended across an edge.

The spatial filter's neighbour is the previous pixel of a sweep, after that pixel's own
update. Each iteration sweeps every row left to right and back, then every column down and
back up. The temporal filter's neighbour is the same pixel of the previous filtered frame;
a frame of other dimensions than the history starts the history anew.
-/

namespace Rgbd

def blendPixel (alpha delta : Float32) (h c : Float32) : Float32 :=
  if c > 0 && h > 0 && (c - h).abs < delta then alpha * c + (1 - alpha) * h else c

/-- Smooths along rows and columns of one frame. -/
structure SpatialFilter where
  alpha : Float32 := 0.5
  delta : Float32 := 20
  iterations : Nat := 2
  deriving Inhabited

namespace SpatialFilter

variable (f : SpatialFilter)

/-- One step of a sweep: the pixel at `i` is blended with the value the sweep left at the
previous position, and becomes that value for the next one. -/
def sweepStep (acc : Float32 × Array Float32) (i : Nat) : Float32 × Array Float32 :=
  let v := blendPixel f.alpha f.delta acc.1 (acc.2.getD i 0)
  (v, acc.2.setIfInBounds i v)

def sweep (data : Array Float32) (positions : List Nat) : Array Float32 :=
  (positions.foldl f.sweepStep (0, data)).2

def sweepBoth (data : Array Float32) (positions : List Nat) : Array Float32 :=
  f.sweep (f.sweep data positions) positions.reverse

def pass (width height : Nat) (data : Array Float32) : Array Float32 :=
  let rows := (List.range height).foldl (fun d y =>
    f.sweepBoth d ((List.range width).map fun x => y * width + x)) data
  (List.range width).foldl (fun d x =>
    f.sweepBoth d ((List.range height).map fun y => y * width + x)) rows

def apply (image : FloatImage) : FloatImage :=
  if image.width = 0 ∨ image.height = 0 then image
  else image.withData ((List.replicate f.iterations ()).foldl
    (fun d _ => f.pass image.width image.height d) image.data)

end SpatialFilter

/-- Smooths each frame against the previous filtered frame. -/
structure TemporalFilter where
  alpha : Float32 := 0.4
  delta : Float32 := 20
  history : Option FloatImage := none
  deriving Inhabited

namespace TemporalFilter

def reset (t : TemporalFilter) : TemporalFilter := { t with history := none }

/-- Filters a frame and remembers the result. Without a history of the same dimensions
the frame passes unchanged and becomes the history. -/
def apply (t : TemporalFilter) (image : FloatImage) : FloatImage × TemporalFilter :=
  match t.history with
  | some last =>
    if last.dimensions = image.dimensions then
      let out := image.zipWith (fun c h => blendPixel t.alpha t.delta h c) last
      (out, { t with history := some out })
    else (image, { t with history := some image })
  | none => (image, { t with history := some image })

end TemporalFilter

end Rgbd
