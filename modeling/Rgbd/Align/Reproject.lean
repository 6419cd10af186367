import Rgbd.Image
import Rgbd.Optics.Intrinsics

/-!
Aligning depth to another camera of the same device.

Every source pixel with a measurement is a small square patch at its measured depth. Its
two corners `(x - ½, y - ½)` and `(x + ½, y + ½)` are deprojected, moved into the target
camera and projected; each is rounded to the nearest target pixel, and a corner that falls
outside the target drops the whole patch. Every target pixel of the rectangle between the
two corners (none if the corners come out flipped) receives the source depth converted to
the output unit. Source pixels are visited row after row, left to right, and the last
write wins where patches overlap. Target pixels no patch covers hold zero.

Built with its default features, the library splats the source rows in parallel instead.
Each row still makes its writes in order, but a cell is stored whole and nothing orders the
writes of different rows, so each cell keeps the last of the writes to it in an
interleaving of the rows of its own (`ReprojectsInParallel`).
-/

namespace Rgbd

open Float.Model in
/-- The greatest whole number not above a binary32 value, as `floorf` computes it. Zeros,
infinities and NaN are kept; a value in `(0, 1)` gives `+0` and one in `(-1, 0)` gives `-1`. -/
def Float32.roundFloor (x : Float32) : Float32 :=
  match x.toModel.unpack with
  | .finite s m e _ =>
    if 0 ≤ e then x
    else
      let k := (-e).toNat
      let q := match s with
        | .positive => m >>> k
        | .negative => (m + (1 <<< k) - 1) >>> k
      .ofModel (.pack (UnpackedFloat.normalize .binary32 (s.apply q) 0 s))
  | _ => x

open Float.Model in
/-- The whole number nearest to a binary32 value, a half rounding away from zero, as `roundf`
computes it; the sign is kept, so a value in `(-1/2, 0)` gives `-0`. -/
def Float32.roundHalfAway (x : Float32) : Float32 :=
  match x.toModel.unpack with
  | .finite s m e _ =>
    if 0 ≤ e then x
    else
      let k := (-e).toNat
      .ofModel (.pack (UnpackedFloat.normalize .binary32
        (s.apply ((m + (1 <<< (k - 1))) >>> k : Nat)) 0 s))
  | _ => x

def defaultOutputUnit : Float32 := 0.001

/-- Why a depth frame cannot be aligned. Dimensions are `(width, height)`. -/
inductive AlignError where
  | sourceDimensions (expected actual : Nat × Nat)
  | targetDimensions (expected actual : Nat × Nat)
  deriving Repr, DecidableEq

def showPair (p : Nat × Nat) : String := "(" ++ toString p.1 ++ ", " ++ toString p.2 ++ ")"

namespace AlignError

def kind : AlignError → String
  | sourceDimensions .. => "SourceDimensions"
  | targetDimensions .. => "TargetDimensions"

def message : AlignError → String
  | sourceDimensions e a => "depth frame is " ++ showPair a ++ " but the source calibration is " ++ showPair e
  | targetDimensions e a => "aligned buffer is " ++ showPair a ++ " but the target calibration is " ++ showPair e

end AlignError

/-- Maps depth frames of one camera onto the pixel grid of another. -/
structure Reprojector where
  source : Intrinsics
  target : Intrinsics
  extrinsics : Extrinsics
  depthScale : Float32
  outputUnit : Float32 := defaultOutputUnit
  deriving Inhabited

namespace Reprojector

variable (r : Reprojector)

def buffer : DepthImage := Raster.fill r.target.width r.target.height 0

/-- The target pixel nearest to where a source location at `depth` is imaged, if it lies
inside the target. -/
def targetPixel (src : Pixel) (depth : Float32) : Option (Nat × Nat) :=
  let p := r.target.project (r.extrinsics.transform (r.source.deproject src depth))
  let rounded : Pixel := ⟨Float32.roundFloor (p.x + 0.5), Float32.roundFloor (p.y + 0.5)⟩
  if r.target.contains rounded then some (rounded.x.toUInt32.toNat, rounded.y.toUInt32.toNat)
  else none

/-- The output value of a raw source depth: rounded half away from zero, saturated to
16 bits, NaN to zero. -/
def outputValue (raw : UInt16) : UInt16 :=
  (Float32.roundHalfAway (raw.toFloat32 * (r.depthScale / r.outputUnit))).toUInt16

def patch (x y : Nat) (raw : UInt16) : Option ((Nat × Nat) × (Nat × Nat)) :=
  if raw = 0 then none
  else
    let meters := r.depthScale * raw.toFloat32
    let fx := Float32.ofWord x
    let fy := Float32.ofWord y
    match r.targetPixel ⟨fx - 0.5, fy - 0.5⟩ meters with
    | none => none
    | some c0 =>
      match r.targetPixel ⟨fx + 0.5, fy + 0.5⟩ meters with
      | none => none
      | some c1 => some (c0, c1)

def span (a b : Nat) : List Nat := List.range' a (b + 1 - a)

def fillRect (buf : DepthImage) (c0 c1 : Nat × Nat) (value : UInt16) : DepthImage :=
  (span c0.2 c1.2).foldl (fun buf ty =>
    (span c0.1 c1.1).foldl (fun buf tx => buf.set tx ty value) buf) buf

def splatPixel (depth : DepthImage) (buf : DepthImage) (x y : Nat) : DepthImage :=
  let raw := depth.getD x y 0
  match r.patch x y raw with
  | some (c0, c1) => fillRect buf c0 c1 (r.outputValue raw)
  | none => buf

def splat (depth : DepthImage) (buf : DepthImage) : DepthImage :=
  (List.range depth.height).foldl (fun buf y =>
    (List.range depth.width).foldl (fun buf x => r.splatPixel depth buf x y) buf) buf

/-- Clears `out` and splats every measured pixel of `depth` into it. The depth frame must
have the source's size and the buffer the target's, checked in that order. -/
def reproject (depth : DepthImage) (out : DepthImage) : Except AlignError DepthImage :=
  if depth.dimensions ≠ (r.source.width, r.source.height) then
    .error (.sourceDimensions (r.source.width, r.source.height) depth.dimensions)
  else if out.dimensions ≠ (r.target.width, r.target.height) then
    .error (.targetDimensions (r.target.width, r.target.height) out.dimensions)
  else .ok (r.splat depth (Raster.fill out.width out.height 0))

def reprojectImage (depth : DepthImage) : Except AlignError DepthImage :=
  r.reproject depth r.buffer

def write (buf : DepthImage) (s : (Nat × Nat) × UInt16) : DepthImage := buf.set s.1.1 s.1.2 s.2

/-- The writes splatting the source pixel `(x, y)` makes, in order: the cells of its patch
row after row, each with the pixel's output value. -/
def pixelWrites (depth : DepthImage) (x y : Nat) : List ((Nat × Nat) × UInt16) :=
  match r.patch x y (depth.getD x y 0) with
  | some (c0, c1) =>
    (span c0.2 c1.2).flatMap fun ty =>
      (span c0.1 c1.1).map fun tx => ((tx, ty), r.outputValue (depth.getD x y 0))
  | none => []

def rowWrites (depth : DepthImage) (y : Nat) : List ((Nat × Nat) × UInt16) :=
  (List.range depth.width).flatMap fun x => r.pixelWrites depth x y

end Reprojector

/-- `m` merges `l` and `l'`, keeping the order of each. -/
inductive Shuffle {α : Type} : List α → List α → List α → Prop
  | nil : Shuffle [] [] []
  | left (a : α) {l l' m : List α} : Shuffle l l' m → Shuffle (a :: l) l' (a :: m)
  | right (a : α) {l l' m : List α} : Shuffle l l' m → Shuffle l (a :: l') (a :: m)

/-- `m` runs the lists of `ls` side by side: it merges all of them, keeping the order of each. -/
inductive Interleaving {α : Type} : List (List α) → List α → Prop
  | nil : Interleaving [] []
  | cons {l : List α} {ls : List (List α)} {m m' : List α} :
      Interleaving ls m' → Shuffle l m' m → Interleaving (l :: ls) m

def lastWrite (c : Nat × Nat) (ws : List ((Nat × Nat) × UInt16)) : Option UInt16 :=
  ((ws.filter fun s => s.1 == c).getLast?).map Prod.snd

namespace Reprojector

variable (r : Reprojector)

/-- What reprojection may return when the rows are splatted in parallel: the size checks of
`reproject`, and then an image of the buffer's size in which every cell holds the last value
written to it in some interleaving of the rows' writes, or zero. -/
def ReprojectsInParallel (depth out : DepthImage) (res : Except AlignError DepthImage) : Prop :=
  if depth.dimensions ≠ (r.source.width, r.source.height) then
    res = .error (.sourceDimensions (r.source.width, r.source.height) depth.dimensions)
  else if out.dimensions ≠ (r.target.width, r.target.height) then
    res = .error (.targetDimensions (r.target.width, r.target.height) out.dimensions)
  else ∃ img, res = .ok img ∧ img.dimensions = out.dimensions ∧
    ∀ tx ty, tx < out.width → ty < out.height →
      ∃ m, Interleaving ((List.range depth.height).map (r.rowWrites depth)) m ∧
        img.getD tx ty 0 = (lastWrite (tx, ty) m).getD 0

end Reprojector

end Rgbd
