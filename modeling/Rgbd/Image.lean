/-!
Row-major images.

A `Raster α` holds `width * height` pixels, row after row; the pixel at column `x` and row
`y` is entry `y * width + x`. The size is part of the type, so reading a pixel inside the
grid needs no fallback. Depth images hold 16-bit words, gray images bytes, color images
`Rgb` triples and disparity images binary32 values.
-/

namespace Rgbd

/-- A `width × height` grid of pixels, stored row after row. -/
structure Raster (α : Type) where
  width : Nat
  height : Nat
  data : Array α
  size_eq : data.size = width * height

namespace Raster

variable {α β : Type}

def ofFn (width height : Nat) (f : Nat → Nat → α) : Raster α :=
  ⟨width, height, Array.ofFn (n := width * height) fun i => f (i.val % width) (i.val / width),
    Array.size_ofFn⟩

def fill (width height : Nat) (v : α) : Raster α :=
  ⟨width, height, Array.replicate (width * height) v, Array.size_replicate⟩

def ofList? (width height : Nat) (l : List α) : Option (Raster α) :=
  if h : l.toArray.size = width * height then some ⟨width, height, l.toArray, h⟩ else none

def dimensions (r : Raster α) : Nat × Nat := (r.width, r.height)

def index (r : Raster α) (x y : Nat) : Nat := y * r.width + x

def getD (r : Raster α) (x y : Nat) (v : α) : α := r.data.getD (r.index x y) v

def at? (r : Raster α) (i : Nat) : Option α := r.data[i]?

def set (r : Raster α) (x y : Nat) (v : α) : Raster α :=
  ⟨r.width, r.height, r.data.setIfInBounds (r.index x y) v, by simp [r.size_eq]⟩

def map (f : α → β) (r : Raster α) : Raster β :=
  ⟨r.width, r.height, r.data.map f, by simp [r.size_eq]⟩

def toList (r : Raster α) : List α := r.data.toList

/-- The image with the same dimensions and new pixel data, if the data has the right size;
otherwise the image unchanged. -/
def withData (r : Raster α) (d : Array α) : Raster α :=
  if h : d.size = r.width * r.height then ⟨r.width, r.height, d, h⟩ else r

/-- Combines two images of the same dimensions pixel by pixel; the first image is kept
where the second has other dimensions. -/
def zipWith (f : α → β → α) (r : Raster α) (s : Raster β) : Raster α :=
  if s.width = r.width ∧ s.height = r.height then r.withData (r.data.zipWith f s.data) else r

def copyFrom? (r s : Raster α) : Option (Raster α) :=
  if s.width = r.width ∧ s.height = r.height then some s else none

end Raster

/-- A color pixel. -/
structure Rgb where
  r : UInt8
  g : UInt8
  b : UInt8
  deriving Repr, DecidableEq, Inhabited

abbrev DepthImage := Raster UInt16

abbrev GrayImage := Raster UInt8

abbrev ColorImage := Raster Rgb

abbrev FloatImage := Raster Float32

end Rgbd
