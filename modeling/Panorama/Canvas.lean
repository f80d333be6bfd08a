/-!
# Canvases and pixel rectangles

Sizes in whole pixels: the canvas of a frame, template or merged output, and a rectangle placed on
one. Dimensions are 32-bit words; sums and products of them are taken over the natural numbers
unless a definition says otherwise.
-/

namespace Panorama

/-- Pixel dimensions of a frame, a template or a merged output. -/
structure Canvas where
  /-- Columns. -/
  width : UInt32
  /-- Rows. -/
  height : UInt32
  deriving DecidableEq, Repr

namespace Canvas

/-- Number of pixels. -/
def area (canvas : Canvas) : Nat :=
  canvas.width.toNat * canvas.height.toNat

/-- Whether the canvas has no pixel. -/
def isEmpty (canvas : Canvas) : Bool :=
  canvas.width == 0 || canvas.height == 0

/-- The dimensions as they appear in reports. -/
def text (canvas : Canvas) : String :=
  s!"{canvas.width.toNat}x{canvas.height.toNat}"

end Canvas

/-- A rectangle of whole pixels. -/
structure PixelRect where
  /-- Left column. -/
  x : UInt32
  /-- Top row. -/
  y : UInt32
  /-- Columns. -/
  width : UInt32
  /-- Rows. -/
  height : UInt32
  deriving DecidableEq, Repr

namespace PixelRect

/-- Dimensions of the rectangle. -/
def size (rect : PixelRect) : Canvas :=
  ⟨rect.width, rect.height⟩

/-- The rectangle of a whole canvas. -/
def ofCanvas (canvas : Canvas) : PixelRect :=
  ⟨0, 0, canvas.width, canvas.height⟩

/-- Whether the rectangle lies inside a canvas. -/
def fits (rect : PixelRect) (canvas : Canvas) : Bool :=
  rect.x.toNat + rect.width.toNat ≤ canvas.width.toNat &&
    rect.y.toNat + rect.height.toNat ≤ canvas.height.toNat

/-- Whether each of two rectangles starts before the other ends, on both axes. The ends are
32-bit words, so the answer is meant for rectangles that fit on one canvas. -/
def intersects (left right : PixelRect) : Bool :=
  left.x < right.x + right.width && right.x < left.x + left.width &&
    left.y < right.y + right.height && right.y < left.y + left.height

/-- Whether a pixel belongs to the rectangle. -/
def contains (rect : PixelRect) (x y : Nat) : Bool :=
  rect.x.toNat ≤ x && x < rect.x.toNat + rect.width.toNat &&
    rect.y.toNat ≤ y && y < rect.y.toNat + rect.height.toNat

end PixelRect

end Panorama
