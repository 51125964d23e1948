import PanelLink.Raster.Surface
import PanelLink.Wire.Command

/-!
# Compositor

Drawing commands on a surface.  Every operation draws the part of its shape that
is on the surface, adds to the dirty rectangle what it has drawn, and says whether
there was anything.
-/

namespace PanelLink

structure Compositor where
  surface : Surface
  background : Color

namespace Compositor

def create (surface : Surface) (background : Color) : Compositor :=
  ⟨surface.fill background, background⟩

def setBackground (compositor : Compositor) (color : Color) : Compositor :=
  { compositor with background := color }

def onSurface {α : Type} (compositor : Compositor) (operation : Surface → α × Surface) :
    α × Compositor :=
  let (result, surface) := operation compositor.surface
  (result, ⟨surface, compositor.background⟩)

def fillRect (compositor : Compositor) (x1 y1 x2 y2 : Int) (color : Color) : Bool × Compositor :=
  match compositor.surface.clip? (Rect.ofCorners x1 y1 x2 y2) with
  | none => (false, compositor)
  | some area =>
    let { surface, background } := compositor
    (true, ⟨(surface.paintRect area color).markDirty area, background⟩)

/-! ## Packed pixels -/

def packedOffset (target : Rect) (point : Point) : Nat :=
  ((point.y - target.minY).toNat * target.width + (point.x - target.minX).toNat) * 3

def packedColor (pixels : Array UInt8) (start : Nat) : Color :=
  ⟨pixels.getD start 0, pixels.getD (start + 1) 0, pixels.getD (start + 2) 0⟩

/-- Copies packed pixels into the rectangle spanned by two corners.  The pixels are laid out
over the whole rectangle, on the surface or not, and drawing stops where they run out. -/
def blitBuffer (compositor : Compositor) (x1 y1 x2 y2 : Int) (pixels : Array UInt8) :
    Bool × Compositor :=
  let target := Rect.ofCorners x1 y1 x2 y2
  match compositor.surface.clip? target with
  | none => (false, compositor)
  | some area =>
    let drawn := area.points.takeWhile fun point => packedOffset target point + 3 ≤ pixels.size
    match drawn.getLast? with
    | none => (false, compositor)
    | some last =>
      let { surface, background } := compositor
      let painted := surface.paint
        (drawn.map fun point => (point, packedColor pixels (packedOffset target point)))
      (true, ⟨painted.markDirty { area with maxY := last.y }, background⟩)

def writePacked (bytes : Array UInt8) (start : Nat) (color : Color) : Array UInt8 :=
  ((bytes.setIfInBounds start color.red).setIfInBounds (start + 1) color.green).setIfInBounds
    (start + 2) color.blue

/-- Copies the pixel at a point of a rectangle to its place among the packed ones, if the point is
on the surface. -/
def readPixel (surface : Surface) (target : Rect) (bytes : Array UInt8) (point : Point) :
    Array UInt8 :=
  match surface.pixel? point with
  | none => bytes
  | some color => writePacked bytes (packedOffset target point) color

/-- The rectangle spanned by two corners as packed pixels.  They are zero to begin with, and those
on the surface are then copied one after the other. -/
def readBuffer (compositor : Compositor) (x1 y1 x2 y2 : Int) : List UInt8 :=
  let target := Rect.ofCorners x1 y1 x2 y2
  let blank := Array.replicate (target.area * 3) (0 : UInt8)
  match compositor.surface.clip? target with
  | none => blank.toList
  | some area => (area.points.foldl (readPixel compositor.surface target) blank).toList

/-! ## Bitmaps -/

def footprint (x y : Int) (bitmap : Bitmap) (scale : UInt8) : Rect :=
  ⟨x, y, x + bitmap.width.toNat * scale.toNat - 1, y + bitmap.height.toNat * scale.toNat - 1⟩

/-- Where the magnified rows or columns of a bitmap fall along one axis of a surface, each with
the row or column of the bitmap that is shown there.  Places before the surface are skipped, and
the first place behind it ends the list. -/
def places (start limit : Int) (scale : Nat) : Nat → Nat → List (Nat × Int)
  | 0, _ => []
  | remaining + 1, index =>
    let place := start + index
    if limit ≤ place then
      []
    else if place < 0 then
      places start limit scale remaining (index + 1)
    else
      (index / scale, place) :: places start limit scale remaining (index + 1)

/-- The picture in a rectangle before a bitmap is drawn, which only a transparent one needs. -/
def snapshot (compositor : Compositor) (visible : Rect) : Backdrop → Array UInt8
  | .solid _ => #[]
  | .transparent =>
    (compositor.readBuffer visible.minX visible.minY visible.maxX visible.maxY).toArray

def underlay (backdrop : Backdrop) (saved : Array UInt8) (visible : Rect) (point : Point) : Color :=
  match backdrop with
  | .solid color => color
  | .transparent => packedColor saved (packedOffset visible point)

def bitmapPixels (width height : Nat) (x y : Int) (bitmap : Bitmap) (scale : UInt8)
    (foreground : Color) (clear : Point → Color) : List (Point × Color) :=
  let rows := places y height scale.toNat (bitmap.height.toNat * scale.toNat) 0
  let columns := places x width scale.toNat (bitmap.width.toNat * scale.toNat) 0
  rows.flatMap fun (row, py) => columns.map fun (column, px) =>
    (⟨px, py⟩, if bitmap.bit row column then foreground else clear ⟨px, py⟩)

def drawBitmap (compositor : Compositor) (x y : Int) (bitmap : Bitmap) (scale : UInt8)
    (foreground : Color) (backdrop : Backdrop) : Bool × Compositor :=
  if scale = 0 ∨ bitmap.width = 0 ∨ bitmap.height = 0 then
    (false, compositor)
  else
    match compositor.surface.clip? (footprint x y bitmap scale) with
    | none => (false, compositor)
    | some visible =>
      let saved := compositor.snapshot visible backdrop
      let pixels := bitmapPixels compositor.surface.width compositor.surface.height
        x y bitmap scale foreground (underlay backdrop saved visible)
      match Rect.hull? (pixels.map Prod.fst) with
      | none => (false, compositor)
      | some touched =>
        let { surface, background } := compositor
        (true, ⟨(surface.paint pixels).markDirty touched, background⟩)

/-! ## Scrolling -/

/-- Moves the picture up by `lines` rows, or down for a negative count.  Rows that come in
from outside have the background color. -/
def scroll (compositor : Compositor) (lines : Int) : Bool × Compositor :=
  if lines = 0 then
    (false, compositor)
  else
    let { surface, background } := compositor
    let height := surface.height
    let shift := lines.natAbs
    let moved :=
      if height ≤ shift then
        surface.fillRows 0 height background
      else if 0 < lines then
        (surface.copyRows shift 0 (height - shift)).fillRows (height - shift) height background
      else
        (surface.copyRows 0 shift (height - shift)).fillRows 0 shift background
    (true, ⟨moved.markDirty moved.bounds, background⟩)

def apply (compositor : Compositor) : Command → Bool × Compositor
  | .fillRect corners color =>
    compositor.fillRect corners.x1.toInt corners.y1.toInt corners.x2.toInt corners.y2.toInt color
  | .drawBitmap x y scale foreground backdrop bitmap =>
    compositor.drawBitmap x.toInt y.toInt bitmap scale foreground backdrop
  | .blitBuffer corners pixels =>
    compositor.blitBuffer corners.x1.toInt corners.y1.toInt corners.x2.toInt corners.y2.toInt pixels
  | .scroll lines => compositor.scroll lines.toInt
  | .execute _ => (false, compositor)

end Compositor

end PanelLink
