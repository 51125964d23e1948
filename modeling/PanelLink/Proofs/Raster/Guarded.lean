import PanelLink.Raster.Compositor

/-!
# Guarded drawing

The drawing operations pixel by pixel, with numbers of 32 and 64 bits and storage that is accessed
in ranges.  A number that leaves its type is a fault, and so is a range that leaves its bytes.
-/

namespace PanelLink

inductive Fault where
  | overflow
  | outside
deriving DecidableEq, Repr

namespace Guarded

/-! ## Numbers and ranges -/

def int32 (value : Int) : Except Fault Int :=
  if -2147483648 ≤ value ∧ value ≤ 2147483647 then .ok value else .error .overflow

def uint32 (value : Nat) : Except Fault Nat :=
  if value ≤ 4294967295 then .ok value else .error .overflow

def uint64 (value : Nat) : Except Fault Nat :=
  if value ≤ 18446744073709551615 then .ok value else .error .overflow

/-- A signed number as an unsigned one. -/
def unsigned (value : Int) : Except Fault Nat :=
  if 0 ≤ value then .ok value.toNat else .error .overflow

def minus (value less : Nat) : Except Fault Nat :=
  if less ≤ value then .ok (value - less) else .error .overflow

/-- The bytes from `start` up to `stop`, which is left out, are some of `size` bytes. -/
def within (start stop size : Nat) : Except Fault Unit :=
  if start ≤ stop ∧ stop ≤ size then .ok () else .error .outside

/-! ## Rectangles -/

def corners (x1 y1 x2 y2 : Int) : Except Fault Rect :=
  return ⟨← int32 (min x1 x2), ← int32 (min y1 y2), ← int32 (max x1 x2), ← int32 (max y1 y2)⟩

/-- The same count where overflow is checked. -/
def extent (low high : Int) : Except Fault Nat := do
  let steps ← unsigned (← int32 (high - low))
  uint32 (steps + 1)

def bounds (surface : Surface) : Except Fault Rect :=
  return ⟨0, 0, ← int32 (surface.width - 1), ← int32 (surface.height - 1)⟩

def clip? (surface : Surface) (rect : Rect) : Except Fault (Option Rect) := do
  let bounds ← bounds surface
  if rect.maxX < 0 ∨ rect.maxY < 0 ∨ rect.minX > bounds.maxX ∨ rect.minY > bounds.maxY then
    return none
  else
    return some ⟨max rect.minX 0, max rect.minY 0,
      min rect.maxX bounds.maxX, min rect.maxY bounds.maxY⟩

def markDirty (surface : Surface) (rect : Rect) : Except Fault Surface := do
  match ← clip? surface rect with
  | none => return surface
  | some area =>
    return { surface with dirty := some ((surface.dirty.map (·.union area)).getD area) }

/-! ## Pixels -/

def offset (surface : Surface) (point : Point) : Except Fault Nat := do
  let x ← unsigned point.x
  let y ← unsigned point.y
  uint64 (y * (surface.width * 4) + x * 4)

def pixel? (surface : Surface) (point : Point) : Except Fault (Option Color) := do
  if surface.bounds.Contains point then
    let start ← offset surface point
    within start (start + 4) (storageLength surface.width surface.height)
    return some ⟨surface.storage.getD start 0, surface.storage.getD (start + 1) 0,
      surface.storage.getD (start + 2) 0⟩
  else
    return none

def writeAt (surface : Surface) (start : Nat) (color : Color) : Surface :=
  { surface with
    storage := Surface.writePixel surface.storage start color
    fits := by simpa using surface.fits }

def write (surface : Surface) (point : Point) (color : Color) : Except Fault Surface := do
  let start ← offset surface point
  within start (start + 4) (storageLength surface.width surface.height)
  return writeAt surface start color

/-- Draws the pixels of row `y` from column `x1` to column `x2`, which lie in one range. -/
def fillSpan (surface : Surface) (y x1 x2 : Int) (color : Color) : Except Fault Surface := do
  let start ← offset surface ⟨x1, y⟩
  let last ← offset surface ⟨x2, y⟩
  within start (last + 4) (storageLength surface.width surface.height)
  return (List.range ((last + 4 - start) / 4)).foldl
    (fun surface k => writeAt surface (start + k * 4) color) surface

def fillRows (surface : Surface) (top bottom : Nat) (color : Color) : Except Fault Surface := do
  let last ← minus surface.width 1
  (Rect.interval top (bottom - 1)).foldlM (fun surface y => fillSpan surface y 0 last color) surface

def copyRows (surface : Surface) (source target count : Nat) : Except Fault Surface := do
  let row := surface.width * 4
  let size := storageLength surface.width surface.height
  within (source * row) ((source + count) * row) size
  within (target * row) (target * row + count * row) size
  return surface.copyRows source target count

/-! ## Rectangles of packed pixels -/

def packedOffset (target : Rect) (stride : Nat) (point : Point) : Except Fault Nat := do
  let row ← unsigned (← int32 (point.y - target.minY))
  let column ← unsigned (← int32 (point.x - target.minX))
  uint64 ((row * stride + column) * 3)

def fillRect (compositor : Compositor) (x1 y1 x2 y2 : Int) (color : Color) :
    Except Fault (Bool × Compositor) := do
  let { surface, background } := compositor
  match ← clip? surface (← corners x1 y1 x2 y2) with
  | none => return (false, compositor)
  | some area =>
    let filled ← (Rect.interval area.minY area.maxY).foldlM
      (fun surface y => fillSpan surface y area.minX area.maxX color) surface
    return (true, ⟨← markDirty filled area, background⟩)

/-- Draws pixels until the bytes run out.  Beside the surface goes the row drawn on last. -/
def blitPixels (target : Rect) (stride : Nat) (pixels : Array UInt8) :
    List Point → Surface × Option Int → Except Fault (Surface × Option Int)
  | [], drawn => return drawn
  | point :: points, (surface, last) => do
    let start ← packedOffset target stride point
    if start + 3 ≤ pixels.size then
      let written ← write surface point (Compositor.packedColor pixels start)
      blitPixels target stride pixels points (written, some point.y)
    else
      return (surface, last)

def blitBuffer (compositor : Compositor) (x1 y1 x2 y2 : Int) (pixels : Array UInt8) :
    Except Fault (Bool × Compositor) := do
  let { surface, background } := compositor
  let target ← corners x1 y1 x2 y2
  match ← clip? surface target with
  | none => return (false, compositor)
  | some area =>
    let stride ← extent target.minX target.maxX
    match ← blitPixels target stride pixels area.points (surface, none) with
    | (drawn, none) => return (false, ⟨drawn, background⟩)
    | (drawn, some last) =>
      return (true, ⟨← markDirty drawn { area with maxY := last }, background⟩)

def writePacked (bytes : Array UInt8) (start : Nat) (color : Color) : Except Fault (Array UInt8) := do
  within start (start + 3) bytes.size
  return Compositor.writePacked bytes start color

def readPixel (surface : Surface) (target : Rect) (stride : Nat) (bytes : Array UInt8)
    (point : Point) : Except Fault (Array UInt8) := do
  let start ← packedOffset target stride point
  match ← pixel? surface point with
  | none => return bytes
  | some color => writePacked bytes start color

def readBuffer (compositor : Compositor) (x1 y1 x2 y2 : Int) : Except Fault (Array UInt8) := do
  let target ← corners x1 y1 x2 y2
  let stride ← extent target.minX target.maxX
  let size ← uint64 (stride * (← extent target.minY target.maxY) * 3)
  match ← clip? compositor.surface target with
  | none => return Array.replicate size 0
  | some area =>
    area.points.foldlM (readPixel compositor.surface target stride) (Array.replicate size 0)

/-! ## Bitmaps -/

def bit (bitmap : Bitmap) (row col : Nat) : Except Fault Bool := do
  if row < bitmap.height.toNat ∧ col < bitmap.width.toNat then
    let size ← uint64 (bitmap.height.toNat * bitmap.width.toNat)
    let index ← minus (← minus size (row * bitmap.width.toNat + col)) 1
    match bitmap.bits[index / 8]? with
    | some byte => return byte.toNat.testBit (index % 8)
    | none => return false
  else
    return false

def footprint (x y : Int) (bitmap : Bitmap) (scale : UInt8) : Except Fault Rect := do
  let width ← int32 (bitmap.width.toNat * scale.toNat)
  let height ← int32 (bitmap.height.toNat * scale.toNat)
  let right ← int32 (x + width)
  let bottom ← int32 (y + height)
  return ⟨x, y, ← int32 (right - 1), ← int32 (bottom - 1)⟩

/-- Where magnified rows or columns fall along one axis, each with what is looked up for it. -/
def places {β : Type} (look : Nat → Except Fault β) (start limit : Int) (scale : Nat) :
    Nat → Nat → Except Fault (List (β × Int))
  | 0, _ => return []
  | remaining + 1, index => do
    let cell ← look (index / scale)
    let corner ← int32 (start + (← int32 ((index / scale : Nat) * scale)))
    let place ← int32 (corner + (index % scale : Nat))
    if limit ≤ place then
      return []
    else if place < 0 then
      places look start limit scale remaining (index + 1)
    else
      return (cell, place) :: (← places look start limit scale remaining (index + 1))

def snapshot (compositor : Compositor) (visible : Rect) :
    Backdrop → Except Fault (Array UInt8)
  | .solid _ => return #[]
  | .transparent =>
    readBuffer compositor visible.minX visible.minY visible.maxX visible.maxY

def underlay (backdrop : Backdrop) (saved : Array UInt8) (visible : Rect) (stride : Nat)
    (point : Point) : Except Fault Color := do
  match backdrop with
  | .solid color => return color
  | .transparent =>
    let start ← packedOffset visible stride point
    within start (start + 3) saved.size
    return Compositor.packedColor saved start

def touch (touched : Option Rect) (point : Point) : Option Rect :=
  some ((touched.map (·.union (Rect.ofPoint point))).getD (Rect.ofPoint point))

/-- Draws a pixel that is set or clear.  Beside the surface goes the hull of what is drawn. -/
def drawPixel (foreground : Color) (clear : Point → Except Fault Color)
    (drawn : Surface × Option Rect) (set : Bool) (point : Point) :
    Except Fault (Surface × Option Rect) := do
  let color ← bif set then pure foreground else clear point
  return (← write drawn.1 point color, touch drawn.2 point)

/-- Draws one magnified row of a bitmap. -/
def drawRow (x : Int) (bitmap : Bitmap) (scale : UInt8) (foreground : Color)
    (clear : Point → Except Fault Color) (drawn : Surface × Option Rect) (row : Nat) (y : Int) :
    Except Fault (Surface × Option Rect) := do
  let columns ← places (bit bitmap row) x drawn.1.width scale.toNat
    (bitmap.width.toNat * scale.toNat) 0
  columns.foldlM (fun drawn (set, x) => drawPixel foreground clear drawn set ⟨x, y⟩) drawn

def drawBitmap (compositor : Compositor) (x y : Int) (bitmap : Bitmap) (scale : UInt8)
    (foreground : Color) (backdrop : Backdrop) : Except Fault (Bool × Compositor) := do
  let { surface, background } := compositor
  if scale = 0 ∨ bitmap.width = 0 ∨ bitmap.height = 0 then
    return (false, compositor)
  else
    match ← clip? surface (← footprint x y bitmap scale) with
    | none => return (false, compositor)
    | some visible =>
      let saved ← snapshot compositor visible backdrop
      let stride ← extent visible.minX visible.maxX
      let rows ← places pure y surface.height scale.toNat
        (bitmap.height.toNat * scale.toNat) 0
      match ← rows.foldlM (fun drawn (row, y) => drawRow x bitmap scale foreground
          (underlay backdrop saved visible stride) drawn row y) (surface, none) with
      | (drawn, none) => return (false, ⟨drawn, background⟩)
      | (drawn, some touched) => return (true, ⟨← markDirty drawn touched, background⟩)

/-! ## Scrolling and commands -/

def scroll (compositor : Compositor) (lines : Int) : Except Fault (Bool × Compositor) := do
  let { surface, background } := compositor
  let height := surface.height
  let shift := lines.natAbs
  if lines = 0 then
    return (false, compositor)
  else
    let moved ←
      if height ≤ shift then
        fillRows surface 0 height background
      else do
        let kept ← minus height shift
        if 0 < lines then
          fillRows (← copyRows surface shift 0 kept) kept height background
        else
          fillRows (← copyRows surface 0 shift kept) 0 shift background
    return (true, ⟨← markDirty moved (← bounds moved), background⟩)

def apply (compositor : Compositor) : Command → Except Fault (Bool × Compositor)
  | .fillRect corners color =>
    fillRect compositor corners.x1.toInt corners.y1.toInt corners.x2.toInt corners.y2.toInt color
  | .drawBitmap x y scale foreground backdrop bitmap =>
    drawBitmap compositor x.toInt y.toInt bitmap scale foreground backdrop
  | .blitBuffer corners pixels =>
    blitBuffer compositor corners.x1.toInt corners.y1.toInt corners.x2.toInt corners.y2.toInt pixels
  | .scroll lines => scroll compositor lines.toInt
  | .execute _ => return (false, compositor)

end Guarded

end PanelLink
