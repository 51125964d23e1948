import PanelLink.Color
import PanelLink.Raster.Rect

/-!
# Pixel surface

Pixels lie row by row in a storage of bytes, four bytes each: red, green, blue and
an alpha that is always written opaque.  The storage may be longer than the
picture.  The surface remembers in one rectangle what has been drawn on since that
rectangle was last taken.  A view of the picture, and such a rectangle, are what a
sink is given to show.
-/

namespace PanelLink

inductive SurfaceError where
  | zeroSize
  | bufferTooSmall
deriving DecidableEq, Repr

/-- The number of bytes that the pixels take.  Sizes are numbers of 16 bits, so it is less than
2^34 and does not wrap around where lengths are numbers of 64 bits, as is assumed. -/
def storageLength (width height : Nat) : Nat :=
  width * height * 4

structure Surface where
  width : Nat
  height : Nat
  storage : Array UInt8
  dirty : Option Rect := none
  width_pos : 0 < width
  height_pos : 0 < height
  width_lt : width < 65536
  height_lt : height < 65536
  fits : storageLength width height ≤ storage.size

structure View where
  width : Nat
  height : Nat
  /-- The bytes of all pixels, without the rest of the storage. -/
  bytes : Array UInt8
deriving DecidableEq, Repr

namespace View

def row? (view : View) (y : Nat) : Option (Array UInt8) :=
  if y < view.height then
    some (view.bytes.extract (y * (view.width * 4)) ((y + 1) * (view.width * 4)))
  else
    none

def pixel? (view : View) (x y : Nat) : Option Color :=
  if x < view.width ∧ y < view.height then
    let start := (y * view.width + x) * 4
    some ⟨view.bytes.getD start 0, view.bytes.getD (start + 1) 0, view.bytes.getD (start + 2) 0⟩
  else
    none

def pixelAt? (view : View) (point : Point) : Option Color :=
  if 0 ≤ point.x ∧ 0 ≤ point.y then view.pixel? point.x.toNat point.y.toNat else none

end View

/-! ## Sinks

A sink takes the changed region of a picture to a panel.  It may refuse.
-/

inductive FlushError where
  | communication
  | notReady
deriving DecidableEq, Repr

class Sink (σ : Type) where
  flush : σ → View → Rect → Except FlushError Unit × σ

/-! ## Surfaces -/

namespace Surface

def opaqueAlpha : UInt8 := 0xFF

def ofStorage (width height : UInt16) (storage : Array UInt8) : Except SurfaceError Surface :=
  if hzero : width.toNat = 0 ∨ height.toNat = 0 then
    .error .zeroSize
  else if hfits : storage.size < storageLength width.toNat height.toNat then
    .error .bufferTooSmall
  else
    .ok {
      width := width.toNat
      height := height.toNat
      storage
      width_pos := by omega
      height_pos := by omega
      width_lt := width.toNat_lt
      height_lt := height.toNat_lt
      fits := by omega }

def bounds (surface : Surface) : Rect :=
  ⟨0, 0, surface.width - 1, surface.height - 1⟩

def clip? (surface : Surface) (rect : Rect) : Option Rect :=
  rect.clip? surface.width surface.height

def offset (width : Nat) (point : Point) : Nat :=
  (point.y.toNat * width + point.x.toNat) * 4

def view (surface : Surface) : View where
  width := surface.width
  height := surface.height
  bytes := surface.storage.extract 0 (storageLength surface.width surface.height)

def pixel? (surface : Surface) (point : Point) : Option Color :=
  if surface.bounds.Contains point then
    let start := offset surface.width point
    some ⟨surface.storage.getD start 0, surface.storage.getD (start + 1) 0,
      surface.storage.getD (start + 2) 0⟩
  else
    none

/-! ## Drawing -/

def writePixel (storage : Array UInt8) (start : Nat) (color : Color) : Array UInt8 :=
  (((storage.setIfInBounds start color.red).setIfInBounds (start + 1) color.green).setIfInBounds
    (start + 2) color.blue).setIfInBounds (start + 3) opaqueAlpha

def writePixels (width : Nat) (pixels : List (Point × Color)) (storage : Array UInt8) :
    Array UInt8 :=
  pixels.foldl (fun bytes pixel => writePixel bytes (offset width pixel.1) pixel.2) storage

@[simp] theorem size_writePixel (storage : Array UInt8) (start : Nat) (color : Color) :
    (writePixel storage start color).size = storage.size := by
  simp [writePixel]

@[simp] theorem size_writePixels (width : Nat) (pixels : List (Point × Color))
    (storage : Array UInt8) : (writePixels width pixels storage).size = storage.size := by
  induction pixels generalizing storage with
  | nil => rfl
  | cons pixel pixels ih =>
    have hcons : writePixels width (pixel :: pixels) storage =
        writePixels width pixels (writePixel storage (offset width pixel.1) pixel.2) :=
      rfl
    rw [hcons, ih, size_writePixel]

/-- Draws pixels one after the other.  Their points have to be on the surface. -/
def paint (surface : Surface) (pixels : List (Point × Color)) : Surface :=
  { surface with
    storage := writePixels surface.width pixels surface.storage
    fits := by simpa using surface.fits }

def paintRect (surface : Surface) (rect : Rect) (color : Color) : Surface :=
  surface.paint (rect.points.map fun point => (point, color))

def markDirty (surface : Surface) (rect : Rect) : Surface :=
  match surface.clip? rect with
  | none => surface
  | some area => { surface with dirty := some ((surface.dirty.map (·.union area)).getD area) }

def takeDirty (surface : Surface) : Option Rect × Surface :=
  (surface.dirty, { surface with dirty := none })

def putPixel (surface : Surface) (point : Point) (color : Color) : Bool × Surface :=
  if surface.bounds.Contains point then
    (true, (surface.paint [(point, color)]).markDirty (Rect.ofPoint point))
  else
    (false, surface)

/-! ## Whole rows -/

/-- Draws the rows from `top` up to `bottom`, which is left out, in one color. -/
def fillRows (surface : Surface) (top bottom : Nat) (color : Color) : Surface :=
  surface.paintRect ⟨0, top, surface.width - 1, bottom - 1⟩ color

def fill (surface : Surface) (color : Color) : Surface :=
  (surface.fillRows 0 surface.height color).markDirty surface.bounds

/-- Copies `count` rows from row `source` on to where row `target` starts.  The two stretches
may overlap. -/
def copyRows (surface : Surface) (source target count : Nat) : Surface :=
  let rowBytes := surface.width * 4
  let old := surface.storage
  { surface with
    storage := old.mapIdx fun i byte =>
      if target * rowBytes ≤ i ∧ i < (target + count) * rowBytes then
        old.getD (i - target * rowBytes + source * rowBytes) 0
      else
        byte
    fits := by simpa using surface.fits }

@[simp] theorem width_paint (surface : Surface) (pixels : List (Point × Color)) :
    (surface.paint pixels).width = surface.width := rfl

@[simp] theorem height_paint (surface : Surface) (pixels : List (Point × Color)) :
    (surface.paint pixels).height = surface.height := rfl

@[simp] theorem dirty_paint (surface : Surface) (pixels : List (Point × Color)) :
    (surface.paint pixels).dirty = surface.dirty := rfl

@[simp] theorem storage_markDirty (surface : Surface) (rect : Rect) :
    (surface.markDirty rect).storage = surface.storage := by
  unfold markDirty
  split <;> rfl

@[simp] theorem width_markDirty (surface : Surface) (rect : Rect) :
    (surface.markDirty rect).width = surface.width := by
  unfold markDirty
  split <;> rfl

@[simp] theorem height_markDirty (surface : Surface) (rect : Rect) :
    (surface.markDirty rect).height = surface.height := by
  unfold markDirty
  split <;> rfl

end Surface

end PanelLink
