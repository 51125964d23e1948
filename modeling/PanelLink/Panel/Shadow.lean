import PanelLink.Raster.Surface

/-!
# Shadow

A picture that stands in for the memory of a panel: it holds exactly what the
flushes so far have brought.
-/

namespace PanelLink

structure Shadow where
  width : Nat
  height : Nat
  pixels : Array Color
  history : List Rect := []

namespace Shadow

def blank (width height : Nat) : Shadow :=
  { width, height, pixels := Array.replicate (width * height) Color.black }

def pixel? (shadow : Shadow) (x y : Nat) : Option Color :=
  if x < shadow.width ∧ y < shadow.height then
    some (shadow.pixels.getD (y * shadow.width + x) Color.black)
  else
    none

def row (shadow : Shadow) (y : Nat) : List UInt8 :=
  (List.range shadow.width).flatMap fun x =>
    (shadow.pixels.getD (y * shadow.width + x) Color.black).toPixel

def rows (shadow : Shadow) : List (List UInt8) :=
  (List.range shadow.height).map shadow.row

def flushes (shadow : Shadow) : Nat :=
  shadow.history.length

def copied (shadow : Shadow) : Nat :=
  shadow.history.foldl (fun total rect => total + rect.area) 0

def copyRow (view : View) (y : Int) : Nat → Int → Array Color → Bool × Array Color
  | 0, _, pixels => (true, pixels)
  | count + 1, x, pixels =>
    match view.pixelAt? ⟨x, y⟩ with
    | none => (false, pixels)
    | some color =>
      copyRow view y count (x + 1)
        (pixels.setIfInBounds (y.toNat * view.width + x.toNat) color)

def copyRows (view : View) (rect : Rect) : Nat → Int → Array Color → Bool × Array Color
  | 0, _, pixels => (true, pixels)
  | count + 1, y, pixels =>
    match copyRow view y (rect.maxX - rect.minX + 1).toNat rect.minX pixels with
    | (true, next) => copyRows view rect count (y + 1) next
    | (false, next) => (false, next)

/-- Copies a rectangle of the view.  A view of another size is refused; a rectangle that leaves
the view is copied up to the first pixel outside. -/
def flush (shadow : Shadow) (view : View) (rect : Rect) : Except FlushError Unit × Shadow :=
  if view.width ≠ shadow.width ∨ view.height ≠ shadow.height then
    (.error .notReady, shadow)
  else
    let { width, height, pixels, history } := shadow
    match copyRows view rect (rect.maxY - rect.minY + 1).toNat rect.minY pixels with
    | (true, pixels) => (.ok (), { width, height, pixels, history := rect :: history })
    | (false, pixels) => (.error .communication, { width, height, pixels, history })

instance : Sink Shadow where
  flush := flush

end Shadow

end PanelLink
