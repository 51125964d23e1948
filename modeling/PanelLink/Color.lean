/-!
# Colors

A color has three channels of eight bits and a number `0xRRGGBB`.  On the wire
it is the little-endian form of that number, so the blue byte comes first.  A
backdrop is what lies under the clear bits of a bitmap: a color, or nothing.
-/

namespace PanelLink

structure Color where
  red : UInt8
  green : UInt8
  blue : UInt8
deriving DecidableEq, Repr

namespace Color

def black : Color := ⟨0, 0, 0⟩

/-- The color with number `0xRRGGBB`; whatever lies above the low 24 bits is dropped. -/
def ofRgb24 (number : UInt32) : Color where
  red := UInt8.ofNat (number.toNat / 65536)
  green := UInt8.ofNat (number.toNat / 256)
  blue := UInt8.ofNat number.toNat

def toRgb24 (color : Color) : UInt32 :=
  UInt32.ofNat (color.red.toNat * 65536 + color.green.toNat * 256 + color.blue.toNat)

/-- The three bytes on the wire, blue first. -/
def toWire (color : Color) : List UInt8 :=
  [color.blue, color.green, color.red]

def toPixel (color : Color) : List UInt8 :=
  [color.red, color.green, color.blue]

theorem toNat_toRgb24 (color : Color) :
    color.toRgb24.toNat =
      color.red.toNat * 65536 + color.green.toNat * 256 + color.blue.toNat := by
  have hred := color.red.toNat_lt
  have hgreen := color.green.toNat_lt
  have hblue := color.blue.toNat_lt
  simp only [toRgb24, UInt32.toNat_ofNat']
  omega

@[simp] theorem ofRgb24_toRgb24 (color : Color) : ofRgb24 color.toRgb24 = color := by
  have hred := color.red.toNat_lt
  have hgreen := color.green.toNat_lt
  have hblue := color.blue.toNat_lt
  obtain ⟨red, green, blue⟩ := color
  simp only [ofRgb24, toNat_toRgb24, mk.injEq, ← UInt8.toNat_inj, UInt8.toNat_ofNat'] at *
  omega

end Color

inductive Backdrop where
  | solid (color : Color)
  | transparent
deriving DecidableEq, Repr

namespace Backdrop

/-- The number `-1` stands for transparency, every other number for the color in its low 24 bits. -/
def ofWire (number : Int32) : Backdrop :=
  if number = -1 then .transparent else .solid (Color.ofRgb24 number.toUInt32)

def toWire : Backdrop → Int32
  | .solid color => color.toRgb24.toInt32
  | .transparent => -1

end Backdrop

end PanelLink
