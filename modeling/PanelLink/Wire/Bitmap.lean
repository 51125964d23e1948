import PanelLink.Wire.Frame

/-!
# Bitmaps

One bit a pixel, and the bits run backwards: the last pixel of the last row is
bit 0 of the first byte, and the first pixel of the first row is the highest bit.
-/

namespace PanelLink

structure Bitmap where
  width : UInt16
  height : UInt16
  bits : Array UInt8
deriving DecidableEq, Repr

namespace Bitmap

def byteLength (width height : UInt16) : Nat :=
  (width.toNat * height.toNat + 7) / 8

def ofBits (width height : UInt16) (bits : Array UInt8) : Except FrameError Bitmap :=
  if bits.size < byteLength width height then
    .error .truncated
  else
    .ok ⟨width, height, bits.take (byteLength width height)⟩

def bitIndex (bitmap : Bitmap) (row col : Nat) : Nat :=
  bitmap.height.toNat * bitmap.width.toNat - (row * bitmap.width.toNat + col) - 1

/-- Whether the pixel is set.  Places off the bitmap and bits beyond the bytes are clear. -/
def bit (bitmap : Bitmap) (row col : Nat) : Bool :=
  if row < bitmap.height.toNat ∧ col < bitmap.width.toNat then
    let index := bitmap.bitIndex row col
    match bitmap.bits[index / 8]? with
    | some byte => byte.toNat.testBit (index % 8)
    | none => false
  else
    false

end Bitmap

end PanelLink
