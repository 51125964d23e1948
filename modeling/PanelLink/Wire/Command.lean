import PanelLink.Wire.Bitmap
import PanelLink.Wire.Cursor

/-!
# Commands

The payload of a frame, read as a drawing command, and a command written as a
payload.  Bytes after the last field of a command are ignored.
-/

namespace PanelLink

structure Corners where
  x1 : Int16
  y1 : Int16
  x2 : Int16
  y2 : Int16
deriving DecidableEq, Repr

def Corners.pixelCount (corners : Corners) : Nat :=
  ((corners.x2.toInt - corners.x1.toInt).natAbs + 1) *
    ((corners.y2.toInt - corners.y1.toInt).natAbs + 1)

inductive Command where
  | fillRect (corners : Corners) (color : Color)
  | drawBitmap (x y : Int16) (scale : UInt8) (foreground : Color) (backdrop : Backdrop)
      (bitmap : Bitmap)
  | blitBuffer (corners : Corners) (pixels : Array UInt8)
  | scroll (lines : Int16)
  | execute (data : List UInt8)
deriving DecidableEq, Repr

namespace Command

def code : Command → CommandCode
  | .fillRect .. => .fillRect
  | .drawBitmap .. => .drawBitmap
  | .blitBuffer .. => .blitBuffer
  | .scroll .. => .scrollBuffer
  | .execute .. => .executeOpaque

/-! ## Reading -/

def readCorners : Reading Corners :=
  return ⟨← Reading.int16, ← Reading.int16, ← Reading.int16, ← Reading.int16⟩

def readFillRect : Reading Command :=
  return .fillRect (← readCorners) (← Reading.color)

def readDrawBitmap : Reading Command := do
  let x ← Reading.int16
  let y ← Reading.int16
  let width ← Reading.uint16
  let height ← Reading.uint16
  let scale ← Reading.uint8
  let foreground ← Reading.color
  let backdrop := Backdrop.ofWire (← Reading.int32)
  let bits ← Reading.take (Bitmap.byteLength width height)
  let bitmap ← liftExcept (Bitmap.ofBits width height bits.toArray)
  return .drawBitmap x y scale foreground backdrop bitmap

def readBlitBuffer : Reading Command := do
  let corners ← readCorners
  let pixels ← Reading.take (corners.pixelCount * 3)
  return .blitBuffer corners pixels.toArray

def layout : CommandCode → Reading Command
  | .fillRect => readFillRect
  | .drawBitmap => readDrawBitmap
  | .blitBuffer => readBlitBuffer
  | .scrollBuffer => return .scroll (← Reading.int16)
  | .executeOpaque => return .execute (← Reading.rest)

def ofFrame (frame : Frame) : Except FrameError Command :=
  (layout frame.code).decode frame.payload

/-! ## Writing -/

def int16Bytes (number : Int16) : List UInt8 :=
  LittleEndian.ofNat 2 number.toUInt16.toNat

def cornerBytes (corners : Corners) : List UInt8 :=
  int16Bytes corners.x1 ++ int16Bytes corners.y1 ++ int16Bytes corners.x2 ++ int16Bytes corners.y2

/-- The fields in order.  Bits and pixels are written as they are, too few or too many. -/
def payload : Command → List UInt8
  | .fillRect corners color => cornerBytes corners ++ color.toWire
  | .drawBitmap x y scale foreground backdrop bitmap =>
    int16Bytes x ++ int16Bytes y ++
      LittleEndian.ofNat 2 bitmap.width.toNat ++ LittleEndian.ofNat 2 bitmap.height.toNat ++
      [scale] ++ foreground.toWire ++ LittleEndian.ofNat 4 backdrop.toWire.toUInt32.toNat ++
      bitmap.bits.toList
  | .blitBuffer corners pixels => cornerBytes corners ++ pixels.toList
  | .scroll lines => int16Bytes lines
  | .execute data => data

def toFrame (command : Command) : Except FrameError Frame :=
  Frame.build command.code command.payload

end Command

end PanelLink
