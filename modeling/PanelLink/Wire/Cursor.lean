import PanelLink.Color
import PanelLink.Wire.Frame

/-!
# Payload cursor

Fields of a payload are read from front to back.  A field that is not there in
full is an error and leaves the cursor where it was.
-/

namespace PanelLink

structure Cursor where
  buffer : List UInt8
  position : Nat := 0
deriving DecidableEq, Repr

abbrev Reading := ExceptT FrameError (StateM Cursor)

namespace Cursor

def remaining (cursor : Cursor) : Nat :=
  cursor.buffer.length - cursor.position

def unread (cursor : Cursor) : List UInt8 :=
  cursor.buffer.drop cursor.position

end Cursor

namespace Reading

def runFrom {α : Type} (reading : Reading α) (cursor : Cursor) : Except FrameError α × Cursor :=
  StateT.run (ExceptT.run reading) cursor

def decode {α : Type} (reading : Reading α) (bytes : List UInt8) : Except FrameError α :=
  (reading.runFrom ⟨bytes, 0⟩).1

def take (n : Nat) : Reading (List UInt8) := do
  let cursor ← get
  if cursor.remaining < n then
    throw .truncated
  set { cursor with position := cursor.position + n }
  return cursor.unread.take n

def rest : Reading (List UInt8) := do
  let cursor ← get
  set { cursor with position := cursor.buffer.length }
  return cursor.unread

def nat (width : Nat) : Reading Nat :=
  return LittleEndian.toNat (← take width)

def uint8 : Reading UInt8 :=
  return UInt8.ofNat (← nat 1)

def uint16 : Reading UInt16 :=
  return UInt16.ofNat (← nat 2)

def int16 : Reading Int16 :=
  return (← uint16).toInt16

def int32 : Reading Int32 :=
  return (UInt32.ofNat (← nat 4)).toInt32

def color : Reading Color :=
  return Color.ofRgb24 (UInt32.ofNat (← nat 3))

end Reading

end PanelLink
