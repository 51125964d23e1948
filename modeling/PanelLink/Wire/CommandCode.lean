/-!
# Command codes

The fourth byte of a frame says which command the frame carries.
-/

namespace PanelLink

inductive CommandCode where
  | fillRect
  | drawBitmap
  | blitBuffer
  | scrollBuffer
  | executeOpaque
deriving DecidableEq, Repr

namespace CommandCode

def toByte : CommandCode → UInt8
  | .fillRect => 0x11
  | .drawBitmap => 0x22
  | .blitBuffer => 0x33
  | .scrollBuffer => 0x44
  | .executeOpaque => 0x55

def all : List CommandCode :=
  [.fillRect, .drawBitmap, .blitBuffer, .scrollBuffer, .executeOpaque]

def ofByte? (byte : UInt8) : Option CommandCode :=
  all.find? fun code => code.toByte = byte

@[simp] theorem ofByte?_toByte (code : CommandCode) : ofByte? code.toByte = some code := by
  cases code <;> rfl

theorem ofByte?_eq_some_iff {byte : UInt8} {code : CommandCode} :
    ofByte? byte = some code ↔ code.toByte = byte := by
  constructor
  · intro h
    simpa using List.find?_some h
  · rintro rfl
    exact ofByte?_toByte code

end CommandCode

end PanelLink
