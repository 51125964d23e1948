import PanelLink.Settings.Link

/-!
# Stored settings

The compact form in which link settings are kept: their fields in order, each a
number in the format of the library that keeps them, the policy last.
-/

namespace PanelLink

/-- How numbers are written and read.  A number of 16 or 32 bits is read from the front, and the
bytes after it are returned. -/
structure NumberFormat where
  write : Nat → List UInt8
  read16? : List UInt8 → Option (UInt16 × List UInt8)
  read32? : List UInt8 → Option (UInt32 × List UInt8)

/-! ## Numbers of variable length

A number is written seven bits a byte, lowest bits first; every byte but the last
has its top bit set.
-/

namespace Varint

def encode (n : Nat) : List UInt8 :=
  if n < 128 then [UInt8.ofNat n] else UInt8.ofNat (n % 128 + 128) :: encode (n / 128)

/-- Reads a number of at most `width` bytes and returns the bytes after it.  A last byte that
comes at the full width must not exceed `top`.  Longer forms than needed are accepted. -/
def decode? (top : Nat) : Nat → List UInt8 → Option (Nat × List UInt8)
  | 0, _ => none
  | _, [] => none
  | width + 1, byte :: bytes =>
    if byte.toNat < 128 then
      if width = 0 ∧ top < byte.toNat then none else some (byte.toNat, bytes)
    else do
      let (high, rest) ← decode? top width bytes
      return (byte.toNat - 128 + 128 * high, rest)

/-- A number of 16 bits takes at most three bytes, the third of them with two bits. -/
def decode16? (bytes : List UInt8) : Option (UInt16 × List UInt8) :=
  (decode? 3 3 bytes).map fun (n, rest) => (UInt16.ofNat n, rest)

/-- A number of 32 bits takes at most five bytes, the fifth of them with four bits. -/
def decode32? (bytes : List UInt8) : Option (UInt32 × List UInt8) :=
  (decode? 15 5 bytes).map fun (n, rest) => (UInt32.ofNat n, rest)

def format : NumberFormat where
  write := encode
  read16? := decode16?
  read32? := decode32?

end Varint

/-! ## Settings -/

namespace FlushPolicy

def toIndex : FlushPolicy → Nat
  | .everyFrame => 0
  | .manual => 1

def ofIndex? : Nat → Option FlushPolicy
  | 0 => some .everyFrame
  | 1 => some .manual
  | _ => none

@[simp] theorem ofIndex?_toIndex (policy : FlushPolicy) : ofIndex? policy.toIndex = some policy := by
  cases policy <;> rfl

end FlushPolicy

namespace LinkSettings

/-- What is stored of the settings, in order. -/
def numbers (settings : LinkSettings) : List Nat :=
  [settings.width.toNat, settings.height.toNat, settings.background.toNat,
    settings.frameLimit.toNat, settings.policy.toIndex]

/-- Puts bytes behind those that are in a buffer already, if there is room for them. -/
def push (capacity : Nat) (buffer bytes : List UInt8) : Except SettingsError (List UInt8) :=
  if buffer.length + bytes.length ≤ capacity then .ok (buffer ++ bytes) else .error .serialize

/-- Fills a buffer with one number after the other. -/
def store (settings : LinkSettings) (capacity : Nat) (format : NumberFormat := Varint.format) :
    Except SettingsError (List UInt8) :=
  (settings.numbers.map format.write).foldlM (push capacity) []

def decode? (bytes : List UInt8) (format : NumberFormat := Varint.format) :
    Option (LinkSettings × List UInt8) := do
  let (width, bytes) ← format.read16? bytes
  let (height, bytes) ← format.read16? bytes
  let (background, bytes) ← format.read32? bytes
  let (frameLimit, bytes) ← format.read16? bytes
  let (index, bytes) ← format.read32? bytes
  let policy ← FlushPolicy.ofIndex? index.toNat
  return (⟨width, height, background, frameLimit, policy⟩, bytes)

def load (bytes : List UInt8) (format : NumberFormat := Varint.format) :
    Except SettingsError LinkSettings :=
  match decode? bytes format with
  | none => .error .deserialize
  | some (settings, _) => do
    settings.validate
    return settings

end LinkSettings

end PanelLink
