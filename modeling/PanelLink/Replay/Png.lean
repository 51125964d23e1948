import PanelLink.Panel.Shadow
import PanelLink.Wire.Frame

/-!
# Picture files

The shadow as a PNG file of eight bits a channel.  The pixels are stored as they
are, without compression.
-/

namespace PanelLink.Png

def bigEndian (n : Nat) : List UInt8 :=
  (LittleEndian.ofNat 4 n).reverse

def divideBits : Nat → UInt32 → UInt32
  | 0, crc => crc
  | count + 1, crc =>
    divideBits count (if crc &&& 1 = 1 then (crc >>> 1) ^^^ 0xEDB88320 else crc >>> 1)

def cyclicChecksum (bytes : List UInt8) : UInt32 :=
  bytes.foldl (fun crc byte => divideBits 8 (crc ^^^ byte.toUInt32)) 0xFFFFFFFF ^^^ 0xFFFFFFFF

def sumChecksum (bytes : List UInt8) : Nat :=
  let (low, high) := bytes.foldl
    (fun (low, high) byte =>
      let low := (low + byte.toNat) % 65521
      (low, (high + low) % 65521)) (1, 0)
  high * 65536 + low

def chunk (kind : List UInt8) (data : List UInt8) : List UInt8 :=
  bigEndian data.length ++ kind ++ data ++ bigEndian (cyclicChecksum (kind ++ data)).toNat

def storedBlock (isLast : Bool) (data : List UInt8) : List UInt8 :=
  (if isLast then 1 else 0) :: LittleEndian.ofNat 2 data.length ++
    LittleEndian.ofNat 2 (65535 - data.length) ++ data

def maxBlock : Nat := 65535

def storedBlocks (data : List UInt8) : List UInt8 :=
  if data.length ≤ maxBlock then
    storedBlock true data
  else
    storedBlock false (data.take maxBlock) ++ storedBlocks (data.drop maxBlock)
termination_by data.length
decreasing_by
  simp only [List.length_drop, maxBlock] at *
  omega

def packed (data : List UInt8) : List UInt8 :=
  [0x78, 0x01] ++ storedBlocks data ++ bigEndian (sumChecksum data)

def signature : List UInt8 :=
  [0x89, 0x50, 0x4E, 0x47, 0x0D, 0x0A, 0x1A, 0x0A]

/-- Size, eight bits a channel, three channels, and the standard way of everything else. -/
def imageHeader (shadow : Shadow) : List UInt8 :=
  bigEndian shadow.width ++ bigEndian shadow.height ++ [8, 2, 0, 0, 0]

/-- The bytes of the file.  Every row starts with a zero, for no filter. -/
def encode (shadow : Shadow) : List UInt8 :=
  signature ++ chunk [0x49, 0x48, 0x44, 0x52] (imageHeader shadow) ++
    chunk [0x49, 0x44, 0x41, 0x54] (packed (shadow.rows.flatMap fun row => 0 :: row)) ++
    chunk [0x49, 0x45, 0x4E, 0x44] []

end PanelLink.Png
