import PanelLink.Wire.CommandCode

/-!
# Frames

A frame is three preamble bytes, a command code, the length of the whole frame
in two bytes, the payload, and a checksum that makes the exclusive or of all
bytes zero.  Nothing is escaped: a payload may contain preamble bytes.  Numbers take
a fixed count of bytes, least significant first.
-/

namespace PanelLink

/-! ## Numbers on the wire -/

namespace LittleEndian

def ofNat : Nat → Nat → List UInt8
  | 0, _ => []
  | width + 1, n => UInt8.ofNat n :: ofNat width (n / 256)

def toNat : List UInt8 → Nat
  | [] => 0
  | byte :: bytes => byte.toNat + 256 * toNat bytes

@[simp] theorem length_ofNat (width n : Nat) : (ofNat width n).length = width := by
  induction width generalizing n with
  | zero => rfl
  | succ width ih => simp [ofNat, ih]

theorem ofNat_toNat (bytes : List UInt8) : ofNat bytes.length (toNat bytes) = bytes := by
  induction bytes with
  | nil => rfl
  | cons byte bytes ih =>
    have hbyte := byte.toNat_lt
    have hhead : UInt8.ofNat (byte.toNat + 256 * toNat bytes) = byte := by
      rw [← UInt8.toNat_inj, UInt8.toNat_ofNat']
      omega
    have htail : (byte.toNat + 256 * toNat bytes) / 256 = toNat bytes := by
      omega
    simp only [List.length_cons, ofNat, toNat, hhead, htail, ih]

end LittleEndian

/-! ## Frames -/

inductive FrameError where
  | payloadTooLarge
  | truncated
  | bufferTooSmall
deriving DecidableEq, Repr

def checksum (bytes : List UInt8) : UInt8 :=
  bytes.foldl (· ^^^ ·) 0

@[simp] theorem checksum_nil : checksum [] = 0 := rfl

@[simp] theorem checksum_concat (bytes : List UInt8) (byte : UInt8) :
    checksum (bytes ++ [byte]) = checksum bytes ^^^ byte := by
  simp [checksum]

/-- A frame keeps its bytes as they stand on the wire, so it can be sent again unchanged. -/
structure Frame where
  code : CommandCode
  bytes : List UInt8
deriving DecidableEq, Repr

namespace Frame

def preambleByte : UInt8 := 0xAA

def preambleLength : Nat := 3

def headerLength : Nat := 6

def minLength : Nat := headerLength + 1

def maxLength : Nat := 2990

def maxPayload : Nat := maxLength - minLength

def header (code : CommandCode) (length : Nat) : List UInt8 :=
  [preambleByte, preambleByte, preambleByte, code.toByte] ++ LittleEndian.ofNat 2 length

def body (code : CommandCode) (payload : List UInt8) : List UInt8 :=
  header code (minLength + payload.length) ++ payload

def build (code : CommandCode) (payload : List UInt8) : Except FrameError Frame :=
  if payload.length > maxPayload then
    .error .payloadTooLarge
  else
    .ok ⟨code, body code payload ++ [PanelLink.checksum (body code payload)]⟩

def length (frame : Frame) : Nat :=
  frame.bytes.length

def payload (frame : Frame) : List UInt8 :=
  (frame.bytes.drop headerLength).dropLast

def trailer (frame : Frame) : UInt8 :=
  frame.bytes.getLastD 0

def writeTo (frame : Frame) (buffer : List UInt8) : Except FrameError (Nat × List UInt8) :=
  if buffer.length < frame.length then
    .error .bufferTooSmall
  else
    .ok (frame.length, frame.bytes ++ buffer.drop frame.length)

@[simp] theorem length_header (code : CommandCode) (n : Nat) :
    (header code n).length = headerLength := by
  simp [header, headerLength]

@[simp] theorem length_body (code : CommandCode) (payload : List UInt8) :
    (body code payload).length = headerLength + payload.length := by
  simp [body]

theorem build_eq_ok_iff {code : CommandCode} {payload : List UInt8} {frame : Frame} :
    build code payload = .ok frame ↔
      payload.length ≤ maxPayload ∧
        frame = ⟨code, body code payload ++ [PanelLink.checksum (body code payload)]⟩ := by
  by_cases h : payload.length > maxPayload
  · simp only [build, if_pos h, reduceCtorEq, false_iff]
    omega
  · simp only [build, if_neg h, Except.ok.injEq]
    constructor
    · rintro rfl
      exact ⟨by omega, rfl⟩
    · rintro ⟨_, rfl⟩
      rfl

theorem payload_of_build_eq_ok {code : CommandCode} {payload : List UInt8} {frame : Frame}
    (h : build code payload = .ok frame) : frame.payload = payload := by
  obtain ⟨_, rfl⟩ := build_eq_ok_iff.1 h
  have hdrop : (body code payload ++ [PanelLink.checksum (body code payload)]).drop headerLength =
      payload ++ [PanelLink.checksum (body code payload)] := by
    rw [body, List.append_assoc]
    exact List.drop_left' (length_header code _)
  simp only [Frame.payload, hdrop, List.dropLast_concat]

end Frame

end PanelLink
