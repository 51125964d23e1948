import PanelLink.Wire.Frame

/-!
# Receiver

The receiver takes one byte at a time and hands out a frame on the byte that
completes it.  Any byte that cannot continue a frame drops all progress, and the
search for a preamble starts again with the next byte.
-/

namespace PanelLink

inductive Phase where
  | preamble (matched : Nat)
  | command
  | collecting
deriving DecidableEq, Repr

structure Tally where
  frames : UInt32 := 0
  checksumErrors : UInt32 := 0
  syncLosses : UInt32 := 0
  lengthErrors : UInt32 := 0
  linkResets : UInt32 := 0
  discardedBytes : UInt32 := 0
deriving DecidableEq, Repr

structure Receiver where
  phase : Phase := .preamble 0
  buffer : Array UInt8 := #[]
  checksum : UInt8 := 0
  declared : Option Nat := none
  limit : Nat := Frame.maxLength
  tally : Tally := {}
deriving DecidableEq, Repr

namespace Receiver

/-- A receiver for frames of at most `limit` bytes, as far as the frame format allows that limit. -/
def withLimit (limit : Nat) : Receiver :=
  { limit := max Frame.minLength (min limit Frame.maxLength) }

/-- Progress as a number: preamble bytes matched, then three for the command code and four for the rest. -/
def stage (receiver : Receiver) : Nat :=
  match receiver.phase with
  | .preamble matched => matched
  | .command => Frame.preambleLength
  | .collecting => Frame.preambleLength + 1

def buffered (receiver : Receiver) : Nat :=
  receiver.buffer.size

def resync (receiver : Receiver) : Receiver :=
  { limit := receiver.limit, tally := receiver.tally }

def countFrame (receiver : Receiver) : Receiver :=
  { receiver with tally.frames := receiver.tally.frames + 1 }

def countChecksumError (receiver : Receiver) : Receiver :=
  { receiver with tally.checksumErrors := receiver.tally.checksumErrors + 1 }

def countSyncLoss (receiver : Receiver) : Receiver :=
  { receiver with tally.syncLosses := receiver.tally.syncLosses + 1 }

def countLengthError (receiver : Receiver) : Receiver :=
  { receiver with tally.lengthErrors := receiver.tally.lengthErrors + 1 }

def countReset (receiver : Receiver) : Receiver :=
  { receiver with tally.linkResets := receiver.tally.linkResets + 1 }

def countDiscarded (receiver : Receiver) : Receiver :=
  { receiver with tally.discardedBytes := receiver.tally.discardedBytes + 1 }

def reset (receiver : Receiver) : Receiver :=
  receiver.countReset.resync

def keep? (receiver : Receiver) (byte : UInt8) : Option Receiver :=
  if receiver.buffer.size < Frame.maxLength then
    some { receiver with
      buffer := receiver.buffer.push byte
      checksum := receiver.checksum ^^^ byte }
  else
    none

def keep (receiver : Receiver) (byte : UInt8) : Receiver :=
  (receiver.keep? byte).getD receiver

def headerField (buffer : Array UInt8) : Nat :=
  LittleEndian.toNat [buffer.getD 4 0, buffer.getD 5 0]

def finish (receiver : Receiver) : Receiver × Option Frame :=
  if receiver.checksum ≠ 0 then
    (receiver.countChecksumError.resync, none)
  else
    match CommandCode.ofByte? (receiver.buffer.getD Frame.preambleLength 0) with
    | some code => (receiver.countFrame.resync, some ⟨code, receiver.buffer.toList⟩)
    | none => (receiver.resync, none)

def readHeader? (receiver : Receiver) : Option Receiver :=
  if receiver.buffer.size = Frame.headerLength then
    let declared := headerField receiver.buffer
    if declared > receiver.limit ∨ declared < Frame.minLength then
      none
    else
      some { receiver with declared := some declared }
  else
    some receiver

def collect (receiver : Receiver) (byte : UInt8) : Receiver × Option Frame :=
  match receiver.keep? byte with
  | none => (receiver.countLengthError.resync, none)
  | some kept =>
    match kept.readHeader? with
    | none => (kept.countLengthError.resync, none)
    | some ready =>
      if ready.declared = some ready.buffer.size then ready.finish else (ready, none)

def feed (receiver : Receiver) (byte : UInt8) : Receiver × Option Frame :=
  match receiver.phase with
  | .preamble matched =>
    if byte = Frame.preambleByte then
      let phase :=
        if matched + 1 = Frame.preambleLength then .command else .preamble (matched + 1)
      ({ receiver.keep byte with phase }, none)
    else if matched = 0 then
      (receiver.countDiscarded.resync, none)
    else
      (receiver.countSyncLoss.resync, none)
  | .command =>
    match CommandCode.ofByte? byte with
    | some _ => ({ receiver.keep byte with phase := .collecting }, none)
    | none => (receiver.countSyncLoss.resync, none)
  | .collecting => receiver.collect byte

def feedUntilFrame (receiver : Receiver) : List UInt8 → Receiver × Option Frame
  | [] => (receiver, none)
  | byte :: bytes =>
    match receiver.feed byte with
    | (next, some frame) => (next, some frame)
    | (next, none) => next.feedUntilFrame bytes

end Receiver

end PanelLink
