import Mathlib.Data.Nat.Digits.Defs
import PanelLink.Proofs.Wire.Fields

/-!
# Runs of a cursor

Fields are read at a cursor one after the other, and those that fail are passed over.  Each field
takes the bytes it needs, or none at all if there are fewer.  So a cursor never leaves its buffer,
and what has been read and what is unread are the buffer.
-/

namespace PanelLink

/-! ## Numbers in bytes -/

/-- The number with the bytes as its digits to base 256, least significant first. -/
def littleEndian (bytes : List UInt8) : Nat :=
  Nat.ofDigits 256 (bytes.map UInt8.toNat)

theorem littleEndian_eq_toNat (bytes : List UInt8) :
    littleEndian bytes = LittleEndian.toNat bytes := by
  induction bytes with
  | nil => rfl
  | cons byte bytes ih =>
      rw [littleEndian, List.map_cons, Nat.ofDigits_cons, ← littleEndian, ih, LittleEndian.toNat]

theorem littleEndian_ofNat {width n : Nat} (hn : n < 256 ^ width) :
    littleEndian (LittleEndian.ofNat width n) = n := by
  rw [littleEndian_eq_toNat, LittleEndian.toNat_ofNat, Nat.mod_eq_of_lt hn]

namespace Cursor

/-! ## Fields and values -/

inductive Field where
  | uint8
  | uint16
  | int16
  | int32
  | color
  | take (n : Nat)
  | rest
deriving DecidableEq, Repr

inductive Value where
  | uint8 (number : UInt8)
  | uint16 (number : UInt16)
  | int16 (number : Int16)
  | int32 (number : Int32)
  | color (color : Color)
  | bytes (bytes : List UInt8)
deriving DecidableEq, Repr

def Field.read : Field → Reading Value
  | .uint8 => return .uint8 (← Reading.uint8)
  | .uint16 => return .uint16 (← Reading.uint16)
  | .int16 => return .int16 (← Reading.int16)
  | .int32 => return .int32 (← Reading.int32)
  | .color => return .color (← Reading.color)
  | .take n => return .bytes (← Reading.take n)
  | .rest => return .bytes (← Reading.rest)

/-- How many bytes the field needs where so many remain. -/
def Field.needed : Field → Nat → Nat
  | .uint8, _ => 1
  | .uint16, _ => 2
  | .int16, _ => 2
  | .int32, _ => 4
  | .color, _ => 3
  | .take n, _ => n
  | .rest, remaining => remaining

/-- The value that the bytes of a field stand for.  Signed numbers are in two's complement, and the
blue byte of a color comes first. -/
inductive Field.Holds : Field → List UInt8 → Value → Prop where
  | uint8 {bytes : List UInt8} {number : UInt8} (h : number.toNat = littleEndian bytes) :
      Holds .uint8 bytes (.uint8 number)
  | uint16 {bytes : List UInt8} {number : UInt16} (h : number.toNat = littleEndian bytes) :
      Holds .uint16 bytes (.uint16 number)
  | int16 {bytes : List UInt8} {number : Int16}
      (h : number.toInt = (littleEndian bytes : Int).bmod (2 ^ 16)) :
      Holds .int16 bytes (.int16 number)
  | int32 {bytes : List UInt8} {number : Int32}
      (h : number.toInt = (littleEndian bytes : Int).bmod (2 ^ 32)) :
      Holds .int32 bytes (.int32 number)
  | color (red green blue : UInt8) : Holds .color [blue, green, red] (.color ⟨red, green, blue⟩)
  | take (n : Nat) (bytes : List UInt8) : Holds (.take n) bytes (.bytes bytes)
  | rest (bytes : List UInt8) : Holds .rest bytes (.bytes bytes)

/-- The bytes in which a value is written. -/
def Value.toBytes : Value → List UInt8
  | .uint8 number => [number]
  | .uint16 number => LittleEndian.ofNat 2 number.toNat
  | .int16 number => Command.int16Bytes number
  | .int32 number => LittleEndian.ofNat 4 number.toUInt32.toNat
  | .color shade => shade.toWire
  | .bytes taken => taken

end Cursor

/-! ## Readings that take all or nothing -/

namespace Reading

variable {α β : Type}

/-- The reading takes the bytes it needs, or fails and takes none if there are fewer. -/
def AllOrNothing (reading : Reading α) (needed : Nat → Nat) : Prop :=
  ∀ cursor : Cursor, cursor.position ≤ cursor.buffer.length →
    cursor.remaining < needed cursor.remaining ∧
        reading.runFrom cursor = (.error .truncated, cursor) ∨
      needed cursor.remaining ≤ cursor.remaining ∧
        ∃ value, reading.runFrom cursor = (.ok value, cursor.skip (needed cursor.remaining))

theorem runFrom_rest (cursor : Cursor) :
    rest.runFrom cursor = (.ok cursor.unread, ⟨cursor.buffer, cursor.buffer.length⟩) := rfl

namespace AllOrNothing

theorem take (n : Nat) : (Reading.take n).AllOrNothing fun _ => n := by
  intro cursor _
  rw [runFrom_take]
  by_cases hshort : cursor.remaining < n
  · exact .inl ⟨hshort, if_pos hshort⟩
  · exact .inr ⟨Nat.le_of_not_lt hshort, _, if_neg hshort⟩

theorem rest : Reading.rest.AllOrNothing fun remaining => remaining := by
  intro cursor hinside
  have hend : cursor.position + cursor.remaining = cursor.buffer.length :=
    Nat.add_sub_of_le hinside
  refine .inr ⟨le_rfl, cursor.unread, ?_⟩
  rw [runFrom_rest, Cursor.skip, hend]

theorem map
    {reading : Reading α} {needed : Nat → Nat} (hread : reading.AllOrNothing needed)
    (change : α → β) : (reading >>= fun value => pure (change value)).AllOrNothing needed := by
  intro cursor hinside
  rw [runFrom_bind]
  rcases hread cursor hinside with ⟨hshort, hrun⟩ | ⟨hlong, value, hrun⟩
  · rw [hrun]
    exact .inl ⟨hshort, rfl⟩
  · rw [hrun]
    exact .inr ⟨hlong, change value, rfl⟩

end AllOrNothing

theorem recognizes_rest : rest.Recognizes fun bytes field => field = bytes := by
  intro cursor bytes after hrun
  rw [runFrom_rest] at hrun
  cases hrun
  have hend : (⟨cursor.buffer, cursor.buffer.length⟩ : Cursor).unread = [] := List.drop_length
  exact ⟨cursor.unread, rfl, by rw [hend, List.append_nil]⟩

end Reading

namespace Cursor

open Reading

theorem Field.allOrNothing_read (field : Field) : field.read.AllOrNothing field.needed := by
  cases field with
  | uint8 => exact (((AllOrNothing.take 1).map _).map _).map _
  | uint16 => exact (((AllOrNothing.take 2).map _).map _).map _
  | int16 => exact ((((AllOrNothing.take 2).map _).map _).map _).map _
  | int32 => exact (((AllOrNothing.take 4).map _).map _).map _
  | color => exact (((AllOrNothing.take 3).map _).map _).map _
  | take n => exact (AllOrNothing.take n).map _
  | rest => exact AllOrNothing.rest.map _

theorem Field.recognizes_read (field : Field) :
    field.read.Recognizes fun value bytes => field.Holds bytes value ∧ value.toBytes = bytes := by
  cases field with
  | uint8 =>
      refine recognizes_uint8.map ?_
      rintro number _ rfl
      exact ⟨.uint8 Nat.ofDigits_singleton.symm, rfl⟩
  | uint16 =>
      refine recognizes_uint16.map ?_
      rintro number _ rfl
      exact ⟨.uint16 (littleEndian_ofNat number.toNat_lt).symm, rfl⟩
  | int16 =>
      refine recognizes_int16.map ?_
      rintro number _ rfl
      have hbytes : littleEndian (Command.int16Bytes number) = number.toUInt16.toNat :=
        littleEndian_ofNat number.toUInt16.toNat_lt
      refine ⟨.int16 ?_, rfl⟩
      rw [hbytes]
      exact BitVec.toInt_eq_toNat_bmod number.toBitVec
  | int32 =>
      refine recognizes_int32.map ?_
      rintro number _ rfl
      have hbytes : littleEndian (LittleEndian.ofNat 4 number.toUInt32.toNat) =
          number.toUInt32.toNat := littleEndian_ofNat number.toUInt32.toNat_lt
      refine ⟨.int32 ?_, rfl⟩
      rw [hbytes]
      exact BitVec.toInt_eq_toNat_bmod number.toBitVec
  | color =>
      refine recognizes_color.map ?_
      rintro shade _ rfl
      exact ⟨.color shade.red shade.green shade.blue, rfl⟩
  | take n =>
      refine (Recognizes.take n).map ?_
      rintro bytes _ ⟨rfl, -⟩
      exact ⟨.take n _, rfl⟩
  | rest =>
      refine recognizes_rest.map ?_
      rintro bytes _ rfl
      exact ⟨.rest _, rfl⟩

/-- What reading one field does.  Either there are fewer bytes than it needs, and nothing happens,
or it takes them and gives what they stand for. -/
theorem Field.read_cases
    (field : Field) {cursor : Cursor} (hinside : cursor.position ≤ cursor.buffer.length) :
    let needed := field.needed cursor.remaining
    cursor.remaining < needed ∧ field.read.runFrom cursor = (.error .truncated, cursor) ∨
      needed ≤ cursor.remaining ∧ ∃ value,
        field.read.runFrom cursor = (.ok value, cursor.skip needed) ∧
          field.Holds (cursor.unread.take needed) value ∧
          value.toBytes = cursor.unread.take needed := by
  intro needed
  rcases field.allOrNothing_read cursor hinside with ⟨hshort, hrun⟩ | ⟨hlong, value, hrun⟩
  · exact .inl ⟨hshort, hrun⟩
  · obtain ⟨bytes, hbytes, hunread⟩ := field.recognizes_read cursor value _ hrun
    have hsplit : bytes ++ (cursor.skip needed).unread =
        cursor.unread.take needed ++ (cursor.skip needed).unread := by
      rw [← hunread, unread_skip, List.take_append_drop]
    rw [← List.append_cancel_right hsplit]
    exact .inr ⟨hlong, value, hrun, hbytes⟩

/-! ## Runs -/

/-- The bytes of what was read; none if there was too little. -/
def bytesOf : Except FrameError Value → List UInt8
  | .ok value => value.toBytes
  | .error _ => []

/-- Reads one field after the other, also after one that failed. -/
def readAll (cursor : Cursor) : List Field → List (Except FrameError Value) × Cursor
  | [] => ([], cursor)
  | field :: fields =>
    let (outcome, next) := field.read.runFrom cursor
    let (outcomes, last) := readAll next fields
    (outcome :: outcomes, last)

/-- From one cursor to the other, inside the same buffer, exactly these bytes have been read. -/
structure Advances (before : Cursor) (bytes : List UInt8) (after : Cursor) : Prop where
  buffer_eq : after.buffer = before.buffer
  inside : after.position ≤ after.buffer.length
  unread_eq : bytes ++ after.unread = before.unread

namespace Advances

variable {cursor before middle after : Cursor} {bytes more : List UInt8} {n : Nat}

theorem refl (hinside : cursor.position ≤ cursor.buffer.length) : cursor.Advances [] cursor :=
  ⟨rfl, hinside, rfl⟩

theorem trans (hfirst : before.Advances bytes middle) (hsecond : middle.Advances more after) :
    before.Advances (bytes ++ more) after where
  buffer_eq := hsecond.buffer_eq.trans hfirst.buffer_eq
  inside := hsecond.inside
  unread_eq := by
    rw [List.append_assoc, hsecond.unread_eq, hfirst.unread_eq]

theorem skip (hinside : cursor.position ≤ cursor.buffer.length) (hn : n ≤ cursor.remaining) :
    cursor.Advances (cursor.unread.take n) (cursor.skip n) where
  buffer_eq := rfl
  inside := by
    rw [remaining] at hn
    rw [Cursor.skip]
    dsimp only
    omega
  unread_eq := by
    rw [unread_skip, List.take_append_drop]

end Advances

theorem Field.advances
    (field : Field) {cursor : Cursor} (hinside : cursor.position ≤ cursor.buffer.length) :
    let result := field.read.runFrom cursor
    cursor.Advances (bytesOf result.1) result.2 := by
  intro result
  rcases field.read_cases hinside with ⟨-, hrun⟩ | ⟨hlong, value, hrun, -, hbytes⟩
  · have hresult : result = (.error .truncated, cursor) := hrun
    rw [hresult]
    exact .refl hinside
  · have hresult : result = (.ok value, cursor.skip (field.needed cursor.remaining)) := hrun
    rw [hresult, bytesOf, hbytes]
    exact .skip hinside hlong

theorem advances_readAll
    {cursor : Cursor} (hinside : cursor.position ≤ cursor.buffer.length) (fields : List Field) :
    let result := readAll cursor fields
    cursor.Advances (result.1.flatMap bytesOf) result.2 := by
  induction fields generalizing cursor with
  | nil => exact .refl hinside
  | cons field fields ih =>
      have hfield := field.advances hinside
      exact hfield.trans (ih hfield.inside)

end Cursor

/-- Whatever has been read at a cursor, also with failures, it is inside its buffer, and the bytes
read so far with those unread are the buffer.  The next field fails if fewer bytes remain than it
needs, and the cursor stays where it is; otherwise it gives what these bytes stand for, and the
cursor moves behind them.  All bytes that remain can always be read. -/
theorem cursor_reads_exactly (buffer : List UInt8) (fields : List Cursor.Field) :
    let run := Cursor.readAll ⟨buffer, 0⟩ fields
    let cursor := run.2
    let remaining := buffer.length - cursor.position
    cursor.buffer = buffer ∧ cursor.position ≤ buffer.length ∧
      run.1.flatMap Cursor.bytesOf ++ buffer.drop cursor.position = buffer ∧
      (∀ field : Cursor.Field,
        let needed := field.needed remaining
        (remaining < needed → field.read.runFrom cursor = (.error .truncated, cursor)) ∧
        (needed ≤ remaining → ∃ value,
          field.read.runFrom cursor = (.ok value, ⟨buffer, cursor.position + needed⟩) ∧
            field.Holds ((buffer.drop cursor.position).take needed) value)) ∧
      Cursor.Field.rest.read.runFrom cursor =
        (.ok (.bytes (buffer.drop cursor.position)), ⟨buffer, buffer.length⟩) := by
  intro run cursor remaining
  have hrun : Cursor.Advances ⟨buffer, 0⟩ (run.1.flatMap Cursor.bytesOf) cursor :=
    Cursor.advances_readAll (Nat.zero_le _) fields
  have hbuffer : cursor.buffer = buffer := hrun.buffer_eq
  have hremaining : cursor.remaining = remaining := by
    rw [Cursor.remaining, hbuffer]
  have hunread : cursor.unread = buffer.drop cursor.position := by
    rw [Cursor.unread, hbuffer]
  refine ⟨hbuffer, ?_, ?_, ?_, ?_⟩
  · rw [← hbuffer]
    exact hrun.inside
  · rw [← hunread]
    exact hrun.unread_eq
  · intro field needed
    rcases field.read_cases hrun.inside with ⟨hshort, hfailed⟩ | ⟨hlong, value, hread, hvalue, -⟩
    · rw [hremaining] at hshort
      exact ⟨fun _ => hfailed, fun hlong => absurd hshort (Nat.not_lt.2 hlong)⟩
    · rw [hremaining] at hlong
      rw [Cursor.skip, hbuffer, hremaining] at hread
      rw [hunread, hremaining] at hvalue
      exact ⟨fun hshort => absurd hlong (Nat.not_le.2 hshort), fun _ => ⟨value, hread, hvalue⟩⟩
  · rw [Cursor.Field.read, Reading.runFrom_bind, Reading.runFrom_rest, hunread, hbuffer]
    rfl

/-- One byte is left after a number was read and another one failed.  It is too little for a number
of two bytes, and still there for one of one byte. -/
theorem cursor_reads_exactly_after_failure :
    let buffer : List UInt8 := [0x34, 0x12, 0xF6]
    let run := Cursor.readAll ⟨buffer, 0⟩ [.uint16, .int32]
    let cursor := run.2
    run.1.flatMap Cursor.bytesOf ++ [0xF6] = buffer ∧ cursor = ⟨buffer, 2⟩ ∧
      Cursor.Field.int16.read.runFrom cursor = (.error .truncated, cursor) ∧
      ∃ value, Cursor.Field.uint8.read.runFrom cursor = (.ok value, ⟨buffer, 3⟩) ∧
        Cursor.Field.uint8.Holds [0xF6] value := by
  intro buffer run cursor
  obtain ⟨-, -, hbytes, hfield, -⟩ := cursor_reads_exactly buffer [.uint16, .int32]
  exact ⟨hbytes, rfl, (hfield .int16).1 (by decide), (hfield .uint8).2 (by decide)⟩

end PanelLink
