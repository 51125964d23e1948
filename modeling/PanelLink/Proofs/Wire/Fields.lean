import PanelLink.Proofs.Raster.InRange
import PanelLink.Proofs.Wire.Spelling

/-!
# Fields of a payload

Where the fields of a command stand in a payload, and how many bytes they take.  A payload that has
these bytes is read as the command with these fields, whatever stands behind them, and a shorter
one is truncated.
-/

namespace PanelLink

/-! ## Readings by what is unread -/

def Cursor.skip (cursor : Cursor) (n : Nat) : Cursor :=
  { cursor with position := cursor.position + n }

theorem Cursor.unread_skip (cursor : Cursor) (n : Nat) :
    (cursor.skip n).unread = cursor.unread.drop n :=
  List.drop_drop.symm

theorem Cursor.skip_skip (cursor : Cursor) (n more : Nat) :
    (cursor.skip n).skip more = cursor.skip (n + more) := by
  rw [skip, skip, skip, Nat.add_assoc]

namespace Reading

variable {α β : Type}

/-- What is unread says how many bytes the reading needs and what it gives.  Where there are fewer
bytes it fails. -/
structure Reads (reading : Reading α) (needed : List UInt8 → Nat) (value : List UInt8 → α) :
    Prop where
  of_short : ∀ cursor : Cursor, cursor.unread.length < needed cursor.unread →
    (reading.runFrom cursor).1 = .error .truncated
  of_long : ∀ cursor : Cursor, needed cursor.unread ≤ cursor.unread.length →
    reading.runFrom cursor = (.ok (value cursor.unread), cursor.skip (needed cursor.unread))

namespace Reads

variable {reading : Reading α} {needed : List UInt8 → Nat} {value : List UInt8 → α}

theorem congr
    {needed' : List UInt8 → Nat} {value' : List UInt8 → α} (hread : reading.Reads needed value)
    (hneeded : ∀ bytes, needed' bytes = needed bytes)
    (hvalue : ∀ bytes, needed bytes ≤ bytes.length → value' bytes = value bytes) :
    reading.Reads needed' value' where
  of_short cursor hshort := hread.of_short cursor (by rwa [hneeded] at hshort)
  of_long cursor hlong := by
    rw [hneeded] at hlong ⊢
    rw [hvalue _ hlong]
    exact hread.of_long cursor hlong

theorem pure (result : α) : (pure result : Reading α).Reads (fun _ => 0) fun _ => result where
  of_short _ hshort := absurd hshort (Nat.not_lt_zero _)
  of_long _ _ := rfl

theorem take (n : Nat) : (Reading.take n).Reads (fun _ => n) fun bytes => bytes.take n where
  of_short cursor hshort := by
    rw [Cursor.unread, List.length_drop] at hshort
    rw [runFrom_take, Cursor.remaining, if_pos hshort]
  of_long cursor hlong := by
    rw [Cursor.unread, List.length_drop] at hlong
    rw [runFrom_take, Cursor.remaining, if_neg (Nat.not_lt.2 hlong), Cursor.skip]

theorem bind
    {rest : α → Reading β} {needed' : α → List UInt8 → Nat} {value' : α → List UInt8 → β}
    (hread : reading.Reads needed value)
    (hrest : ∀ result, (rest result).Reads (needed' result) (value' result)) :
    (reading >>= rest).Reads
      (fun bytes => needed bytes + needed' (value bytes) (bytes.drop (needed bytes)))
      fun bytes => value' (value bytes) (bytes.drop (needed bytes)) where
  of_short cursor hshort := by
    rw [runFrom_bind]
    by_cases hfirst : cursor.unread.length < needed cursor.unread
    · have hfailed := hread.of_short cursor hfirst
      rcases hrun : reading.runFrom cursor with ⟨(failure | result), after⟩
      · rw [hrun, Except.error.injEq] at hfailed
        rw [← hfailed]
      · rw [hrun] at hfailed
        contradiction
    · rw [hread.of_long cursor (Nat.not_lt.1 hfirst)]
      apply (hrest _).of_short
      rw [Cursor.unread_skip, List.length_drop]
      omega
  of_long cursor hlong := by
    have hlast := (hrest (value cursor.unread)).of_long (cursor.skip (needed cursor.unread))
    rw [Cursor.unread_skip, List.length_drop, Cursor.skip_skip] at hlast
    rw [runFrom_bind, hread.of_long cursor (by omega)]
    exact hlast (by omega)

theorem decode_eq (hread : reading.Reads needed value) (bytes : List UInt8) :
    reading.decode bytes =
      if needed bytes ≤ bytes.length then .ok (value bytes) else .error .truncated := by
  by_cases hlong : needed bytes ≤ bytes.length
  · rw [if_pos hlong, decode, hread.of_long ⟨bytes, 0⟩ hlong]
    rfl
  · rw [if_neg hlong]
    exact hread.of_short ⟨bytes, 0⟩ (Nat.not_le.1 hlong)

end Reads

end Reading

/-! ## Numbers and colors at a place -/

namespace Command

def byteAt (payload : List UInt8) (place : Nat) : UInt8 :=
  payload.getD place 0

def signedAt (payload : List UInt8) (place : Nat) : Int16 :=
  (word payload place).toInt16

/-- The blue byte comes first. -/
def colorAt (payload : List UInt8) (place : Nat) : Color :=
  ⟨byteAt payload (place + 2), byteAt payload (place + 1), byteAt payload place⟩

/-- The number -1 stands for transparency; of any other number the upper byte is no part of the
color. -/
def backdropAt (payload : List UInt8) (place : Nat) : Backdrop :=
  if (payload.drop place).take 4 = [0xFF, 0xFF, 0xFF, 0xFF] then .transparent
  else .solid (colorAt payload place)

def cornersAt (payload : List UInt8) (place : Nat) : Corners :=
  ⟨signedAt payload place, signedAt payload (place + 2), signedAt payload (place + 4),
    signedAt payload (place + 6)⟩

variable {payload : List UInt8} {place places : Nat}

theorem word_drop : word (payload.drop places) place = word payload (places + place) := by
  rw [word, word, List.drop_drop]

theorem byteAt_drop : byteAt (payload.drop places) place = byteAt payload (places + place) := by
  rw [byteAt, byteAt, List.getD_eq_getElem?_getD, List.getElem?_drop,
    ← List.getD_eq_getElem?_getD]

theorem colorAt_drop : colorAt (payload.drop places) place = colorAt payload (places + place) := by
  rw [colorAt, byteAt_drop, byteAt_drop, byteAt_drop]
  rfl

theorem backdropAt_drop :
    backdropAt (payload.drop places) place = backdropAt payload (places + place) := by
  rw [backdropAt, backdropAt, colorAt_drop, List.drop_drop]

end Command

theorem exists_bytes {n : Nat} {bytes : List UInt8} (hlong : n + 1 ≤ bytes.length) :
    ∃ byte rest, bytes = byte :: rest ∧ n ≤ rest.length := by
  cases bytes with
  | nil => contradiction
  | cons byte rest => exact ⟨byte, rest, rfl, Nat.le_of_succ_le_succ hlong⟩

namespace Reading

theorem reads_nat (width : Nat) :
    (nat width).Reads (fun _ => width) fun bytes => LittleEndian.toNat (bytes.take width) :=
  (Reads.take width).bind fun bytes => .pure (LittleEndian.toNat bytes)

theorem reads_uint8 : uint8.Reads (fun _ => 1) fun bytes => Command.byteAt bytes 0 := by
  apply ((reads_nat 1).bind fun n => .pure (UInt8.ofNat n)).congr (fun _ => rfl)
  intro bytes hlong
  obtain ⟨byte, rest, rfl, -⟩ := exists_bytes hlong
  have hbyte : UInt8.ofNat (byte.toNat + 256 * 0) = byte := UInt8.ofNat_toNat
  exact hbyte.symm

theorem reads_uint16 : uint16.Reads (fun _ => 2) fun bytes => Command.word bytes 0 :=
  (reads_nat 2).bind fun n => .pure (UInt16.ofNat n)

theorem reads_int16 : int16.Reads (fun _ => 2) fun bytes => Command.signedAt bytes 0 :=
  reads_uint16.bind fun number => .pure number.toInt16

theorem reads_color : color.Reads (fun _ => 3) fun bytes => Command.colorAt bytes 0 := by
  apply ((reads_nat 3).bind fun n => .pure (Color.ofRgb24 (UInt32.ofNat n))).congr (fun _ => rfl)
  intro bytes hlong
  obtain ⟨blue, _, rfl, htwo⟩ := exists_bytes hlong
  obtain ⟨green, _, rfl, hone⟩ := exists_bytes htwo
  obtain ⟨red, _, rfl, -⟩ := exists_bytes hone
  have hnone : ([] : List UInt8).length ≤ 1 := Nat.zero_le 1
  exact (Color.ofRgb24_toNat blue green red hnone).symm

theorem reads_int32 :
    int32.Reads (fun _ => 4) fun bytes =>
      (UInt32.ofNat (LittleEndian.toNat (bytes.take 4))).toInt32 :=
  (reads_nat 4).bind fun n => .pure (UInt32.ofNat n).toInt32

end Reading

theorem Backdrop.ofWire_eq_backdropAt {bytes : List UInt8} (hlong : 4 ≤ bytes.length) :
    ofWire (UInt32.ofNat (LittleEndian.toNat (bytes.take 4))).toInt32 =
      Command.backdropAt bytes 0 := by
  obtain ⟨blue, _, rfl, hthree⟩ := exists_bytes hlong
  obtain ⟨green, _, rfl, htwo⟩ := exists_bytes hthree
  obtain ⟨red, _, rfl, hone⟩ := exists_bytes htwo
  obtain ⟨above, _, rfl, -⟩ := exists_bytes hone
  let field := [blue, green, red, above]
  have hones : (UInt32.ofNat (LittleEndian.toNat field)).toInt32 = -1 ↔
      field = [0xFF, 0xFF, 0xFF, 0xFF] := by
    constructor
    · intro hnumber
      have hunsigned := congrArg (fun number => number.toUInt32.toNat) hnumber
      have hfits : LittleEndian.toNat field < 256 ^ 4 := LittleEndian.toNat_lt field
      have hsmall : LittleEndian.toNat field < 2 ^ 32 := hfits
      simp only [UInt32.toUInt32_toInt32, UInt32.toNat_ofNat', Nat.mod_eq_of_lt hsmall]
        at hunsigned
      exact (LittleEndian.ofNat_toNat field).symm.trans (congrArg (LittleEndian.ofNat 4) hunsigned)
    · intro hfield
      rw [hfield]
      rfl
  have hcolor : Color.ofRgb24 (UInt32.ofNat (LittleEndian.toNat field)) = ⟨red, green, blue⟩ :=
    Color.ofRgb24_toNat blue green red (Nat.le_refl 1)
  change ofWire (UInt32.ofNat (LittleEndian.toNat field)).toInt32 =
    if field = [0xFF, 0xFF, 0xFF, 0xFF] then .transparent else .solid ⟨red, green, blue⟩
  rw [ofWire, UInt32.toUInt32_toInt32, hcolor]
  simp only [hones]

/-! ## Commands at the start of a payload -/

namespace Command

open Reading

/-- The command whose fields stand where the layout has them. -/
def fieldsAt (payload : List UInt8) : CommandCode → Command
  | .fillRect => .fillRect (cornersAt payload 0) (colorAt payload 8)
  | .drawBitmap =>
    let width := word payload 4
    let height := word payload 6
    .drawBitmap (signedAt payload 0) (signedAt payload 2) (byteAt payload 8) (colorAt payload 9)
      (backdropAt payload 12)
      ⟨width, height, ((payload.drop 16).take ((width.toNat * height.toNat + 7) / 8)).toArray⟩
  | .blitBuffer =>
    let corners := cornersAt payload 0
    .blitBuffer corners ((payload.drop 8).take
      (((corners.x2.toInt - corners.x1.toInt).natAbs + 1) *
        ((corners.y2.toInt - corners.y1.toInt).natAbs + 1) * 3)).toArray
  | .scrollBuffer => .scroll (signedAt payload 0)
  | .executeOpaque => .execute payload

/-- How many bytes a payload must have.  Nothing is asked of one that is opaque. -/
def neededLength (payload : List UInt8) : CommandCode → Nat
  | .executeOpaque => 0
  | code => layoutLength payload code

theorem signedAt_drop {payload : List UInt8} {place places : Nat} :
    signedAt (payload.drop places) place = signedAt payload (places + place) := by
  rw [signedAt, word_drop, signedAt]

theorem reads_corners : readCorners.Reads (fun _ => 8) fun payload => cornersAt payload 0 := by
  have hread := reads_int16.bind fun x1 => reads_int16.bind fun y1 => reads_int16.bind fun x2 =>
    reads_int16.bind fun y2 => Reads.pure (⟨x1, y1, x2, y2⟩ : Corners)
  apply hread.congr (fun _ => rfl)
  intro payload _
  simp only [signedAt_drop, Nat.add_zero]
  rfl

theorem reads_layout {code : CommandCode} (hcode : code ≠ .executeOpaque) :
    (layout code).Reads (fun payload => neededLength payload code)
      fun payload => fieldsAt payload code := by
  cases code with
  | fillRect =>
      have hread := reads_corners.bind fun corners => reads_color.bind fun color =>
        Reads.pure (Command.fillRect corners color)
      apply hread.congr (fun _ => rfl)
      intro payload _
      simp only [colorAt_drop, Nat.add_zero]
      rfl
  | drawBitmap =>
      have hread := reads_int16.bind fun x => reads_int16.bind fun y =>
        reads_uint16.bind fun width => reads_uint16.bind fun height =>
        reads_uint8.bind fun scale => reads_color.bind fun foreground =>
        reads_int32.bind fun number =>
        (Reads.take (Bitmap.byteLength width height)).bind fun bits =>
        Reads.pure (Command.drawBitmap x y scale foreground (Backdrop.ofWire number)
          ⟨width, height, bits.toArray⟩)
      rw [layout, readDrawBitmap_eq]
      apply hread.congr
      · intro payload
        have hneeded : neededLength payload .drawBitmap =
            16 + Bitmap.byteLength (word payload 4) (word payload 6) := rfl
        simp only [word_drop, Nat.add_zero, Nat.reduceAdd]
        omega
      · intro payload hlong
        simp only [word_drop, byteAt_drop, signedAt_drop, colorAt_drop, List.drop_drop,
          Nat.add_zero, Nat.reduceAdd] at hlong ⊢
        have hnumber : 4 ≤ (payload.drop 12).length := by
          rw [List.length_drop]
          omega
        rw [Backdrop.ofWire_eq_backdropAt hnumber, backdropAt_drop]
        rfl
  | blitBuffer =>
      have hread := reads_corners.bind fun corners =>
        (Reads.take (corners.pixelCount * 3)).bind fun pixels =>
        Reads.pure (Command.blitBuffer corners pixels.toArray)
      apply hread.congr (fun _ => rfl)
      intro payload _
      rfl
  | scrollBuffer => exact reads_int16.bind fun lines => Reads.pure (Command.scroll lines)
  | executeOpaque => contradiction

theorem ofFrame_eq (frame : Frame) :
    ofFrame frame =
      if neededLength frame.payload frame.code ≤ frame.payload.length then
        .ok (fieldsAt frame.payload frame.code)
      else .error .truncated := by
  rw [ofFrame]
  generalize frame.payload = payload
  by_cases hcode : frame.code = .executeOpaque
  · rw [hcode]
    exact (if_pos (Nat.zero_le _)).symm
  · exact (reads_layout hcode).decode_eq payload

/-! ## Payloads with the same start -/

section Start

variable {payload other : List UInt8} {n place width : Nat}

theorem take_drop_congr
    (hstart : other.take n = payload.take n) (hplace : place + width ≤ n) :
    (other.drop place).take width = (payload.drop place).take width := by
  have hfield := congrArg (fun bytes => (bytes.drop place).take width) hstart
  have hwidth : min width (n - place) = width := by omega
  simpa only [List.drop_take, List.take_take, hwidth] using hfield

theorem word_congr (hstart : other.take n = payload.take n) (hplace : place + 2 ≤ n) :
    word other place = word payload place := by
  rw [word, word, take_drop_congr hstart hplace]

theorem signedAt_congr (hstart : other.take n = payload.take n) (hplace : place + 2 ≤ n) :
    signedAt other place = signedAt payload place := by
  rw [signedAt, signedAt, word_congr hstart hplace]

theorem byteAt_congr (hstart : other.take n = payload.take n) (hplace : place + 1 ≤ n) :
    byteAt other place = byteAt payload place := by
  have hbyte := congrArg (fun bytes => bytes[place]?) hstart
  simp only [List.getElem?_take_of_lt (Nat.lt_of_succ_le hplace)] at hbyte
  rw [byteAt, byteAt, List.getD_eq_getElem?_getD, List.getD_eq_getElem?_getD, hbyte]

theorem colorAt_congr (hstart : other.take n = payload.take n) (hplace : place + 3 ≤ n) :
    colorAt other place = colorAt payload place := by
  rw [colorAt, colorAt, byteAt_congr hstart (by omega), byteAt_congr hstart (by omega),
    byteAt_congr hstart (by omega)]

theorem backdropAt_congr (hstart : other.take n = payload.take n) (hplace : place + 4 ≤ n) :
    backdropAt other place = backdropAt payload place := by
  rw [backdropAt, backdropAt, take_drop_congr hstart hplace, colorAt_congr hstart (by omega)]

theorem cornersAt_congr (hstart : other.take n = payload.take n) (hplace : place + 8 ≤ n) :
    cornersAt other place = cornersAt payload place := by
  rw [cornersAt, cornersAt, signedAt_congr hstart (by omega), signedAt_congr hstart (by omega),
    signedAt_congr hstart (by omega), signedAt_congr hstart (by omega)]

end Start

/-- The bytes that are needed say how many they are, and what the command is. -/
theorem fieldsAt_congr
    {payload other : List UInt8} {code : CommandCode} (hcode : code ≠ .executeOpaque)
    (hstart : other.take (neededLength payload code) = payload.take (neededLength payload code)) :
    neededLength other code = neededLength payload code ∧
      fieldsAt other code = fieldsAt payload code := by
  cases code with
  | fillRect =>
      have hneeded : neededLength payload .fillRect = 11 := rfl
      rw [fieldsAt, fieldsAt, cornersAt_congr hstart (by omega), colorAt_congr hstart (by omega)]
      exact ⟨rfl, rfl⟩
  | drawBitmap =>
      have hneeded : neededLength payload .drawBitmap =
        16 + ((word payload 4).toNat * (word payload 6).toNat + 7) / 8 := rfl
      have hwidth : word other 4 = word payload 4 := word_congr hstart (by omega)
      have hheight : word other 6 = word payload 6 := word_congr hstart (by omega)
      have hneeded' : neededLength other .drawBitmap = neededLength payload .drawBitmap := by
        rw [hneeded, ← hwidth, ← hheight]
        rfl
      rw [fieldsAt, fieldsAt, signedAt_congr hstart (by omega), signedAt_congr hstart (by omega),
        byteAt_congr hstart (by omega), colorAt_congr hstart (by omega),
        backdropAt_congr hstart (by omega), hwidth, hheight,
        take_drop_congr hstart (Nat.le_of_eq hneeded.symm)]
      exact ⟨hneeded', rfl⟩
  | blitBuffer =>
      have hneeded : neededLength payload .blitBuffer =
        8 + (((cornersAt payload 0).x2.toInt - (cornersAt payload 0).x1.toInt).natAbs + 1) *
          (((cornersAt payload 0).y2.toInt - (cornersAt payload 0).y1.toInt).natAbs + 1) * 3 := rfl
      have hcorners : cornersAt other 0 = cornersAt payload 0 := cornersAt_congr hstart (by omega)
      have hneeded' : neededLength other .blitBuffer = neededLength payload .blitBuffer := by
        rw [hneeded, ← hcorners]
        rfl
      rw [fieldsAt, fieldsAt, hcorners, take_drop_congr hstart (Nat.le_of_eq hneeded.symm)]
      exact ⟨hneeded', rfl⟩
  | scrollBuffer =>
      have hneeded : neededLength payload .scrollBuffer = 2 := rfl
      rw [fieldsAt, fieldsAt, signedAt_congr hstart (by omega)]
      exact ⟨rfl, rfl⟩
  | executeOpaque => contradiction

theorem ofFrame_congr
    {frame other : Frame} (hcode : frame.code ≠ .executeOpaque) (hsame : other.code = frame.code)
    (hstart : other.payload.take (neededLength frame.payload frame.code) =
      frame.payload.take (neededLength frame.payload frame.code)) :
    ofFrame other = ofFrame frame := by
  obtain ⟨hneeded, hfields⟩ := fieldsAt_congr hcode hstart
  have hlength := congrArg List.length hstart
  rw [List.length_take, List.length_take] at hlength
  have hlong : neededLength frame.payload frame.code ≤ other.payload.length ↔
      neededLength frame.payload frame.code ≤ frame.payload.length := by
    omega
  rw [ofFrame_eq, ofFrame_eq, hsame, hneeded, hfields]
  simp only [hlong]

end Command

/-! ## Guarded sizes -/

namespace Guarded

/-- Bytes for so many bits: the whole ones, and one more for what is left over. -/
def byteLength (width height : UInt16) : Except Fault Nat := do
  let bits ← uint64 (width.toNat * height.toNat)
  if bits % 8 > 0 then uint64 (bits / 8 + 1) else return bits / 8

def span (first last : Int16) : Except Fault Nat := do
  let distance ← int32 (last.toInt - first.toInt)
  uint64 ((← uint32 distance.natAbs) + 1)

def pixelBytes (corners : Corners) : Except Fault Nat := do
  let width ← span corners.x1 corners.x2
  let height ← span corners.y1 corners.y2
  uint64 ((← uint64 (width * height)) * 3)

theorem byteLength_eq (width height : UInt16) :
    byteLength width height = .ok (Bitmap.byteLength width height) := by
  have hwidth := width.toNat_lt
  have hheight := height.toNat_lt
  have hbits : width.toNat * height.toNat ≤ 65535 * 65535 :=
    Nat.mul_le_mul (by omega) (by omega)
  rw [byteLength, uint64_eq (by omega), ok_bind, Bitmap.byteLength]
  split
  next hrest =>
    rw [uint64_eq (by omega), Except.ok.injEq]
    omega
  next hwhole =>
    change Except.ok _ = _
    rw [Except.ok.injEq]
    omega

theorem span_eq (first last : Int16) :
    span first last = .ok ((last.toInt - first.toInt).natAbs + 1) := by
  have hfirst := natAbs_toInt_le first
  have hlast := natAbs_toInt_le last
  rw [span, int32_eq (by omega) (by omega), ok_bind, uint32_eq (by omega), ok_bind,
    uint64_eq (by omega)]

theorem pixelBytes_eq (corners : Corners) :
    pixelBytes corners = .ok (corners.pixelCount * 3) := by
  have hspan : ∀ first last : Int16, (last.toInt - first.toInt).natAbs + 1 ≤ 65537 := by
    intro first last
    have hfirst := natAbs_toInt_le first
    have hlast := natAbs_toInt_le last
    omega
  have hpixels : corners.pixelCount ≤ 65537 * 65537 := Nat.mul_le_mul (hspan _ _) (hspan _ _)
  rw [pixelBytes, span_eq, ok_bind, span_eq, ok_bind, ← Corners.pixelCount, uint64_eq (by omega),
    ok_bind, uint64_eq (by omega)]

end Guarded

/-- A payload is read exactly if it has the bytes that its layout needs, and then each field is the
one that stands at its place; otherwise it is truncated.  Except in an opaque payload nothing behind
these bytes matters.  How many bits and pixels are needed is reckoned without leaving 64 bits. -/
theorem payload_read_by_layout :
    (∀ frame : Frame, Command.ofFrame frame =
      if Command.neededLength frame.payload frame.code ≤ frame.payload.length then
        .ok (Command.fieldsAt frame.payload frame.code)
      else .error .truncated) ∧
    (∀ frame other : Frame, frame.code ≠ .executeOpaque → other.code = frame.code →
      other.payload.take (Command.neededLength frame.payload frame.code) =
          frame.payload.take (Command.neededLength frame.payload frame.code) →
        Command.ofFrame other = Command.ofFrame frame) ∧
    (∀ width height : UInt16,
      Guarded.byteLength width height = .ok (Bitmap.byteLength width height)) ∧
    ∀ corners : Corners, Guarded.pixelBytes corners = .ok (corners.pixelCount * 3) :=
  ⟨Command.ofFrame_eq, fun _ _ => Command.ofFrame_congr, Guarded.byteLength_eq,
    Guarded.pixelBytes_eq⟩

/-- A bitmap of four by three pixels with a byte behind its bits is read as without it, and without
its last byte it is truncated.  The widest buffer needs three times 2^32 bytes. -/
theorem payload_read_by_layout_cut :
    let fields : List UInt8 :=
      [0xFD, 0xFF, 7, 0, 4, 0, 3, 0, 2, 1, 2, 3, 0xFF, 0xFF, 0xFF, 0xFF, 0xA0, 0xFF]
    let widest : Corners := ⟨-32768, -32768, 32767, 32767⟩
    ∃ frame other cut, Frame.build .drawBitmap fields = .ok frame ∧
      Frame.build .drawBitmap (fields ++ [9]) = .ok other ∧
      Frame.build .drawBitmap fields.dropLast = .ok cut ∧
      Command.ofFrame frame =
        .ok (.drawBitmap (-3) 7 2 ⟨3, 2, 1⟩ .transparent ⟨4, 3, #[0xA0, 0xFF]⟩) ∧
      Command.ofFrame other = Command.ofFrame frame ∧
      Command.ofFrame cut = .error .truncated ∧
      Guarded.pixelBytes widest = .ok 12884901888 := by
  intro fields widest
  obtain ⟨frame, hbuild⟩ : ∃ frame, Frame.build .drawBitmap fields = .ok frame := ⟨_, rfl⟩
  obtain ⟨other, hother⟩ : ∃ other, Frame.build .drawBitmap (fields ++ [9]) = .ok other :=
    ⟨_, rfl⟩
  obtain ⟨cut, hcut⟩ : ∃ cut, Frame.build .drawBitmap fields.dropLast = .ok cut := ⟨_, rfl⟩
  obtain ⟨hread, hsame, -, hpixels⟩ := payload_read_by_layout
  have hpayload := Frame.payload_of_build_eq_ok hbuild
  have hpayload' := Frame.payload_of_build_eq_ok hother
  have hcode : frame.code = .drawBitmap := by rw [(Frame.build_eq_ok_iff.1 hbuild).2]
  have hcode' : other.code = .drawBitmap := by rw [(Frame.build_eq_ok_iff.1 hother).2]
  have hcode'' : cut.code = .drawBitmap := by rw [(Frame.build_eq_ok_iff.1 hcut).2]
  refine ⟨frame, other, cut, hbuild, hother, hcut, ?_, hsame frame other ?_ ?_ ?_, ?_,
    (hpixels widest).trans (by decide)⟩
  · rw [hread, hpayload, hcode]
    decide
  · rw [hcode]
    decide
  · rw [hcode', hcode]
  · rw [hpayload, hpayload', hcode]
    decide
  · rw [hread, Frame.payload_of_build_eq_ok hcut, hcode'']
    decide

end PanelLink
