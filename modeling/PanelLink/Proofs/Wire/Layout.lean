import Mathlib.Tactic
import PanelLink.Proofs.Wire.RoundTrip
import PanelLink.Wire.Command

/-!
# Commands through frames

A layout takes one field after the other, so it reads back what was written field by
field.  Only the bits and pixels at the end may be of another number than the fields
before them ask for.
-/

namespace PanelLink

/-- The three low bytes are a color, blue first, whatever the byte above them is. -/
theorem Color.ofRgb24_toNat
    (blue green red : UInt8) {above : List UInt8} (habove : above.length ≤ 1) :
    ofRgb24 (UInt32.ofNat (LittleEndian.toNat (blue :: green :: red :: above))) =
      ⟨red, green, blue⟩ := by
  have hblue := blue.toNat_lt
  have hgreen := green.toNat_lt
  have hred := red.toNat_lt
  have hupper : LittleEndian.toNat above < 256 :=
    (LittleEndian.toNat_lt above).trans_le (Nat.pow_le_pow_right (by omega) habove)
  simp only [ofRgb24, LittleEndian.toNat, mk.injEq, ← UInt8.toNat_inj, UInt8.toNat_ofNat',
    UInt32.toNat_ofNat']
  omega

theorem Bitmap.ofBits_of_size_eq
    {width height : UInt16} {bits : Array UInt8} (hsize : bits.size = byteLength width height) :
    ofBits width height bits = .ok ⟨width, height, bits⟩ := by
  rw [ofBits, if_neg (Nat.not_lt.mpr hsize.ge), ← hsize]
  simp

namespace Reading

variable {α β : Type}

theorem ext {reading other : Reading α}
    (hrun : ∀ cursor, reading.runFrom cursor = other.runFrom cursor) : reading = other :=
  funext hrun

theorem runFrom_bind (reading : Reading α) (next : α → Reading β) (cursor : Cursor) :
    (reading >>= next).runFrom cursor =
      match reading.runFrom cursor with
      | (.ok value, middle) => (next value).runFrom middle
      | (.error failure, middle) => (.error failure, middle) := by
  simp only [runFrom, ExceptT.run_bind, StateT.run_bind]
  rcases (StateT.run (ExceptT.run reading) cursor : Except FrameError α × Cursor) with
    ⟨(failure | value), middle⟩
  · rfl
  · rfl

theorem runFrom_take (n : Nat) (cursor : Cursor) :
    (take n).runFrom cursor =
      if cursor.remaining < n then (.error .truncated, cursor)
      else (.ok (cursor.unread.take n), { cursor with position := cursor.position + n }) := by
  have hget : (get : Reading Cursor).runFrom cursor = (.ok cursor, cursor) := rfl
  rw [take, runFrom_bind, hget]
  dsimp only
  split
  next => rfl
  next => rfl

/-- The size of the bits is checked again once they have been taken, and this check cannot fail. -/
theorem take_bind_ofBits (width height : UInt16) (next : Bitmap → Reading α) :
    (do
      let bits ← take (Bitmap.byteLength width height)
      let bitmap ← liftExcept (Bitmap.ofBits width height bits.toArray)
      next bitmap) =
    (do
      let bits ← take (Bitmap.byteLength width height)
      next ⟨width, height, bits.toArray⟩) := by
  apply Reading.ext
  intro cursor
  rw [runFrom_bind, runFrom_bind, runFrom_take]
  by_cases hshort : cursor.remaining < Bitmap.byteLength width height
  · rw [if_pos hshort]
  · have hsize : (cursor.unread.take (Bitmap.byteLength width height)).toArray.size =
        Bitmap.byteLength width height := by
      rw [Cursor.remaining] at hshort
      rw [List.size_toArray, List.length_take, Cursor.unread, List.length_drop]
      omega
    rw [if_neg hshort]
    dsimp only
    rw [Bitmap.ofBits_of_size_eq hsize]
    rfl

/-- From the start of a field on, the reading takes that field and goes on like the other one. -/
def Consumes (reading : Reading α) (field : List UInt8) (next : Reading α) : Prop :=
  ∀ before after,
    reading.runFrom ⟨before ++ (field ++ after), before.length⟩ =
      next.runFrom ⟨before ++ field ++ after, (before ++ field).length⟩

namespace Consumes

theorem bind
    {reading : Reading α} {rest : α → Reading β} {value : α} {field : List UInt8}
    (hread : reading.Consumes field (pure value)) :
    (reading >>= rest).Consumes field (rest value) := by
  intro before after
  rw [runFrom_bind, hread]
  rfl

theorem trans
    {reading next last : Reading α} {field more : List UInt8}
    (hread : reading.Consumes field next) (hnext : next.Consumes more last) :
    reading.Consumes (field ++ more) last := by
  intro before after
  have hfirst := hread before (more ++ after)
  have hsecond := hnext (before ++ field) after
  simp only [List.append_assoc] at hfirst hsecond ⊢
  rw [hfirst, hsecond]

theorem take (field : List UInt8) :
    (Reading.take field.length).Consumes field (pure field) := by
  intro before after
  rw [runFrom_take, if_neg]
  · simp only [Cursor.unread, List.drop_left, List.take_left, List.length_append,
      List.append_assoc]
    rfl
  · simp only [Cursor.remaining, List.length_append]
    omega

end Consumes

theorem Consumes.decode_eq_ok
    {reading : Reading α} {field : List UInt8} {value : α}
    (hread : reading.Consumes field (pure value)) : reading.decode field = .ok value := by
  have hrun := hread [] []
  rw [List.nil_append, List.append_nil, List.length_nil] at hrun
  rw [decode, hrun]
  rfl

/-- What a layout does that ends in bytes of a known number, when other bytes stand there. -/
theorem Consumes.decode_take
    {reading : Reading α} {field : List UInt8} {n : Nat} {finish : List UInt8 → α}
    (hread : reading.Consumes field (Reading.take n >>= fun bytes => pure (finish bytes)))
    (bytes : List UInt8) :
    reading.decode (field ++ bytes) =
      if bytes.length < n then .error .truncated else .ok (finish (bytes.take n)) := by
  have hrun := hread [] bytes
  have hremaining : (⟨field ++ bytes, field.length⟩ : Cursor).remaining = bytes.length := by
    simp only [Cursor.remaining, List.length_append, Nat.add_sub_cancel_left]
  have hunread : (⟨field ++ bytes, field.length⟩ : Cursor).unread = bytes := List.drop_left
  rw [List.nil_append, List.nil_append, List.length_nil, runFrom_bind, runFrom_take,
    hremaining, hunread] at hrun
  rw [decode, hrun]
  by_cases hshort : bytes.length < n
  · rw [if_pos hshort, if_pos hshort]
  · rw [if_neg hshort, if_neg hshort]
    rfl

/-- Whatever the reading gives has the property. -/
def Ensures (reading : Reading α) (property : α → Prop) : Prop :=
  ∀ cursor value, (reading.runFrom cursor).1 = .ok value → property value

namespace Ensures

theorem pure {property : α → Prop} {value : α} (hvalue : property value) :
    (pure value : Reading α).Ensures property := by
  intro cursor other hother
  cases hother
  exact hvalue

theorem bind
    {reading : Reading α} {rest : α → Reading β} {property : α → Prop} {property' : β → Prop}
    (hread : reading.Ensures property)
    (hrest : ∀ value, property value → (rest value).Ensures property') :
    (reading >>= rest).Ensures property' := by
  intro cursor result hresult
  rw [runFrom_bind] at hresult
  split at hresult
  next value middle hrun =>
    exact hrest value (hread cursor value (by rw [hrun])) middle result hresult
  next => contradiction

theorem skip
    {reading : Reading α} {rest : α → Reading β} {property : β → Prop}
    (hrest : ∀ value, (rest value).Ensures property) : (reading >>= rest).Ensures property :=
  bind (fun _ _ _ => True.intro) fun value (_ : True) => hrest value

theorem take (n : Nat) : (Reading.take n).Ensures fun bytes => bytes.length = n := by
  intro cursor bytes hbytes
  rw [runFrom_take] at hbytes
  split at hbytes
  next => contradiction
  next hlong =>
    cases hbytes
    rw [List.length_take, Cursor.unread, List.length_drop]
    rw [Cursor.remaining] at hlong
    omega

theorem of_decode
    {reading : Reading α} {property : α → Prop} {bytes : List UInt8} {value : α}
    (hread : reading.Ensures property) (hdecode : reading.decode bytes = .ok value) :
    property value :=
  hread _ _ hdecode

end Ensures

open LittleEndian

theorem consumes_nat (field : List UInt8) :
    (nat field.length).Consumes field (pure (toNat field)) :=
  (Consumes.take field).bind

theorem consumes_nat_ofNat {width n : Nat} (hn : n < 256 ^ width) :
    (nat width).Consumes (ofNat width n) (pure n) := by
  have hread := consumes_nat (ofNat width n)
  rwa [length_ofNat, toNat_ofNat, Nat.mod_eq_of_lt hn] at hread

theorem consumes_uint8 (number : UInt8) : uint8.Consumes [number] (pure number) := by
  have hread : uint8.Consumes [number] (pure (UInt8.ofNat (toNat [number]))) :=
    (consumes_nat [number]).bind
  rwa [show UInt8.ofNat (toNat [number]) = number by simp [LittleEndian.toNat]] at hread

theorem consumes_uint16 (number : UInt16) :
    uint16.Consumes (ofNat 2 number.toNat) (pure number) := by
  have hread : uint16.Consumes (ofNat 2 number.toNat) (pure (UInt16.ofNat number.toNat)) :=
    (consumes_nat_ofNat number.toNat_lt).bind
  rwa [UInt16.ofNat_toNat] at hread

theorem consumes_int16 (number : Int16) :
    int16.Consumes (Command.int16Bytes number) (pure number) :=
  (consumes_uint16 number.toUInt16).bind

theorem consumes_int32 (number : Int32) :
    int32.Consumes (ofNat 4 number.toUInt32.toNat) (pure number) := by
  have hread : int32.Consumes (ofNat 4 number.toUInt32.toNat)
      (pure (UInt32.ofNat number.toUInt32.toNat).toInt32) :=
    (consumes_nat_ofNat number.toUInt32.toNat_lt).bind
  rwa [UInt32.ofNat_toNat] at hread

theorem consumes_color (color : Color) :
    Reading.color.Consumes color.toWire (pure color) := by
  have hread : Reading.color.Consumes color.toWire
      (pure (Color.ofRgb24 (UInt32.ofNat (toNat color.toWire)))) :=
    (consumes_nat color.toWire).bind
  have hnone : ([] : List UInt8).length ≤ 1 := Nat.zero_le 1
  have hcolor : Color.ofRgb24 (UInt32.ofNat (toNat color.toWire)) = color :=
    Color.ofRgb24_toNat color.blue color.green color.red hnone
  rwa [hcolor] at hread

end Reading

theorem Backdrop.ofWire_toWire (backdrop : Backdrop) : ofWire backdrop.toWire = backdrop := by
  cases backdrop with
  | transparent => rfl
  | solid color =>
      have hne : color.toRgb24.toInt32 ≠ -1 := by
        intro heq
        have hnumber := congrArg (fun number => number.toUInt32.toNat) heq
        have hred := color.red.toNat_lt
        have hgreen := color.green.toNat_lt
        have hblue := color.blue.toNat_lt
        simp only [UInt32.toUInt32_toInt32, Color.toNat_toRgb24] at hnumber
        have hones : (-1 : Int32).toUInt32.toNat = 4294967295 := rfl
        omega
      rw [toWire, ofWire, if_neg hne, UInt32.toUInt32_toInt32, Color.ofRgb24_toRgb24]

namespace Command

open Reading

theorem toArray_take_toList (bytes : Array UInt8) (n : Nat) :
    (bytes.toList.take n).toArray = bytes.take n := by
  rw [← Array.toList_inj]
  simp

theorem consumes_corners (corners : Corners) :
    readCorners.Consumes (cornerBytes corners) (pure corners) :=
  (((consumes_int16 _).bind.trans (consumes_int16 _).bind).trans (consumes_int16 _).bind).trans
    (consumes_int16 _).bind

theorem consumes_fillRect (corners : Corners) (color : Color) :
    readFillRect.Consumes (cornerBytes corners ++ color.toWire) (pure (.fillRect corners color)) :=
  (consumes_corners corners).bind.trans (consumes_color color).bind

/-- The fields of a bitmap up to its bits. -/
def bitmapHeader (x y : Int16) (scale : UInt8) (foreground : Color) (backdrop : Backdrop)
    (width height : UInt16) : List UInt8 :=
  int16Bytes x ++ int16Bytes y ++ LittleEndian.ofNat 2 width.toNat ++
    LittleEndian.ofNat 2 height.toNat ++ [scale] ++ foreground.toWire ++
    LittleEndian.ofNat 4 backdrop.toWire.toUInt32.toNat

theorem readDrawBitmap_eq :
    readDrawBitmap = (do
      let x ← int16
      let y ← int16
      let width ← uint16
      let height ← uint16
      let scale ← uint8
      let foreground ← Reading.color
      let number ← int32
      let bits ← take (Bitmap.byteLength width height)
      return .drawBitmap x y scale foreground (Backdrop.ofWire number)
        ⟨width, height, bits.toArray⟩) := by
  simp only [readDrawBitmap, take_bind_ofBits]

theorem consumes_bitmapHeader
    (x y : Int16) (scale : UInt8) (foreground : Color) (backdrop : Backdrop)
    (width height : UInt16) :
    readDrawBitmap.Consumes (bitmapHeader x y scale foreground backdrop width height) (do
      let bits ← take (Bitmap.byteLength width height)
      return .drawBitmap x y scale foreground backdrop ⟨width, height, bits.toArray⟩) := by
  have hposition : readDrawBitmap.Consumes (int16Bytes x ++ int16Bytes y) _ :=
    (consumes_int16 x).bind.trans (consumes_int16 y).bind
  have hsize := (hposition.trans (consumes_uint16 width).bind).trans (consumes_uint16 height).bind
  have hlook := (hsize.trans (consumes_uint8 scale).bind).trans (consumes_color foreground).bind
  have hread := hlook.trans (consumes_int32 backdrop.toWire).bind
  rwa [Backdrop.ofWire_toWire, take_bind_ofBits] at hread

/-- Has at least the pixels that the corners ask for, if it is a buffer. -/
def Complete : Command → Prop
  | .blitBuffer corners pixels => ((corners.x2.toInt - corners.x1.toInt).natAbs + 1) *
    ((corners.y2.toInt - corners.y1.toInt).natAbs + 1) * 3 ≤ pixels.size
  | _ => True

theorem ensures_complete (code : CommandCode) : (layout code).Ensures Complete := by
  cases code with
  | fillRect => exact .skip fun _ => .skip fun _ => .pure True.intro
  | drawBitmap =>
      rw [layout, readDrawBitmap_eq]
      exact .skip fun _ => .skip fun _ => .skip fun _ => .skip fun _ => .skip fun _ =>
        .skip fun _ => .skip fun _ => .skip fun _ => .pure True.intro
  | blitBuffer =>
      refine .skip fun corners => (Ensures.take _).bind fun pixels hpixels => .pure ?_
      have hsize : pixels.toArray.size = corners.pixelCount * 3 := by
        rw [List.size_toArray, hpixels]
      exact hsize.ge
  | scrollBuffer => exact .skip fun _ => .pure True.intro
  | executeOpaque => exact .skip fun _ => .pure True.intro

theorem complete_of_ofFrame
    {frame : Frame} {command : Command} (hcommand : ofFrame frame = .ok command) :
    command.Complete :=
  (ensures_complete frame.code).of_decode hcommand

/-- What arrives of a command.  Bits and pixels that are too many are cut off, and where they
are too few nothing arrives. -/
def delivered : Command → Except FrameError Command
  | .drawBitmap x y scale foreground backdrop bitmap =>
    let needed := (bitmap.width.toNat * bitmap.height.toNat + 7) / 8
    if bitmap.bits.size < needed then .error .truncated
    else .ok (.drawBitmap x y scale foreground backdrop
      { bitmap with bits := bitmap.bits.take needed })
  | .blitBuffer corners pixels =>
    let needed := ((corners.x2.toInt - corners.x1.toInt).natAbs + 1) *
      ((corners.y2.toInt - corners.y1.toInt).natAbs + 1) * 3
    if pixels.size < needed then .error .truncated
    else .ok (.blitBuffer corners (pixels.take needed))
  | command => .ok command

theorem decode_payload (command : Command) :
    (layout command.code).decode command.payload = command.delivered := by
  cases command with
  | fillRect corners color => exact (consumes_fillRect corners color).decode_eq_ok
  | drawBitmap x y scale foreground backdrop bitmap =>
      have hread := consumes_bitmapHeader x y scale foreground backdrop bitmap.width bitmap.height
      refine (hread.decode_take bitmap.bits.toList).trans ?_
      simp only [Array.length_toList, toArray_take_toList]
      rfl
  | blitBuffer corners pixels =>
      have hread : readBlitBuffer.Consumes (cornerBytes corners) _ :=
        (consumes_corners corners).bind
      refine (hread.decode_take pixels.toList).trans ?_
      simp only [Array.length_toList, toArray_take_toList]
      rfl
  | scroll lines =>
      have hread : (layout .scrollBuffer).Consumes (int16Bytes lines) (pure (.scroll lines)) :=
        (consumes_int16 lines).bind
      exact hread.decode_eq_ok
  | execute data => rfl

theorem ofFrame_of_toFrame
    {command : Command} {frame : Frame} (hframe : command.toFrame = .ok frame) :
    frame.code = command.code ∧ ofFrame frame = command.delivered := by
  have hcode : frame.code = command.code := by
    rw [(Frame.build_eq_ok_iff.1 hframe).2]
  rw [ofFrame, hcode, Frame.payload_of_build_eq_ok hframe, decode_payload]
  exact ⟨rfl, rfl⟩

def backdrop? : Command → Option Backdrop
  | .drawBitmap _ _ _ _ backdrop _ => some backdrop
  | _ => none

theorem backdrop?_of_delivered
    {command received : Command} (hreceived : command.delivered = .ok received) :
    received.backdrop? = command.backdrop? := by
  cases command with
  | drawBitmap x y scale foreground backdrop bitmap =>
      simp only [delivered] at hreceived
      split at hreceived
      next => contradiction
      next =>
        cases hreceived
        rfl
  | blitBuffer corners pixels =>
      simp only [delivered] at hreceived
      split at hreceived
      next => contradiction
      next =>
        cases hreceived
        rfl
  | _ =>
      cases hreceived
      rfl

end Command

/-- A command goes into a frame if its payload fits, and out of the frame comes what is
delivered of it: the command itself, or for bitmaps and buffers the part that their sizes ask
for.  A solid backdrop stays solid and a transparent one stays transparent. -/
theorem command_frame_roundTrip (command : Command) :
    ((∃ frame, command.toFrame = .ok frame) ↔ command.payload.length ≤ 2983) ∧
      ∀ frame, command.toFrame = .ok frame →
        frame.code = command.code ∧
          Command.ofFrame frame = command.delivered ∧
          ∀ received, Command.ofFrame frame = .ok received →
            received.backdrop? = command.backdrop? := by
  refine ⟨Frame.exists_build_iff, ?_⟩
  intro frame hframe
  obtain ⟨hcode, hdelivered⟩ := Command.ofFrame_of_toFrame hframe
  refine ⟨hcode, hdelivered, ?_⟩
  intro received hreceived
  rw [hdelivered] at hreceived
  exact Command.backdrop?_of_delivered hreceived

/-- A transparent bitmap with a byte too many arrives without that byte, and stays transparent. -/
theorem command_frame_roundTrip_surplus :
    let bitmap : Bitmap := ⟨4, 3, #[0xA0, 0xFF, 0x11]⟩
    let command : Command := .drawBitmap (-3) 7 2 ⟨255, 255, 255⟩ .transparent bitmap
    ∃ frame, command.toFrame = .ok frame ∧ frame.code = .drawBitmap ∧
      Command.ofFrame frame = .ok (.drawBitmap (-3) 7 2 ⟨255, 255, 255⟩ .transparent
        ⟨4, 3, #[0xA0, 0xFF]⟩) := by
  intro bitmap command
  obtain ⟨hfits, hread⟩ := command_frame_roundTrip command
  obtain ⟨frame, hframe⟩ := hfits.2 (by decide)
  obtain ⟨hcode, hdelivered, -⟩ := hread frame hframe
  exact ⟨frame, hframe, hcode, hdelivered.trans (by decide)⟩

end PanelLink
