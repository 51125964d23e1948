import PanelLink.Proofs.Wire.Layout

/-!
# Spellings

What a layout gives is written in the bytes that it has taken, field by field.  The fields say how
many bytes that are, and only the backdrop of a bitmap can be written in more than one way.
-/

namespace PanelLink

/-! ## Readings and the bytes they have taken -/

namespace Reading

variable {α β : Type}

/-- Whatever the reading gives is written in the bytes that it takes. -/
def Recognizes (reading : Reading α) (written : α → List UInt8 → Prop) : Prop :=
  ∀ cursor value after, reading.runFrom cursor = (.ok value, after) →
    ∃ field, written value field ∧ cursor.unread = field ++ after.unread

namespace Recognizes

theorem pure {written : α → List UInt8 → Prop} {value : α} (hvalue : written value []) :
    (pure value : Reading α).Recognizes written := by
  intro cursor other after hrun
  cases hrun
  exact ⟨[], hvalue, rfl⟩

theorem bind
    {reading : Reading α} {rest : α → Reading β}
    {written : α → List UInt8 → Prop} {written' : β → List UInt8 → Prop}
    (hread : reading.Recognizes written)
    (hrest : ∀ value field, written value field →
      (rest value).Recognizes fun result more => written' result (field ++ more)) :
    (reading >>= rest).Recognizes written' := by
  intro cursor result after hrun
  rw [runFrom_bind] at hrun
  split at hrun
  next value middle hfirst =>
    obtain ⟨field, hfield, hunread⟩ := hread cursor value middle hfirst
    obtain ⟨more, hmore, hunread'⟩ := hrest value field hfield middle result after hrun
    exact ⟨field ++ more, hmore, by rw [hunread, hunread', List.append_assoc]⟩
  next => cases hrun

theorem map
    {reading : Reading α} {change : α → β}
    {written : α → List UInt8 → Prop} {written' : β → List UInt8 → Prop}
    (hread : reading.Recognizes written)
    (hchange : ∀ value field, written value field → written' (change value) field) :
    (reading >>= fun value => Pure.pure (change value)).Recognizes written' := by
  refine hread.bind ?_
  intro value field hfield
  apply pure
  rw [List.append_nil]
  exact hchange value field hfield

theorem take (n : Nat) :
    (Reading.take n).Recognizes fun bytes field => field = bytes ∧ bytes.length = n := by
  intro cursor bytes after hrun
  rw [runFrom_take] at hrun
  split at hrun
  next => cases hrun
  next hlong =>
    cases hrun
    refine ⟨_, ⟨rfl, ?_⟩, ?_⟩
    · rw [List.length_take, Cursor.unread, List.length_drop]
      rw [Cursor.remaining] at hlong
      omega
    · simp only [Cursor.unread, ← List.drop_drop, List.take_append_drop]

theorem of_decode
    {reading : Reading α} {written : α → List UInt8 → Prop} {bytes : List UInt8} {value : α}
    (hread : reading.Recognizes written) (hdecode : reading.decode bytes = .ok value) :
    ∃ field rest, written value field ∧ bytes = field ++ rest := by
  obtain ⟨field, hfield, hunread⟩ := hread ⟨bytes, 0⟩ value _ (Prod.ext hdecode rfl)
  exact ⟨field, _, hfield, hunread⟩

end Recognizes

open LittleEndian

theorem recognizes_nat (width : Nat) :
    (nat width).Recognizes fun n field => n < 256 ^ width ∧ field = ofNat width n := by
  refine (Recognizes.take width).map ?_
  rintro _ field ⟨rfl, rfl⟩
  exact ⟨toNat_lt field, (ofNat_toNat field).symm⟩

theorem recognizes_uint8 : uint8.Recognizes fun number field => field = [number] := by
  refine (recognizes_nat 1).map ?_
  rintro n _ ⟨-, rfl⟩
  rfl

theorem recognizes_uint16 :
    uint16.Recognizes fun number field => field = ofNat 2 number.toNat := by
  refine (recognizes_nat 2).map ?_
  rintro n _ ⟨hn, rfl⟩
  rw [UInt16.toNat_ofNat', Nat.mod_eq_of_lt (show n < 2 ^ 16 from hn)]

theorem recognizes_int16 :
    int16.Recognizes fun number field => field = Command.int16Bytes number := by
  refine recognizes_uint16.map ?_
  rintro number _ rfl
  rw [Command.int16Bytes, UInt16.toUInt16_toInt16]

theorem recognizes_int32 :
    int32.Recognizes fun number field => field = ofNat 4 number.toUInt32.toNat := by
  refine (recognizes_nat 4).map ?_
  rintro n _ ⟨hn, rfl⟩
  rw [UInt32.toUInt32_toInt32, UInt32.toNat_ofNat', Nat.mod_eq_of_lt (show n < 2 ^ 32 from hn)]

theorem recognizes_color : color.Recognizes fun color field => field = color.toWire := by
  refine (recognizes_nat 3).map ?_
  rintro n _ ⟨hn, rfl⟩
  have hnumber : (UInt32.ofNat n).toNat = n := by
    rw [UInt32.toNat_ofNat', Nat.mod_eq_of_lt (hn.trans (by decide))]
  rw [Color.ofRgb24, hnumber, Color.toWire]
  simp only [ofNat, Nat.div_div_eq_div_mul]

end Reading

/-! ## Spellings of a command -/

namespace Command

/-- The fields of a bitmap before its backdrop. -/
def bitmapOpening (x y : Int16) (scale : UInt8) (foreground : Color) (width height : UInt16) :
    List UInt8 :=
  int16Bytes x ++ int16Bytes y ++ LittleEndian.ofNat 2 width.toNat ++
    LittleEndian.ofNat 2 height.toNat ++ [scale] ++ foreground.toWire

/-- The bytes are all that a layout takes, and it reads the command from them.  Only a backdrop
has more than one number. -/
inductive Spelling : Command → List UInt8 → Prop where
  | fillRect (corners : Corners) (color : Color) :
      Spelling (.fillRect corners color) (cornerBytes corners ++ color.toWire)
  | drawBitmap (x y : Int16) (scale : UInt8) (foreground : Color) (number : Int32)
      (bitmap : Bitmap)
      (hbits : bitmap.bits.size = (bitmap.width.toNat * bitmap.height.toNat + 7) / 8) :
      Spelling (.drawBitmap x y scale foreground (Backdrop.ofWire number) bitmap)
        (bitmapOpening x y scale foreground bitmap.width bitmap.height ++
          LittleEndian.ofNat 4 number.toUInt32.toNat ++ bitmap.bits.toList)
  | blitBuffer (corners : Corners) (pixels : Array UInt8)
      (hpixels : pixels.size = ((corners.x2.toInt - corners.x1.toInt).natAbs + 1) *
        ((corners.y2.toInt - corners.y1.toInt).natAbs + 1) * 3) :
      Spelling (.blitBuffer corners pixels) (cornerBytes corners ++ pixels.toList)
  | scroll (lines : Int16) : Spelling (.scroll lines) (int16Bytes lines)
  | execute (data : List UInt8) : Spelling (.execute data) data

open Reading

theorem recognizes_corners :
    readCorners.Recognizes fun corners field => field = cornerBytes corners := by
  refine recognizes_int16.bind ?_
  rintro x1 _ rfl
  refine recognizes_int16.bind ?_
  rintro y1 _ rfl
  refine recognizes_int16.bind ?_
  rintro x2 _ rfl
  refine recognizes_int16.map ?_
  rintro y2 _ rfl
  simp only [cornerBytes, List.append_assoc]

theorem recognizes_layout {code : CommandCode} (hcode : code ≠ .executeOpaque) :
    (layout code).Recognizes fun command field =>
      command.code = code ∧ Spelling command field := by
  cases code with
  | fillRect =>
      refine recognizes_corners.bind ?_
      rintro corners _ rfl
      refine recognizes_color.map ?_
      rintro color _ rfl
      exact ⟨rfl, .fillRect corners color⟩
  | drawBitmap =>
      rw [layout, readDrawBitmap_eq]
      refine recognizes_int16.bind ?_
      rintro x _ rfl
      refine recognizes_int16.bind ?_
      rintro y _ rfl
      refine recognizes_uint16.bind ?_
      rintro width _ rfl
      refine recognizes_uint16.bind ?_
      rintro height _ rfl
      refine recognizes_uint8.bind ?_
      rintro scale _ rfl
      refine recognizes_color.bind ?_
      rintro foreground _ rfl
      refine recognizes_int32.bind ?_
      rintro number _ rfl
      refine (Recognizes.take _).map ?_
      rintro _ bits ⟨rfl, hbits⟩
      have hspelling :=
        Spelling.drawBitmap x y scale foreground number ⟨width, height, bits.toArray⟩ hbits
      refine ⟨rfl, ?_⟩
      simpa only [bitmapOpening, List.append_assoc] using hspelling
  | blitBuffer =>
      refine recognizes_corners.bind ?_
      rintro corners _ rfl
      refine (Recognizes.take _).map ?_
      rintro _ pixels ⟨rfl, hpixels⟩
      exact ⟨rfl, .blitBuffer corners pixels.toArray hpixels⟩
  | scrollBuffer =>
      refine recognizes_int16.map ?_
      rintro lines _ rfl
      exact ⟨rfl, .scroll lines⟩
  | executeOpaque => contradiction

theorem Spelling.delivered {command : Command} {field : List UInt8}
    (hfield : Spelling command field) : command.delivered = .ok command := by
  cases hfield with
  | drawBitmap x y scale foreground number bitmap hbits =>
      rw [Command.delivered]
      simp only [← hbits, lt_self_iff_false, if_false]
      simp
  | blitBuffer corners pixels hpixels =>
      rw [Command.delivered]
      simp only [← hpixels, lt_self_iff_false, if_false]
      simp
  | _ => rfl

/-! ## The part of a payload that a layout takes -/

/-- The number in the two bytes from a place on. -/
def word (payload : List UInt8) (place : Nat) : UInt16 :=
  UInt16.ofNat (LittleEndian.toNat ((payload.drop place).take 2))

/-- How many bytes a layout takes: fields, and as many bits or pixels as the fields ask for. -/
def layoutLength (payload : List UInt8) : CommandCode → Nat
  | .fillRect => 11
  | .drawBitmap => 16 + ((word payload 4).toNat * (word payload 6).toNat + 7) / 8
  | .blitBuffer =>
    8 + (((word payload 4).toInt16.toInt - (word payload 0).toInt16.toInt).natAbs + 1) *
      (((word payload 6).toInt16.toInt - (word payload 2).toInt16.toInt).natAbs + 1) * 3
  | .scrollBuffer => 2
  | .executeOpaque => payload.length

theorem word_eq {payload : List UInt8} {place : Nat} {number : UInt16}
    (hfield : (payload.drop place).take 2 = LittleEndian.ofNat 2 number.toNat) :
    word payload place = number := by
  have hnumber : number.toNat < 256 ^ 2 := number.toNat_lt
  rw [word, hfield, LittleEndian.toNat_ofNat, Nat.mod_eq_of_lt hnumber, UInt16.ofNat_toNat]

theorem word_toInt16_eq {payload : List UInt8} {place : Nat} {number : Int16}
    (hfield : (payload.drop place).take 2 = int16Bytes number) :
    (word payload place).toInt16 = number := by
  rw [word_eq hfield, Int16.toInt16_toUInt16]

theorem Spelling.length_eq {command : Command} {field rest : List UInt8}
    (hfield : Spelling command field) (hrest : command.code = .executeOpaque → rest = []) :
    field.length = layoutLength (field ++ rest) command.code := by
  cases hfield with
  | fillRect corners color => rfl
  | drawBitmap x y scale foreground number bitmap hbits =>
      rw [code, layoutLength]
      -- Only fields of fixed length stand before the two words, so evaluation finds their places.
      generalize hpayload : _ ++ rest = payload
      have hwidth : word payload 4 = bitmap.width := word_eq (by rw [← hpayload]; rfl)
      have hheight : word payload 6 = bitmap.height := word_eq (by rw [← hpayload]; rfl)
      rw [hwidth, hheight, ← hbits, List.length_append, Array.length_toList]
      rfl
  | blitBuffer corners pixels hpixels =>
      rw [code, layoutLength]
      generalize hpayload : _ ++ rest = payload
      have hx1 : (word payload 0).toInt16 = corners.x1 := word_toInt16_eq (by rw [← hpayload]; rfl)
      have hy1 : (word payload 2).toInt16 = corners.y1 := word_toInt16_eq (by rw [← hpayload]; rfl)
      have hx2 : (word payload 4).toInt16 = corners.x2 := word_toInt16_eq (by rw [← hpayload]; rfl)
      have hy2 : (word payload 6).toInt16 = corners.y2 := word_toInt16_eq (by rw [← hpayload]; rfl)
      rw [hx1, hy1, hx2, hy2, ← hpixels, List.length_append, Array.length_toList]
      rfl
  | scroll lines => rfl
  | execute data => rw [hrest rfl, List.append_nil, code, layoutLength]

/-- What a layout gives is spelled in the bytes that it takes, and these are as many as the
fields among them say. -/
theorem exists_spelling
    {code : CommandCode} {payload : List UInt8} {command : Command}
    (hdecode : (layout code).decode payload = .ok command) :
    command.code = code ∧ layoutLength payload code ≤ payload.length ∧
      Spelling command (payload.take (layoutLength payload code)) := by
  obtain ⟨field, rest, ⟨hcode, hfield⟩, rfl, hrest⟩ : ∃ field rest,
      (command.code = code ∧ Spelling command field) ∧ payload = field ++ rest ∧
        (command.code = .executeOpaque → rest = []) := by
    by_cases hexecute : code = .executeOpaque
    · subst hexecute
      cases hdecode
      exact ⟨payload, [], ⟨rfl, .execute payload⟩, by simp, fun _ => rfl⟩
    · obtain ⟨field, rest, ⟨hcode, hfield⟩, hpayload⟩ :=
        (recognizes_layout hexecute).of_decode hdecode
      exact ⟨field, rest, ⟨hcode, hfield⟩, hpayload,
        fun hother => absurd (hcode.symm.trans hother) hexecute⟩
  rw [← hcode, ← hfield.length_eq hrest, List.take_left, List.length_append]
  exact ⟨rfl, Nat.le_add_right _ _, hfield⟩

end Command

end PanelLink
