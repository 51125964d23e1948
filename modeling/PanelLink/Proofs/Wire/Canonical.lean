import PanelLink.Proofs.Wire.Spelling

/-!
# Canonical frames

The command of a frame can be written into a frame again, and almost as it was: the bytes behind
the layout are left out, and the byte above the color of a solid backdrop becomes zero.
-/

namespace PanelLink

/-! ## Frames that exist -/

/-- Built around a payload, or handed out by a receiver. -/
inductive Frame.Genuine : Frame → Prop where
  | built {code : CommandCode} {payload : List UInt8} {frame : Frame}
      (hbuild : Frame.build code payload = .ok frame) : frame.Genuine
  | received {limit : Nat} {events : List LinkEvent} {byte : UInt8} {frame : Frame}
      (hfeed : (((Receiver.withLimit limit).run events).1.feed byte).2 = some frame) :
      frame.Genuine

theorem Frame.Genuine.build_eq {frame : Frame} (hframe : frame.Genuine) :
    Frame.build frame.code frame.payload = .ok frame := by
  cases hframe with
  | @built code payload _ hbuild =>
      have hcode : frame.code = code := by
        rw [(Frame.build_eq_ok_iff.1 hbuild).2]
      rw [hcode, Frame.payload_of_build_eq_ok hbuild, hbuild]
  | @received limit events byte _ hfeed =>
      have hmax := Receiver.limit_le_maxLength limit
      obtain ⟨tail, tally, hpending, hrun⟩ := Receiver.exists_run_eq_holding limit events
      rw [hrun] at hfeed
      obtain ⟨_, hnext⟩ | ⟨token, hvalid, _, hnext⟩ := hpending.unfinished.feed hmax tally byte
      · rw [hnext] at hfeed
        contradiction
      · rw [hnext] at hfeed
        cases token with
        | frame code low high rest => exact (Frame.build_of_token hmax hvalid hfeed).2
        | _ => contradiction

/-! ## Numbers of a backdrop -/

theorem LittleEndian.ofNat_inj {width n n' : Nat} (hn : n < 256 ^ width) (hn' : n' < 256 ^ width)
    (heq : ofNat width n = ofNat width n') : n = n' := by
  have hnumber := congrArg toNat heq
  rwa [toNat_ofNat, toNat_ofNat, Nat.mod_eq_of_lt hn, Nat.mod_eq_of_lt hn'] at hnumber

theorem Color.toNat_toRgb24_ofRgb24 (number : UInt32) :
    (ofRgb24 number).toRgb24.toNat = number.toNat % 16777216 := by
  rw [toNat_toRgb24]
  simp only [ofRgb24, UInt8.toNat_ofNat']
  omega

theorem LittleEndian.ofNat_four_mod (n : Nat) : ofNat 4 (n % 16777216) = (ofNat 4 n).set 3 0 := by
  simp only [ofNat, List.set_cons_succ, List.set_cons_zero, List.cons.injEq, ← UInt8.toNat_inj,
    UInt8.toNat_ofNat']
  refine ⟨by omega, by omega, by omega, ?_, trivial⟩
  have hzero : (0 : UInt8).toNat = 0 := rfl
  omega

/-- A backdrop that was read is written with its own number if it is transparent, and otherwise
with zero in the highest byte. -/
theorem Backdrop.ofNat_toWire_ofWire (number : Int32) :
    LittleEndian.ofNat 4 (ofWire number).toWire.toUInt32.toNat =
      if LittleEndian.ofNat 4 number.toUInt32.toNat = [0xFF, 0xFF, 0xFF, 0xFF] then
        LittleEndian.ofNat 4 number.toUInt32.toNat
      else
        (LittleEndian.ofNat 4 number.toUInt32.toNat).set 3 0 := by
  by_cases hnumber : number = -1
  · subst hnumber
    rfl
  · have hbytes : LittleEndian.ofNat 4 number.toUInt32.toNat ≠ [0xFF, 0xFF, 0xFF, 0xFF] := by
      intro hones
      have heq : number.toUInt32.toNat = (-1 : Int32).toUInt32.toNat :=
        LittleEndian.ofNat_inj number.toUInt32.toNat_lt (-1 : Int32).toUInt32.toNat_lt hones
      have hsigned := congrArg UInt32.toInt32 (UInt32.toNat_inj.1 heq)
      rw [Int32.toInt32_toUInt32, Int32.toInt32_toUInt32] at hsigned
      exact hnumber hsigned
    rw [if_neg hbytes, ofWire, if_neg hnumber, toWire, UInt32.toUInt32_toInt32,
      Color.toNat_toRgb24_ofRgb24, LittleEndian.ofNat_four_mod]

/-! ## Payloads written again -/

namespace Command

/-- What the layout takes, with zero above the color of a backdrop that is not transparent. -/
def canonicalPayload (payload : List UInt8) (code : CommandCode) : List UInt8 :=
  let taken := payload.take (layoutLength payload code)
  if code = .drawBitmap ∧ (taken.drop 12).take 4 ≠ [0xFF, 0xFF, 0xFF, 0xFF] then
    taken.set 15 0
  else
    taken

theorem Spelling.payload_eq {command : Command} {field : List UInt8}
    (hfield : Spelling command field) :
    command.payload =
      if command.code = .drawBitmap ∧ (field.drop 12).take 4 ≠ [0xFF, 0xFF, 0xFF, 0xFF] then
        field.set 15 0
      else
        field := by
  cases hfield with
  | drawBitmap x y scale foreground number bitmap hbits =>
      have hpayload : payload (.drawBitmap x y scale foreground (Backdrop.ofWire number) bitmap) =
          bitmapOpening x y scale foreground bitmap.width bitmap.height ++
            LittleEndian.ofNat 4 (Backdrop.ofWire number).toWire.toUInt32.toNat ++
            bitmap.bits.toList := rfl
      rw [hpayload, Backdrop.ofNat_toWire_ofWire]
      by_cases hones : LittleEndian.ofNat 4 number.toUInt32.toNat = [0xFF, 0xFF, 0xFF, 0xFF]
      · rw [if_pos hones, if_neg fun hsolid => hsolid.2 hones]
      · rw [if_neg hones, if_pos ⟨rfl, hones⟩]
        rfl
  | fillRect corners color => rfl
  | blitBuffer corners pixels hpixels => rfl
  | scroll lines => rfl
  | execute data => rfl

theorem payload_eq_canonicalPayload
    {code : CommandCode} {payload : List UInt8} {command : Command}
    (hdecode : (layout code).decode payload = .ok command) :
    command.payload = canonicalPayload payload code := by
  obtain ⟨hcode, -, hfield⟩ := exists_spelling hdecode
  rw [hfield.payload_eq, hcode]
  rfl

theorem length_canonicalPayload_le (payload : List UInt8) (code : CommandCode) :
    (canonicalPayload payload code).length ≤ payload.length := by
  unfold canonicalPayload
  dsimp only
  split
  next => rw [List.length_set]; exact List.length_take_le' ..
  next => exact List.length_take_le' ..

end Command

/-- The frame of the command that a frame carries. -/
def Frame.canonical (frame : Frame) : Except FrameError Frame := do
  (← Command.ofFrame frame).toFrame

theorem Frame.canonical_of_ofFrame {frame : Frame} {command : Command}
    (hcommand : Command.ofFrame frame = .ok command) : frame.canonical = command.toFrame := by
  rw [canonical, hcommand]
  rfl

theorem Frame.Genuine.exists_toFrame
    {frame : Frame} {command : Command} (hframe : frame.Genuine)
    (hcommand : Command.ofFrame frame = .ok command) :
    ∃ canonical, command.toFrame = .ok canonical ∧ canonical.code = frame.code ∧
      canonical.length ≤ frame.length ∧ Command.ofFrame canonical = .ok command ∧
      Command.layoutLength frame.payload frame.code ≤ frame.payload.length ∧
      canonical.payload = Command.canonicalPayload frame.payload frame.code := by
  have hbuild := hframe.build_eq
  have hpayload := Command.payload_eq_canonicalPayload hcommand
  have hshorter := Command.length_canonicalPayload_le frame.payload frame.code
  obtain ⟨hcode, hlong, hspelling⟩ := Command.exists_spelling hcommand
  have hfits : command.payload.length ≤ 2983 := by
    have hfits' := Frame.exists_build_iff.1 ⟨frame, hbuild⟩
    rw [hpayload]
    omega
  obtain ⟨canonical, hcanonical⟩ := Frame.exists_build_iff.2 hfits
  obtain ⟨hcode', hread⟩ := Command.ofFrame_of_toFrame hcanonical
  refine ⟨canonical, hcanonical, hcode'.trans hcode, ?_, hread.trans hspelling.delivered, hlong, ?_⟩
  · rw [Frame.length_of_build hcanonical, Frame.length_of_build hbuild, hpayload]
    omega
  · rw [Frame.payload_of_build_eq_ok hcanonical, hpayload]

/-- The command of a frame goes into a frame again, its canonical form, which is no longer, brings
the same command and is its own canonical form.  In it stand the bytes that the layout takes of the
payload, as they were but for the byte above the color of a solid backdrop.  Two frames bring the
same command if they have the same canonical form. -/
theorem canonical_frame_roundTrip :
    (∀ (frame : Frame) (command : Command), frame.Genuine →
      Command.ofFrame frame = .ok command →
        ∃ canonical, command.toFrame = .ok canonical ∧ frame.canonical = .ok canonical ∧
          canonical.code = frame.code ∧ canonical.length ≤ frame.length ∧
          Command.ofFrame canonical = .ok command ∧ canonical.canonical = .ok canonical ∧
          Command.layoutLength frame.payload frame.code ≤ frame.payload.length ∧
          canonical.payload = Command.canonicalPayload frame.payload frame.code) ∧
    ∀ (frame other : Frame) (command command' : Command), frame.Genuine → other.Genuine →
      Command.ofFrame frame = .ok command → Command.ofFrame other = .ok command' →
        (command = command' ↔ frame.canonical = other.canonical) := by
  constructor
  · intro frame command hframe hcommand
    obtain ⟨canonical, hcanonical, hcode, hlength, hread, hlong, hpayload⟩ :=
      hframe.exists_toFrame hcommand
    have hfirst : frame.canonical = .ok canonical :=
      (Frame.canonical_of_ofFrame hcommand).trans hcanonical
    have hagain : canonical.canonical = .ok canonical :=
      (Frame.canonical_of_ofFrame hread).trans hcanonical
    exact ⟨canonical, hcanonical, hfirst, hcode, hlength, hread, hagain, hlong,
      hpayload⟩
  · intro frame other command command' hframe hother hcommand hcommand'
    rw [Frame.canonical_of_ofFrame hcommand, Frame.canonical_of_ofFrame hcommand']
    constructor
    · rintro rfl
      rfl
    · intro hsame
      obtain ⟨canonical, hcanonical, -, -, hread, -, -⟩ := hframe.exists_toFrame hcommand
      obtain ⟨canonical', hcanonical', -, -, hread', -, -⟩ := hother.exists_toFrame hcommand'
      rw [hcanonical, hcanonical', Except.ok.injEq] at hsame
      rw [hsame, hread', Except.ok.injEq] at hread
      exact hread.symm

/-- A frame with a number above the color of its backdrop and two bytes behind its bits brings the
same command as one without them, which is the canonical form of both. -/
theorem canonical_frame_roundTrip_surplus :
    let fields (above : UInt8) : List UInt8 :=
      [0xFD, 0xFF, 7, 0, 4, 0, 3, 0, 2, 255, 255, 255, 0x56, 0x34, 0x12, above, 0xA0, 0xFF]
    let command : Command :=
      .drawBitmap (-3) 7 2 ⟨255, 255, 255⟩ (.solid ⟨0x12, 0x34, 0x56⟩) ⟨4, 3, #[0xA0, 0xFF]⟩
    ∃ frame other canonical, Frame.build .drawBitmap (fields 0x7F ++ [9, 9]) = .ok frame ∧
      Frame.build .drawBitmap (fields 0) = .ok other ∧
      Command.ofFrame frame = .ok command ∧ Command.ofFrame other = .ok command ∧
      frame.canonical = .ok canonical ∧ canonical.payload = fields 0 ∧
      canonical.length < frame.length ∧ frame.canonical = other.canonical := by
  intro fields command
  obtain ⟨frame, hbuild⟩ : ∃ frame, Frame.build .drawBitmap (fields 0x7F ++ [9, 9]) = .ok frame :=
    ⟨_, rfl⟩
  obtain ⟨other, hbuild'⟩ : ∃ other, Frame.build .drawBitmap (fields 0) = .ok other := ⟨_, rfl⟩
  have hcommand : Command.ofFrame frame = .ok command := by
    cases hbuild
    decide
  have hcommand' : Command.ofFrame other = .ok command := by
    cases hbuild'
    decide
  obtain ⟨hwritten, hsame⟩ := canonical_frame_roundTrip
  obtain ⟨canonical, hframe, hcanonical, -, -, -, -, -, hpayload⟩ :=
    hwritten frame command (.built hbuild) hcommand
  have hfields : canonical.payload = fields 0 := by
    rw [hpayload]
    cases hbuild
    decide
  have hshorter : canonical.length < frame.length := by
    rw [Frame.length_of_build hframe, Frame.length_of_build hbuild]
    decide
  exact ⟨frame, other, canonical, hbuild, hbuild', hcommand, hcommand', hcanonical, hfields,
    hshorter, (hsame frame other command command (.built hbuild) (.built hbuild') hcommand
      hcommand').1 rfl⟩

end PanelLink
