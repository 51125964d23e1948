import PanelLink.Proofs.Wire.RoundTrip

/-!
# Corrupted frames

Changes behind the preamble and the length of a frame do not move its end.  So the receiver takes
all of the changed bytes for one frame.  It drops them unless the changes cancel out in the
exclusive or, and the next frame comes through.
-/

namespace PanelLink

/-! ## Differences -/

theorem checksum_append (bytes more : List UInt8) :
    checksum (bytes ++ more) = checksum bytes ^^^ checksum more := by
  induction more using List.reverseRecOn with
  | nil => rw [List.append_nil, checksum_nil, UInt8.xor_zero]
  | append_singleton more byte ih =>
      rw [← List.append_assoc, checksum_concat, checksum_concat, ih, UInt8.xor_assoc]

theorem checksum_cons (byte : UInt8) (bytes : List UInt8) :
    checksum (byte :: bytes) = byte ^^^ checksum bytes := by
  have hfirst : checksum [byte] = byte := UInt8.zero_xor
  rw [← List.singleton_append, checksum_append, hfirst]

/-- The exclusive or over all places of two strings of bytes. -/
def difference (received sent : List UInt8) : UInt8 :=
  checksum (List.zipWith (· ^^^ ·) received sent)

theorem difference_cons (byte other : UInt8) (received sent : List UInt8) :
    difference (byte :: received) (other :: sent) =
      (byte ^^^ other) ^^^ difference received sent :=
  checksum_cons _ _

theorem difference_eq {received sent : List UInt8} (hlength : received.length = sent.length) :
    difference received sent = checksum received ^^^ checksum sent := by
  induction received generalizing sent with
  | nil =>
      obtain rfl := List.length_eq_zero_iff.1 hlength.symm
      rfl
  | cons byte received ih =>
      cases sent with
      | nil => contradiction
      | cons other sent =>
          rw [difference_cons, ih (Nat.succ.inj hlength), checksum_cons, checksum_cons]
          ac_rfl

theorem difference_self (bytes : List UInt8) : difference bytes bytes = 0 := by
  rw [difference_eq rfl, UInt8.xor_self]

theorem difference_set
    {bytes : List UInt8} {place : Nat} {old : UInt8} (hold : bytes[place]? = some old)
    (byte : UInt8) : difference (bytes.set place byte) bytes = byte ^^^ old := by
  induction bytes generalizing place with
  | nil => contradiction
  | cons first bytes ih =>
      cases place with
      | zero =>
          rw [List.getElem?_cons_zero, Option.some.injEq] at hold
          rw [List.set_cons_zero, difference_cons, difference_self, hold, UInt8.xor_zero]
      | succ place =>
          rw [List.getElem?_cons_succ] at hold
          rw [List.set_cons_succ, difference_cons, UInt8.xor_self, UInt8.zero_xor, ih hold]

/-! ## Altered frames -/

/-- The bytes may arrive in place of a frame.  Its length, and its preamble and length field are
kept, and there still is a command code. -/
structure Frame.Altered (frame : Frame) (received : List UInt8) : Prop where
  length_eq : received.length = frame.length
  preamble_eq : received.take 3 = frame.bytes.take 3
  exists_code : ∃ code : CommandCode, received[3]? = some code.toByte
  field_eq : (received.drop 4).take 2 = (frame.bytes.drop 4).take 2

namespace Frame

variable {code : CommandCode} {payload received : List UInt8} {frame : Frame} {limit : Nat}

theorem checksum_of_build (hbuild : build code payload = .ok frame) :
    PanelLink.checksum frame.bytes = 0 := by
  obtain ⟨-, rfl⟩ := build_eq_ok_iff.1 hbuild
  exact checksum_append_self _

theorem Altered.exists_complete
    (haltered : frame.Altered received) (hbuild : build code payload = .ok frame)
    (hlimit : frame.length ≤ limit) :
    ∃ code low high rest, received[3]? = some (CommandCode.toByte code) ∧
      received = Token.header code low high ++ rest ∧ Token.Complete limit low high rest := by
  obtain ⟨low, high, sent, ⟨hcomplete, -⟩, hframe⟩ := exists_token hbuild hlimit
  rw [Token.frame?, Option.some.injEq] at hframe
  obtain ⟨hlength, hpreamble, ⟨code', hcode⟩, hfield⟩ := haltered
  rw [← hframe] at hlength hpreamble hfield
  have hpreamble' : received.take 3 = Token.preamble 3 := hpreamble
  have hfield' : (received.drop 4).take 2 = [low, high] := hfield
  have hreceived : received = Token.header code' low high ++ received.drop 6 :=
    calc received
      _ = received.take 3 ++ received.drop 3 := (List.take_append_drop 3 received).symm
      _ = Token.preamble 3 ++ code'.toByte :: received.drop 4 := by
        rw [hpreamble', List.drop_eq_getElem?_toList_append, hcode]
        rfl
      _ = Token.preamble 3 ++ code'.toByte :: ([low, high] ++ (received.drop 4).drop 2) := by
        rw [← hfield', List.take_append_drop]
      _ = Token.header code' low high ++ received.drop 6 := by
        rw [List.drop_drop, Token.header_append]
        rfl
  refine ⟨code', low, high, received.drop 6, hcode, hreceived, hcomplete.min_le,
    hcomplete.le_limit, ?_⟩
  rw [← hcomplete.length_eq]
  rw [hreceived] at hlength
  simpa [Frame.length] using hlength

theorem altered_set
    (hbuild : build code payload = .ok frame) {place : Nat} {byte : UInt8}
    (hplace : (place = 3 ∧ ∃ code : CommandCode, code.toByte = byte) ∨ 6 ≤ place) :
    frame.Altered (frame.bytes.set place byte) := by
  obtain ⟨-, rfl⟩ := build_eq_ok_iff.1 hbuild
  obtain ⟨rfl, code', rfl⟩ | hbehind := hplace
  · exact ⟨List.length_set, rfl, ⟨code', rfl⟩, rfl⟩
  · obtain ⟨behind, rfl⟩ := Nat.exists_eq_add_of_le' hbehind
    exact ⟨List.length_set, rfl, ⟨code, rfl⟩, rfl⟩

end Frame

theorem Receiver.run_complete
    {limit : Nat} {low high : UInt8} {rest : List UInt8}
    (hmax : limit ≤ Frame.maxLength) (tally : Tally) (code : CommandCode)
    (hcomplete : Token.Complete limit low high rest) :
    let bytes := Token.header code low high ++ rest
    (holding limit tally []).run (bytes.map LinkEvent.byte) =
      if PanelLink.checksum bytes = 0 then
        (holding limit { tally with frames := tally.frames + 1 } [],
          List.replicate (bytes.length - 1) none ++ [some ⟨code, bytes⟩])
      else
        (holding limit { tally with checksumErrors := tally.checksumErrors + 1 } [],
          List.replicate (bytes.length - 1) none ++ [none]) := by
  intro bytes
  by_cases hsum : PanelLink.checksum bytes = 0
  · have hvalid : (Token.frame code low high rest).Valid limit := ⟨hcomplete, hsum⟩
    rw [if_pos hsum]
    exact run_token hmax tally hvalid
  · have hvalid : (Token.badChecksum code low high rest).Valid limit := ⟨hcomplete, hsum⟩
    rw [if_neg hsum]
    exact run_token hmax tally hvalid

theorem Receiver.run_altered
    {limit : Nat} {code : CommandCode} {payload received : List UInt8} {frame : Frame}
    (hmax : limit ≤ Frame.maxLength) (tally : Tally)
    (hbuild : Frame.build code payload = .ok frame) (hlimit : frame.length ≤ limit)
    (haltered : frame.Altered received) :
    ∃ code, received[3]? = some (CommandCode.toByte code) ∧
      (holding limit tally []).run (received.map LinkEvent.byte) =
        if difference received frame.bytes = 0 then
          (holding limit { tally with frames := tally.frames + 1 } [],
            List.replicate (frame.length - 1) none ++ [some ⟨code, received⟩])
        else
          (holding limit { tally with checksumErrors := tally.checksumErrors + 1 } [],
            List.replicate frame.length none) := by
  obtain ⟨code', low, high, rest, hcode, hreceived, hcomplete⟩ :=
    haltered.exists_complete hbuild hlimit
  have hdifference : difference received frame.bytes = PanelLink.checksum received := by
    rw [difference_eq haltered.length_eq, Frame.checksum_of_build hbuild, UInt8.xor_zero]
  have hlength : frame.length = (frame.length - 1) + 1 := by
    rw [Frame.length_of_build hbuild, Frame.minLength]
    omega
  have hrun := run_complete hmax tally code' hcomplete
  rw [← hreceived] at hrun
  dsimp only at hrun
  refine ⟨code', hcode, ?_⟩
  rw [hrun, hdifference, haltered.length_eq, ← List.replicate_succ', ← hlength]

/-- A frame arrives with changes behind its preamble and length, and still with some command code.
The receiver hands nothing out before the last byte, and there a frame of the changed bytes if the
changes cancel out.  If they do not, one checksum error is counted and the frames that follow come
through.  A change of a single byte never cancels out. -/
theorem corruption_costs_one_frame
    {requested : Nat} {history : List LinkEvent} {receiver : Receiver} {code : CommandCode}
    {payload : List UInt8} {frame : Frame}
    (hreceiver : receiver = ((Receiver.withLimit requested).run history).1)
    (hstage : receiver.stage = 0) (hbuild : Frame.build code payload = .ok frame)
    (hlimit : frame.length ≤ receiver.limit) :
    (∀ received : List UInt8, frame.Altered received →
      let outcome := receiver.run (received.map LinkEvent.byte)
      (difference received frame.bytes = 0 →
        ∃ code, received[3]? = some (CommandCode.toByte code) ∧
          outcome.2 = List.replicate (frame.length - 1) none ++ [some ⟨code, received⟩]) ∧
      (difference received frame.bytes ≠ 0 →
        outcome.2 = List.replicate frame.length none ∧
          outcome.1.stage = 0 ∧
          outcome.1.tally = { receiver.tally with
            checksumErrors := receiver.tally.checksumErrors + 1 } ∧
          ∀ frames : List Frame,
            (∀ next ∈ frames, next.length ≤ receiver.limit ∧
              ∃ code payload, Frame.build code payload = .ok next) →
            (outcome.1.run ((frames.flatMap Frame.bytes).map LinkEvent.byte)).2 =
              frames.flatMap fun next =>
                List.replicate (next.length - 1) none ++ [some next])) ∧
    ∀ (place : Nat) (old byte : UInt8), frame.bytes[place]? = some old → byte ≠ old →
      (place = 3 ∧ ∃ code : CommandCode, code.toByte = byte) ∨ 6 ≤ place →
      let received := frame.bytes.set place byte
      frame.Altered received ∧ difference received frame.bytes ≠ 0 ∧
        (receiver.run (received.map LinkEvent.byte)).2 = List.replicate frame.length none := by
  have hmax := Receiver.limit_le_maxLength requested
  obtain ⟨tally, rfl⟩ := Receiver.exists_clean (.inl ⟨hreceiver, hstage⟩)
  refine ⟨?_, ?_⟩
  · intro received haltered
    obtain ⟨code', hcode, hrun⟩ := Receiver.run_altered hmax tally hbuild hlimit haltered
    dsimp only
    constructor
    · intro hsame
      rw [hrun, if_pos hsame]
      exact ⟨code', hcode, rfl⟩
    · intro hdifferent
      rw [hrun, if_neg hdifferent]
      refine ⟨rfl, rfl, rfl, ?_⟩
      intro frames hframes
      rw [Receiver.run_frames hmax _ hframes]
  · intro place old byte hold hne hplace
    have haltered := Frame.altered_set hbuild hplace
    have hdifferent : difference (frame.bytes.set place byte) frame.bytes ≠ 0 := by
      rw [difference_set hold]
      exact fun hzero => hne (UInt8.xor_eq_zero_iff.1 hzero)
    obtain ⟨_, -, hrun⟩ := Receiver.run_altered hmax tally hbuild hlimit haltered
    refine ⟨haltered, hdifferent, ?_⟩
    rw [hrun, if_neg hdifferent]

/-- A changed byte of the payload costs the frame and not the one behind it.  A change of the
command code that is undone in the payload goes unnoticed. -/
theorem corruption_costs_one_frame_or_hides :
    let receiver := ((Receiver.withLimit 64).run [.byte 0xAA, .byte 0x05]).1
    let damaged : List UInt8 := [0xAA, 0xAA, 0xAA, 0x44, 9, 0, 3, 0, 0xE6]
    let hidden : List UInt8 := [0xAA, 0xAA, 0xAA, 0x55, 9, 0, 0x10, 0, 0xE6]
    ∃ frame, Frame.build .scrollBuffer [1, 0] = .ok frame ∧ receiver.stage = 0 ∧
      frame.Altered damaged ∧ frame.Altered hidden ∧
      (receiver.run (damaged.map LinkEvent.byte)).2 = List.replicate 9 none ∧
      (receiver.run (damaged.map LinkEvent.byte)).1.tally.checksumErrors = 1 ∧
      ((receiver.run (damaged.map LinkEvent.byte)).1.run (frame.bytes.map LinkEvent.byte)).2 =
        List.replicate 8 none ++ [some frame] ∧
      (receiver.run (hidden.map LinkEvent.byte)).2 =
        List.replicate 8 none ++ [some ⟨.executeOpaque, hidden⟩] := by
  intro receiver damaged hidden
  obtain ⟨frame, hbuild⟩ : ∃ frame, Frame.build .scrollBuffer [1, 0] = .ok frame := ⟨_, rfl⟩
  have hlimit : frame.length ≤ receiver.limit := by
    rw [Frame.length_of_build hbuild]
    decide
  obtain ⟨hmany, hsingle⟩ := corruption_costs_one_frame rfl (by decide) hbuild hlimit
  have hbytes : frame.bytes = [0xAA, 0xAA, 0xAA, 0x44, 9, 0, 1, 0, 0xE6] := by
    cases hbuild
    decide
  have hset : frame.bytes.set 6 3 = damaged := by
    rw [hbytes]
    rfl
  obtain ⟨hdamaged, hdifferent, hnothing⟩ :=
    hsingle 6 1 3 (by rw [hbytes]; rfl) (by decide) (.inr (by decide))
  rw [hset] at hdamaged hdifferent hnothing
  obtain ⟨-, -, htally, hrest⟩ := (hmany damaged hdamaged).2 hdifferent
  have hhidden : frame.Altered hidden := by
    constructor
    · rw [Frame.length, hbytes]
      rfl
    · rw [hbytes]
      rfl
    · exact ⟨.executeOpaque, rfl⟩
    · rw [hbytes]
      rfl
  obtain ⟨code, hcode, hframe⟩ := (hmany hidden hhidden).1 (by rw [hbytes]; decide)
  have hexecute : code = .executeOpaque :=
    CommandCode.toByte_inj.1 (Option.some.inj hcode).symm
  have hlength : frame.length = 9 := Frame.length_of_build hbuild
  have hnext := hrest [frame] (by simpa using ⟨hlimit, .scrollBuffer, [1, 0], hbuild⟩)
  rw [hlength] at hnothing hframe
  rw [List.flatMap_singleton, List.flatMap_singleton, hlength] at hnext
  rw [hexecute] at hframe
  exact ⟨frame, hbuild, by decide, hdamaged, hhidden, hnothing, by rw [htally]; decide, hnext,
    hframe⟩

end PanelLink
