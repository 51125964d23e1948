import PanelLink.Proofs.Wire.Reception

/-!
# Frames through a receiver

A frame that was built is a token, and the frame of a token can be built from its
payload.  So a receiver hands out exactly the frames that were sent, whatever they
carry, and nothing that could not have been sent.
-/

namespace PanelLink

/-! ## Built frames are tokens -/

theorem LittleEndian.toNat_ofNat (width n : Nat) :
    LittleEndian.toNat (LittleEndian.ofNat width n) = n % 256 ^ width := by
  induction width generalizing n with
  | zero => simp [LittleEndian.ofNat, LittleEndian.toNat, Nat.mod_one]
  | succ width ih =>
      have hbyte : (UInt8.ofNat n).toNat = n % 256 := UInt8.toNat_ofNat'
      rw [LittleEndian.ofNat, LittleEndian.toNat, ih, hbyte, Nat.pow_succ', Nat.mod_mul]

theorem LittleEndian.toNat_lt (bytes : List UInt8) :
    LittleEndian.toNat bytes < 256 ^ bytes.length := by
  have hnumber := LittleEndian.toNat_ofNat bytes.length (LittleEndian.toNat bytes)
  rw [LittleEndian.ofNat_toNat] at hnumber
  rw [hnumber]
  exact Nat.mod_lt _ (Nat.pow_pos (by omega))

theorem checksum_append_self (bytes : List UInt8) :
    checksum (bytes ++ [checksum bytes]) = 0 := by
  rw [checksum_concat, UInt8.xor_self]

theorem Frame.length_of_build
    {code : CommandCode} {payload : List UInt8} {frame : Frame}
    (hbuild : Frame.build code payload = .ok frame) :
    frame.length = Frame.minLength + payload.length := by
  obtain ⟨-, rfl⟩ := Frame.build_eq_ok_iff.1 hbuild
  simp [Frame.length, Frame.minLength]
  omega

theorem Frame.exists_build_iff {code : CommandCode} {payload : List UInt8} :
    (∃ frame, Frame.build code payload = .ok frame) ↔ payload.length ≤ 2983 := by
  constructor
  · rintro ⟨frame, hbuild⟩
    exact (Frame.build_eq_ok_iff.1 hbuild).1
  · intro hfits
    exact ⟨_, Frame.build_eq_ok_iff.2 ⟨hfits, rfl⟩⟩

theorem exists_header_eq
    (code : CommandCode) {length : Nat} (hlength : length ≤ Frame.maxLength) :
    ∃ low high, Frame.header code length = Token.header code low high ∧
      Token.declared low high = length := by
  refine ⟨UInt8.ofNat length, UInt8.ofNat (length / 256), rfl, ?_⟩
  have hfield := LittleEndian.toNat_ofNat 2 length
  simp only [Frame.maxLength] at hlength
  rw [Nat.mod_eq_of_lt (by omega)] at hfield
  exact hfield

theorem Frame.exists_token
    {limit : Nat} {code : CommandCode} {payload : List UInt8} {frame : Frame}
    (hbuild : Frame.build code payload = .ok frame) (hlimit : frame.length ≤ limit) :
    ∃ low high rest, (Token.frame code low high rest).Valid limit ∧
      (Token.frame code low high rest).frame? = some frame := by
  have hlength := Frame.length_of_build hbuild
  obtain ⟨hpayload, rfl⟩ := Frame.build_eq_ok_iff.1 hbuild
  have hshort : Frame.minLength + payload.length ≤ Frame.maxLength := by
    simp only [Frame.maxPayload, Frame.maxLength, Frame.minLength,
      Frame.headerLength] at hpayload ⊢
    omega
  obtain ⟨low, high, hheader, hdeclared⟩ := exists_header_eq code hshort
  let rest := payload ++ [checksum (Frame.body code payload)]
  have hbytes : Token.header code low high ++ rest =
      Frame.body code payload ++ [checksum (Frame.body code payload)] := by
    rw [← List.append_assoc, ← hheader]
    rfl
  refine ⟨low, high, rest, ⟨⟨?_, ?_, ?_⟩, ?_⟩, ?_⟩
  · omega
  · omega
  · rw [hdeclared, List.length_append, List.length_singleton, Frame.minLength]
    omega
  · rw [hbytes]
    exact checksum_append_self _
  · rw [Token.frame?, hbytes]

theorem Frame.build_of_token
    {limit : Nat} {code : CommandCode} {low high : UInt8} {rest : List UInt8}
    {frame : Frame} (hmax : limit ≤ Frame.maxLength)
    (hvalid : (Token.frame code low high rest).Valid limit)
    (hframe : (Token.frame code low high rest).frame? = some frame) :
    frame.length ≤ limit ∧ Frame.build frame.code frame.payload = .ok frame := by
  obtain ⟨hcomplete, hsum⟩ := hvalid
  rw [Token.frame?, Option.some.injEq] at hframe
  subst hframe
  obtain ⟨payload, last, rfl⟩ : ∃ payload last, rest = payload ++ [last] :=
    ⟨_, _, (List.dropLast_concat_getLast hcomplete.rest_ne_nil).symm⟩
  have hlength := hcomplete.length_eq
  rw [List.length_append, List.length_singleton] at hlength
  have hpayload :
      (⟨code, Token.header code low high ++ (payload ++ [last])⟩ : Frame).payload =
        payload := by
    rw [Frame.payload, List.drop_left' (Token.length_header code low high),
      List.dropLast_concat]
  have hheader : Frame.header code (Frame.minLength + payload.length) =
      Token.header code low high := by
    have hdeclared : Frame.minLength + payload.length =
        LittleEndian.toNat [low, high] := by
      rw [Frame.minLength]
      have := hlength
      rw [Token.declared] at this
      omega
    have hfield := LittleEndian.ofNat_toNat [low, high]
    rw [Frame.header, hdeclared]
    exact congrArg _ hfield
  have hbody : Frame.body code payload = Token.header code low high ++ payload := by
    rw [Frame.body, hheader]
  have hlast : last = checksum (Frame.body code payload) := by
    rw [← List.append_assoc, checksum_concat, ← hbody] at hsum
    exact (UInt8.xor_eq_zero_iff.1 hsum).symm
  constructor
  · simp only [Frame.length, List.length_append, Token.length_header,
      List.length_singleton]
    have := hcomplete.le_limit
    omega
  · rw [hpayload, Frame.build_eq_ok_iff]
    refine ⟨?_, ?_⟩
    · have := hcomplete.le_limit
      simp only [Frame.maxPayload, Frame.maxLength, Frame.minLength,
        Frame.headerLength] at hmax hlength ⊢
      omega
    · rw [← hlast, hbody, List.append_assoc]

/-! ## Streams of frames -/

theorem Receiver.exists_clean
    {requested : Nat} {history : List LinkEvent} {receiver : Receiver}
    (hclean :
      (receiver = ((withLimit requested).run history).1 ∧ receiver.stage = 0) ∨
        receiver = ((withLimit requested).run history).1.reset) :
    ∃ tally, receiver = holding (withLimit requested).limit tally [] := by
  obtain ⟨tail, tally, _, hrun⟩ := exists_run_eq_holding requested history
  rw [hrun] at hclean
  rcases hclean with ⟨rfl, hstage⟩ | rfl
  · rw [stage_holding] at hstage
    have hnil : tail = [] := List.length_eq_zero_iff.1 (by omega)
    exact ⟨tally, by rw [hnil]⟩
  · exact ⟨_, reset_holding _ tally tail⟩

theorem Receiver.run_frames
    {limit : Nat} {frames : List Frame} (hmax : limit ≤ Frame.maxLength) (tally : Tally)
    (hframes : ∀ frame ∈ frames, frame.length ≤ limit ∧
      ∃ code payload, Frame.build code payload = .ok frame) :
    (holding limit tally []).run ((frames.flatMap Frame.bytes).map LinkEvent.byte) =
      (holding limit { tally with frames := tally.frames + UInt32.ofNat frames.length } [],
        frames.flatMap fun frame =>
          List.replicate (frame.length - 1) none ++ [some frame]) := by
  induction frames generalizing tally with
  | nil => simp
  | cons frame frames ih =>
      obtain ⟨hlimit, code, payload, hbuild⟩ := hframes frame (by simp)
      obtain ⟨low, high, rest, hvalid, hframe⟩ := Frame.exists_token hbuild hlimit
      have hbytes : (Token.frame code low high rest).bytes = frame.bytes := by
        rw [Token.frame?, Option.some.injEq] at hframe
        rw [← hframe]
        rfl
      have hrun := run_token hmax tally hvalid
      rw [hbytes] at hrun
      have hcount : tally.frames + 1 + UInt32.ofNat frames.length =
          tally.frames + UInt32.ofNat (frame :: frames).length := by
        rw [List.length_cons, UInt32.ofNat_add, UInt32.add_assoc, UInt32.add_comm 1]
        rfl
      rw [List.flatMap_cons, List.map_append, run_append, hrun, Token.count,
        ih _ fun other hmem => hframes other (by simp [hmem])]
      simp only [hcount, Token.answers, hbytes, hframe, List.flatMap_cons, Frame.length]

theorem exists_frames
    {requested : Nat} {sent : List (CommandCode × List UInt8)}
    (hfits : ∀ message ∈ sent, 7 + message.2.length ≤ requested ∧
      7 + message.2.length ≤ 2990) :
    ∃ frames : List Frame,
      List.Forall₂ (fun message frame =>
          Frame.build message.1 message.2 = .ok frame ∧
            frame.code = message.1 ∧ frame.payload = message.2) sent frames ∧
        ∀ frame ∈ frames, frame.length ≤ (Receiver.withLimit requested).limit ∧
          ∃ code payload, Frame.build code payload = .ok frame := by
  induction sent with
  | nil => exact ⟨[], .nil, by simp⟩
  | cons message sent ih =>
      obtain ⟨frames, hframes, hall⟩ :=
        ih fun other hmem => hfits other (List.mem_cons_of_mem _ hmem)
      obtain ⟨hrequested, hmax⟩ := hfits message (by simp)
      obtain ⟨frame, hbuild⟩ : ∃ frame, Frame.build message.1 message.2 = .ok frame :=
        Frame.exists_build_iff.2 (by omega)
      have hlength := Frame.length_of_build hbuild
      have hcode : frame.code = message.1 := by
        rw [(Frame.build_eq_ok_iff.1 hbuild).2]
      refine ⟨frame :: frames,
        .cons ⟨hbuild, hcode, Frame.payload_of_build_eq_ok hbuild⟩ hframes, ?_⟩
      intro other hmem
      rcases List.mem_cons.1 hmem with rfl | hmem
      · refine ⟨?_, _, _, hbuild⟩
        simp only [Receiver.withLimit_limit, Frame.minLength, Frame.headerLength,
          Frame.maxLength] at hlength ⊢
        omega
      · exact hall other hmem

/-- Frames can be built for all payloads that fit.  A receiver in a clean state hands out
exactly the frames that are sent, each on its last byte; and whatever frame a receiver
hands out on any bytes, it is the one built from its payload. -/
theorem frame_stream_roundTrip (requested : Nat) :
    (∀ (code : CommandCode) (payload : List UInt8),
      (∃ frame, Frame.build code payload = .ok frame) ↔ payload.length ≤ 2983) ∧
    (∀ (history : List LinkEvent) (receiver : Receiver)
      (sent : List (CommandCode × List UInt8)),
      (receiver = ((Receiver.withLimit requested).run history).1 ∧ receiver.stage = 0) ∨
          receiver = ((Receiver.withLimit requested).run history).1.reset →
        (∀ message ∈ sent, 7 + message.2.length ≤ requested ∧
          7 + message.2.length ≤ 2990) →
        ∃ frames : List Frame,
          List.Forall₂ (fun message frame =>
              Frame.build message.1 message.2 = .ok frame ∧
                frame.code = message.1 ∧ frame.payload = message.2) sent frames ∧
          let outcome := receiver.run ((frames.flatMap Frame.bytes).map LinkEvent.byte)
          outcome.2 = (frames.flatMap fun frame =>
              List.replicate (frame.length - 1) none ++ [some frame]) ∧
            outcome.1.stage = 0 ∧
            outcome.1.buffer = #[] ∧
            outcome.1.tally = { receiver.tally with
              frames := receiver.tally.frames + UInt32.ofNat sent.length }) ∧
    (∀ (events : List LinkEvent) (byte : UInt8) (frame : Frame),
      (((Receiver.withLimit requested).run events).1.feed byte).2 = some frame →
        frame.length ≤ (Receiver.withLimit requested).limit ∧
          Frame.build frame.code frame.payload = .ok frame) := by
  have hmax := Receiver.limit_le_maxLength requested
  refine ⟨fun code payload => Frame.exists_build_iff, ?_, ?_⟩
  · intro history receiver sent hclean hfits
    obtain ⟨tally, rfl⟩ := Receiver.exists_clean hclean
    obtain ⟨frames, hframes, hall⟩ := exists_frames hfits
    refine ⟨frames, hframes, ?_⟩
    dsimp only
    rw [Receiver.run_frames hmax tally hall, hframes.length_eq]
    exact ⟨rfl, rfl, rfl, rfl⟩
  · intro events byte frame hframe
    obtain ⟨tail, tally, hpending, hrun⟩ := Receiver.exists_run_eq_holding requested events
    rw [hrun] at hframe
    rcases hpending.unfinished.feed hmax tally byte with
      ⟨_, hfeed⟩ | ⟨token, hvalid, _, hfeed⟩
    · rw [hfeed] at hframe
      contradiction
    · rw [hfeed] at hframe
      cases token with
      | frame code low high rest => exact Frame.build_of_token hmax hvalid hframe
      | _ => contradiction

/-- After a broken preamble and a reset, a payload that itself looks like the start of a
frame comes through. -/
theorem frame_stream_roundTrip_lookalike :
    let history : List LinkEvent := [.byte 0xAA, .byte 0xAA]
    let receiver := ((Receiver.withLimit 64).run history).1.reset
    let sent : List (CommandCode × List UInt8) :=
      [(.executeOpaque, [0xAA, 0xAA, 0xAA, 0x55, 7]), (.scrollBuffer, [1, 0])]
    (∀ message ∈ sent, 7 + message.2.length ≤ 64 ∧ 7 + message.2.length ≤ 2990) ∧
      ∃ frames : List Frame,
        (receiver.run ((frames.flatMap Frame.bytes).map LinkEvent.byte)).2 =
          (frames.flatMap fun frame =>
            List.replicate (frame.length - 1) none ++ [some frame]) ∧
        frames.map Frame.payload = [[0xAA, 0xAA, 0xAA, 0x55, 7], [1, 0]] := by
  intro history receiver sent
  have hfits : ∀ message ∈ sent, 7 + message.2.length ≤ 64 ∧
      7 + message.2.length ≤ 2990 := by decide
  obtain ⟨frames, hframes, hanswers, _⟩ :=
    (frame_stream_roundTrip 64).2.1 history receiver sent (.inr rfl) hfits
  refine ⟨hfits, frames, hanswers, ?_⟩
  obtain ⟨first, _, hfirst, hrest, rfl⟩ := List.forall₂_cons_left_iff.1 hframes
  obtain ⟨second, _, hsecond, hnone, rfl⟩ := List.forall₂_cons_left_iff.1 hrest
  obtain rfl := List.forall₂_nil_left_iff.1 hnone
  rw [List.map_cons, List.map_cons, hfirst.2.2, hsecond.2.2]
  rfl

end PanelLink
