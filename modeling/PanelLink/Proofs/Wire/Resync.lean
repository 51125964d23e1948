import PanelLink.Proofs.Wire.RoundTrip

/-!
# Finding the way back

A beginning of a token is shorter than the longest frame, and each byte makes it longer by one or
ends it.  So whatever a receiver has got into, it is out again before the bytes it holds and those
that follow make up one longest frame.
-/

namespace PanelLink

theorem Unfinished.length_lt
    {limit : Nat} {tail : List UInt8} (hmin : Frame.minLength ≤ limit)
    (hunfinished : Unfinished limit tail) : tail.length < limit := by
  simp only [Frame.minLength, Frame.headerLength] at hmin
  cases hunfinished with
  | @preamble matched hmatched =>
      rw [Token.length_preamble]
      omega
  | @header code rest hrest =>
      rw [List.length_append, Token.length_preamble, List.length_cons]
      omega
  | @body code low high rest hlow hlimit hrest =>
      rw [List.length_append, Token.length_header]
      omega

namespace Receiver

/-- Among so many bytes there is one that ends the token under way. -/
theorem exists_run_holding_nil
    {limit : Nat} {tail bytes : List UInt8} (hmin : Frame.minLength ≤ limit)
    (hmax : limit ≤ Frame.maxLength) (tally : Tally) (hunfinished : Unfinished limit tail)
    (hlength : limit ≤ tail.length + bytes.length) :
    ∃ heard rest tally', bytes = heard ++ rest ∧ heard ≠ [] ∧
      ((holding limit tally tail).run (heard.map LinkEvent.byte)).1 = holding limit tally' [] := by
  induction bytes generalizing tail with
  | nil =>
      have hshort := hunfinished.length_lt hmin
      rw [List.length_nil] at hlength
      omega
  | cons byte bytes ih =>
      rcases hunfinished.feed hmax tally byte with
        ⟨hmore, hfeed⟩ | ⟨token, _, _, hfeed⟩
      · have hlength' : limit ≤ (tail ++ [byte]).length + bytes.length := by
          rw [List.length_append, List.length_singleton]
          rw [List.length_cons] at hlength
          omega
        obtain ⟨heard, rest, tally', rfl, _, hrun⟩ := ih hmore hlength'
        refine ⟨byte :: heard, rest, tally', rfl, List.cons_ne_nil _ _, ?_⟩
        rw [List.map_cons, run_cons, handle, hfeed]
        exact hrun
      · refine ⟨[byte], bytes, token.count tally, rfl, List.cons_ne_nil _ _, ?_⟩
        rw [List.map_singleton, run_cons, handle, hfeed]
        rfl

/-- Between tokens, bytes that begin no preamble change the counters only. -/
theorem exists_run_noise
    {limit : Nat} {noise : List UInt8} (hmax : limit ≤ Frame.maxLength) (tally : Tally)
    (hnoise : ∀ byte ∈ noise, byte ≠ Frame.preambleByte) :
    ∃ tally', ((holding limit tally []).run (noise.map LinkEvent.byte)).1 =
      holding limit tally' [] := by
  have hbytes : (noise.map Token.junk).flatMap Token.bytes = noise := by
    rw [List.flatMap_map]
    exact List.flatMap_singleton' noise
  have hvalid : ∀ token ∈ noise.map Token.junk, token.Valid limit := by
    intro token hmem
    obtain ⟨byte, hbyte, rfl⟩ := List.mem_map.1 hmem
    exact hnoise byte hbyte
  have hrun := run_tokens hmax tally hvalid
  rw [hbytes] at hrun
  rw [hrun]
  exact ⟨_, rfl⟩

/-- Enough noise ends a token under way and brings no new one. -/
theorem exists_run_enough_noise
    {limit : Nat} {tail noise : List UInt8} (hmin : Frame.minLength ≤ limit)
    (hmax : limit ≤ Frame.maxLength) (tally : Tally) (hunfinished : Unfinished limit tail)
    (hlength : limit ≤ noise.length) (hnoise : ∀ byte ∈ noise, byte ≠ Frame.preambleByte) :
    ∃ tally', ((holding limit tally tail).run (noise.map LinkEvent.byte)).1 =
      holding limit tally' [] := by
  obtain ⟨heard, rest, tally', rfl, _, hrun⟩ :=
    exists_run_holding_nil hmin hmax tally hunfinished (hlength.trans (Nat.le_add_left _ _))
  rw [List.map_append, run_append, hrun]
  exact exists_run_noise hmax tally' fun byte hmem => hnoise byte (List.mem_append_right _ hmem)

end Receiver

/-- Whatever a receiver has been fed, the bytes it holds are fewer than the longest frame has, and
it drops or hands them out before that many have come.  So it is between frames after that many
bytes of noise, and then it hands out every frame that is sent, without a reset. -/
theorem receiver_finds_back (requested : Nat) (history : List LinkEvent) :
    let limit := (Receiver.withLimit requested).limit
    let receiver := ((Receiver.withLimit requested).run history).1
    receiver.buffered < limit ∧
      (∀ bytes : List UInt8, bytes.length = limit - receiver.buffered →
        ∃ heard, heard <+: bytes ∧ heard ≠ [] ∧
          let next := (receiver.run (heard.map LinkEvent.byte)).1
          next.stage = 0 ∧ next.buffered = 0) ∧
      ∀ noise : List UInt8, limit ≤ noise.length →
        (∀ byte ∈ noise, byte ≠ Frame.preambleByte) →
        let quiet := (receiver.run (noise.map LinkEvent.byte)).1
        quiet.stage = 0 ∧ quiet.buffered = 0 ∧
          ∀ frames : List Frame,
            (∀ frame ∈ frames, frame.length ≤ limit ∧
              ∃ code payload, Frame.build code payload = .ok frame) →
            let outcome := quiet.run ((frames.flatMap Frame.bytes).map LinkEvent.byte)
            outcome.2 = (frames.flatMap fun frame =>
                List.replicate (frame.length - 1) none ++ [some frame]) ∧
              outcome.1.stage = 0 ∧ outcome.1.buffered = 0 := by
  intro limit receiver
  have hmin : Frame.minLength ≤ limit := Receiver.minLength_le_limit requested
  have hmax : limit ≤ Frame.maxLength := Receiver.limit_le_maxLength requested
  obtain ⟨tail, tally, hpending, hrun⟩ := Receiver.exists_run_eq_holding requested history
  have hreceiver : receiver = Receiver.holding limit tally tail := hrun
  have hunfinished := hpending.unfinished
  have hbuffered : receiver.buffered = tail.length := by
    rw [hreceiver]
    exact List.size_toArray
  rw [hbuffered, hreceiver]
  refine ⟨hunfinished.length_lt hmin, ?_, ?_⟩
  · intro bytes hlength
    have henough : limit ≤ tail.length + bytes.length := by omega
    obtain ⟨heard, rest, tally', rfl, hheard, hnext⟩ :=
      Receiver.exists_run_holding_nil hmin hmax tally hunfinished henough
    refine ⟨heard, List.prefix_append heard rest, hheard, ?_⟩
    dsimp only
    rw [hnext]
    exact ⟨rfl, rfl⟩
  · intro noise hlength hnoise
    obtain ⟨tally', hquiet⟩ :=
      Receiver.exists_run_enough_noise hmin hmax tally hunfinished hlength hnoise
    dsimp only
    rw [hquiet]
    refine ⟨rfl, rfl, ?_⟩
    intro frames hframes
    rw [Receiver.run_frames hmax tally' hframes]
    exact ⟨rfl, rfl, rfl⟩

/-- A header that announces ten bytes and brings eight holds the receiver for two more.  After
sixteen bytes of noise it hands out a frame at once. -/
theorem receiver_finds_back_from_header :
    let history : List LinkEvent :=
      [0xAA, 0xAA, 0xAA, 0x11, 10, 0, 0xAA, 0xAA].map LinkEvent.byte
    let receiver := ((Receiver.withLimit 16).run history).1
    let noise : List UInt8 := List.replicate 16 0x55
    let frame : Frame := ⟨.executeOpaque, [0xAA, 0xAA, 0xAA, 0x55, 7, 0, 0xF8]⟩
    receiver.stage = 4 ∧ receiver.buffered = 8 ∧
      (∃ heard, heard <+: List.replicate 8 0x55 ∧ heard ≠ [] ∧
        (receiver.run (heard.map LinkEvent.byte)).1.stage = 0) ∧
      ((receiver.run (noise.map LinkEvent.byte)).1.run (frame.bytes.map LinkEvent.byte)).2 =
        List.replicate 6 none ++ [some frame] := by
  intro history receiver noise frame
  obtain ⟨_, hback, hnoise⟩ := receiver_finds_back 16 history
  obtain ⟨heard, hprefix, hheard, hstage, _⟩ := hback (List.replicate 8 0x55) (by decide +kernel)
  obtain ⟨_, _, hframes⟩ := hnoise noise (by decide +kernel) (by decide +kernel)
  have hframe : ∀ other ∈ [frame], other.length ≤ (Receiver.withLimit 16).limit ∧
      ∃ code payload, Frame.build code payload = .ok other := by
    intro other hmem
    rw [List.mem_singleton.1 hmem]
    exact ⟨by decide, .executeOpaque, [], by decide⟩
  exact ⟨by decide +kernel, by decide +kernel, ⟨heard, hprefix, hheard, hstage⟩,
    (hframes [frame] hframe).1⟩

end PanelLink
