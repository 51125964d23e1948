import PanelLink.Proofs.Wire.Reception

/-!
# Consistent receivers

The fields of a receiver fit together whatever it has been fed.  It holds fewer bytes than the frame
under way has, so a byte always finds room, and it holds a command code before it can complete a
frame.
-/

namespace PanelLink

/-- The phase, the checksum and the declared length are those of the bytes in the buffer. -/
structure Receiver.Consistent (receiver : Receiver) : Prop where
  checksum_eq : receiver.checksum = PanelLink.checksum receiver.buffer.toList
  preamble : ∀ matched, receiver.phase = .preamble matched →
    matched ≤ 2 ∧ receiver.buffer.toList = List.replicate matched 0xAA
  command : receiver.phase = .command → receiver.buffer.toList = List.replicate 3 0xAA
  collecting : receiver.phase = .collecting →
    ∃ (code : CommandCode) (rest : List UInt8),
      receiver.buffer.toList = List.replicate 3 0xAA ++ code.toByte :: rest
  undeclared : receiver.buffer.size < 6 → receiver.declared = none
  declared : 6 ≤ receiver.buffer.size →
    ∃ low high length, receiver.buffer[4]? = some low ∧ receiver.buffer[5]? = some high ∧
      length = low.toNat + 256 * high.toNat ∧ receiver.declared = some length ∧
      7 ≤ length ∧ length ≤ receiver.limit ∧ receiver.buffer.size < length

/-! ## Bytes under way -/

namespace Unfinished

variable {limit : Nat} {tail : List UInt8}

theorem eq_preamble (hunfinished : Unfinished limit tail) (hshort : tail.length ≤ 3) :
    tail = Token.preamble tail.length := by
  cases hunfinished with
  | preamble hmatched => rw [Token.length_preamble]
  | header code hrest =>
      simp only [List.length_append, Token.length_preamble, List.length_cons] at hshort
      omega
  | body code hmin hmax hrest =>
      simp only [List.length_append, Token.length_header, Frame.headerLength] at hshort
      omega

theorem exists_code (hunfinished : Unfinished limit tail) (hlong : 3 < tail.length) :
    ∃ (code : CommandCode) (rest : List UInt8),
      tail = Token.preamble 3 ++ code.toByte :: rest := by
  cases hunfinished with
  | preamble hmatched =>
      rw [Token.length_preamble] at hlong
      omega
  | header code hrest => exact ⟨code, _, rfl⟩
  | @body code low high rest hmin hmax hrest =>
      exact ⟨code, low :: high :: rest, Token.header_append code low high rest⟩

theorem lengthField_bounds (hunfinished : Unfinished limit tail) (hlong : 6 ≤ tail.length) :
    7 ≤ lengthField tail ∧ lengthField tail ≤ limit ∧ tail.length < lengthField tail := by
  cases hunfinished with
  | preamble hmatched =>
      rw [Token.length_preamble] at hlong
      omega
  | header code hrest =>
      simp only [List.length_append, Token.length_preamble, List.length_cons] at hlong
      omega
  | @body code low high rest hmin hmax hrest =>
      have hfield : lengthField (Token.header code low high ++ rest) =
          Token.declared low high := by
        simp [lengthField, Token.header, Token.preamble, List.replicate]
      rw [hfield, List.length_append, Token.length_header]
      exact ⟨hmin, hmax, hrest⟩

end Unfinished

namespace Receiver

/-! ## Fields of a receiver -/

theorem phase_holding (limit : Nat) (tally : Tally) (tail : List UInt8) :
    ((holding limit tally tail).phase = .preamble tail.length ∧ tail.length < 3) ∨
      ((holding limit tally tail).phase = .command ∧ tail.length = 3) ∨
      ((holding limit tally tail).phase = .collecting ∧ 3 < tail.length) := by
  by_cases hshort : tail.length < 3
  · exact .inl ⟨if_pos hshort, hshort⟩
  · by_cases hthree : tail.length = 3
    · exact .inr (.inl ⟨(if_neg hshort).trans (if_pos hthree), hthree⟩)
    · exact .inr (.inr ⟨(if_neg hshort).trans (if_neg hthree), by omega⟩)

theorem consistent_holding
    {limit : Nat} {tail : List UInt8} (tally : Tally) (hunfinished : Unfinished limit tail) :
    (holding limit tally tail).Consistent where
  checksum_eq := rfl
  preamble := by
    intro matched hphase
    rcases phase_holding limit tally tail with ⟨hheld, hlength⟩ | ⟨hheld, -⟩ | ⟨hheld, -⟩
    · cases hheld.symm.trans hphase
      exact ⟨by omega, hunfinished.eq_preamble (by omega)⟩
    · cases hheld.symm.trans hphase
    · cases hheld.symm.trans hphase
  command := by
    intro hphase
    rcases phase_holding limit tally tail with ⟨hheld, -⟩ | ⟨-, hlength⟩ | ⟨hheld, -⟩
    · cases hheld.symm.trans hphase
    · have htail := hunfinished.eq_preamble hlength.le
      rw [hlength] at htail
      exact htail
    · cases hheld.symm.trans hphase
  collecting := by
    intro hphase
    rcases phase_holding limit tally tail with ⟨hheld, -⟩ | ⟨hheld, -⟩ | ⟨-, hlength⟩
    · cases hheld.symm.trans hphase
    · cases hheld.symm.trans hphase
    · exact hunfinished.exists_code hlength
  undeclared := fun hshort => if_pos hshort
  declared := by
    intro hlong
    have hlong' : 6 ≤ tail.length := hlong
    obtain ⟨hmin, hmax, hlt⟩ := hunfinished.lengthField_bounds hlong'
    have hfield : lengthField tail = tail[4].toNat + 256 * tail[5].toNat := by
      rw [lengthField, List.getD_eq_getElem?_getD, List.getD_eq_getElem?_getD,
        List.getElem?_eq_getElem (show 4 < tail.length by omega),
        List.getElem?_eq_getElem (show 5 < tail.length by omega)]
      rfl
    exact ⟨tail[4], tail[5], lengthField tail, by simp [holding], by simp [holding], hfield,
      if_neg (by omega), hmin, hmax, hlt⟩

theorem consistent_run (requested : Nat) (events : List LinkEvent) :
    ((withLimit requested).run events).1.Consistent ∧
      ((withLimit requested).run events).1.limit = (withLimit requested).limit := by
  obtain ⟨tail, tally, hpending, hrun⟩ := exists_run_eq_holding requested events
  rw [hrun]
  exact ⟨consistent_holding tally hpending.unfinished, rfl⟩

/-! ## The next byte -/

/-- The byte completes what the receiver holds, and `ready` is then to be checked. -/
def Completes (receiver : Receiver) (byte : UInt8) (ready : Receiver) : Prop :=
  receiver.phase = .collecting ∧
    ∃ kept, receiver.keep? byte = some kept ∧ kept.readHeader? = some ready ∧
      ready.declared = some ready.buffer.size

variable {receiver ready : Receiver} {byte : UInt8}

theorem Completes.buffer_eq (hcompletes : receiver.Completes byte ready) :
    ready.buffer = receiver.buffer.push byte := by
  obtain ⟨-, kept, hkeep, hready, -⟩ := hcompletes
  obtain ⟨declared, rfl⟩ := exists_eq_of_readHeader? hready
  rw [eq_of_keep? hkeep]

theorem Completes.feed_eq (hcompletes : receiver.Completes byte ready) :
    receiver.feed byte = ready.finish := by
  obtain ⟨hphase, kept, hkeep, hready, hlength⟩ := hcompletes
  rw [feed, hphase]
  simp only [collect, hkeep, hready, if_pos hlength]

theorem finish_of_code
    {code : CommandCode} (hsum : receiver.checksum = 0)
    (hcode : CommandCode.ofByte? (receiver.buffer.getD Frame.preambleLength 0) = some code) :
    receiver.finish = (receiver.countFrame.resync, some ⟨code, receiver.buffer.toList⟩) := by
  rw [finish, if_neg (not_not_intro hsum)]
  simp only [hcode]

namespace Consistent

theorem size_lt (hconsistent : receiver.Consistent) (hmax : receiver.limit ≤ Frame.maxLength) :
    receiver.buffer.size < Frame.maxLength := by
  by_cases hlong : 6 ≤ receiver.buffer.size
  · obtain ⟨low, high, length, -, -, -, -, -, hlimit, hlt⟩ := hconsistent.declared hlong
    omega
  · simp only [Frame.maxLength]
    omega

theorem keep?_eq
    (hconsistent : receiver.Consistent) (hmax : receiver.limit ≤ Frame.maxLength)
    (byte : UInt8) :
    receiver.keep? byte = some { receiver with
      buffer := receiver.buffer.push byte
      checksum := receiver.checksum ^^^ byte } :=
  if_pos (hconsistent.size_lt hmax)

/-- What is to be checked at the end of a frame has a command code. -/
theorem exists_code_of_completes
    (hconsistent : receiver.Consistent) (hcompletes : receiver.Completes byte ready) :
    ∃ code, CommandCode.ofByte? (ready.buffer.getD Frame.preambleLength 0) = some code := by
  obtain ⟨code, rest, hbytes⟩ := hconsistent.collecting hcompletes.1
  have hbuffer : ready.buffer.toList =
      List.replicate 3 0xAA ++ code.toByte :: (rest ++ [byte]) := by
    rw [hcompletes.buffer_eq, Array.toList_push, hbytes, List.append_assoc, List.cons_append]
  have hbyte : ready.buffer.getD Frame.preambleLength 0 = code.toByte := by
    rw [Array.getD_eq_getD_getElem?, ← Array.getElem?_toList, hbuffer]
    rfl
  rw [hbyte]
  exact ⟨code, CommandCode.ofByte?_toByte code⟩

theorem phase_of_long (hconsistent : receiver.Consistent) (hlong : 6 ≤ receiver.buffer.size) :
    receiver.phase = .collecting := by
  rw [← Array.length_toList] at hlong
  cases hphase : receiver.phase with
  | preamble matched =>
      obtain ⟨hmatched, hbytes⟩ := hconsistent.preamble matched hphase
      rw [hbytes, List.length_replicate] at hlong
      omega
  | command =>
      rw [hconsistent.command hphase, List.length_replicate] at hlong
      omega
  | collecting => rfl

/-- The last byte of the declared length completes what the receiver holds. -/
theorem completes
    (hconsistent : receiver.Consistent) (hmax : receiver.limit ≤ Frame.maxLength)
    (hlast : receiver.declared = some (receiver.buffer.size + 1)) (byte : UInt8) :
    receiver.Completes byte { receiver with
      buffer := receiver.buffer.push byte
      checksum := receiver.checksum ^^^ byte } := by
  have hlong : 6 ≤ receiver.buffer.size := by
    by_contra hshort
    rw [hconsistent.undeclared (by omega)] at hlast
    contradiction
  refine ⟨hconsistent.phase_of_long hlong, _, hconsistent.keep?_eq hmax byte, ?_, ?_⟩
  · apply if_neg
    simp only [Array.size_push, Frame.headerLength]
    omega
  · rw [Array.size_push]
    exact hlast

end Consistent

end Receiver

/-- A receiver keeps its limit and stays consistent whatever it is fed.  So there is room for every
byte, a command code is known wherever a frame is checked, and a frame whose bytes cancel out is
handed out with its last byte. -/
theorem receiver_stays_consistent (requested : Nat) (events : List LinkEvent) :
    let receiver := ((Receiver.withLimit requested).run events).1
    receiver.limit = max 7 (min requested 2990) ∧
      receiver.Consistent ∧
      (∀ byte, ∃ kept, receiver.keep? byte = some kept) ∧
      (∀ byte ready, receiver.Completes byte ready →
        ∃ code, CommandCode.ofByte? (ready.buffer.getD Frame.preambleLength 0) = some code ∧
          (ready.checksum = 0 → receiver.feed byte =
            (ready.countFrame.resync, some ⟨code, ready.buffer.toList⟩))) ∧
      ∀ byte, receiver.declared = some (receiver.buffer.size + 1) →
        checksum (receiver.buffer.toList ++ [byte]) = 0 →
        ∃ code, (receiver.feed byte).2 = some ⟨code, receiver.buffer.toList ++ [byte]⟩ := by
  intro receiver
  obtain ⟨hconsistent, hlimit⟩ := Receiver.consistent_run requested events
  have hmax : receiver.limit ≤ Frame.maxLength := by
    rw [hlimit]
    exact Receiver.limit_le_maxLength requested
  have hcompletes : ∀ byte ready, receiver.Completes byte ready →
      ∃ code, CommandCode.ofByte? (ready.buffer.getD Frame.preambleLength 0) = some code ∧
        (ready.checksum = 0 → receiver.feed byte =
          (ready.countFrame.resync, some ⟨code, ready.buffer.toList⟩)) := by
    intro byte ready hready
    obtain ⟨code, hcode⟩ := hconsistent.exists_code_of_completes hready
    refine ⟨code, hcode, ?_⟩
    intro hsum
    rw [hready.feed_eq, Receiver.finish_of_code hsum hcode]
  refine ⟨hlimit, hconsistent, fun byte => ⟨_, hconsistent.keep?_eq hmax byte⟩, hcompletes, ?_⟩
  intro byte hlast hsum
  obtain ⟨code, -, hfeed⟩ := hcompletes byte _ (hconsistent.completes hmax hlast byte)
  rw [checksum_concat, ← hconsistent.checksum_eq] at hsum
  refine ⟨code, ?_⟩
  rw [hfeed hsum, Array.toList_push]

/-- Six of seven bytes are held with the declared length, and the seventh brings the frame. -/
theorem receiver_stays_consistent_before_last_byte :
    let events : List LinkEvent :=
      [.byte 0xAA, .reset, .byte 0xAA, .byte 0xAA, .byte 0xAA, .byte 0x55, .byte 7, .byte 0]
    let receiver := ((Receiver.withLimit 3).run events).1
    receiver.limit = 7 ∧ receiver.phase = .collecting ∧ receiver.declared = some 7 ∧
      ∃ code, (receiver.feed 0xF8).2 =
        some ⟨code, [0xAA, 0xAA, 0xAA, 0x55, 7, 0, 0xF8]⟩ := by
  intro events receiver
  obtain ⟨hlimit, -, -, -, hlast⟩ := receiver_stays_consistent 3 events
  exact ⟨hlimit, by decide, by decide, hlast 0xF8 (by decide) (by decide)⟩

end PanelLink
