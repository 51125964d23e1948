import PanelLink.Event
import PanelLink.Proofs.Wire.Token

/-!
# Reception

A receiver between two calls is determined by its limit, its tally and the bytes
of the token under way.  From this the whole behaviour follows: a byte either
continues the token, or completes it, and then the token is counted and its frame
handed out.
-/

namespace PanelLink

def lengthField (bytes : List UInt8) : Nat :=
  Token.declared (bytes.getD 4 0) (bytes.getD 5 0)

namespace Receiver

/-- The receiver that has got this far in a token. -/
def holding (limit : Nat) (tally : Tally) (tail : List UInt8) : Receiver where
  phase :=
    if tail.length < 3 then .preamble tail.length
    else if tail.length = 3 then .command
    else .collecting
  buffer := tail.toArray
  checksum := PanelLink.checksum tail
  declared := if tail.length < 6 then none else some (lengthField tail)
  limit := limit
  tally := tally

@[simp] theorem holding_nil (limit : Nat) (tally : Tally) :
    holding limit tally [] = { limit, tally } := rfl

theorem withLimit_eq_holding
    {limit : Nat} (hmin : Frame.minLength ≤ limit) (hmax : limit ≤ Frame.maxLength) :
    withLimit limit = holding limit {} [] := by
  have hclamp : max Frame.minLength (min limit Frame.maxLength) = limit := by
    omega
  rw [withLimit, hclamp]
  rfl

theorem stage_holding (limit : Nat) (tally : Tally) (tail : List UInt8) :
    (holding limit tally tail).stage = min 4 tail.length := by
  unfold stage holding
  by_cases hpreamble : tail.length < 3
  · simp [hpreamble]
    omega
  · by_cases hcommand : tail.length = 3
    · simp [hcommand, Frame.preambleLength]
    · simp [hpreamble, hcommand, Frame.preambleLength]
      omega

theorem eq_of_keep? {receiver kept : Receiver} {byte : UInt8}
    (hkeep : receiver.keep? byte = some kept) :
    kept = { receiver with
      buffer := receiver.buffer.push byte
      checksum := receiver.checksum ^^^ byte } := by
  unfold keep? at hkeep
  split at hkeep
  next => exact (Option.some.inj hkeep).symm
  next => contradiction

theorem exists_eq_of_readHeader? {receiver ready : Receiver}
    (hready : receiver.readHeader? = some ready) :
    ∃ declared, ready = { receiver with declared } := by
  unfold readHeader? at hready
  split at hready
  next =>
    dsimp only at hready
    split at hready
    next => contradiction
    next => exact ⟨_, (Option.some.inj hready).symm⟩
  next => exact ⟨receiver.declared, (Option.some.inj hready).symm⟩

theorem keep?_holding
    {limit : Nat} {tally : Tally} {tail : List UInt8} (byte : UInt8)
    (hroom : tail.length < Frame.maxLength) :
    (holding limit tally tail).keep? byte =
      some { holding limit tally tail with
        buffer := (tail ++ [byte]).toArray
        checksum := PanelLink.checksum (tail ++ [byte]) } := by
  simp [keep?, holding, hroom]

theorem holding_header
    (limit : Nat) (tally : Tally) (code : CommandCode) (low high : UInt8)
    (rest : List UInt8) :
    holding limit tally (Token.header code low high ++ rest) = {
      phase := .collecting
      buffer := (Token.header code low high ++ rest).toArray
      checksum := PanelLink.checksum (Token.header code low high ++ rest)
      declared := some (Token.declared low high)
      limit := limit
      tally := tally } := by
  have hlong : ¬ Frame.headerLength + rest.length < 3 := by
    simp only [Frame.headerLength]
    omega
  have hlong' : Frame.headerLength + rest.length ≠ 3 := by
    simp only [Frame.headerLength]
    omega
  have hfield : lengthField (Token.header code low high ++ rest) =
      Token.declared low high := by
    simp [lengthField, Token.header, Token.preamble, List.replicate]
  have hheader : ¬ Frame.headerLength + rest.length < 6 := by
    simp only [Frame.headerLength]
    omega
  simp [holding, hlong, hlong', hfield, hheader]

/-! ## One byte -/

theorem feed_preamble
    (limit : Nat) (tally : Tally) {matched : Nat} (hmatched : matched < 3) :
    (holding limit tally (Token.preamble matched)).feed Frame.preambleByte =
      (holding limit tally (Token.preamble (matched + 1)), none) := by
  have hbytes : Token.preamble (matched + 1) =
      Token.preamble matched ++ [Frame.preambleByte] := List.replicate_succ'
  have hphase : (holding limit tally (Token.preamble matched)).phase =
      .preamble matched := by
    simp [holding, hmatched]
  have hroom : (Token.preamble matched).length < Frame.maxLength := by
    rw [Token.length_preamble, Frame.maxLength]
    omega
  have hshort : matched < 6 := by omega
  have hshort' : matched + 1 < 6 := by omega
  rw [feed, hphase]
  simp only [if_true, keep, keep?_holding _ hroom, Option.getD_some]
  rw [hbytes]
  by_cases hlast : matched + 1 = 3
  · simp [holding, hlast, hshort, Frame.preambleLength]
  · have hmore : matched + 1 < 3 := by omega
    simp [holding, hlast, hmore, hshort, hshort', Frame.preambleLength]

theorem feed_preamble_of_ne
    (limit : Nat) (tally : Tally) {matched : Nat} {byte : UInt8}
    (hmatched : matched < 3) (hbyte : byte ≠ Frame.preambleByte) :
    (holding limit tally (Token.preamble matched)).feed byte =
      (holding limit
        (if matched = 0 then Token.count tally (.junk byte)
          else Token.count tally (.brokenPreamble matched byte)) [], none) := by
  have hphase : (holding limit tally (Token.preamble matched)).phase =
      .preamble matched := by
    simp [holding, hmatched]
  rw [feed, hphase]
  by_cases hzero : matched = 0
  · simp [hbyte, hzero, countDiscarded, resync, holding, Token.count]
  · simp [hbyte, hzero, countSyncLoss, resync, holding, Token.count]

theorem feed_code (limit : Nat) (tally : Tally) (code : CommandCode) :
    (holding limit tally (Token.preamble 3)).feed code.toByte =
      (holding limit tally (Token.preamble 3 ++ [code.toByte]), none) := by
  have hroom : (Token.preamble 3).length < Frame.maxLength := by
    rw [Token.length_preamble, Frame.maxLength]
    omega
  have hphase : (holding limit tally (Token.preamble 3)).phase = .command := by
    simp [holding]
  rw [feed, hphase]
  simp only [CommandCode.ofByte?_toByte, keep, keep?_holding _ hroom, Option.getD_some]
  simp [holding]

theorem feed_no_code
    (limit : Nat) (tally : Tally) {byte : UInt8}
    (hbyte : ∀ code : CommandCode, code.toByte ≠ byte) :
    (holding limit tally (Token.preamble 3)).feed byte =
      (holding limit (Token.count tally (.badCommand byte)) [], none) := by
  have hphase : (holding limit tally (Token.preamble 3)).phase = .command := by
    simp [holding]
  have hnone : CommandCode.ofByte? byte = none := by
    cases hcode : CommandCode.ofByte? byte with
    | none => rfl
    | some code => exact (hbyte code (CommandCode.ofByte?_eq_some_iff.1 hcode)).elim
  rw [feed, hphase]
  simp [hnone, countSyncLoss, resync, holding, Token.count]

theorem feed_header_first
    (limit : Nat) (tally : Tally) (code : CommandCode) (low : UInt8) :
    (holding limit tally (Token.preamble 3 ++ [code.toByte])).feed low =
      (holding limit tally (Token.preamble 3 ++ [code.toByte, low]), none) := by
  have hroom : (Token.preamble 3 ++ [code.toByte]).length < Frame.maxLength := by
    simp [Frame.maxLength]
  have hphase : (holding limit tally (Token.preamble 3 ++ [code.toByte])).phase =
      .collecting := by
    simp [holding]
  rw [feed, hphase]
  simp only [collect, keep?_holding _ hroom]
  simp [readHeader?, holding, Frame.headerLength]

theorem feed_header_last
    (limit : Nat) (tally : Tally) (code : CommandCode) (low high : UInt8) :
    (holding limit tally (Token.preamble 3 ++ [code.toByte, low])).feed high =
      if Token.declared low high < Frame.minLength ∨ limit < Token.declared low high then
        (holding limit (Token.count tally (.badLength code low high)) [], none)
      else
        (holding limit tally (Token.header code low high), none) := by
  have hroom : (Token.preamble 3 ++ [code.toByte, low]).length < Frame.maxLength := by
    simp [Frame.maxLength]
  have hphase : (holding limit tally (Token.preamble 3 ++ [code.toByte, low])).phase =
      .collecting := by
    simp [holding]
  have hfield : headerField (Token.header code low high).toArray =
      Token.declared low high := by
    simp [headerField, Token.header, Token.preamble, Token.declared, List.replicate]
  have hbytes : Token.preamble 3 ++ [code.toByte, low] ++ [high] =
      Token.header code low high := by
    simp [Token.header]
  have hsize : (Token.header code low high).toArray.size = Frame.headerLength := by
    simp
  have hlength : Token.declared low high = lengthField (Token.header code low high) := by
    simp [lengthField, Token.header, Token.preamble, List.replicate]
  rw [feed, hphase]
  simp only [collect, keep?_holding _ hroom, hbytes, readHeader?, hsize, if_true, hfield]
  by_cases hbad :
      Token.declared low high < Frame.minLength ∨ limit < Token.declared low high
  · have hbad' :
        Token.declared low high > (holding limit tally
          (Token.preamble 3 ++ [code.toByte, low])).limit ∨
        Token.declared low high < Frame.minLength := hbad.symm
    rw [if_pos hbad, if_pos hbad']
    simp [countLengthError, resync, holding, Token.count]
  · have hbad' : ¬ (
        Token.declared low high > (holding limit tally
          (Token.preamble 3 ++ [code.toByte, low])).limit ∨
        Token.declared low high < Frame.minLength) := fun h => hbad h.symm
    have hmore : some (Token.declared low high) ≠ some Frame.headerLength := by
      intro heq
      simp only [Frame.minLength, Option.some.injEq] at hbad heq
      omega
    rw [if_neg hbad, if_neg hbad']
    simp only [hsize, if_neg hmore]
    simp [holding, hlength, Frame.headerLength]

theorem feed_body
    {limit : Nat} {low high : UInt8} {rest : List UInt8}
    (tally : Tally) (code : CommandCode) (byte : UInt8) (hmax : limit ≤ Frame.maxLength)
    (hlimit : Token.declared low high ≤ limit)
    (hrest : Frame.headerLength + rest.length < Token.declared low high) :
    (holding limit tally (Token.header code low high ++ rest)).feed byte =
      if Frame.headerLength + rest.length + 1 = Token.declared low high then
        if PanelLink.checksum (Token.header code low high ++ (rest ++ [byte])) = 0 then
          (holding limit (Token.count tally (.frame code low high (rest ++ [byte]))) [],
            some ⟨code, Token.header code low high ++ (rest ++ [byte])⟩)
        else
          (holding limit
            (Token.count tally (.badChecksum code low high (rest ++ [byte]))) [], none)
      else
        (holding limit tally (Token.header code low high ++ (rest ++ [byte])), none) := by
  have hroom : (Token.header code low high ++ rest).length < Frame.maxLength := by
    rw [List.length_append, Token.length_header]
    omega
  have hsize : (Token.header code low high ++ (rest ++ [byte])).toArray.size =
      Frame.headerLength + rest.length + 1 := by
    simp
    omega
  have hpast : Frame.headerLength + rest.length + 1 ≠ Frame.headerLength := by
    omega
  rw [feed]
  simp only [collect, keep?_holding _ hroom, List.append_assoc]
  simp only [holding_header, readHeader?, hsize, if_neg hpast, Option.some.injEq]
  by_cases hlast : Frame.headerLength + rest.length + 1 = Token.declared low high
  · have hcode : CommandCode.ofByte?
        ((Token.header code low high ++ (rest ++ [byte])).toArray.getD
          Frame.preambleLength 0) = some code := by
      simp [Token.header, Token.preamble, List.replicate, Frame.preambleLength]
    rw [if_pos hlast, if_pos hlast.symm, finish]
    by_cases hsum :
        PanelLink.checksum (Token.header code low high ++ (rest ++ [byte])) = 0
    · simp only [hsum, ne_eq, not_true_eq_false, if_false, if_true, hcode]
      rfl
    · simp only [hsum, ne_eq, not_false_eq_true, if_false, if_true]
      rfl
  · rw [if_neg hlast, if_neg (Ne.symm hlast)]

end Receiver

/-! ## Tokens under way -/

theorem Unfinished.pending
    {limit : Nat} {tail : List UInt8} (hmax : limit ≤ Frame.maxLength)
    (hunfinished : Unfinished limit tail) : Pending limit tail := by
  cases hunfinished with
  | @preamble matched hmatched =>
      have hzero : (Token.badCommand 0).Valid limit := by
        intro code
        cases code <;> decide
      refine ⟨.badCommand 0, Token.preamble (3 - matched) ++ [0], hzero, by simp, ?_⟩
      have hsplit : Token.preamble 3 =
          Token.preamble matched ++ Token.preamble (3 - matched) := by
        rw [Token.preamble, Token.preamble, Token.preamble, List.replicate_append_replicate]
        congr 1
        omega
      rw [Token.bytes, hsplit, List.append_assoc]
  | @header code rest hrest =>
      have htoolong : ∀ low : UInt8, (Token.badLength code low 0xFF).Valid limit := by
        intro low
        right
        rw [Token.declared, LittleEndian.toNat, LittleEndian.toNat, LittleEndian.toNat]
        have hhigh : (0xFF : UInt8).toNat = 255 := rfl
        simp only [Frame.maxLength] at hmax
        omega
      rcases rest with - | ⟨low, rest⟩
      · exact ⟨.badLength code 0 0xFF, [0, 0xFF], htoolong 0, by simp,
          by simp [Token.bytes, Token.header]⟩
      · have hnil : rest = [] := by simpa using hrest
        subst hnil
        exact ⟨.badLength code low 0xFF, [0xFF], htoolong low, by simp,
          by simp [Token.bytes, Token.header]⟩
  | @body code low high rest hmin hlimit hrest =>
      let more : List UInt8 :=
        List.replicate (Token.declared low high - (Frame.headerLength + rest.length)) 0
      have hmore : more ≠ [] := by
        simp only [more, ne_eq, List.replicate_eq_nil_iff]
        omega
      have hcomplete : Token.Complete limit low high (rest ++ more) := by
        refine ⟨hmin, hlimit, ?_⟩
        simp only [more, List.length_append, List.length_replicate]
        omega
      by_cases hsum : checksum (Token.header code low high ++ (rest ++ more)) = 0
      · exact ⟨.frame code low high (rest ++ more), more, ⟨hcomplete, hsum⟩, hmore,
          by simp [Token.bytes]⟩
      · exact ⟨.badChecksum code low high (rest ++ more), more, ⟨hcomplete, hsum⟩, hmore,
          by simp [Token.bytes]⟩

theorem Pending.of_append
    {limit : Nat} {tail more : List UInt8} (hpending : Pending limit (tail ++ more)) :
    Pending limit tail := by
  obtain ⟨token, last, hvalid, hlast, hbytes⟩ := hpending
  exact ⟨token, more ++ last, hvalid, by simp [hlast], by simp [hbytes]⟩

theorem pending_nil {limit : Nat} (hmax : limit ≤ Frame.maxLength) : Pending limit [] :=
  Unfinished.pending hmax (Unfinished.preamble (Nat.zero_le 3))

/-- A byte after unfinished bytes leaves them unfinished or completes a token, and the
receiver does accordingly. -/
theorem Unfinished.feed
    {limit : Nat} {tail : List UInt8} (hmax : limit ≤ Frame.maxLength)
    (hunfinished : Unfinished limit tail) (tally : Tally) (byte : UInt8) :
    (Unfinished limit (tail ++ [byte]) ∧
        (Receiver.holding limit tally tail).feed byte =
          (Receiver.holding limit tally (tail ++ [byte]), none)) ∨
      ∃ token, Token.Valid limit token ∧ token.bytes = tail ++ [byte] ∧
        (Receiver.holding limit tally tail).feed byte =
          (Receiver.holding limit (token.count tally) [], token.frame?) := by
  cases hunfinished with
  | @preamble matched hmatched =>
      by_cases hfull : matched = 3
      · subst hfull
        by_cases hcode : ∃ code : CommandCode, code.toByte = byte
        · obtain ⟨code, rfl⟩ := hcode
          exact .inl ⟨.header code (Nat.zero_le 1), Receiver.feed_code limit tally code⟩
        · have hnone : ∀ code : CommandCode, code.toByte ≠ byte :=
            fun code heq => hcode ⟨code, heq⟩
          exact .inr ⟨.badCommand byte, hnone, rfl, Receiver.feed_no_code limit tally hnone⟩
      · have hlt : matched < 3 := by omega
        by_cases hbyte : byte = Frame.preambleByte
        · subst hbyte
          have hbytes : Token.preamble matched ++ [Frame.preambleByte] =
              Token.preamble (matched + 1) := List.replicate_succ'.symm
          rw [hbytes]
          exact .inl ⟨.preamble hlt, Receiver.feed_preamble limit tally hlt⟩
        · have hfeed := Receiver.feed_preamble_of_ne limit tally hlt hbyte
          by_cases hzero : matched = 0
          · subst hzero
            exact .inr ⟨.junk byte, hbyte, rfl, hfeed⟩
          · rw [if_neg hzero] at hfeed
            exact .inr ⟨.brokenPreamble matched byte, ⟨by omega, hbyte⟩, rfl, hfeed⟩
  | @header code rest hrest =>
      rcases rest with - | ⟨low, rest⟩
      · have hone : [byte].length ≤ 1 := by simp
        exact .inl ⟨by simpa using Unfinished.header code hone,
          by simpa using Receiver.feed_header_first limit tally code byte⟩
      · have hnil : rest = [] := by simpa using hrest
        subst hnil
        have hfeed := Receiver.feed_header_last limit tally code low byte
        have hbytes : Token.preamble 3 ++ [code.toByte, low] ++ [byte] =
            Token.header code low byte := by simp [Token.header]
        rw [hbytes]
        by_cases hbad : Token.declared low byte < Frame.minLength ∨
            limit < Token.declared low byte
        · rw [if_pos hbad] at hfeed
          exact .inr ⟨.badLength code low byte, hbad, rfl, hfeed⟩
        · rw [if_neg hbad] at hfeed
          have hbody : Unfinished limit (Token.header code low byte ++ []) := by
            simp only [Frame.minLength] at hbad
            apply Unfinished.body code
            · simp only [Frame.minLength]
              omega
            · omega
            · simp only [List.length_nil]
              omega
          exact .inl ⟨by simpa using hbody, hfeed⟩
  | @body code low high rest hmin hlimit hrest =>
      have hfeed := Receiver.feed_body tally code byte hmax hlimit hrest
      rw [List.append_assoc]
      by_cases hlast : Frame.headerLength + rest.length + 1 = Token.declared low high
      · have hcomplete : Token.Complete limit low high (rest ++ [byte]) := by
          refine ⟨hmin, hlimit, ?_⟩
          rw [List.length_append, List.length_singleton]
          omega
        rw [if_pos hlast] at hfeed
        by_cases hsum :
            checksum (Token.header code low high ++ (rest ++ [byte])) = 0
        · rw [if_pos hsum] at hfeed
          exact .inr ⟨.frame code low high (rest ++ [byte]), ⟨hcomplete, hsum⟩, rfl, hfeed⟩
        · rw [if_neg hsum] at hfeed
          exact .inr ⟨.badChecksum code low high (rest ++ [byte]), ⟨hcomplete, hsum⟩,
            rfl, hfeed⟩
      · rw [if_neg hlast] at hfeed
        have hmore : Unfinished limit (Token.header code low high ++ (rest ++ [byte])) := by
          apply Unfinished.body code hmin hlimit
          rw [List.length_append, List.length_singleton]
          omega
        exact .inl ⟨hmore, hfeed⟩

theorem Receiver.feed_of_pending
    {limit : Nat} {tail : List UInt8} {byte : UInt8} (hmax : limit ≤ Frame.maxLength)
    (tally : Tally) (hpending : Pending limit (tail ++ [byte])) :
    (holding limit tally tail).feed byte = (holding limit tally (tail ++ [byte]), none) := by
  rcases hpending.of_append.unfinished.feed hmax tally byte with
    ⟨_, hfeed⟩ | ⟨token, hvalid, hbytes, _⟩
  · exact hfeed
  · rw [← hbytes] at hpending
    exact (hvalid.not_pending hpending).elim

theorem Receiver.feed_of_token
    {limit : Nat} {tail : List UInt8} {byte : UInt8} {token : Token}
    (hmax : limit ≤ Frame.maxLength) (tally : Tally) (hvalid : token.Valid limit)
    (hbytes : token.bytes = tail ++ [byte]) :
    (holding limit tally tail).feed byte =
      (holding limit (token.count tally) [], token.frame?) := by
  have hpending : Pending limit tail := ⟨token, [byte], hvalid, by simp, hbytes⟩
  rcases hpending.unfinished.feed hmax tally byte with
    ⟨hunfinished, _⟩ | ⟨other, hother, hotherBytes, hfeed⟩
  · rw [← hbytes] at hunfinished
    exact (hvalid.not_unfinished hunfinished).elim
  · have happend : other.bytes = token.bytes ++ [] := by
      rw [hotherBytes, hbytes, List.append_nil]
    obtain ⟨rfl, _⟩ := hvalid.eq_of_append hother happend
    exact hfeed

/-! ## Runs -/

namespace Receiver

def handle (receiver : Receiver) : LinkEvent → Receiver × Option Frame
  | .byte value => receiver.feed value
  | .reset => (receiver.reset, none)

def run (receiver : Receiver) : List LinkEvent → Receiver × List (Option Frame)
  | [] => (receiver, [])
  | event :: events =>
    let (next, answer) := receiver.handle event
    let (last, answers) := next.run events
    (last, answer :: answers)

@[simp] theorem run_nil (receiver : Receiver) : receiver.run [] = (receiver, []) := rfl

theorem run_cons (receiver : Receiver) (event : LinkEvent) (events : List LinkEvent) :
    receiver.run (event :: events) =
      (((receiver.handle event).1.run events).1,
        (receiver.handle event).2 :: ((receiver.handle event).1.run events).2) := rfl

theorem run_append (receiver : Receiver) (events more : List LinkEvent) :
    receiver.run (events ++ more) =
      (((receiver.run events).1.run more).1,
        (receiver.run events).2 ++ ((receiver.run events).1.run more).2) := by
  induction events generalizing receiver with
  | nil => rfl
  | cons event events ih =>
      rw [List.cons_append, run_cons, run_cons, ih]
      rfl

theorem reset_holding (limit : Nat) (tally : Tally) (tail : List UInt8) :
    (holding limit tally tail).reset =
      holding limit { tally with linkResets := tally.linkResets + 1 } [] := rfl

end Receiver

def sinceReset (events : List LinkEvent) : List UInt8 :=
  events.foldl
    (fun bytes event =>
      match event with
      | .byte value => bytes ++ [value]
      | .reset => [])
    []

@[simp] theorem sinceReset_nil : sinceReset [] = [] := rfl

@[simp] theorem sinceReset_append_byte (events : List LinkEvent) (byte : UInt8) :
    sinceReset (events ++ [.byte byte]) = sinceReset events ++ [byte] := by
  simp [sinceReset]

@[simp] theorem sinceReset_append_reset (events : List LinkEvent) :
    sinceReset (events ++ [.reset]) = [] := by
  simp [sinceReset]

theorem sinceReset_bytes (bytes : List UInt8) :
    sinceReset (bytes.map LinkEvent.byte) = bytes := by
  induction bytes using List.reverseRecOn with
  | nil => rfl
  | append_singleton bytes byte ih =>
      rw [List.map_append, List.map_singleton, sinceReset_append_byte, ih]

theorem Splits.nil {limit : Nat} (hmax : limit ≤ Frame.maxLength) :
    Splits limit [] [] [] :=
  ⟨rfl, by simp, pending_nil hmax⟩

theorem Splits.append_pending
    {limit : Nat} {bytes tail : List UInt8} {tokens : List Token} {byte : UInt8}
    (hsplits : Splits limit bytes tokens tail) (hpending : Pending limit (tail ++ [byte])) :
    Splits limit (bytes ++ [byte]) tokens (tail ++ [byte]) :=
  ⟨by rw [hsplits.bytes_eq, List.append_assoc], hsplits.valid, hpending⟩

theorem Splits.append_token
    {limit : Nat} {bytes tail : List UInt8} {tokens : List Token} {byte : UInt8}
    {token : Token} (hmax : limit ≤ Frame.maxLength)
    (hsplits : Splits limit bytes tokens tail) (hvalid : token.Valid limit)
    (hbytes : token.bytes = tail ++ [byte]) :
    Splits limit (bytes ++ [byte]) (tokens ++ [token]) [] := by
  refine ⟨?_, ?_, pending_nil hmax⟩
  · simp [hsplits.bytes_eq, hbytes]
  · intro other hmem
    rcases List.mem_append.1 hmem with hold | hnew
    · exact hsplits.valid other hold
    · rw [List.mem_singleton.1 hnew]
      exact hvalid

/-- After any events the receiver holds the tail of the bytes since the last reset. -/
theorem Receiver.run_eq_holding
    {limit : Nat} (hmin : Frame.minLength ≤ limit) (hmax : limit ≤ Frame.maxLength)
    (events : List LinkEvent) :
    ∃ tokens tail tally, Splits limit (sinceReset events) tokens tail ∧
      ((withLimit limit).run events).1 = holding limit tally tail := by
  induction events using List.reverseRecOn with
  | nil => exact ⟨[], [], {}, .nil hmax, withLimit_eq_holding hmin hmax⟩
  | append_singleton events event ih =>
      obtain ⟨tokens, tail, tally, hsplits, hrun⟩ := ih
      rw [run_append, hrun]
      cases event with
      | byte value =>
          rw [sinceReset_append_byte]
          rcases hsplits.pending.unfinished.feed hmax tally value with
            ⟨hunfinished, hfeed⟩ | ⟨token, hvalid, hbytes, hfeed⟩
          · refine ⟨tokens, tail ++ [value], tally,
              hsplits.append_pending (hunfinished.pending hmax), ?_⟩
            simp [run_cons, handle, hfeed]
          · refine ⟨tokens ++ [token], [], token.count tally,
              hsplits.append_token hmax hvalid hbytes, ?_⟩
            simp only [run_cons, handle, hfeed, run_nil]
      | reset =>
          rw [sinceReset_append_reset]
          exact ⟨[], [], { tally with linkResets := tally.linkResets + 1 }, .nil hmax, rfl⟩

theorem Receiver.withLimit_limit (requested : Nat) :
    (withLimit requested).limit = max Frame.minLength (min requested Frame.maxLength) := rfl

theorem Receiver.minLength_le_limit (requested : Nat) :
    Frame.minLength ≤ (withLimit requested).limit := Nat.le_max_left _ _

theorem Receiver.limit_le_maxLength (requested : Nat) :
    (withLimit requested).limit ≤ Frame.maxLength := by
  have hminmax : Frame.minLength ≤ Frame.maxLength := by decide
  rw [withLimit_limit]
  omega

theorem Receiver.withLimit_withLimit_limit (requested : Nat) :
    withLimit (withLimit requested).limit = withLimit requested := by
  rw [withLimit_eq_holding (minLength_le_limit requested) (limit_le_maxLength requested)]
  rfl

theorem Receiver.exists_run_eq_holding (requested : Nat) (events : List LinkEvent) :
    ∃ tail tally, Pending (withLimit requested).limit tail ∧
      ((withLimit requested).run events).1 =
        holding (withLimit requested).limit tally tail := by
  obtain ⟨_, tail, tally, hsplits, hrun⟩ :=
    run_eq_holding (minLength_le_limit requested) (limit_le_maxLength requested) events
  rw [withLimit_withLimit_limit] at hrun
  exact ⟨tail, tally, hsplits.pending, hrun⟩

/-! ## Runs over tokens -/

def Token.answers (token : Token) : List (Option Frame) :=
  List.replicate (token.bytes.length - 1) none ++ [token.frame?]

theorem Receiver.run_rest_of_token
    {limit : Nat} {tail more : List UInt8} {token : Token} (hmax : limit ≤ Frame.maxLength)
    (tally : Tally) (hvalid : token.Valid limit) (hmore : more ≠ [])
    (hbytes : token.bytes = tail ++ more) :
    (holding limit tally tail).run (more.map LinkEvent.byte) =
      (holding limit (token.count tally) [],
        List.replicate (more.length - 1) none ++ [token.frame?]) := by
  induction more generalizing tail with
  | nil => exact absurd rfl hmore
  | cons byte more ih =>
      rw [List.map_cons, run_cons, handle]
      by_cases hlast : more = []
      · subst hlast
        rw [feed_of_token hmax tally hvalid hbytes]
        simp
      · have hsplit : token.bytes = (tail ++ [byte]) ++ more := by
          rw [hbytes, List.append_assoc]
          rfl
        have hpending : Pending limit (tail ++ [byte]) :=
          ⟨token, more, hvalid, hlast, hsplit⟩
        have hlength : (byte :: more).length - 1 = (more.length - 1) + 1 := by
          have := List.length_pos_iff.2 hlast
          rw [List.length_cons]
          omega
        rw [feed_of_pending hmax tally hpending, ih hlast hsplit, hlength,
          List.replicate_succ]
        rfl

theorem Receiver.run_token
    {limit : Nat} {token : Token} (hmax : limit ≤ Frame.maxLength) (tally : Tally)
    (hvalid : token.Valid limit) :
    (holding limit tally []).run (token.bytes.map LinkEvent.byte) =
      (holding limit (token.count tally) [], token.answers) :=
  run_rest_of_token hmax tally hvalid token.bytes_ne_nil rfl

theorem Receiver.run_tokens
    {limit : Nat} {tokens : List Token} (hmax : limit ≤ Frame.maxLength) (tally : Tally)
    (hvalid : ∀ token ∈ tokens, token.Valid limit) :
    (holding limit tally []).run ((tokens.flatMap Token.bytes).map LinkEvent.byte) =
      (holding limit (tokens.foldl Token.count tally) [], tokens.flatMap Token.answers) := by
  induction tokens generalizing tally with
  | nil => rfl
  | cons token tokens ih =>
      have htoken : token.Valid limit := hvalid token (by simp)
      have hrest : ∀ other ∈ tokens, other.Valid limit :=
        fun other hmem => hvalid other (by simp [hmem])
      rw [List.flatMap_cons, List.map_append, run_append, run_token hmax tally htoken,
        ih (token.count tally) hrest]
      rfl

theorem Receiver.run_of_pending
    {limit : Nat} {tail : List UInt8} (hmax : limit ≤ Frame.maxLength) (tally : Tally)
    (hpending : Pending limit tail) :
    (holding limit tally []).run (tail.map LinkEvent.byte) =
      (holding limit tally tail, List.replicate tail.length none) := by
  induction tail using List.reverseRecOn with
  | nil => rfl
  | append_singleton tail byte ih =>
      rw [List.map_append, run_append, ih hpending.of_append]
      simp only [List.map_cons, List.map_nil, run_cons, handle, feed_of_pending hmax tally hpending,
        run_nil, List.length_append, List.length_singleton, List.replicate_succ']

theorem Receiver.run_of_splits
    {limit : Nat} {bytes tail : List UInt8} {tokens : List Token}
    (hmax : limit ≤ Frame.maxLength) (tally : Tally)
    (hsplits : Splits limit bytes tokens tail) :
    (holding limit tally []).run (bytes.map LinkEvent.byte) =
      (holding limit (tokens.foldl Token.count tally) tail,
        tokens.flatMap Token.answers ++ List.replicate tail.length none) := by
  rw [hsplits.bytes_eq, List.map_append, run_append, run_tokens hmax tally hsplits.valid,
    run_of_pending hmax _ hsplits.pending]

theorem existsUnique_splits
    {limit : Nat} (hmin : Frame.minLength ≤ limit) (hmax : limit ≤ Frame.maxLength)
    (bytes : List UInt8) :
    ∃! split : List Token × List UInt8, Splits limit bytes split.1 split.2 := by
  obtain ⟨tokens, tail, _, hsplits, _⟩ :=
    Receiver.run_eq_holding hmin hmax (bytes.map LinkEvent.byte)
  rw [sinceReset_bytes] at hsplits
  refine ⟨(tokens, tail), hsplits, ?_⟩
  rintro ⟨tokens', tail'⟩ hother
  obtain ⟨rfl, rfl⟩ := Splits.unique hother hsplits
  rfl

theorem Receiver.exists_tally_run
    {limit : Nat} (hmin : Frame.minLength ≤ limit) (hmax : limit ≤ Frame.maxLength)
    {events : List LinkEvent} {tokens : List Token} {tail : List UInt8}
    (hsplits : Splits limit (sinceReset events) tokens tail) :
    ∃ tally, ((withLimit limit).run events).1 = holding limit tally tail := by
  obtain ⟨tokens', tail', tally, hsplits', hrun⟩ := run_eq_holding hmin hmax events
  obtain ⟨rfl, rfl⟩ := hsplits.unique hsplits'
  exact ⟨tally, hrun⟩

theorem Splits.bytes_eq_of_append_token
    {limit : Nat} {bytes tail : List UInt8} {tokens : List Token} {byte : UInt8}
    {token : Token} (hsplits : Splits limit bytes tokens tail)
    (hnext : Splits limit (bytes ++ [byte]) (tokens ++ [token]) []) :
    token.Valid limit ∧ token.bytes = tail ++ [byte] := by
  refine ⟨hnext.valid token (by simp), ?_⟩
  have hbytes := hnext.bytes_eq
  rw [hsplits.bytes_eq] at hbytes
  simpa using hbytes.symm

/-- Bytes split into tokens in exactly one way, and the receiver follows that split: it
holds the tail, and hands out a frame on the last byte of the token that brings it. -/
theorem receiver_follows_tokens
    {limit : Nat} (hmin : Frame.minLength ≤ limit) (hmax : limit ≤ Frame.maxLength) :
    (∀ bytes : List UInt8,
      ∃! split : List Token × List UInt8, Splits limit bytes split.1 split.2) ∧
    ∀ (events : List LinkEvent) (tokens : List Token) (tail : List UInt8),
      Splits limit (sinceReset events) tokens tail →
      let receiver := ((Receiver.withLimit limit).run events).1
      receiver.buffer.toList = tail ∧
        receiver.stage = min 4 tail.length ∧
        receiver.declared =
          (if tail.length < 6 then none else some (lengthField tail)) ∧
        (∀ byte frame, (receiver.feed byte).2 = some frame ↔
          ∃ token, token.frame? = some frame ∧
            Splits limit (sinceReset events ++ [byte]) (tokens ++ [token]) []) ∧
        (∀ byte token,
          Splits limit (sinceReset events ++ [byte]) (tokens ++ [token]) [] →
            (receiver.feed byte).1.tally = token.count receiver.tally) ∧
        (∀ byte, Pending limit (tail ++ [byte]) →
          (receiver.feed byte).1.tally = receiver.tally) := by
  refine ⟨existsUnique_splits hmin hmax, ?_⟩
  intro events tokens tail hsplits
  obtain ⟨tally, hrun⟩ := Receiver.exists_tally_run hmin hmax hsplits
  dsimp only
  rw [hrun]
  refine ⟨rfl, Receiver.stage_holding limit tally tail, rfl, ?_, ?_, ?_⟩
  · intro byte frame
    constructor
    · intro hframe
      rcases hsplits.pending.unfinished.feed hmax tally byte with
        ⟨_, hfeed⟩ | ⟨token, hvalid, hbytes, hfeed⟩
      · rw [hfeed] at hframe
        contradiction
      · rw [hfeed] at hframe
        exact ⟨token, hframe, hsplits.append_token hmax hvalid hbytes⟩
    · rintro ⟨token, hframe, hnext⟩
      obtain ⟨hvalid, hbytes⟩ := hsplits.bytes_eq_of_append_token hnext
      rw [Receiver.feed_of_token hmax tally hvalid hbytes]
      exact hframe
  · intro byte token hnext
    obtain ⟨hvalid, hbytes⟩ := hsplits.bytes_eq_of_append_token hnext
    rw [Receiver.feed_of_token hmax tally hvalid hbytes]
    rfl
  · intro byte hpending
    rw [Receiver.feed_of_pending hmax tally hpending]
    rfl

/-- After a reset and a stray byte, a frame of seven bytes is handed out on its last one. -/
theorem receiver_follows_tokens_after_noise :
    let events : List LinkEvent :=
      [.byte 0xAA, .reset, .byte 0x05, .byte 0xAA, .byte 0xAA, .byte 0xAA, .byte 0x55,
        .byte 7, .byte 0]
    let receiver := ((Receiver.withLimit 16).run events).1
    Splits 16 (sinceReset events) [.junk 0x05] [0xAA, 0xAA, 0xAA, 0x55, 7, 0] ∧
      receiver.stage = 4 ∧
      (receiver.feed 0xF8).2 =
        some ⟨.executeOpaque, [0xAA, 0xAA, 0xAA, 0x55, 7, 0, 0xF8]⟩ := by
  intro events receiver
  let token : Token := .frame .executeOpaque 7 0 [0xF8]
  have htoken : token.Valid 16 := ⟨⟨by decide, by decide, by decide⟩, by decide⟩
  have hjunk : (Token.junk 0x05).Valid 16 := by
    unfold Token.Valid
    decide
  have hsplits :
      Splits 16 (sinceReset events) [.junk 0x05] [0xAA, 0xAA, 0xAA, 0x55, 7, 0] :=
    ⟨rfl, by simpa using hjunk, token, [0xF8], htoken, by simp, rfl⟩
  obtain ⟨_, hstage, _, hframe, _⟩ :=
    (receiver_follows_tokens (by decide) (by decide)).2 events _ _ hsplits
  have hnext := hsplits.append_token (by decide) htoken rfl
  exact ⟨hsplits, hstage, (hframe 0xF8 _).2 ⟨token, rfl, hnext⟩⟩

end PanelLink
