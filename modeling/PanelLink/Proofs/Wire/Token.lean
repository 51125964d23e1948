import Mathlib.Tactic
import PanelLink.Wire.Receiver

/-!
# Tokens on the wire

The bytes of a link read as a sequence of tokens: bytes that start no frame, false
starts, and complete frames, sound or damaged.  No valid token begins another one,
so bytes split in at most one way into valid tokens and a tail that is the
beginning of a token.
-/

namespace PanelLink

inductive Token where
  | junk (byte : UInt8)
  | brokenPreamble (matched : Nat) (byte : UInt8)
  | badCommand (byte : UInt8)
  | badLength (code : CommandCode) (low high : UInt8)
  | badChecksum (code : CommandCode) (low high : UInt8) (rest : List UInt8)
  | frame (code : CommandCode) (low high : UInt8) (rest : List UInt8)
deriving DecidableEq

namespace Token

def preamble (matched : Nat) : List UInt8 :=
  List.replicate matched Frame.preambleByte

def declared (low high : UInt8) : Nat :=
  LittleEndian.toNat [low, high]

def header (code : CommandCode) (low high : UInt8) : List UInt8 :=
  preamble 3 ++ [code.toByte, low, high]

def bytes : Token → List UInt8
  | .junk byte => [byte]
  | .brokenPreamble matched byte => preamble matched ++ [byte]
  | .badCommand byte => preamble 3 ++ [byte]
  | .badLength code low high => header code low high
  | .badChecksum code low high rest => header code low high ++ rest
  | .frame code low high rest => header code low high ++ rest

structure Complete (limit : Nat) (low high : UInt8) (rest : List UInt8) : Prop where
  min_le : Frame.minLength ≤ declared low high
  le_limit : declared low high ≤ limit
  length_eq : Frame.headerLength + rest.length = declared low high

def Valid (limit : Nat) : Token → Prop
  | .junk byte => byte ≠ Frame.preambleByte
  | .brokenPreamble matched byte =>
    (matched = 1 ∨ matched = 2) ∧ byte ≠ Frame.preambleByte
  | .badCommand byte => ∀ code : CommandCode, code.toByte ≠ byte
  | .badLength _ low high =>
    declared low high < Frame.minLength ∨ limit < declared low high
  | .badChecksum code low high rest =>
    Complete limit low high rest ∧ checksum (header code low high ++ rest) ≠ 0
  | .frame code low high rest =>
    Complete limit low high rest ∧ checksum (header code low high ++ rest) = 0

def frame? : Token → Option Frame
  | .frame code low high rest => some ⟨code, header code low high ++ rest⟩
  | _ => none

def count (tally : Tally) : Token → Tally
  | .junk _ => { tally with discardedBytes := tally.discardedBytes + 1 }
  | .brokenPreamble .. => { tally with syncLosses := tally.syncLosses + 1 }
  | .badCommand _ => { tally with syncLosses := tally.syncLosses + 1 }
  | .badLength .. => { tally with lengthErrors := tally.lengthErrors + 1 }
  | .badChecksum .. => { tally with checksumErrors := tally.checksumErrors + 1 }
  | .frame .. => { tally with frames := tally.frames + 1 }

end Token

/-- The bytes are a proper prefix of a valid token. -/
def Pending (limit : Nat) (tail : List UInt8) : Prop :=
  ∃ token more, Token.Valid limit token ∧ more ≠ [] ∧ token.bytes = tail ++ more

/-- The bytes are those of some valid tokens, followed by a tail that begins a token. -/
structure Splits (limit : Nat) (bytes : List UInt8)
    (tokens : List Token) (tail : List UInt8) : Prop where
  bytes_eq : bytes = tokens.flatMap Token.bytes ++ tail
  valid : ∀ token ∈ tokens, token.Valid limit
  pending : Pending limit tail

/-! ## The beginnings of tokens -/

/-- The proper prefixes of valid tokens, by how far they have come. -/
inductive Unfinished (limit : Nat) : List UInt8 → Prop where
  | preamble {matched : Nat} (hmatched : matched ≤ 3) :
      Unfinished limit (Token.preamble matched)
  | header (code : CommandCode) {rest : List UInt8} (hrest : rest.length ≤ 1) :
      Unfinished limit (Token.preamble 3 ++ code.toByte :: rest)
  | body (code : CommandCode) {low high : UInt8} {rest : List UInt8}
      (hmin : Frame.minLength ≤ Token.declared low high)
      (hmax : Token.declared low high ≤ limit)
      (hrest : Frame.headerLength + rest.length < Token.declared low high) :
      Unfinished limit (Token.header code low high ++ rest)

namespace Token

@[simp] theorem length_preamble (matched : Nat) :
    (preamble matched).length = matched := by
  simp [preamble]

@[simp] theorem length_header (code : CommandCode) (low high : UInt8) :
    (header code low high).length = Frame.headerLength := by
  simp [header, Frame.headerLength]

theorem header_append
    (code : CommandCode) (low high : UInt8) (rest : List UInt8) :
    header code low high ++ rest =
      preamble 3 ++ code.toByte :: low :: high :: rest := by
  simp [header]

theorem bytes_ne_nil (token : Token) : token.bytes ≠ [] := by
  cases token <;> simp [bytes, header]

end Token

theorem unfinished_take_preamble
    {limit matched count : Nat} (hmatched : matched ≤ 3) :
    Unfinished limit ((Token.preamble matched).take count) := by
  rw [Token.preamble, List.take_replicate]
  exact .preamble (by omega)

theorem unfinished_take_preamble_append
    {limit matched count : Nat} {byte : UInt8}
    (hmatched : matched ≤ 3) (hcount : count ≤ matched) :
    Unfinished limit ((Token.preamble matched ++ [byte]).take count) := by
  rw [List.take_append_of_le_length (by simpa using hcount)]
  exact unfinished_take_preamble hmatched

theorem unfinished_take_header
    {limit count : Nat} {low high : UInt8}
    (code : CommandCode) (hcount : count < Frame.headerLength) :
    Unfinished limit ((Token.header code low high).take count) := by
  rw [Token.header]
  by_cases hpreamble : count ≤ 3
  · rw [List.take_append_of_le_length (by simpa using hpreamble)]
    exact unfinished_take_preamble (by omega)
  · obtain ⟨extra, rfl⟩ : ∃ extra, count = 3 + (extra + 1) :=
      ⟨count - 4, by omega⟩
    have hextra : extra ≤ 1 := by
      simp only [Frame.headerLength] at hcount
      omega
    have htake :
        (Token.preamble 3 ++ [code.toByte, low, high]).take (3 + (extra + 1)) =
          Token.preamble 3 ++ code.toByte :: [low, high].take extra := by
      rw [List.take_append, List.take_of_length_le (by simp), Token.length_preamble,
        Nat.add_sub_cancel_left, List.take_succ_cons]
    rw [htake]
    apply Unfinished.header code
    simpa using hextra

theorem Token.Valid.unfinished_take
    {limit count : Nat} {token : Token} (hvalid : token.Valid limit)
    (hcount : count < token.bytes.length) :
    Unfinished limit (token.bytes.take count) := by
  have hcomplete :
      ∀ {code low high rest}, Token.Complete limit low high rest →
        count < (Token.header code low high ++ rest).length →
          Unfinished limit ((Token.header code low high ++ rest).take count) := by
    intro code low high rest hframe hlt
    rw [List.length_append, Token.length_header] at hlt
    by_cases hheader : count < Frame.headerLength
    · rw [List.take_append_of_le_length (by simpa using hheader.le)]
      exact unfinished_take_header code hheader
    · rw [List.take_append, List.take_of_length_le (by simpa using hheader)]
      apply Unfinished.body code hframe.min_le hframe.le_limit
      rw [← hframe.length_eq, Token.length_header, List.length_take]
      omega
  cases token with
  | junk byte =>
      have hzero : count = 0 := by simpa [Token.bytes] using hcount
      subst hzero
      exact Unfinished.preamble (Nat.zero_le 3)
  | brokenPreamble matched byte =>
      have hle : count ≤ matched := by
        simp only [Token.bytes, List.length_append, Token.length_preamble,
          List.length_singleton] at hcount
        omega
      exact unfinished_take_preamble_append (by have := hvalid.1; omega) hle
  | badCommand byte =>
      have hle : count ≤ 3 := by
        simp only [Token.bytes, List.length_append, Token.length_preamble,
          List.length_singleton] at hcount
        omega
      exact unfinished_take_preamble_append (by omega) hle
  | badLength code low high =>
      exact unfinished_take_header code (by simpa [Token.bytes] using hcount)
  | badChecksum code low high rest => exact hcomplete hvalid.1 hcount
  | frame code low high rest => exact hcomplete hvalid.1 hcount

theorem Pending.unfinished
    {limit : Nat} {tail : List UInt8} (hpending : Pending limit tail) :
    Unfinished limit tail := by
  obtain ⟨token, more, hvalid, hmore, hbytes⟩ := hpending
  have hlt : tail.length < token.bytes.length := by
    have := List.length_pos_iff.2 hmore
    rw [hbytes, List.length_append]
    omega
  have htake : token.bytes.take tail.length = tail := by
    rw [hbytes]
    exact List.take_left
  rw [← htake]
  exact hvalid.unfinished_take hlt

/-! ## No token begins another one -/

theorem CommandCode.toByte_inj {code other : CommandCode} :
    code.toByte = other.toByte ↔ code = other := by
  constructor
  · intro h
    have hsome := congrArg CommandCode.ofByte? h
    simpa using hsome
  · rintro rfl
    rfl

theorem Token.header_append_inj
    {code code' : CommandCode} {low low' high high' : UInt8} {rest rest' : List UInt8}
    (h : Token.header code low high ++ rest = Token.header code' low' high' ++ rest') :
    code = code' ∧ low = low' ∧ high = high' ∧ rest = rest' := by
  simpa [Token.header_append, CommandCode.toByte_inj] using h

theorem Token.Valid.not_unfinished
    {limit : Nat} {token : Token} (hvalid : token.Valid limit) :
    ¬ Unfinished limit token.bytes := by
  intro hunfinished
  generalize hbytes : token.bytes = bytes at hunfinished
  have hlength := congrArg List.length hbytes
  cases hunfinished with
  | @preamble matched hmatched =>
      have hall : ∀ byte ∈ token.bytes, byte = Frame.preambleByte := by
        intro byte hmem
        rw [hbytes] at hmem
        exact List.eq_of_mem_replicate hmem
      rw [Token.length_preamble] at hlength
      cases token with
      | junk byte => exact hvalid (hall byte (by simp [Token.bytes]))
      | brokenPreamble _ byte => exact hvalid.2 (hall byte (by simp [Token.bytes]))
      | badCommand byte => simp [Token.bytes] at hlength; omega
      | badLength => simp [Token.bytes, Frame.headerLength] at hlength; omega
      | badChecksum => simp [Token.bytes, Frame.headerLength] at hlength; omega
      | frame => simp [Token.bytes, Frame.headerLength] at hlength; omega
  | @header code rest hrest =>
      rw [List.length_append, Token.length_preamble, List.length_cons] at hlength
      cases token with
      | junk byte => simp [Token.bytes] at hlength; omega
      | brokenPreamble matched byte =>
          have hmatched := hvalid.1
          simp [Token.bytes] at hlength
          omega
      | badCommand byte =>
          have hcons : [byte] = code.toByte :: rest := List.append_cancel_left hbytes
          exact hvalid code (List.cons.inj hcons).1.symm
      | badLength => simp [Token.bytes, Frame.headerLength] at hlength; omega
      | badChecksum => simp [Token.bytes, Frame.headerLength] at hlength; omega
      | frame => simp [Token.bytes, Frame.headerLength] at hlength; omega
  | @body code low high rest hmin hmax hrest =>
      rw [List.length_append, Token.length_header] at hlength
      cases token with
      | junk byte => simp [Token.bytes, Frame.headerLength] at hlength; omega
      | brokenPreamble matched byte =>
          have hmatched := hvalid.1
          simp [Token.bytes, Frame.headerLength] at hlength
          omega
      | badCommand byte => simp [Token.bytes, Frame.headerLength] at hlength; omega
      | badLength code' low' high' =>
          have hnil : Token.header code' low' high' ++ [] =
              Token.header code low high ++ rest := by simpa [Token.bytes] using hbytes
          obtain ⟨-, rfl, rfl, -⟩ := Token.header_append_inj hnil
          simp only [Token.Valid] at hvalid
          omega
      | badChecksum code' low' high' rest' =>
          obtain ⟨-, rfl, rfl, rfl⟩ := Token.header_append_inj hbytes
          have := hvalid.1.length_eq
          omega
      | frame code' low' high' rest' =>
          obtain ⟨-, rfl, rfl, rfl⟩ := Token.header_append_inj hbytes
          have := hvalid.1.length_eq
          omega

theorem Token.Valid.not_pending
    {limit : Nat} {token : Token} (hvalid : token.Valid limit) :
    ¬ Pending limit token.bytes :=
  fun hpending => hvalid.not_unfinished hpending.unfinished

def Token.ofBytes : List UInt8 → Token
  | [_, byte] => .brokenPreamble 1 byte
  | [_, _, byte] => .brokenPreamble 2 byte
  | [_, _, _, byte] => .badCommand byte
  | _ :: _ :: _ :: command :: low :: high :: rest =>
    match CommandCode.ofByte? command with
    | none => .badCommand command
    | some code =>
      if rest = [] then
        .badLength code low high
      else if checksum (header code low high ++ rest) = 0 then
        .frame code low high rest
      else
        .badChecksum code low high rest
  | bytes => .junk (bytes.headD 0)

theorem Token.Complete.rest_ne_nil
    {limit : Nat} {low high : UInt8} {rest : List UInt8}
    (hcomplete : Complete limit low high rest) : rest ≠ [] := by
  rintro rfl
  have hmin := hcomplete.min_le
  have hlength := hcomplete.length_eq
  simp only [Frame.minLength, List.length_nil] at hmin hlength
  omega

theorem Token.Valid.ofBytes_bytes
    {limit : Nat} {token : Token} (hvalid : token.Valid limit) :
    Token.ofBytes token.bytes = token := by
  cases token with
  | junk byte => rfl
  | brokenPreamble matched byte =>
      rcases hvalid.1 with rfl | rfl <;> rfl
  | badCommand byte => rfl
  | badLength code low high =>
      have hbytes : (Token.badLength code low high).bytes =
          header code low high ++ [] := by simp [Token.bytes]
      rw [hbytes, Token.header_append]
      simp [Token.preamble, Token.ofBytes, List.replicate]
  | badChecksum code low high rest =>
      rw [Token.bytes, Token.header_append]
      simp [Token.preamble, Token.ofBytes, List.replicate,
        hvalid.1.rest_ne_nil, hvalid.2]
  | frame code low high rest =>
      rw [Token.bytes, Token.header_append]
      simp [Token.preamble, Token.ofBytes, List.replicate,
        hvalid.1.rest_ne_nil, hvalid.2]

/-- Two valid tokens of which one begins with the other are the same. -/
theorem Token.Valid.eq_of_append
    {limit : Nat} {token other : Token} {rest : List UInt8}
    (htoken : token.Valid limit) (hother : other.Valid limit)
    (hbytes : other.bytes = token.bytes ++ rest) :
    token = other ∧ rest = [] := by
  have hrest : rest = [] := by
    by_contra hne
    exact htoken.not_pending ⟨other, rest, hother, hne, hbytes⟩
  subst hrest
  rw [List.append_nil] at hbytes
  have hread : Token.ofBytes token.bytes = Token.ofBytes other.bytes := by
    rw [hbytes]
  rw [htoken.ofBytes_bytes, hother.ofBytes_bytes] at hread
  exact ⟨hread, rfl⟩

theorem Token.Valid.not_append_pending
    {limit : Nat} {token : Token} {rest : List UInt8} (hvalid : token.Valid limit) :
    ¬ Pending limit (token.bytes ++ rest) := by
  rintro ⟨other, more, hother, hmore, hbytes⟩
  rw [List.append_assoc] at hbytes
  have hnil := (hvalid.eq_of_append hother hbytes).2
  exact hmore (List.append_eq_nil_iff.1 hnil).2

theorem Token.Valid.eq_of_append_eq_append
    {limit : Nat} {token other : Token} {rest rest' : List UInt8}
    (htoken : token.Valid limit) (hother : other.Valid limit)
    (hbytes : token.bytes ++ rest = other.bytes ++ rest') :
    token = other ∧ rest = rest' := by
  rcases List.append_eq_append_iff.1 hbytes with
    ⟨more, hmore, hrest⟩ | ⟨more, hmore, hrest⟩
  · obtain ⟨rfl, rfl⟩ := htoken.eq_of_append hother hmore
    exact ⟨rfl, by simpa using hrest⟩
  · obtain ⟨rfl, rfl⟩ := hother.eq_of_append htoken hmore
    exact ⟨rfl, by simpa using hrest.symm⟩

theorem Splits.unique
    {limit : Nat} {bytes tail tail' : List UInt8} {tokens tokens' : List Token}
    (h : Splits limit bytes tokens tail) (h' : Splits limit bytes tokens' tail') :
    tokens = tokens' ∧ tail = tail' := by
  obtain ⟨rfl, hvalid, hpending⟩ := h
  obtain ⟨hbytes, hvalid', hpending'⟩ := h'
  induction tokens generalizing tokens' with
  | nil =>
      cases tokens' with
      | nil => exact ⟨rfl, by simpa using hbytes⟩
      | cons other others =>
          have hother : other.Valid limit := hvalid' other (by simp)
          simp only [List.flatMap_nil, List.nil_append, List.flatMap_cons,
            List.append_assoc] at hbytes
          rw [hbytes] at hpending
          exact (hother.not_append_pending hpending).elim
  | cons token tokens ih =>
      have htoken : token.Valid limit := hvalid token (by simp)
      cases tokens' with
      | nil =>
          simp only [List.flatMap_nil, List.nil_append, List.flatMap_cons,
            List.append_assoc] at hbytes
          rw [← hbytes] at hpending'
          exact (htoken.not_append_pending hpending').elim
      | cons other others =>
          have hother : other.Valid limit := hvalid' other (by simp)
          simp only [List.flatMap_cons, List.append_assoc] at hbytes
          obtain ⟨rfl, hrest⟩ := htoken.eq_of_append_eq_append hother hbytes
          obtain ⟨rfl, rfl⟩ := ih
            (fun token hmem => hvalid token (by simp [hmem])) hrest
            (fun token hmem => hvalid' token (by simp [hmem]))
          exact ⟨rfl, rfl⟩

end PanelLink
