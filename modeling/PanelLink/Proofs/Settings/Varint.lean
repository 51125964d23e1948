import Mathlib.Tactic
import PanelLink.Settings.Stored

/-!
# Formats of numbers

A lawful format reads back what it has written, whatever comes behind it, and nothing from a part
of it.  Numbers of variable length are one.  There a number can be spelled in several ways, as long
as there is room for groups that are zero, and encoding gives the shortest.
-/

namespace PanelLink

/-! ## Decoders -/

/-- The decoder takes these bytes for the value, whatever comes after them, and gives nothing when
some of them are missing at the end. -/
structure Takes
    {α : Type} (decode : List UInt8 → Option (α × List UInt8)) (bytes : List UInt8) (value : α) :
    Prop where
  append : ∀ rest, decode (bytes ++ rest) = some (value, rest)
  cut : ∀ front, front <+: bytes → front ≠ bytes → decode front = none

/-- Whatever the decoder gives it has taken from the front, from bytes that have the property. -/
def Recognizes
    {α : Type} (decode : List UInt8 → Option (α × List UInt8)) (spelled : α → List UInt8 → Prop) :
    Prop :=
  ∀ input value rest, decode input = some (value, rest) →
    ∃ bytes, spelled value bytes ∧ input = bytes ++ rest

section

variable {α β : Type} {decode : List UInt8 → Option (α × List UInt8)}
  {next : α × List UInt8 → Option (β × List UInt8)} {bytes more : List UInt8}
  {value : α} {result : β} {spelled : α → List UInt8 → Prop} {spelled' : β → List UInt8 → Prop}

theorem Takes.bind
    (htakes : Takes decode bytes value) (hnext : Takes (fun rest => next (value, rest)) more result) :
    Takes (fun input => decode input >>= next) (bytes ++ more) result where
  append rest := by
    simp [htakes.append, hnext.append]
  cut front hfront hne := by
    rcases List.prefix_or_prefix_of_prefix hfront (List.prefix_append bytes more) with
      hshort | ⟨tail, rfl⟩
    · by_cases hwhole : front = bytes
      · subst front
        have hmore : [] ≠ more := by
          rintro rfl
          simp at hne
        have hfirst := htakes.append []
        have hsecond := hnext.cut [] (List.nil_prefix ..) hmore
        rw [List.append_nil] at hfirst
        simp [hfirst, hsecond]
      · simp [htakes.cut front hshort hwhole]
    · have htail : tail <+: more := (List.prefix_append_right_inj bytes).mp hfront
      have htail' : tail ≠ more := by
        rintro rfl
        simp at hne
      simp [htakes.append, hnext.cut tail htail htail']

theorem Takes.map {f : α → β} (htakes : Takes decode bytes value) :
    Takes (fun input => (decode input).map fun (value, rest) => (f value, rest)) bytes (f value)
    where
  append rest := by
    simp [htakes.append]
  cut front hfront hne := by
    simp [htakes.cut front hfront hne]

theorem Recognizes.bind
    (hdecode : Recognizes decode spelled)
    (hnext : ∀ value bytes, spelled value bytes →
      Recognizes (fun rest => next (value, rest)) fun result more =>
        spelled' result (bytes ++ more)) :
    Recognizes (fun input => decode input >>= next) spelled' := by
  intro input result rest hresult
  rcases Option.bind_eq_some_iff.mp hresult with ⟨⟨value, middle⟩, hfirst, hsecond⟩
  rcases hdecode input value middle hfirst with ⟨bytes, hbytes, rfl⟩
  rcases hnext value bytes hbytes middle result rest hsecond with ⟨more, hmore, rfl⟩
  exact ⟨bytes ++ more, hmore, by rw [List.append_assoc]⟩

theorem Recognizes.map
    {f : α → β} (hdecode : Recognizes decode spelled)
    (hmap : ∀ value bytes, spelled value bytes → spelled' (f value) bytes) :
    Recognizes (fun input => (decode input).map fun (value, rest) => (f value, rest)) spelled' := by
  intro input result rest hresult
  rcases Option.map_eq_some_iff.mp hresult with ⟨⟨value, _⟩, hvalue, heq⟩
  cases heq
  rcases hdecode input value rest hvalue with ⟨bytes, hbytes, hinput⟩
  exact ⟨bytes, hmap value bytes hbytes, hinput⟩

end

/-! ## Lawful formats -/

namespace NumberFormat

/-- The bytes read as the number of 16 bits, and are not fewer than those that are written. -/
structure Spelling16 (format : NumberFormat) (number : UInt16) (bytes : List UInt8) : Prop where
  takes : Takes format.read16? bytes number
  length_write_le : (format.write number.toNat).length ≤ bytes.length

/-- The bytes read as the number of 32 bits, and are not fewer than those that are written. -/
structure Spelling32 (format : NumberFormat) (number : UInt32) (bytes : List UInt8) : Prop where
  takes : Takes format.read32? bytes number
  length_write_le : (format.write number.toNat).length ≤ bytes.length

/-- What a library that stores numbers in few bytes promises.  What it writes can be read, and
whatever it reads it takes from a spelling of that number.  A number of 16 bits takes at most three
bytes, one of 32 bits at most five, and one of seven bits a single byte. -/
structure Lawful (format : NumberFormat) : Prop where
  spelling16_write : ∀ number : UInt16, format.Spelling16 number (format.write number.toNat)
  spelling32_write : ∀ number : UInt32, format.Spelling32 number (format.write number.toNat)
  recognizes_read16? : Recognizes format.read16? format.Spelling16
  recognizes_read32? : Recognizes format.read32? format.Spelling32
  length_write_pos : ∀ n, 0 < (format.write n).length
  length_write16_le : ∀ number : UInt16, (format.write number.toNat).length ≤ 3
  length_write32_le : ∀ number : UInt32, (format.write number.toNat).length ≤ 5
  length_write_of_lt : ∀ n < 128, (format.write n).length = 1

end NumberFormat

/-! ## Numbers of variable length -/

namespace Varint

/-- The bytes spell a number within the width, as seven bits each.  A last byte that comes at the
full width does not exceed `top`. -/
inductive Spelling (top : Nat) : Nat → Nat → List UInt8 → Prop
  | last {width : Nat} {byte : UInt8} (hlast : byte.toNat < 128)
      (htop : width = 0 → byte.toNat ≤ top) :
      Spelling top (width + 1) byte.toNat [byte]
  | more {width high : Nat} {byte : UInt8} {bytes : List UInt8} (hmore : 128 ≤ byte.toNat)
      (hbytes : Spelling top width high bytes) :
      Spelling top (width + 1) (byte.toNat - 128 + 128 * high) (byte :: bytes)

variable {top width n : Nat} {bytes : List UInt8}

theorem Spelling.takes (hspelling : Spelling top width n bytes) :
    Takes (decode? top width) bytes n := by
  induction hspelling with
  | @last width byte hlast htop =>
      constructor
      · intro rest
        have htop' : ¬ (width = 0 ∧ top < byte.toNat) := by
          rintro ⟨hwidth, hlt⟩
          exact absurd (htop hwidth) (by omega)
        simp [decode?, hlast, htop']
      · intro front hfront hne
        have hnil : front = [] := by
          simpa [List.prefix_cons_iff, hne] using hfront
        simp [hnil, decode?]
  | @more width high byte bytes hmore hbytes ih =>
      have hbyte : ¬ byte.toNat < 128 := by omega
      constructor
      · intro rest
        simp [decode?, hbyte, ih.append]
      · intro front hfront hne
        cases front with
        | nil => simp [decode?]
        | cons first front =>
            rcases List.cons_prefix_cons.mp hfront with ⟨rfl, htail⟩
            have htail' : front ≠ bytes := by
              rintro rfl
              exact hne rfl
            simp [decode?, hbyte, ih.cut front htail htail']

theorem recognizes_decode? (top width : Nat) :
    Recognizes (decode? top width) (Spelling top width) := by
  intro input n rest hdecode
  induction input generalizing width n with
  | nil =>
      cases width <;> simp [decode?] at hdecode
  | cons byte input ih =>
      cases width with
      | zero => simp [decode?] at hdecode
      | succ width =>
          rw [decode?] at hdecode
          split at hdecode
          next hlast =>
            split at hdecode
            next => contradiction
            next htop =>
              cases hdecode
              exact ⟨[byte], .last hlast (by omega), rfl⟩
          next hmore =>
            rcases Option.bind_eq_some_iff.mp hdecode with ⟨⟨high, rest'⟩, hhigh, hn⟩
            cases hn
            rcases ih width high hhigh with ⟨bytes, hbytes, rfl⟩
            exact ⟨byte :: bytes, .more (by omega) hbytes, rfl⟩

/-! ## How long a spelling is -/

theorem encode_of_lt (hn : n < 128) : encode n = [UInt8.ofNat n] := by
  rw [encode, if_pos hn]

theorem encode_of_le (hn : 128 ≤ n) :
    encode n = UInt8.ofNat (n % 128 + 128) :: encode (n / 128) := by
  rw [encode, if_neg (by omega)]

theorem length_encode_pos (n : Nat) : 0 < (encode n).length := by
  rw [encode]
  split <;> simp

theorem Spelling.length_le (hspelling : Spelling top width n bytes) : bytes.length ≤ width := by
  induction hspelling with
  | last => simp
  | more _ _ ih => simp [ih]

/-- No spelling is shorter than the one that encoding gives. -/
theorem Spelling.length_encode_le (hspelling : Spelling top width n bytes) :
    (encode n).length ≤ bytes.length := by
  induction hspelling with
  | last hlast htop => simp [encode_of_lt hlast]
  | @more width high byte bytes hmore hbytes ih =>
      have hbyte := byte.toNat_lt
      by_cases hshort : byte.toNat - 128 + 128 * high < 128
      · simp [encode_of_lt hshort]
      · have hhigh : (byte.toNat - 128 + 128 * high) / 128 = high := by omega
        rw [encode_of_le (by omega), hhigh]
        simp [ih]

/-! ## Which numbers have one -/

theorem spelling_encode_of_lt (hn : n < 128) (htop : width = 0 → n ≤ top) :
    Spelling top (width + 1) n (encode n) := by
  have hbyte : (UInt8.ofNat n).toNat = n := by
    rw [UInt8.toNat_ofNat']
    omega
  have hspelling : Spelling top (width + 1) (UInt8.ofNat n).toNat [UInt8.ofNat n] :=
    .last (by omega) (by omega)
  rw [encode_of_lt hn]
  rwa [hbyte] at hspelling

theorem spelling_encode (htop : top < 128) (hn : n < (top + 1) * 128 ^ width) :
    Spelling top (width + 1) n (encode n) := by
  induction width generalizing n with
  | zero => exact spelling_encode_of_lt (by omega) (by omega)
  | succ width ih =>
      by_cases hshort : n < 128
      · exact spelling_encode_of_lt hshort (by omega)
      · have hbyte : (UInt8.ofNat (n % 128 + 128)).toNat = n % 128 + 128 := by
          rw [UInt8.toNat_ofNat']
          omega
        have hhigh : n / 128 < (top + 1) * 128 ^ width := by
          rw [Nat.pow_succ, ← Nat.mul_assoc] at hn
          omega
        have hsplit : n % 128 + 128 - 128 + 128 * (n / 128) = n := by omega
        have hmore : 128 ≤ (UInt8.ofNat (n % 128 + 128)).toNat := by omega
        have hspelling := Spelling.more hmore (ih hhigh)
        rw [hbyte, hsplit] at hspelling
        rw [encode_of_le (by omega)]
        exact hspelling

theorem Spelling.lt (htop : top < 128) (hspelling : Spelling top (width + 1) n bytes) :
    n < (top + 1) * 128 ^ width := by
  induction width generalizing n bytes with
  | zero =>
      cases hspelling with
      | last hlast hle =>
          have := hle rfl
          omega
      | more _ hbytes => cases hbytes
  | succ width ih =>
      have hpos : 0 < (top + 1) * 128 ^ width := Nat.mul_pos (by omega) (Nat.pow_pos (by omega))
      rw [Nat.pow_succ, ← Nat.mul_assoc]
      cases hspelling with
      | last hlast _ => omega
      | @more _ high byte _ hmore hbytes =>
          have hhigh := ih hbytes
          have hbyte := byte.toNat_lt
          omega

/-! ## A lawful format -/

theorem spelling16_of_spelling {number : UInt16} (hspelling : Spelling 3 3 number.toNat bytes) :
    format.Spelling16 number bytes where
  takes := by
    have htakes : Takes decode16? bytes (UInt16.ofNat number.toNat) := hspelling.takes.map
    rwa [UInt16.ofNat_toNat] at htakes
  length_write_le := hspelling.length_encode_le

theorem spelling32_of_spelling {number : UInt32} (hspelling : Spelling 15 5 number.toNat bytes) :
    format.Spelling32 number bytes where
  takes := by
    have htakes : Takes decode32? bytes (UInt32.ofNat number.toNat) := hspelling.takes.map
    rwa [UInt32.ofNat_toNat] at htakes
  length_write_le := hspelling.length_encode_le

theorem recognizes_decode16? : Recognizes decode16? format.Spelling16 := by
  apply (recognizes_decode? 3 3).map
  intro n bytes hbytes
  have hlt : n < 65536 := hbytes.lt (by omega)
  apply spelling16_of_spelling
  rwa [UInt16.toNat_ofNat', Nat.mod_eq_of_lt hlt]

theorem recognizes_decode32? : Recognizes decode32? format.Spelling32 := by
  apply (recognizes_decode? 15 5).map
  intro n bytes hbytes
  have hlt : n < 4294967296 := hbytes.lt (by omega)
  apply spelling32_of_spelling
  rwa [UInt32.toNat_ofNat', Nat.mod_eq_of_lt hlt]

theorem lawful_format : format.Lawful := by
  have hspelling16 : ∀ number : UInt16, Spelling 3 3 number.toNat (encode number.toNat) :=
    fun number => spelling_encode (by omega) number.toNat_lt
  have hspelling32 : ∀ number : UInt32, Spelling 15 5 number.toNat (encode number.toNat) :=
    fun number => spelling_encode (by omega) number.toNat_lt
  constructor
  case spelling16_write => exact fun number => spelling16_of_spelling (hspelling16 number)
  case spelling32_write => exact fun number => spelling32_of_spelling (hspelling32 number)
  case recognizes_read16? => exact recognizes_decode16?
  case recognizes_read32? => exact recognizes_decode32?
  case length_write_pos => exact length_encode_pos
  case length_write16_le => exact fun number => (hspelling16 number).length_le
  case length_write32_le => exact fun number => (hspelling32 number).length_le
  case length_write_of_lt =>
    intro n hn
    change (encode n).length = 1
    rw [encode_of_lt hn, List.length_singleton]

end Varint

end PanelLink
