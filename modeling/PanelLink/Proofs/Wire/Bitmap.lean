import PanelLink.Proofs.Raster.Redrawn
import PanelLink.Wire.Bitmap

/-!
# Bits of a bitmap

The places of a bitmap are counted through row by row, and its bits backwards.  So places and bits
correspond one to one, each picture has exactly one row of bits that shows it, and what stands
behind these bits is never shown.
-/

namespace PanelLink

/-! ## Bits in bytes -/

/-- The bits of some bytes, each byte from its lowest bit on. -/
def bitsOf (bytes : List UInt8) : List Bool :=
  bytes.flatMap fun byte => (List.range 8).map byte.toNat.testBit

theorem getElem?_bitsOf (bytes : List UInt8) (number : Nat) :
    (bitsOf bytes)[number]? =
      bytes[number / 8]?.map fun byte => byte.toNat.testBit (number % 8) := by
  induction bytes generalizing number with
  | nil => rfl
  | cons byte bytes ih =>
      have hcons : bitsOf (byte :: bytes) =
          (List.range 8).map byte.toNat.testBit ++ bitsOf bytes := List.flatMap_cons
      have hlength : ((List.range 8).map byte.toNat.testBit).length = 8 := by simp
      rw [hcons]
      by_cases hfirst : number < 8
      · rw [List.getElem?_append_left (by omega)]
        simp [hfirst, Nat.div_eq_of_lt hfirst, Nat.mod_eq_of_lt hfirst]
      · obtain ⟨later, rfl⟩ := Nat.exists_eq_add_of_le' (Nat.le_of_not_lt hfirst)
        rw [List.getElem?_append_right (by omega), hlength, Nat.add_sub_cancel, ih,
          Nat.add_div_right later (by decide), Nat.add_mod_right, List.getElem?_cons_succ]

theorem length_bitsOf (bytes : List UInt8) : (bitsOf bytes).length = 8 * bytes.length := by
  induction bytes with
  | nil => rfl
  | cons byte bytes ih =>
      rw [bitsOf, List.flatMap_cons, List.length_append, ← bitsOf, ih, List.length_cons]
      simp
      omega

theorem exists_byte (lit : Nat → Bool) :
    ∃ byte : UInt8, ∀ place < 8, byte.toNat.testBit place = lit place := by
  have hlt : Nat.ofBits (fun place : Fin 8 => lit place) < 2 ^ 8 := Nat.ofBits_lt_two_pow _
  refine ⟨UInt8.ofNat (Nat.ofBits fun place : Fin 8 => lit place), ?_⟩
  intro place hplace
  rw [UInt8.toNat_ofNat', Nat.mod_eq_of_lt hlt, Nat.testBit_ofBits_lt _ place hplace]

theorem exists_bytes_bitsOf (size : Nat) (lit : Nat → Bool) :
    ∃ bytes : List UInt8, bytes.length = size ∧
      ∀ number < 8 * size, (bitsOf bytes)[number]? = some (lit number) := by
  choose byteAt hbyteAt using fun index => exists_byte fun place => lit (8 * index + place)
  refine ⟨(List.range size).map byteAt, by simp, ?_⟩
  intro number hnumber
  have hindex : number / 8 < size := by omega
  rw [getElem?_bitsOf, List.getElem?_map, List.getElem?_range hindex, Option.map_some,
    Option.map_some, hbyteAt _ _ (Nat.mod_lt number (by decide)), Nat.div_add_mod]

namespace Bitmap

/-! ## Places and bits -/

def places (width height : UInt16) : Set (Nat × Nat) :=
  {place | place.1 < height.toNat ∧ place.2 < width.toNat}

instance (width height : UInt16) (place : Nat × Nat) : Decidable (place ∈ places width height) :=
  inferInstanceAs (Decidable (place.1 < height.toNat ∧ place.2 < width.toNat))

/-- The number of the bit for a place, which is a row and a column. -/
def bitNumber (width height : UInt16) (place : Nat × Nat) : Nat :=
  width.toNat * height.toNat - 1 - (place.1 * width.toNat + place.2)

theorem rowMajor_lt_of_mem_places
    {width height : UInt16} {place : Nat × Nat} (hplace : place ∈ places width height) :
    place.1 * width.toNat + place.2 < width.toNat * height.toNat :=
  rowMajor_lt hplace.2 hplace.1

theorem bijOn_bitNumber (width height : UInt16) :
    Set.BijOn (bitNumber width height) (places width height)
      (Set.Iio (width.toNat * height.toNat)) := by
  refine ⟨?_, ?_, ?_⟩
  · intro place hplace
    have hlt := rowMajor_lt_of_mem_places hplace
    rw [Set.mem_Iio, bitNumber]
    omega
  · intro place hplace other hother heq
    have hlt := rowMajor_lt_of_mem_places hplace
    have hlt' := rowMajor_lt_of_mem_places hother
    have hindex : place.1 * width.toNat + place.2 = other.1 * width.toNat + other.2 := by
      simp only [bitNumber] at heq
      omega
    exact Prod.ext_iff.mpr ((rowMajor_inj hplace.2 hother.2).mp hindex)
  · intro number hnumber
    rw [Set.mem_Iio] at hnumber
    have hwidth : 0 < width.toNat := Nat.pos_of_mul_pos_right (Nat.zero_lt_of_lt hnumber)
    let position := width.toNat * height.toNat - 1 - number
    have hposition : position < width.toNat * height.toNat := by
      simp only [position]
      omega
    refine ⟨(position / width.toNat, position % width.toNat), ⟨?_, ?_⟩, ?_⟩
    · exact Nat.div_lt_of_lt_mul hposition
    · exact Nat.mod_lt position hwidth
    · rw [bitNumber, Nat.div_add_mod']
      simp only [position]
      omega

/-! ## Shown bits -/

theorem ofBits_eq_ok_iff {width height : UInt16} {bits : Array UInt8} {bitmap : Bitmap} :
    ofBits width height bits = .ok bitmap ↔
      byteLength width height ≤ bits.size ∧
        bitmap = ⟨width, height, bits.take (byteLength width height)⟩ := by
  by_cases hshort : bits.size < byteLength width height
  · simp only [ofBits, if_pos hshort, reduceCtorEq, false_iff]
    omega
  · rw [ofBits, if_neg hshort, Except.ok.injEq, and_iff_right (Nat.le_of_not_lt hshort)]
    exact eq_comm

theorem le_byteLength (width height : UInt16) :
    width.toNat * height.toNat ≤ 8 * byteLength width height := by
  rw [byteLength]
  omega

theorem bitIndex_eq (bitmap : Bitmap) (place : Nat × Nat) :
    bitmap.bitIndex place.1 place.2 = bitNumber bitmap.width bitmap.height place := by
  rw [bitIndex, bitNumber, Nat.mul_comm bitmap.height.toNat, Nat.sub_right_comm]

theorem bit_eq {bitmap : Bitmap} {place : Nat × Nat}
    (hplace : place ∈ places bitmap.width bitmap.height) :
    bitmap.bit place.1 place.2 =
      ((bitsOf bitmap.bits.toList)[bitNumber bitmap.width bitmap.height place]?).getD false := by
  have hinside : place.1 < bitmap.height.toNat ∧ place.2 < bitmap.width.toNat := hplace
  rw [bit, if_pos hinside, bitIndex_eq, getElem?_bitsOf, Array.getElem?_toList]
  dsimp only
  cases bitmap.bits[bitNumber bitmap.width bitmap.height place / 8]? with
  | none => rfl
  | some byte => rfl

section

variable {width height : UInt16} {bits : Array UInt8} {bitmap : Bitmap}

theorem bits_of_ofBits (haccepted : ofBits width height bits = .ok bitmap) :
    bitmap.bits = bits.take (byteLength width height) ∧
      width.toNat * height.toNat ≤ 8 * bitmap.bits.size := by
  obtain ⟨hsize, rfl⟩ := ofBits_eq_ok_iff.mp haccepted
  refine ⟨rfl, ?_⟩
  have hcount := le_byteLength width height
  simp only [Array.take_eq_extract, Array.size_extract]
  omega

theorem length_take_bitsOf (haccepted : ofBits width height bits = .ok bitmap) :
    ((bitsOf bits.toList).take (width.toNat * height.toNat)).length =
      width.toNat * height.toNat := by
  have hsize := (ofBits_eq_ok_iff.mp haccepted).1
  have hcount := le_byteLength width height
  rw [List.length_take, length_bitsOf, Array.length_toList]
  omega

theorem getElem?_bitNumber
    (haccepted : ofBits width height bits = .ok bitmap) {place : Nat × Nat}
    (hplace : place ∈ places width height) :
    (bitsOf bits.toList)[bitNumber width height place]? =
      some (bitmap.bit place.1 place.2) := by
  obtain ⟨hsize, rfl⟩ := ofBits_eq_ok_iff.mp haccepted
  have hcount := le_byteLength width height
  have hnumber : bitNumber width height place < width.toNat * height.toNat :=
    (bijOn_bitNumber width height).mapsTo hplace
  have hkept : bitNumber width height place / 8 < byteLength width height := by omega
  have hstored : bitNumber width height place / 8 < bits.size := by omega
  rw [bit_eq hplace, getElem?_bitsOf, getElem?_bitsOf]
  simp [hkept, hstored]

theorem bit_of_not_mem_places
    (haccepted : ofBits width height bits = .ok bitmap) {place : Nat × Nat}
    (hplace : place ∉ places width height) : bitmap.bit place.1 place.2 = false := by
  obtain ⟨-, rfl⟩ := ofBits_eq_ok_iff.mp haccepted
  have houtside : ¬ (place.1 < height.toNat ∧ place.2 < width.toNat) := hplace
  rw [bit, if_neg houtside]

end

/-! ## Pictures -/

/-- The bitmap shows the picture, which is given by rows and columns. -/
def Shows (bitmap : Bitmap) (picture : Nat → Nat → Bool) : Prop :=
  ∀ place ∈ places bitmap.width bitmap.height, bitmap.bit place.1 place.2 = picture place.1 place.2

/-- The bits that show a picture. -/
def bitsShowing (width height : UInt16) (picture : Nat → Nat → Bool) : List Bool :=
  (List.range (width.toNat * height.toNat)).map fun number =>
    let position := width.toNat * height.toNat - 1 - number
    picture (position / width.toNat) (position % width.toNat)

@[simp] theorem length_bitsShowing
    (width height : UInt16) (picture : Nat → Nat → Bool) :
    (bitsShowing width height picture).length = width.toNat * height.toNat := by
  simp [bitsShowing]

theorem getElem?_bitsShowing
    {width height : UInt16} {place : Nat × Nat} (picture : Nat → Nat → Bool)
    (hplace : place ∈ places width height) :
    (bitsShowing width height picture)[bitNumber width height place]? =
      some (picture place.1 place.2) := by
  have hnumber : bitNumber width height place < width.toNat * height.toNat :=
    (bijOn_bitNumber width height).mapsTo hplace
  have hposition : width.toNat * height.toNat - 1 - bitNumber width height place =
      place.1 * width.toNat + place.2 := by
    have hlt := rowMajor_lt_of_mem_places hplace
    rw [bitNumber]
    omega
  have hcolumn : place.2 < width.toNat := hplace.2
  have hdiv : (place.1 * width.toNat + place.2) / width.toNat = place.1 := by
    rw [Nat.mul_comm, Nat.mul_add_div (Nat.zero_lt_of_lt hcolumn), Nat.div_eq_of_lt hcolumn,
      Nat.add_zero]
  have hmod : (place.1 * width.toNat + place.2) % width.toNat = place.2 := by
    rw [Nat.mul_comm, Nat.mul_add_mod, Nat.mod_eq_of_lt hcolumn]
  rw [bitsShowing, List.getElem?_map, List.getElem?_range hnumber, Option.map_some]
  simp only [hposition, hdiv, hmod]

/-- Rows of bits are the same if they are the same for each place. -/
theorem eq_of_forall_places
    {width height : UInt16} {choice other : List Bool}
    (hchoice : choice.length = width.toNat * height.toNat)
    (hother : other.length = width.toNat * height.toNat)
    (hplaces : ∀ place ∈ places width height,
      choice[bitNumber width height place]? = other[bitNumber width height place]?) :
    choice = other := by
  apply List.ext_getElem?
  intro number
  by_cases hnumber : number < width.toNat * height.toNat
  · obtain ⟨place, hplace, rfl⟩ := (bijOn_bitNumber width height).surjOn hnumber
    exact hplaces place hplace
  · rw [List.getElem?_eq_none (by omega), List.getElem?_eq_none (by omega)]

theorem getElem?_take_bitNumber
    {width height : UInt16} {place : Nat × Nat} (lit : List Bool)
    (hplace : place ∈ places width height) :
    (lit.take (width.toNat * height.toNat))[bitNumber width height place]? =
      lit[bitNumber width height place]? :=
  List.getElem?_take_of_lt ((bijOn_bitNumber width height).mapsTo hplace)

theorem shows_iff
    {width height : UInt16} {bits : Array UInt8} {bitmap : Bitmap}
    (haccepted : ofBits width height bits = .ok bitmap) (picture : Nat → Nat → Bool) :
    bitmap.Shows picture ↔
      (bitsOf bits.toList).take (width.toNat * height.toNat) =
        bitsShowing width height picture := by
  have hplaces : places bitmap.width bitmap.height = places width height := by
    obtain ⟨-, rfl⟩ := ofBits_eq_ok_iff.mp haccepted
    rfl
  rw [Shows, hplaces]
  constructor
  · intro hshows
    apply eq_of_forall_places (length_take_bitsOf haccepted) (length_bitsShowing ..)
    intro place hplace
    rw [getElem?_take_bitNumber _ hplace, getElem?_bitNumber haccepted hplace,
      getElem?_bitsShowing picture hplace, hshows place hplace]
  · intro hbits place hplace
    have hbit := getElem?_bitsShowing picture hplace
    rw [← hbits, getElem?_take_bitNumber _ hplace, getElem?_bitNumber haccepted hplace] at hbit
    exact Option.some.inj hbit

theorem exists_ofBits
    {width height : UInt16} {choice : List Bool}
    (hchoice : choice.length = width.toNat * height.toNat) :
    ∃ bits bitmap, ofBits width height bits = .ok bitmap ∧
      (bitsOf bits.toList).take (width.toNat * height.toNat) = choice := by
  obtain ⟨bytes, hsize, hbytes⟩ :=
    exists_bytes_bitsOf (byteLength width height) fun number => choice.getD number false
  have haccepted := ofBits_eq_ok_iff.mpr
    ⟨show byteLength width height ≤ bytes.toArray.size from hsize.ge, rfl⟩
  refine ⟨bytes.toArray, _, haccepted, ?_⟩
  apply eq_of_forall_places (length_take_bitsOf haccepted) hchoice
  intro place hplace
  have hnumber : bitNumber width height place < width.toNat * height.toNat :=
    (bijOn_bitNumber width height).mapsTo hplace
  have hcount := le_byteLength width height
  rw [getElem?_take_bitNumber _ hplace, hbytes _ (by omega), List.getD_eq_getElem?_getD,
    List.getElem?_eq_getElem (by omega), Option.getD_some]

end Bitmap

/-- Places and bits of a bitmap correspond one to one, within the bytes that are kept.  A place
shows its bit, and every other place is clear.  So each picture is shown by exactly one choice of
these bits, each choice is possible, and what stands behind them is never shown. -/
theorem bitmap_places_match_bits (width height : UInt16) :
    let count := width.toNat * height.toNat
    let places := Bitmap.places width height
    let number := Bitmap.bitNumber width height
    Set.BijOn number places (Set.Iio count) ∧
      (∀ place ∈ places, number place + (place.1 * width.toNat + place.2) + 1 = count) ∧
      (∀ bits bitmap, Bitmap.ofBits width height bits = .ok bitmap →
        bitmap.bits = bits.take ((count + 7) / 8) ∧
          count ≤ 8 * bitmap.bits.size ∧
          (∀ place ∈ places,
            (bitsOf bits.toList)[number place]? = some (bitmap.bit place.1 place.2)) ∧
          ∀ place ∉ places, bitmap.bit place.1 place.2 = false) ∧
      (∀ picture, ∃! choice : List Bool, choice.length = count ∧
        ∀ bits bitmap, Bitmap.ofBits width height bits = .ok bitmap →
          (bitmap.Shows picture ↔ (bitsOf bits.toList).take count = choice)) ∧
      (∀ choice : List Bool, choice.length = count →
        ∃ bits bitmap, Bitmap.ofBits width height bits = .ok bitmap ∧
          (bitsOf bits.toList).take count = choice) ∧
      ∀ bits bitmap other shown, Bitmap.ofBits width height bits = .ok bitmap →
        Bitmap.ofBits width height other = .ok shown →
        (bitsOf bits.toList).take count = (bitsOf other.toList).take count →
        ∀ row col, bitmap.bit row col = shown.bit row col := by
  intro count places number
  refine ⟨Bitmap.bijOn_bitNumber width height, ?_, ?_, ?_, ?_, ?_⟩
  · intro place hplace
    have hlt := Bitmap.rowMajor_lt_of_mem_places hplace
    simp only [number, count, Bitmap.bitNumber]
    omega
  · intro bits bitmap haccepted
    obtain ⟨hkept, hcount⟩ := Bitmap.bits_of_ofBits haccepted
    exact ⟨hkept, hcount, fun place hplace => Bitmap.getElem?_bitNumber haccepted hplace,
      fun place hplace => Bitmap.bit_of_not_mem_places haccepted hplace⟩
  · intro picture
    refine ⟨Bitmap.bitsShowing width height picture,
      ⟨Bitmap.length_bitsShowing .., fun bits bitmap haccepted =>
        Bitmap.shows_iff haccepted picture⟩, ?_⟩
    rintro choice ⟨hlength, hchoice⟩
    obtain ⟨bits, bitmap, haccepted, rfl⟩ := Bitmap.exists_ofBits hlength
    exact (Bitmap.shows_iff haccepted picture).mp ((hchoice bits bitmap haccepted).mpr rfl)
  · intro choice hlength
    exact Bitmap.exists_ofBits hlength
  · intro bits bitmap other shown haccepted hother hbits row col
    by_cases hplace : (row, col) ∈ places
    · have hbit := Bitmap.getElem?_bitNumber haccepted hplace
      rw [← Bitmap.getElem?_take_bitNumber _ hplace, hbits,
        Bitmap.getElem?_take_bitNumber _ hplace,
        Bitmap.getElem?_bitNumber hother hplace] at hbit
      exact (Option.some.inj hbit).symm
    · have hclear := Bitmap.bit_of_not_mem_places haccepted hplace
      exact hclear.trans (Bitmap.bit_of_not_mem_places hother hplace).symm

/-- Five columns and three rows take fifteen bits.  The highest bit of the second byte and a third
byte are not shown. -/
theorem bitmap_places_match_bits_part_of_byte :
    let bits : Array UInt8 := #[0x01, 0xC0, 0xFF]
    let other : Array UInt8 := #[0x01, 0x40]
    ∃ bitmap shown, Bitmap.ofBits 5 3 bits = .ok bitmap ∧ Bitmap.ofBits 5 3 other = .ok shown ∧
      bitmap.bit 0 0 = true ∧ bitmap.bit 2 4 = true ∧ bitmap.bit 0 5 = false ∧
      ∀ row col, bitmap.bit row col = shown.bit row col := by
  intro bits other
  obtain ⟨-, -, haccepted, -, -, hshown⟩ := bitmap_places_match_bits 5 3
  have hbits : Bitmap.ofBits 5 3 bits = .ok ⟨5, 3, #[0x01, 0xC0]⟩ := by decide
  have hother : Bitmap.ofBits 5 3 other = .ok ⟨5, 3, #[0x01, 0x40]⟩ := by decide
  obtain ⟨-, -, hbit, hclear⟩ := haccepted bits _ hbits
  have hfirst := hbit (0, 0) (by decide)
  have hlast := hbit (2, 4) (by decide)
  refine ⟨_, _, hbits, hother, ?_, ?_, hclear (0, 5) (by decide),
    hshown bits _ other _ hbits hother (by decide)⟩
  · exact (Option.some.inj hfirst).symm
  · exact (Option.some.inj hlast).symm

end PanelLink
