import PanelLink.Proofs.Settings.Valid
import PanelLink.Proofs.Settings.Varint

/-!
# Storing and loading settings

In any lawful format of numbers, settings are stored in five to fifteen bytes, and loading takes
exactly the spellings of settings, whatever comes after them.  Whether the settings are valid is
asked last.
-/

namespace PanelLink

theorem FlushPolicy.toNat_index (policy : FlushPolicy) :
    (UInt32.ofNat policy.toIndex).toNat = policy.toIndex := by
  cases policy <;> rfl

theorem FlushPolicy.toIndex_of_ofIndex?
    {n : Nat} {policy : FlushPolicy} (hpolicy : ofIndex? n = some policy) : policy.toIndex = n := by
  match n with
  | 0 | 1 => cases hpolicy; rfl
  | n + 2 => contradiction

namespace LinkSettings

variable {format : NumberFormat} {settings : LinkSettings} {bytes : List UInt8}

/-- The bytes of the settings, one number after the other. -/
def encode (settings : LinkSettings) (format : NumberFormat) : List UInt8 :=
  settings.numbers.flatMap format.write

/-- The bytes spell the settings, field by field. -/
inductive Spelling (format : NumberFormat) (settings : LinkSettings) : List UInt8 → Prop
  | fields {width height background frameLimit policy : List UInt8}
      (hwidth : format.Spelling16 settings.width width)
      (hheight : format.Spelling16 settings.height height)
      (hbackground : format.Spelling32 settings.background background)
      (hframeLimit : format.Spelling16 settings.frameLimit frameLimit)
      (hpolicy : format.Spelling32 (UInt32.ofNat settings.policy.toIndex) policy) :
      Spelling format settings (width ++ (height ++ (background ++ (frameLimit ++ policy))))

theorem encode_eq (settings : LinkSettings) (format : NumberFormat) :
    settings.encode format =
      format.write settings.width.toNat ++ (format.write settings.height.toNat ++
        (format.write settings.background.toNat ++ (format.write settings.frameLimit.toNat ++
          format.write settings.policy.toIndex))) := by
  simp [encode, numbers]

theorem spelling_encode (hlawful : format.Lawful) (settings : LinkSettings) :
    Spelling format settings (settings.encode format) := by
  have hpolicy := hlawful.spelling32_write (UInt32.ofNat settings.policy.toIndex)
  rw [FlushPolicy.toNat_index] at hpolicy
  rw [encode_eq]
  exact .fields (hlawful.spelling16_write _) (hlawful.spelling16_write _)
    (hlawful.spelling32_write _) (hlawful.spelling16_write _) hpolicy

theorem Spelling.length_encode_le (hspelling : Spelling format settings bytes) :
    (settings.encode format).length ≤ bytes.length := by
  cases hspelling with
  | fields hwidth hheight hbackground hframeLimit hpolicy =>
      have h1 := hwidth.length_write_le
      have h2 := hheight.length_write_le
      have h3 := hbackground.length_write_le
      have h4 := hframeLimit.length_write_le
      have h5 := hpolicy.length_write_le
      rw [FlushPolicy.toNat_index] at h5
      simp only [encode_eq, List.length_append]
      omega

theorem Spelling.takes (hspelling : Spelling format settings bytes) :
    Takes (fun input => decode? input format) bytes settings := by
  cases hspelling with
  | @fields _ _ _ _ policy hwidth hheight hbackground hframeLimit hpolicy =>
      apply hwidth.takes.bind
      apply hheight.takes.bind
      apply hbackground.takes.bind
      apply hframeLimit.takes.bind
      rw [← List.append_nil policy]
      apply hpolicy.takes.bind
      constructor
      · intro rest
        dsimp only
        rw [FlushPolicy.toNat_index, FlushPolicy.ofIndex?_toIndex]
        rfl
      · intro front hfront hne
        exact absurd (List.prefix_nil.mp hfront) hne

theorem recognizes_decode? (hlawful : format.Lawful) :
    Recognizes (fun input => decode? input format) (Spelling format) := by
  apply hlawful.recognizes_read16?.bind
  intro width widthBytes hwidth
  apply hlawful.recognizes_read16?.bind
  intro height heightBytes hheight
  apply hlawful.recognizes_read32?.bind
  intro background backgroundBytes hbackground
  apply hlawful.recognizes_read16?.bind
  intro frameLimit frameLimitBytes hframeLimit
  apply hlawful.recognizes_read32?.bind
  intro index indexBytes hindex input settings rest hsettings
  rcases Option.bind_eq_some_iff.mp hsettings with ⟨policy, hpolicy, heq⟩
  cases heq
  have hindex' : format.Spelling32 (UInt32.ofNat policy.toIndex) indexBytes := by
    simpa [FlushPolicy.toIndex_of_ofIndex? hpolicy] using hindex
  refine ⟨[], ?_, rfl⟩
  dsimp only
  rw [List.append_nil]
  exact .fields hwidth hheight hbackground hframeLimit hindex'

/-! ## How many bytes -/

theorem five_le_length_encode (hlawful : format.Lawful) (settings : LinkSettings) :
    5 ≤ (settings.encode format).length := by
  have h1 := hlawful.length_write_pos settings.width.toNat
  have h2 := hlawful.length_write_pos settings.height.toNat
  have h3 := hlawful.length_write_pos settings.background.toNat
  have h4 := hlawful.length_write_pos settings.frameLimit.toNat
  have h5 := hlawful.length_write_pos settings.policy.toIndex
  simp only [encode_eq, List.length_append]
  omega

theorem length_encode_le_fifteen (hlawful : format.Lawful) (settings : LinkSettings) :
    (settings.encode format).length ≤ 15 := by
  have h1 := hlawful.length_write16_le settings.width
  have h2 := hlawful.length_write16_le settings.height
  have h3 := hlawful.length_write32_le settings.background
  have h4 := hlawful.length_write16_le settings.frameLimit
  have hpolicy : settings.policy.toIndex < 128 := by
    cases settings.policy <;> decide
  have h5 := hlawful.length_write_of_lt _ hpolicy
  simp only [encode_eq, List.length_append]
  omega

/-! ## Storing -/

theorem foldlM_push {capacity : Nat} {buffer : List UInt8} (hbuffer : buffer.length ≤ capacity)
    (pieces : List (List UInt8)) :
    pieces.foldlM (push capacity) buffer =
      if buffer.length + pieces.flatten.length ≤ capacity then .ok (buffer ++ pieces.flatten)
      else .error .serialize := by
  induction pieces generalizing buffer with
  | nil =>
      rw [List.foldlM_nil, List.flatten_nil, List.length_nil, Nat.add_zero, if_pos hbuffer,
        List.append_nil]
      rfl
  | cons piece pieces ih =>
      rw [List.foldlM_cons, push, List.flatten_cons, List.length_append]
      by_cases hpiece : buffer.length + piece.length ≤ capacity
      · have hfilled : (buffer ++ piece).length ≤ capacity := by
          rwa [List.length_append]
        rw [if_pos hpiece]
        change pieces.foldlM (push capacity) (buffer ++ piece) = _
        rw [ih hfilled, List.length_append, Nat.add_assoc, List.append_assoc]
      · rw [if_neg hpiece, if_neg (by omega)]
        rfl

theorem store_eq (settings : LinkSettings) (capacity : Nat) (format : NumberFormat) :
    settings.store capacity format =
      if (settings.encode format).length ≤ capacity then .ok (settings.encode format)
      else .error .serialize := by
  have hempty : ([] : List UInt8).length ≤ capacity := Nat.zero_le capacity
  rw [store, foldlM_push hempty, encode, List.flatMap_def]
  simp

/-! ## Loading -/

theorem load_append (hspelling : Spelling format settings bytes) (rest : List UInt8) :
    load (bytes ++ rest) format = settings.validate.map fun () => settings := by
  rw [load, hspelling.takes.append]
  dsimp only
  cases settings.validate <;> rfl

theorem load_cut
    (hspelling : Spelling format settings bytes) {front : List UInt8} (hfront : front <+: bytes)
    (hne : front ≠ bytes) :
    load front format = .error .deserialize := by
  rw [load, hspelling.takes.cut front hfront hne]

end LinkSettings

open LinkSettings (decode? load)

/-- With a lawful format of numbers, settings are stored in five to fifteen bytes, if there is room
for them.  Loading gives them back, whatever comes after them, or says why they are not valid; a
part of them is no settings.  Whatever loads is valid, and storing it again takes no more bytes than
were read. -/
theorem stored_settings_load
    {format : NumberFormat} (hlawful : format.Lawful) (settings : LinkSettings) :
    let stored := settings.encode format
    (5 ≤ stored.length ∧ stored.length ≤ 15) ∧
    (∀ capacity,
      (stored.length ≤ capacity → settings.store capacity format = .ok stored) ∧
      (capacity < stored.length → settings.store capacity format = .error .serialize)) ∧
    (∀ rest,
      (settings.validate = .ok () → load (stored ++ rest) format = .ok settings) ∧
      ∀ failure, settings.validate = .error failure →
        load (stored ++ rest) format = .error failure) ∧
    (∀ front, front <+: stored → front ≠ stored → load front format = .error .deserialize) ∧
    ∀ bytes, load bytes format = .ok settings →
      settings.validate = .ok () ∧
      load stored format = .ok settings ∧
      ∃ used rest, bytes = used ++ rest ∧ decode? bytes format = some (settings, rest) ∧
        stored.length ≤ used.length ∧
        (∀ more, load (used ++ more) format = .ok settings) ∧
        ∀ front, front <+: used → front ≠ used → load front format = .error .deserialize := by
  intro stored
  have hspelling : LinkSettings.Spelling format settings stored :=
    LinkSettings.spelling_encode hlawful settings
  have hload : ∀ rest, settings.validate = .ok () →
      load (stored ++ rest) format = .ok settings := by
    intro rest hvalid
    rw [LinkSettings.load_append hspelling, hvalid]
    rfl
  constructor
  · exact ⟨LinkSettings.five_le_length_encode hlawful settings,
      LinkSettings.length_encode_le_fifteen hlawful settings⟩
  constructor
  · intro capacity
    constructor
    · intro hroom
      rw [LinkSettings.store_eq, if_pos hroom]
    · intro hshort
      rw [LinkSettings.store_eq, if_neg (Nat.not_le.mpr hshort)]
  constructor
  · intro rest
    constructor
    · exact hload rest
    · intro failure hfailure
      rw [LinkSettings.load_append hspelling, hfailure]
      rfl
  constructor
  · intro front hfront hne
    exact LinkSettings.load_cut hspelling hfront hne
  · intro bytes hbytes
    rcases LinkSettings.load_eq_ok hbytes with ⟨hvalid, rest, hdecode⟩
    rcases LinkSettings.recognizes_decode? hlawful bytes settings rest hdecode with
      ⟨used, hused, heq⟩
    constructor
    · exact hvalid
    constructor
    · simpa using hload [] hvalid
    · use used, rest, heq, hdecode, hused.length_encode_le
      constructor
      · intro more
        rw [LinkSettings.load_append hused, hvalid]
        rfl
      · intro front hfront hne
        exact LinkSettings.load_cut hused hfront hne

/-- A width in three bytes where two would do, and bytes behind the settings. -/
theorem stored_settings_load_padded :
    LinkSettings.load [0xc0, 0x82, 0x00, 0xf0, 0x01, 0x00, 0xae, 0x17, 0x00, 0x2a] = .ok {} ∧
    LinkSettings.load (LinkSettings.encode {} Varint.format) = .ok {} := by
  have hload :
      LinkSettings.load [0xc0, 0x82, 0x00, 0xf0, 0x01, 0x00, 0xae, 0x17, 0x00, 0x2a] = .ok {} := by
    rfl
  exact ⟨hload, ((stored_settings_load Varint.lawful_format {}).2.2.2.2 _ hload).2.1⟩

end PanelLink
