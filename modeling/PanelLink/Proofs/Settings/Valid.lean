import Mathlib.Tactic
import PanelLink.Settings.Replay
import PanelLink.Settings.Stored

/-!
# Valid settings

Settings are checked for a picture with pixels first and for a frame limit in range second.  Both
ways of loading settings give valid ones only.
-/

namespace PanelLink

namespace LinkSettings

structure Valid (settings : LinkSettings) : Prop where
  width_ne_zero : settings.width ≠ 0
  height_ne_zero : settings.height ≠ 0
  minLength_le : Frame.minLength ≤ settings.frameLimit.toNat
  le_maxLength : settings.frameLimit.toNat ≤ Frame.maxLength

variable {settings : LinkSettings}

theorem defect?_of_zero (hzero : settings.width = 0 ∨ settings.height = 0) :
    settings.defect? = some .zeroDimension := by
  rw [defect?, if_pos hzero]

theorem defect?_of_limit
    (hwidth : settings.width ≠ 0) (hheight : settings.height ≠ 0)
    (hlimit : settings.frameLimit.toNat < Frame.minLength ∨
      Frame.maxLength < settings.frameLimit.toNat) :
    settings.defect? = some .frameLimitOutOfRange := by
  rw [defect?, if_neg (by simp [hwidth, hheight]), if_pos hlimit]

theorem Valid.defect?_eq (hvalid : settings.Valid) : settings.defect? = none := by
  have hmin := hvalid.minLength_le
  have hmax := hvalid.le_maxLength
  rw [defect?, if_neg (by simp [hvalid.width_ne_zero, hvalid.height_ne_zero]), if_neg (by omega)]

theorem valid_of_defect? (hnone : settings.defect? = none) : settings.Valid := by
  by_cases hzero : settings.width = 0 ∨ settings.height = 0
  · rw [defect?_of_zero hzero] at hnone
    contradiction
  · rw [not_or] at hzero
    by_cases hlimit : settings.frameLimit.toNat < Frame.minLength ∨
        Frame.maxLength < settings.frameLimit.toNat
    · rw [defect?_of_limit hzero.1 hzero.2 hlimit] at hnone
      contradiction
    · exact ⟨hzero.1, hzero.2, by omega, by omega⟩

theorem validate_eq_ok_iff_defect? : settings.validate = .ok () ↔ settings.defect? = none := by
  rw [validate]
  cases settings.defect? <;> simp

theorem validate_eq_ok_iff : settings.validate = .ok () ↔ settings.Valid := by
  rw [validate_eq_ok_iff_defect?]
  exact ⟨valid_of_defect?, Valid.defect?_eq⟩

/-! ## Loading -/

theorem load_eq_ok
    {bytes : List UInt8} {format : NumberFormat} (hload : load bytes format = .ok settings) :
    settings.validate = .ok () ∧ ∃ rest, decode? bytes format = some (settings, rest) := by
  rw [load] at hload
  split at hload
  next => contradiction
  next found rest hdecode =>
    cases hvalid : found.validate with
    | error failure =>
        rw [hvalid] at hload
        contradiction
    | ok =>
        rw [hvalid] at hload
        cases hload
        exact ⟨hvalid, rest, hdecode⟩

end LinkSettings

theorem ReplaySettings.validate_of_parse
    {text : String} {reader : Toml.Reader} {settings : ReplaySettings}
    (hparse : parse text reader = .ok settings) : settings.link.validate = .ok () := by
  rw [parse] at hparse
  split at hparse
  next => contradiction
  next found =>
    split at hparse
    next => contradiction
    next hnone =>
      cases hparse
      exact LinkSettings.validate_eq_ok_iff_defect?.mpr hnone

end PanelLink
