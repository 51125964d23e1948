import PanelLink.Color
import PanelLink.Wire.Frame

/-!
# Link settings

The size of the panel, its background, the longest frame to accept, and when the
picture goes to the panel.
-/

namespace PanelLink

inductive SettingsError where
  | zeroDimension
  | frameLimitOutOfRange
  | serialize
  | deserialize
deriving DecidableEq, Repr

inductive FlushPolicy where
  | everyFrame
  | manual
deriving DecidableEq, Repr

structure LinkSettings where
  width : UInt16 := 320
  height : UInt16 := 240
  background : UInt32 := 0
  frameLimit : UInt16 := 2990
  policy : FlushPolicy := .everyFrame
deriving DecidableEq, Repr

namespace LinkSettings

def defect? (settings : LinkSettings) : Option SettingsError :=
  if settings.width = 0 ∨ settings.height = 0 then
    some .zeroDimension
  else if settings.frameLimit.toNat < Frame.minLength ∨
      Frame.maxLength < settings.frameLimit.toNat then
    some .frameLimitOutOfRange
  else
    none

def validate (settings : LinkSettings) : Except SettingsError Unit :=
  match settings.defect? with
  | some failure => .error failure
  | none => .ok ()

def backgroundColor (settings : LinkSettings) : Color :=
  Color.ofRgb24 settings.background

end LinkSettings

end PanelLink
