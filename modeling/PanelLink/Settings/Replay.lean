import PanelLink.Settings.Link
import PanelLink.Toml.Reader

/-!
# Replay settings

The settings of a replay are written as a TOML document: where the picture is saved,
and the settings of the link.  Whatever the document leaves out has its default, and
keys without a meaning are ignored.
-/

namespace PanelLink

structure ReplaySettings where
  output : String := "pixlink.png"
  link : LinkSettings := {}
deriving DecidableEq, Repr

inductive ReplaySettingsError where
  /-- The text is no document, or a value in it does not fit its key. -/
  | malformed
  | invalid (failure : SettingsError)
deriving DecidableEq, Repr

def SettingsError.name : SettingsError → String
  | .zeroDimension => "ZeroDimension"
  | .frameLimitOutOfRange => "FrameLimitOutOfRange"
  | .serialize => "Serialize"
  | .deserialize => "Deserialize"

def ReplaySettingsError.message : ReplaySettingsError → String
  | .malformed => "Failed to parse TOML"
  | .invalid failure => s!"Invalid link configuration: {failure.name}"

open Toml (Node Reader)

def FlushPolicy.ofName? : String → Option FlushPolicy
  | "every_frame" => some .everyFrame
  | "manual" => some .manual
  | _ => none

namespace LinkSettings

def keys : List String :=
  ["width", "height", "background", "max_frame_len", "flush"]

def set? (settings : LinkSettings) (reader : Reader) (key : String) (value : Node) :
    Option LinkSettings :=
  match key with
  | "width" => return { settings with width := ← reader.uint16? value }
  | "height" => return { settings with height := ← reader.uint16? value }
  | "background" => return { settings with background := ← reader.uint32? value }
  | "max_frame_len" => return { settings with frameLimit := ← reader.uint16? value }
  | "flush" =>
    return { settings with policy := ← FlushPolicy.ofName? (← reader.choice? value) }
  | _ => if reader.isPassable value then some settings else none

def ofNode? (reader : Reader) (node : Node) : Option LinkSettings := do
  (← reader.fields? keys node).foldlM
    (fun settings (key, value) => settings.set? reader key value) {}

end LinkSettings

namespace ReplaySettings

def keys : List String :=
  ["output", "link"]

def set? (settings : ReplaySettings) (reader : Reader) (key : String) (value : Node) :
    Option ReplaySettings :=
  match key with
  | "output" => return { settings with output := ← reader.string? value }
  | "link" => return { settings with link := ← LinkSettings.ofNode? reader value }
  | _ => if reader.isPassable value then some settings else none

def ofNode? (reader : Reader) (node : Node) : Option ReplaySettings := do
  (← reader.fields? keys node).foldlM
    (fun settings (key, value) => settings.set? reader key value) {}

def parse (text : String) (reader : Reader := Toml.reader) :
    Except ReplaySettingsError ReplaySettings :=
  match (reader.parse? text).bind (ofNode? reader) with
  | none => .error .malformed
  | some settings =>
    match settings.link.defect? with
    | some failure => .error (.invalid failure)
    | none => .ok settings

end ReplaySettings

end PanelLink
