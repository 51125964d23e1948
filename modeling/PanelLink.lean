import PanelLink.Color
import PanelLink.Event
import PanelLink.Event.Capture
import PanelLink.Event.Queue
import PanelLink.Link
import PanelLink.Main
import PanelLink.Panel.Intermittent
import PanelLink.Panel.Shadow
import PanelLink.Raster.Compositor
import PanelLink.Raster.Rect
import PanelLink.Raster.Surface
import PanelLink.Replay.Arguments
import PanelLink.Replay.Bench
import PanelLink.Replay.Host
import PanelLink.Replay.LogFilter
import PanelLink.Replay.Png
import PanelLink.Replay.Run
import PanelLink.Settings.Link
import PanelLink.Settings.Replay
import PanelLink.Settings.Stored
import PanelLink.Text.Characters
import PanelLink.Text.Pattern
import PanelLink.Text.Quoted
import PanelLink.Toml.Document
import PanelLink.Toml.Moment
import PanelLink.Toml.Node
import PanelLink.Toml.Number
import PanelLink.Toml.Quoted
import PanelLink.Toml.Reader
import PanelLink.Toml.Text
import PanelLink.Toml.Value
import PanelLink.Wire.Bitmap
import PanelLink.Wire.Command
import PanelLink.Wire.CommandCode
import PanelLink.Wire.Cursor
import PanelLink.Wire.Frame
import PanelLink.Wire.Receiver
import PanelLink.Proofs.Wire.Reception
import PanelLink.Proofs.Wire.RoundTrip
import PanelLink.Proofs.Raster.Drawing
import PanelLink.Proofs.Panel.Shadow
import PanelLink.Proofs.Panel.Mirror
import PanelLink.Proofs.Link.Mirror
import PanelLink.Proofs.Raster.Alike
import PanelLink.Proofs.Wire.Session
import PanelLink.Proofs.Link.Decoding
import PanelLink.Proofs.Replay.Host
import PanelLink.Proofs.Replay.Steps
import PanelLink.Proofs.Replay.Picture
import PanelLink.Proofs.Wire.Layout
import PanelLink.Proofs.Raster.Footprint
import PanelLink.Proofs.Raster.Dirty
import PanelLink.Proofs.Link.Flushes
import PanelLink.Proofs.Raster.Outline
import PanelLink.Proofs.Link.Recorder
import PanelLink.Proofs.Link.Backlog
import PanelLink.Proofs.Wire.Resync
import PanelLink.Proofs.Raster.Growth
import PanelLink.Proofs.Link.Damage
import PanelLink.Proofs.Raster.InRange
import PanelLink.Proofs.Wire.Canonical
import PanelLink.Proofs.Raster.Stored
import PanelLink.Proofs.Raster.Scrolling
import PanelLink.Proofs.Raster.Between
import PanelLink.Proofs.Raster.Solid
import PanelLink.Proofs.Raster.Magnified
import PanelLink.Proofs.Raster.ReadBack
import PanelLink.Proofs.Raster.Painting
import PanelLink.Proofs.Raster.Agreement
import PanelLink.Proofs.Raster.Commuting
import PanelLink.Proofs.Raster.Ink
import PanelLink.Proofs.Raster.Repainting
import PanelLink.Proofs.Wire.Corruption
import PanelLink.Proofs.Wire.Fields
import PanelLink.Proofs.Link.Pumping
import PanelLink.Proofs.Link.Ledger
import PanelLink.Proofs.Replay.Totals
import PanelLink.Proofs.Raster.Memory
import PanelLink.Proofs.Settings.Varint
import PanelLink.Proofs.Settings.Stored
import PanelLink.Proofs.Replay.Setup
import PanelLink.Proofs.Toml.Lines
import PanelLink.Proofs.Toml.Sections
import PanelLink.Proofs.Settings.Document
import PanelLink.Proofs.Wire.Bitmap
import PanelLink.Proofs.Wire.Consistency
import PanelLink.Proofs.Event.Delivery
import PanelLink.Proofs.Replay.CommandLine
import PanelLink.Proofs.Raster.PointSet
import PanelLink.Proofs.Wire.Cursor
