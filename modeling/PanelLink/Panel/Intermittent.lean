import PanelLink.Raster.Surface

/-!
# Intermittent sinks

A sink in front of another one that refuses some flushes by a schedule of its own.
It keeps the rectangles that went through.
-/

namespace PanelLink

structure Intermittent (σ : Type) where
  inner : σ
  /-- How each flush is refused, if it is; they are counted from zero. -/
  schedule : Nat → Option FlushError := fun _ => none
  attempts : Nat := 0
  accepted : List Rect := []

namespace Intermittent

variable {σ : Type}

def refuse (sink : Intermittent σ) (refusal : FlushError) (count : Nat) : Intermittent σ :=
  { sink with
    schedule := fun attempt => if attempt < sink.attempts + count then some refusal else none }

def flush [Sink σ] (sink : Intermittent σ) (view : View) (rect : Rect) :
    Except FlushError Unit × Intermittent σ :=
  let { inner, schedule, attempts, accepted } := sink
  match schedule attempts with
  | some refusal => (.error refusal, { inner, schedule, attempts := attempts + 1, accepted })
  | none =>
    match Sink.flush inner view rect with
    | (.ok (), inner) =>
      (.ok (), { inner, schedule, attempts := attempts + 1, accepted := rect :: accepted })
    | (.error failure, inner) =>
      (.error failure, { inner, schedule, attempts := attempts + 1, accepted })

instance [Sink σ] : Sink (Intermittent σ) where
  flush := flush

end Intermittent

end PanelLink
