import Mathlib.Data.List.TakeWhile
import PanelLink.Proofs.Raster.Drawing
import PanelLink.Proofs.Wire.Layout

/-!
# Footprints

The rectangle that an operation spans, on the surface or not.  A bitmap is drawn at every point of
it that is on the surface, and a buffer has its pixels packed over all of it.
-/

namespace PanelLink

namespace Surface

theorem ordered_bounds (surface : Surface) : surface.bounds.Ordered := by
  have hwidth := surface.width_pos
  have hheight := surface.height_pos
  constructor
  · simp only [bounds]
    omega
  · simp only [bounds]
    omega

theorem clip?_eq_self
    {surface : Surface} {area : Rect} (harea : area.Ordered)
    (hinside : ∀ point, area.Contains point → surface.bounds.Contains point) :
    surface.clip? area = some area := by
  have hmin := mem_bounds_iff.1 (hinside _ harea.contains_min)
  have hmax := mem_bounds_iff.1 (hinside _ harea.contains_max)
  rw [clip?_eq_some_iff, Rect.mk.injEq]
  simp only at *
  omega

theorem dirty_fill
    {surface : Surface} (hclean : surface.dirty = none) (color : Color) :
    (surface.fill color).dirty = some surface.bounds := by
  let filled := surface.fillRows 0 surface.height color
  have hclip : filled.clip? surface.bounds = some surface.bounds :=
    clip?_eq_self surface.ordered_bounds fun _ => id
  have hfilled : filled.dirty = none := hclean
  rw [fill, dirty_markDirty_of_clip?_eq_some hclip, hfilled]
  rfl

theorem dirty_markDirty (surface : Surface) (rect : Rect) :
    (surface.markDirty rect).dirty =
      match surface.clip? rect with
      | none => surface.dirty
      | some area => some ((surface.dirty.map (·.union area)).getD area) := by
  cases hclip : surface.clip? rect with
  | none => rw [markDirty_of_clip?_eq_none hclip]
  | some area => rw [dirty_markDirty_of_clip?_eq_some hclip]

theorem dirty_markDirty_congr
    {surface other : Surface} (rect : Rect) (hwidth : surface.width = other.width)
    (hheight : surface.height = other.height) (hdirty : surface.dirty = other.dirty) :
    (surface.markDirty rect).dirty = (other.markDirty rect).dirty := by
  rw [dirty_markDirty, dirty_markDirty, clip?, clip?, hwidth, hheight, hdirty]

end Surface

/-! ## Rectangles near the surface -/

/-- Differences inside the rectangle are numbers of 32 bits. -/
structure Rect.Near (rect : Rect) : Prop extends rect.Ordered where
  minX_ge : -1073741824 ≤ rect.minX
  minY_ge : -1073741824 ≤ rect.minY
  maxX_lt : rect.maxX < 1073741824
  maxY_lt : rect.maxY < 1073741824

namespace Rect

theorem Near.spanX_lt {rect : Rect} (hnear : rect.Near) :
    rect.maxX - rect.minX < 2147483648 := by
  obtain ⟨-, hminX, -, hmaxX, -⟩ := hnear
  omega

theorem Near.spanY_lt {rect : Rect} (hnear : rect.Near) :
    rect.maxY - rect.minY < 2147483648 := by
  obtain ⟨-, -, hminY, -, hmaxY⟩ := hnear
  omega

theorem Near.width_eq {rect : Rect} (hnear : rect.Near) :
    rect.width = (rect.maxX - rect.minX + 1).toNat :=
  extent_of_le hnear.x (hnear.spanX_lt.trans (by decide))

theorem Near.height_eq {rect : Rect} (hnear : rect.Near) :
    rect.height = (rect.maxY - rect.minY + 1).toNat :=
  extent_of_le hnear.y (hnear.spanY_lt.trans (by decide))

theorem Near.width_le {rect : Rect} (hnear : rect.Near) : rect.width ≤ 2147483648 := by
  have hspan := hnear.spanX_lt
  rw [hnear.width_eq]
  omega

theorem Near.height_le {rect : Rect} (hnear : rect.Near) : rect.height ≤ 2147483648 := by
  have hspan := hnear.spanY_lt
  rw [hnear.height_eq]
  omega

theorem near_ofCorners
    {x1 y1 x2 y2 : Int} (hx1 : x1.natAbs ≤ 32768) (hy1 : y1.natAbs ≤ 32768)
    (hx2 : x2.natAbs ≤ 32768) (hy2 : y2.natAbs ≤ 32768) : (Rect.ofCorners x1 y1 x2 y2).Near where
  toOrdered := Rect.ordered_ofCorners x1 y1 x2 y2
  minX_ge := by
    simp only [Rect.ofCorners]
    omega
  minY_ge := by
    simp only [Rect.ofCorners]
    omega
  maxX_lt := by
    simp only [Rect.ofCorners]
    omega
  maxY_lt := by
    simp only [Rect.ofCorners]
    omega

theorem near_of_clip?
    {surface : Surface} {rect area : Rect} (hclip : surface.clip? rect = some area)
    (hrect : rect.Ordered) : area.Near := by
  have harea : area.Ordered := hrect.of_clip? hclip
  obtain ⟨-, rfl⟩ := Surface.clip?_eq_some_iff.1 hclip
  have hwidth := surface.width_lt
  have hheight := surface.height_lt
  refine ⟨harea, ?_, ?_, ?_, ?_⟩
  · simp only
    omega
  · simp only
    omega
  · simp only
    omega
  · simp only
    omega

end Rect

namespace Compositor

/-! ## Bitmaps -/

theorem mem_bitmapPixels_iff
    {width height : Nat} {x y : Int} {bitmap : Bitmap} {scale : UInt8}
    {foreground : Color} {clear : Point → Color} {point : Point} :
    point ∈ (bitmapPixels width height x y bitmap scale foreground clear).map Prod.fst ↔
      (footprint x y bitmap scale).Contains point ∧
        (0 ≤ point.x ∧ point.x < width) ∧ 0 ≤ point.y ∧ point.y < height := by
  obtain ⟨px, py⟩ := point
  have hmem : (⟨px, py⟩ : Point) ∈
        (bitmapPixels width height x y bitmap scale foreground clear).map Prod.fst ↔
      (∃ row, (row, py) ∈ places y height scale.toNat (bitmap.height.toNat * scale.toNat) 0) ∧
        ∃ column, (column, px) ∈
          places x width scale.toNat (bitmap.width.toNat * scale.toNat) 0 := by
    simp only [bitmapPixels, List.mem_map, List.mem_flatMap, Prod.exists]
    constructor
    · rintro ⟨_, _, ⟨row, py', hrow, column, px', hcolumn, heq⟩, hpoint⟩
      rw [Prod.mk.injEq] at heq
      obtain ⟨rfl, -⟩ := heq
      rw [Point.mk.injEq] at hpoint
      obtain ⟨rfl, rfl⟩ := hpoint
      exact ⟨⟨row, hrow⟩, column, hcolumn⟩
    · rintro ⟨⟨row, hrow⟩, column, hcolumn⟩
      exact ⟨_, _, ⟨row, py, hrow, column, px, hcolumn, rfl⟩, rfl⟩
  rw [hmem, mem_places_iff, mem_places_iff]
  simp only [footprint, Rect.Contains]
  push_cast
  omega

theorem ordered_footprint
    {x y : Int} {bitmap : Bitmap} {scale : UInt8}
    (hsize : ¬ (scale = 0 ∨ bitmap.width = 0 ∨ bitmap.height = 0)) :
    (footprint x y bitmap scale).Ordered := by
  simp only [not_or, ← UInt8.toNat_inj, ← UInt16.toNat_inj] at hsize
  have hwidth : 0 < bitmap.width.toNat * scale.toNat :=
    Nat.mul_pos (Nat.pos_of_ne_zero hsize.2.1) (Nat.pos_of_ne_zero hsize.1)
  have hheight : 0 < bitmap.height.toNat * scale.toNat :=
    Nat.mul_pos (Nat.pos_of_ne_zero hsize.2.2) (Nat.pos_of_ne_zero hsize.1)
  constructor
  · simp only [footprint]
    omega
  · simp only [footprint]
    omega

/-- The points that a bitmap is drawn at are all those of its box that are on the surface. -/
theorem hull?_bitmapPixels
    {surface : Surface} {x y : Int} {bitmap : Bitmap} {scale : UInt8}
    {foreground : Color} {clear : Point → Color} {visible : Rect}
    (hsize : ¬ (scale = 0 ∨ bitmap.width = 0 ∨ bitmap.height = 0))
    (hclip : surface.clip? (footprint x y bitmap scale) = some visible) :
    Rect.hull? ((bitmapPixels surface.width surface.height x y bitmap scale foreground clear).map
      Prod.fst) = some visible := by
  have hvisible : visible.Ordered := (ordered_footprint hsize).of_clip? hclip
  have hmem : ∀ point, visible.Contains point ↔ point ∈
      (bitmapPixels surface.width surface.height x y bitmap scale foreground clear).map
        Prod.fst := by
    intro point
    rw [mem_bitmapPixels_iff, (Surface.clip?_eq_some hclip).2 point, Surface.mem_bounds_iff,
      and_assoc]
  have hhull := hvisible.isHull.congr hmem
  cases htouched : Rect.hull? ((bitmapPixels surface.width surface.height x y bitmap scale
      foreground clear).map Prod.fst) with
  | none =>
      have hcorner := (hmem _).1 hvisible.contains_min
      rw [Rect.hull?_eq_none_iff.1 htouched] at hcorner
      contradiction
  | some touched => rw [(Rect.isHull_of_hull? htouched).unique hhull]

/-! ## Buffers -/

theorem extent_ofCorners {a b : Int} (hsize : (b - a).natAbs < 4294967295) :
    Rect.extent (min a b) (max a b) = (b - a).natAbs + 1 := by
  rw [Rect.extent]
  omega

theorem packedOffset_lt
    {x1 y1 x2 y2 : Int} {point : Point} (hsize : (x2 - x1).natAbs < 4294967295)
    (hpoint : (Rect.ofCorners x1 y1 x2 y2).Contains point) :
    packedOffset (Rect.ofCorners x1 y1 x2 y2) point + 3 ≤
      ((x2 - x1).natAbs + 1) * ((y2 - y1).natAbs + 1) * 3 := by
  have hwidth : (Rect.ofCorners x1 y1 x2 y2).width = (x2 - x1).natAbs + 1 :=
    extent_ofCorners hsize
  obtain ⟨hminX, hmaxX, hminY, hmaxY⟩ := hpoint
  rw [packedOffset, hwidth]
  simp only [Rect.ofCorners] at *
  have hindex := rowMajor_lt
    (show (point.x - min x1 x2).toNat < (x2 - x1).natAbs + 1 by omega)
    (show (point.y - min y1 y2).toNat < (y2 - y1).natAbs + 1 by omega)
  omega

end Compositor

/-! ## Commands -/

/-- The rectangle that a command spans, on the surface or not, if it is to draw anything. -/
def Command.footprint? (bounds : Rect) : Command → Option Rect
  | .fillRect corners _ | .blitBuffer corners _ =>
    some (Rect.ofCorners corners.x1.toInt corners.y1.toInt corners.x2.toInt corners.y2.toInt)
  | .drawBitmap x y scale _ _ bitmap =>
    if scale = 0 ∨ bitmap.width = 0 ∨ bitmap.height = 0 then none
    else some ⟨x.toInt, y.toInt, x.toInt + bitmap.width.toNat * scale.toNat - 1,
      y.toInt + bitmap.height.toNat * scale.toNat - 1⟩
  | .scroll lines => if lines = 0 then none else some bounds
  | .execute _ => none

theorem Command.ordered_footprint?
    {surface : Surface} {command : Command} {box : Rect}
    (hbox : command.footprint? surface.bounds = some box) : box.Ordered := by
  cases command with
  | fillRect corners color =>
      rw [footprint?, Option.some.injEq] at hbox
      subst hbox
      exact Rect.ordered_ofCorners ..
  | blitBuffer corners pixels =>
      rw [footprint?, Option.some.injEq] at hbox
      subst hbox
      exact Rect.ordered_ofCorners ..
  | drawBitmap x y scale foreground backdrop bitmap =>
      rw [footprint?] at hbox
      split at hbox
      next => contradiction
      next hsize =>
        rw [Option.some.injEq] at hbox
        subst hbox
        exact Compositor.ordered_footprint hsize
  | scroll lines =>
      rw [footprint?] at hbox
      split at hbox
      next => contradiction
      next =>
        rw [Option.some.injEq] at hbox
        subst hbox
        exact surface.ordered_bounds
  | execute data => contradiction

/-- The point is on the surface and in the footprint of the command. -/
def Command.Reaches (bounds : Rect) (command : Command) (point : Point) : Prop :=
  bounds.Contains point ∧ ∃ box, command.footprint? bounds = some box ∧ box.Contains point

theorem Command.reaches_iff
    {bounds box : Rect} {command : Command} (hbox : command.footprint? bounds = some box)
    (point : Point) :
    command.Reaches bounds point ↔ bounds.Contains point ∧ box.Contains point := by
  simp [Reaches, hbox]

theorem Command.not_reaches
    {bounds : Rect} {command : Command} (hnone : command.footprint? bounds = none)
    (point : Point) : ¬ command.Reaches bounds point := by
  simp [Reaches, hnone]

end PanelLink
