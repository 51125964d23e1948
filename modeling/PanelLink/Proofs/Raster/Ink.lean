import PanelLink.Proofs.Raster.Painting

/-!
# Ink

What a command draws at a point of the surface depends on the color of that point alone.  Only
scrolling looks at other points, and it reaches the whole surface.  So each command leaves alone
what it does not reach, and does not care what has been drawn there.
-/

namespace PanelLink

namespace Corners

def rect (corners : Corners) : Rect :=
  Rect.ofCorners corners.x1.toInt corners.y1.toInt corners.x2.toInt corners.y2.toInt

theorem span_lt (corners : Corners) :
    (corners.x2.toInt - corners.x1.toInt).natAbs < 4294967295 := by
  have hleft := corners.x1.toInt_lt
  have hleft' := corners.x1.le_toInt
  have hright := corners.x2.toInt_lt
  have hright' := corners.x2.le_toInt
  omega

/-- The three bytes of the pixel at the point are in the buffer. -/
def Supplies (corners : Corners) (pixels : Array UInt8) (point : Point) : Prop :=
  Compositor.Supplied corners.x1.toInt corners.y1.toInt corners.x2.toInt corners.y2.toInt pixels
    point

instance (corners : Corners) (pixels : Array UInt8) (point : Point) :
    Decidable (corners.Supplies pixels point) :=
  inferInstanceAs (Decidable (Compositor.Supplied _ _ _ _ _ _))

end Corners

/-! ## One point -/

/-- The bytes of a point when something has been put on it. -/
def Surface.inked (surface : Surface) (ink? : Option Backdrop) (point : Point) : List UInt8 :=
  match ink? with
  | none => surface.bytesAt point
  | some backdrop => (backdrop.over (surface.colorAt point)).stored

theorem Surface.inked_congr
    {surface other : Surface} (ink? : Option Backdrop) {point : Point}
    (hwidth : surface.width = other.width) (hheight : surface.height = other.height)
    (hbytes : surface.bytesAt point = other.bytesAt point) :
    surface.inked ink? point = other.inked ink? point := by
  cases ink? with
  | none => exact hbytes
  | some backdrop => simp only [inked, colorAt, pixel?_congr hwidth hheight hbytes]

theorem Surface.inked_ite
    {surface : Surface} {p : Prop} [Decidable p] {backdrop : Backdrop} {point : Point} :
    surface.inked (if p then some backdrop else none) point =
      if p then (backdrop.over (surface.colorAt point)).stored else surface.bytesAt point := by
  by_cases hp : p
  · simp only [if_pos hp, inked]
  · simp only [if_neg hp, inked]

/-- Putting the same on a point again changes nothing. -/
theorem Surface.inked_again
    {surface drawn : Surface} {ink? : Option Backdrop} {point : Point}
    (hpoint : drawn.bounds.Contains point)
    (hbytes : drawn.bytesAt point = surface.inked ink? point) :
    drawn.inked ink? point = surface.inked ink? point := by
  cases ink? with
  | none => exact hbytes
  | some backdrop =>
      have hcolor : drawn.colorAt point = backdrop.over (surface.colorAt point) := by
        rw [colorAt, pixel?_of_bytesAt hpoint hbytes]
        rfl
      cases backdrop with
      | solid color => rfl
      | transparent => simp only [inked, hcolor, Backdrop.over]

/-! ## Commands -/

namespace Command

/-- What a command puts on a point: a color, the color that is there already, or nothing. -/
def ink? : Command → Point → Option Backdrop
  | .fillRect corners color, point =>
    if corners.rect.Contains point then some (.solid color) else none
  | .drawBitmap x y scale foreground backdrop bitmap, point =>
    if (scale ≠ 0 ∧ bitmap.width ≠ 0 ∧ bitmap.height ≠ 0) ∧
        (Compositor.footprint x.toInt y.toInt bitmap scale).Contains point then
      some (if bitmap.magnifiedBit x.toInt y.toInt scale point then .solid foreground else backdrop)
    else
      none
  | .blitBuffer corners pixels, point =>
    if corners.rect.Contains point ∧ corners.Supplies pixels point then
      some (.solid (Compositor.packedColor pixels (Compositor.packedOffset corners.rect point)))
    else
      none
  | .scroll _, _ | .execute _, _ => none

/-- The region around which a command lets the dirty rectangle grow.  A buffer that runs out early
marks its footprint down to the last row that it has a pixel for. -/
def Marks (bounds : Rect) (command : Command) (point : Point) : Prop :=
  command.Reaches bounds point ∧
    match command with
    | .blitBuffer corners pixels => ∃ other, command.Reaches bounds other ∧
        corners.Supplies pixels other ∧ point.y ≤ other.y
    | _ => True

variable {bounds : Rect} {command : Command} {point : Point}

theorem reaches_fillRect_iff {corners : Corners} {color : Color} :
    (fillRect corners color).Reaches bounds point ↔
      bounds.Contains point ∧ corners.rect.Contains point :=
  reaches_iff rfl point

theorem reaches_blitBuffer_iff {corners : Corners} {pixels : Array UInt8} :
    (blitBuffer corners pixels).Reaches bounds point ↔
      bounds.Contains point ∧ corners.rect.Contains point :=
  reaches_iff rfl point

theorem reaches_drawBitmap_iff
    {x y : Int16} {scale : UInt8} {foreground : Color} {backdrop : Backdrop} {bitmap : Bitmap} :
    (drawBitmap x y scale foreground backdrop bitmap).Reaches bounds point ↔
      (scale ≠ 0 ∧ bitmap.width ≠ 0 ∧ bitmap.height ≠ 0) ∧ bounds.Contains point ∧
        (Compositor.footprint x.toInt y.toInt bitmap scale).Contains point := by
  by_cases hsize : scale = 0 ∨ bitmap.width = 0 ∨ bitmap.height = 0
  · have hdraws : ¬ (scale ≠ 0 ∧ bitmap.width ≠ 0 ∧ bitmap.height ≠ 0) := by
      simpa only [← not_or, not_not] using hsize
    simp only [Reaches, footprint?, if_pos hsize, hdraws, reduceCtorEq, false_and, exists_false,
      and_false]
  · have hdraws : scale ≠ 0 ∧ bitmap.width ≠ 0 ∧ bitmap.height ≠ 0 := by
      simpa only [not_or] using hsize
    have hbox : (drawBitmap x y scale foreground backdrop bitmap).footprint? bounds =
        some (Compositor.footprint x.toInt y.toInt bitmap scale) := if_neg hsize
    rw [reaches_iff hbox, and_iff_right hdraws]

theorem reaches_scroll_iff {lines : Int16} :
    (scroll lines).Reaches bounds point ↔ lines ≠ 0 ∧ bounds.Contains point := by
  by_cases hlines : lines = 0
  · simp [Reaches, footprint?, hlines]
  · simp [Reaches, footprint?, hlines]

theorem marks_iff_reaches (hcomplete : command.Complete) :
    command.Marks bounds point ↔ command.Reaches bounds point := by
  apply and_iff_left_of_imp
  intro hreaches
  cases command with
  | blitBuffer corners pixels =>
      have hpoint := (reaches_blitBuffer_iff.mp hreaches).2
      exact ⟨point, hreaches,
        Compositor.supplied_of_complete corners.span_lt hcomplete hpoint, le_rfl⟩
  | fillRect corners color => trivial
  | drawBitmap x y scale foreground backdrop bitmap => trivial
  | scroll lines => trivial
  | execute data => trivial

theorem ink?_of_not_reaches
    (hpoint : bounds.Contains point) (hout : ¬ command.Reaches bounds point) :
    command.ink? point = none := by
  cases command with
  | fillRect corners color =>
      rw [reaches_fillRect_iff, and_iff_right hpoint] at hout
      exact if_neg hout
  | drawBitmap x y scale foreground backdrop bitmap =>
      rw [reaches_drawBitmap_iff, and_iff_right hpoint] at hout
      exact if_neg hout
  | blitBuffer corners pixels =>
      rw [reaches_blitBuffer_iff, and_iff_right hpoint] at hout
      exact if_neg fun hdrawn => hout hdrawn.1
  | scroll lines => rfl
  | execute data => rfl

end Command

namespace Compositor

variable {compositor : Compositor} {command : Command} {point : Point}

/-- What is seen when a command has been applied. -/
def pictureAfter (compositor : Compositor) (command : Command) (point : Point) : List UInt8 :=
  match command with
  | .scroll lines =>
    if 0 ≤ point.y + lines.toInt ∧ point.y + lines.toInt < compositor.surface.height then
      compositor.surface.bytesAt ⟨point.x, point.y + lines.toInt⟩
    else
      compositor.background.stored
  | command => compositor.surface.inked (command.ink? point) point

theorem pictureAfter_eq_inked (hcommand : ∀ lines, command ≠ .scroll lines) :
    compositor.pictureAfter command point =
      compositor.surface.inked (command.ink? point) point := by
  cases command with
  | scroll lines => exact absurd rfl (hcommand lines)
  | fillRect corners color => rfl
  | drawBitmap x y scale foreground backdrop bitmap => rfl
  | blitBuffer corners pixels => rfl
  | execute data => rfl

/-- Every command paints its marks and its picture. -/
theorem paints_apply (compositor : Compositor) (command : Command) :
    compositor.Paints (compositor.apply command) (command.Marks compositor.surface.bounds)
      (compositor.pictureAfter command) := by
  cases command with
  | fillRect corners color =>
      have hcomplete : (Command.fillRect corners color).Complete := trivial
      apply (compositor.paints_fillRect ..).congr
      · intro point
        rw [Command.marks_iff_reaches hcomplete, Command.reaches_fillRect_iff]
        rfl
      · intro point _
        rw [pictureAfter_eq_inked (by simp), Command.ink?, Surface.inked_ite]
        rfl
  | drawBitmap x y scale foreground backdrop bitmap =>
      have hcomplete :
          (Command.drawBitmap x y scale foreground backdrop bitmap).Complete := trivial
      apply (compositor.paints_drawBitmap ..).congr
      · intro point
        rw [Command.marks_iff_reaches hcomplete, Command.reaches_drawBitmap_iff]
        rfl
      · intro point _
        rw [pictureAfter_eq_inked (by simp), Command.ink?, Surface.inked_ite,
          apply_ite (Backdrop.over · _)]
        rfl
  | blitBuffer corners pixels =>
      apply (compositor.paints_blitBuffer _ _ pixels corners.span_lt).congr
      · intro point
        simp only [Command.Marks, Command.reaches_blitBuffer_iff]
        rfl
      · intro point _
        rw [pictureAfter_eq_inked (by simp), Command.ink?, Surface.inked_ite]
        rfl
  | scroll lines =>
      have hcomplete : (Command.scroll lines).Complete := trivial
      apply (compositor.paints_scroll lines.toInt).congr
      · intro point
        rw [Command.marks_iff_reaches hcomplete, Command.reaches_scroll_iff, ne_eq, ne_eq,
          ← Int16.toInt_zero, Int16.toInt_inj]
      · exact fun _ _ => rfl
  | execute data =>
      apply paints_nothing
      intro point hmarks
      exact Command.not_reaches rfl point hmarks.1

/-! ## What is not reached -/

theorem bounds_apply (compositor : Compositor) (command : Command) :
    (compositor.apply command).2.surface.bounds = compositor.surface.bounds :=
  (compositor.paints_apply command).redrawn.bounds_eq

/-- Whether a command draws anything depends on the size of the surface alone. -/
theorem answer_congr
    {other : Compositor} (hbounds : compositor.surface.bounds = other.surface.bounds)
    (command : Command) : (compositor.apply command).1 = (other.apply command).1 := by
  have hdrawn := (compositor.paints_apply command).drawn_iff
  rw [hbounds, ← (other.paints_apply command).drawn_iff] at hdrawn
  exact Bool.eq_iff_iff.mpr hdrawn

theorem bytesAt_apply (command : Command) (hpoint : compositor.surface.bounds.Contains point) :
    (compositor.apply command).2.surface.bytesAt point = compositor.pictureAfter command point :=
  (compositor.paints_apply command).redrawn.bytesAt_eq point hpoint

/-- A command leaves alone what it does not reach. -/
theorem pictureAfter_of_not_reaches
    (hpoint : compositor.surface.bounds.Contains point)
    (hout : ¬ command.Reaches compositor.surface.bounds point) :
    compositor.pictureAfter command point = compositor.surface.bytesAt point := by
  by_cases hscroll : ∃ lines, command = .scroll lines
  · obtain ⟨lines, rfl⟩ := hscroll
    rw [Command.reaches_scroll_iff, and_iff_left hpoint, not_not] at hout
    obtain ⟨-, -, hy⟩ := Surface.mem_bounds_iff.mp hpoint
    simp [pictureAfter, hout, hy]
  · rw [not_exists] at hscroll
    rw [pictureAfter_eq_inked hscroll, Command.ink?_of_not_reaches hpoint hout]
    rfl

/-- A command other than scrolling does not see what is drawn elsewhere. -/
theorem pictureAfter_apply
    {other : Command} (hcommand : ∀ lines, command ≠ .scroll lines)
    (hpoint : compositor.surface.bounds.Contains point)
    (hout : ¬ other.Reaches compositor.surface.bounds point) :
    (compositor.apply other).2.pictureAfter command point =
      compositor.pictureAfter command point := by
  have hredrawn := (compositor.paints_apply other).redrawn
  have hbytes : (compositor.apply other).2.surface.bytesAt point =
      compositor.surface.bytesAt point :=
    (bytesAt_apply other hpoint).trans (pictureAfter_of_not_reaches hpoint hout)
  rw [pictureAfter_eq_inked hcommand, pictureAfter_eq_inked hcommand]
  exact Surface.inked_congr _ hredrawn.width_eq hredrawn.height_eq hbytes

theorem apply_of_not_reaches
    (hout : ∀ point, ¬ command.Reaches compositor.surface.bounds point) :
    compositor.apply command = (false, compositor) := by
  have hempty : ∀ point, ¬ command.Marks compositor.surface.bounds point :=
    fun point hmarks => hout point hmarks.1
  have hpaints := (compositor.paints_apply command).congr (fun _ => Iff.rfl)
    fun point hpoint => pictureAfter_of_not_reaches hpoint (hout point)
  exact hpaints.unique (paints_nothing hempty)

/-! ## Two commands -/

theorem answer_apply (compositor : Compositor) (first command : Command) :
    ((compositor.apply first).2.apply command).1 = (compositor.apply command).1 :=
  answer_congr (compositor.bounds_apply first) command

theorem paints_apply_apply (compositor : Compositor) (first command : Command) :
    compositor.Paints
      ((compositor.apply first).1 || (compositor.apply command).1,
        ((compositor.apply first).2.apply command).2)
      (fun point => first.Marks compositor.surface.bounds point ∨
        command.Marks compositor.surface.bounds point)
      ((compositor.apply first).2.pictureAfter command) := by
  have hnext := (compositor.apply first).2.paints_apply command
  rw [compositor.bounds_apply first] at hnext
  rw [← compositor.answer_apply first command]
  exact (compositor.paints_apply first).andThen hnext

end Compositor

end PanelLink
