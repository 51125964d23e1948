import PanelLink.Proofs.Raster.Growth

/-!
# The dirty rectangle

A surface between two takings of its dirty rectangle.  Whatever is drawn in between,
the rectangle lies on the surface and contains all that has changed, and it has its
corners in order unless it was marked by hand with a rectangle that has not.
-/

namespace PanelLink

namespace Surface

/-! ## Ordered corners -/

/-- The dirty rectangle has its corners in order. -/
def DirtyOrdered (surface : Surface) : Prop :=
  ∀ rect, surface.dirty = some rect → rect.Ordered

theorem DirtyOrdered.markDirty
    {surface : Surface} (hordered : surface.DirtyOrdered) {rect : Rect} (hrect : rect.Ordered) :
    (surface.markDirty rect).DirtyOrdered := by
  intro dirty hdirty
  rw [dirty_markDirty] at hdirty
  cases hclip : surface.clip? rect with
  | none =>
      rw [hclip] at hdirty
      exact hordered dirty hdirty
  | some area =>
      rw [hclip, Option.some.injEq] at hdirty
      subst hdirty
      cases hold : surface.dirty with
      | none => exact hrect.of_clip? hclip
      | some old => exact (hordered old hold).union area

theorem DirtyOrdered.putPixel
    {surface : Surface} (hordered : surface.DirtyOrdered) (point : Point) (color : Color) :
    (surface.putPixel point color).2.DirtyOrdered := by
  unfold Surface.putPixel
  split
  next =>
    have hpainted : (surface.paint [(point, color)]).DirtyOrdered := hordered
    exact hpainted.markDirty ⟨le_rfl, le_rfl⟩
  next => exact hordered

theorem DirtyOrdered.fill
    {surface : Surface} (hordered : surface.DirtyOrdered) (color : Color) :
    (surface.fill color).DirtyOrdered := by
  have hfilled : (surface.fillRows 0 surface.height color).DirtyOrdered := hordered
  exact hfilled.markDirty surface.ordered_bounds

end Surface

namespace Compositor

variable {compositor : Compositor}

theorem dirtyOrdered_of_adds
    {outcome : Bool × Compositor} {region : Point → Prop}
    (hordered : compositor.surface.DirtyOrdered) (hadds : compositor.Adds outcome region) :
    outcome.2.surface.DirtyOrdered := by
  by_cases hregion : ∃ point, region point
  · obtain ⟨-, area, harea, hdirty⟩ := hadds.something hregion
    obtain ⟨point, hpoint⟩ := hregion
    intro rect hrect
    rw [hdirty, Option.some.injEq] at hrect
    subst hrect
    cases hold : compositor.surface.dirty with
    | none => exact ((harea point).2 hpoint).ordered
    | some old => exact (hordered old hold).union area
  · rw [hadds.nothing (not_exists.1 hregion)]
    exact hordered

/-- A buffer that runs out early marks the rows down to the last pixel it had. -/
theorem dirtyOrdered_blitBuffer
    (hordered : compositor.surface.DirtyOrdered) (x1 y1 x2 y2 : Int) (pixels : Array UInt8) :
    (compositor.blitBuffer x1 y1 x2 y2 pixels).2.surface.DirtyOrdered := by
  unfold blitBuffer
  dsimp only
  split
  next => exact hordered
  next area hclip =>
    split
    next => exact hordered
    next last hlast =>
      have hmem : last ∈ area.points :=
        (List.takeWhile_sublist _).subset (List.mem_of_getLast? hlast)
      have hcontains : area.Contains last := Rect.mem_points.1 hmem
      apply Surface.DirtyOrdered.markDirty
      · exact hordered
      · exact ⟨hcontains.ordered.x, hcontains.2.2.1⟩

theorem dirtyOrdered_apply
    (hordered : compositor.surface.DirtyOrdered) (command : Command) :
    (compositor.apply command).2.surface.DirtyOrdered := by
  cases command with
  | fillRect corners color => exact dirtyOrdered_of_adds hordered (compositor.adds_fillRect ..)
  | drawBitmap x y scale foreground backdrop bitmap =>
      exact dirtyOrdered_of_adds hordered (compositor.adds_drawBitmap ..)
  | blitBuffer corners pixels => exact dirtyOrdered_blitBuffer hordered _ _ _ _ _
  | scroll lines => exact dirtyOrdered_of_adds hordered (compositor.adds_scroll ..)
  | execute data => exact hordered

end Compositor

theorem Drawing.dirtyOrdered_perform
    {compositor : Compositor} (hordered : compositor.surface.DirtyOrdered) (drawing : Drawing)
    (hmarked : ∀ rect, drawing = .markDirty rect → rect.Ordered) :
    (drawing.perform compositor).surface.DirtyOrdered := by
  cases drawing with
  | apply command => exact Compositor.dirtyOrdered_apply hordered _
  | fillRect x1 y1 x2 y2 color =>
      exact Compositor.dirtyOrdered_of_adds hordered (compositor.adds_fillRect ..)
  | blitBuffer x1 y1 x2 y2 pixels => exact Compositor.dirtyOrdered_blitBuffer hordered _ _ _ _ _
  | drawBitmap x y bitmap scale foreground backdrop =>
      exact Compositor.dirtyOrdered_of_adds hordered (compositor.adds_drawBitmap ..)
  | scroll lines => exact Compositor.dirtyOrdered_of_adds hordered (compositor.adds_scroll ..)
  | setBackground color => exact hordered
  | putPixel point color => exact hordered.putPixel point color
  | fill color => exact hordered.fill color
  | markDirty rect => exact hordered.markDirty (hmarked rect rfl)

/-! ## Takings -/

/-- What can be done to a surface, by itself or in a compositor. -/
inductive Handling where
  | draw (drawing : Drawing)
  | takeDirty

/-- A compositor beside its surface as it was when the dirty rectangle was last taken. -/
structure Watched where
  compositor : Compositor
  taken : Surface

namespace Watched

def handle (watched : Watched) : Handling → Watched
  | .draw drawing => { watched with compositor := drawing.perform watched.compositor }
  | .takeDirty =>
    let surface := watched.compositor.surface.takeDirty.2
    { compositor := { watched.compositor with surface }, taken := surface }

def handleAll (watched : Watched) (handlings : List Handling) : Watched :=
  handlings.foldl handle watched

/-- The surface taken has the given size, and the one now comes from it by drawing alone. -/
structure Tracked (width height : Nat) (watched : Watched) : Prop where
  width_eq : watched.taken.width = width
  height_eq : watched.taken.height = height
  inside : watched.taken.DirtyInside
  redrawn : watched.taken.Redrawn watched.compositor.surface

variable {width height : Nat} {watched : Watched}

theorem Tracked.handle (htracked : watched.Tracked width height) (handling : Handling) :
    (watched.handle handling).Tracked width height := by
  cases handling with
  | draw drawing =>
      exact { htracked with
        redrawn := htracked.redrawn.trans (drawing.redrawn_perform watched.compositor) }
  | takeDirty =>
      constructor
      · exact htracked.redrawn.width_eq.trans htracked.width_eq
      · exact htracked.redrawn.height_eq.trans htracked.height_eq
      · intro rect hnone
        contradiction
      · exact .refl _

theorem Tracked.handleAll (htracked : watched.Tracked width height) (handlings : List Handling) :
    (watched.handleAll handlings).Tracked width height := by
  induction handlings generalizing watched with
  | nil => exact htracked
  | cons handling handlings ih => exact ih (htracked.handle handling)

theorem dirtyOrdered_handle
    (hordered : watched.compositor.surface.DirtyOrdered) {handling : Handling}
    (hmarked : ∀ rect, handling = .draw (.markDirty rect) → rect.Ordered) :
    (watched.handle handling).compositor.surface.DirtyOrdered := by
  cases handling with
  | draw drawing =>
      apply drawing.dirtyOrdered_perform hordered
      rintro rect rfl
      exact hmarked rect rfl
  | takeDirty =>
      intro rect hnone
      contradiction

theorem dirtyOrdered_handleAll
    (hordered : watched.compositor.surface.DirtyOrdered) {handlings : List Handling}
    (hmarked : ∀ rect, .draw (.markDirty rect) ∈ handlings → rect.Ordered) :
    (watched.handleAll handlings).compositor.surface.DirtyOrdered := by
  induction handlings generalizing watched with
  | nil => exact hordered
  | cons handling handlings ih =>
      have hnext : (watched.handle handling).compositor.surface.DirtyOrdered := by
        apply dirtyOrdered_handle hordered
        rintro rect rfl
        exact hmarked rect (List.mem_cons_self ..)
      exact ih hnext fun rect hmem => hmarked rect (List.mem_cons_of_mem _ hmem)

end Watched

/-- The dirty rectangle lies on the surface, contains every pixel whose bytes are not those it
had when the rectangle was last taken, and never shrinks otherwise. -/
theorem dirty_covers_changes
    (width height : UInt16) (storage : Array UInt8) (surface reference : Surface)
    (background : Color) (start : Compositor) (handlings : List Handling)
    (hsurface : Surface.ofStorage width height storage = .ok surface)
    (hstart : start = ⟨surface, background⟩ ∨ start = Compositor.create surface background)
    (hreference : reference = surface ∨ reference = start.surface) :
    let watched := (Watched.mk start reference).handleAll handlings
    let now := watched.compositor.surface
    (now.width = width.toNat ∧ now.height = height.toNat) ∧
      (∀ rect, now.dirty = some rect →
        ((0 ≤ rect.minX ∧ rect.minX < width.toNat) ∧ 0 ≤ rect.maxX ∧ rect.maxX < width.toNat) ∧
          (0 ≤ rect.minY ∧ rect.minY < height.toNat) ∧
            0 ≤ rect.maxY ∧ rect.maxY < height.toNat) ∧
      ((∀ rect, .draw (.markDirty rect) ∈ handlings →
          rect.minX ≤ rect.maxX ∧ rect.minY ≤ rect.maxY) →
        ∀ rect, now.dirty = some rect → rect.minX ≤ rect.maxX ∧ rect.minY ≤ rect.maxY) ∧
      (∀ point, now.bounds.Contains point →
        now.bytesAt point ≠ watched.taken.bytesAt point → now.Dirty point) ∧
      ∀ (drawing : Drawing) (rect : Rect), now.dirty = some rect →
        ∃ next, (drawing.perform watched.compositor).surface.dirty = some next ∧
          next.Covers rect := by
  intro watched now
  obtain ⟨⟨hwidth, hheight⟩, -, hclean⟩ := Surface.of_ofStorage hsurface
  have hunmarked : ∀ rect, surface.dirty ≠ some rect := by
    intro rect hdirty
    rw [hclean] at hdirty
    contradiction
  have hinside : surface.DirtyInside := fun rect hdirty => absurd hdirty (hunmarked rect)
  have hordered : surface.DirtyOrdered := fun rect hdirty => absurd hdirty (hunmarked rect)
  have hfilled := Surface.redrawn_fill surface background
  have hstarted : surface.Redrawn start.surface ∧ start.surface.DirtyOrdered := by
    rcases hstart with rfl | rfl
    · exact ⟨.refl surface, hordered⟩
    · exact ⟨hfilled, hordered.fill background⟩
  have htracked : (Watched.mk start reference).Tracked width.toNat height.toNat := by
    rcases hreference with rfl | rfl
    · exact ⟨hwidth, hheight, hinside, hstarted.1⟩
    · exact ⟨hstarted.1.width_eq.trans hwidth, hstarted.1.height_eq.trans hheight,
        hstarted.1.inside hinside, .refl _⟩
  have hnow : watched.Tracked width.toNat height.toNat := htracked.handleAll handlings
  have hwidthNow : now.width = width.toNat := hnow.redrawn.width_eq.trans hnow.width_eq
  have hheightNow : now.height = height.toNat := hnow.redrawn.height_eq.trans hnow.height_eq
  refine ⟨⟨hwidthNow, hheightNow⟩, ?_, ?_, ?_, ?_⟩
  · intro rect hdirty
    have hcorners : now.bounds.ContainsRect rect := hnow.redrawn.inside hnow.inside rect hdirty
    rw [Rect.ContainsRect, Surface.mem_bounds_iff, Surface.mem_bounds_iff, hwidthNow,
      hheightNow] at hcorners
    obtain ⟨⟨hminX, hminX', hminY, hminY'⟩, hmaxX, hmaxX', hmaxY, hmaxY'⟩ := hcorners
    exact ⟨⟨⟨hminX, hminX'⟩, hmaxX, hmaxX'⟩, ⟨hminY, hminY'⟩, hmaxY, hmaxY'⟩
  · intro hmarked rect hdirty
    have hrects : ∀ other, .draw (.markDirty other) ∈ handlings → other.Ordered :=
      fun other hmem => ⟨(hmarked other hmem).1, (hmarked other hmem).2⟩
    have hcorners : now.DirtyOrdered := Watched.dirtyOrdered_handleAll hstarted.2 hrects
    exact ⟨(hcorners rect hdirty).x, (hcorners rect hdirty).y⟩
  · intro point hpoint hne
    rw [hnow.redrawn.bounds_eq] at hpoint
    exact hnow.redrawn.dirty_of_bytesAt_ne point hpoint hne
  · intro drawing rect hdirty
    exact (drawing.redrawn_perform watched.compositor).dirty_covers rect hdirty

/-- After a taking, a buffer that runs out in its second row is all that is dirty. -/
theorem dirty_covers_changes_short_buffer :
    ∃ surface : Surface,
      let start := Compositor.create surface ⟨0, 0, 255⟩
      let watched := (Watched.mk start surface).handleAll
        [.takeDirty, .draw (.blitBuffer (-1) 0 1 2 (Array.replicate 16 200))]
      Surface.ofStorage 3 3 (Array.replicate 36 0) = .ok surface ∧
        watched.compositor.surface.dirty = some ⟨0, 0, 1, 1⟩ ∧
        watched.compositor.surface.bytesAt ⟨0, 1⟩ ≠ watched.taken.bytesAt ⟨0, 1⟩ ∧
        watched.compositor.surface.Dirty ⟨0, 1⟩ := by
  obtain ⟨surface, hsurface⟩ : ∃ surface,
      Surface.ofStorage 3 3 (Array.replicate 36 0) = .ok surface := ⟨_, rfl⟩
  refine ⟨surface, ?_⟩
  intro start watched
  obtain ⟨-, -, -, hchanged, -⟩ := dirty_covers_changes 3 3 (Array.replicate 36 0) surface surface
    ⟨0, 0, 255⟩ start [.takeDirty, .draw (.blitBuffer (-1) 0 1 2 (Array.replicate 16 200))]
    hsurface (.inr rfl) (.inl rfl)
  have hdirty : watched.compositor.surface.dirty = some ⟨0, 0, 1, 1⟩ := by
    cases hsurface
    decide +kernel
  have hpoint : watched.compositor.surface.bounds.Contains ⟨0, 1⟩ := by
    cases hsurface
    decide +kernel
  have hne : watched.compositor.surface.bytesAt ⟨0, 1⟩ ≠ watched.taken.bytesAt ⟨0, 1⟩ := by
    cases hsurface
    decide +kernel
  exact ⟨hsurface, hdirty, hne, hchanged ⟨0, 1⟩ hpoint hne⟩

end PanelLink
