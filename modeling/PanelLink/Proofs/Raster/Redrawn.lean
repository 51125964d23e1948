import PanelLink.Proofs.Raster.Hull
import PanelLink.Raster.Surface

/-!
# Redrawn surfaces

What every drawing operation does to a surface: it keeps the size, the dirty
rectangle only grows and stays on the surface, and each pixel whose bytes change
lies inside it afterwards.  The relation is a preorder, so it holds of any sequence
of operations once it holds of each of them.
-/

namespace PanelLink

theorem rowMajor_inj
    {width x y x' y' : Nat} (hx : x < width) (hx' : x' < width) :
    y * width + x = y' * width + x' ↔ y = y' ∧ x = x' := by
  constructor
  · intro heq
    have hdiv := congrArg (· / width) heq
    simp only [Nat.mul_comm _ width, Nat.mul_add_div (Nat.zero_lt_of_lt hx),
      Nat.div_eq_of_lt hx, Nat.div_eq_of_lt hx', Nat.add_zero] at hdiv
    rw [hdiv] at heq
    exact ⟨hdiv, Nat.add_left_cancel heq⟩
  · rintro ⟨rfl, rfl⟩
    rfl

theorem rowMajor_lt
    {width height x y : Nat} (hx : x < width) (hy : y < height) :
    y * width + x < width * height := by
  have hrow : (y + 1) * width ≤ height * width := Nat.mul_le_mul_right width hy
  rw [Nat.add_mul, Nat.one_mul, Nat.mul_comm height width] at hrow
  omega

namespace Surface

theorem of_ofStorage
    {width height : UInt16} {storage : Array UInt8} {surface : Surface}
    (hsurface : ofStorage width height storage = .ok surface) :
    (surface.width = width.toNat ∧ surface.height = height.toNat) ∧
      surface.storage = storage ∧ surface.dirty = none := by
  unfold ofStorage at hsurface
  split at hsurface
  next => contradiction
  next =>
    split at hsurface
    next => contradiction
    next =>
      cases hsurface
      exact ⟨⟨rfl, rfl⟩, rfl, rfl⟩

theorem exists_ofStorage
    {width height : UInt16} {storage : Array UInt8} (hwidth : width ≠ 0) (hheight : height ≠ 0)
    (hstorage : storageLength width.toNat height.toNat ≤ storage.size) :
    ∃ surface, ofStorage width height storage = .ok surface := by
  have hsize : ¬ (width.toNat = 0 ∨ height.toNat = 0) := by
    simpa [← UInt16.toNat_inj] using And.intro hwidth hheight
  rw [ofStorage, dif_neg hsize, dif_neg (by omega)]
  exact ⟨_, rfl⟩

/-! ## Parts of the surface -/

theorem mem_bounds_iff {surface : Surface} {point : Point} :
    surface.bounds.Contains point ↔
      0 ≤ point.x ∧ point.x < surface.width ∧ 0 ≤ point.y ∧ point.y < surface.height := by
  simp only [bounds, Rect.Contains]
  omega

theorem clip?_eq_some_iff {surface : Surface} {rect area : Rect} :
    surface.clip? rect = some area ↔
      (0 ≤ rect.maxX ∧ 0 ≤ rect.maxY ∧ rect.minX < surface.width ∧ rect.minY < surface.height) ∧
        area = ⟨max rect.minX 0, max rect.minY 0,
          min rect.maxX (surface.width - 1), min rect.maxY (surface.height - 1)⟩ := by
  rw [clip?, Rect.clip?_eq_some_iff, and_iff_right ⟨surface.width_pos, surface.height_pos⟩]

theorem clip?_eq_some
    {surface : Surface} {rect area : Rect} (hclip : surface.clip? rect = some area) :
    surface.bounds.ContainsRect area ∧
      ∀ point, area.Contains point ↔
        rect.Contains point ∧ surface.bounds.Contains point := by
  constructor
  · obtain ⟨hmeets, rfl⟩ := clip?_eq_some_iff.1 hclip
    have hwidth := surface.width_pos
    have hheight := surface.height_pos
    simp only [Rect.ContainsRect, Rect.Contains, bounds]
    omega
  · intro point
    rw [mem_bounds_iff, Rect.contains_of_clip? hclip]

/-! ## The bytes of a pixel -/

def bytesAt (surface : Surface) (point : Point) : List UInt8 :=
  (List.range 4).map fun i => surface.storage.getD (offset surface.width point + i) 0

theorem pixel?_congr
    {surface other : Surface} {point : Point}
    (hwidth : surface.width = other.width) (hheight : surface.height = other.height)
    (hbytes : surface.bytesAt point = other.bytesAt point) :
    surface.pixel? point = other.pixel? point := by
  have hbounds : surface.bounds = other.bounds := by
    simp only [bounds, hwidth, hheight]
  simp only [bytesAt, List.range, List.range.loop, List.map_cons, List.map_nil,
    List.cons.injEq, Nat.add_zero] at hbytes
  simp only [pixel?, hbounds, hbytes]

theorem offset_add_ne
    {surface : Surface} {point other : Point} {i j : Nat}
    (hpoint : surface.bounds.Contains point) (hother : surface.bounds.Contains other)
    (hne : point ≠ other) (hi : i < 4) (hj : j < 4) :
    offset surface.width point + i ≠ offset surface.width other + j := by
  obtain ⟨hx, hx', hy, -⟩ := mem_bounds_iff.1 hpoint
  obtain ⟨hox, hox', hoy, -⟩ := mem_bounds_iff.1 hother
  intro heq
  have hindex : point.y.toNat * surface.width + point.x.toNat =
      other.y.toNat * surface.width + other.x.toNat := by
    simp only [offset] at heq
    omega
  obtain ⟨hrow, hcolumn⟩ := (rowMajor_inj (by omega) (by omega)).1 hindex
  apply hne
  obtain ⟨x, y⟩ := point
  obtain ⟨ox, oy⟩ := other
  rw [Point.mk.injEq]
  simp only at *
  omega

theorem getD_writePixel_of_ne
    {storage : Array UInt8} {start i : Nat} {color : Color}
    (hi : ∀ k < 4, i ≠ start + k) :
    (writePixel storage start color).getD i 0 = storage.getD i 0 := by
  have h0 : i ≠ start := hi 0 (by omega)
  have h1 := hi 1 (by omega)
  have h2 := hi 2 (by omega)
  have h3 := hi 3 (by omega)
  simp only [writePixel, Array.getD_eq_getD_getElem?]
  rw [Array.getElem?_setIfInBounds_ne h3.symm, Array.getElem?_setIfInBounds_ne h2.symm,
    Array.getElem?_setIfInBounds_ne h1.symm, Array.getElem?_setIfInBounds_ne h0.symm]

theorem getD_writePixels_of_ne
    {width i : Nat} {pixels : List (Point × Color)} {storage : Array UInt8}
    (hi : ∀ pixel ∈ pixels, ∀ k < 4, i ≠ offset width pixel.1 + k) :
    (writePixels width pixels storage).getD i 0 = storage.getD i 0 := by
  induction pixels generalizing storage with
  | nil => rfl
  | cons pixel pixels ih =>
      have hcons : writePixels width (pixel :: pixels) storage =
          writePixels width pixels (writePixel storage (offset width pixel.1) pixel.2) := rfl
      rw [hcons, ih fun other hmem => hi other (List.mem_cons_of_mem _ hmem)]
      exact getD_writePixel_of_ne (hi pixel (by simp))

theorem bounds_paint (surface : Surface) (pixels : List (Point × Color)) :
    (surface.paint pixels).bounds = surface.bounds := rfl

theorem paint_append (surface : Surface) (pixels more : List (Point × Color)) :
    (surface.paint pixels).paint more = surface.paint (pixels ++ more) := by
  simp only [paint, writePixels, List.foldl_append]

theorem bytesAt_paint_of_forall_ne
    {surface : Surface} {pixels : List (Point × Color)} {point : Point}
    (hpixels : ∀ pixel ∈ pixels, surface.bounds.Contains pixel.1)
    (hpoint : surface.bounds.Contains point)
    (hne : ∀ pixel ∈ pixels, pixel.1 ≠ point) :
    (surface.paint pixels).bytesAt point = surface.bytesAt point := by
  unfold bytesAt
  apply List.map_congr_left
  intro i hi
  apply getD_writePixels_of_ne
  intro pixel hmem k hk
  exact offset_add_ne hpoint (hpixels pixel hmem) (hne pixel hmem).symm
    (List.mem_range.1 hi) hk

/-! ## The dirty rectangle -/

def Dirty (surface : Surface) (point : Point) : Prop :=
  ∃ rect, surface.dirty = some rect ∧ rect.Contains point

/-- The dirty rectangle has its corners on the surface. -/
def DirtyInside (surface : Surface) : Prop :=
  ∀ rect, surface.dirty = some rect → surface.bounds.ContainsRect rect

theorem markDirty_of_clip?_eq_none
    {surface : Surface} {rect : Rect} (hclip : surface.clip? rect = none) :
    surface.markDirty rect = surface := by
  rw [markDirty, hclip]

theorem dirty_markDirty_of_clip?_eq_some
    {surface : Surface} {rect area : Rect} (hclip : surface.clip? rect = some area) :
    (surface.markDirty rect).dirty =
      some ((surface.dirty.map (·.union area)).getD area) := by
  rw [markDirty, hclip]

theorem bounds_markDirty (surface : Surface) (rect : Rect) :
    (surface.markDirty rect).bounds = surface.bounds := by
  simp only [bounds, width_markDirty, height_markDirty]

theorem containsRect_union
    {rect other third : Rect} (hother : rect.ContainsRect other)
    (hthird : rect.ContainsRect third) : rect.ContainsRect (other.union third) := by
  simp only [Rect.ContainsRect, Rect.Contains, Rect.union] at *
  omega

theorem DirtyInside.markDirty
    {surface : Surface} (hinside : surface.DirtyInside) (rect : Rect) :
    (surface.markDirty rect).DirtyInside := by
  intro dirty hdirty
  rw [bounds_markDirty]
  cases hclip : surface.clip? rect with
  | none =>
      rw [markDirty_of_clip?_eq_none hclip] at hdirty
      exact hinside dirty hdirty
  | some area =>
      have harea := (clip?_eq_some hclip).1
      rw [dirty_markDirty_of_clip?_eq_some hclip, Option.some.injEq] at hdirty
      subst hdirty
      cases hold : surface.dirty with
      | none => exact harea
      | some old => exact containsRect_union (hinside old hold) harea

theorem exists_dirty_markDirty_covers
    {surface : Surface} {old : Rect} (rect : Rect) (hold : surface.dirty = some old) :
    ∃ dirty, (surface.markDirty rect).dirty = some dirty ∧ dirty.Covers old := by
  cases hclip : surface.clip? rect with
  | none =>
      rw [markDirty_of_clip?_eq_none hclip]
      exact ⟨old, hold, .refl old⟩
  | some area =>
      rw [dirty_markDirty_of_clip?_eq_some hclip, hold]
      exact ⟨old.union area, rfl, Rect.union_covers_left old area⟩

theorem dirty_markDirty_of_contains
    {surface : Surface} {rect : Rect} {point : Point}
    (hrect : rect.Contains point) (hpoint : surface.bounds.Contains point) :
    (surface.markDirty rect).Dirty point := by
  obtain ⟨area, hclip⟩ := Rect.exists_clip?_eq_some hrect (mem_bounds_iff.1 hpoint)
  have harea : area.Contains point := ((clip?_eq_some hclip).2 point).2 ⟨hrect, hpoint⟩
  refine ⟨_, dirty_markDirty_of_clip?_eq_some hclip, ?_⟩
  cases hold : surface.dirty with
  | none => exact harea
  | some old => exact (Rect.union_covers_right old area).contains harea

/-! ## Redrawing -/

/-- The second surface is the first one after some drawing. -/
structure Redrawn (before after : Surface) : Prop where
  width_eq : after.width = before.width
  height_eq : after.height = before.height
  dirty_covers : ∀ old, before.dirty = some old →
    ∃ dirty, after.dirty = some dirty ∧ dirty.Covers old
  dirty_of_bytesAt_ne : ∀ point, before.bounds.Contains point →
    after.bytesAt point ≠ before.bytesAt point → after.Dirty point
  inside : before.DirtyInside → after.DirtyInside

theorem Redrawn.bounds_eq {before after : Surface} (h : before.Redrawn after) :
    after.bounds = before.bounds := by
  simp only [bounds, h.width_eq, h.height_eq]

theorem Redrawn.dirty
    {before after : Surface} {point : Point} (h : before.Redrawn after)
    (hdirty : before.Dirty point) : after.Dirty point := by
  obtain ⟨old, hold, hcontains⟩ := hdirty
  obtain ⟨dirty, hdirty, hcovers⟩ := h.dirty_covers old hold
  exact ⟨dirty, hdirty, hcovers.contains hcontains⟩

theorem Redrawn.refl (surface : Surface) : surface.Redrawn surface where
  width_eq := rfl
  height_eq := rfl
  dirty_covers old hold := ⟨old, hold, .refl old⟩
  dirty_of_bytesAt_ne _ _ hne := absurd rfl hne
  inside hinside := hinside

theorem Redrawn.trans
    {before middle after : Surface} (h : before.Redrawn middle) (h' : middle.Redrawn after) :
    before.Redrawn after where
  width_eq := h'.width_eq.trans h.width_eq
  height_eq := h'.height_eq.trans h.height_eq
  dirty_covers old hold := by
    obtain ⟨dirty, hdirty, hcovers⟩ := h.dirty_covers old hold
    obtain ⟨dirty', hdirty', hcovers'⟩ := h'.dirty_covers dirty hdirty
    exact ⟨dirty', hdirty', hcovers'.trans hcovers⟩
  dirty_of_bytesAt_ne point hpoint hne := by
    by_cases hsame : after.bytesAt point = middle.bytesAt point
    · rw [hsame] at hne
      exact h'.dirty (h.dirty_of_bytesAt_ne point hpoint hne)
    · rw [← h.bounds_eq] at hpoint
      exact h'.dirty_of_bytesAt_ne point hpoint hsame
  inside hinside := h'.inside (h.inside hinside)

/-- A change of bytes followed by marking a rectangle that contains all of it. -/
theorem Redrawn.of_markDirty
    {before changed : Surface} {rect : Rect}
    (hwidth : changed.width = before.width) (hheight : changed.height = before.height)
    (hdirty : changed.dirty = before.dirty)
    (hrect : ∀ point, before.bounds.Contains point →
      changed.bytesAt point ≠ before.bytesAt point → rect.Contains point) :
    before.Redrawn (changed.markDirty rect) where
  width_eq := by rw [width_markDirty, hwidth]
  height_eq := by rw [height_markDirty, hheight]
  dirty_covers old hold := exists_dirty_markDirty_covers rect (by rw [hdirty, hold])
  dirty_of_bytesAt_ne point hpoint hne := by
    have hbounds : changed.bounds = before.bounds := by
      simp only [bounds, hwidth, hheight]
    have hsame : (changed.markDirty rect).bytesAt point = changed.bytesAt point := by
      simp only [bytesAt, storage_markDirty, width_markDirty]
    rw [hsame] at hne
    apply dirty_markDirty_of_contains (hrect point hpoint hne)
    rw [hbounds]
    exact hpoint
  inside hinside := by
    apply DirtyInside.markDirty
    intro old hold
    have hbounds : changed.bounds = before.bounds := by
      simp only [bounds, hwidth, hheight]
    rw [hbounds]
    exact hinside old (by rw [← hdirty, hold])

theorem redrawn_markDirty (surface : Surface) (rect : Rect) :
    surface.Redrawn (surface.markDirty rect) :=
  .of_markDirty rfl rfl rfl fun _ _ hne => absurd rfl hne

theorem redrawn_paint_markDirty
    {surface : Surface} {pixels : List (Point × Color)} {rect : Rect}
    (hpixels : ∀ pixel ∈ pixels, surface.bounds.Contains pixel.1 ∧ rect.Contains pixel.1) :
    surface.Redrawn ((surface.paint pixels).markDirty rect) := by
  apply Redrawn.of_markDirty
  · rfl
  · rfl
  · rfl
  · intro point hpoint hne
    by_contra hout
    apply hne
    apply bytesAt_paint_of_forall_ne (fun pixel hmem => (hpixels pixel hmem).1) hpoint
    rintro pixel hmem rfl
    exact hout (hpixels pixel hmem).2

theorem redrawn_putPixel (surface : Surface) (point : Point) (color : Color) :
    surface.Redrawn (surface.putPixel point color).2 := by
  unfold putPixel
  split
  next hpoint =>
    apply redrawn_paint_markDirty
    intro pixel hmem
    rw [List.mem_singleton.1 hmem]
    exact ⟨hpoint, le_rfl, le_rfl, le_rfl, le_rfl⟩
  next => exact .refl surface

theorem redrawn_markDirty_bounds
    {before changed : Surface}
    (hwidth : changed.width = before.width) (hheight : changed.height = before.height)
    (hdirty : changed.dirty = before.dirty) :
    before.Redrawn (changed.markDirty before.bounds) :=
  .of_markDirty hwidth hheight hdirty fun _ hpoint _ => hpoint

theorem redrawn_fill (surface : Surface) (color : Color) :
    surface.Redrawn (surface.fill color) :=
  redrawn_markDirty_bounds rfl rfl rfl

end Surface

end PanelLink
