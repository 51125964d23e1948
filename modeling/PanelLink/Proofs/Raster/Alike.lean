import PanelLink.Proofs.Raster.Drawing

/-!
# Alike pictures

Two compositors are alike if they show the same picture.  They may differ in what is dirty
and in the storage behind the last pixel, but no operation looks at either, so commands
keep them alike.
-/

namespace PanelLink

namespace Surface

/-! ## Bytes of two storages -/

theorem getD_writePixel
    {storage : Array UInt8} {start k : Nat} {color : Color}
    (hk : k < 4) (hsize : start + k < storage.size) :
    (writePixel storage start color).getD (start + k) 0 =
      [color.red, color.green, color.blue, opaqueAlpha].getD k 0 := by
  have hstart : start < storage.size := by omega
  simp only [writePixel, Array.getD_eq_getD_getElem?, Array.getElem?_setIfInBounds,
    Array.size_setIfInBounds]
  obtain rfl | rfl | rfl | rfl : k = 0 ∨ k = 1 ∨ k = 2 ∨ k = 3 := by omega
  · simp [hstart]
  · simp [hsize]
  · simp [hsize]
  · simp [hsize]

theorem getD_writePixel_congr
    {storage other : Array UInt8} {start i : Nat} (color : Color)
    (hi : i < storage.size) (hi' : i < other.size)
    (heq : storage.getD i 0 = other.getD i 0 ∨ ∃ k < 4, i = start + k) :
    (writePixel storage start color).getD i 0 = (writePixel other start color).getD i 0 := by
  by_cases hwritten : ∃ k < 4, i = start + k
  · obtain ⟨k, hk, rfl⟩ := hwritten
    rw [getD_writePixel hk hi, getD_writePixel hk hi']
  · have hne : ∀ k < 4, i ≠ start + k := fun k hk hk' => hwritten ⟨k, hk, hk'⟩
    rw [getD_writePixel_of_ne hne, getD_writePixel_of_ne hne]
    exact heq.resolve_right hwritten

/-- Afterwards two storages agree where they did before and where a pixel has been written. -/
theorem getD_writePixels_congr
    {storage other : Array UInt8} {width i : Nat} {pixels : List (Point × Color)}
    (hi : i < storage.size) (hi' : i < other.size)
    (heq : storage.getD i 0 = other.getD i 0 ∨
      ∃ pixel ∈ pixels, ∃ k < 4, i = offset width pixel.1 + k) :
    (writePixels width pixels storage).getD i 0 = (writePixels width pixels other).getD i 0 := by
  induction pixels generalizing storage other with
  | nil =>
      rcases heq with heq | ⟨pixel, hmem, -⟩
      · exact heq
      · contradiction
  | cons pixel pixels ih =>
      apply ih
      · rw [size_writePixel]
        exact hi
      · rw [size_writePixel]
        exact hi'
      · rcases heq with heq | ⟨other, hmem, hk⟩
        · exact .inl (getD_writePixel_congr pixel.2 hi hi' (.inl heq))
        · rcases List.mem_cons.1 hmem with rfl | hmem
          · exact .inl (getD_writePixel_congr other.2 hi hi' (.inr hk))
          · exact .inr ⟨other, hmem, hk⟩

theorem offset_add_lt
    {surface : Surface} {point : Point} {k : Nat} (hpoint : surface.bounds.Contains point)
    (hk : k < 4) : offset surface.width point + k < storageLength surface.width surface.height := by
  obtain ⟨hx, hx', hy, hy'⟩ := mem_bounds_iff.1 hpoint
  have hindex := rowMajor_lt
    (show point.x.toNat < surface.width by omega) (show point.y.toNat < surface.height by omega)
  rw [offset, storageLength]
  omega

/-- Every byte of the picture belongs to a pixel. -/
theorem exists_offset_add
    (surface : Surface) {i : Nat} (hi : i < storageLength surface.width surface.height) :
    ∃ point, surface.bounds.Contains point ∧ ∃ k < 4, i = offset surface.width point + k := by
  have hwidth := surface.width_pos
  have hindex : i / 4 < surface.width * surface.height := by
    rw [storageLength] at hi
    omega
  have hx := Nat.mod_lt (i / 4) hwidth
  have hy := Nat.div_lt_of_lt_mul hindex
  have hsplit := Nat.div_add_mod' (i / 4) surface.width
  refine ⟨⟨(i / 4 % surface.width : Nat), (i / 4 / surface.width : Nat)⟩, ?_,
    i % 4, Nat.mod_lt i (by omega), ?_⟩
  · rw [mem_bounds_iff]
    exact ⟨Int.natCast_nonneg _, Int.ofNat_lt.2 hx, Int.natCast_nonneg _, Int.ofNat_lt.2 hy⟩
  · simp only [offset, Int.toNat_natCast]
    omega

structure Alike (surface other : Surface) : Prop where
  width_eq : surface.width = other.width
  height_eq : surface.height = other.height
  getD_eq : ∀ i < storageLength surface.width surface.height,
    surface.storage.getD i 0 = other.storage.getD i 0

namespace Alike

variable {surface other : Surface}

theorem refl (surface : Surface) : surface.Alike surface :=
  ⟨rfl, rfl, fun _ _ => rfl⟩

theorem trans {third : Surface} (halike : surface.Alike other) (halike' : other.Alike third) :
    surface.Alike third where
  width_eq := halike.width_eq.trans halike'.width_eq
  height_eq := halike.height_eq.trans halike'.height_eq
  getD_eq i hi := by
    have hi' := hi
    rw [halike.width_eq, halike.height_eq] at hi'
    exact (halike.getD_eq i hi).trans (halike'.getD_eq i hi')

theorem fits (halike : surface.Alike other) {i : Nat}
    (hi : i < storageLength surface.width surface.height) :
    i < surface.storage.size ∧ i < other.storage.size := by
  refine ⟨hi.trans_le surface.fits, ?_⟩
  rw [halike.width_eq, halike.height_eq] at hi
  exact hi.trans_le other.fits

theorem bounds_eq (halike : surface.Alike other) : surface.bounds = other.bounds := by
  simp only [bounds, halike.width_eq, halike.height_eq]

theorem clip?_eq (halike : surface.Alike other) (rect : Rect) :
    surface.clip? rect = other.clip? rect := by
  simp only [clip?, halike.width_eq, halike.height_eq]

theorem view_eq (halike : surface.Alike other) : surface.view = other.view := by
  have hbytes : surface.storage.extract 0 (storageLength surface.width surface.height) =
      other.storage.extract 0 (storageLength surface.width surface.height) := by
    have hfits := surface.fits
    have hfits' := other.fits
    rw [← halike.width_eq, ← halike.height_eq] at hfits'
    apply Array.ext
    · simp only [Array.size_extract]
      omega
    · intro i hi hi'
      simp only [Array.size_extract] at hi hi'
      have hbyte := halike.getD_eq i (by omega)
      simp only [Array.getD_eq_getD_getElem?] at hbyte
      rw [Array.getElem?_eq_getElem (by omega), Array.getElem?_eq_getElem (by omega)] at hbyte
      simpa using hbyte
  rw [view, view, hbytes, halike.width_eq, halike.height_eq]

theorem pixel?_eq (halike : surface.Alike other) (point : Point) :
    surface.pixel? point = other.pixel? point := by
  by_cases hpoint : surface.bounds.Contains point
  · apply pixel?_congr halike.width_eq halike.height_eq
    unfold bytesAt
    apply List.map_congr_left
    intro k hk
    rw [← halike.width_eq]
    exact halike.getD_eq _ (offset_add_lt hpoint (List.mem_range.1 hk))
  · have hother : ¬ other.bounds.Contains point := by
      rw [← halike.bounds_eq]
      exact hpoint
    rw [pixel?, if_neg hpoint, pixel?, if_neg hother]

theorem paint (halike : surface.Alike other) (pixels : List (Point × Color)) :
    (surface.paint pixels).Alike (other.paint pixels) where
  width_eq := halike.width_eq
  height_eq := halike.height_eq
  getD_eq i hi := by
    obtain ⟨hsize, hsize'⟩ := halike.fits hi
    simp only [Surface.paint, ← halike.width_eq]
    exact getD_writePixels_congr hsize hsize' (.inl (halike.getD_eq i hi))

theorem fillRows (halike : surface.Alike other) (top bottom : Nat) (color : Color) :
    (surface.fillRows top bottom color).Alike (other.fillRows top bottom color) := by
  rw [Surface.fillRows, Surface.fillRows, halike.width_eq]
  exact halike.paint _

theorem copyRows
    (halike : surface.Alike other) {source target count : Nat}
    (hsource : source + count ≤ surface.height) :
    (surface.copyRows source target count).Alike (other.copyRows source target count) where
  width_eq := halike.width_eq
  height_eq := halike.height_eq
  getD_eq i hi := by
    obtain ⟨hsize, hsize'⟩ := halike.fits hi
    have hbyte := halike.getD_eq i hi
    simp only [Array.getD_eq_getD_getElem?, Array.getElem?_eq_getElem hsize,
      Array.getElem?_eq_getElem hsize', Option.getD_some] at hbyte
    simp only [Surface.copyRows, ← halike.width_eq]
    rw [Array.getD_eq_getD_getElem?, Array.getD_eq_getD_getElem?, Array.getElem?_mapIdx,
      Array.getElem?_mapIdx, Array.getElem?_eq_getElem hsize, Array.getElem?_eq_getElem hsize']
    simp only [Option.map_some, Option.getD_some]
    split
    next hrows =>
      apply halike.getD_eq
      have hlast : (source + count) * (surface.width * 4) ≤ surface.height * (surface.width * 4) :=
        Nat.mul_le_mul_right _ hsource
      rw [storageLength, Nat.mul_right_comm, Nat.mul_comm _ surface.height]
      simp only [Nat.add_mul] at hlast hrows
      omega
    next => exact hbyte

theorem markDirty (halike : surface.Alike other) (rect rect' : Rect) :
    (surface.markDirty rect).Alike (other.markDirty rect') := by
  constructor
  · rw [width_markDirty, width_markDirty, halike.width_eq]
  · rw [height_markDirty, height_markDirty, halike.height_eq]
  · rw [storage_markDirty, storage_markDirty, width_markDirty, height_markDirty]
    exact halike.getD_eq

theorem takeDirty (halike : surface.Alike other) : surface.takeDirty.2.Alike other :=
  ⟨halike.width_eq, halike.height_eq, halike.getD_eq⟩

end Alike

/-- A filled surface shows nothing of what was in its storage. -/
theorem alike_fill
    {surface other : Surface} (hwidth : surface.width = other.width)
    (hheight : surface.height = other.height) (color : Color) :
    (surface.fill color).Alike (other.fill color) := by
  have hrows : (surface.fillRows 0 surface.height color).Alike
      (other.fillRows 0 other.height color) := by
    constructor
    · exact hwidth
    · exact hheight
    · intro i hi
      obtain ⟨point, hpoint, hwritten⟩ := surface.exists_offset_add hi
      have hfits := surface.fits
      have hfits' := other.fits
      rw [← hwidth, ← hheight] at hfits'
      simp only [fillRows, paintRect, paint, ← hwidth, ← hheight]
      apply getD_writePixels_congr (hi.trans_le hfits) (hi.trans_le hfits')
      refine .inr ⟨(point, color), List.mem_map_of_mem (Rect.mem_points.2 ?_), hwritten⟩
      exact hpoint
  exact hrows.markDirty surface.bounds other.bounds

end Surface

namespace Compositor

structure Alike (compositor other : Compositor) : Prop where
  surface : compositor.surface.Alike other.surface
  background_eq : compositor.background = other.background

namespace Alike

variable {compositor other : Compositor}

theorem refl (compositor : Compositor) : compositor.Alike compositor :=
  ⟨.refl _, rfl⟩

theorem trans {third : Compositor}
    (halike : compositor.Alike other) (halike' : other.Alike third) : compositor.Alike third :=
  ⟨halike.surface.trans halike'.surface, halike.background_eq.trans halike'.background_eq⟩

theorem fillRect
    (halike : compositor.Alike other) (x1 y1 x2 y2 : Int) (color : Color) :
    (compositor.fillRect x1 y1 x2 y2 color).2.Alike (other.fillRect x1 y1 x2 y2 color).2 := by
  unfold Compositor.fillRect
  rw [halike.surface.clip?_eq]
  split
  next => exact halike
  next area _ => exact ⟨(halike.surface.paint _).markDirty area area, halike.background_eq⟩

theorem blitBuffer
    (halike : compositor.Alike other) (x1 y1 x2 y2 : Int) (pixels : Array UInt8) :
    (compositor.blitBuffer x1 y1 x2 y2 pixels).2.Alike
      (other.blitBuffer x1 y1 x2 y2 pixels).2 := by
  unfold Compositor.blitBuffer
  dsimp only
  rw [halike.surface.clip?_eq]
  split
  next => exact halike
  next =>
    split
    next => exact halike
    next => exact ⟨(halike.surface.paint _).markDirty _ _, halike.background_eq⟩

theorem readBuffer_eq (halike : compositor.Alike other) (x1 y1 x2 y2 : Int) :
    compositor.readBuffer x1 y1 x2 y2 = other.readBuffer x1 y1 x2 y2 := by
  have hpixel : compositor.surface.pixel? = other.surface.pixel? :=
    funext halike.surface.pixel?_eq
  have hread : readPixel compositor.surface = readPixel other.surface := by
    funext target bytes point
    rw [readPixel, readPixel, hpixel]
  rw [readBuffer, readBuffer, halike.surface.clip?_eq, hread]

theorem snapshot_eq (halike : compositor.Alike other) (visible : Rect) (backdrop : Backdrop) :
    compositor.snapshot visible backdrop = other.snapshot visible backdrop := by
  cases backdrop with
  | solid color => rfl
  | transparent => rw [snapshot, snapshot, halike.readBuffer_eq]

theorem drawBitmap
    (halike : compositor.Alike other) (x y : Int) (bitmap : Bitmap) (scale : UInt8)
    (foreground : Color) (backdrop : Backdrop) :
    (compositor.drawBitmap x y bitmap scale foreground backdrop).2.Alike
      (other.drawBitmap x y bitmap scale foreground backdrop).2 := by
  unfold Compositor.drawBitmap
  split
  next => exact halike
  next =>
    rw [halike.surface.clip?_eq]
    split
    next => exact halike
    next visible _ =>
      dsimp only
      rw [halike.snapshot_eq, halike.surface.width_eq, halike.surface.height_eq]
      split
      next => exact halike
      next touched _ =>
        exact ⟨(halike.surface.paint _).markDirty touched touched, halike.background_eq⟩

theorem scroll (halike : compositor.Alike other) (lines : Int) :
    (compositor.scroll lines).2.Alike (other.scroll lines).2 := by
  obtain ⟨hsurface, hbackground⟩ := halike
  unfold Compositor.scroll
  split
  next => exact ⟨hsurface, hbackground⟩
  next =>
    dsimp only
    rw [← hsurface.height_eq, ← hbackground]
    split
    next => exact ⟨(hsurface.fillRows _ _ _).markDirty _ _, rfl⟩
    next =>
      split
      next => exact ⟨((hsurface.copyRows (by omega)).fillRows _ _ _).markDirty _ _, rfl⟩
      next => exact ⟨((hsurface.copyRows (by omega)).fillRows _ _ _).markDirty _ _, rfl⟩

theorem apply (halike : compositor.Alike other) (command : Command) :
    (compositor.apply command).2.Alike (other.apply command).2 := by
  cases command with
  | fillRect corners color => exact halike.fillRect ..
  | drawBitmap x y scale foreground backdrop bitmap => exact halike.drawBitmap ..
  | blitBuffer corners pixels => exact halike.blitBuffer ..
  | scroll lines => exact halike.scroll ..
  | execute data => exact halike

end Alike

theorem alike_create
    {surface other : Surface} (hwidth : surface.width = other.width)
    (hheight : surface.height = other.height) (background : Color) :
    (create surface background).Alike (create other background) :=
  ⟨Surface.alike_fill hwidth hheight background, rfl⟩

/-! ## Lists of commands -/

def applyAll (compositor : Compositor) (commands : List Command) : Compositor :=
  commands.foldl (fun drawn command => (drawn.apply command).2) compositor

theorem applyAll_append (compositor : Compositor) (commands more : List Command) :
    compositor.applyAll (commands ++ more) = (compositor.applyAll commands).applyAll more :=
  List.foldl_append

theorem Alike.applyAll
    {compositor other : Compositor} (halike : compositor.Alike other) (commands : List Command) :
    (compositor.applyAll commands).Alike (other.applyAll commands) := by
  induction commands generalizing compositor other with
  | nil => exact halike
  | cons command commands ih => exact ih (halike.apply command)

end Compositor

end PanelLink
