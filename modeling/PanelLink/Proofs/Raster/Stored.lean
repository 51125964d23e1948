import PanelLink.Proofs.Raster.Alike

/-!
# Stored pixels

What the storage of a surface holds after it has been drawn on: the bytes of every pixel, and
behind the last pixel what was there before.  So two drawings that show the same leave the same
storage.
-/

namespace PanelLink

/-- The four bytes of a pixel drawn in the color. -/
def Color.stored (color : Color) : List UInt8 :=
  color.toPixel ++ [Surface.opaqueAlpha]

namespace Surface

variable {surface before middle after other : Surface} {pixels : List (Point × Color)}
  {point : Point} {color : Color} {picture picture' : Point → List UInt8}

/-! ## Single pixels -/

theorem bytesAt_paint_singleton (hpoint : surface.bounds.Contains point) :
    (surface.paint [(point, color)]).bytesAt point = color.stored := by
  have hstorage : (surface.paint [(point, color)]).storage =
      writePixel surface.storage (offset surface.width point) color := by
    simp only [paint, writePixels, List.foldl_cons, List.foldl_nil]
  have hbyte : ∀ k ∈ List.range 4,
      (writePixel surface.storage (offset surface.width point) color).getD
          (offset surface.width point + k) 0 =
        [color.red, color.green, color.blue, opaqueAlpha].getD k 0 := by
    intro k hk
    rw [List.mem_range] at hk
    exact getD_writePixel hk ((offset_add_lt hpoint hk).trans_le surface.fits)
  rw [bytesAt, hstorage, width_paint, List.map_congr_left hbyte]
  rfl

/-- Where pixels are drawn at a point, one of them is seen there; elsewhere nothing changes. -/
theorem bytesAt_paint_cases
    (hpixels : ∀ pixel ∈ pixels, surface.bounds.Contains pixel.1)
    (hpoint : surface.bounds.Contains point) :
    (∃ color, (point, color) ∈ pixels ∧ (surface.paint pixels).bytesAt point = color.stored) ∨
      point ∉ pixels.map Prod.fst ∧
        (surface.paint pixels).bytesAt point = surface.bytesAt point := by
  induction pixels generalizing surface with
  | nil => exact .inr ⟨by simp, rfl⟩
  | cons pixel pixels ih =>
      obtain ⟨place, color⟩ := pixel
      have hhead : surface.bounds.Contains place := hpixels (place, color) (List.mem_cons_self ..)
      have hpainted : surface.paint ((place, color) :: pixels) =
          (surface.paint [(place, color)]).paint pixels :=
        (surface.paint_append [(place, color)] pixels).symm
      have hbounds := surface.bounds_paint [(place, color)]
      have htail : ∀ pixel ∈ pixels,
          (surface.paint [(place, color)]).bounds.Contains pixel.1 := by
        rw [hbounds]
        exact fun pixel hmem => hpixels pixel (List.mem_cons_of_mem _ hmem)
      have hpoint' : (surface.paint [(place, color)]).bounds.Contains point := by
        rwa [hbounds]
      rw [hpainted]
      -- A later pixel hides an earlier one, so the rest of the list decides first.
      rcases ih htail hpoint' with ⟨color', hmem, hbytes⟩ | ⟨hout, hbytes⟩
      · exact .inl ⟨color', List.mem_cons_of_mem _ hmem, hbytes⟩
      · rw [hbytes]
        by_cases hplace : place = point
        · subst hplace
          exact .inl ⟨color, List.mem_cons_self .., bytesAt_paint_singleton hpoint⟩
        · right
          constructor
          · simp [Ne.symm hplace, hout]
          · apply bytesAt_paint_of_forall_ne _ hpoint
            · simp [hplace]
            · simp [hhead]

theorem pixel?_of_bytesAt
    (hpoint : surface.bounds.Contains point) (hbytes : surface.bytesAt point = color.stored) :
    surface.pixel? point = some color := by
  simp only [bytesAt, List.range, List.range.loop, List.map_cons, List.map_nil, Color.stored,
    Color.toPixel, List.cons_append, List.nil_append, List.cons.injEq, Nat.add_zero] at hbytes
  simp only [pixel?, if_pos hpoint, hbytes]

/-! ## Whole pictures -/

/-- The second surface shows the picture, in a storage that is otherwise the one of the first. -/
structure RedrawnAs (before : Surface) (picture : Point → List UInt8) (after : Surface) : Prop where
  width_eq : after.width = before.width
  height_eq : after.height = before.height
  size_eq : after.storage.size = before.storage.size
  bytesAt_eq : ∀ point, before.bounds.Contains point → after.bytesAt point = picture point
  getD_eq : ∀ i, storageLength before.width before.height ≤ i →
    after.storage.getD i 0 = before.storage.getD i 0

namespace RedrawnAs

theorem bounds_eq (h : before.RedrawnAs picture after) : after.bounds = before.bounds := by
  simp only [bounds, h.width_eq, h.height_eq]

theorem congr (h : before.RedrawnAs picture after)
    (hpicture : ∀ point, before.bounds.Contains point → picture point = picture' point) :
    before.RedrawnAs picture' after :=
  { h with bytesAt_eq := fun point hpoint =>
      (h.bytesAt_eq point hpoint).trans (hpicture point hpoint) }

theorem refl (surface : Surface) : surface.RedrawnAs surface.bytesAt surface :=
  ⟨rfl, rfl, rfl, fun _ _ => rfl, fun _ _ => rfl⟩

/-- The later picture is seen. -/
theorem trans (h : before.RedrawnAs picture middle) (h' : middle.RedrawnAs picture' after) :
    before.RedrawnAs picture' after where
  width_eq := h'.width_eq.trans h.width_eq
  height_eq := h'.height_eq.trans h.height_eq
  size_eq := h'.size_eq.trans h.size_eq
  bytesAt_eq point hpoint := h'.bytesAt_eq point (by rwa [h.bounds_eq])
  getD_eq i hi := by
    have hi' : storageLength middle.width middle.height ≤ i := by
      rwa [h.width_eq, h.height_eq]
    exact (h'.getD_eq i hi').trans (h.getD_eq i hi)

theorem markDirty (h : before.RedrawnAs picture after) (rect : Rect) :
    before.RedrawnAs picture (after.markDirty rect) where
  width_eq := (after.width_markDirty rect).trans h.width_eq
  height_eq := (after.height_markDirty rect).trans h.height_eq
  size_eq := by rw [storage_markDirty, h.size_eq]
  bytesAt_eq point hpoint := by
    rw [← h.bytesAt_eq point hpoint]
    simp only [bytesAt, storage_markDirty, width_markDirty]
  getD_eq i hi := by rw [storage_markDirty, h.getD_eq i hi]

/-- The picture leaves no choice. -/
theorem storage_eq (h : before.RedrawnAs picture after) (h' : before.RedrawnAs picture other) :
    after.storage = other.storage := by
  have hbyte : ∀ i, after.storage.getD i 0 = other.storage.getD i 0 := by
    intro i
    by_cases hi : i < storageLength before.width before.height
    · obtain ⟨point, hpoint, k, hk, rfl⟩ := before.exists_offset_add hi
      have hbytes := (h.bytesAt_eq point hpoint).trans (h'.bytesAt_eq point hpoint).symm
      rw [bytesAt, bytesAt, h.width_eq, h'.width_eq] at hbytes
      exact List.map_inj_left.1 hbytes k (List.mem_range.2 hk)
    · rw [not_lt] at hi
      rw [h.getD_eq i hi, h'.getD_eq i hi]
  apply Array.ext (h.size_eq.trans h'.size_eq.symm)
  intro i hi hi'
  simpa [hi, hi'] using hbyte i

end RedrawnAs

/-! ## Drawing -/

theorem getD_paint_of_le
    (hpixels : ∀ pixel ∈ pixels, surface.bounds.Contains pixel.1) {i : Nat}
    (hi : storageLength surface.width surface.height ≤ i) :
    (surface.paint pixels).storage.getD i 0 = surface.storage.getD i 0 := by
  apply getD_writePixels_of_ne
  intro pixel hmem k hk heq
  have hlt := offset_add_lt (hpixels pixel hmem) hk
  omega

/-- Each pixel has the shade of its point, so it does not matter which one is drawn last. -/
theorem redrawnAs_paint
    {region : Point → Prop} [DecidablePred region] {shade : Point → Color}
    (hpixels : ∀ pixel ∈ pixels, surface.bounds.Contains pixel.1 ∧ pixel.2 = shade pixel.1)
    (hregion : ∀ point, surface.bounds.Contains point →
      (point ∈ pixels.map Prod.fst ↔ region point)) :
    surface.RedrawnAs
      (fun point => if region point then (shade point).stored else surface.bytesAt point)
      (surface.paint pixels) where
  width_eq := rfl
  height_eq := rfl
  size_eq := size_writePixels ..
  bytesAt_eq point hpoint := by
    have hinside : ∀ pixel ∈ pixels, surface.bounds.Contains pixel.1 :=
      fun pixel hmem => (hpixels pixel hmem).1
    rcases bytesAt_paint_cases hinside hpoint with ⟨color, hmem, hbytes⟩ | ⟨hout, hbytes⟩
    · have hdrawn := (hregion point hpoint).1 (List.mem_map_of_mem hmem)
      have hshade : color = shade point := (hpixels _ hmem).2
      rw [if_pos hdrawn, hbytes, hshade]
    · rw [(hregion point hpoint).not] at hout
      rw [if_neg hout, hbytes]
  getD_eq i hi := getD_paint_of_le (fun pixel hmem => (hpixels pixel hmem).1) hi

theorem redrawnAs_paintRect
    {region : Point → Prop} [DecidablePred region] {rect : Rect}
    (hrect : ∀ point, rect.Contains point ↔ surface.bounds.Contains point ∧ region point)
    (color : Color) :
    surface.RedrawnAs (fun point => if region point then color.stored else surface.bytesAt point)
      (surface.paintRect rect color) := by
  apply redrawnAs_paint
  · intro pixel hmem
    obtain ⟨point, hpoint, rfl⟩ := List.mem_map.1 hmem
    exact ⟨((hrect point).1 (Rect.mem_points.1 hpoint)).1, rfl⟩
  · intro point hpoint
    rw [List.map_map]
    simp [hrect, hpoint]

theorem redrawnAs_fillRows {bottom : Nat} (hbottom : bottom ≤ surface.height) (top : Nat)
    (color : Color) :
    surface.RedrawnAs
      (fun point => if top ≤ point.y ∧ point.y < bottom then color.stored
        else surface.bytesAt point)
      (surface.fillRows top bottom color) := by
  apply redrawnAs_paintRect
  intro point
  rw [mem_bounds_iff]
  simp only [Rect.Contains]
  omega

theorem redrawnAs_fill (surface : Surface) (color : Color) :
    surface.RedrawnAs (fun _ => color.stored) (surface.fill color) := by
  apply ((redrawnAs_fillRows le_rfl 0 color).markDirty surface.bounds).congr
  intro point hpoint
  obtain ⟨-, -, hy, hy'⟩ := mem_bounds_iff.1 hpoint
  rw [if_pos ⟨hy, hy'⟩]

theorem pixel?_fill
    (hpoint : surface.bounds.Contains point) (color : Color) :
    (surface.fill color).pixel? point = some color := by
  have hfilled := surface.redrawnAs_fill color
  apply pixel?_of_bytesAt
  · rwa [hfilled.bounds_eq]
  · exact hfilled.bytesAt_eq point hpoint

theorem redrawnAs_putPixel (surface : Surface) (point : Point) (color : Color) :
    surface.RedrawnAs (fun other => if other = point then color.stored else surface.bytesAt other)
      (surface.putPixel point color).2 := by
  unfold putPixel
  split
  next hpoint =>
    apply RedrawnAs.markDirty
    apply redrawnAs_paint
    · intro pixel hmem
      rw [List.mem_singleton.1 hmem]
      exact ⟨hpoint, rfl⟩
    · simp
  next hout =>
    apply (RedrawnAs.refl surface).congr
    intro other hother
    rw [if_neg]
    rintro rfl
    exact hout hother

/-! ## Rows -/

/-- A row of bytes is below another one if one of its bytes is. -/
theorem mul_le_mul_add_iff {row row' width column : Nat} (hcolumn : column < width) :
    row * width ≤ row' * width + column ↔ row ≤ row' := by
  constructor
  · intro hle
    have hlt : row * width < (row' + 1) * width := by
      rw [Nat.add_mul, Nat.one_mul]
      omega
    exact Nat.lt_add_one_iff.1 (Nat.lt_of_mul_lt_mul_right hlt)
  · intro hle
    exact (Nat.mul_le_mul_right width hle).trans (Nat.le_add_right _ _)

theorem offset_add_eq_row (width : Nat) (point : Point) (k : Nat) :
    offset width point + k = point.y.toNat * (width * 4) + (point.x.toNat * 4 + k) := by
  rw [offset, Nat.add_mul, Nat.mul_assoc, Nat.add_assoc]

theorem getD_copyRows {source target count i : Nat} (hi : i < surface.storage.size) :
    (surface.copyRows source target count).storage.getD i 0 =
      if target * (surface.width * 4) ≤ i ∧ i < (target + count) * (surface.width * 4) then
        surface.storage.getD
          (i - target * (surface.width * 4) + source * (surface.width * 4)) 0
      else
        surface.storage.getD i 0 := by
  rw [copyRows, Array.getD_eq_getD_getElem?, Array.getElem?_mapIdx,
    Array.getElem?_eq_getElem hi]
  simp [hi]

/-- The byte of a row that is copied on comes from the same place in the row that is copied. -/
theorem getD_copyRows_offset
    {source target count k : Nat} (hpoint : surface.bounds.Contains point) (hk : k < 4) :
    (surface.copyRows source target count).storage.getD (offset surface.width point + k) 0 =
      if target ≤ point.y ∧ point.y < (target + count : Nat) then
        surface.storage.getD
          (offset surface.width ⟨point.x, point.y - target + source⟩ + k) 0
      else
        surface.storage.getD (offset surface.width point + k) 0 := by
  obtain ⟨hx, hx', hy, -⟩ := mem_bounds_iff.1 hpoint
  have hcolumn : point.x.toNat * 4 + k < surface.width * 4 := by omega
  have hrows : (target * (surface.width * 4) ≤ offset surface.width point + k ∧
      offset surface.width point + k < (target + count) * (surface.width * 4)) ↔
        (target : Int) ≤ point.y ∧ point.y < (target + count : Nat) := by
    rw [offset_add_eq_row, mul_le_mul_add_iff hcolumn, ← not_le, mul_le_mul_add_iff hcolumn]
    omega
  rw [getD_copyRows ((offset_add_lt hpoint hk).trans_le surface.fits)]
  simp only [hrows]
  split
  next hcopied =>
    have hrow : (point.y - target + source).toNat = point.y.toNat - target + source := by omega
    have hle : target * (surface.width * 4) ≤ point.y.toNat * (surface.width * 4) :=
      Nat.mul_le_mul_right _ (by omega)
    congr 1
    rw [offset_add_eq_row, offset_add_eq_row, hrow, Nat.add_mul, Nat.sub_mul]
    dsimp only
    omega
  next => rfl

theorem redrawnAs_copyRows
    {target count : Nat} (htarget : target + count ≤ surface.height) (source : Nat) :
    surface.RedrawnAs
      (fun point => if target ≤ point.y ∧ point.y < (target + count : Nat) then
        surface.bytesAt ⟨point.x, point.y - target + source⟩ else surface.bytesAt point)
      (surface.copyRows source target count) where
  width_eq := rfl
  height_eq := rfl
  size_eq := by simp [copyRows]
  bytesAt_eq point hpoint := by
    by_cases hcopied : target ≤ point.y ∧ point.y < (target + count : Nat)
    · rw [if_pos hcopied]
      apply List.map_congr_left
      intro k hk
      exact (getD_copyRows_offset hpoint (List.mem_range.1 hk)).trans (if_pos hcopied)
    · rw [if_neg hcopied]
      apply List.map_congr_left
      intro k hk
      exact (getD_copyRows_offset hpoint (List.mem_range.1 hk)).trans (if_neg hcopied)
  getD_eq i hi := by
    by_cases hinside : i < surface.storage.size
    · have hlast := Nat.mul_le_mul_right (surface.width * 4) htarget
      rw [storageLength, Nat.mul_comm surface.width, Nat.mul_assoc] at hi
      rw [getD_copyRows hinside, if_neg]
      omega
    · simp [copyRows, hinside]

end Surface

end PanelLink
