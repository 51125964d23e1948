import PanelLink.Proofs.Panel.Shadow
import PanelLink.Proofs.Raster.Magnified

/-!
# Memory of a surface

Whatever is done to a surface, its storage keeps its size and all that lies behind the last pixel.
Every pixel has four bytes of its own, so what is drawn at one point leaves the others alone, and
a view of the surface shows them in the same places.
-/

namespace PanelLink

namespace Surface

variable {surface before middle after : Surface} {pixels : List (Point × Color)}
  {point other : Point} {color : Color} {picture : Point → List UInt8}

/-! ## Behind the picture -/

/-- The second surface is the first one with another picture in it. -/
def Confined (before after : Surface) : Prop :=
  ∃ picture, before.RedrawnAs picture after

theorem RedrawnAs.confined (h : before.RedrawnAs picture after) : before.Confined after :=
  ⟨picture, h⟩

theorem Confined.refl (surface : Surface) : surface.Confined surface :=
  (RedrawnAs.refl surface).confined

theorem Confined.trans (h : before.Confined middle) (h' : middle.Confined after) :
    before.Confined after := by
  rcases h with ⟨picture, hpicture⟩
  rcases h' with ⟨picture', hpicture'⟩
  exact (hpicture.trans hpicture').confined

theorem Confined.markDirty (h : before.Confined after) (rect : Rect) :
    before.Confined (after.markDirty rect) := by
  rcases h with ⟨picture, hpicture⟩
  exact (hpicture.markDirty rect).confined

theorem confined_takeDirty (surface : Surface) : surface.Confined surface.takeDirty.2 :=
  ⟨surface.bytesAt, rfl, rfl, rfl, fun _ _ => rfl, fun _ _ => rfl⟩

theorem confined_paint (hpixels : ∀ pixel ∈ pixels, surface.bounds.Contains pixel.1) :
    surface.Confined (surface.paint pixels) := by
  use (surface.paint pixels).bytesAt
  exact ⟨rfl, rfl, size_writePixels .., fun _ _ => rfl, fun _ => getD_paint_of_le hpixels⟩

theorem getElem?_eq_of_getD_eq
    {storage storage' : Array UInt8} {i : Nat} (hsize : storage.size = storage'.size)
    (hbyte : storage.getD i 0 = storage'.getD i 0) : storage[i]? = storage'[i]? := by
  by_cases hi : i < storage.size
  · have hi' : i < storage'.size := by omega
    simpa [hi, hi'] using hbyte
  · have hi' : ¬ i < storage'.size := by omega
    simp [hi, hi']

theorem Confined.getElem?_eq
    (h : before.Confined after) {i : Nat} (hi : storageLength before.width before.height ≤ i) :
    after.storage[i]? = before.storage[i]? := by
  rcases h with ⟨picture, hpicture⟩
  exact getElem?_eq_of_getD_eq hpicture.size_eq (hpicture.getD_eq i hi)

/-! ## Bytes of a pixel -/

/-- Where the bytes of a point stand in the storage. -/
def placesOf (surface : Surface) (point : Point) : List Nat :=
  (List.range 4).map (offset surface.width point + ·)

theorem mem_placesOf {i : Nat} :
    i ∈ surface.placesOf point ↔ ∃ k < 4, i = offset surface.width point + k := by
  simp [placesOf, eq_comm]

theorem disjoint_placesOf
    (hpoint : surface.bounds.Contains point) (hother : surface.bounds.Contains other)
    (hne : point ≠ other) : List.Disjoint (surface.placesOf point) (surface.placesOf other) := by
  intro i hi hi'
  rcases mem_placesOf.mp hi with ⟨k, hk, rfl⟩
  rcases mem_placesOf.mp hi' with ⟨k', hk', heq⟩
  exact offset_add_ne hpoint hother hne hk hk' heq

theorem getD_eq_of_bytesAt_eq
    (hwidth : after.width = before.width) (hbytes : after.bytesAt point = before.bytesAt point)
    {i : Nat} (hi : i ∈ before.placesOf point) :
    after.storage.getD i 0 = before.storage.getD i 0 := by
  rcases mem_placesOf.mp hi with ⟨k, hk, rfl⟩
  rw [bytesAt, bytesAt, hwidth] at hbytes
  exact List.map_inj_left.mp hbytes k (List.mem_range.mpr hk)

/-- A pixel that shows the same has the same bytes. -/
theorem RedrawnAs.getElem?_eq_of_mem_placesOf
    (h : before.RedrawnAs picture after) (hpoint : before.bounds.Contains point)
    (hpicture : picture point = before.bytesAt point) {i : Nat} (hi : i ∈ before.placesOf point) :
    after.storage[i]? = before.storage[i]? := by
  have hbytes : after.bytesAt point = before.bytesAt point :=
    (h.bytesAt_eq point hpoint).trans hpicture
  exact getElem?_eq_of_getD_eq h.size_eq (getD_eq_of_bytesAt_eq h.width_eq hbytes hi)

/-- Drawing one pixel writes the four bytes of its point and no other. -/
theorem putPixel_writes
    (hpoint : surface.bounds.Contains point) :
    (surface.putPixel point color).1 = true ∧
      (surface.putPixel point color).2.pixel? point = some color ∧
      ∀ i, i ∉ surface.placesOf point →
        (surface.putPixel point color).2.storage[i]? = surface.storage[i]? := by
  have hdrawn := surface.redrawnAs_putPixel point color
  refine ⟨by simp [putPixel, hpoint], ?_, ?_⟩
  · have hinside : (surface.putPixel point color).2.bounds.Contains point := by
      rwa [hdrawn.bounds_eq]
    have hbytes := hdrawn.bytesAt_eq point hpoint
    rw [if_pos rfl] at hbytes
    exact pixel?_of_bytesAt hinside hbytes
  · intro i hi
    by_cases hlt : i < storageLength surface.width surface.height
    · rcases surface.exists_offset_add hlt with ⟨other, hother, k, hk, rfl⟩
      have hplace : offset surface.width other + k ∈ surface.placesOf other :=
        mem_placesOf.mpr ⟨k, hk, rfl⟩
      have hne : other ≠ point := by
        rintro rfl
        exact hi hplace
      exact hdrawn.getElem?_eq_of_mem_placesOf hother (if_neg hne) hplace
    · exact hdrawn.confined.getElem?_eq (by omega)

theorem putPixel_of_off_surface (hpoint : ¬ surface.bounds.Contains point) :
    surface.putPixel point color = (false, surface) := by
  rw [putPixel, if_neg hpoint]

/-! ## Alpha -/

/-- The fourth byte of every pixel of a solid surface is the opaque one. -/
theorem Solid.getElem?_alpha
    (hsolid : surface.Solid) {k : Nat}
    (hk : 4 * k + 3 < storageLength surface.width surface.height) :
    surface.storage[4 * k + 3]? = some opaqueAlpha := by
  rcases surface.exists_offset_add hk with ⟨point, hpoint, j, hj, hindex⟩
  have hlast : j = 3 := by
    rw [offset] at hindex
    omega
  subst hlast
  have hsize : 4 * k + 3 < surface.storage.size := hk.trans_le surface.fits
  have hbytes := hsolid.bytesAt_eq hpoint
  simp only [bytesAt, List.range, List.range.loop, List.map_cons, List.map_nil, Color.stored,
    Color.toPixel, List.cons_append, List.nil_append, List.cons.injEq] at hbytes
  have halpha : surface.storage.getD (4 * k + 3) 0 = opaqueAlpha := by
    rw [hindex]
    exact hbytes.2.2.2.1
  simpa [hsize] using halpha

/-! ## Views -/

theorem pixel?_eq_none_iff :
    surface.pixel? point = none ↔
      ¬ (0 ≤ point.x ∧ point.x < surface.width ∧ 0 ≤ point.y ∧ point.y < surface.height) := by
  rw [← mem_bounds_iff, pixel?]
  split
  next hpoint => simp [hpoint]
  next hpoint => simp [hpoint]

/-- The bytes, the rows and the pixels of the view are those of the surface, and it has no more. -/
structure ShownIn (surface : Surface) (view : View) : Prop where
  size_bytes : view.bytes.size = surface.width * surface.height * 4
  size_row : ∀ y row, view.row? y = some row → row.size = surface.width * 4
  row?_eq_none_iff : ∀ y, view.row? y = none ↔ surface.height ≤ y
  pixel?_eq_none_iff : ∀ x y, view.pixel? x y = none ↔ surface.width ≤ x ∨ surface.height ≤ y
  pixel : ∀ (x y : Nat) (color : Color), surface.pixel? ⟨x, y⟩ = some color →
    view.pixel? x y = some color ∧
      Compositor.packedColor view.bytes ((y * surface.width + x) * 4) = color ∧
      ∃ row, view.row? y = some row ∧ Compositor.packedColor row (x * 4) = color

theorem size_view (surface : Surface) :
    surface.view.bytes.size = surface.width * surface.height * 4 := by
  have hfits := surface.fits
  rw [storageLength] at hfits
  simp [view, storageLength, hfits]

end Surface

namespace View

variable {view : View} {row : Array UInt8} {x y : Nat}

theorem row?_eq_none_iff : view.row? y = none ↔ view.height ≤ y := by
  simp [row?]

theorem pixel?_eq_none_iff : view.pixel? x y = none ↔ view.width ≤ x ∨ view.height ≤ y := by
  rw [pixel?]
  split
  next hinside => simp [hinside]
  next hinside =>
    simp only [true_iff]
    omega

/-- The rows lie in the bytes one after the other. -/
theorem row?_eq_some
    (hsize : view.bytes.size = view.width * view.height * 4) (hrow : view.row? y = some row) :
    row.size = view.width * 4 ∧
      ∀ i < view.width * 4, row.getD i 0 = view.bytes.getD (y * (view.width * 4) + i) 0 := by
  rw [row?] at hrow
  split at hrow
  next hy =>
    have hlast : (y + 1) * (view.width * 4) ≤ view.bytes.size := by
      rw [hsize, Nat.mul_comm view.width view.height, Nat.mul_assoc]
      exact Nat.mul_le_mul_right _ hy
    have hlength : (y + 1) * (view.width * 4) = y * (view.width * 4) + view.width * 4 :=
      Nat.succ_mul y _
    cases hrow
    constructor
    · rw [Array.size_extract]
      omega
    · intro i hi
      have hmin : i < min ((y + 1) * (view.width * 4)) view.bytes.size - y * (view.width * 4) := by
        omega
      simp only [Array.getD_eq_getD_getElem?, Array.getElem?_extract, if_pos hmin]
  next => contradiction

end View

theorem Surface.shownIn_view (surface : Surface) : surface.ShownIn surface.view where
  size_bytes := surface.size_view
  size_row y row hrow := (View.row?_eq_some surface.size_view hrow).1
  row?_eq_none_iff y := View.row?_eq_none_iff
  pixel?_eq_none_iff x y := View.pixel?_eq_none_iff
  pixel x y color hcolor := by
    rw [← surface.view_pixel? x y] at hcolor
    refine ⟨hcolor, ?_⟩
    rw [View.pixel?] at hcolor
    split at hcolor
    next hinside =>
      have hpacked : Compositor.packedColor surface.view.bytes ((y * surface.width + x) * 4) =
          color := Option.some.inj hcolor
      refine ⟨hpacked, ?_⟩
      have hx : x < surface.view.width := hinside.1
      cases hrow : surface.view.row? y with
      | none =>
          rw [View.row?_eq_none_iff] at hrow
          omega
      | some row =>
          have hbyte := (View.row?_eq_some surface.size_view hrow).2
          have hstart : y * (surface.view.width * 4) + x * 4 = (y * surface.width + x) * 4 := by
            rw [Nat.add_mul, Nat.mul_assoc]
            rfl
          refine ⟨row, rfl, ?_⟩
          rw [← hpacked, Compositor.packedColor, Compositor.packedColor, hbyte _ (by omega),
            hbyte _ (by omega), hbyte _ (by omega), ← Nat.add_assoc, ← Nat.add_assoc, hstart]
    next => contradiction

/-! ## Operations -/

namespace Compositor

variable {compositor : Compositor}

theorem confined_blitBuffer (compositor : Compositor) (x1 y1 x2 y2 : Int) (pixels : Array UInt8) :
    compositor.surface.Confined (compositor.blitBuffer x1 y1 x2 y2 pixels).2.surface := by
  unfold blitBuffer
  dsimp only
  split
  next => exact .refl _
  next area hclip =>
    split
    next => exact .refl _
    next =>
      apply Surface.Confined.markDirty
      apply Surface.confined_paint
      intro pixel hmem
      rcases List.mem_map.mp hmem with ⟨point, hpoint, rfl⟩
      have harea : area.Contains point :=
        Rect.mem_points.mp ((List.takeWhile_sublist _).subset hpoint)
      exact ((visible_iff_of_clip? hclip point).mpr harea).1

theorem confined_apply (compositor : Compositor) (command : Command) :
    compositor.surface.Confined (compositor.apply command).2.surface := by
  cases command with
  | fillRect corners color => exact (compositor.redrawnAs_fillRect ..).confined
  | drawBitmap x y scale foreground backdrop bitmap =>
      exact (compositor.redrawnAs_drawBitmap ..).confined
  | blitBuffer corners pixels => exact compositor.confined_blitBuffer ..
  | scroll lines => exact (compositor.redrawnAs_scroll ..).confined
  | execute data => exact .refl _

/-- Filling a rectangle writes no byte of a point outside it. -/
theorem getElem?_fillRect
    {x1 y1 x2 y2 : Int} {color : Color} {point : Point}
    (hpoint : compositor.surface.bounds.Contains point)
    (hout : ¬ (Rect.ofCorners x1 y1 x2 y2).Contains point)
    {i : Nat} (hi : i ∈ compositor.surface.placesOf point) :
    (compositor.fillRect x1 y1 x2 y2 color).2.surface.storage[i]? =
      compositor.surface.storage[i]? :=
  (compositor.redrawnAs_fillRect x1 y1 x2 y2 color).getElem?_eq_of_mem_placesOf hpoint
    (if_neg hout) hi

end Compositor

theorem Drawing.confined_perform (compositor : Compositor) (drawing : Drawing) :
    compositor.surface.Confined (drawing.perform compositor).surface := by
  cases drawing with
  | apply command => exact compositor.confined_apply command
  | fillRect x1 y1 x2 y2 color => exact (compositor.redrawnAs_fillRect ..).confined
  | blitBuffer x1 y1 x2 y2 pixels => exact compositor.confined_blitBuffer ..
  | drawBitmap x y bitmap scale foreground backdrop =>
      exact (compositor.redrawnAs_drawBitmap ..).confined
  | scroll lines => exact (compositor.redrawnAs_scroll ..).confined
  | setBackground color => exact .refl _
  | putPixel point color => exact (compositor.surface.redrawnAs_putPixel ..).confined
  | fill color => exact (compositor.surface.redrawnAs_fill color).confined
  | markDirty rect => exact (Surface.Confined.refl _).markDirty rect

namespace Watched

theorem confined_handle (watched : Watched) (handling : Handling) :
    watched.compositor.surface.Confined (watched.handle handling).compositor.surface := by
  cases handling with
  | draw drawing => exact drawing.confined_perform watched.compositor
  | takeDirty => exact watched.compositor.surface.confined_takeDirty

theorem confined_handleAll (watched : Watched) (handlings : List Handling) :
    watched.compositor.surface.Confined (watched.handleAll handlings).compositor.surface := by
  induction handlings generalizing watched with
  | nil => exact .refl _
  | cons handling handlings ih =>
      exact (watched.confined_handle handling).trans (ih (watched.handle handling))

end Watched

namespace Compositor

/-- What is left of a compositor after it and its surface have been handled. -/
def handleAll (compositor : Compositor) (handlings : List Handling) : Compositor :=
  ((Watched.mk compositor compositor.surface).handleAll handlings).compositor

theorem confined_handleAll (compositor : Compositor) (handlings : List Handling) :
    compositor.surface.Confined (compositor.handleAll handlings).surface :=
  Watched.confined_handleAll ⟨compositor, compositor.surface⟩ handlings

theorem solid_handleAll
    {compositor : Compositor} (hsolid : compositor.surface.Solid) (handlings : List Handling) :
    (compositor.handleAll handlings).surface.Solid :=
  @Watched.solid_handleAll ⟨compositor, compositor.surface⟩ hsolid handlings

end Compositor

/-- Storage that is large enough is taken, and whatever is done to the surface, by itself or in a
compositor that is created on it, only changes the bytes of its pixels: the rest of the storage
stays, and in the compositor every pixel is opaque.  Single pixels and rectangles write what is
theirs, and a view shows what the surface does. -/
theorem drawing_stays_in_picture
    (width height : UInt16) (storage : Array UInt8) (hwidth : width ≠ 0) (hheight : height ≠ 0)
    (hstorage : width.toNat * height.toNat * 4 ≤ storage.size) :
    ∃ surface, Surface.ofStorage width height storage = .ok surface ∧
      ∀ (first background : Color) (earlier later : List Handling),
        let bare := (Compositor.mk surface first).handleAll earlier
        let drawn := (Compositor.create bare.surface background).handleAll later
        (∀ k, 4 * k + 3 < width.toNat * height.toNat * 4 →
          drawn.surface.storage[4 * k + 3]? = some 0xFF) ∧
        ∀ now ∈ [bare, drawn],
          (now.surface.width = width.toNat ∧ now.surface.height = height.toNat) ∧
          (now.surface.storage.size = storage.size ∧
            ∀ i, width.toNat * height.toNat * 4 ≤ i → now.surface.storage[i]? = storage[i]?) ∧
          (∀ point other, now.surface.bounds.Contains point → now.surface.bounds.Contains other →
            point ≠ other →
              List.Disjoint (now.surface.placesOf point) (now.surface.placesOf other)) ∧
          (∀ point color,
            (now.surface.bounds.Contains point →
              (now.surface.putPixel point color).1 = true ∧
                (now.surface.putPixel point color).2.pixel? point = some color ∧
                ∀ i, i ∉ now.surface.placesOf point →
                  (now.surface.putPixel point color).2.storage[i]? = now.surface.storage[i]?) ∧
            (¬ now.surface.bounds.Contains point →
              now.surface.putPixel point color = (false, now.surface))) ∧
          (∀ (x1 y1 x2 y2 : Int) (color : Color) (point : Point),
            now.surface.bounds.Contains point → ¬ (Rect.ofCorners x1 y1 x2 y2).Contains point →
              ∀ i ∈ now.surface.placesOf point,
                (now.fillRect x1 y1 x2 y2 color).2.surface.storage[i]? =
                  now.surface.storage[i]?) ∧
          (∀ point, now.surface.pixel? point = none ↔
            ¬ (0 ≤ point.x ∧ point.x < width.toNat ∧ 0 ≤ point.y ∧ point.y < height.toNat)) ∧
          now.surface.ShownIn now.surface.view := by
  rcases Surface.exists_ofStorage hwidth hheight hstorage with ⟨surface, hsurface⟩
  rcases Surface.of_ofStorage hsurface with ⟨⟨hwidthNew, hheightNew⟩, hstorageNew, -⟩
  refine ⟨surface, hsurface, ?_⟩
  intro first background earlier later bare drawn
  have hbare : surface.Confined bare.surface :=
    (Compositor.mk surface first).confined_handleAll earlier
  have hfilled : bare.surface.Confined (Compositor.create bare.surface background).surface :=
    (bare.surface.redrawnAs_fill background).confined
  have hdrawn : surface.Confined drawn.surface :=
    (hbare.trans hfilled).trans (Compositor.confined_handleAll _ later)
  have hsolid : drawn.surface.Solid :=
    Compositor.solid_handleAll (bare.surface.solid_fill background) later
  have hconfined : ∀ now ∈ [bare, drawn], surface.Confined now.surface := by
    simp [hbare, hdrawn]
  have hsize : ∀ now ∈ [bare, drawn],
      now.surface.width = width.toNat ∧ now.surface.height = height.toNat := by
    intro now hnow
    rcases hconfined now hnow with ⟨picture, hpicture⟩
    exact ⟨hpicture.width_eq.trans hwidthNew, hpicture.height_eq.trans hheightNew⟩
  constructor
  · intro k hk
    apply hsolid.getElem?_alpha
    have hdrawnSize := hsize drawn (by simp)
    rwa [hdrawnSize.1, hdrawnSize.2]
  · intro now hnow
    rcases hsize now hnow with ⟨hwidthNow, hheightNow⟩
    refine ⟨⟨hwidthNow, hheightNow⟩, ⟨?_, ?_⟩, ?_, ?_, ?_, ?_, now.surface.shownIn_view⟩
    · rcases hconfined now hnow with ⟨picture, hpicture⟩
      rw [hpicture.size_eq, hstorageNew]
    · intro i hi
      rw [← hstorageNew]
      apply (hconfined now hnow).getElem?_eq
      rwa [hwidthNew, hheightNew]
    · intro point other hpoint hother hne
      exact Surface.disjoint_placesOf hpoint hother hne
    · intro point color
      exact ⟨Surface.putPixel_writes, Surface.putPixel_of_off_surface⟩
    · intro x1 y1 x2 y2 color point hpoint hout i hi
      exact Compositor.getElem?_fillRect hpoint hout hi
    · intro point
      rw [Surface.pixel?_eq_none_iff, hwidthNow, hheightNow]

/-- The bytes behind a picture of two by two pixels stay as they were.  An alpha byte does so too
while there is no compositor. -/
theorem drawing_stays_in_picture_with_slack :
    ∃ surface : Surface,
      let bare := (Compositor.mk surface Color.black).handleAll
        [.draw (.putPixel ⟨1, 1⟩ ⟨1, 2, 3⟩)]
      let drawn := (Compositor.create bare.surface ⟨9, 8, 7⟩).handleAll
        [.draw (.scroll 1), .takeDirty, .draw (.blitBuffer (-1) 1 1 2 (Array.replicate 12 5))]
      ((2 : UInt16) ≠ 0 ∧ 2 * 2 * 4 ≤ (Array.replicate 20 (6 : UInt8)).size) ∧
        Surface.ofStorage 2 2 (Array.replicate 20 6) = .ok surface ∧
        bare.surface.storage[11]? = some 6 ∧ drawn.surface.storage[11]? = some 0xFF ∧
        bare.surface.storage[16]? = some 6 ∧ drawn.surface.storage[16]? = some 6 ∧
        drawn.surface.pixel? ⟨2, 0⟩ = none := by
  rcases drawing_stays_in_picture 2 2 (Array.replicate 20 6) (by decide) (by decide) (by decide)
    with ⟨surface, hsurface, hall⟩
  refine ⟨surface, ?_⟩
  intro bare drawn
  rcases hall Color.black ⟨9, 8, 7⟩ [.draw (.putPixel ⟨1, 1⟩ ⟨1, 2, 3⟩)]
    [.draw (.scroll 1), .takeDirty, .draw (.blitBuffer (-1) 1 1 2 (Array.replicate 12 5))]
    with ⟨halpha, hnow⟩
  rcases hnow bare (List.mem_cons_self ..) with ⟨-, ⟨-, hbare⟩, -⟩
  rcases hnow drawn (List.mem_cons_of_mem _ (List.mem_singleton_self _)) with
    ⟨-, ⟨-, hdrawn⟩, -, -, -, hnone, -⟩
  have hgiven : bare.surface.storage[11]? = some 6 := by
    cases hsurface
    decide +kernel
  refine ⟨by decide, hsurface, hgiven, halpha 2 (by decide), ?_, ?_, ?_⟩
  · rw [hbare 16 (by decide)]
    rfl
  · rw [hdrawn 16 (by decide)]
    rfl
  · rw [hnone]
    decide

end PanelLink
