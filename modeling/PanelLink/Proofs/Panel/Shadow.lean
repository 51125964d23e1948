import PanelLink.Panel.Shadow
import PanelLink.Proofs.Raster.Redrawn

/-!
# Flushing to a shadow

A shadow of the right size takes any rectangle inside the surface, and shows the
surface there afterwards and what it showed before elsewhere.
-/

namespace PanelLink

theorem View.pixelAt?_natCast (view : View) (x y : Nat) :
    view.pixelAt? ⟨x, y⟩ = view.pixel? x y := by
  simp [View.pixelAt?]

theorem View.exists_pixel?_eq_some
    {view : View} {x y : Nat} (hx : x < view.width) (hy : y < view.height) :
    ∃ color, view.pixel? x y = some color := by
  rw [View.pixel?, if_pos ⟨hx, hy⟩]
  exact ⟨_, rfl⟩

theorem Surface.view_pixel? (surface : Surface) (x y : Nat) :
    surface.view.pixel? x y = surface.pixel? ⟨x, y⟩ := by
  have hiff : surface.bounds.Contains ⟨x, y⟩ ↔
      x < surface.view.width ∧ y < surface.view.height := by
    rw [mem_bounds_iff]
    simp only [view]
    omega
  by_cases hinside : x < surface.view.width ∧ y < surface.view.height
  · have hbytes : ∀ k < 4,
        surface.view.bytes.getD ((y * surface.width + x) * 4 + k) 0 =
          surface.storage.getD ((y * surface.width + x) * 4 + k) 0 := by
      intro k hk
      have hindex : y * surface.width + x < surface.width * surface.height :=
        rowMajor_lt hinside.1 hinside.2
      have hlength : (y * surface.width + x) * 4 + k <
          storageLength surface.width surface.height := by
        rw [storageLength]
        omega
      have hfits := surface.fits
      have hmin : (y * surface.width + x) * 4 + k <
          min (storageLength surface.width surface.height) surface.storage.size - 0 := by
        omega
      simp only [Array.getD_eq_getD_getElem?, view, Array.getElem?_extract, if_pos hmin,
        Nat.zero_add]
    have hfirst := hbytes 0 (by omega)
    have hsecond := hbytes 1 (by omega)
    have hthird := hbytes 2 (by omega)
    rw [View.pixel?, if_pos hinside, pixel?, if_pos (hiff.2 hinside)]
    simp only [Nat.add_zero] at hfirst
    simp only [offset, Int.toNat_natCast]
    rw [← hfirst, ← hsecond, ← hthird]
    rfl
  · rw [View.pixel?, if_neg hinside, pixel?, if_neg (mt hiff.1 hinside)]

namespace Shadow

theorem copyRow_eq
    {view : View} {x y count : Nat} {pixels : Array Color}
    (hsize : pixels.size = view.width * view.height)
    (hx : x + count ≤ view.width) (hy : y < view.height) :
    ∃ next, copyRow view y count x pixels = (true, next) ∧
      next.size = view.width * view.height ∧
      ∀ px py, px < view.width → py < view.height →
        next[py * view.width + px]? =
          if py = y ∧ x ≤ px ∧ px < x + count then view.pixel? px py
          else pixels[py * view.width + px]? := by
  induction count generalizing x pixels with
  | zero =>
      refine ⟨pixels, rfl, hsize, ?_⟩
      intro px py _ _
      rw [if_neg (by omega)]
  | succ count ih =>
      have hcolumn : x < view.width := by omega
      obtain ⟨color, hcolor⟩ := View.exists_pixel?_eq_some hcolumn hy
      let written := pixels.setIfInBounds (y * view.width + x) color
      have hwritten : written.size = view.width * view.height := by
        simpa [written] using hsize
      obtain ⟨next, hnext, hnextSize, hpixels⟩ :=
        ih hwritten (show x + 1 + count ≤ view.width by omega)
      refine ⟨next, ?_, hnextSize, ?_⟩
      · rw [copyRow, View.pixelAt?_natCast, hcolor]
        simpa [written] using hnext
      · intro px py hpx hpy
        rw [hpixels px py hpx hpy]
        by_cases hhere : y = py ∧ x = px
        · obtain ⟨rfl, rfl⟩ := hhere
          have hlt : y * view.width + x < pixels.size := by
            rw [hsize]
            exact rowMajor_lt hcolumn hy
          rw [if_neg (by omega), if_pos (by omega), hcolor]
          simp only [written, Array.getElem?_setIfInBounds_self_of_lt hlt]
        · have hne : y * view.width + x ≠ py * view.width + px :=
            fun heq => hhere ((rowMajor_inj hcolumn hpx).1 heq)
          simp only [written, Array.getElem?_setIfInBounds_ne hne]
          congr 1
          simp only [eq_iff_iff]
          omega

theorem copyRows_eq
    {view : View} {rect : Rect} {x y columns count : Nat} {pixels : Array Color}
    (hsize : pixels.size = view.width * view.height)
    (hminX : rect.minX = x) (hcolumns : (rect.maxX - rect.minX + 1).toNat = columns)
    (hx : x + columns ≤ view.width) (hy : y + count ≤ view.height) :
    ∃ next, copyRows view rect count y pixels = (true, next) ∧
      next.size = view.width * view.height ∧
      ∀ px py, px < view.width → py < view.height →
        next[py * view.width + px]? =
          if (y ≤ py ∧ py < y + count) ∧ x ≤ px ∧ px < x + columns then view.pixel? px py
          else pixels[py * view.width + px]? := by
  induction count generalizing y pixels with
  | zero =>
      refine ⟨pixels, rfl, hsize, ?_⟩
      intro px py _ _
      rw [if_neg (by omega)]
  | succ count ih =>
      obtain ⟨middle, hmiddle, hmiddleSize, hrow⟩ :=
        copyRow_eq hsize hx (show y < view.height by omega)
      obtain ⟨next, hnext, hnextSize, hrows⟩ :=
        ih hmiddleSize (show y + 1 + count ≤ view.height by omega)
      refine ⟨next, ?_, hnextSize, ?_⟩
      · rw [copyRows, hcolumns, hminX, hmiddle]
        simpa using hnext
      · intro px py hpx hpy
        rw [hrows px py hpx hpy, hrow px py hpx hpy]
        by_cases hcolumn : x ≤ px ∧ px < x + columns
        · by_cases hhere : py = y
          · rw [if_neg (by omega), if_pos (by omega), if_pos (by omega)]
          · simp only [hhere, false_and, if_false]
            congr 1
            simp only [eq_iff_iff]
            omega
        · simp only [hcolumn, and_false, if_false]

theorem copyRows_inside
    {surface : Surface} {rect : Rect} {pixels : Array Color}
    (hsize : pixels.size = surface.width * surface.height)
    (hrect : surface.bounds.ContainsRect rect) :
    ∃ next,
      copyRows surface.view rect (rect.maxY - rect.minY + 1).toNat rect.minY pixels =
          (true, next) ∧
        next.size = surface.width * surface.height ∧
        ∀ x y : Nat, x < surface.width → y < surface.height →
          next[y * surface.width + x]? =
            if rect.Contains ⟨x, y⟩ then surface.pixel? ⟨x, y⟩
            else pixels[y * surface.width + x]? := by
  obtain ⟨minX, minY, maxX, maxY⟩ := rect
  obtain ⟨hminX, hminX', hminY, hminY'⟩ := Surface.mem_bounds_iff.1 hrect.1
  obtain ⟨hmaxX, hmaxX', hmaxY, hmaxY'⟩ := Surface.mem_bounds_iff.1 hrect.2
  simp only at *
  lift minX to Nat using hminX
  lift minY to Nat using hminY
  have hcolumns : minX + (maxX - minX + 1).toNat ≤ surface.view.width := by
    simp only [Surface.view]
    omega
  have hrows : minY + (maxY - minY + 1).toNat ≤ surface.view.height := by
    simp only [Surface.view]
    omega
  obtain ⟨next, hnext, hnextSize, hpixels⟩ := copyRows_eq
    (show pixels.size = surface.view.width * surface.view.height from hsize)
    (show (⟨minX, minY, maxX, maxY⟩ : Rect).minX = minX from rfl) rfl hcolumns hrows
  refine ⟨next, hnext, hnextSize, ?_⟩
  intro x y hx hy
  refine (hpixels x y hx hy).trans ?_
  rw [Surface.view_pixel?]
  congr 1
  simp only [Rect.Contains, eq_iff_iff]
  omega

/-- A rectangle inside a surface is taken as a whole, and nothing else is. -/
theorem flush_view
    {shadow : Shadow} {surface : Surface} {rect : Rect}
    (hwidth : shadow.width = surface.width) (hheight : shadow.height = surface.height)
    (hsize : shadow.pixels.size = shadow.width * shadow.height)
    (hrect : surface.bounds.ContainsRect rect) :
    ∃ next, shadow.flush surface.view rect = (.ok (), next) ∧
      next.width = shadow.width ∧ next.height = shadow.height ∧
      next.pixels.size = next.width * next.height ∧
      ∀ x y : Nat, next.pixel? x y =
        if rect.Contains ⟨x, y⟩ then surface.pixel? ⟨x, y⟩ else shadow.pixel? x y := by
  obtain ⟨width, height, pixels, history⟩ := shadow
  simp only at hwidth hheight hsize
  subst hwidth hheight
  obtain ⟨next, hnext, hnextSize, hpixels⟩ := copyRows_inside hsize hrect
  have hsame : ¬ (surface.view.width ≠ surface.width ∨
      surface.view.height ≠ surface.height) := by
    simp [Surface.view]
  refine ⟨⟨surface.width, surface.height, next, rect :: history⟩, ?_, rfl, rfl,
    hnextSize, ?_⟩
  · rw [flush, if_neg hsame]
    simp only [hnext]
  · intro x y
    by_cases hinside : x < surface.width ∧ y < surface.height
    · obtain ⟨color, hcolor⟩ : ∃ color, surface.pixel? ⟨x, y⟩ = some color := by
        rw [← Surface.view_pixel?]
        exact View.exists_pixel?_eq_some hinside.1 hinside.2
      simp only [pixel?, if_pos hinside, Array.getD_eq_getD_getElem?,
        hpixels x y hinside.1 hinside.2]
      split
      next => rw [hcolor, Option.getD_some]
      next => rfl
    · have hnone : surface.pixel? ⟨x, y⟩ = none := by
        rw [← Surface.view_pixel?, View.pixel?]
        exact if_neg hinside
      simp only [pixel?, if_neg hinside, hnone, ite_self]

end Shadow

end PanelLink
