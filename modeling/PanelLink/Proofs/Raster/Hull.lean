import Mathlib.Tactic
import PanelLink.Raster.Rect

/-!
# Hulls

Rectangles by how far they reach, and the smallest rectangle around some points.
-/

namespace PanelLink

namespace Rect

structure Covers (rect other : Rect) : Prop where
  minX_le : rect.minX ≤ other.minX
  minY_le : rect.minY ≤ other.minY
  le_maxX : other.maxX ≤ rect.maxX
  le_maxY : other.maxY ≤ rect.maxY

theorem Covers.refl (rect : Rect) : rect.Covers rect :=
  ⟨le_rfl, le_rfl, le_rfl, le_rfl⟩

theorem Covers.trans {rect other third : Rect}
    (h : rect.Covers other) (h' : other.Covers third) : rect.Covers third :=
  ⟨h.minX_le.trans h'.minX_le, h.minY_le.trans h'.minY_le,
    h'.le_maxX.trans h.le_maxX, h'.le_maxY.trans h.le_maxY⟩

theorem Covers.contains {rect other : Rect} {point : Point}
    (h : rect.Covers other) (hpoint : other.Contains point) : rect.Contains point := by
  obtain ⟨hminX, hmaxX, hminY, hmaxY⟩ := hpoint
  exact ⟨h.minX_le.trans hminX, hmaxX.trans h.le_maxX,
    h.minY_le.trans hminY, hmaxY.trans h.le_maxY⟩

theorem union_covers_left (rect other : Rect) : (rect.union other).Covers rect :=
  ⟨min_le_left _ _, min_le_left _ _, le_max_left _ _, le_max_left _ _⟩

theorem union_covers_right (rect other : Rect) : (rect.union other).Covers other :=
  ⟨min_le_right _ _, min_le_right _ _, le_max_right _ _, le_max_right _ _⟩

theorem union_comm (rect other : Rect) : rect.union other = other.union rect := by
  simp only [union, min_comm, max_comm]

theorem union_assoc (first second third : Rect) :
    (first.union second).union third = first.union (second.union third) := by
  simp only [union, min_assoc, max_assoc]

theorem union_self (rect : Rect) : rect.union rect = rect := by
  simp only [union, min_self, max_self]

instance : Std.Associative union := ⟨union_assoc⟩

theorem Covers.antisymm {rect other : Rect} (h : rect.Covers other) (h' : other.Covers rect) :
    rect = other := by
  obtain ⟨minX, minY, maxX, maxY⟩ := rect
  obtain ⟨minX', minY', maxX', maxY'⟩ := other
  rw [Rect.mk.injEq]
  exact ⟨le_antisymm h.minX_le h'.minX_le, le_antisymm h.minY_le h'.minY_le,
    le_antisymm h'.le_maxX h.le_maxX, le_antisymm h'.le_maxY h.le_maxY⟩

theorem Covers.union {rect other third : Rect} (h : rect.Covers other) (h' : rect.Covers third) :
    rect.Covers (other.union third) :=
  ⟨le_min h.minX_le h'.minX_le, le_min h.minY_le h'.minY_le,
    max_le h.le_maxX h'.le_maxX, max_le h.le_maxY h'.le_maxY⟩

/-! ## Ordered corners -/

structure Ordered (rect : Rect) : Prop where
  x : rect.minX ≤ rect.maxX
  y : rect.minY ≤ rect.maxY

theorem ordered_ofCorners (x1 y1 x2 y2 : Int) : (ofCorners x1 y1 x2 y2).Ordered :=
  ⟨min_le_max, min_le_max⟩

theorem Ordered.ofCorners_eq {rect : Rect} (hrect : rect.Ordered) :
    ofCorners rect.minX rect.minY rect.maxX rect.maxY = rect := by
  rw [ofCorners, min_eq_left hrect.x, min_eq_left hrect.y, max_eq_right hrect.x,
    max_eq_right hrect.y]

theorem Contains.ordered {rect : Rect} {point : Point} (hpoint : rect.Contains point) :
    rect.Ordered :=
  ⟨hpoint.1.trans hpoint.2.1, hpoint.2.2.1.trans hpoint.2.2.2⟩

theorem Ordered.contains_min {rect : Rect} (hrect : rect.Ordered) :
    rect.Contains ⟨rect.minX, rect.minY⟩ :=
  ⟨le_rfl, hrect.x, le_rfl, hrect.y⟩

theorem Ordered.contains_max {rect : Rect} (hrect : rect.Ordered) :
    rect.Contains ⟨rect.maxX, rect.maxY⟩ :=
  ⟨hrect.x, le_rfl, hrect.y, le_rfl⟩

theorem Ordered.union {rect : Rect} (hrect : rect.Ordered) (other : Rect) :
    (rect.union other).Ordered := by
  have hleft := union_covers_left rect other
  exact ⟨hleft.minX_le.trans (hrect.x.trans hleft.le_maxX),
    hleft.minY_le.trans (hrect.y.trans hleft.le_maxY)⟩

theorem ofCorners_swap_x (x1 y1 x2 y2 : Int) :
    ofCorners x2 y1 x1 y2 = ofCorners x1 y1 x2 y2 := by
  rw [ofCorners, ofCorners, min_comm x2, max_comm x2]

theorem ofCorners_swap_y (x1 y1 x2 y2 : Int) :
    ofCorners x1 y2 x2 y1 = ofCorners x1 y1 x2 y2 := by
  rw [ofCorners, ofCorners, min_comm y2, max_comm y2]

theorem extent_of_le {low high : Int} (hle : low ≤ high) (hfits : high - low < 4294967295) :
    extent low high = (high - low + 1).toNat := by
  rw [extent, Int.emod_eq_of_lt (by omega) (by omega)]

/-! ## Clipping -/

section Clipping

variable {rect area : Rect} {width height : Nat} {point : Point}

theorem clip?_eq_some_iff :
    rect.clip? width height = some area ↔
      (0 < width ∧ 0 < height) ∧
        (0 ≤ rect.maxX ∧ 0 ≤ rect.maxY ∧ rect.minX < width ∧ rect.minY < height) ∧
        area = ⟨max rect.minX 0, max rect.minY 0,
          min rect.maxX (width - 1), min rect.maxY (height - 1)⟩ := by
  rw [clip?, bounds?]
  by_cases hsize : width = 0 ∨ height = 0
  · rw [if_pos hsize]
    simp only [Option.bind_eq_bind, Option.bind_none, reduceCtorEq, false_iff]
    omega
  · rw [if_neg hsize]
    simp only [Option.bind_eq_bind, Option.bind_some]
    split
    next hout =>
      simp only [reduceCtorEq, false_iff]
      omega
    next hmeets =>
      rw [Option.some.injEq, eq_comm, ← and_assoc, iff_and_self]
      omega

theorem Ordered.of_clip? (hrect : rect.Ordered) (hclip : rect.clip? width height = some area) :
    area.Ordered := by
  obtain ⟨hsize, hmeets, rfl⟩ := clip?_eq_some_iff.1 hclip
  obtain ⟨hx, hy⟩ := hrect
  constructor
  · simp only
    omega
  · simp only
    omega

theorem contains_of_clip? (hclip : rect.clip? width height = some area) :
    area.Contains point ↔
      rect.Contains point ∧
        0 ≤ point.x ∧ point.x < width ∧ 0 ≤ point.y ∧ point.y < height := by
  obtain ⟨-, -, rfl⟩ := clip?_eq_some_iff.1 hclip
  simp only [Contains]
  omega

theorem exists_clip?_eq_some
    (hrect : rect.Contains point)
    (hpoint : 0 ≤ point.x ∧ point.x < width ∧ 0 ≤ point.y ∧ point.y < height) :
    ∃ area, rect.clip? width height = some area := by
  refine ⟨_, clip?_eq_some_iff.2 ⟨?_, ?_, rfl⟩⟩
  · omega
  · simp only [Contains] at hrect
    omega

theorem not_contains_of_clip?
    (hclip : rect.clip? width height = none)
    (hpoint : 0 ≤ point.x ∧ point.x < width ∧ 0 ≤ point.y ∧ point.y < height) :
    ¬ rect.Contains point := by
  intro hrect
  obtain ⟨area, harea⟩ := exists_clip?_eq_some hrect hpoint
  rw [hclip] at harea
  contradiction

end Clipping

/-! ## Smallest rectangles -/

/-- The smallest rectangle around the points inside. -/
structure IsHull (rect : Rect) (inside : Point → Prop) : Prop where
  contains : ∀ point, inside point → rect.Contains point
  least : ∀ other : Rect, (∀ point, inside point → other.Contains point) → other.Covers rect

theorem Ordered.isHull {rect : Rect} (hrect : rect.Ordered) : rect.IsHull rect.Contains where
  contains _ hpoint := hpoint
  least other hother := by
    have hmin := hother _ hrect.contains_min
    have hmax := hother _ hrect.contains_max
    exact ⟨hmin.1, hmin.2.2.1, hmax.2.1, hmax.2.2.2⟩

theorem isHull_ofPoint (point : Point) : (ofPoint point).IsHull (· = point) where
  contains := by
    rintro _ rfl
    exact ⟨le_rfl, le_rfl, le_rfl, le_rfl⟩
  least other hother := by
    obtain ⟨hminX, hmaxX, hminY, hmaxY⟩ := hother point rfl
    exact ⟨hminX, hminY, hmaxX, hmaxY⟩

theorem IsHull.congr
    {rect : Rect} {inside other : Point → Prop} (hhull : rect.IsHull inside)
    (hiff : ∀ point, inside point ↔ other point) : rect.IsHull other where
  contains point hpoint := hhull.contains point ((hiff point).2 hpoint)
  least third hthird := hhull.least third fun point hpoint => hthird point ((hiff point).1 hpoint)

theorem IsHull.union
    {rect other : Rect} {inside inside' : Point → Prop}
    (hrect : rect.IsHull inside) (hother : other.IsHull inside') :
    (rect.union other).IsHull fun point => inside point ∨ inside' point where
  contains point hpoint := by
    rcases hpoint with hpoint | hpoint
    · exact (union_covers_left rect other).contains (hrect.contains point hpoint)
    · exact (union_covers_right rect other).contains (hother.contains point hpoint)
  least third hthird :=
    (hrect.least third fun point hpoint => hthird point (.inl hpoint)).union
      (hother.least third fun point hpoint => hthird point (.inr hpoint))

theorem IsHull.unique
    {rect other : Rect} {inside : Point → Prop}
    (hrect : rect.IsHull inside) (hother : other.IsHull inside) : rect = other :=
  (hother.least rect hrect.contains).antisymm (hrect.least other hother.contains)

private theorem isHull_foldl_union
    (points : List Point) {start : Rect} {inside : Point → Prop} (hstart : start.IsHull inside) :
    (points.foldl (fun rect other => rect.union (ofPoint other)) start).IsHull
      fun point => inside point ∨ point ∈ points := by
  induction points generalizing start inside with
  | nil => exact hstart.congr (by simp)
  | cons other points ih =>
      apply (ih (hstart.union (isHull_ofPoint other))).congr
      simp [or_assoc]

theorem hull?_eq_none_iff {points : List Point} : hull? points = none ↔ points = [] := by
  cases points with
  | nil => exact iff_of_true rfl rfl
  | cons point points => simp [hull?]

theorem isHull_of_hull? {points : List Point} {rect : Rect} (hhull : hull? points = some rect) :
    rect.IsHull (· ∈ points) := by
  cases points with
  | nil => contradiction
  | cons first points =>
      rw [hull?, Option.some.injEq] at hhull
      subst hhull
      apply (isHull_foldl_union points (isHull_ofPoint first)).congr
      simp

end Rect

end PanelLink
