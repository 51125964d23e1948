import Mathlib.Data.Set.Card
import PanelLink.Proofs.Raster.Packing

/-!
# Rectangles as point sets

An ordered rectangle is determined by its points.  So what clipping, union and containment do can
be said of the points alone, and their laws are those of sets.
-/

namespace PanelLink

/-- The points of a surface.  There are none if it has no width or no height. -/
def canvas (width height : Nat) : Set Point :=
  {point | 0 ≤ point.x ∧ point.x < width ∧ 0 ≤ point.y ∧ point.y < height}

namespace Rect

def toSet (rect : Rect) : Set Point :=
  {point | rect.Contains point}

variable {rect other third area part : Rect} {point : Point} {width height : Nat}

@[simp] theorem mem_toSet : point ∈ rect.toSet ↔ rect.Contains point := Iff.rfl

theorem Ordered.toSet_nonempty (hrect : rect.Ordered) : rect.toSet.Nonempty :=
  ⟨_, hrect.contains_min⟩

theorem Ordered.toSet_subset_iff (hother : other.Ordered) :
    other.toSet ⊆ rect.toSet ↔ rect.Covers other := by
  constructor
  · intro hsubset
    exact hother.isHull.least rect fun point hpoint => hsubset hpoint
  · intro hcovers point hpoint
    exact hcovers.contains hpoint

theorem Ordered.eq_of_toSet_eq
    (hrect : rect.Ordered) (hother : other.Ordered) (hpoints : rect.toSet = other.toSet) :
    rect = other :=
  (hother.toSet_subset_iff.1 hpoints.ge).antisymm (hrect.toSet_subset_iff.1 hpoints.le)

/-- Two corners are enough to tell whether all points of an ordered rectangle are contained. -/
theorem Ordered.containsRect_iff (hother : other.Ordered) :
    rect.ContainsRect other ↔ other.toSet ⊆ rect.toSet := by
  constructor
  · intro hcorners
    apply hother.toSet_subset_iff.2
    obtain ⟨⟨hminX, -, hminY, -⟩, -, hmaxX, -, hmaxY⟩ := hcorners
    exact ⟨hminX, hminY, hmaxX, hmaxY⟩
  · intro hsubset
    exact ⟨hsubset hother.contains_min, hsubset hother.contains_max⟩

theorem ofCorners_contains
    {x1 y1 x2 y2 x y : Int} (hx : x = x1 ∨ x = x2) (hy : y = y1 ∨ y = y2) :
    (ofCorners x1 y1 x2 y2).Contains ⟨x, y⟩ := by
  simp only [Contains, ofCorners]
  omega

/-! ## Unions -/

/-- Among ordered rectangles the union is the smallest one around both. -/
theorem Ordered.toSet_union_subset_iff (hrect : rect.Ordered) (hother : other.Ordered) :
    (rect.union other).toSet ⊆ third.toSet ↔ rect.toSet ∪ other.toSet ⊆ third.toSet := by
  rw [Set.union_subset_iff, (hrect.union other).toSet_subset_iff, hrect.toSet_subset_iff,
    hother.toSet_subset_iff]
  constructor
  · intro hcovers
    exact ⟨hcovers.trans (union_covers_left rect other),
      hcovers.trans (union_covers_right rect other)⟩
  · rintro ⟨hleft, hright⟩
    exact hleft.union hright

/-! ## Clipping -/

theorem toSet_of_clip? (hclip : rect.clip? width height = some area) :
    area.toSet = rect.toSet ∩ canvas width height :=
  Set.ext fun _ => contains_of_clip? hclip

theorem Ordered.clip?_eq_none_iff (hrect : rect.Ordered) :
    rect.clip? width height = none ↔ rect.toSet ∩ canvas width height = ∅ := by
  constructor
  · intro hclip
    rw [Set.eq_empty_iff_forall_notMem]
    rintro point ⟨hpoint, hcanvas⟩
    exact not_contains_of_clip? hclip hcanvas hpoint
  · intro hempty
    rw [Option.eq_none_iff_forall_ne_some]
    intro area hclip
    have hpoints := (hrect.of_clip? hclip).toSet_nonempty
    rw [toSet_of_clip? hclip, hempty] at hpoints
    exact Set.not_nonempty_empty hpoints

/-- The clipped rectangle is the ordered one that has the points on the surface. -/
theorem Ordered.clip?_eq_some_iff_toSet (hrect : rect.Ordered) :
    rect.clip? width height = some area ↔
      area.Ordered ∧ area.toSet = rect.toSet ∩ canvas width height := by
  constructor
  · intro hclip
    exact ⟨hrect.of_clip? hclip, toSet_of_clip? hclip⟩
  · rintro ⟨harea, hpoints⟩
    cases hclip : rect.clip? width height with
    | none =>
        have hempty := hrect.clip?_eq_none_iff.1 hclip
        rw [← hpoints] at hempty
        exact absurd hempty harea.toSet_nonempty.ne_empty
    | some clipped =>
        have hsame : clipped.toSet = area.toSet := (toSet_of_clip? hclip).trans hpoints.symm
        rw [(hrect.of_clip? hclip).eq_of_toSet_eq harea hsame]

theorem Ordered.clip?_of_clip?
    (hrect : rect.Ordered) (hclip : rect.clip? width height = some area) :
    area.clip? width height = some area := by
  have harea := hrect.of_clip? hclip
  have honce : area.toSet = area.toSet ∩ canvas width height := by
    rw [toSet_of_clip? hclip, Set.inter_assoc, Set.inter_self]
  exact harea.clip?_eq_some_iff_toSet.2 ⟨harea, honce⟩

theorem Ordered.exists_clip?_of_subset
    (hrect : rect.Ordered) (hother : other.Ordered) (hsubset : other.toSet ⊆ rect.toSet)
    (hpart : other.clip? width height = some part) :
    ∃ area, rect.clip? width height = some area ∧ part.toSet ⊆ area.toSet := by
  have hpoints : part.toSet ⊆ rect.toSet ∩ canvas width height := by
    rw [toSet_of_clip? hpart]
    exact Set.inter_subset_inter_left _ hsubset
  cases hclip : rect.clip? width height with
  | none =>
      rw [hrect.clip?_eq_none_iff.1 hclip, Set.subset_empty_iff] at hpoints
      exact absurd hpoints (hother.of_clip? hpart).toSet_nonempty.ne_empty
  | some area =>
      rw [← toSet_of_clip? hclip] at hpoints
      exact ⟨area, rfl, hpoints⟩

/-! ## Counting -/

theorem ncard_toSet (rect : Rect) : rect.toSet.ncard = rect.points.length := by
  classical
  have hpoints : rect.toSet = (rect.points.toFinset : Set Point) := by
    ext point
    rw [Finset.mem_coe, List.mem_toFinset, mem_points, mem_toSet]
  rw [hpoints, Set.ncard_coe_finset, List.toFinset_card_of_nodup rect.nodup_points]

theorem Ordered.ncard_toSet_eq_area
    (hrect : rect.Ordered) (hwidth : rect.maxX - rect.minX < 4294967295)
    (hheight : rect.maxY - rect.minY < 4294967295) : rect.toSet.ncard = rect.area := by
  rw [ncard_toSet, hrect.length_points_eq_area hwidth hheight]

end Rect

/-- Two opposite corners name one rectangle in any order, and it has all four corners.  Clipping
gives the ordered rectangle of the points on the surface, or nothing if there are none; what is
clipped stays as it is, and a part is clipped to a part.  The union is the smallest rectangle around
both, in whatever order and however often rectangles are united.  A rectangle contains another one
if it has all its points, and its area is their number. -/
theorem rects_are_point_sets
    {rect other : Rect} (hrect : rect.Ordered) (hother : other.Ordered) (width height : Nat) :
    (∀ x1 y1 x2 y2 : Int,
      let box := Rect.ofCorners x1 y1 x2 y2
      (Rect.ofCorners x2 y1 x1 y2 = box ∧ Rect.ofCorners x1 y2 x2 y1 = box ∧
        Rect.ofCorners x2 y2 x1 y1 = box) ∧
      ∀ x y, x = x1 ∨ x = x2 → y = y1 ∨ y = y2 → ⟨x, y⟩ ∈ box.toSet) ∧
    (rect.clip? width height = none ↔ rect.toSet ∩ canvas width height = ∅) ∧
    (∀ area, rect.clip? width height = some area →
      area.Ordered ∧ area.toSet = rect.toSet ∩ canvas width height ∧
        area.clip? width height = some area) ∧
    (other.toSet ⊆ rect.toSet → ∀ part, other.clip? width height = some part →
      ∃ area, rect.clip? width height = some area ∧ part.toSet ⊆ area.toSet) ∧
    ((rect.union other).Ordered ∧ rect.toSet ∪ other.toSet ⊆ (rect.union other).toSet ∧
      ∀ third : Rect, rect.toSet ∪ other.toSet ⊆ third.toSet →
        (rect.union other).toSet ⊆ third.toSet) ∧
    (rect.union other = other.union rect ∧
      (∀ third, (rect.union other).union third = rect.union (other.union third)) ∧
      rect.union rect = rect) ∧
    (rect.ContainsRect other ↔ other.toSet ⊆ rect.toSet) ∧
    (rect.maxX - rect.minX < 4294967295 → rect.maxY - rect.minY < 4294967295 →
      rect.toSet.ncard = rect.area) := by
  refine ⟨?_, hrect.clip?_eq_none_iff, ?_, ?_, ⟨hrect.union other, ?_, ?_⟩,
    ⟨Rect.union_comm rect other, Rect.union_assoc rect other, Rect.union_self rect⟩,
    hother.containsRect_iff, hrect.ncard_toSet_eq_area⟩
  · intro x1 y1 x2 y2 box
    have hswapX := Rect.ofCorners_swap_x x1 y1 x2 y2
    have hswapY := Rect.ofCorners_swap_y x1 y1 x2 y2
    have hswap := (Rect.ofCorners_swap_x x1 y2 x2 y1).trans hswapY
    exact ⟨⟨hswapX, hswapY, hswap⟩, fun x y hx hy => Rect.ofCorners_contains hx hy⟩
  · intro area hclip
    obtain ⟨harea, hpoints⟩ := hrect.clip?_eq_some_iff_toSet.1 hclip
    exact ⟨harea, hpoints, hrect.clip?_of_clip? hclip⟩
  · intro hsubset part hpart
    exact hrect.exists_clip?_of_subset hother hsubset hpart
  · exact (hrect.toSet_union_subset_iff hother).1 Set.Subset.rfl
  · intro third hthird
    exact (hrect.toSet_union_subset_iff hother).2 hthird

/-- Of a rectangle that reaches over two edges of the surface, fifteen of 42 points are left. -/
theorem rects_are_point_sets_over_the_edge :
    let rect : Rect := ⟨-2, 1, 4, 6⟩
    let other : Rect := ⟨0, 2, 3, 5⟩
    rect.Ordered ∧ other.Ordered ∧ rect.clip? 5 4 = some ⟨0, 1, 4, 3⟩ ∧
      (⟨0, 1, 4, 3⟩ : Rect).toSet = rect.toSet ∩ canvas 5 4 ∧ other.toSet ⊆ rect.toSet ∧
      (∃ area, rect.clip? 5 4 = some area ∧ (⟨0, 2, 3, 3⟩ : Rect).toSet ⊆ area.toSet) ∧
      rect.toSet.ncard = 42 := by
  intro rect other
  have hrect : rect.Ordered := ⟨by decide, by decide⟩
  have hother : other.Ordered := ⟨by decide, by decide⟩
  obtain ⟨-, -, hclip, hpart, -, -, hcontains, harea⟩ := rects_are_point_sets hrect hother 5 4
  have hsubset : other.toSet ⊆ rect.toSet := hcontains.1 (by decide)
  obtain ⟨-, hpoints, -⟩ := hclip ⟨0, 1, 4, 3⟩ (by decide)
  exact ⟨hrect, hother, by decide, hpoints, hsubset, hpart hsubset _ (by decide),
    harea (by decide) (by decide)⟩

end PanelLink
