/-!
# Rectangles

Pixel rectangles with both corners included.  A rectangle whose corners are out of
order is a value too; clipping and drawing only ever meet ordered ones.
-/

namespace PanelLink

structure Point where
  x : Int
  y : Int
deriving DecidableEq, Repr

structure Rect where
  minX : Int
  minY : Int
  maxX : Int
  maxY : Int
deriving DecidableEq, Repr

namespace Rect

def ofCorners (x1 y1 x2 y2 : Int) : Rect :=
  ⟨min x1 x2, min y1 y2, max x1 x2, max y1 y2⟩

def ofPoint (point : Point) : Rect :=
  ⟨point.x, point.y, point.x, point.y⟩

def bounds? (width height : Nat) : Option Rect :=
  if width = 0 ∨ height = 0 then none else some ⟨0, 0, width - 1, height - 1⟩

/-- The count of integers from `low` to `high`, as a number of 32 bits that wraps around: what an
optimized build computes, where overflow is not checked. -/
def extent (low high : Int) : Nat :=
  ((high - low + 1) % 4294967296).toNat

def width (rect : Rect) : Nat :=
  extent rect.minX rect.maxX

def height (rect : Rect) : Nat :=
  extent rect.minY rect.maxY

def area (rect : Rect) : Nat :=
  rect.width * rect.height

def Contains (rect : Rect) (point : Point) : Prop :=
  rect.minX ≤ point.x ∧ point.x ≤ rect.maxX ∧ rect.minY ≤ point.y ∧ point.y ≤ rect.maxY

instance (rect : Rect) (point : Point) : Decidable (rect.Contains point) :=
  inferInstanceAs (Decidable (_ ∧ _ ∧ _ ∧ _))

/-- The rectangle contains the least and the greatest corner of the other one. -/
def ContainsRect (rect other : Rect) : Prop :=
  rect.Contains ⟨other.minX, other.minY⟩ ∧ rect.Contains ⟨other.maxX, other.maxY⟩

instance (rect other : Rect) : Decidable (rect.ContainsRect other) :=
  inferInstanceAs (Decidable (_ ∧ _))

def clip? (rect : Rect) (width height : Nat) : Option Rect := do
  let bounds ← bounds? width height
  if rect.maxX < 0 ∨ rect.maxY < 0 ∨ rect.minX > bounds.maxX ∨ rect.minY > bounds.maxY then
    none
  else
    some ⟨max rect.minX 0, max rect.minY 0, min rect.maxX bounds.maxX, min rect.maxY bounds.maxY⟩

def union (rect other : Rect) : Rect :=
  ⟨min rect.minX other.minX, min rect.minY other.minY,
    max rect.maxX other.maxX, max rect.maxY other.maxY⟩

def hull? : List Point → Option Rect
  | [] => none
  | point :: points => some (points.foldl (fun rect other => rect.union (ofPoint other)) (ofPoint point))

/-! ## Points -/

def interval (low high : Int) : List Int :=
  (List.range (high - low + 1).toNat).map fun (i : Nat) => low + i

def points (rect : Rect) : List Point :=
  (interval rect.minY rect.maxY).flatMap fun y =>
    (interval rect.minX rect.maxX).map fun x => ⟨x, y⟩

theorem mem_interval {low high i : Int} : i ∈ interval low high ↔ low ≤ i ∧ i ≤ high := by
  simp only [interval, List.mem_map, List.mem_range]
  constructor
  · rintro ⟨n, hn, rfl⟩
    omega
  · rintro ⟨hlow, hhigh⟩
    exact ⟨(i - low).toNat, by omega, by omega⟩

@[simp] theorem mem_points {rect : Rect} {point : Point} :
    point ∈ rect.points ↔ rect.Contains point := by
  obtain ⟨x, y⟩ := point
  simp only [points, List.mem_flatMap, List.mem_map, mem_interval, Point.mk.injEq, Contains]
  constructor
  · rintro ⟨y', hy, x', hx, rfl, rfl⟩
    exact ⟨hx.1, hx.2, hy.1, hy.2⟩
  · rintro ⟨hx1, hx2, hy1, hy2⟩
    exact ⟨y, ⟨hy1, hy2⟩, x, ⟨hx1, hx2⟩, rfl, rfl⟩

end Rect

end PanelLink
