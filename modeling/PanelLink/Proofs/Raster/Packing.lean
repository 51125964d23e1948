import PanelLink.Proofs.Raster.Footprint

/-!
# Packed pixels

Packed pixels stand in the order in which the points of their rectangle are listed, three bytes
each and without gaps.
-/

namespace PanelLink

/-- Rows of equal length one after the other, counted through. -/
theorem flatMap_range_map
    {α : Type} (entry : Nat → Nat → α) (rows : Nat) {columns : Nat} (hcolumns : 0 < columns) :
    (List.range rows).flatMap (fun i => (List.range columns).map fun j => entry i j) =
      (List.range (rows * columns)).map fun k => entry (k / columns) (k % columns) := by
  induction rows with
  | zero => simp
  | succ rows ih =>
      have hrow : (List.range columns).map (fun j => entry rows j) =
          ((List.range columns).map (rows * columns + ·)).map
            fun k => entry (k / columns) (k % columns) := by
        rw [List.map_map]
        apply List.map_congr_left
        intro j hj
        have hlt := List.mem_range.1 hj
        simp [Nat.add_comm (rows * columns), Nat.add_mul_div_right _ _ hcolumns,
          Nat.div_eq_of_lt hlt, Nat.mod_eq_of_lt hlt]
      rw [List.range_succ, List.flatMap_append, ih, List.flatMap_singleton, hrow, Nat.add_mul,
        Nat.one_mul, List.range_add, List.map_append]

namespace Rect

theorem points_eq_map_range {rect : Rect} (hx : rect.minX ≤ rect.maxX) :
    let columns := (rect.maxX - rect.minX + 1).toNat
    rect.points = (List.range ((rect.maxY - rect.minY + 1).toNat * columns)).map fun k =>
      ⟨rect.minX + (k % columns : Nat), rect.minY + (k / columns : Nat)⟩ := by
  intro columns
  have hcolumns : 0 < columns := by
    simp only [columns]
    omega
  rw [← flatMap_range_map (fun i j => (⟨rect.minX + j, rect.minY + i⟩ : Point)) _ hcolumns]
  simp only [points, interval, List.flatMap_map, List.map_map]
  rfl

theorem length_points {rect : Rect} (hrect : rect.Ordered) :
    rect.points.length =
      (rect.maxY - rect.minY + 1).toNat * (rect.maxX - rect.minX + 1).toNat := by
  rw [points_eq_map_range hrect.x, List.length_map, List.length_range]

theorem Ordered.length_points_eq_area
    {rect : Rect} (hrect : rect.Ordered) (hwidth : rect.maxX - rect.minX < 4294967295)
    (hheight : rect.maxY - rect.minY < 4294967295) : rect.points.length = rect.area := by
  rw [length_points hrect, area, width, height, extent_of_le hrect.x hwidth,
    extent_of_le hrect.y hheight, Nat.mul_comm]

end Rect

namespace Compositor

theorem packedOffset_of_points_eq
    {rect : Rect} {before after : List Point} {point : Point}
    (hsize : rect.maxX - rect.minX < 4294967295)
    (hpoints : rect.points = before ++ point :: after) :
    packedOffset rect point = before.length * 3 := by
  have hpoint : rect.Contains point := by
    rw [← Rect.mem_points, hpoints]
    exact List.mem_append_right _ (List.mem_cons_self ..)
  have hx := hpoint.ordered.x
  have hwidth : rect.width = (rect.maxX - rect.minX + 1).toNat := Rect.extent_of_le hx hsize
  have hentry : rect.points[before.length]? = some point := by
    rw [hpoints, List.getElem?_append_right le_rfl, Nat.sub_self]
    rfl
  rw [Rect.points_eq_map_range hx, List.getElem?_map, Option.map_eq_some_iff] at hentry
  obtain ⟨k, hk, rfl⟩ := hentry
  obtain ⟨_, rfl⟩ := List.getElem?_eq_some_iff.1 hk
  rw [List.getElem_range, packedOffset, hwidth, add_sub_cancel_left, add_sub_cancel_left,
    Int.toNat_natCast, Int.toNat_natCast, Nat.div_add_mod']

theorem packedOffset_add_le
    {rect : Rect} {point : Point} (hsize : rect.maxX - rect.minX < 4294967295)
    (hpoint : rect.Contains point) : packedOffset rect point + 3 ≤ rect.points.length * 3 := by
  obtain ⟨before, after, hpoints⟩ := List.append_of_mem (Rect.mem_points.2 hpoint)
  rw [packedOffset_of_points_eq hsize hpoints, hpoints, List.length_append, List.length_cons]
  omega

end Compositor

/-! ## Packing and unpacking -/

/-- The pixels of a rectangle one after the other, each in the shade of its point. -/
def Rect.packed (rect : Rect) (shade : Point → Color) : List UInt8 :=
  rect.points.flatMap fun point => (shade point).toPixel

namespace Rect

variable {rect : Rect} {shade shade' : Point → Color} {point : Point}

theorem length_flatMap_toPixel (points : List Point) (shade : Point → Color) :
    (points.flatMap fun point => (shade point).toPixel).length = points.length * 3 := by
  simp [List.length_flatMap, Color.toPixel]

theorem length_packed (rect : Rect) (shade : Point → Color) :
    (rect.packed shade).length = rect.points.length * 3 :=
  length_flatMap_toPixel rect.points shade

theorem packed_congr (hshade : ∀ point, rect.Contains point → shade point = shade' point) :
    rect.packed shade = rect.packed shade' := by
  apply List.flatMap_congr
  intro point hpoint
  rw [hshade point (mem_points.mp hpoint)]

/-- What stands behind the pixels of the points that are listed before a point. -/
theorem drop_packed
    (shade : Point → Color) (hsize : rect.maxX - rect.minX < 4294967295)
    (hpoint : rect.Contains point) :
    ∃ rest, (rect.packed shade).drop (Compositor.packedOffset rect point) =
      (shade point).toPixel ++ rest := by
  obtain ⟨before, after, hpoints⟩ := List.append_of_mem (mem_points.mpr hpoint)
  refine ⟨after.flatMap fun other => (shade other).toPixel, ?_⟩
  have hoffset : Compositor.packedOffset rect point =
      (before.flatMap fun other => (shade other).toPixel).length := by
    rw [Compositor.packedOffset_of_points_eq hsize hpoints, length_flatMap_toPixel]
  rw [packed, hoffset, hpoints, List.flatMap_append, List.flatMap_cons, List.drop_left]

theorem take_drop_packed
    (hsize : rect.maxX - rect.minX < 4294967295) (hpoint : rect.Contains point) :
    ((rect.packed shade).drop (Compositor.packedOffset rect point)).take 3 =
      (shade point).toPixel := by
  obtain ⟨rest, hrest⟩ := drop_packed shade hsize hpoint
  rw [hrest]
  simp [Color.toPixel]

end Rect

namespace Compositor

theorem packedColor_of_drop
    {bytes rest : List UInt8} {start : Nat} {color : Color}
    (hdrop : bytes.drop start = color.toPixel ++ rest) :
    packedColor bytes.toArray start = color := by
  have hbyte : ∀ k, bytes.toArray.getD (start + k) 0 = (color.toPixel ++ rest).getD k 0 := by
    intro k
    rw [← hdrop]
    simp [List.getElem?_drop]
  have hred : bytes.toArray.getD start 0 = color.red := hbyte 0
  have hgreen : bytes.toArray.getD (start + 1) 0 = color.green := hbyte 1
  have hblue : bytes.toArray.getD (start + 2) 0 = color.blue := hbyte 2
  rw [packedColor, hred, hgreen, hblue]

/-- A color is found again at the place where it was packed. -/
theorem packedColor_packed
    {rect : Rect} {shade : Point → Color} {point : Point}
    (hsize : rect.maxX - rect.minX < 4294967295) (hpoint : rect.Contains point) :
    packedColor (rect.packed shade).toArray (packedOffset rect point) = shade point := by
  obtain ⟨rest, hrest⟩ := Rect.drop_packed shade hsize hpoint
  exact packedColor_of_drop hrest

theorem toPixel_packedColor
    {bytes : List UInt8} {start : Nat} (hstart : start + 3 ≤ bytes.length) :
    (packedColor bytes.toArray start).toPixel ++ bytes.drop (start + 3) = bytes.drop start := by
  have hlength : 3 ≤ (bytes.drop start).length := by
    rw [List.length_drop]
    omega
  rw [← List.drop_drop]
  match hdrop : bytes.drop start with
  | [] | [_] | [_, _] =>
      rw [hdrop] at hlength
      simp at hlength
  | red :: green :: blue :: rest =>
      have hcolor : packedColor bytes.toArray start = ⟨red, green, blue⟩ :=
        packedColor_of_drop (hdrop : _ = Color.toPixel ⟨red, green, blue⟩ ++ rest)
      rw [hcolor]
      rfl

/-- Bytes for all points of a rectangle are their own colors packed. -/
theorem packed_packedColor
    {rect : Rect} {bytes : List UInt8} (hsize : rect.maxX - rect.minX < 4294967295)
    (hbytes : bytes.length = rect.points.length * 3) :
    rect.packed (fun point => packedColor bytes.toArray (packedOffset rect point)) = bytes := by
  have hbehind : ∀ after before, rect.points = before ++ after →
      after.flatMap (fun point => (packedColor bytes.toArray (packedOffset rect point)).toPixel) =
        bytes.drop (before.length * 3) := by
    intro after
    induction after with
    | nil =>
        intro before hpoints
        rw [List.append_nil] at hpoints
        simp [← hpoints, ← hbytes]
    | cons point after ih =>
        intro before hpoints
        have hstart : before.length * 3 + 3 ≤ bytes.length := by
          rw [hbytes, hpoints]
          simp
          omega
        have htail := ih (before ++ [point]) (by simpa using hpoints)
        have hnext : (before ++ [point]).length * 3 = before.length * 3 + 3 := by
          simp
          omega
        rw [List.flatMap_cons, packedOffset_of_points_eq hsize hpoints, htail, hnext,
          toPixel_packedColor hstart]
  exact hbehind rect.points [] rfl

end Compositor

/-! ## Pixels of a surface -/

/-- The bytes that are read for a point. -/
def Surface.packedPixel (surface : Surface) (point : Point) : List UInt8 :=
  ((surface.pixel? point).map Color.toPixel).getD [0, 0, 0]

theorem Surface.length_packedPixel (surface : Surface) (point : Point) :
    (surface.packedPixel point).length = 3 := by
  unfold packedPixel
  cases surface.pixel? point with
  | none => rfl
  | some color => rfl

theorem Surface.length_flatMap_packedPixel (surface : Surface) (points : List Point) :
    (points.flatMap surface.packedPixel).length = points.length * 3 := by
  induction points with
  | nil => rfl
  | cons point points ih =>
      rw [List.flatMap_cons, List.length_append, length_packedPixel, ih, List.length_cons]
      omega

theorem Surface.packedPixel_of_none
    {surface : Surface} {point : Point} (hpixel : surface.pixel? point = none) :
    surface.packedPixel point = [0, 0, 0] := by
  rw [packedPixel, hpixel]
  rfl

theorem Surface.packedPixel_of_some
    {surface : Surface} {point : Point} {color : Color}
    (hpixel : surface.pixel? point = some color) :
    surface.packedPixel point = color.toPixel := by
  rw [packedPixel, hpixel]
  rfl

/-! ## Reading -/

namespace Compositor

variable {surface : Surface} {target : Rect} {point : Point}

theorem writePacked_append (before after : List UInt8) (a b c : UInt8) (color : Color) :
    writePacked (before ++ a :: b :: c :: after).toArray before.length color =
      (before ++ (color.toPixel ++ after)).toArray := by
  simp [writePacked, Color.toPixel]

@[simp] theorem size_readPixel
    (surface : Surface) (target : Rect) (bytes : Array UInt8) (point : Point) :
    (readPixel surface target bytes point).size = bytes.size := by
  rw [readPixel]
  cases surface.pixel? point with
  | none => rfl
  | some color => simp [writePacked]

/-- A pixel is copied over three zeros, which stay if there is none. -/
theorem readPixel_append
    {before : List UInt8} (hoffset : packedOffset target point = before.length)
    (surface : Surface) (after : List UInt8) :
    readPixel surface target (before ++ 0 :: 0 :: 0 :: after).toArray point =
      (before ++ (surface.packedPixel point ++ after)).toArray := by
  rw [readPixel]
  cases hpixel : surface.pixel? point with
  | none =>
      rw [Surface.packedPixel_of_none hpixel]
      rfl
  | some color =>
      rw [Surface.packedPixel_of_some hpixel, hoffset]
      exact writePacked_append before after 0 0 0 color

/-- Reading fills in one pixel after the other and leaves zeros behind them. -/
theorem foldl_readPixel
    (surface : Surface) (hsize : target.maxX - target.minX < 4294967295)
    {before after : List Point} (hpoints : target.points = before ++ after) :
    after.foldl (readPixel surface target)
      (before.flatMap surface.packedPixel ++ List.replicate (after.length * 3) 0).toArray =
      (target.points.flatMap surface.packedPixel).toArray := by
  induction after generalizing before with
  | nil =>
      rw [List.append_nil] at hpoints
      simp [hpoints]
  | cons point after ih =>
      have hoffset : packedOffset target point =
          (before.flatMap surface.packedPixel).length := by
        rw [packedOffset_of_points_eq hsize hpoints, Surface.length_flatMap_packedPixel]
      have hzeros : List.replicate ((point :: after).length * 3) (0 : UInt8) =
          0 :: 0 :: 0 :: List.replicate (after.length * 3) 0 := by
        rw [List.length_cons, Nat.add_mul]
        rfl
      have hnext : target.points = (before ++ [point]) ++ after := by
        rw [hpoints, List.append_assoc]
        rfl
      have hrest := ih hnext
      rw [List.flatMap_append, List.flatMap_singleton, List.append_assoc] at hrest
      rw [List.foldl_cons, hzeros, readPixel_append hoffset, hrest]

/-- A point off the surface is passed over whether it is visited or not. -/
theorem foldl_readPixel_filter
    (surface : Surface) (target : Rect) (points : List Point) (bytes : Array UInt8) :
    (points.filter fun point => surface.bounds.Contains point).foldl
      (readPixel surface target) bytes = points.foldl (readPixel surface target) bytes := by
  induction points generalizing bytes with
  | nil => rfl
  | cons point points ih =>
      by_cases hpoint : surface.bounds.Contains point
      · rw [List.filter_cons_of_pos (by simpa using hpoint), List.foldl_cons, List.foldl_cons, ih]
      · have hpixel : surface.pixel? point = none := if_neg hpoint
        have hskip : readPixel surface target bytes point = bytes := by
          rw [readPixel, hpixel]
        rw [List.filter_cons_of_neg (by simpa using hpoint), List.foldl_cons, hskip, ih]

theorem readBuffer_eq_foldl (compositor : Compositor) (x1 y1 x2 y2 : Int) :
    let target := Rect.ofCorners x1 y1 x2 y2
    compositor.readBuffer x1 y1 x2 y2 =
      (target.points.foldl (readPixel compositor.surface target)
        (Array.replicate (target.area * 3) 0)).toList := by
  intro target
  let inside : Point → Bool := fun point => compositor.surface.bounds.Contains point
  rw [← foldl_readPixel_filter, readBuffer]
  cases hclip : compositor.surface.clip? target with
  | none =>
      have hnone : target.points.filter inside = [] := by
        rw [List.filter_eq_nil_iff]
        intro point hmem hinside
        have hbounds := Surface.mem_bounds_iff.1 (of_decide_eq_true hinside)
        exact Rect.not_contains_of_clip? hclip hbounds (Rect.mem_points.1 hmem)
      rw [hnone]
      rfl
  | some area =>
      have harea : area.points = target.points.filter inside := by
        apply Rect.points_eq_filter
        intro point
        rw [(Surface.clip?_eq_some hclip).2, decide_eq_true_iff]
      rw [← harea]

/-- The pixels stand one after the other in the order of their points, zeros for those off the
surface. -/
theorem readBuffer_eq_flatMap
    (compositor : Compositor) {x1 y1 x2 y2 : Int} (hwidth : (x2 - x1).natAbs < 4294967295)
    (hheight : (y2 - y1).natAbs < 4294967295) :
    compositor.readBuffer x1 y1 x2 y2 =
      (Rect.ofCorners x1 y1 x2 y2).points.flatMap compositor.surface.packedPixel := by
  let target := Rect.ofCorners x1 y1 x2 y2
  have hwidth' : target.maxX - target.minX < 4294967295 := by
    simp only [target, Rect.ofCorners]
    omega
  have hheight' : target.maxY - target.minY < 4294967295 := by
    simp only [target, Rect.ofCorners]
    omega
  have hordered : target.Ordered := Rect.ordered_ofCorners x1 y1 x2 y2
  have hread := foldl_readPixel compositor.surface hwidth' (List.nil_append target.points).symm
  rw [List.flatMap_nil, List.nil_append, hordered.length_points_eq_area hwidth' hheight',
    List.toArray_replicate] at hread
  rw [readBuffer_eq_foldl, hread]

end Compositor

end PanelLink
