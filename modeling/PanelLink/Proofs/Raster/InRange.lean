import PanelLink.Proofs.Raster.Alike
import PanelLink.Proofs.Raster.Guarded
import PanelLink.Proofs.Raster.Packing

/-!
# Drawing stays in range

No guard ever stops a drawing command: the guarded operations end without a fault, and with what
the plain ones give.
-/

namespace PanelLink

namespace Guarded

/-! ## Numbers -/

theorem ok_bind {α β : Type} (value : α) (next : α → Except Fault β) :
    (Except.ok value >>= next) = next value := rfl

theorem int32_eq {value : Int} (hlow : -2147483648 ≤ value) (hhigh : value ≤ 2147483647) :
    int32 value = .ok value :=
  if_pos ⟨hlow, hhigh⟩

theorem uint32_eq {value : Nat} (hvalue : value ≤ 4294967295) : uint32 value = .ok value :=
  if_pos hvalue

theorem uint64_eq {value : Nat} (hvalue : value ≤ 18446744073709551615) :
    uint64 value = .ok value :=
  if_pos hvalue

theorem unsigned_eq {value : Int} (hvalue : 0 ≤ value) : unsigned value = .ok value.toNat :=
  if_pos hvalue

theorem minus_eq {value less : Nat} (hless : less ≤ value) :
    minus value less = .ok (value - less) :=
  if_pos hless

theorem within_eq {start stop size : Nat} (hstart : start ≤ stop) (hstop : stop ≤ size) :
    within start stop size = .ok () :=
  if_pos ⟨hstart, hstop⟩

/-! ## Rectangles -/

theorem corners_eq
    {x1 y1 x2 y2 : Int} (hnear : (Rect.ofCorners x1 y1 x2 y2).Near) :
    corners x1 y1 x2 y2 = .ok (Rect.ofCorners x1 y1 x2 y2) := by
  obtain ⟨⟨hx, hy⟩, hminX, hminY, hmaxX, hmaxY⟩ := hnear
  simp only [Rect.ofCorners] at hx hy hminX hminY hmaxX hmaxY
  rw [corners, int32_eq (by omega) (by omega), ok_bind, int32_eq (by omega) (by omega), ok_bind,
    int32_eq (by omega) (by omega), ok_bind, int32_eq (by omega) (by omega), ok_bind]
  rfl

/-- The checked count ends without a fault for ends in order at most 31 bits apart, and then it is
the one that wraps around. -/
theorem extent_eq_ok_iff {low high : Int} {count : Nat} :
    extent low high = .ok count ↔
      (low ≤ high ∧ high - low ≤ 2147483647) ∧ count = Rect.extent low high := by
  by_cases hsteps : low ≤ high ∧ high - low ≤ 2147483647
  · have hextent : extent low high = .ok (Rect.extent low high) := by
      rw [extent, int32_eq (by omega) (by omega), ok_bind, unsigned_eq (by omega), ok_bind,
        uint32_eq (by omega), Rect.extent]
      congr 1
      omega
    rw [hextent, Except.ok.injEq, and_iff_right hsteps, eq_comm]
  · have hextent : extent low high = .error .overflow := by
      by_cases hdistance : -2147483648 ≤ high - low ∧ high - low ≤ 2147483647
      · rw [extent, int32_eq hdistance.1 hdistance.2, ok_bind, unsigned, if_neg (by omega)]
        rfl
      · rw [extent, int32, if_neg hdistance]
        rfl
    rw [hextent]
    constructor
    · intro hcount
      contradiction
    · intro hcount
      exact absurd hcount.1 hsteps

theorem extent_eq
    {low high : Int} (hle : low ≤ high) (hlow : -1073741824 ≤ low) (hhigh : high < 1073741824) :
    extent low high = .ok (Rect.extent low high) :=
  extent_eq_ok_iff.2 ⟨⟨hle, by omega⟩, rfl⟩

theorem bounds_eq (surface : Surface) : bounds surface = .ok surface.bounds := by
  have hwidth := surface.width_lt
  have hheight := surface.height_lt
  rw [bounds, int32_eq (by omega) (by omega), ok_bind, int32_eq (by omega) (by omega), ok_bind]
  rfl

theorem clip?_eq (surface : Surface) (rect : Rect) :
    clip? surface rect = .ok (surface.clip? rect) := by
  have hwidth := surface.width_pos
  have hheight := surface.height_pos
  have hbounds : Rect.bounds? surface.width surface.height = some surface.bounds :=
    if_neg (by omega)
  rw [clip?, bounds_eq, ok_bind, Surface.clip?, Rect.clip?, hbounds]
  simp only [Option.bind_eq_bind, Option.bind_some]
  split
  next => rfl
  next => rfl

theorem markDirty_eq (surface : Surface) (rect : Rect) :
    markDirty surface rect = .ok (surface.markDirty rect) := by
  rw [markDirty, clip?_eq, ok_bind, Surface.markDirty]
  cases surface.clip? rect with
  | none => rfl
  | some area => rfl

/-! ## Pixels -/

theorem offset_eq
    {surface : Surface} {point : Point} (hpoint : surface.bounds.Contains point) :
    offset surface point = .ok (Surface.offset surface.width point) := by
  obtain ⟨hx, hx', hy, hy'⟩ := Surface.mem_bounds_iff.1 hpoint
  have hwidth := surface.width_lt
  have hheight := surface.height_lt
  have hlast := Surface.offset_add_lt hpoint (show 3 < 4 by omega)
  have hlength : storageLength surface.width surface.height ≤ 65535 * 65535 * 4 := by
    rw [storageLength]
    exact Nat.mul_le_mul_right 4 (Nat.mul_le_mul (by omega) (by omega))
  have hoffset : point.y.toNat * (surface.width * 4) + point.x.toNat * 4 =
      Surface.offset surface.width point := by
    rw [Surface.offset, Nat.add_mul, Nat.mul_assoc]
  rw [offset, unsigned_eq hx, ok_bind, unsigned_eq hy, ok_bind, hoffset, uint64_eq (by omega)]

theorem within_pixel_eq
    {surface : Surface} {point : Point} (hpoint : surface.bounds.Contains point) :
    within (Surface.offset surface.width point) (Surface.offset surface.width point + 4)
      (storageLength surface.width surface.height) = .ok () := by
  have hlast := Surface.offset_add_lt hpoint (show 3 < 4 by omega)
  exact within_eq (by omega) (by omega)

theorem pixel?_eq (surface : Surface) (point : Point) :
    pixel? surface point = .ok (surface.pixel? point) := by
  unfold pixel? Surface.pixel?
  split
  next hpoint =>
    rw [offset_eq hpoint, ok_bind, within_pixel_eq hpoint, ok_bind]
    rfl
  next => rfl

theorem writeAt_offset (surface : Surface) (point : Point) (color : Color) :
    writeAt surface (Surface.offset surface.width point) color =
      surface.paint [(point, color)] := by
  simp only [writeAt, Surface.paint, Surface.writePixels, List.foldl_cons, List.foldl_nil]

theorem write_eq
    {surface : Surface} {point : Point} (hpoint : surface.bounds.Contains point) (color : Color) :
    write surface point color = .ok (surface.paint [(point, color)]) := by
  rw [write, offset_eq hpoint, ok_bind, within_pixel_eq hpoint, ok_bind, writeAt_offset]
  rfl

/-! ## Rows -/

theorem points_row (x1 x2 y : Int) :
    (⟨x1, y, x2, y⟩ : Rect).points = (Rect.interval x1 x2).map fun x => ⟨x, y⟩ := by
  have hrow : Rect.interval y y = [y] := by
    simp [Rect.interval]
  rw [Rect.points, hrow, List.flatMap_singleton]

theorem foldl_writeAt
    {surface : Surface} {x y : Int} (hx : 0 ≤ x) (count : Nat) (color : Color) :
    (List.range count).foldl
        (fun drawn k => writeAt drawn (Surface.offset surface.width ⟨x, y⟩ + k * 4) color) surface =
      surface.paint ((List.range count).map fun (k : Nat) => (⟨x + k, y⟩, color)) := by
  induction count with
  | zero => rfl
  | succ count ih =>
      have hnext : Surface.offset surface.width ⟨x, y⟩ + count * 4 =
          Surface.offset surface.width ⟨x + count, y⟩ := by
        simp only [Surface.offset]
        omega
      rw [List.range_succ, List.foldl_append, ih, List.map_append, ← Surface.paint_append,
        List.foldl_cons, List.foldl_nil, hnext]
      exact writeAt_offset (surface.paint _) ⟨x + count, y⟩ color

theorem fillSpan_eq
    {surface : Surface} {y x1 x2 : Int} (hle : x1 ≤ x2) (hleft : surface.bounds.Contains ⟨x1, y⟩)
    (hright : surface.bounds.Contains ⟨x2, y⟩) (color : Color) :
    fillSpan surface y x1 x2 color = .ok (surface.paintRect ⟨x1, y, x2, y⟩ color) := by
  have hx : 0 ≤ x1 := (Surface.mem_bounds_iff.1 hleft).1
  have hlast := Surface.offset_add_lt hright (show 3 < 4 by omega)
  have hspan : Surface.offset surface.width ⟨x2, y⟩ + 4 =
      Surface.offset surface.width ⟨x1, y⟩ + (x2 - x1 + 1).toNat * 4 := by
    simp only [Surface.offset] at *
    omega
  have hcount : (Surface.offset surface.width ⟨x2, y⟩ + 4 -
      Surface.offset surface.width ⟨x1, y⟩) / 4 = (x2 - x1 + 1).toNat := by
    omega
  rw [fillSpan, offset_eq hleft, ok_bind, offset_eq hright, ok_bind,
    within_eq (by omega) (by omega), ok_bind, hcount, foldl_writeAt hx, Surface.paintRect,
    points_row, Rect.interval, List.map_map, List.map_map]
  rfl

/-- Spans one below the other are drawn as one list of pixels. -/
theorem foldlM_fillSpan
    {surface : Surface} {x1 x2 : Int} {rows : List Int} (hle : x1 ≤ x2)
    (hrows : ∀ y ∈ rows, surface.bounds.Contains ⟨x1, y⟩ ∧ surface.bounds.Contains ⟨x2, y⟩)
    (color : Color) :
    rows.foldlM (fun surface y => fillSpan surface y x1 x2 color) surface =
      .ok (surface.paint ((rows.flatMap fun y =>
        (Rect.interval x1 x2).map fun x => (⟨x, y⟩ : Point)).map fun point => (point, color))) := by
  induction rows generalizing surface with
  | nil => rfl
  | cons y rows ih =>
      obtain ⟨hleft, hright⟩ := hrows y (List.mem_cons_self ..)
      rw [List.foldlM_cons, fillSpan_eq hle hleft hright, ok_bind, ih, Surface.paintRect,
        points_row, Surface.paint_append, List.flatMap_cons, List.map_append]
      intro other hother
      exact hrows other (List.mem_cons_of_mem _ hother)

theorem fillRows_eq
    {surface : Surface} {top bottom : Nat} (hbottom : bottom ≤ surface.height) (color : Color) :
    fillRows surface top bottom color = .ok (surface.fillRows top bottom color) := by
  have hwidth := surface.width_pos
  have hlast : ((surface.width - 1 : Nat) : Int) = surface.width - 1 := by omega
  rw [fillRows, minus_eq hwidth, ok_bind, hlast, foldlM_fillSpan (by omega)]
  · rfl
  · intro y hy
    obtain ⟨htop, hbelow⟩ := Rect.mem_interval.1 hy
    simp only [Surface.mem_bounds_iff]
    omega

theorem copyRows_eq
    {surface : Surface} {source target count : Nat} (hsource : source + count ≤ surface.height)
    (htarget : target + count ≤ surface.height) :
    copyRows surface source target count = .ok (surface.copyRows source target count) := by
  have hlength : storageLength surface.width surface.height =
      surface.height * (surface.width * 4) := by
    rw [storageLength, Nat.mul_comm surface.width, Nat.mul_assoc]
  have hcopied := Nat.mul_le_mul_right (surface.width * 4) hsource
  have hplaced := Nat.mul_le_mul_right (surface.width * 4) htarget
  rw [Nat.add_mul] at hcopied hplaced
  rw [copyRows, hlength, Nat.add_mul, within_eq (Nat.le_add_right _ _) hcopied, ok_bind,
    within_eq (Nat.le_add_right _ _) hplaced, ok_bind]
  rfl

theorem scroll_eq (compositor : Compositor) (lines : Int) :
    scroll compositor lines = .ok (compositor.scroll lines) := by
  unfold scroll Compositor.scroll
  dsimp only
  split
  next => rfl
  next hlines =>
    split
    next hfar =>
      rw [fillRows_eq le_rfl, ok_bind, bounds_eq, ok_bind, markDirty_eq, ok_bind]
      rfl
    next hfar =>
      have hshift : lines.natAbs ≤ compositor.surface.height := by omega
      rw [minus_eq hshift, ok_bind]
      split
      next =>
        rw [copyRows_eq (by omega) (by omega), ok_bind, fillRows_eq (by exact le_rfl), ok_bind,
          bounds_eq, ok_bind, markDirty_eq, ok_bind]
        rfl
      next =>
        rw [copyRows_eq (by omega) (by omega), ok_bind, fillRows_eq (by exact hshift), ok_bind,
          bounds_eq, ok_bind, markDirty_eq, ok_bind]
        rfl

/-! ## Rectangles of packed pixels -/

theorem packedOffset_eq
    {target : Rect} {point : Point} (hnear : target.Near) (hpoint : target.Contains point) :
    packedOffset target target.width point = .ok (Compositor.packedOffset target point) := by
  have hwidth := hnear.width_le
  obtain ⟨-, hminX, hminY, hmaxX, hmaxY⟩ := hnear
  obtain ⟨hx, hx', hy, hy'⟩ := hpoint
  have hrow : (point.y - target.minY).toNat * target.width ≤ 2147483648 * 2147483648 :=
    Nat.mul_le_mul (by omega) hwidth
  rw [packedOffset, int32_eq (by omega) (by omega), ok_bind, unsigned_eq (by omega), ok_bind,
    int32_eq (by omega) (by omega), ok_bind, unsigned_eq (by omega), ok_bind,
    uint64_eq (by omega)]
  rfl

theorem extent_eq_width {target : Rect} (hnear : target.Near) :
    extent target.minX target.maxX = .ok target.width :=
  extent_eq hnear.x hnear.minX_ge hnear.maxX_lt

theorem extent_eq_height {target : Rect} (hnear : target.Near) :
    extent target.minY target.maxY = .ok target.height :=
  extent_eq hnear.y hnear.minY_ge hnear.maxY_lt

theorem fillRect_eq
    (compositor : Compositor) {x1 y1 x2 y2 : Int} (hnear : (Rect.ofCorners x1 y1 x2 y2).Near)
    (color : Color) :
    fillRect compositor x1 y1 x2 y2 color = .ok (compositor.fillRect x1 y1 x2 y2 color) := by
  unfold fillRect Compositor.fillRect
  dsimp only
  rw [corners_eq hnear, ok_bind, clip?_eq, ok_bind]
  cases hclip : compositor.surface.clip? (Rect.ofCorners x1 y1 x2 y2) with
  | none => rfl
  | some area =>
      have harea : area.Ordered := hnear.toOrdered.of_clip? hclip
      have hinside := (Surface.clip?_eq_some hclip).2
      dsimp only
      rw [foldlM_fillSpan harea.x, ok_bind, markDirty_eq, ok_bind]
      · rfl
      · intro y hy
        obtain ⟨htop, hbottom⟩ := Rect.mem_interval.1 hy
        exact ⟨((hinside ⟨area.minX, y⟩).1 ⟨le_rfl, harea.x, htop, hbottom⟩).2,
          ((hinside ⟨area.maxX, y⟩).1 ⟨harea.x, le_rfl, htop, hbottom⟩).2⟩

/-- The pixels that are drawn one by one are those for which the bytes last. -/
theorem blitPixels_eq
    {target : Rect} (hnear : target.Near) {pixels : Array UInt8} {points : List Point}
    {surface : Surface} {last : Option Int}
    (hpoints : ∀ point ∈ points, target.Contains point ∧ surface.bounds.Contains point) :
    let drawn := points.takeWhile fun point =>
      Compositor.packedOffset target point + 3 ≤ pixels.size
    blitPixels target target.width pixels points (surface, last) =
      .ok (surface.paint (drawn.map fun point =>
          (point, Compositor.packedColor pixels (Compositor.packedOffset target point))),
        (drawn.getLast?.map Point.y).or last) := by
  induction points generalizing surface last with
  | nil => rfl
  | cons point points ih =>
      obtain ⟨htarget, hsurface⟩ := hpoints point (List.mem_cons_self ..)
      dsimp only
      rw [blitPixels, packedOffset_eq hnear htarget, ok_bind]
      by_cases hbytes : Compositor.packedOffset target point + 3 ≤ pixels.size
      · rw [if_pos hbytes, write_eq hsurface, ok_bind, ih,
          List.takeWhile_cons_of_pos (by simpa using hbytes), Surface.paint_append,
          List.getLast?_cons]
        · cases (points.takeWhile _).getLast? with
          | none => rfl
          | some point => rfl
        · intro other hother
          rw [Surface.bounds_paint]
          exact hpoints other (List.mem_cons_of_mem _ hother)
      · rw [if_neg hbytes, List.takeWhile_cons_of_neg (by simpa using hbytes)]
        rfl

theorem blitBuffer_eq
    (compositor : Compositor) {x1 y1 x2 y2 : Int} (hnear : (Rect.ofCorners x1 y1 x2 y2).Near)
    (pixels : Array UInt8) :
    blitBuffer compositor x1 y1 x2 y2 pixels = .ok (compositor.blitBuffer x1 y1 x2 y2 pixels) := by
  unfold blitBuffer Compositor.blitBuffer
  dsimp only
  rw [corners_eq hnear, ok_bind, clip?_eq, ok_bind]
  cases hclip : compositor.surface.clip? (Rect.ofCorners x1 y1 x2 y2) with
  | none => rfl
  | some area =>
      have hinside := (Surface.clip?_eq_some hclip).2
      dsimp only
      rw [extent_eq_width hnear, ok_bind, blitPixels_eq hnear, ok_bind]
      · cases hlast : (area.points.takeWhile _).getLast? with
        | none =>
            rw [List.getLast?_eq_none_iff.1 hlast]
            rfl
        | some last =>
            dsimp only [Option.map_some, Option.some_or]
            rw [markDirty_eq, ok_bind]
            rfl
      · intro point hmem
        exact (hinside point).1 (Rect.mem_points.1 hmem)

theorem readPixel_eq
    {target : Rect} {point : Point} {bytes : Array UInt8} (hnear : target.Near)
    (hpoint : target.Contains point) (hbytes : bytes.size = target.points.length * 3)
    (surface : Surface) :
    readPixel surface target target.width bytes point =
      .ok (Compositor.readPixel surface target bytes point) := by
  have hplace : Compositor.packedOffset target point + 3 ≤ bytes.size := by
    rw [hbytes]
    exact Compositor.packedOffset_add_le (hnear.spanX_lt.trans (by decide)) hpoint
  rw [readPixel, packedOffset_eq hnear hpoint, ok_bind, pixel?_eq, ok_bind,
    Compositor.readPixel]
  cases surface.pixel? point with
  | none => rfl
  | some color =>
      dsimp only
      rw [writePacked, within_eq (Nat.le_add_right _ _) hplace, ok_bind]
      rfl

theorem foldlM_readPixel
    {target : Rect} {points : List Point} {bytes : Array UInt8} (hnear : target.Near)
    (hpoints : ∀ point ∈ points, target.Contains point)
    (hbytes : bytes.size = target.points.length * 3) (surface : Surface) :
    points.foldlM (readPixel surface target target.width) bytes =
      .ok (points.foldl (Compositor.readPixel surface target) bytes) := by
  induction points generalizing bytes with
  | nil => rfl
  | cons point points ih =>
      have hpoint := hpoints point (List.mem_cons_self ..)
      rw [List.foldlM_cons, readPixel_eq hnear hpoint hbytes, ok_bind, List.foldl_cons]
      apply ih
      · intro other hother
        exact hpoints other (List.mem_cons_of_mem _ hother)
      · rw [Compositor.size_readPixel, hbytes]

theorem readBuffer_eq
    (compositor : Compositor) {x1 y1 x2 y2 : Int} (hnear : (Rect.ofCorners x1 y1 x2 y2).Near) :
    readBuffer compositor x1 y1 x2 y2 = .ok (compositor.readBuffer x1 y1 x2 y2).toArray := by
  have hwidth : (Rect.ofCorners x1 y1 x2 y2).maxX - (Rect.ofCorners x1 y1 x2 y2).minX <
      4294967295 := hnear.spanX_lt.trans (by decide)
  have hheight : (Rect.ofCorners x1 y1 x2 y2).maxY - (Rect.ofCorners x1 y1 x2 y2).minY <
      4294967295 := hnear.spanY_lt.trans (by decide)
  have hlength := hnear.length_points_eq_area hwidth hheight
  have hsize := Nat.mul_le_mul hnear.width_le hnear.height_le
  rw [readBuffer, corners_eq hnear, ok_bind, extent_eq_width hnear, ok_bind,
    extent_eq_height hnear, ok_bind, uint64_eq (by omega), ok_bind, clip?_eq, ok_bind,
    Compositor.readBuffer]
  cases hclip : compositor.surface.clip? (Rect.ofCorners x1 y1 x2 y2) with
  | none => rfl
  | some area =>
      dsimp only
      rw [foldlM_readPixel hnear, Array.toArray_toList]
      · rfl
      · intro point hmem
        exact (((Surface.clip?_eq_some hclip).2 point).1 (Rect.mem_points.1 hmem)).1
      · rw [Array.size_replicate, hlength, Rect.area]

/-! ## Bitmaps -/

theorem bit_eq (bitmap : Bitmap) (row col : Nat) :
    bit bitmap row col = .ok (bitmap.bit row col) := by
  unfold bit Bitmap.bit
  split
  next hinside =>
    have hwidth := bitmap.width.toNat_lt
    have hheight := bitmap.height.toNat_lt
    have hsize : bitmap.height.toNat * bitmap.width.toNat ≤ 65535 * 65535 :=
      Nat.mul_le_mul (by omega) (by omega)
    have hplace := rowMajor_lt hinside.2 hinside.1
    rw [Nat.mul_comm bitmap.width.toNat] at hplace
    rw [uint64_eq (by omega), ok_bind, minus_eq (by omega), ok_bind, minus_eq (by omega), ok_bind,
      ← Bitmap.bitIndex]
    dsimp only
    cases bitmap.bits[bitmap.bitIndex row col / 8]? with
    | none => rfl
    | some byte => rfl
  next => rfl

theorem magnified_le (cells : UInt16) (scale : UInt8) :
    cells.toNat * scale.toNat ≤ 16711425 := by
  have hcells := cells.toNat_lt
  have hscale := scale.toNat_lt
  exact Nat.mul_le_mul (show cells.toNat ≤ 65535 by omega) (show scale.toNat ≤ 255 by omega)

theorem footprint_eq
    {x y : Int} (hx : x.natAbs ≤ 32768) (hy : y.natAbs ≤ 32768) (bitmap : Bitmap) (scale : UInt8) :
    footprint x y bitmap scale = .ok (Compositor.footprint x y bitmap scale) := by
  have hwidth := magnified_le bitmap.width scale
  have hheight := magnified_le bitmap.height scale
  rw [footprint, ← Nat.cast_mul, ← Nat.cast_mul, int32_eq (by omega) (by omega), ok_bind,
    int32_eq (by omega) (by omega), ok_bind, int32_eq (by omega) (by omega), ok_bind,
    int32_eq (by omega) (by omega), ok_bind, int32_eq (by omega) (by omega), ok_bind,
    int32_eq (by omega) (by omega), ok_bind, Nat.cast_mul, Nat.cast_mul]
  rfl

/-- Every place is a number of 32 bits, those before and behind the surface included. -/
theorem places_eq
    {β : Type} {look : Nat → Except Fault β} {shown : Nat → β} {start limit : Int}
    {scale cells remaining index : Nat} (hstart : start.natAbs ≤ 32768) (hscale : 0 < scale)
    (hcells : cells * scale ≤ 16711425) (hlook : ∀ cell < cells, look cell = .ok (shown cell))
    (hindex : index + remaining = cells * scale) :
    places look start limit scale remaining index =
      .ok ((Compositor.places start limit scale remaining index).map
        fun (cell, place) => (shown cell, place)) := by
  induction remaining generalizing index with
  | zero => rfl
  | succ remaining ih =>
      have hcell : index / scale < cells := (Nat.div_lt_iff_lt_mul hscale).2 (by omega)
      have hsplit : index / scale * scale + index % scale = index := Nat.div_add_mod' index scale
      have hplace : start + ((index / scale * scale : Nat) : Int) + (index % scale : Nat) =
          start + index := by omega
      rw [places, Compositor.places, hlook _ hcell, ok_bind, ← Nat.cast_mul,
        int32_eq (by omega) (by omega), ok_bind, int32_eq (by omega) (by omega), ok_bind, hplace,
        int32_eq (by omega) (by omega), ok_bind]
      dsimp only
      split
      next => rfl
      next =>
        split
        next => exact ih (by omega)
        next =>
          rw [ih (by omega), ok_bind]
          rfl

theorem places_pure_eq
    {start limit : Int} {scale cells : Nat} (hstart : start.natAbs ≤ 32768) (hscale : 0 < scale)
    (hcells : cells * scale ≤ 16711425) :
    places pure start limit scale (cells * scale) 0 =
      .ok (Compositor.places start limit scale (cells * scale) 0) := by
  have hplaces : places pure start limit scale (cells * scale) 0 = _ :=
    places_eq hstart hscale hcells (fun cell _ => rfl) (Nat.zero_add _)
  rw [hplaces]
  exact congrArg Except.ok (List.map_id _)

theorem foldl_touch (points : List Point) : points.foldl touch none = Rect.hull? points := by
  cases points with
  | nil => rfl
  | cons point points =>
      have hsome : ∀ rect, points.foldl touch (some rect) =
          some (points.foldl (fun rect other => rect.union (Rect.ofPoint other)) rect) := by
        induction points with
        | nil => exact fun _ => rfl
        | cons other points ih => exact fun rect => ih (rect.union (Rect.ofPoint other))
      exact hsome (Rect.ofPoint point)

theorem snapshot_eq
    {visible : Rect} (hnear : visible.Near) (compositor : Compositor) (backdrop : Backdrop) :
    snapshot compositor visible backdrop = .ok (compositor.snapshot visible backdrop) := by
  cases backdrop with
  | solid color => rfl
  | transparent =>
      have hcorners := hnear.ofCorners_eq
      apply readBuffer_eq
      rwa [hcorners]

theorem size_snapshot {visible : Rect} (hnear : visible.Near) (compositor : Compositor) :
    (compositor.snapshot visible .transparent).size = visible.points.length * 3 := by
  have hwidth := hnear.spanX_lt
  have hheight := hnear.spanY_lt
  have hx := hnear.x
  have hy := hnear.y
  rw [Compositor.snapshot, List.size_toArray,
    Compositor.readBuffer_eq_flatMap compositor (by omega) (by omega), hnear.ofCorners_eq,
    Surface.length_flatMap_packedPixel]

theorem underlay_eq
    {visible : Rect} {point : Point} (hnear : visible.Near) (hpoint : visible.Contains point)
    (compositor : Compositor) (backdrop : Backdrop) :
    underlay backdrop (compositor.snapshot visible backdrop) visible visible.width point =
      .ok (Compositor.underlay backdrop (compositor.snapshot visible backdrop) visible point) := by
  cases backdrop with
  | solid color => rfl
  | transparent =>
      have hplace := Compositor.packedOffset_add_le (hnear.spanX_lt.trans (by decide)) hpoint
      have hsaved := size_snapshot hnear compositor
      rw [underlay, packedOffset_eq hnear hpoint, ok_bind, within_eq (by omega) (by omega), ok_bind]
      rfl

section Rows

variable {x : Int} {bitmap : Bitmap} {scale : UInt8} {foreground : Color}
  {clear : Point → Except Fault Color} {shown : Point → Color}

/-- The surface and the hull of what is drawn on it, after some more pixels. -/
def draw (drawn : Surface × Option Rect) (pixels : List (Point × Color)) :
    Surface × Option Rect :=
  (drawn.1.paint pixels, (pixels.map Prod.fst).foldl touch drawn.2)

theorem bounds_draw (drawn : Surface × Option Rect) (pixels : List (Point × Color)) :
    (draw drawn pixels).1.bounds = drawn.1.bounds := rfl

theorem draw_append (drawn : Surface × Option Rect) (pixels more : List (Point × Color)) :
    draw (draw drawn pixels) more = draw drawn (pixels ++ more) := by
  simp only [draw, Surface.paint_append, List.map_append, List.foldl_append]

theorem drawPixel_eq
    {drawn : Surface × Option Rect} {point : Point} (hpoint : drawn.1.bounds.Contains point)
    (hclear : clear point = .ok (shown point)) (foreground : Color) (set : Bool) :
    drawPixel foreground clear drawn set point =
      .ok (draw drawn [(point, if set then foreground else shown point)]) := by
  cases set with
  | false =>
      rw [drawPixel, cond_false, hclear, ok_bind, write_eq hpoint]
      rfl
  | true =>
      rw [drawPixel, cond_true, pure_bind, write_eq hpoint]
      rfl

theorem foldlM_drawPixel
    {drawn : Surface × Option Rect} {row : Nat} {y : Int} {columns : List (Nat × Int)}
    (hcolumns : ∀ place ∈ columns, drawn.1.bounds.Contains ⟨place.2, y⟩ ∧
      clear ⟨place.2, y⟩ = .ok (shown ⟨place.2, y⟩)) :
    (columns.map fun (column, x) => (bitmap.bit row column, x)).foldlM
      (fun drawn (set, x) => drawPixel foreground clear drawn set ⟨x, y⟩) drawn =
      .ok (draw drawn (columns.map fun (column, x) =>
        (⟨x, y⟩, if bitmap.bit row column then foreground else shown ⟨x, y⟩))) := by
  induction columns generalizing drawn with
  | nil => rfl
  | cons place columns ih =>
      obtain ⟨column, x⟩ := place
      obtain ⟨hpoint, hclear⟩ := hcolumns _ (List.mem_cons_self ..)
      rw [List.map_cons, List.foldlM_cons]
      change drawPixel foreground clear drawn (bitmap.bit row column) ⟨x, y⟩ >>= _ = _
      rw [drawPixel_eq hpoint hclear, ok_bind, ih]
      · rw [draw_append]
        rfl
      · intro other hother
        rw [bounds_draw]
        exact hcolumns other (List.mem_cons_of_mem _ hother)

theorem drawRow_eq
    {drawn : Surface × Option Rect} {row : Nat} {y : Int} (hx : x.natAbs ≤ 32768)
    (hscale : 0 < scale.toNat) (hy : 0 ≤ y ∧ y < drawn.1.height)
    (hclear : ∀ place ∈ Compositor.places x drawn.1.width scale.toNat
      (bitmap.width.toNat * scale.toNat) 0, clear ⟨place.2, y⟩ = .ok (shown ⟨place.2, y⟩)) :
    drawRow x bitmap scale foreground clear drawn row y =
      .ok (draw drawn ((Compositor.places x drawn.1.width scale.toNat
        (bitmap.width.toNat * scale.toNat) 0).map fun (column, x) =>
          (⟨x, y⟩, if bitmap.bit row column then foreground else shown ⟨x, y⟩))) := by
  rw [drawRow, places_eq hx hscale (magnified_le bitmap.width scale)
    (fun column _ => bit_eq bitmap row column) (Nat.zero_add _), ok_bind]
  apply foldlM_drawPixel
  intro place hplace
  obtain ⟨-, hleft, hright⟩ := Compositor.mem_places_iff.1 ⟨place.1, hplace⟩
  exact ⟨Surface.mem_bounds_iff.2 ⟨hleft, hright, hy⟩, hclear place hplace⟩

theorem foldlM_drawRow
    {drawn : Surface × Option Rect} {rows : List (Nat × Int)} (hx : x.natAbs ≤ 32768)
    (hscale : 0 < scale.toNat) (hrows : ∀ row ∈ rows, (0 ≤ row.2 ∧ row.2 < drawn.1.height) ∧
      ∀ place ∈ Compositor.places x drawn.1.width scale.toNat
        (bitmap.width.toNat * scale.toNat) 0, clear ⟨place.2, row.2⟩ = .ok (shown ⟨place.2, row.2⟩)) :
    rows.foldlM (fun drawn (row, y) => drawRow x bitmap scale foreground clear drawn row y) drawn =
      .ok (draw drawn (rows.flatMap fun (row, y) => (Compositor.places x drawn.1.width scale.toNat
        (bitmap.width.toNat * scale.toNat) 0).map fun (column, x) =>
          (⟨x, y⟩, if bitmap.bit row column then foreground else shown ⟨x, y⟩))) := by
  induction rows generalizing drawn with
  | nil => rfl
  | cons row rows ih =>
      obtain ⟨row, y⟩ := row
      obtain ⟨hy, hclear⟩ := hrows _ (List.mem_cons_self ..)
      rw [List.foldlM_cons]
      change drawRow x bitmap scale foreground clear drawn row y >>= _ = _
      rw [drawRow_eq hx hscale hy hclear, ok_bind, ih]
      · exact congrArg Except.ok (draw_append ..)
      · intro other hother
        exact hrows other (List.mem_cons_of_mem _ hother)

/-- Row by row the pixels of the bitmap are drawn, and their hull comes out. -/
theorem foldlM_drawRow_places
    {surface : Surface} {y : Int} (hx : x.natAbs ≤ 32768) (hscale : 0 < scale.toNat)
    (hclear : ∀ point, (Compositor.footprint x y bitmap scale).Contains point →
      surface.bounds.Contains point → clear point = .ok (shown point)) :
    let pixels := Compositor.bitmapPixels surface.width surface.height x y bitmap scale
      foreground shown
    (Compositor.places y surface.height scale.toNat
        (bitmap.height.toNat * scale.toNat) 0).foldlM
      (fun drawn (row, y) => drawRow x bitmap scale foreground clear drawn row y) (surface, none) =
      .ok (surface.paint pixels, Rect.hull? (pixels.map Prod.fst)) := by
  rw [foldlM_drawRow hx hscale, draw, foldl_touch]
  · rfl
  · intro row hrow
    obtain ⟨hrows, hheight⟩ := Compositor.mem_places_iff.1 ⟨row.1, hrow⟩
    refine ⟨hheight, ?_⟩
    intro place hplace
    obtain ⟨hcolumns, hleft, hright⟩ := Compositor.mem_places_iff.1 ⟨place.1, hplace⟩
    apply hclear
    · simp only [Compositor.footprint, Rect.Contains]
      push_cast at hrows hcolumns
      omega
    · exact Surface.mem_bounds_iff.2 ⟨hleft, hright, hheight⟩

end Rows

theorem drawBitmap_eq
    (compositor : Compositor) {x y : Int} (hx : x.natAbs ≤ 32768) (hy : y.natAbs ≤ 32768)
    (bitmap : Bitmap) (scale : UInt8) (foreground : Color) (backdrop : Backdrop) :
    drawBitmap compositor x y bitmap scale foreground backdrop =
      .ok (compositor.drawBitmap x y bitmap scale foreground backdrop) := by
  unfold drawBitmap Compositor.drawBitmap
  dsimp only
  split
  next => rfl
  next hsize =>
    rw [footprint_eq hx hy, ok_bind, clip?_eq, ok_bind]
    cases hclip : compositor.surface.clip? (Compositor.footprint x y bitmap scale) with
    | none => rfl
    | some visible =>
        have hordered : (Compositor.footprint x y bitmap scale).Ordered :=
          Compositor.ordered_footprint hsize
        have hnear := Rect.near_of_clip? hclip hordered
        have hinside := (Surface.clip?_eq_some hclip).2
        have hscale : 0 < scale.toNat := by
          apply Nat.pos_of_ne_zero
          intro hzero
          exact hsize (.inl (UInt8.toNat_inj.1 hzero))
        dsimp only
        rw [snapshot_eq hnear, ok_bind,
          extent_eq_width hnear, ok_bind,
          places_pure_eq hy hscale (magnified_le bitmap.height scale), ok_bind,
          foldlM_drawRow_places hx hscale, ok_bind, Compositor.hull?_bitmapPixels hsize hclip]
        · dsimp only
          rw [markDirty_eq, ok_bind]
          rfl
        · intro point hfootprint hbounds
          exact underlay_eq hnear ((hinside point).2 ⟨hfootprint, hbounds⟩) compositor backdrop

end Guarded

theorem natAbs_toInt_le (number : Int16) : number.toInt.natAbs ≤ 32768 := by
  have hlow := number.le_toInt
  have hhigh := number.toInt_lt
  omega

theorem near_corners (corners : Corners) :
    (Rect.ofCorners corners.x1.toInt corners.y1.toInt corners.x2.toInt corners.y2.toInt).Near :=
  Rect.near_ofCorners (natAbs_toInt_le _) (natAbs_toInt_le _) (natAbs_toInt_le _)
    (natAbs_toInt_le _)

/-- With every number guarded by its type and every access by the length of what is accessed, a
command is carried out to its end, whatever it is, and to the same effect. -/
theorem command_stays_in_range (compositor : Compositor) (command : Command) :
    Guarded.apply compositor command = .ok (compositor.apply command) := by
  cases command with
  | fillRect corners color => exact Guarded.fillRect_eq compositor (near_corners corners) color
  | drawBitmap x y scale foreground backdrop bitmap =>
      exact Guarded.drawBitmap_eq compositor (natAbs_toInt_le x) (natAbs_toInt_le y) bitmap scale
        foreground backdrop
  | blitBuffer corners pixels =>
      exact Guarded.blitBuffer_eq compositor (near_corners corners) pixels
  | scroll lines => exact Guarded.scroll_eq compositor lines.toInt
  | execute data => rfl

end PanelLink
