import Mathlib.Analysis.Convex.Basic
import Mathlib.Algebra.Module.Rat
import Firebot.Lib.Plane
import Firebot.Navigation.Cruise

/-!
# Does a leg of a route cut through a slot

`segment_intersects_slot` looks for an end of the leg in the slot's rectangle, expanded by a margin, and for a
side of the rectangle that the leg properly crosses. A leg can meet the rectangle without either: through a
corner. **The answer is right unless the leg only touches a corner, runs through two opposite corners or along a
side** (`Exact`, `intersects_exact_iff`). Nothing is said of how wide the vehicle is.
-/

namespace Firebot.Navigation

open Plane

/-- A slot's rectangle with its margin. -/
structure Box where
  minX : ℚ
  maxX : ℚ
  minY : ℚ
  maxY : ℚ

/-- The bounds that `segment_intersects_slot` computes. -/
def expandedBox (slot : SlotRef) (halfWidth halfHeight margin : ℚ) : Box where
  minX := slot.x - halfWidth - margin
  maxX := slot.x + halfWidth + margin
  minY := slot.y - halfHeight - margin
  maxY := slot.y + halfHeight + margin

namespace Box

variable (box : Box)

/-- `in_bounds`. -/
def inBounds (p : ℚ × ℚ) : Bool := box.minX ≤ p.1 ∧ p.1 ≤ box.maxX ∧ box.minY ≤ p.2 ∧ p.2 ≤ box.maxY

/-- The corners, in their order. -/
def corner : Fin 4 → ℚ × ℚ
  | 0 => (box.minX, box.minY)
  | 1 => (box.maxX, box.minY)
  | 2 => (box.maxX, box.maxY)
  | 3 => (box.minX, box.maxY)

/-- The closed rectangle. -/
def region : Set (ℚ × ℚ) := Set.Icc (box.minX, box.minY) (box.maxX, box.maxY)

theorem inBounds_iff {p : ℚ × ℚ} : box.inBounds p = true ↔ p ∈ box.region := by
  unfold inBounds region
  rw [decide_eq_true_iff, Set.mem_Icc, Prod.le_def, Prod.le_def]
  exact ⟨fun h => ⟨⟨h.1, h.2.2.1⟩, h.2.1, h.2.2.2⟩, fun h => ⟨h.1.1, h.2.1, h.1.2, h.2.2⟩⟩

end Box

/-- `crosses`, of the leg and a side. -/
def properlyCrosses (a b p q : ℚ × ℚ) : Bool :=
  let d1 := cross a b p
  let d2 := cross a b q
  let d3 := cross p q a
  let d4 := cross p q b
  (d1 > 0 ∧ d2 < 0 ∨ d1 < 0 ∧ d2 > 0) ∧ (d3 > 0 ∧ d4 < 0 ∨ d3 < 0 ∧ d4 > 0)

/-- `segment_intersects_slot`. -/
def segmentIntersectsSlot (a b : ℚ × ℚ) (slot : SlotRef) (halfWidth halfHeight margin : ℚ) : Bool :=
  let box := expandedBox slot halfWidth halfHeight margin
  if box.inBounds a || box.inBounds b then true
  else [0, 1, 2, 3].any fun index => properlyCrosses a b (box.corner index) (box.corner (index + 1))

theorem properlyCrosses_iff {a b p q : ℚ × ℚ} : properlyCrosses a b p q = true ↔ Crosses a b p q := by
  unfold properlyCrosses Crosses
  rw [decide_eq_true_iff, mul_neg_iff, mul_neg_iff]

theorem segmentIntersectsSlot_iff {a b : ℚ × ℚ} {slot : SlotRef} {halfWidth halfHeight margin : ℚ} :
    segmentIntersectsSlot a b slot halfWidth halfHeight margin = true ↔
      a ∈ (expandedBox slot halfWidth halfHeight margin).region ∨
      b ∈ (expandedBox slot halfWidth halfHeight margin).region ∨
      ∃ index, Crosses a b ((expandedBox slot halfWidth halfHeight margin).corner index)
        ((expandedBox slot halfWidth halfHeight margin).corner (index + 1)) := by
  unfold segmentIntersectsSlot
  dsimp only
  rw [← Box.inBounds_iff, ← Box.inBounds_iff, ← or_assoc, ← Bool.or_eq_true]
  split
  · next inside => exact iff_of_true rfl (.inl inside)
  · next outside =>
    rw [or_iff_right outside, List.any_eq_true]
    constructor
    · intro ⟨index, _, crosses⟩
      exact ⟨index, properlyCrosses_iff.mp crosses⟩
    · intro ⟨index, crosses⟩
      refine ⟨index, ?_, properlyCrosses_iff.mpr crosses⟩
      fin_cases index <;> simp

/-! ## The rectangle -/

namespace Box

variable {box : Box}

/-- The rectangle has points. -/
structure Proper (box : Box) : Prop where
  x : box.minX ≤ box.maxX
  y : box.minY ≤ box.maxY

theorem region_convex : Convex ℚ box.region := by
  unfold region
  rw [Set.Icc_prod_eq]
  exact (convex_Icc _ _).prod (convex_Icc _ _)

theorem Proper.corner_mem (proper : box.Proper) (index : Fin 4) : box.corner index ∈ box.region := by
  have x := proper.x
  have y := proper.y
  fin_cases index <;> simp [corner, region, x, y]

/-- Three corners in a row span the rectangle. -/
def area (box : Box) : ℚ := (box.maxX - box.minX) * (box.maxY - box.minY)

theorem cross_corners (index : Fin 4) :
    cross (box.corner index) (box.corner (index + 1)) (box.corner (index + 2)) = box.area := by
  fin_cases index <;> (unfold cross area; simp [corner]) <;> ring

section

variable {a b : ℚ × ℚ}

/-- The rectangle is a parallelogram. -/
theorem cross_opposite (index : Fin 4) :
    cross a b (box.corner (index + 2)) =
      cross a b (box.corner (index + 1)) + cross a b (box.corner (index + 3)) - cross a b (box.corner index) := by
  fin_cases index <;> (unfold cross; simp [corner]) <;> ring

/-- Its sides are upright and level. -/
theorem cross_neighbours (index : Fin 4) :
    ∃ k, (cross a b (box.corner (index + 1)) - cross a b (box.corner index)) *
      (cross a b (box.corner (index + 3)) - cross a b (box.corner index)) = k * box.area := by
  fin_cases index
  · exact ⟨-((b.1 - a.1) * (b.2 - a.2)), by unfold cross area; simp [corner]; ring⟩
  · exact ⟨(b.1 - a.1) * (b.2 - a.2), by unfold cross area; simp [corner]; ring⟩
  · exact ⟨-((b.1 - a.1) * (b.2 - a.2)), by unfold cross area; simp [corner]; ring⟩
  · exact ⟨(b.1 - a.1) * (b.2 - a.2), by unfold cross area; simp [corner]; ring⟩

end

/-! ## Entering the rectangle -/

/-- Coming into an interval: from the parameter on at which a coordinate enters it, it stays. -/
theorem exists_entry {lo hi u d τ : ℚ} (later : 0 ≤ τ) (inside : lo ≤ u + τ * d ∧ u + τ * d ≤ hi) :
    ∃ t, 0 ≤ t ∧ t ≤ τ ∧ (∀ s, t ≤ s → s ≤ τ → lo ≤ u + s * d ∧ u + s * d ≤ hi) ∧
      (t = 0 ∨ u < lo ∧ u + t * d = lo ∨ hi < u ∧ u + t * d = hi) := by
  rcases lt_or_ge u lo with below | above
  · have rising : 0 < τ * d := by linarith
    have positive : 0 < d := (pos_iff_pos_of_mul_pos rising).mp (lt_of_le_of_ne later (by rintro rfl; simp at rising))
    have entry : u + (lo - u) / d * d = lo := by
      rw [div_mul_cancel₀ _ positive.ne']
      ring
    refine ⟨(lo - u) / d, div_nonneg (by linarith) positive.le, ?_, ?_, .inr (.inl ⟨below, entry⟩)⟩
    · rw [div_le_iff₀ positive]
      linarith
    · intro s entered before
      have up := mul_le_mul_of_nonneg_right entered positive.le
      have down := mul_le_mul_of_nonneg_right before positive.le
      constructor <;> linarith
  · rcases lt_or_ge hi u with beyond | within
    · have falling : τ * d < 0 := by linarith
      have negative : d < 0 := (neg_iff_pos_of_mul_neg (by rwa [mul_comm])).mpr
        (lt_of_le_of_ne later (by rintro rfl; simp at falling))
      have entry : u + (hi - u) / d * d = hi := by
        rw [div_mul_cancel₀ _ negative.ne]
        ring
      refine ⟨(hi - u) / d, div_nonneg_of_nonpos (by linarith) negative.le, ?_, ?_, .inr (.inr ⟨beyond, entry⟩)⟩
      · rw [div_le_iff_of_neg negative]
        linarith
      · intro s entered before
        have up := mul_le_mul_of_nonpos_right entered negative.le
        have down := mul_le_mul_of_nonpos_right before negative.le
        constructor <;> linarith
    · refine ⟨0, le_refl 0, later, ?_, .inl rfl⟩
      intro s entered before
      rcases le_total 0 d with rising | falling
      · have up := mul_nonneg entered rising
        have down := mul_le_mul_of_nonneg_right before rising
        constructor <;> linarith
      · have up := mul_nonpos_of_nonneg_of_nonpos entered falling
        have down := mul_le_mul_of_nonpos_right before falling
        constructor <;> linarith

variable {a b : ℚ × ℚ}

theorem mem_upright {x z lo hi : ℚ} (above : lo ≤ z) (below : z ≤ hi) :
    (x, z) ∈ segment ℚ (x, lo) (x, hi) := by
  rw [← Prod.image_mk_segment_right]
  exact ⟨z, by rw [segment_eq_Icc (above.trans below)]; exact ⟨above, below⟩, rfl⟩

theorem mem_level {y z lo hi : ℚ} (above : lo ≤ z) (below : z ≤ hi) :
    (z, y) ∈ segment ℚ (lo, y) (hi, y) := by
  rw [← Prod.image_mk_segment_left]
  exact ⟨z, by rw [segment_eq_Icc (above.trans below)]; exact ⟨above, below⟩, rfl⟩

/-- A point of the side, on a leg that starts off its line. -/
def Hit (box : Box) (a b : ℚ × ℚ) (index : Fin 4) : Prop :=
  ∃ y, y ∈ segment ℚ a b ∧ y ∈ segment ℚ (box.corner index) (box.corner (index + 1)) ∧
    (box.corner index ≠ box.corner (index + 1) → cross (box.corner index) (box.corner (index + 1)) a ≠ 0)

/-- The leg comes to an upright side at the height of the rectangle. -/
theorem hit_upright {t : ℚ} (on_leg : along a b t ∈ segment ℚ a b)
    (height : box.minY ≤ (along a b t).2 ∧ (along a b t).2 ≤ box.maxY)
    (entry : a.1 < box.minX ∧ (along a b t).1 = box.minX ∨ box.maxX < a.1 ∧ (along a b t).1 = box.maxX) :
    ∃ index, box.Hit a b index := by
  have point : along a b t = ((along a b t).1, (along a b t).2) := rfl
  rcases entry with ⟨left, here⟩ | ⟨right, here⟩
  · refine ⟨3, along a b t, on_leg, ?_, ?_⟩
    · rw [point, here, segment_symm]
      exact mem_upright height.1 height.2
    · intro apart
      show (box.minX - box.minX) * _ - (box.minY - box.maxY) * (a.1 - box.minX) ≠ 0
      rw [sub_self, zero_mul, zero_sub]
      refine neg_ne_zero.mpr (mul_ne_zero ?_ (by linarith))
      intro flat
      exact apart (congrArg (Prod.mk box.minX) (by linarith : box.maxY = box.minY))
  · refine ⟨1, along a b t, on_leg, ?_, ?_⟩
    · rw [point, here]
      exact mem_upright height.1 height.2
    · intro apart
      show (box.maxX - box.maxX) * _ - (box.maxY - box.minY) * (a.1 - box.maxX) ≠ 0
      rw [sub_self, zero_mul, zero_sub]
      refine neg_ne_zero.mpr (mul_ne_zero ?_ (by linarith))
      intro flat
      exact apart (congrArg (Prod.mk box.maxX) (by linarith : box.minY = box.maxY))

/-- The leg comes to a level side within the width of the rectangle. -/
theorem hit_level {t : ℚ} (on_leg : along a b t ∈ segment ℚ a b)
    (width : box.minX ≤ (along a b t).1 ∧ (along a b t).1 ≤ box.maxX)
    (entry : a.2 < box.minY ∧ (along a b t).2 = box.minY ∨ box.maxY < a.2 ∧ (along a b t).2 = box.maxY) :
    ∃ index, box.Hit a b index := by
  have point : along a b t = ((along a b t).1, (along a b t).2) := rfl
  rcases entry with ⟨below, here⟩ | ⟨above, here⟩
  · refine ⟨0, along a b t, on_leg, ?_, ?_⟩
    · rw [point, here]
      exact mem_level width.1 width.2
    · intro apart
      show (box.maxX - box.minX) * (a.2 - box.minY) - (box.minY - box.minY) * _ ≠ 0
      rw [sub_self, zero_mul, sub_zero]
      refine mul_ne_zero ?_ (by linarith)
      intro flat
      exact apart (congrArg (·, box.minY) (by linarith : box.minX = box.maxX))
  · refine ⟨2, along a b t, on_leg, ?_, ?_⟩
    · rw [point, here, segment_symm]
      exact mem_level width.1 width.2
    · intro apart
      show (box.minX - box.maxX) * (a.2 - box.maxY) - (box.maxY - box.maxY) * _ ≠ 0
      rw [sub_self, zero_mul, sub_zero]
      refine mul_ne_zero ?_ (by linarith)
      intro flat
      exact apart (congrArg (·, box.maxY) (by linarith : box.maxX = box.minX))

/-- A leg that comes from outside into the rectangle enters through a side. -/
theorem exists_hit {x : ℚ × ℚ} (outside : a ∉ box.region) (on_leg : x ∈ segment ℚ a b) (inside : x ∈ box.region) :
    ∃ index, box.Hit a b index := by
  obtain ⟨τ, later, before, rfl⟩ := mem_segment_iff.mp on_leg
  rw [← inBounds_iff] at inside outside
  obtain ⟨minX, maxX, minY, maxY⟩ := of_decide_eq_true inside
  obtain ⟨tx, first, last, width, entryX⟩ := exists_entry later ⟨minX, maxX⟩
  obtain ⟨ty, first', last', height, entryY⟩ := exists_entry later ⟨minY, maxY⟩
  have on_leg : ∀ t, 0 ≤ t → t ≤ τ → along a b t ∈ segment ℚ a b := fun t lower upper =>
    mem_segment_iff.mpr ⟨t, lower, upper.trans before, rfl⟩
  -- the rectangle is entered at the later of the two
  rcases le_total ty tx with order | order
  · rcases entryX with begins | entry
    · exfalso
      apply outside
      rw [begins] at order
      have starts : ty = 0 := le_antisymm order first'
      have x := width 0 begins.le later
      have y := height 0 starts.le later
      rw [zero_mul, add_zero] at x y
      exact decide_eq_true ⟨x.1, x.2, y.1, y.2⟩
    · exact hit_upright (on_leg tx first last) (height tx order last) entry
  · rcases entryY with begins | entry
    · exfalso
      apply outside
      rw [begins] at order
      have starts : tx = 0 := le_antisymm order first
      have x := width 0 starts.le later
      have y := height 0 begins.le later
      rw [zero_mul, add_zero] at x y
      exact decide_eq_true ⟨x.1, x.2, y.1, y.2⟩
    · exact hit_level (on_leg ty first' last') (width ty order last') entry

/-- A side that is hit away from every corner is crossed. -/
theorem Hit.crosses {index : Fin 4} (hit : box.Hit a b index) (outside : a ∉ box.region) (outside' : b ∉ box.region)
    (proper : box.Proper) (clear : ∀ index, box.corner index ∉ segment ℚ a b) :
    Crosses a b (box.corner index) (box.corner (index + 1)) := by
  obtain ⟨y, on_leg, on_side, off⟩ := hit
  have inside : y ∈ box.region :=
    region_convex.segment_subset (proper.corner_mem _) (proper.corner_mem _) on_side
  have apart : ∀ other, box.corner other ≠ y := by
    rintro other rfl
    exact clear other on_leg
  have inner := mem_openSegment_of_ne_left_right (apart index) (apart (index + 1)) on_side
  have inner' : y ∈ openSegment ℚ a b := by
    apply mem_openSegment_of_ne_left_right _ _ on_leg
    · rintro rfl
      exact outside inside
    · rintro rfl
      exact outside' inside
  refine crosses_of_common inner' inner (off ?_)
  intro same
  rw [← same, openSegment_same] at inner
  exact apart index inner.symm

/-! ## Corners -/

/-- A rectangle whose corners next to one on the line lie on different sides of it is not flat. -/
theorem area_ne_zero {index : Fin 4} (on_line : cross a b (box.corner index) = 0)
    (apart : cross a b (box.corner (index + 1)) * cross a b (box.corner (index + 3)) < 0) : box.area ≠ 0 := by
  intro flat
  obtain ⟨k, product⟩ := @cross_neighbours box a b index
  rw [on_line, sub_zero, sub_zero, flat, mul_zero] at product
  exact absurd product apart.ne

/-- A leg through a corner crosses each side away from the corner that its line does. -/
theorem crosses_of_corner {c p q : ℚ × ℚ} (outside : a ∉ box.region) (outside' : b ∉ box.region)
    (on_leg : c ∈ segment ℚ a b) (inside : c ∈ box.region) (insideP : p ∈ box.region) (insideQ : q ∈ box.region)
    (far : cross p q c ≠ 0) (apart : cross a b p * cross a b q < 0) : Crosses a b p q := by
  obtain ⟨lower, upper⟩ := ratio_of_mul_neg apart
  generalize ratio : cross a b p / (cross a b p - cross a b q) = u at lower upper
  have on_side : along p q u ∈ openSegment ℚ p q := mem_openSegment_iff.mpr ⟨u, lower, upper, rfl⟩
  have insideX : along p q u ∈ box.region := region_convex.openSegment_subset insideP insideQ on_side
  have long : a ≠ b := by
    rintro rfl
    rw [cross_self_left, zero_mul] at apart
    exact lt_irrefl _ apart
  have on_line : cross a b (along p q u) = 0 := by
    have span : cross a b p - cross a b q ≠ 0 := by
      intro level
      rw [level, div_zero] at ratio
      exact lower.ne ratio
    have scaled : u * (cross a b p - cross a b q) = cross a b p := by rw [← ratio, div_mul_cancel₀ _ span]
    rw [cross_along]
    linear_combination -scaled
  obtain ⟨ξ, reached⟩ := exists_along long on_line
  obtain ⟨γ, _, _, rfl⟩ := mem_segment_iff.mp on_leg
  -- the leg's ends are outside, so it goes on beyond the corner and beyond the side
  have between : ∀ {s r t : ℚ}, along a b s ∈ box.region → along a b t ∈ box.region → s ≤ r → r ≤ t →
      along a b r ∈ box.region :=
    fun first last below above => region_convex.segment_subset first last (along_mem_segment below above)
  rw [reached] at insideX
  have after : 0 < ξ := by
    by_contra back
    have start := between insideX inside (not_lt.mp back) ‹0 ≤ γ›
    rw [along_zero] at start
    exact outside start
  have before : ξ < 1 := by
    by_contra beyond
    have stop := between inside insideX ‹γ ≤ 1› (not_lt.mp beyond)
    rw [along_one] at stop
    exact outside' stop
  refine crosses_of_common (mem_openSegment_iff.mpr ⟨ξ, after, before, reached⟩) on_side ?_
  intro level
  have crossing : (1 - ξ) * cross p q a + ξ * cross p q b = 0 := by
    rw [← cross_along, ← reached]
    exact cross_of_mem_segment (openSegment_subset_segment ℚ p q on_side)
  rw [level, mul_zero, zero_add] at crossing
  apply far
  rw [cross_along, level, (mul_eq_zero.mp crossing).resolve_left after.ne']
  ring

end Box

/-! ## When the answer is right -/

/-- The closed rectangle about the slot's centre, with the margin on each side. -/
def slotSpace (slot : SlotRef) (halfWidth halfHeight margin : ℚ) : Set (ℚ × ℚ) :=
  { p | |p.1 - slot.x| ≤ halfWidth + margin ∧ |p.2 - slot.y| ≤ halfHeight + margin }

/-- Its corners, one after the other. -/
def slotCorner (slot : SlotRef) (halfWidth halfHeight margin : ℚ) : Fin 4 → ℚ × ℚ
  | 0 => (slot.x - (halfWidth + margin), slot.y - (halfHeight + margin))
  | 1 => (slot.x + (halfWidth + margin), slot.y - (halfHeight + margin))
  | 2 => (slot.x + (halfWidth + margin), slot.y + (halfHeight + margin))
  | 3 => (slot.x - (halfWidth + margin), slot.y + (halfHeight + margin))

/-- An end of the leg is in the rectangle; or each corner that the leg passes through has its neighbours
strictly on different sides of the leg, and the opposite corner off its line. -/
def Exact (space : Set (ℚ × ℚ)) (corner : Fin 4 → ℚ × ℚ) (a b : ℚ × ℚ) : Prop :=
  a ∈ space ∨ b ∈ space ∨ ∀ index, corner index ∈ segment ℚ a b →
    cross a b (corner (index + 1)) * cross a b (corner (index + 3)) < 0 ∧ cross a b (corner (index + 2)) ≠ 0

/-- What `segment_intersects_slot` takes for the rectangle is the rectangle. -/
theorem region_expandedBox (slot : SlotRef) (halfWidth halfHeight margin : ℚ) :
    (expandedBox slot halfWidth halfHeight margin).region = slotSpace slot halfWidth halfHeight margin := by
  ext p
  unfold Box.region expandedBox slotSpace
  rw [Set.mem_Icc, Prod.le_def, Prod.le_def, Set.mem_ofPred_eq, abs_le, abs_le]
  constructor
  · rintro ⟨⟨left, low⟩, right, high⟩
    refine ⟨⟨?_, ?_⟩, ?_, ?_⟩ <;> linarith
  · rintro ⟨⟨left, right⟩, low, high⟩
    refine ⟨⟨?_, ?_⟩, ?_, ?_⟩ <;> dsimp only <;> linarith

theorem corner_expandedBox (slot : SlotRef) (halfWidth halfHeight margin : ℚ) :
    (expandedBox slot halfWidth halfHeight margin).corner = slotCorner slot halfWidth halfHeight margin := by
  funext index
  unfold Box.corner expandedBox slotCorner
  fin_cases index <;> simp only [Prod.mk.injEq] <;> constructor <;> ring

section

variable {box : Box} {a b : ℚ × ℚ}

/-- What is crossed is met. -/
theorem meets_of_crosses (proper : box.Proper) {index : Fin 4}
    (crosses : Crosses a b (box.corner index) (box.corner (index + 1))) :
    (segment ℚ a b ∩ box.region).Nonempty := by
  obtain ⟨x, on_leg, on_side⟩ := crosses.exists_common
  exact ⟨x, openSegment_subset_segment ℚ a b on_leg,
    Box.region_convex.openSegment_subset (proper.corner_mem _) (proper.corner_mem _) on_side⟩

/-- Through a corner with its neighbours on different sides, the leg crosses one of the two sides opposite. -/
theorem exists_crosses_of_corner (proper : box.Proper) (outside : a ∉ box.region) (outside' : b ∉ box.region)
    {index : Fin 4} (on_leg : box.corner index ∈ segment ℚ a b)
    (apart : cross a b (box.corner (index + 1)) * cross a b (box.corner (index + 3)) < 0)
    (opposite : cross a b (box.corner (index + 2)) ≠ 0) :
    ∃ index, Crosses a b (box.corner index) (box.corner (index + 1)) := by
  have on_line := cross_of_mem_segment on_leg
  have area := Box.area_ne_zero on_line apart
  have sum := @Box.cross_opposite box a b index
  rw [on_line, sub_zero] at sum
  have side : ∀ p : Fin 4, cross (box.corner p) (box.corner (p + 1)) (box.corner index) ≠ 0 →
      cross a b (box.corner p) * cross a b (box.corner (p + 1)) < 0 →
      ∃ index, Crosses a b (box.corner index) (box.corner (index + 1)) :=
    fun p far apart => ⟨p, Box.crosses_of_corner outside outside' on_leg (proper.corner_mem _) (proper.corner_mem _)
      (proper.corner_mem _) far apart⟩
  have far1 : cross (box.corner (index + 1)) (box.corner (index + 2)) (box.corner index) ≠ 0 := by
    rw [cross_rotate]
    rwa [Box.cross_corners]
  have far2 : cross (box.corner (index + 2)) (box.corner (index + 3)) (box.corner index) ≠ 0 := by
    have turned := @Box.cross_corners box (index + 2)
    rw [show index + 2 + 1 = index + 3 from by rw [add_assoc]; rfl,
      show index + 2 + 2 = index from by rw [add_assoc]; exact add_zero index] at turned
    rwa [turned]
  have next : index + 1 + 1 = index + 2 := by rw [add_assoc]; rfl
  have last : index + 2 + 1 = index + 3 := by rw [add_assoc]; rfl
  -- the opposite corner lies on the side of one neighbour, and so away from the other
  rcases lt_or_gt_of_ne opposite with below | above
  · rcases mul_neg_iff.mp apart with ⟨first, third⟩ | ⟨first, third⟩
    · exact side (index + 1) (by rwa [next]) (by rw [next]; exact mul_neg_of_pos_of_neg first below)
    · exact side (index + 2) (by rwa [last]) (by rw [last]; exact mul_neg_of_neg_of_pos below third)
  · rcases mul_neg_iff.mp apart with ⟨first, third⟩ | ⟨first, third⟩
    · exact side (index + 2) (by rwa [last]) (by rw [last]; exact mul_neg_of_pos_of_neg above third)
    · exact side (index + 1) (by rwa [next]) (by rw [next]; exact mul_neg_of_neg_of_pos first above)

/-- A leg through a corner that does not tell its neighbours apart, or with the opposite corner on its line,
crosses no side. -/
theorem not_crosses_of_corner {index : Fin 4} (on_leg : box.corner index ∈ segment ℚ a b)
    (level : ¬ (cross a b (box.corner (index + 1)) * cross a b (box.corner (index + 3)) < 0 ∧
      cross a b (box.corner (index + 2)) ≠ 0)) (other : Fin 4) :
    ¬ Crosses a b (box.corner other) (box.corner (other + 1)) := by
  intro crosses
  have apart := crosses.1
  have on_line := cross_of_mem_segment on_leg
  have sum := @Box.cross_opposite box a b index
  rw [on_line, sub_zero] at sum
  obtain ⟨k, rfl⟩ : ∃ k, other = index + k := ⟨other - index, (add_sub_cancel _ _).symm⟩
  rw [add_assoc] at apart
  apply level
  fin_cases k
  · change cross a b (box.corner (index + 0)) * _ < 0 at apart
    rw [add_zero, on_line, zero_mul] at apart
    exact absurd apart (lt_irrefl _)
  · change cross a b (box.corner (index + 1)) * cross a b (box.corner (index + 2)) < 0 at apart
    rw [sum] at apart ⊢
    constructor
    · nlinarith [mul_self_nonneg (cross a b (box.corner (index + 1)))]
    · intro zero
      rw [zero, mul_zero] at apart
      exact lt_irrefl _ apart
  · change cross a b (box.corner (index + 2)) * cross a b (box.corner (index + 3)) < 0 at apart
    rw [sum] at apart ⊢
    constructor
    · nlinarith [mul_self_nonneg (cross a b (box.corner (index + 3)))]
    · intro zero
      rw [zero, zero_mul] at apart
      exact lt_irrefl _ apart
  · change _ * cross a b (box.corner (index + 0)) < 0 at apart
    rw [add_zero, on_line, mul_zero] at apart
    exact absurd apart (lt_irrefl _)

end

/-- **`segment_intersects_slot` is true exactly of the legs that meet the closed rectangle, unless the leg only
touches a corner, runs through two opposite corners or along a side.** -/
theorem intersects_exact_iff (a b : ℚ × ℚ) (slot : SlotRef) (halfWidth halfHeight margin : ℚ) (wide : 0 ≤ halfWidth)
    (high : 0 ≤ halfHeight) (margin_nonneg : 0 ≤ margin) :
    (segmentIntersectsSlot a b slot halfWidth halfHeight margin = true ↔
        (segment ℚ a b ∩ slotSpace slot halfWidth halfHeight margin).Nonempty) ↔
      Exact (slotSpace slot halfWidth halfHeight margin) (slotCorner slot halfWidth halfHeight margin) a b := by
  have proper : (expandedBox slot halfWidth halfHeight margin).Proper := by
    constructor
    · show slot.x - halfWidth - margin ≤ slot.x + halfWidth + margin
      linarith
    · show slot.y - halfHeight - margin ≤ slot.y + halfHeight + margin
      linarith
  rw [segmentIntersectsSlot_iff, ← region_expandedBox, ← corner_expandedBox]
  generalize expandedBox slot halfWidth halfHeight margin = box at proper ⊢
  unfold Exact
  by_cases start : a ∈ box.region
  · exact iff_of_true (iff_of_true (.inl start) ⟨a, left_mem_segment ℚ a b, start⟩) (.inl start)
  by_cases stop : b ∈ box.region
  · exact iff_of_true (iff_of_true (.inr (.inl stop)) ⟨b, right_mem_segment ℚ a b, stop⟩) (.inr (.inl stop))
  rw [or_iff_right start, or_iff_right stop, or_iff_right start, or_iff_right stop]
  constructor
  · intro exact_ index on_leg
    by_contra level
    obtain ⟨other, crosses⟩ := exact_.mpr ⟨_, on_leg, proper.corner_mem index⟩
    exact not_crosses_of_corner on_leg level other crosses
  · intro apart
    constructor
    · intro ⟨index, crosses⟩
      exact meets_of_crosses proper crosses
    · intro ⟨x, on_leg, inside⟩
      by_cases through : ∃ index, box.corner index ∈ segment ℚ a b
      · obtain ⟨index, through⟩ := through
        exact exists_crosses_of_corner proper start stop through (apart index through).1 (apart index through).2
      · obtain ⟨index, hit⟩ := Box.exists_hit start on_leg inside
        exact ⟨index, hit.crosses start stop proper fun index through' => through ⟨index, through'⟩⟩

/-- A leg along the diagonal of a slot is not seen to cut through it. -/
theorem diagonal_missed :
    segmentIntersectsSlot (-2, -2) (2, 2) ⟨"A-01", 0, 0⟩ 1 1 0 = false ∧
      ((0, 0) : ℚ × ℚ) ∈ segment ℚ (-2, -2) (2, 2) ∩ slotSpace ⟨"A-01", 0, 0⟩ 1 1 0 := by
  refine ⟨by decide +kernel, ?_, ?_⟩
  · exact mem_segment_iff.mpr ⟨1 / 2, by norm_num, by norm_num, by decide +kernel⟩
  · exact ⟨by norm_num, by norm_num⟩

/-- A leg through the middle of a slot. -/
theorem middle_exact :
    segmentIntersectsSlot (-2, 0) (2, 0) ⟨"A-01", 0, 0⟩ 1 1 0 = true ↔
      (segment ℚ (-2, 0) (2, 0) ∩ slotSpace ⟨"A-01", 0, 0⟩ 1 1 0).Nonempty := by
  apply (intersects_exact_iff (-2, 0) (2, 0) ⟨"A-01", 0, 0⟩ 1 1 0 (by decide) (by decide) (by decide)).mpr
  have off : ∀ index, cross (-2, 0) (2, 0) (slotCorner ⟨"A-01", 0, 0⟩ 1 1 0 index) ≠ 0 := by
    decide +kernel
  exact .inr (.inr fun index through => absurd (cross_of_mem_segment through) (off index))

end Firebot.Navigation
