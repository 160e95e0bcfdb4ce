import Mathlib.Analysis.Convex.Segment
import Mathlib.Tactic.FieldSimp
import Mathlib.Tactic.LinearCombination
import Mathlib.Tactic.Linarith
import Mathlib.Tactic.Ring

/-!
# Points and segments of the plane

The plane over an ordered field. `cross o a b` tells on which side of the line from `o` through `a` a point
`b` lies: it is the orientation that geometric programs compute. It is affine in its last argument
(`cross_along`), and what a segment does to a line is read off from that.

`Crosses` is the strict test: the ends of each segment lie strictly on different sides of the other. Two
segments that cross have a point in common, and two that have an inner point in common and do not lie on one
line cross. `Touches` is the test that allows zeros: it holds of segments with a common point, and of all segments
of one line (`touches_iff`).
-/

namespace Plane

universe u

variable {K : Type u} [Field K]

/-- Which side of the line through `o` and `a` the point `b` is on. -/
def cross (o a b : K × K) : K := (a.1 - o.1) * (b.2 - o.2) - (a.2 - o.2) * (b.1 - o.1)

/-- The point at a parameter of the line through two points. -/
def along (a b : K × K) (t : K) : K × K := (a.1 + t * (b.1 - a.1), a.2 + t * (b.2 - a.2))

/-- The line starts at its first point. -/
@[simp] theorem along_zero (a b : K × K) : along a b 0 = a := by simp [along]

/-- The line comes to its second point. -/
@[simp] theorem along_one (a b : K × K) : along a b 1 = b := by simp [along]

/-- The first two points are equal, and span no area. -/
@[simp] theorem cross_self_left (a b : K × K) : cross a a b = 0 := by simp [cross]

/-- The last two points are equal, and span no area. -/
@[simp] theorem cross_self_right (a b : K × K) : cross a b b = 0 := by
  unfold cross
  ring

/-- The first and the last point are equal, and span no area. -/
@[simp] theorem cross_self_outer (a b : K × K) : cross a b a = 0 := by simp [cross]

/-- The area is the same from every corner. -/
theorem cross_rotate (a b c : K × K) : cross b c a = cross a b c := by
  unfold cross
  ring

/-- The side is affine along a line. -/
theorem cross_along (o p a b : K × K) (t : K) :
    cross o p (along a b t) = (1 - t) * cross o p a + t * cross o p b := by
  unfold cross along
  ring

/-- Every point of a line is reached along it. -/
theorem exists_along {a b p : K × K} (apart : a ≠ b) (on_line : cross a b p = 0) : ∃ t, p = along a b t := by
  unfold cross at on_line
  by_cases level : a.1 = b.1
  · have upright : b.2 - a.2 ≠ 0 := by
      intro same
      exact apart (Prod.ext level (sub_eq_zero.mp same).symm)
    refine ⟨(p.2 - a.2) / (b.2 - a.2), ?_⟩
    unfold along
    rw [div_mul_cancel₀ _ upright, level, sub_self, mul_zero, add_zero, add_sub_cancel]
    rw [level, sub_self, zero_mul, zero_sub, neg_eq_zero] at on_line
    have first := (mul_eq_zero.mp on_line).resolve_left upright
    exact Prod.ext (sub_eq_zero.mp first) rfl
  · have slanted : b.1 - a.1 ≠ 0 := fun same => level (sub_eq_zero.mp same).symm
    refine ⟨(p.1 - a.1) / (b.1 - a.1), ?_⟩
    unfold along
    refine Prod.ext ?_ ?_
    · show p.1 = a.1 + (p.1 - a.1) / (b.1 - a.1) * (b.1 - a.1)
      rw [div_mul_cancel₀ _ slanted, add_sub_cancel]
    · show p.2 = a.2 + (p.1 - a.1) / (b.1 - a.1) * (b.2 - a.2)
      field_simp
      linear_combination on_line

variable [LinearOrder K] [IsStrictOrderedRing K]

/-- The points of a segment by their parameter. -/
theorem mem_segment_iff {a b p : K × K} :
    p ∈ segment K a b ↔ ∃ t, 0 ≤ t ∧ t ≤ 1 ∧ p = along a b t := by
  rw [segment_eq_image']
  constructor
  · intro ⟨t, range, same⟩
    exact ⟨t, range.1, range.2, same.symm⟩
  · intro ⟨t, lower, upper, same⟩
    exact ⟨t, ⟨lower, upper⟩, same.symm⟩

/-- The points strictly between the ends. -/
theorem mem_openSegment_iff {a b p : K × K} :
    p ∈ openSegment K a b ↔ ∃ t, 0 < t ∧ t < 1 ∧ p = along a b t := by
  rw [openSegment_eq_image']
  constructor
  · intro ⟨t, range, same⟩
    exact ⟨t, range.1, range.2, same.symm⟩
  · intro ⟨t, lower, upper, same⟩
    exact ⟨t, ⟨lower, upper⟩, same.symm⟩

/-- A point of a segment is on its line. -/
theorem cross_of_mem_segment {a b p : K × K} (h : p ∈ segment K a b) : cross a b p = 0 := by
  obtain ⟨t, _, _, rfl⟩ := mem_segment_iff.mp h
  rw [cross_along, cross_self_outer, cross_self_right]
  ring

/-- Between two points of a line lie the points with a parameter between theirs. -/
theorem along_mem_segment {a b : K × K} {r s t : K} (lower : s ≤ r) (upper : r ≤ t) :
    along a b r ∈ segment K (along a b s) (along a b t) := by
  rcases eq_or_lt_of_le (lower.trans upper) with same | apart
  · rw [le_antisymm (upper.trans same.ge) lower]
    exact left_mem_segment K _ _
  · have span : 0 < t - s := sub_pos.mpr apart
    refine mem_segment_iff.mpr ⟨(r - s) / (t - s), div_nonneg (sub_nonneg.mpr lower) span.le, ?_, ?_⟩
    · rw [div_le_one span]
      linarith
    · have back : (r - s) / (t - s) * (t - s) = r - s := div_mul_cancel₀ _ span.ne'
      unfold along
      refine Prod.ext ?_ ?_
      · show a.1 + r * (b.1 - a.1) = _ + _ * (a.1 + t * (b.1 - a.1) - (a.1 + s * (b.1 - a.1)))
        linear_combination -(b.1 - a.1) * back
      · show a.2 + r * (b.2 - a.2) = _ + _ * (a.2 + t * (b.2 - a.2) - (a.2 + s * (b.2 - a.2)))
        linear_combination -(b.2 - a.2) * back

/-! ## Crossing segments -/

/-- Each segment has its ends strictly on different sides of the other. -/
def Crosses (a b p q : K × K) : Prop :=
  cross a b p * cross a b q < 0 ∧ cross p q a * cross p q b < 0

/-- An affine function with values of different signs at the ends has a zero strictly between them. -/
theorem ratio_of_mul_neg {x y : K} (apart : x * y < 0) : 0 < x / (x - y) ∧ x / (x - y) < 1 := by
  rcases mul_neg_iff.mp apart with ⟨left, right⟩ | ⟨left, right⟩
  · have span : 0 < x - y := by linarith
    exact ⟨div_pos left span, (div_lt_one span).mpr (by linarith)⟩
  · have span : x - y < 0 := by linarith
    refine ⟨div_pos_of_neg_of_neg left span, ?_⟩
    rw [div_lt_one_of_neg span]
    linarith

omit [LinearOrder K] [IsStrictOrderedRing K] in
/-- What the ends of each segment make of the other differs by the same. -/
theorem cross_sub_cross (a b p q : K × K) : cross a b p - cross a b q = -(cross p q a - cross p q b) := by
  unfold cross
  ring

omit [LinearOrder K] [IsStrictOrderedRing K] in
/-- The lines of two segments that are not parallel meet where each has its zero. -/
theorem along_eq_along {a b p q : K × K} (span : cross p q a - cross p q b ≠ 0) :
    along a b (cross p q a / (cross p q a - cross p q b)) = along p q (cross a b p / (cross a b p - cross a b q)) := by
  rw [cross_sub_cross a b p q, div_neg]
  unfold along
  refine Prod.ext ?_ ?_
  · show a.1 + _ * _ = p.1 + _ * _
    field_simp
    unfold cross
    ring
  · show a.2 + _ * _ = p.2 + _ * _
    field_simp
    unfold cross
    ring

/-- Segments that cross meet in an inner point of both. -/
theorem Crosses.exists_common {a b p q : K × K} (h : Crosses a b p q) :
    ∃ x, x ∈ openSegment K a b ∧ x ∈ openSegment K p q := by
  obtain ⟨lower, upper⟩ := ratio_of_mul_neg h.2
  obtain ⟨lower', upper'⟩ := ratio_of_mul_neg h.1
  refine ⟨_, mem_openSegment_iff.mpr ⟨_, lower, upper, rfl⟩,
    mem_openSegment_iff.mpr ⟨_, lower', upper', along_eq_along ?_⟩⟩
  intro flat
  rw [flat, div_zero] at lower
  exact lt_irrefl _ lower

/-- Two segments with an inner point in common cross, unless they lie on one line. -/
theorem crosses_of_common {a b p q x : K × K} (first : x ∈ openSegment K a b) (second : x ∈ openSegment K p q)
    (off : cross p q a ≠ 0) : Crosses a b p q := by
  obtain ⟨t, positive, below, rfl⟩ := mem_openSegment_iff.mp first
  obtain ⟨u, positive', below', same⟩ := mem_openSegment_iff.mp second
  have opposite : ∀ {s y z : K}, 0 < s → s < 1 → (1 - s) * y + s * z = 0 → y ≠ 0 → y * z < 0 := by
    intro s y z lower upper zero nonzero
    have balance : s * z = -((1 - s) * y) := by linear_combination zero
    have square : 0 < (1 - s) * (y * y) := mul_pos (by linarith) (mul_self_pos.mpr nonzero)
    have weighted : s * (y * z) < 0 := by
      have : s * (y * z) = -((1 - s) * (y * y)) := by linear_combination y * balance
      linarith
    exact (pos_iff_neg_of_mul_neg weighted).mp lower
  have zero : (1 - t) * cross p q a + t * cross p q b = 0 := by
    rw [← cross_along, same, cross_along, cross_self_outer, cross_self_right]
    ring
  have zero' : (1 - u) * cross a b p + u * cross a b q = 0 := by
    rw [← cross_along, ← same, cross_along, cross_self_outer, cross_self_right]
    ring
  have sides : cross p q a * cross p q b < 0 := opposite positive below zero off
  refine ⟨opposite positive' below' zero' ?_, sides⟩
  -- were `p` on the line of the other segment, so would `q` be, and all four points on one line
  intro flat
  rw [flat, mul_zero, zero_add] at zero'
  have flat' : cross a b q = 0 := (mul_eq_zero.mp zero').resolve_left positive'.ne'
  have level : cross p q a = cross p q b := by
    have turned : cross p q a - cross p q b = -(cross a b p - cross a b q) := by
      unfold cross
      ring
    rw [flat, flat', sub_self, neg_zero] at turned
    exact sub_eq_zero.mp turned
  rw [level] at sides
  exact absurd sides (not_lt.mpr (mul_self_nonneg _))

/-! ## Touching segments -/

/-- No segment has its ends strictly on one side of the other. -/
def Touches (a b p q : K × K) : Prop :=
  cross a b p * cross a b q ≤ 0 ∧ cross p q a * cross p q b ≤ 0

/-- The second segment lies on the line of the first. -/
def Aligned (a b p q : K × K) : Prop := cross a b p = 0 ∧ cross a b q = 0

/-- A segment with a point on a line does not have both ends strictly on one side of it. -/
theorem mul_nonpos_of_mem {a b p q x : K × K} (mem : x ∈ segment K p q) (on_line : cross a b x = 0) :
    cross a b p * cross a b q ≤ 0 := by
  obtain ⟨t, lower, upper, rfl⟩ := mem_segment_iff.mp mem
  rw [cross_along] at on_line
  have product : cross a b p * cross a b q = -((1 - t) * cross a b p ^ 2 + t * cross a b q ^ 2) := by
    linear_combination (cross a b p + cross a b q) * on_line
  rw [product, neg_nonpos]
  exact add_nonneg (mul_nonneg (sub_nonneg.mpr upper) (sq_nonneg _)) (mul_nonneg lower (sq_nonneg _))

/-- Segments with a common point pass the test of the sides. -/
theorem touches_of_common {a b p q x : K × K} (first : x ∈ segment K a b) (second : x ∈ segment K p q) :
    Touches a b p q :=
  ⟨mul_nonpos_of_mem second (cross_of_mem_segment first), mul_nonpos_of_mem first (cross_of_mem_segment second)⟩

/-- Where the line through two values of opposite signs is zero. -/
theorem ratio_of_mul_nonpos {x y : K} (apart : x * y ≤ 0) (span : x - y ≠ 0) :
    0 ≤ x / (x - y) ∧ x / (x - y) ≤ 1 := by
  rcases lt_or_gt_of_ne span with below | above
  · have signs : x ≤ 0 ∧ 0 ≤ y := by
      constructor <;> nlinarith
    refine ⟨div_nonneg_of_nonpos signs.1 below.le, ?_⟩
    rw [div_le_one_of_neg below]
    linarith
  · have signs : 0 ≤ x ∧ y ≤ 0 := by
      constructor <;> nlinarith
    refine ⟨div_nonneg signs.1 above.le, ?_⟩
    rw [div_le_one above]
    linarith

/-- Segments that touch have a point in common, unless they lie on one line. -/
theorem Touches.exists_common {a b p q : K × K} (h : Touches a b p q) (off : ¬ Aligned a b p q) :
    ∃ x, x ∈ segment K a b ∧ x ∈ segment K p q := by
  have span' : cross a b p - cross a b q ≠ 0 := by
    intro flat
    have same := sub_eq_zero.mp flat
    have square := h.1
    rw [same] at square
    have zero := mul_self_eq_zero.mp (le_antisymm square (mul_self_nonneg _))
    exact off ⟨same.trans zero, zero⟩
  have span : cross p q a - cross p q b ≠ 0 := by
    intro flat
    rw [cross_sub_cross, flat, neg_zero] at span'
    exact span' rfl
  obtain ⟨lower, upper⟩ := ratio_of_mul_nonpos h.2 span
  obtain ⟨lower', upper'⟩ := ratio_of_mul_nonpos h.1 span'
  exact ⟨_, mem_segment_iff.mpr ⟨_, lower, upper, rfl⟩, mem_segment_iff.mpr ⟨_, lower', upper', along_eq_along span⟩⟩

omit [IsStrictOrderedRing K] in
/-- On one line the ends are on no side at all. -/
theorem Aligned.touches {a b p q : K × K} (h : Aligned a b p q) (apart : a ≠ b) : Touches a b p q := by
  obtain ⟨s, rfl⟩ := exists_along apart h.1
  obtain ⟨t, rfl⟩ := exists_along apart h.2
  have flat : cross (along a b s) (along a b t) a = 0 := by
    unfold cross along
    ring
  exact ⟨by rw [h.1, zero_mul], by rw [flat, zero_mul]⟩

/-- The test of the sides finds a common point, or all four points on one line. -/
theorem touches_iff {a b p q : K × K} (apart : a ≠ b) :
    Touches a b p q ↔ Aligned a b p q ∨ ∃ x, x ∈ segment K a b ∧ x ∈ segment K p q := by
  constructor
  · intro touch
    by_cases flat : Aligned a b p q
    · exact .inl flat
    · exact .inr (touch.exists_common flat)
  · rintro (flat | ⟨x, first, second⟩)
    · exact flat.touches apart
    · exact touches_of_common first second

end Plane
