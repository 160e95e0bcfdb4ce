import Mathlib.Analysis.Convex.Basic
import Mathlib.Data.Set.Disjoint
import Mathlib.Order.CompletePartialOrder
import Firebot.Lib.Plane

/-!
# Closed polygons and the even-odd rule

A polygon is the list of its vertices, and its edges join each vertex to the next one and the last to the first.
`odd p polygon` counts the edges that the ray from `p` to the right passes, a level edge not at all and an edge's
lower end but not its upper one, and says whether their number is odd. The region is the boundary with the points
that have an odd number.

The number of a point stays odd, or even, along a segment that does not meet the boundary (`odd_eq_of_disjoint`):
what the rays from the two ends make of an edge differs exactly if one end of the edge lies in the half strip to
the right of the segment and the other does not, and this cancels around the polygon. So two regions have a point
in common exactly if two edges do or a vertex of one is odd for the other (`regions_meet_iff`).
-/

namespace Plane

universe u

variable {K : Type u} [Field K] [LinearOrder K] [IsStrictOrderedRing K]

/-! ## Polygons -/

/-- The edges from the first of some vertices on; the last one leads back. -/
def edgesFrom (first : K × K) : List (K × K) → List ((K × K) × (K × K))
  | [] => []
  | [last] => [(last, first)]
  | a :: b :: rest => (a, b) :: edgesFrom first (b :: rest)

/-- The edges of a closed polygon. -/
def edges : List (K × K) → List ((K × K) × (K × K))
  | [] => []
  | a :: rest => edgesFrom a (a :: rest)

/-- A simple polygon: three vertices at least, none of them twice, and two edges have no point in common but the end
of one at which the other begins. -/
structure Simple (polygon : List (K × K)) : Prop where
  size : 3 ≤ polygon.length
  distinct : polygon.Nodup
  plain : ∀ e ∈ edges polygon, ∀ f ∈ edges polygon, e ≠ f → ∀ p, p ∈ segment K e.1 e.2 → p ∈ segment K f.1 f.2 →
    (p = e.1 ∧ p = f.2) ∨ (p = e.2 ∧ p = f.1)

/-- The points of the edges. -/
def boundary (polygon : List (K × K)) : Set (K × K) := {p | ∃ e ∈ edges polygon, p ∈ segment K e.1 e.2}

/-- The point of a line at a height. -/
def level (a b : K × K) (y : K) : K × K := along a b ((y - a.2) / (b.2 - a.2))

/-- The ray from a point to the right passes an edge. -/
def passes (p a b : K × K) : Bool := xor (p.2 < a.2) (p.2 < b.2) && p.1 < (level a b p.2).1

/-- The ray from a point to the right passes an odd number of edges. -/
def odd (p : K × K) (polygon : List (K × K)) : Bool :=
  (edges polygon).foldr (fun e others => xor (passes p e.1 e.2) others) false

/-- The closed region of a polygon. -/
def region (polygon : List (K × K)) : Set (K × K) := {p | p ∈ boundary polygon ∨ odd p polygon = true}

section

omit [Field K] [LinearOrder K] [IsStrictOrderedRing K]

variable {first : K × K} {list polygon : List (K × K)}

/-- One edge for each vertex that is still to come. -/
@[simp] theorem edgesFrom_length : (edgesFrom first list).length = list.length := by
  induction list using edgesFrom.induct with
  | case1 => rfl
  | case2 => rfl
  | case3 a b rest ih => exact congrArg Nat.succ ih

/-- A polygon has as many edges as vertices. -/
@[simp] theorem edges_length : (edges polygon).length = polygon.length := by
  cases polygon with
  | nil => rfl
  | cons a rest => exact edgesFrom_length

/-- Each edge begins at its vertex and ends at the next one, the last edge at the first vertex. -/
theorem edgesFrom_getElem? {i : Nat} (inside : i < list.length) :
    (edgesFrom first list)[i]? = some (list[i], list.getD (i + 1) first) := by
  induction list using edgesFrom.induct generalizing i with
  | case1 => exact absurd inside (Nat.not_lt_zero i)
  | case2 a =>
    cases i with
    | zero => rfl
    | succ i => exact absurd inside (by simp)
  | case3 a b rest ih =>
    cases i with
    | zero => rfl
    | succ i => exact ih (Nat.lt_of_succ_lt_succ inside)

/-- The edges of a list without repetition have two ends. -/
theorem edgesFrom_ne (distinct : list.Nodup) (fresh : first ∉ list) : ∀ e ∈ edgesFrom first list, e.1 ≠ e.2 := by
  induction list using edgesFrom.induct with
  | case1 => exact fun _ mem => absurd mem List.not_mem_nil
  | case2 a =>
    intro e mem
    rw [edgesFrom, List.mem_singleton] at mem
    rw [mem]
    exact fun same => fresh (List.mem_singleton.mpr same.symm)
  | case3 a b rest ih =>
    rintro e (_ | ⟨_, mem⟩)
    · exact fun same => (List.nodup_cons.mp distinct).1 (List.mem_cons.mpr (.inl same))
    · exact ih (List.nodup_cons.mp distinct).2 (fun later => fresh (List.mem_cons_of_mem a later)) e mem

end

omit [IsStrictOrderedRing K] in
/-- The ends of an edge of a simple polygon are two points. -/
theorem Simple.edge_ne {polygon : List (K × K)} (simple : Simple polygon) : ∀ e ∈ edges polygon, e.1 ≠ e.2 := by
  obtain ⟨size, distinct, -⟩ := simple
  match polygon with
  | [] | [_] => exact absurd size (by simp)
  | a :: b :: rest =>
    rintro e (_ | ⟨_, mem⟩)
    · exact fun same => (List.nodup_cons.mp distinct).1 (List.mem_cons.mpr (.inl same))
    · exact edgesFrom_ne (List.nodup_cons.mp distinct).2 (List.nodup_cons.mp distinct).1 e mem

/-! ## Points at a height -/

variable {a b p q : K × K} {y : K}

omit [LinearOrder K] [IsStrictOrderedRing K] in
/-- The point of an edge at a height lies at that height. -/
theorem level_snd (slanted : a.2 ≠ b.2) : (level a b y).2 = y := by
  have span : b.2 - a.2 ≠ 0 := sub_ne_zero.mpr slanted.symm
  show a.2 + (y - a.2) / (b.2 - a.2) * (b.2 - a.2) = y
  rw [div_mul_cancel₀ _ span, add_sub_cancel]

omit [LinearOrder K] [IsStrictOrderedRing K] in
/-- It is the same from either end. -/
theorem level_swap (slanted : a.2 ≠ b.2) : level a b y = level b a y := by
  have span : b.2 - a.2 ≠ 0 := sub_ne_zero.mpr slanted.symm
  have span' : a.2 - b.2 ≠ 0 := sub_ne_zero.mpr slanted
  refine Prod.ext ?_ ?_
  · show a.1 + (y - a.2) / (b.2 - a.2) * (b.1 - a.1) = b.1 + (y - b.2) / (a.2 - b.2) * (a.1 - b.1)
    field_simp
    ring
  · rw [level_snd slanted, level_snd slanted.symm]

/-- It is on the edge at the heights between the ends. -/
theorem level_mem_segment (lower : a.2 ≤ y) (upper : y < b.2) : level a b y ∈ segment K a b := by
  have span : 0 < b.2 - a.2 := by linarith
  refine mem_segment_iff.mpr ⟨_, div_nonneg (sub_nonneg.mpr lower) span.le, ?_, rfl⟩
  rw [div_le_one span]
  linarith

omit [IsStrictOrderedRing K] in
/-- A ray passes an edge in either direction. -/
theorem passes_swap : passes p a b = passes p b a := by
  unfold passes
  by_cases slanted : a.2 = b.2
  · rw [slanted, Bool.xor_self, Bool.false_and, Bool.false_and]
  · rw [level_swap slanted, Bool.xor_comm]

/-! ## The half strip to the right of a segment -/

/-- A point lies in the half strip to the right of a segment. -/
def strip (p q a : K × K) : Bool := decide (p.2 < a.2) && !decide (q.2 < a.2) && decide (cross p q a < 0)

/-- A segment between the heights of two points that does not meet theirs lies on one side of it. -/
theorem side_eq_of_disjoint (rising : p.2 < q.2) (lower : p.2 ≤ a.2 ∧ p.2 ≤ b.2) (upper : a.2 ≤ q.2 ∧ b.2 ≤ q.2)
    (apart : Disjoint (segment K p q) (segment K a b)) (right : cross p q a < 0) : cross p q b < 0 := by
  by_contra left
  have span : cross p q a - cross p q b < 0 := by linarith
  let t := cross p q a / (cross p q a - cross p q b)
  have range : 0 ≤ t ∧ t ≤ 1 := by
    refine ⟨div_nonneg_of_nonpos right.le span.le, ?_⟩
    rw [div_le_one_of_neg span]
    linarith
  have on_line : cross p q (along a b t) = 0 := by
    have back : t * (cross p q a - cross p q b) = cross p q a := div_mul_cancel₀ _ span.ne
    rw [cross_along]
    linear_combination -back
  obtain ⟨s, same⟩ := exists_along (fun same => rising.ne (by rw [same])) on_line
  have height : p.2 + s * (q.2 - p.2) = a.2 + t * (b.2 - a.2) := (congrArg Prod.snd same).symm
  have within : 0 ≤ s ∧ s ≤ 1 := by
    have tall : 0 < q.2 - p.2 := by linarith
    have above : 0 ≤ s * (q.2 - p.2) := by nlinarith [lower.1, lower.2, range.1, range.2]
    have below : s * (q.2 - p.2) ≤ 1 * (q.2 - p.2) := by nlinarith [upper.1, upper.2, range.1, range.2]
    exact ⟨nonneg_of_mul_nonneg_left above tall, le_of_mul_le_mul_right below tall⟩
  refine Set.disjoint_left.mp apart (mem_segment_iff.mpr ⟨s, within.1, within.2, same⟩) ?_
  exact mem_segment_iff.mpr ⟨t, range.1, range.2, rfl⟩

/-- The ends of an edge within the heights of another one lie on the same side of it, when the two do not meet.
-/
theorem side_iff_of_disjoint (rising : p.2 < q.2) (lower : p.2 ≤ a.2 ∧ p.2 ≤ b.2) (upper : a.2 ≤ q.2 ∧ b.2 ≤ q.2)
    (apart : Disjoint (segment K p q) (segment K a b)) : cross p q a < 0 ↔ cross p q b < 0 := by
  constructor
  · exact side_eq_of_disjoint rising lower upper apart
  · rw [segment_symm K a b] at apart
    exact side_eq_of_disjoint rising lower.symm upper.symm apart

/-- At the height of the lower end, right of the segment is right of that end. -/
theorem side_low (rising : p.2 < q.2) (height : a.2 = p.2) : cross p q a < 0 ↔ p.1 < a.1 := by
  have product : cross p q a = -((q.2 - p.2) * (a.1 - p.1)) := by
    unfold cross
    rw [height]
    ring
  rw [product, neg_lt_zero, mul_pos_iff_of_pos_left (sub_pos.mpr rising), sub_pos]

/-- At the height of the upper end, the side is the comparison of the abscissas. -/
theorem side_high (rising : p.2 < q.2) (height : a.2 = q.2) : cross p q a < 0 ↔ q.1 < a.1 := by
  have product : cross p q a = -((q.2 - p.2) * (a.1 - q.1)) := by
    unfold cross
    rw [height]
    ring
  rw [product, neg_lt_zero, mul_pos_iff_of_pos_left (sub_pos.mpr rising), sub_pos]

/-- The same points of an edge, at the heights of the two ends of a level segment, are on one side of it. -/
theorem level_side (flat : p.2 = q.2) (height : a.2 = p.2) (off : a ∉ segment K p q) (right : p.1 < a.1) :
    q.1 < a.1 := by
  by_contra left
  have span : 0 < q.1 - p.1 := by linarith
  refine off (mem_segment_iff.mpr ⟨(a.1 - p.1) / (q.1 - p.1), div_nonneg (by linarith) span.le, ?_, ?_⟩)
  · rw [div_le_one span]
    linarith
  · refine Prod.ext ?_ ?_
    · show a.1 = p.1 + (a.1 - p.1) / (q.1 - p.1) * (q.1 - p.1)
      rw [div_mul_cancel₀ _ span.ne', add_sub_cancel]
    · show a.2 = p.2 + _ * (q.2 - p.2)
      rw [← flat, sub_self, mul_zero, add_zero, height]

/-- What the rays from the ends of a segment make of an edge that it does not meet differs exactly if one end of the
edge is in the half strip and the other is not. -/
theorem xor_passes_of_le (rising : p.2 ≤ q.2) (upward : a.2 ≤ b.2) (apart : Disjoint (segment K p q) (segment K a b)) :
    xor (passes p a b) (passes q a b) = xor (strip p q a) (strip p q b) := by
  have sub : ∀ {c d}, c ∈ segment K a b → d ∈ segment K a b → Disjoint (segment K p q) (segment K c d) :=
    fun in_ in_' => apart.mono_right ((convex_segment a b).segment_subset in_ in_')
  have first := left_mem_segment K a b
  have last := right_mem_segment K a b
  unfold passes strip
  by_cases pa : p.2 < a.2
  · have pb : p.2 < b.2 := pa.trans_le upward
    by_cases qa : q.2 < a.2
    · have qb : q.2 < b.2 := qa.trans_le upward
      simp [pa, pb, qa, qb]
    · have tall : p.2 < q.2 := pa.trans_le (not_lt.mp qa)
      by_cases qb : q.2 < b.2
      · have within := level_mem_segment (not_lt.mp qa) qb
        have height : (level a b q.2).2 = q.2 := level_snd (by linarith : a.2 < b.2).ne
        have side := side_iff_of_disjoint tall ⟨pa.le, by rw [height]; exact tall.le⟩ ⟨not_lt.mp qa, height.le⟩
          (sub first within)
        rw [side_high tall height] at side
        simp [pa, pb, qa, qb, side]
      · have side := side_iff_of_disjoint tall ⟨pa.le, pb.le⟩ ⟨not_lt.mp qa, not_lt.mp qb⟩ apart
        simp [pa, pb, qa, qb, side]
  · have qa : ¬ q.2 < a.2 := fun h => pa (rising.trans_lt h)
    by_cases pb : p.2 < b.2
    · have within := level_mem_segment (not_lt.mp pa) pb
      have height : (level a b p.2).2 = p.2 := level_snd (by linarith : a.2 < b.2).ne
      by_cases qb : q.2 < b.2
      · have within' := level_mem_segment (not_lt.mp qa) qb
        have height' : (level a b q.2).2 = q.2 := level_snd (by linarith : a.2 < b.2).ne
        have same : p.1 < (level a b p.2).1 ↔ q.1 < (level a b q.2).1 := by
          rcases eq_or_lt_of_le rising with flat | tall
          · rw [← flat]
            have off : level a b p.2 ∉ segment K p q := fun mem => Set.disjoint_left.mp apart mem within
            constructor
            · exact level_side flat height off
            · rw [segment_symm] at off
              exact level_side flat.symm (height.trans flat) off
          · have side := side_iff_of_disjoint tall ⟨height.ge, by rw [height']; exact tall.le⟩
              ⟨by rw [height]; exact tall.le, height'.le⟩ (sub within within')
            rwa [side_low tall height, side_high tall height'] at side
        simp [pa, pb, qa, qb, same]
      · have tall : p.2 < q.2 := pb.trans_le (not_lt.mp qb)
        have side := side_iff_of_disjoint tall ⟨height.ge, pb.le⟩ ⟨by rw [height]; exact tall.le, not_lt.mp qb⟩
          (sub within last)
        rw [side_low tall height] at side
        simp [pa, pb, qa, qb, side]
    · have qb : ¬ q.2 < b.2 := fun h => pb (rising.trans_lt h)
      simp [pa, pb, qa, qb]

/-- The rays of two ends are told apart by the ends of the other edges in the strip between them. -/
theorem xor_passes (rising : p.2 ≤ q.2) (apart : Disjoint (segment K p q) (segment K a b)) :
    xor (passes p a b) (passes q a b) = xor (strip p q a) (strip p q b) := by
  rcases le_total a.2 b.2 with upward | downward
  · exact xor_passes_of_le rising upward apart
  · rw [segment_symm K a b] at apart
    rw [@passes_swap _ _ _ a b p, @passes_swap _ _ _ a b q, Bool.xor_comm (strip p q a)]
    exact xor_passes_of_le rising downward apart

/-! ## Around the polygon -/

omit [Field K] [LinearOrder K] [IsStrictOrderedRing K] in
/-- A difference along every edge cancels around a polygon. -/
theorem foldr_edgesFrom (g : K × K → Bool) (a first : K × K) (rest : List (K × K)) :
    (edgesFrom first (a :: rest)).foldr (fun e others => xor (xor (g e.1) (g e.2)) others) false =
      xor (g a) (g first) := by
  induction rest generalizing a with
  | nil => simp [edgesFrom]
  | cons b rest ih =>
    show xor (xor (g a) (g b)) (List.foldr _ false (edgesFrom first (b :: rest))) = _
    rw [ih b]
    cases g a <;> cases g b <;> cases g first <;> rfl

/-- Two parities that differ by nothing are equal. -/
theorem eq_of_xor {x z : Bool} (h : xor x z = false) : x = z := by
  cases x <;> cases z <;> first | rfl | cases h

/-- Along a segment that does not meet the boundary the number of edges passed stays odd, or even. -/
theorem odd_eq_of_disjoint {polygon : List (K × K)} (apart : Disjoint (segment K p q) (boundary polygon)) :
    odd p polygon = odd q polygon := by
  wlog rising : p.2 ≤ q.2 generalizing p q
  · rw [segment_symm] at apart
    exact (this apart (not_le.mp rising).le).symm
  have each : ∀ list : List ((K × K) × (K × K)), (∀ e ∈ list, e ∈ edges polygon) →
      xor (list.foldr (fun e others => xor (passes p e.1 e.2) others) false)
          (list.foldr (fun e others => xor (passes q e.1 e.2) others) false) =
        list.foldr (fun e others => xor (xor (strip p q e.1) (strip p q e.2)) others) false := by
    intro list all
    induction list with
    | nil => rfl
    | cons e list ih =>
      rw [List.foldr_cons, List.foldr_cons, List.foldr_cons, ← ih fun f mem => all f (List.mem_cons_of_mem _ mem)]
      have on_boundary : segment K e.1 e.2 ⊆ boundary polygon := fun z mem => ⟨e, all e List.mem_cons_self, mem⟩
      rw [← xor_passes rising (apart.mono_right on_boundary)]
      simp only [Bool.xor_assoc, Bool.xor_left_comm]
  have around : (edges polygon).foldr (fun e others => xor (xor (strip p q e.1) (strip p q e.2)) others) false = false := by
    cases polygon with
    | nil => rfl
    | cons a rest =>
      show (edgesFrom a (a :: rest)).foldr _ false = false
      rw [foldr_edgesFrom, Bool.xor_self]
  have total := (each (edges polygon) fun _ mem => mem).trans around
  exact eq_of_xor total

omit [IsStrictOrderedRing K] in
/-- Two boundaries have a point in common exactly if two edges do. -/
theorem not_disjoint_boundary_iff {left right : List (K × K)} : ¬ Disjoint (boundary left) (boundary right) ↔
    ∃ e ∈ edges left, ∃ f ∈ edges right, ∃ x, x ∈ segment K e.1 e.2 ∧ x ∈ segment K f.1 f.2 := by
  rw [Set.not_disjoint_iff]
  constructor
  · intro ⟨x, ⟨e, edge, mem⟩, f, edge', mem'⟩
    exact ⟨e, edge, f, edge', x, mem, mem'⟩
  · intro ⟨e, edge, f, edge', x, mem, mem'⟩
    exact ⟨x, ⟨e, edge, mem⟩, f, edge', mem'⟩

/-- From a point of an edge one comes to its first end along the boundary. -/
theorem segment_subset_boundary {polygon : List (K × K)} {e : (K × K) × (K × K)} (edge : e ∈ edges polygon)
    (mem : p ∈ segment K e.1 e.2) : segment K p e.1 ⊆ boundary polygon := by
  intro z on_way
  exact ⟨e, edge, (convex_segment e.1 e.2).segment_subset mem (left_mem_segment K _ _) on_way⟩

/-! ## Common points -/

/-- What lies between a point and a second one, seen from a third, is between them. -/
theorem mem_segment_of_between {x z w w' : K × K} (nearer : x ∈ segment K z w') (on_way : w' ∈ segment K z w) :
    w' ∈ segment K x w := by
  obtain ⟨s, lower, upper, rfl⟩ := mem_segment_iff.mp on_way
  obtain ⟨r, lower', upper', rfl⟩ := mem_segment_iff.mp nearer
  have shorter : along z (along z w s) r = along z w (r * s) := by
    unfold along
    refine Prod.ext ?_ ?_
    · show z.1 + r * (z.1 + s * (w.1 - z.1) - z.1) = _
      ring
    · show z.2 + r * (z.2 + s * (w.2 - z.2) - z.2) = _
      ring
  have between := @along_mem_segment _ _ _ _ z w s (r * s) 1 (mul_le_of_le_one_left lower upper') upper
  rwa [along_one, ← shorter] at between

section

variable {left right : List (K × K)}

/-- A vertex of one polygon is odd for the other. -/
def Encloses (left right : List (K × K)) : Prop :=
  (∃ e ∈ edges left, odd e.1 right = true) ∨ ∃ e ∈ edges right, odd e.1 left = true

/-- A segment from an odd point to a point of the other boundary that keeps off the boundary leads to an odd vertex. -/
theorem exists_odd_vertex {z : K × K} (apart : Disjoint (boundary left) (boundary right)) (odd_ : odd z left = true)
    {e : (K × K) × (K × K)} (edge : e ∈ edges right) (mem : p ∈ segment K e.1 e.2)
    (off : Disjoint (segment K z p) (boundary left)) : odd e.1 left = true := by
  rw [← odd_eq_of_disjoint (apart.symm.mono_left (segment_subset_boundary edge mem)), ← odd_eq_of_disjoint off]
  exact odd_

/-- Where the boundaries have no point in common and a point is odd for both, a vertex of one polygon is odd for the
other. The induction is on how many edges the way from the point to a point of a boundary meets. -/
theorem encloses_of_odd {z : K × K} (apart : Disjoint (boundary left) (boundary right)) (odd_left : odd z left = true)
    (odd_right : odd z right = true) (w : K × K) (reached : w ∈ boundary left ∨ w ∈ boundary right) :
    Encloses left right := by
  classical
  let meets (w : K × K) (e : (K × K) × (K × K)) : Bool := decide (∃ x ∈ segment K z w, x ∈ segment K e.1 e.2)
  let hits (w : K × K) : Nat := ((edges left ++ edges right).filter (meets w)).length
  -- on the way to a point of one boundary lies a point of the other: the edge at the end is met no more
  have fewer : ∀ {w w'} (e : (K × K) × (K × K)), e ∈ edges left ++ edges right → w ∈ segment K e.1 e.2 →
      w' ∈ segment K z w → w' ∉ segment K e.1 e.2 → hits w' < hits w := by
    intro w w' e edge at_end on_way off
    have sub : segment K z w' ⊆ segment K z w := (convex_segment z w).segment_subset (left_mem_segment K _ _) on_way
    have narrows : ∀ f, meets w' f = true → meets w f = true := by
      intro f met
      obtain ⟨x, on_way', on_edge⟩ := of_decide_eq_true met
      exact decide_eq_true ⟨x, sub on_way', on_edge⟩
    have nested : (edges left ++ edges right).filter (meets w') =
        ((edges left ++ edges right).filter (meets w)).filter (meets w') := by
      rw [List.filter_filter]
      refine List.filter_congr fun f _ => ?_
      cases met : meets w' f with
      | false => rfl
      | true => exact (narrows f met).symm
    show (List.filter (meets w') _).length < _
    rw [nested, List.length_filter_lt_length_iff_exists]
    refine ⟨e, List.mem_filter.mpr ⟨edge, decide_eq_true ⟨w, right_mem_segment K _ _, at_end⟩⟩, ?_⟩
    intro met
    obtain ⟨x, on_way', on_edge⟩ := of_decide_eq_true met
    exact off ((convex_segment e.1 e.2).segment_subset on_edge at_end (mem_segment_of_between on_way' on_way))
  induction count : hits w using Nat.strong_induction_on generalizing w with
  | _ n ih =>
    rcases reached with on_left | on_right
    · obtain ⟨e, edge, at_end⟩ := on_left
      by_cases off : Disjoint (segment K z w) (boundary right)
      · exact .inl ⟨e, edge, exists_odd_vertex apart.symm odd_right edge at_end off⟩
      · obtain ⟨w', on_way, on_right⟩ := Set.not_disjoint_iff.mp off
        have less := fewer e (List.mem_append_left _ edge) at_end on_way fun mem =>
          Set.disjoint_left.mp apart ⟨e, edge, mem⟩ on_right
        exact ih (hits w') (by rw [← count]; exact less) w' (.inr on_right) rfl
    · obtain ⟨e, edge, at_end⟩ := on_right
      by_cases off : Disjoint (segment K z w) (boundary left)
      · exact .inr ⟨e, edge, exists_odd_vertex apart odd_left edge at_end off⟩
      · obtain ⟨w', on_way, on_left⟩ := Set.not_disjoint_iff.mp off
        have less := fewer e (List.mem_append_right _ edge) at_end on_way fun mem =>
          Set.disjoint_left.mp apart on_left ⟨e, edge, mem⟩
        exact ih (hits w') (by rw [← count]; exact less) w' (.inl on_left) rfl

/-- Two regions have a point in common exactly if their boundaries do or a vertex of one is odd for the other. -/
theorem regions_meet_iff (some_edge : edges left ≠ []) :
    (region left ∩ region right).Nonempty ↔ ¬ Disjoint (boundary left) (boundary right) ∨ Encloses left right := by
  have vertex : ∀ {polygon : List (K × K)} {e}, e ∈ edges polygon → e.1 ∈ boundary polygon :=
    fun {_ e} edge => ⟨e, edge, left_mem_segment K _ _⟩
  constructor
  · intro ⟨z, in_left, in_right⟩
    by_cases apart : Disjoint (boundary left) (boundary right)
    · right
      rcases in_left with on_left | odd_left
      · obtain ⟨e, edge, mem⟩ := on_left
        have odd_right := in_right.resolve_left (Set.disjoint_left.mp apart ⟨e, edge, mem⟩)
        refine .inl ⟨e, edge, ?_⟩
        rw [← odd_eq_of_disjoint (apart.mono_left (segment_subset_boundary edge mem))]
        exact odd_right
      · rcases in_right with on_right | odd_right
        · obtain ⟨e, edge, mem⟩ := on_right
          refine .inr ⟨e, edge, ?_⟩
          rw [← odd_eq_of_disjoint (apart.symm.mono_left (segment_subset_boundary edge mem))]
          exact odd_left
        · obtain ⟨e, edge⟩ := List.exists_mem_of_ne_nil _ some_edge
          exact encloses_of_odd apart odd_left odd_right e.1 (.inl (vertex edge))
    · exact .inl apart
  · intro common
    rcases common with apart | ⟨e, edge, odd_⟩ | ⟨e, edge, odd_⟩
    · obtain ⟨z, on_left, on_right⟩ := Set.not_disjoint_iff.mp apart
      exact ⟨z, .inl on_left, .inl on_right⟩
    · exact ⟨e.1, .inl (vertex edge), .inr odd_⟩
    · exact ⟨e.1, .inr odd_, .inl (vertex edge)⟩

end

/-! ## Rectangles -/

/-- The points of a level edge. -/
theorem mem_level {x₀ x₁ : K} (h : p ∈ segment K (x₀, y) (x₁, y)) (range : x₀ ≤ x₁) :
    (x₀ ≤ p.1 ∧ p.1 ≤ x₁) ∧ p.2 = y := by
  have within := Prod.segment_subset _ _ h
  rw [segment_eq_Icc range, segment_same] at within
  exact within

/-- The points of an upright edge. -/
theorem mem_upright {x y₀ y₁ : K} (h : p ∈ segment K (x, y₀) (x, y₁)) (range : y₀ ≤ y₁) :
    p.1 = x ∧ y₀ ≤ p.2 ∧ p.2 ≤ y₁ := by
  have within := Prod.segment_subset _ _ h
  rw [segment_eq_Icc range, segment_same] at within
  exact within

section

variable {x₀ x₁ y₀ y₁ : K}

/-- The corners of an upright rectangle, around it. -/
def rectangle (x₀ x₁ y₀ y₁ : K) : List (K × K) := [(x₀, y₀), (x₁, y₀), (x₁, y₁), (x₀, y₁)]

/-- Each edge of a rectangle has one coordinate of its own. -/
theorem mem_rectangle_edge {e : (K × K) × (K × K)} (wide : x₀ ≤ x₁) (tall : y₀ ≤ y₁)
    (edge : e ∈ edges (rectangle x₀ x₁ y₀ y₁)) (h : p ∈ segment K e.1 e.2) :
    (e = ((x₀, y₀), (x₁, y₀)) ∧ (x₀ ≤ p.1 ∧ p.1 ≤ x₁) ∧ p.2 = y₀) ∨
      (e = ((x₁, y₀), (x₁, y₁)) ∧ p.1 = x₁ ∧ y₀ ≤ p.2 ∧ p.2 ≤ y₁) ∨
        (e = ((x₁, y₁), (x₀, y₁)) ∧ (x₀ ≤ p.1 ∧ p.1 ≤ x₁) ∧ p.2 = y₁) ∨
          e = ((x₀, y₁), (x₀, y₀)) ∧ p.1 = x₀ ∧ y₀ ≤ p.2 ∧ p.2 ≤ y₁ := by
  simp only [rectangle, edges, edgesFrom, List.mem_cons, List.not_mem_nil, or_false] at edge
  rcases edge with rfl | rfl | rfl | rfl
  · exact .inl ⟨rfl, mem_level h wide⟩
  · exact .inr (.inl ⟨rfl, mem_upright h tall⟩)
  · rw [segment_symm] at h
    exact .inr (.inr (.inl ⟨rfl, mem_level h wide⟩))
  · rw [segment_symm] at h
    exact .inr (.inr (.inr ⟨rfl, mem_upright h tall⟩))

/-- A rectangle with an area is a simple polygon. -/
theorem simple_rectangle (wide : x₀ < x₁) (tall : y₀ < y₁) : Simple (rectangle x₀ x₁ y₀ y₁) where
  size := Nat.le_succ 3
  distinct := by simp [rectangle, wide.ne, wide.ne', tall.ne]
  plain := by
    intro e edge f edge' other p on_first on_second
    rcases mem_rectangle_edge wide.le tall.le edge on_first with ⟨rfl, _, h⟩ | ⟨rfl, h, _⟩ | ⟨rfl, _, h⟩ | ⟨rfl, h, _⟩ <;>
      rcases mem_rectangle_edge wide.le tall.le edge' on_second with
        ⟨rfl, _, h'⟩ | ⟨rfl, h', _⟩ | ⟨rfl, _, h'⟩ | ⟨rfl, h', _⟩ <;>
      first
      | exact absurd rfl other
      | exact absurd (h.symm.trans h') (by first | exact wide.ne | exact wide.ne' | exact tall.ne | exact tall.ne')
      | exact .inl ⟨Prod.ext h h', Prod.ext h h'⟩
      | exact .inl ⟨Prod.ext h' h, Prod.ext h' h⟩
      | exact .inr ⟨Prod.ext h h', Prod.ext h h'⟩
      | exact .inr ⟨Prod.ext h' h, Prod.ext h' h⟩

/-- The boundary of a rectangle is between its sides. -/
theorem boundary_rectangle_subset (wide : x₀ ≤ x₁) (tall : y₀ ≤ y₁) :
    boundary (rectangle x₀ x₁ y₀ y₁) ⊆ Set.Icc (x₀, y₀) (x₁, y₁) := by
  intro p ⟨e, edge, mem⟩
  rcases mem_rectangle_edge wide tall edge mem with ⟨_, h, h'⟩ | ⟨_, h, h'⟩ | ⟨_, h, h'⟩ | ⟨_, h, h'⟩
  · exact ⟨⟨h.1, h'.ge⟩, h.2, h'.le.trans tall⟩
  · exact ⟨⟨wide.trans h.ge, h'.1⟩, h.le, h'.2⟩
  · exact ⟨⟨h.1, tall.trans h'.ge⟩, h.2, h'.le⟩
  · exact ⟨⟨h.ge, h'.1⟩, h.le.trans wide, h'.2⟩

end

end Plane
