import Mathlib.Algebra.Module.Rat
import Mathlib.Data.List.GetD
import Firebot.Lib.EvenOdd

/-!
# Does a sensor's sector cover a slot

`_polygons_intersect` looks for a vertex of one polygon in the other and for two edges that touch. The test for
edges compares the sides on which their ends lie, and of edges on one line it has nothing to compare: it takes any
two of them for touching. Coordinates are exact.

**The answer is right exactly if the regions have a point in common, or no edge of the one polygon is on the
line of an edge of the other** (`intersect_exact_iff`). Nothing is said of polygons that cross themselves.
-/

namespace Firebot.Operations

open Plane

/-- A point of a polygon, `polygon[i]`. -/
def vertex (polygon : List (ℚ × ℚ)) (i : Nat) : ℚ × ℚ := polygon.getD i (0, 0)

/-- `_point_in_polygon`. -/
def pointInPolygon (point : ℚ × ℚ) (polygon : List (ℚ × ℚ)) : Bool :=
  polygon.zipIdx.foldl
    (fun inside (first, index) =>
      let second := vertex polygon ((index + 1) % polygon.length)
      if decide (first.2 > point.2) != decide (second.2 > point.2) then
        let boundaryX := (second.1 - first.1) * (point.2 - first.2) / (second.2 - first.2) + first.1
        if point.1 < boundaryX then !inside else inside
      else inside)
    false

/-- `_orientation`. -/
def orientation (a b c : ℚ × ℚ) : ℚ := (b.1 - a.1) * (c.2 - a.2) - (b.2 - a.2) * (c.1 - a.1)

/-- `_segments_intersect`. -/
def segmentsIntersect (a b c d : ℚ × ℚ) : Bool :=
  orientation a b c * orientation a b d ≤ 0 && orientation c d a * orientation c d b ≤ 0

/-- `_polygons_intersect`. -/
def polygonsIntersect (left right : List (ℚ × ℚ)) : Bool :=
  left.any (fun point => pointInPolygon point right) ||
    right.any (fun point => pointInPolygon point left) ||
      (List.range left.length).any fun i =>
        (List.range right.length).any fun j =>
          segmentsIntersect (vertex left i) (vertex left ((i + 1) % left.length))
            (vertex right j) (vertex right ((j + 1) % right.length))

/-! ## The edges -/

variable {left right polygon : List (ℚ × ℚ)}

/-- The edges by their indices, the last one back to the first vertex. -/
theorem edges_eq_map : edges polygon =
    (List.range polygon.length).map fun i => (vertex polygon i, vertex polygon ((i + 1) % polygon.length)) := by
  refine List.ext_getElem (by simp) fun i inside _ => ?_
  refine Option.some.inj ((List.getElem?_eq_getElem inside).symm.trans ?_)
  rw [edges_length] at inside
  rw [List.getElem_map, List.getElem_range]
  cases polygon with
  | nil => exact absurd inside (Nat.not_lt_zero i)
  | cons a rest =>
    refine (edgesFrom_getElem? inside).trans (congrArg some ?_)
    refine Prod.ext (List.getD_eq_getElem _ _ inside).symm ?_
    show List.getD _ _ a = vertex _ _
    rcases Nat.lt_or_eq_of_le (Nat.succ_le_of_lt inside) with within | last
    · rw [Nat.mod_eq_of_lt within, vertex, List.getD_eq_getElem _ _ within, List.getD_eq_getElem _ _ within]
    · rw [List.getD_eq_default _ _ last.ge, show i + 1 = (a :: rest).length from last, Nat.mod_self]
      rfl

theorem edges_eq_zipIdx : edges polygon =
    polygon.zipIdx.map fun (first, index) => (first, vertex polygon ((index + 1) % polygon.length)) := by
  rw [edges_eq_map]
  refine List.ext_getElem (by simp) fun i inside _ => ?_
  rw [List.length_map, List.length_range] at inside
  rw [List.getElem_map, List.getElem_map, List.getElem_range, List.getElem_zipIdx, Nat.zero_add]
  exact Prod.ext (List.getD_eq_getElem _ _ inside) rfl

theorem edges_map_fst : (edges polygon).map Prod.fst = polygon := by
  rw [edges_eq_zipIdx, List.map_map]
  exact List.zipIdx_map_fst 0 polygon

/-! ## The tests -/

/-- The loop turns its answer over at every edge that the ray passes. -/
theorem foldl_toggle (passed : (ℚ × ℚ) × (ℚ × ℚ) → Bool) (list : List ((ℚ × ℚ) × (ℚ × ℚ))) (inside : Bool) :
    list.foldl (fun inside e => if passed e then !inside else inside) inside =
      xor (list.foldr (fun e others => xor (passed e) others) false) inside := by
  induction list generalizing inside with
  | nil => exact (Bool.false_xor inside).symm
  | cons e list ih =>
    rw [List.foldl_cons, List.foldr_cons, ih]
    cases passed e <;> simp

/-- One turn of the loop. -/
theorem toggle_step (point first second : ℚ × ℚ) (inside : Bool) :
    (if decide (first.2 > point.2) != decide (second.2 > point.2) then
      if point.1 < (second.1 - first.1) * (point.2 - first.2) / (second.2 - first.2) + first.1 then !inside else inside
    else inside) = if passes point first second then !inside else inside := by
  have bound : (level first second point.2).1 =
      (second.1 - first.1) * (point.2 - first.2) / (second.2 - first.2) + first.1 := by
    show first.1 + (point.2 - first.2) / (second.2 - first.2) * (second.1 - first.1) = _
    ring
  rw [passes, bound, Bool.bne_eq_xor]
  cases xor (decide (first.2 > point.2)) (decide (second.2 > point.2)) <;> simp

theorem pointInPolygon_eq (point : ℚ × ℚ) : pointInPolygon point polygon = odd point polygon := by
  have total := foldl_toggle (fun e => passes point e.1 e.2) (edges polygon) false
  rw [Bool.xor_false] at total
  refine Eq.trans ?_ total
  rw [edges_eq_zipIdx, List.foldl_map]
  refine congrArg (fun turn => List.foldl turn false polygon.zipIdx) ?_
  funext inside (first, index)
  exact toggle_step point first _ inside

theorem segmentsIntersect_iff {a b c d : ℚ × ℚ} : segmentsIntersect a b c d = true ↔ Touches a b c d := by
  unfold segmentsIntersect
  rw [Bool.and_eq_true, decide_eq_true_iff, decide_eq_true_iff]
  rfl

theorem any_pointInPolygon_iff : (left.any fun point => pointInPolygon point right) = true ↔
    ∃ e ∈ edges left, odd e.1 right = true := by
  have each : left.any (fun point => pointInPolygon point right) = (edges left).any fun e => odd e.1 right := by
    conv_lhs => rw [← @edges_map_fst left, List.any_map]
    exact congrArg (edges left).any (funext fun e => pointInPolygon_eq e.1)
  rw [each, List.any_eq_true]

theorem any_segmentsIntersect_iff :
    ((List.range left.length).any fun i => (List.range right.length).any fun j =>
      segmentsIntersect (vertex left i) (vertex left ((i + 1) % left.length))
        (vertex right j) (vertex right ((j + 1) % right.length))) = true ↔
      ∃ e ∈ edges left, ∃ f ∈ edges right, Touches e.1 e.2 f.1 f.2 := by
  simp only [edges_eq_map, List.any_eq_true, List.mem_map, exists_exists_and_eq_and, segmentsIntersect_iff]

/-- The whole test: where the regions have no point in common it is true nevertheless if two edges are on one
line. -/
theorem polygonsIntersect_iff (simple : Simple left) :
    polygonsIntersect left right = true ↔ (region left ∩ region right).Nonempty ∨
      ∃ e ∈ edges left, ∃ f ∈ edges right, Aligned e.1 e.2 f.1 f.2 := by
  have some_edge : edges left ≠ [] := by
    intro none
    have size := simple.size
    rw [← edges_length, none] at size
    exact absurd size (by simp)
  have touches : (∃ e ∈ edges left, ∃ f ∈ edges right, Touches e.1 e.2 f.1 f.2) ↔
      ¬ Disjoint (boundary left) (boundary right) ∨ ∃ e ∈ edges left, ∃ f ∈ edges right, Aligned e.1 e.2 f.1 f.2 := by
    rw [not_disjoint_boundary_iff]
    constructor
    · intro ⟨e, edge, f, edge', touch⟩
      rcases (touches_iff (simple.edge_ne e edge)).mp touch with flat | common
      · exact .inr ⟨e, edge, f, edge', flat⟩
      · exact .inl ⟨e, edge, f, edge', common⟩
    · rintro (⟨e, edge, f, edge', common⟩ | ⟨e, edge, f, edge', flat⟩)
      · exact ⟨e, edge, f, edge', (touches_iff (simple.edge_ne e edge)).mpr (.inr common)⟩
      · exact ⟨e, edge, f, edge', (touches_iff (simple.edge_ne e edge)).mpr (.inl flat)⟩
  unfold polygonsIntersect
  rw [Bool.or_eq_true, Bool.or_eq_true, any_pointInPolygon_iff, any_pointInPolygon_iff, any_segmentsIntersect_iff,
    touches, regions_meet_iff some_edge]
  unfold Encloses
  rw [← or_assoc, or_comm (b := ¬ Disjoint _ _)]

/-! ## When the test is exact -/

/-- A simple polygon. -/
structure SimplePolygon where
  vertices : List (ℚ × ℚ)
  simple : Simple vertices

namespace SimplePolygon

/-- The answer is right exactly if the regions have a point in common, or no edge of the one polygon is on the line of
an edge of the other. -/
theorem intersect_exact_iff (left right : SimplePolygon) :
    (polygonsIntersect left.vertices right.vertices = true ↔ (region left.vertices ∩ region right.vertices).Nonempty) ↔
      ((region left.vertices ∩ region right.vertices).Nonempty ∨
        ∀ e ∈ edges left.vertices, ∀ f ∈ edges right.vertices, ¬ Aligned e.1 e.2 f.1 f.2) := by
  rw [polygonsIntersect_iff left.simple]
  constructor
  · intro exact_
    refine or_iff_not_imp_left.mpr fun apart e edge f edge' flat => apart ?_
    exact exact_.mp (.inr ⟨e, edge, f, edge', flat⟩)
  · rintro (common | off)
    · exact iff_of_true (.inl common) common
    · refine or_iff_left ?_
      intro ⟨e, edge, f, edge', flat⟩
      exact off e edge f edge' flat

/-- Two parking slots in one row, with a gap between them: the test takes them for overlapping. -/
theorem row_of_two : ∃ left right : SimplePolygon,
    left.vertices = rectangle 0 1 0 1 ∧ right.vertices = rectangle 2 3 0 1 ∧
      polygonsIntersect left.vertices right.vertices = true ∧
        ¬ (region left.vertices ∩ region right.vertices).Nonempty := by
  refine ⟨⟨_, simple_rectangle (by norm_num) (by norm_num)⟩, ⟨_, simple_rectangle (by norm_num) (by norm_num)⟩,
    rfl, rfl, by decide +kernel, ?_⟩
  rw [regions_meet_iff (by simp [edges, rectangle, edgesFrom])]
  rintro (common | enclosed)
  · refine common (Set.disjoint_left.mpr fun p mem mem' => ?_)
    have below := (boundary_rectangle_subset (by norm_num) (by norm_num) mem).2.1
    have above := (boundary_rectangle_subset (by norm_num) (by norm_num) mem').1.1
    have far : ¬ (2 : ℚ) ≤ 1 := by norm_num
    exact far (above.trans below)
  · have outside : ¬ Encloses (rectangle (0 : ℚ) 1 0 1) (rectangle 2 3 0 1) := by
      unfold Encloses
      decide +kernel
    exact outside enclosed

end SimplePolygon

end Firebot.Operations
