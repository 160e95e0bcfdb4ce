import Mathlib.Algebra.Order.Field.Rat
import Mathlib.Data.List.Destutter
import Mathlib.Data.Rat.Floor
import Mathlib.Tactic.NormNum
import Firebot.Navigation.Cruise

/-!
# The trajectory of the cruise

`_dedupe` rounds the points that it keeps to four decimals, and compares a point with the last one kept before it
rounds it. A point off the grid is therefore kept even where it rounds to the point before it. Coordinates are
rational, and `round` takes the nearest number of four decimals, of two the even one.

**The trajectory is deduplicated exactly if no point off the grid rounds to the same point as the one before
it** (`dedupe_iff`). Nothing is said of equal points that do not follow each other.
-/

namespace Firebot.Navigation

/-- The nearest integer, of two the even one. -/
def roundHalfEven (q : ℚ) : ℤ :=
  if q - ⌊q⌋ < 1 / 2 then ⌊q⌋
  else if 1 / 2 < q - ⌊q⌋ then ⌊q⌋ + 1
  else if ⌊q⌋ % 2 = 0 then ⌊q⌋
  else ⌊q⌋ + 1

/-- `round(q, 4)`. -/
def round4 (q : ℚ) : ℚ := roundHalfEven (q * 10000) / 10000

/-- A point with its coordinates rounded. -/
def roundPoint (p : ℚ × ℚ) : ℚ × ℚ := (round4 p.1, round4 p.2)

/-- One turn of the loop in `_dedupe`. -/
def keepPoint (out : List (ℚ × ℚ)) (point : ℚ × ℚ) : List (ℚ × ℚ) :=
  match out.getLast? with
  | none => out ++ [roundPoint point]
  | some last => if last.1 ≠ point.1 ∨ last.2 ≠ point.2 then out ++ [roundPoint point] else out

/-- `_dedupe`. -/
def dedupe (points : List (ℚ × ℚ)) : List (ℚ × ℚ) := points.foldl keepPoint []

/-- `build_cruise_trajectory`. -/
def buildCruiseTrajectory (slots : List SlotRef) : Option (List (ℚ × ℚ)) := do
  let waypoints ← buildCruiseWaypoints slots
  return dedupe (waypoints.map fun w => (w.x, w.y))

/-! ## Rounding -/

theorem roundHalfEven_intCast (n : ℤ) : roundHalfEven n = n := by
  unfold roundHalfEven
  rw [Int.floor_intCast, sub_self, if_pos (by norm_num)]

theorem round4_round4 (q : ℚ) : round4 (round4 q) = round4 q := by
  have scaled : round4 q * 10000 = (roundHalfEven (q * 10000) : ℚ) := div_mul_cancel₀ _ (by norm_num)
  show (roundHalfEven (round4 q * 10000) : ℚ) / 10000 = _
  rw [scaled, roundHalfEven_intCast]
  rfl

/-- A rounded point is on the grid. -/
@[simp] theorem roundPoint_roundPoint (p : ℚ × ℚ) : roundPoint (roundPoint p) = roundPoint p :=
  Prod.ext (round4_round4 p.1) (round4_round4 p.2)

/-! ## What is kept -/

/-- A point is not off the grid and rounds to the point before it. -/
def OnGridAfter (q p : ℚ × ℚ) : Prop := roundPoint q = roundPoint p → p = roundPoint p

theorem onGridAfter_round_left {q p : ℚ × ℚ} : OnGridAfter (roundPoint q) p ↔ OnGridAfter q p := by
  unfold OnGridAfter
  rw [roundPoint_roundPoint]

variable {init : List (ℚ × ℚ)} {last p : ℚ × ℚ}

theorem keepPoint_concat : keepPoint (init ++ [last]) p =
    if last ≠ p then init ++ [last] ++ [roundPoint p] else init ++ [last] := by
  unfold keepPoint
  rw [List.getLast?_concat]
  refine if_congr ?_ rfl rfl
  rw [← not_and_or, not_iff_not]
  exact Prod.ext_iff.symm

/-- The points kept before stay in front. -/
theorem prefix_foldl_keepPoint (points out : List (ℚ × ℚ)) : out <+: points.foldl keepPoint out := by
  induction points generalizing out with
  | nil => exact List.prefix_rfl
  | cons p points ih =>
    refine List.IsPrefix.trans ?_ (ih (keepPoint out p))
    unfold keepPoint
    split
    · exact List.prefix_append _ _
    · split
      · exact List.prefix_append _ _
      · exact List.prefix_rfl

/-- After the last point kept: the rest is told apart as rounded points, where no point off the grid rounds to the
one before it. -/
theorem foldl_keepPoint_eq (points : List (ℚ × ℚ)) (on_grid : roundPoint last = last)
    (settled : (last :: points).IsChain OnGridAfter) :
    points.foldl keepPoint (init ++ [last]) = init ++ (points.map roundPoint).destutter' (· ≠ ·) last := by
  induction points generalizing init last with
  | nil => rfl
  | cons p points ih =>
    rw [List.isChain_cons_cons] at settled
    rw [List.foldl_cons, List.map_cons, keepPoint_concat]
    by_cases same : last = p
    · rw [if_neg (not_not.mpr same), List.destutter'_cons_neg]
      · exact ih on_grid (same ▸ settled.2)
      · rw [← same, on_grid]
        exact not_not.mpr rfl
    · have differs : last ≠ roundPoint p := by
        intro equal
        have back := settled.1 (on_grid.trans equal)
        exact same (equal.trans back.symm)
      have rest : (roundPoint p :: points).IsChain OnGridAfter := by
        cases points with
        | nil => exact List.isChain_singleton _
        | cons p' points =>
          rw [List.isChain_cons_cons] at settled ⊢
          exact ⟨onGridAfter_round_left.mpr settled.2.1, settled.2.2⟩
      rw [if_pos same, List.destutter'_cons_pos _ differs, ih (roundPoint_roundPoint p) rest, List.append_assoc]
      rfl

/-- A point off the grid that rounds to the point before it is kept a second time. -/
theorem onGridAfter_of_isChain (points : List (ℚ × ℚ)) (on_grid : roundPoint last = last)
    (apart : (points.foldl keepPoint (init ++ [last])).IsChain (· ≠ ·)) : (last :: points).IsChain OnGridAfter := by
  induction points generalizing init last with
  | nil => exact List.isChain_singleton _
  | cons p points ih =>
    rw [List.foldl_cons, keepPoint_concat] at apart
    rw [List.isChain_cons_cons]
    by_cases same : last = p
    · rw [if_neg (not_not.mpr same)] at apart
      refine ⟨fun _ => ?_, same ▸ ih on_grid apart⟩
      rw [← same, on_grid]
    · rw [if_pos same] at apart
      have rest := ih (roundPoint_roundPoint p) apart
      refine ⟨fun equal => ?_, ?_⟩
      · have twice : (init ++ [last] ++ [roundPoint p]).IsChain (· ≠ ·) :=
          apart.prefix (prefix_foldl_keepPoint points _)
        rw [List.append_assoc, List.isChain_append] at twice
        rw [on_grid] at equal
        exact absurd equal (List.isChain_pair.mp twice.2.1)
      · cases points with
        | nil => exact List.isChain_singleton _
        | cons p' points =>
          rw [List.isChain_cons_cons] at rest ⊢
          exact ⟨onGridAfter_round_left.mp rest.1, rest.2⟩

/-- What the deduplication is for: no two points in a row are the same, the first point is there, and of the rounded
points those are left out that are the last one kept. -/
structure Deduplicated (points out : List (ℚ × ℚ)) : Prop where
  apart : out.IsChain (· ≠ ·)
  first : ∀ p ∈ points.head?, roundPoint p ∈ out
  kept : out = (points.map roundPoint).destutter (· ≠ ·)

/-- The trajectory is deduplicated exactly if no point off the grid of four decimals rounds to the same point as the
one before it. -/
theorem dedupe_iff (points : List (ℚ × ℚ)) : Deduplicated points (dedupe points) ↔ points.IsChain OnGridAfter := by
  cases points with
  | nil => exact iff_of_true ⟨.nil, fun _ mem => absurd mem (Option.not_mem_none _), rfl⟩ .nil
  | cons p points =>
    have start : dedupe (p :: points) = points.foldl keepPoint ([] ++ [roundPoint p]) := rfl
    have moved : (roundPoint p :: points).IsChain OnGridAfter ↔ (p :: points).IsChain OnGridAfter := by
      cases points with
      | nil => exact iff_of_true (.singleton _) (.singleton _)
      | cons p' points => rw [List.isChain_cons_cons, List.isChain_cons_cons, onGridAfter_round_left]
    rw [← moved]
    constructor
    · intro right
      have apart := right.apart
      rw [start] at apart
      exact onGridAfter_of_isChain points (roundPoint_roundPoint p) apart
    · intro settled
      have kept : dedupe (p :: points) = ((p :: points).map roundPoint).destutter (· ≠ ·) :=
        start.trans (foldl_keepPoint_eq points (roundPoint_roundPoint p) settled)
      refine ⟨kept ▸ List.isChain_destutter _ _, fun q mem => ?_, kept⟩
      cases mem
      rw [kept]
      exact List.mem_destutter' _ _ _

/-- A point off the grid, twice: both copies are kept, as one point. -/
theorem twice_off_grid : dedupe [(1 / 3, 0), (1 / 3, 0)] = [(3333 / 10000, 0), (3333 / 10000, 0)] ∧
    ¬ Deduplicated [(1 / 3, 0), (1 / 3, 0)] (dedupe [(1 / 3, 0), (1 / 3, 0)]) := by
  have run : dedupe [(1 / 3, 0), (1 / 3, 0)] = [(3333 / 10000, 0), (3333 / 10000, 0)] := by decide +kernel
  refine ⟨run, fun right => ?_⟩
  have apart := right.apart
  rw [run, List.isChain_pair] at apart
  exact apart rfl

end Firebot.Navigation
