import Mathlib.Data.Real.Basic
import Mathlib.Tactic.Linarith
import Mathlib.Tactic.NormNum
import Firebot.Lib.Polyline
import Firebot.Navigation.ReturnRoute

/-!
# The lanes as a set of points

A path over the lanes is a polyline, with points of any real coordinates, each leg of which lies on one lane. How far
it is to the waiting point over the lanes is bounded below by `homeward`: on the western lane one drives straight there,
and from the others one comes to that lane by the southern or by the northern transfer.
-/

namespace Firebot.Navigation

open Polyline

/-- A point with rational coordinates in the plane. -/
def real (p : ℚ × ℚ) : ℝ × ℝ := (p.1, p.2)

/-- A lane contains a point. Lanes are parallel to an axis, from the lower end to the upper one. -/
def Contains (lane : (ℚ × ℚ) × (ℚ × ℚ)) (p : ℚ × ℚ) : Prop :=
  (lane.1.1 ≤ p.1 ∧ p.1 ≤ lane.2.1) ∧ lane.1.2 ≤ p.2 ∧ p.2 ≤ lane.2.2

instance (lane : (ℚ × ℚ) × (ℚ × ℚ)) (p : ℚ × ℚ) : Decidable (Contains lane p) := inferInstanceAs (Decidable (_ ∧ _))

/-- A lane contains a point of the plane. -/
def LiesOn (lane : (ℚ × ℚ) × (ℚ × ℚ)) (p : ℝ × ℝ) : Prop :=
  ((lane.1.1 : ℝ) ≤ p.1 ∧ p.1 ≤ (lane.2.1 : ℝ)) ∧ (lane.1.2 : ℝ) ≤ p.2 ∧ p.2 ≤ (lane.2.2 : ℝ)

/-- Two points lie on one lane. -/
def OneLane (a b : ℝ × ℝ) : Prop := ∃ lane ∈ corridorSegments, LiesOn lane a ∧ LiesOn lane b

/-- Every leg lies on a lane. -/
def LanePath (path : List (ℝ × ℝ)) : Prop := path.IsChain OneLane

/-- A path over the lanes, and no path over the lanes from its first point to the waiting point is shorter. -/
structure ShortestOnLanes (path : List (ℝ × ℝ)) : Prop where
  lanes : LanePath path
  least : ∀ other, LanePath other → other.head? = path.head? → other.getLast? = some (real remoteWaiting) →
    length path ≤ length other

theorem liesOn_real {lane : (ℚ × ℚ) × (ℚ × ℚ)} {p : ℚ × ℚ} : LiesOn lane (real p) ↔ Contains lane p := by
  unfold LiesOn real Contains
  simp only [Rat.cast_le]

theorem leg_real (p q : ℚ × ℚ) : leg (real p) (real q) = ((leg p q : ℚ) : ℝ) := by
  unfold leg real
  push_cast
  rfl

/-! ## How far it is at least -/

/-- A lower bound of the way to the waiting point. -/
noncomputable def homeward (p : ℝ × ℝ) : ℝ :=
  p.1 - ((6 / 5 : ℚ) : ℝ) +
    min (min (p.2 - ((4 / 5 : ℚ) : ℝ)) (|p.2 - ((27 : ℚ) : ℝ)| + ((129 / 5 : ℚ) : ℝ)))
      (|p.2 - ((6 / 5 : ℚ) : ℝ)| + (p.1 - ((6 / 5 : ℚ) : ℝ)))

/-- A lane goes from south to north, or from west to east, and then the transfers are not a detour at its western end. -/
theorem lane_cases : ∀ lane ∈ corridorSegments, lane.1.1 = lane.2.1 ∨
    lane.1.2 = lane.2.2 ∧ 6 / 5 ≤ lane.1.1 ∧
      min (lane.1.2 - 4 / 5) (|lane.1.2 - 27| + 129 / 5) ≤ |lane.1.2 - 6 / 5| := by
  decide +kernel

variable {a b : ℝ × ℝ}

/-- On a lane from south to north the bound falls by at most the length of a leg. -/
theorem homeward_vertical (same : a.1 = b.1) : homeward a ≤ leg a b + homeward b := by
  have change : leg a b = |a.2 - b.2| := by
    unfold leg
    rw [same, sub_self, abs_zero, zero_add]
  rw [change]
  unfold homeward
  rw [same, ← add_assoc, add_comm |a.2 - b.2|, add_assoc, add_le_add_iff_left, ← min_add_add_left, ← min_add_add_left]
  generalize ((27 : ℚ) : ℝ) = north, ((6 / 5 : ℚ) : ℝ) = west, ((4 / 5 : ℚ) : ℝ) = south, ((129 / 5 : ℚ) : ℝ) = rest
  have up := le_abs_self (a.2 - b.2)
  have northward := abs_sub_le a.2 b.2 north
  have westward := abs_sub_le a.2 b.2 west
  refine min_le_min (min_le_min ?_ ?_) ?_ <;> linarith

/-- On a lane from west to east it falls by what the lane goes east. -/
theorem homeward_horizontal {y : ℚ} (row : a.2 = y) (east : ((6 / 5 : ℚ) : ℝ) ≤ a.1)
    (transfers : min (y - 4 / 5) (|y - 27| + 129 / 5) ≤ |y - 6 / 5|) :
    homeward a = a.1 - ((6 / 5 : ℚ) : ℝ) + ((min (y - 4 / 5) (|y - 27| + 129 / 5) : ℚ) : ℝ) := by
  have bound : ((min (y - 4 / 5) (|y - 27| + 129 / 5) : ℚ) : ℝ) ≤ ((|y - 6 / 5| : ℚ) : ℝ) := Rat.cast_le.mpr transfers
  unfold homeward
  rw [row]
  push_cast at bound east ⊢
  rw [min_eq_left]
  linarith

theorem homeward_le (lanes : OneLane a b) : homeward a ≤ leg a b + homeward b := by
  obtain ⟨lane, mem, ⟨⟨west, east⟩, south, north⟩, ⟨west', east'⟩, south', north'⟩ := lanes
  rcases lane_cases lane mem with vertical | ⟨row, first, transfers⟩
  · rw [vertical] at west west'
    exact homeward_vertical ((le_antisymm east west).trans (le_antisymm east' west').symm)
  · rw [← row] at north north'
    have row_a := le_antisymm north south
    have row_b := le_antisymm north' south'
    have first' : ((6 / 5 : ℚ) : ℝ) ≤ (lane.1.1 : ℝ) := Rat.cast_le.mpr first
    rw [homeward_horizontal row_a (first'.trans west) transfers, homeward_horizontal row_b (first'.trans west') transfers]
    have change := le_abs_self (a.1 - b.1)
    have nonneg := abs_nonneg (a.2 - b.2)
    unfold leg
    linarith

theorem homeward_remoteWaiting : homeward (real remoteWaiting) = 0 := by
  have least : (0 : ℝ) ≤ min (((6 / 5 : ℚ) : ℝ) - ((4 / 5 : ℚ) : ℝ))
      (|((6 / 5 : ℚ) : ℝ) - ((27 : ℚ) : ℝ)| + ((129 / 5 : ℚ) : ℝ)) :=
    le_min (by norm_num) (add_nonneg (abs_nonneg _) (by norm_num))
  unfold homeward real remoteWaiting
  simp only
  rw [sub_self, abs_zero, zero_add, zero_add, min_eq_right least]

/-- No path over the lanes is shorter than the bound. -/
theorem homeward_le_length {path : List (ℝ × ℝ)} (lanes : LanePath path) (first : path.head? = some a)
    (last : path.getLast? = some (real remoteWaiting)) : homeward a ≤ length path := by
  cases path with
  | nil => cases first
  | cons a' path =>
    cases first
    have bound := le_length_of_potential (fun _ _ => homeward_le) lanes last
    rwa [homeward_remoteWaiting, add_zero] at bound

/-- By the south the bound is reached, where that is not the longer way. -/
theorem toll_le_homeward {p : ℚ × ℚ} (south : p.2 ≤ 134 / 5) (apart : p.2 - 4 / 5 ≤ |p.2 - 6 / 5| + (p.1 - 6 / 5)) :
    ((p.1 - 6 / 5 + (p.2 - 4 / 5) : ℚ) : ℝ) ≤ homeward (real p) := by
  have rational : homeward (real p) = ((p.1 - 6 / 5 +
      min (min (p.2 - 4 / 5) (|p.2 - 27| + 129 / 5)) (|p.2 - 6 / 5| + (p.1 - 6 / 5)) : ℚ) : ℝ) := by
    unfold homeward real
    push_cast
    rfl
  have north := neg_le_abs (p.2 - 27)
  rw [rational, Rat.cast_le]
  refine add_le_add_right (le_min (le_min le_rfl ?_) apart) _
  linarith

theorem length_real (path : List (ℚ × ℚ)) : length (path.map real) = ((length path : ℚ) : ℝ) := by
  induction path with
  | nil => exact Rat.cast_zero.symm
  | cons p path ih =>
    cases path with
    | nil => exact Rat.cast_zero.symm
    | cons q path =>
      rw [List.map_cons, List.map_cons, length_cons_cons, length_cons_cons, Rat.cast_add, ← ih, leg_real]
      rfl

/-- A path with rational coordinates. -/
theorem lanePath_real {path : List (ℚ × ℚ)} : LanePath (path.map real) ↔
    path.IsChain fun p q => ∃ lane ∈ corridorSegments, Contains lane p ∧ Contains lane q := by
  unfold LanePath OneLane
  rw [List.isChain_map]
  simp only [liesOn_real]

/-- A path over the lanes that is not longer than the bound is a shortest one. -/
theorem shortestOnLanes_of_le {path : List (ℚ × ℚ)} {p : ℚ × ℚ} (first : path.head? = some p)
    (lanes : path.IsChain fun p q => ∃ lane ∈ corridorSegments, Contains lane p ∧ Contains lane q)
    (short : ((length path : ℚ) : ℝ) ≤ homeward (real p)) : ShortestOnLanes (path.map real) where
  lanes := lanePath_real.mpr lanes
  least other lanes' first' last' := by
    rw [List.head?_map, first] at first'
    rw [length_real]
    exact short.trans (homeward_le_length lanes' first' last')

/-- A path is not a shortest one, if another one is shorter. -/
theorem not_shortestOnLanes {path : List (ℚ × ℚ)} (other : List (ℚ × ℚ)) (same : other.head? = path.head?)
    (last : other.getLast? = some remoteWaiting)
    (lanes : other.IsChain fun p q => ∃ lane ∈ corridorSegments, Contains lane p ∧ Contains lane q)
    (shorter : length other < length path) : ¬ ShortestOnLanes (path.map real) := by
  intro shortest
  have bound := shortest.least (other.map real) (lanePath_real.mpr lanes)
    (by rw [List.head?_map, List.head?_map, same]) (by rw [List.getLast?_map, last]; rfl)
  rw [length_real, length_real, Rat.cast_le] at bound
  exact absurd bound (not_le.mpr shorter)

/-! ## The nearest point of the lanes -/

/-- A value that is kept within bounds is nearest to itself. -/
theorem clamp_nearest {lower upper v q : ℚ} (above : lower ≤ q) (below : q ≤ upper) :
    (v - max lower (min upper v)) ^ 2 ≤ (v - q) ^ 2 := by
  rcases le_total v lower with under | over_
  · rw [max_eq_left ((min_le_right _ _).trans under)]
    nlinarith [mul_nonneg (sub_nonneg.mpr above) (sub_nonneg.mpr under)]
  · rcases le_total upper v with beyond | within
    · rw [min_eq_left beyond, max_eq_right (above.trans below)]
      nlinarith [mul_nonneg (sub_nonneg.mpr below) (sub_nonneg.mpr beyond)]
    · rw [min_eq_right within, max_eq_right over_, sub_self]
      nlinarith [sq_nonneg (v - q)]

/-- How far along a segment, in units of its length. -/
theorem clamp_scaled {lower upper v : ℚ} (long : lower < upper) :
    lower + max 0 (min 1 ((v - lower) * (upper - lower) / ((upper - lower) * (upper - lower)))) * (upper - lower) =
      max lower (min upper v) := by
  have positive : 0 < upper - lower := sub_pos.mpr long
  rw [mul_div_mul_right _ _ positive.ne', max_mul_of_nonneg _ _ positive.le, min_mul_of_nonneg _ _ positive.le,
    div_mul_cancel₀ _ positive.ne', zero_mul, one_mul, ← max_add_add_left, ← min_add_add_left, add_zero,
    add_sub_cancel, add_sub_cancel]

variable {c : ℚ × ℚ} {lane : (ℚ × ℚ) × (ℚ × ℚ)}

/-- Lanes are longer than nothing, in one direction. -/
theorem lane_long : ∀ lane ∈ corridorSegments,
    (lane.1.1 = lane.2.1 ∧ lane.1.2 < lane.2.2 ∧
        1 / 1000000000 ≤ (lane.2.2 - lane.1.2) * (lane.2.2 - lane.1.2)) ∨
      lane.1.2 = lane.2.2 ∧ lane.1.1 < lane.2.1 ∧
        1 / 1000000000 ≤ (lane.2.1 - lane.1.1) * (lane.2.1 - lane.1.1) := by
  decide +kernel

/-- The projection onto a lane is a point of it, and no point of it is nearer. -/
theorem projection_spec (mem : lane ∈ corridorSegments) : Contains lane (projection c lane) ∧
    ∀ q, Contains lane q → squareDistance c (projection c lane) ≤ squareDistance c q := by
  rcases lane_long lane mem with ⟨column, long, far⟩ | ⟨row, long, far⟩
  · have at_ : projection c lane = (lane.1.1, max lane.1.2 (min lane.2.2 c.2)) := by
      unfold projection
      simp only [← column, sub_self, mul_zero, zero_add, add_zero]
      rw [if_neg (not_lt.mpr far), clamp_scaled long]
    rw [at_]
    refine ⟨⟨⟨le_rfl, column.le⟩, le_max_left _ _, max_le long.le (min_le_left _ _)⟩, fun q inside => ?_⟩
    have same : q.1 = lane.1.1 := le_antisymm (column ▸ inside.1.2) inside.1.1
    unfold squareDistance
    rw [same]
    exact add_le_add_right (clamp_nearest inside.2.1 inside.2.2) _
  · have at_ : projection c lane = (max lane.1.1 (min lane.2.1 c.1), lane.1.2) := by
      unfold projection
      simp only [← row, sub_self, mul_zero, add_zero]
      rw [if_neg (not_lt.mpr far), clamp_scaled long]
    rw [at_]
    refine ⟨⟨⟨le_max_left _ _, max_le long.le (min_le_left _ _)⟩, le_rfl, row.le⟩, fun q inside => ?_⟩
    have same : q.2 = lane.1.2 := le_antisymm (row ▸ inside.2.2) inside.2.1
    unfold squareDistance
    rw [same]
    exact add_le_add_left (clamp_nearest inside.1.1 inside.1.2) _

/-- Of the segments that were looked at, the nearest. -/
theorem foldl_nearer (entries : List (((ℚ × ℚ) × (ℚ × ℚ)) × Nat)) (best : ℚ × (ℚ × ℚ) × Nat) :
    ∃ result, entries.foldl (nearer c) (some best) = some result ∧ result.1 ≤ best.1 ∧
      (∀ entry ∈ entries, result.1 ≤ squareDistance c (projection c entry.1)) ∧
      (result = best ∨ ∃ entry ∈ entries,
        result = (squareDistance c (projection c entry.1), projection c entry.1, entry.2)) := by
  induction entries generalizing best with
  | nil => exact ⟨best, rfl, le_rfl, List.forall_mem_nil _, .inl rfl⟩
  | cons entry entries ih =>
    rw [List.foldl_cons]
    by_cases closer : squareDistance c (projection c entry.1) < best.1
    · have step : nearer c (some best) entry =
          some (squareDistance c (projection c entry.1), projection c entry.1, entry.2) :=
        if_pos (decide_eq_true closer)
      obtain ⟨result, found, le, least, which⟩ := ih (squareDistance c (projection c entry.1), projection c entry.1, entry.2)
      rw [step]
      refine ⟨result, found, le.trans closer.le, List.forall_mem_cons.mpr ⟨le, least⟩, .inr ?_⟩
      rcases which with same | ⟨entry', mem, same⟩
      · exact ⟨entry, List.mem_cons_self, same⟩
      · exact ⟨entry', List.mem_cons_of_mem _ mem, same⟩
    · have step : nearer c (some best) entry = some best := if_neg fun h => closer (of_decide_eq_true h)
      obtain ⟨result, found, le, least, which⟩ := ih best
      rw [step]
      refine ⟨result, found, le, List.forall_mem_cons.mpr ⟨le.trans (not_lt.mp closer), least⟩, ?_⟩
      rcases which with same | ⟨entry', mem, same⟩
      · exact .inl same
      · exact .inr ⟨entry', List.mem_cons_of_mem _ mem, same⟩

/-- The projection is a nearest point of the lanes. -/
theorem projectOntoSegments_spec (c : ℚ × ℚ) : ∃ best, projectOntoSegments c corridorSegments = some best ∧
    best.1 = squareDistance c best.2.1 ∧ (∃ lane ∈ corridorSegments, Contains lane best.2.1) ∧
    ∀ lane ∈ corridorSegments, ∀ q, Contains lane q → best.1 ≤ squareDistance c q := by
  obtain ⟨first, rest, split⟩ : ∃ first rest, corridorSegments.zipIdx = first :: rest := ⟨_, _, rfl⟩
  have inside {entry : ((ℚ × ℚ) × (ℚ × ℚ)) × Nat} (mem : entry ∈ first :: rest) : entry.1 ∈ corridorSegments := by
    rw [← split] at mem
    exact List.fst_mem_of_mem_zipIdx mem
  obtain ⟨best, found, le, least, which⟩ :=
    foldl_nearer (c := c) rest (squareDistance c (projection c first.1), projection c first.1, first.2)
  obtain ⟨entry, mem, same⟩ : ∃ entry ∈ first :: rest,
      best = (squareDistance c (projection c entry.1), projection c entry.1, entry.2) := by
    rcases which with same | ⟨entry, mem, same⟩
    · exact ⟨first, List.mem_cons_self, same⟩
    · exact ⟨entry, List.mem_cons_of_mem _ mem, same⟩
  refine ⟨best, ?_, by rw [same], ⟨entry.1, inside mem, by rw [same]; exact (projection_spec (inside mem)).1⟩, ?_⟩
  · have start : nearer c none first = some (squareDistance c (projection c first.1), projection c first.1, first.2) :=
      by simp only [nearer, Option.all_none, if_true]
    unfold projectOntoSegments
    rw [split, List.foldl_cons, start, found]
  · intro lane mem' q contains
    obtain ⟨i, listed⟩ : ∃ i, (lane, i) ∈ first :: rest := by
      obtain ⟨i, at_⟩ := List.mem_iff_getElem?.mp mem'
      refine ⟨i, ?_⟩
      rw [← split]
      exact List.mem_zipIdx_iff_getElem?.mpr at_
    have nearest : squareDistance c (projection c lane) ≤ squareDistance c q := (projection_spec mem').2 q contains
    rcases List.mem_cons.mp listed with equal | later
    · rw [show lane = first.1 from congrArg Prod.fst equal] at nearest
      exact le.trans nearest
    · exact (least _ later).trans nearest

end Firebot.Navigation
