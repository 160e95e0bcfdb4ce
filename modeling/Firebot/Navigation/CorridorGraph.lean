import Firebot.Navigation.LaneNetwork

/-!
# The graph of the lanes, joined to a point

Every edge of the graph is a leg on a lane, with the length of the leg, and the waiting point has one edge only, from
the southern end of the western lane. From every other node a way leads there by the south, as long as the direct
way parallel to the axes.

`Joined` is what becomes of the graph when a point is joined to the two ends of a lane: four more edges.
-/

namespace Firebot.Navigation

open Polyline Dijkstra Corridors

/-- The graph of the lanes, with keys that are not rounded. -/
def corridors : Corridors := corridorGraph id

/-- `node_xy[node]`. -/
def Corridors.place (g : Corridors) (node : Nat) : ℚ × ℚ := g.nodeXy.getD node (0, 0)

/-- The southern end of the western lane. -/
def southWest : ℚ × ℚ := (6 / 5, 1)

/-- An edge is a leg on a lane, and leads to the waiting point from the southern end of the western lane only. -/
def EdgeFits (u : Nat) (e : Nat × ℚ) : Prop :=
  e.1 < 14 ∧ e.2 = leg (corridors.place u) (corridors.place e.1) ∧
    (∃ lane ∈ corridorSegments, Contains lane (corridors.place u) ∧ Contains lane (corridors.place e.1)) ∧
      (e.1 = 13 → u = 0)

instance (u : Nat) (e : Nat × ℚ) : Decidable (EdgeFits u e) := inferInstanceAs (Decidable (_ ∧ _))

/-- The way from a node by the south. -/
def homeNodes : Nat → List Nat
  | 0 => [0, 13]
  | 1 => [1, 0, 13]
  | 2 => [2, 1, 0, 13]
  | 3 => [3, 0, 13]
  | 4 => [4, 3, 0, 13]
  | 5 => [5, 3, 0, 13]
  | 6 => [6, 5, 3, 0, 13]
  | 7 => [7, 5, 3, 0, 13]
  | 8 => [8, 7, 5, 3, 0, 13]
  | 9 => [9, 7, 5, 3, 0, 13]
  | 10 => [10, 9, 7, 5, 3, 0, 13]
  | 11 => [11, 10, 9, 7, 5, 3, 0, 13]
  | node => [node, 11, 10, 9, 7, 5, 3, 0, 13]

/-- What there is in the graph: its nodes, among them the ends of the lanes, its edges, and the ways by the south. -/
structure CorridorTable : Prop where
  length : corridors.nodeXy.length = 14
  nodup : corridors.nodeXy.Nodup
  remote : corridors.nodeXy.idxOf remoteWaiting = 13
  corner : corridors.nodeXy.idxOf southWest = 0
  ends : ∀ lane ∈ corridorSegments, corridors.nodeXy.idxOf lane.1 < 13 ∧ corridors.nodeXy.idxOf lane.2 < 13
  keys : ∀ u ∈ corridors.adjacency.keys, u < 14
  edges : ∀ u < 14, ∀ e ∈ corridors.adjacency.next u, EdgeFits u e
  along : ∀ u < 13, along corridors.adjacency.next (homeNodes u) = some (leg (corridors.place u) southWest + 1 / 5)

theorem corridors_table : CorridorTable where
  length := by decide +kernel
  nodup := by decide +kernel
  remote := by decide +kernel
  corner := by decide +kernel
  ends := by decide +kernel
  keys := by decide +kernel
  edges := by decide +kernel
  along := by decide +kernel

/-- A point becomes a node: one that there is, or a new one. -/
structure Added (p : ℚ × ℚ) (node : Nat) (g : Corridors) : Prop where
  adjacency : g.adjacency = corridors.adjacency
  place_node : g.place node = p
  place_old : ∀ u < 14, g.place u = corridors.place u
  index : ∀ q ∈ corridors.nodeXy, q ∈ g.nodeXy ∧ g.nodeXy.idxOf q = corridors.nodeXy.idxOf q
  new : node < 14 ∨ node = 14 ∧ p ∉ corridors.nodeXy

theorem homeNodes_ends : ∀ u < 13, homeNodes u = u :: (homeNodes u).tail ∧ (homeNodes u).getLast? = some 13 := by
  decide

/-- From every node but the waiting point a way leads there by the south. -/
theorem walk_homeNodes {u : Nat} (node : u < 13) : Walk corridors.adjacency.next u (homeNodes u) 13
    (leg (corridors.place u) southWest + 1 / 5) := by
  obtain ⟨first, last⟩ := homeNodes_ends u node
  have found := corridors_table.along u node
  rw [first] at found last ⊢
  exact walk_of_along found last

theorem corridors_next_of_le {u : Nat} (beyond : 14 ≤ u) : corridors.adjacency.next u = [] :=
  Adjacency.next_of_not_mem _ fun mem =>
    absurd (corridors_table.keys u (List.mem_toFinset.mp mem)) (not_lt.mpr beyond)

theorem edgeFits {u : Nat} {e : Nat × ℚ} (edge : e ∈ corridors.adjacency.next u) : u < 14 ∧ EdgeFits u e := by
  rcases lt_or_ge u 14 with node | beyond
  · exact ⟨node, corridors_table.edges u node e edge⟩
  · rw [corridors_next_of_le beyond] at edge
    cases edge

theorem place_idxOf {q : ℚ × ℚ} (mem : q ∈ corridors.nodeXy) : corridors.place (corridors.nodeXy.idxOf q) = q := by
  unfold Corridors.place
  rw [List.getD_eq_getElem?_getD, List.getElem?_idxOf mem]
  rfl

theorem mem_nodeXy_of_idxOf_lt {q : ℚ × ℚ} (node : corridors.nodeXy.idxOf q < 14) : q ∈ corridors.nodeXy :=
  List.idxOf_lt_length_iff.mp (corridors_table.length.symm ▸ node)

/-! ## A point is joined -/

section

variable {g : Corridors} {u v node : Nat} {w : ℚ} {e : Nat × ℚ} {p q : ℚ × ℚ}

theorem mem_next_append : e ∈ (g.append u v w).adjacency.next node ↔
    e ∈ g.adjacency.next node ∨ node = u ∧ e = (v, w) := by
  unfold Corridors.append Adjacency.next
  by_cases same : node = u
  · rw [same, AList.lookup_insert, Option.getD_some, List.mem_append, List.mem_singleton]
    exact or_congr_right (and_iff_right rfl).symm
  · rw [AList.lookup_insert_ne same]
    exact (or_iff_left fun h => same h.1).symm

theorem added_idx (p : ℚ × ℚ) : Added p (corridors.idx id p).1 (corridors.idx id p).2 := by
  have same : Corridors.key id p = p := rfl
  unfold Corridors.idx
  rw [same]
  by_cases known : p ∈ corridors.nodeXy
  · rw [if_pos known]
    refine ⟨rfl, place_idxOf known, fun _ _ => rfl, fun q mem => ⟨mem, rfl⟩, .inl ?_⟩
    rw [← corridors_table.length]
    exact List.idxOf_lt_length_of_mem known
  · rw [if_neg known]
    refine ⟨rfl, ?_, fun u old => ?_, fun q mem => ⟨List.mem_append_left _ mem, List.idxOf_append_of_mem mem⟩,
      .inr ⟨corridors_table.length, known⟩⟩
    · show (corridors.nodeXy ++ [p]).getD corridors.nodeXy.length (0, 0) = p
      rw [List.getD_eq_getElem?_getD, List.getElem?_concat_length]
      rfl
    · rw [← corridors_table.length] at old
      show (corridors.nodeXy ++ [p]).getD u (0, 0) = corridors.nodeXy.getD u (0, 0)
      rw [List.getD_eq_getElem?_getD, List.getD_eq_getElem?_getD, List.getElem?_append_left old]

end

/-- The lane that a point is joined to, and the point of it at the same height: the point itself, or one on a lane
from south to north that is so near that the point is taken for one on that lane. -/
structure Snaps (p : ℚ × ℚ) (lane : (ℚ × ℚ) × (ℚ × ℚ)) (foot : ℚ × ℚ) : Prop where
  known : lane ∈ corridorSegments
  inside : Contains lane foot
  level : foot.2 = p.2
  which : (lane.1.1 = lane.2.1 ∧ |p.1 - lane.1.1| < 1 / 1000000) ∨
    (foot = p ∧ laneOf corridorVerticals p.1 p.2 = none)

/-- The graph with a point joined to the two ends of a lane, with the lengths that they have from its foot. -/
structure Joined (g : Corridors) (p : ℚ × ℚ) (node : Nat) (lane : (ℚ × ℚ) × (ℚ × ℚ)) (foot : ℚ × ℚ) : Prop where
  edges : ∀ u e, e ∈ g.adjacency.next u ↔ e ∈ corridors.adjacency.next u ∨
    u = node ∧ (e = (corridors.nodeXy.idxOf lane.1, leg foot lane.1) ∨ e = (corridors.nodeXy.idxOf lane.2, leg foot lane.2)) ∨
    u = corridors.nodeXy.idxOf lane.1 ∧ e = (node, leg foot lane.1) ∨
    u = corridors.nodeXy.idxOf lane.2 ∧ e = (node, leg foot lane.2)
  place_node : g.place node = p
  place_old : ∀ u < 14, g.place u = corridors.place u
  remote : remoteWaiting ∈ g.nodeXy ∧ g.nodeXy.idxOf remoteWaiting = 13
  new : node < 14 ∨ node = 14 ∧ p ∉ corridors.nodeXy

theorem joined_join {g : Corridors} {p foot : ℚ × ℚ} {node : Nat} {lane : (ℚ × ℚ) × (ℚ × ℚ)} (added : Added p node g)
    (mem : lane ∈ corridorSegments) :
    Joined (g.join id node lane.1 lane.2 (leg foot lane.1) (leg foot lane.2)) p node lane foot := by
  obtain ⟨a_lt, b_lt⟩ := corridors_table.ends lane mem
  have a_mem := mem_nodeXy_of_idxOf_lt (a_lt.trans (by decide))
  have b_mem := mem_nodeXy_of_idxOf_lt (b_lt.trans (by decide))
  have remote_mem : remoteWaiting ∈ corridors.nodeXy := by
    refine mem_nodeXy_of_idxOf_lt ?_
    rw [corridors_table.remote]
    decide
  refine ⟨fun u e => ?_, added.place_node, added.place_old, ⟨(added.index _ remote_mem).1, ?_⟩, added.new⟩
  · have a_index : g.nodeXy.idxOf (Corridors.key id lane.1) = corridors.nodeXy.idxOf lane.1 := (added.index _ a_mem).2
    have b_index : g.nodeXy.idxOf (Corridors.key id lane.2) = corridors.nodeXy.idxOf lane.2 := (added.index _ b_mem).2
    unfold Corridors.join
    simp only
    rw [a_index, b_index, mem_next_append, mem_next_append, mem_next_append, mem_next_append, added.adjacency]
    tauto
  · exact (added.index _ remote_mem).2.trans corridors_table.remote

/-! ## Which lane -/

theorem laneOf_eq_some {lanes : List (ℚ × ℚ × ℚ)} {across along : ℚ} {lane : ℚ × ℚ × ℚ}
    (found : laneOf lanes across along = some lane) :
    lane ∈ lanes ∧ |across - lane.1| < 1 / 1000000 ∧ lane.2.1 ≤ along ∧ along ≤ lane.2.2 := by
  have meets := List.find?_some found
  simp only [Bool.and_eq_true, decide_eq_true_eq, and_assoc] at meets
  exact ⟨List.mem_of_find?_eq_some found, meets⟩

theorem laneOf_ne_none {lanes : List (ℚ × ℚ × ℚ)} {across along : ℚ} {lane : ℚ × ℚ × ℚ} (mem : lane ∈ lanes)
    (near : |across - lane.1| < 1 / 1000000) (within : lane.2.1 ≤ along ∧ along ≤ lane.2.2) :
    laneOf lanes across along ≠ none := by
  intro none_
  have off := List.find?_eq_none.mp none_ lane mem
  simp only [Bool.and_eq_true, decide_eq_true_eq, and_assoc] at off
  exact off ⟨near, within⟩

/-- A lane from west to east at nearly the same height is the same one. -/
theorem rows_apart : ∀ lane ∈ corridorHorizontals, ∀ lane' ∈ corridorHorizontals,
    |lane.1 - lane'.1| < 1 / 1000000 → lane = lane' := by
  norm_num [corridorHorizontals, abs_lt]

/-- So is a lane from south to north nearly as far east. -/
theorem columns_apart : ∀ lane ∈ corridorVerticals, ∀ lane' ∈ corridorVerticals,
    |lane.1 - lane'.1| < 1 / 500000 → lane = lane' := by
  norm_num [corridorVerticals, abs_lt]

/-- What a point of the lanes is on. -/
theorem contains_cases {p : ℚ × ℚ} (on_lane : ∃ lane ∈ corridorSegments, Contains lane p) :
    (∃ lane ∈ corridorVerticals, p.1 = lane.1 ∧ lane.2.1 ≤ p.2 ∧ p.2 ≤ lane.2.2) ∨
      ∃ lane ∈ corridorHorizontals, p.2 = lane.1 ∧ lane.2.1 ≤ p.1 ∧ p.1 ≤ lane.2.2 := by
  obtain ⟨segment, mem, ⟨west, east⟩, south, north⟩ := on_lane
  rcases List.mem_append.mp mem with column | row
  · obtain ⟨lane, listed, rfl⟩ := List.mem_map.mp column
    exact .inl ⟨lane, listed, le_antisymm east west, south, north⟩
  · obtain ⟨lane, listed, rfl⟩ := List.mem_map.mp row
    exact .inr ⟨lane, listed, le_antisymm north south, west, east⟩

/-- The projection is joined to the ends of a lane. -/
theorem joined_joinProjection {g : Corridors} {p : ℚ × ℚ} {node : Nat} (added : Added p node g)
    (on_lane : ∃ lane ∈ corridorSegments, Contains lane p) :
    ∃ lane foot, Snaps p lane foot ∧ Joined (g.joinProjection id p node) p node lane foot := by
  unfold Corridors.joinProjection
  cases column : laneOf corridorVerticals p.1 p.2 with
  | some lane =>
    obtain ⟨x, south, north⟩ := lane
    obtain ⟨mem, near, above, below⟩ := laneOf_eq_some column
    have known : ((x, south), (x, north)) ∈ corridorSegments := List.mem_append_left _ (List.mem_map_of_mem mem)
    have to_south : leg (x, p.2) (x, south) = |p.2 - south| := by simp [leg]
    have to_north : leg (x, p.2) (x, north) = |north - p.2| := by simp [leg, abs_sub_comm]
    refine ⟨((x, south), (x, north)), (x, p.2), ⟨known, ⟨⟨le_rfl, le_rfl⟩, above, below⟩, rfl, .inl ⟨rfl, near⟩⟩, ?_⟩
    have joined : Joined _ p node _ (x, p.2) := joined_join added known
    rwa [to_south, to_north] at joined
  | none =>
    rcases contains_cases on_lane with ⟨lane, mem, same, within⟩ | ⟨lane, mem, same, west, east⟩
    · refine absurd column (laneOf_ne_none mem ?_ within)
      rw [same, sub_self, abs_zero]
      norm_num
    · cases row : laneOf corridorHorizontals p.2 p.1 with
      | none =>
        refine absurd row (laneOf_ne_none mem ?_ ⟨west, east⟩)
        rw [same, sub_self, abs_zero]
        norm_num
      | some lane' =>
        obtain ⟨mem', near, _, _⟩ := laneOf_eq_some row
        rw [same] at near
        obtain rfl := rows_apart lane mem lane' mem' near
        obtain ⟨y, xmin, xmax⟩ := lane
        have known : ((xmin, y), (xmax, y)) ∈ corridorSegments := List.mem_append_right _ (List.mem_map_of_mem mem)
        have level : p.2 - y = 0 := sub_eq_zero.mpr same
        have to_west : leg p (xmin, y) = |p.1 - xmin| := by simp [leg, level]
        have to_east : leg p (xmax, y) = |xmax - p.1| := by simp [leg, level, abs_sub_comm]
        refine ⟨((xmin, y), (xmax, y)), p, ⟨known, ⟨⟨west, east⟩, same.ge, same.le⟩, rfl, .inr ⟨rfl, column⟩⟩, ?_⟩
        have joined : Joined _ p node _ p := joined_join added known
        rwa [to_west, to_east] at joined

end Firebot.Navigation
