import Firebot.Navigation.ReturnPaths

/-!
# When the way back is a shortest one

A path from anywhere but the waiting point comes there by the south, which is a detour unless the shortest way
does so too. And a projection on the southern transfer that is so near to another lane that it is taken for one
on that lane has to go to that lane first, also where it lies to the west of it. **Everywhere else the path is a
shortest one over the lanes** (`return_shortest_iff`). Nothing is said of the way from the pose to the lanes,
nor of a pose that is near none of them.
-/

namespace Firebot.Navigation

open Polyline Dijkstra Corridors

/-- The way over the graph is a shortest one over the lanes from here: the waiting point itself, the southern transfer
but for what lies just west of another lane, and those lanes up to the point from which the northern transfer is as
near. -/
def NoDetour (p : ℚ × ℚ) : Prop :=
  p = remoteWaiting ∨
    (p.2 = 1 ∧ ∀ lane ∈ corridorVerticals, ¬ (lane.1 - 1 / 1000000 < p.1 ∧ p.1 < lane.1)) ∨
      p.2 ≤ 134 / 5 ∧ ∃ lane ∈ corridorVerticals, lane.1 ≠ 6 / 5 ∧ p.1 = lane.1

variable {g : Corridors} {p foot : ℚ × ℚ} {node : Nat} {lane : (ℚ × ℚ) × (ℚ × ℚ)} {nodes : List Nat} {d : ℚ}

/-- The southern transfer ends at the eastern lane. -/
theorem transfer_end : ∀ lane ∈ corridorSegments, lane.1.2 ≤ 1 → lane.2.1 ≤ 40 := by
  norm_num [corridorSegments, corridorVerticals, corridorHorizontals]

/-- The lanes from south to north: the western one, and those between the transfers. -/
theorem columns_bounds : ∀ column ∈ corridorVerticals, (column.1 = 6 / 5 ∨ 8 ≤ column.1) ∧ column.1 ≤ 40 ∧
    ((column.1, column.2.1), (column.1, column.2.2)) ∈ corridorSegments ∧ column.2.1 = 1 ∧ 27 ≤ column.2.2 := by
  norm_num [corridorSegments, corridorVerticals, corridorHorizontals]

/-- The lanes from west to east: the southern transfer, and two by which one comes to the western lane. -/
theorem rows_bounds : ∀ row ∈ corridorHorizontals, (row.1 = 1 ∧ row.2.1 = 6 / 5 ∧ row.2.2 = 40) ∨
    (row.2.1 = 6 / 5 ∧ 27 ≤ row.1 ∧ row.1 ≤ 287 / 10) ∧
      ((row.2.1, row.1), (row.2.2, row.1)) ∈ corridorSegments := by
  norm_num [corridorSegments, corridorVerticals, corridorHorizontals]

/-- Nothing lies just west of the western lane. -/
theorem western_clear : ∀ lane ∈ corridorVerticals, ¬ (lane.1 - 1 / 1000000 < 6 / 5 ∧ 6 / 5 < lane.1) := by
  norm_num [corridorVerticals]

theorem western_mem : ((6 / 5, 1), (6 / 5, 287 / 10)) ∈ corridorSegments := by
  norm_num [corridorSegments, corridorVerticals, corridorHorizontals]

theorem northern_mem : ((6 / 5, 27), (40, 27)) ∈ corridorSegments := by
  norm_num [corridorSegments, corridorVerticals, corridorHorizontals]

theorem southern_mem : ((6 / 5, 1), (40, 1)) ∈ corridorSegments := by
  norm_num [corridorSegments, corridorVerticals, corridorHorizontals]

namespace LeastWay

variable (way : LeastWay g node nodes d) (joined : Joined g p node lane foot) (snaps : Snaps p lane foot)
  (on_lane : ∃ lane ∈ corridorSegments, Contains lane p)

include way joined snaps on_lane

/-- The path is a shortest one. -/
theorem shortest (noDetour : NoDetour p) : ShortestOnLanes ((nodes.map g.place).map real) := by
  obtain ⟨here, known, ⟨west, east⟩, south_, north⟩ := on_lane
  have corner : 6 / 5 ≤ p.1 := (lanes_corner here known).1.trans west
  rcases noDetour with here | ⟨south, clear⟩ | ⟨south, column, mem, other, at_⟩
  · exact way.shortest_remote joined here
  · have short : ((p.1 - 6 / 5 + (p.2 - 4 / 5) : ℚ) : ℝ) ≤ homeward (real p) := by
      refine toll_le_homeward (by rw [south]; norm_num) ?_
      rw [south, abs_sub_comm, abs_of_pos (by norm_num)]
      linarith
    rcases snaps.foot_cases with same | ⟨vertical, near, off, at_foot⟩
    · exact way.shortest_of_foot joined snaps same short
    · obtain ⟨_, column, mem, same⟩ := columns lane snaps.known vertical
      have outside := clear column mem
      have within : p.1 ≤ 40 := east.trans (transfer_end here known (south_.trans south.le))
      have east_ : lane.1.1 < p.1 := by
        rw [same] at outside
        refine lt_of_le_of_ne (not_lt.mp fun less => outside ⟨?_, less⟩) (Ne.symm off)
        linarith [(abs_lt.mp near).1]
      exact way.shortest_beside joined snaps south vertical near east_ short at_foot within
  · have short : ((p.1 - 6 / 5 + (p.2 - 4 / 5) : ℚ) : ℝ) ≤ homeward (real p) := by
      have far := (columns_bounds column mem).1.resolve_left other
      have up := le_abs_self (p.2 - 6 / 5)
      refine toll_le_homeward south ?_
      rw [at_]
      linarith
    rcases snaps.foot_cases with same | ⟨vertical, near, off, _⟩
    · exact way.shortest_of_foot joined snaps same short
    · obtain ⟨_, column', mem', same⟩ := columns lane snaps.known vertical
      rw [at_, ← same] at near off
      have equal := columns_apart column mem column' mem' (near.trans (by norm_num))
      exact absurd (congrArg Prod.fst equal) off

/-- Just west of a lane the path goes east first. -/
theorem not_shortest_beside (south : p.2 = 1) (corner : 6 / 5 ≤ p.1) (within : p.1 ≤ 40) {column : ℚ × ℚ × ℚ}
    (mem : column ∈ corridorVerticals) (beside : column.1 - 1 / 1000000 < p.1) (west : p.1 < column.1) :
    ¬ ShortestOnLanes ((nodes.map g.place).map real) := by
  have near : |p.1 - column.1| < 1 / 1000000 := abs_lt.mpr ⟨by linarith, by linarith⟩
  obtain ⟨_, _, _, lower, upper⟩ := columns_bounds column mem
  obtain ⟨vertical, near'⟩ : lane.1.1 = lane.2.1 ∧ |p.1 - lane.1.1| < 1 / 1000000 := by
    refine snaps.which.resolve_right fun apart => laneOf_ne_none mem near ?_ apart.2
    rw [south]
    exact ⟨lower.le, le_trans (by norm_num) upper⟩
  have same : lane.1.1 = column.1 := by
    obtain ⟨_, column', mem', same⟩ := columns lane snaps.known vertical
    rw [← same] at near' ⊢
    have close := abs_sub_le column'.1 p.1 column.1
    rw [abs_sub_comm column'.1 p.1] at close
    rw [columns_apart column' mem' column mem (close.trans_lt (by linarith))]
  obtain ⟨a, rest, a_cases, split, _, _, toll⟩ := way.beside joined snaps vertical near' (same ▸ west.ne)
  have at_ : a.1 = column.1 := by
    rcases a_cases with rfl | rfl
    · exact same
    · exact vertical.symm.trans same
  have first : column.1 - p.1 ≤ leg p a := by
    have nonneg := abs_nonneg (p.2 - a.2)
    have east := neg_le_abs (p.1 - a.1)
    rw [at_] at east
    unfold leg
    rw [at_]
    linarith
  have back : column.1 - 6 / 5 ≤ leg a southWest := by
    have nonneg := abs_nonneg (a.2 - southWest.2)
    have east := le_abs_self (a.1 - southWest.1)
    unfold leg
    rw [at_] at east ⊢
    exact le_add_of_le_of_nonneg east nonneg
  refine not_shortestOnLanes [p, southWest, remoteWaiting] (way.head joined).symm rfl ?_ ?_
  · refine .cons_cons ⟨_, southern_mem, ⟨⟨corner, within⟩, south.ge, south.le⟩, by decide +kernel⟩ ?_
    exact .cons_cons ⟨_, western_mem, by decide +kernel⟩ (.singleton _)
  · have up : leg southWest remoteWaiting = 1 / 5 := by decide +kernel
    rw [split, length_cons_cons, length_cons_cons, length_cons_cons, length_singleton, leg_southWest on_lane, up, south]
    linarith

/-- The path is not a shortest one. -/
theorem not_shortest (detour : ¬ NoDetour p) : ¬ ShortestOnLanes ((nodes.map g.place).map real) := by
  have away : p ≠ remoteWaiting := fun here => detour (.inl here)
  have other : node ≠ 13 := fun same => away (by rw [← joined.place_node, same, joined.place_remote])
  have toll : p.1 - 6 / 5 + (p.2 - 1) + 1 / 5 ≤ length (nodes.map g.place) := by
    have bound := joined.toll_le_length snaps other other way.walk
    rwa [joined.place_node, leg_southWest on_lane] at bound
  rcases contains_cases on_lane with ⟨column, mem, at_, south, north⟩ | ⟨row, mem, at_, west, east⟩
  · obtain ⟨far, within, known, lower, upper⟩ := columns_bounds column mem
    rw [at_] at toll
    rcases far with western | far
    · have above : 1 < p.2 := by
        refine lt_of_le_of_ne (lower ▸ south) fun south' => detour (.inr (.inl ⟨south'.symm, ?_⟩))
        rw [at_, western]
        exact western_clear
      have direct : length [p, remoteWaiting] = |p.2 - 6 / 5| := by
        show |p.1 - 6 / 5| + |p.2 - 6 / 5| + 0 = _
        rw [at_, western, sub_self, abs_zero, zero_add, add_zero]
      refine not_shortestOnLanes [p, remoteWaiting] (way.head joined).symm rfl ?_ ?_
      · refine .cons_cons ⟨_, known, ⟨⟨at_.ge, at_.le⟩, south, north⟩, ⟨western.le, western.ge⟩, ?_⟩ (.singleton _)
        exact ⟨lower.le.trans (by decide +kernel), le_trans (by decide +kernel) upper⟩
      · rw [direct, abs_lt]
        rw [western] at toll
        constructor <;> linarith
    · have above : 134 / 5 < p.2 := by
        refine not_le.mp fun below => detour (.inr (.inr ⟨below, column, mem, fun same => ?_, at_⟩))
        linarith
      have north_leg : leg p (column.1, 27) = |p.2 - 27| := by
        unfold leg
        rw [at_, sub_self, abs_zero, zero_add]
      have west_leg : leg (column.1, 27) (6 / 5, 27) = column.1 - 6 / 5 := by
        unfold leg
        rw [sub_self, abs_zero, add_zero, abs_of_nonneg (by linarith)]
      have south_leg : leg (6 / 5, 27) remoteWaiting = 129 / 5 := by decide +kernel
      refine not_shortestOnLanes [p, (column.1, 27), (6 / 5, 27), remoteWaiting] (way.head joined).symm rfl ?_ ?_
      · refine .cons_cons ⟨_, known, ⟨⟨at_.ge, at_.le⟩, south, north⟩, ⟨le_rfl, le_rfl⟩, ?_, upper⟩ (.cons_cons
          ⟨_, northern_mem, ⟨⟨?_, within⟩, le_rfl, le_rfl⟩, by decide +kernel⟩ (.cons_cons
            ⟨_, western_mem, by decide +kernel⟩ (.singleton _)))
        · exact lower.le.trans (by norm_num)
        · exact le_trans (by decide +kernel) far
      · rw [length_cons_cons, length_cons_cons, length_cons_cons, length_singleton, north_leg, west_leg, south_leg]
        have near : |p.2 - 27| < p.2 - 133 / 5 := abs_lt.mpr ⟨by linarith, by linarith⟩
        linarith
  · rcases rows_bounds row mem with ⟨southern, first, last⟩ | ⟨⟨first, north, last⟩, known⟩
    · rw [southern] at at_
      by_contra shortest
      refine detour (.inr (.inl ⟨at_, fun column mem' beside => ?_⟩))
      exact way.not_shortest_beside joined snaps on_lane at_ (first ▸ west) (last ▸ east) mem' beside.1 beside.2 shortest
    · have corner : 6 / 5 ≤ p.1 := first ▸ west
      have west_leg : leg p (6 / 5, row.1) = p.1 - 6 / 5 := by
        unfold leg
        rw [at_, sub_self, abs_zero, add_zero, abs_of_nonneg (sub_nonneg.mpr corner)]
      have south_leg : leg (6 / 5, row.1) remoteWaiting = row.1 - 6 / 5 := by
        show |6 / 5 - 6 / 5| + |row.1 - 6 / 5| = _
        rw [sub_self, abs_zero, zero_add, abs_of_nonneg (by linarith)]
      rw [at_] at toll
      refine not_shortestOnLanes [p, (6 / 5, row.1), remoteWaiting] (way.head joined).symm rfl ?_ ?_
      · refine .cons_cons ⟨_, known, ⟨⟨west, east⟩, at_.ge, at_.le⟩, ⟨first.le, corner.trans east⟩, le_rfl, le_rfl⟩
          (.cons_cons ⟨_, western_mem, ⟨⟨le_rfl, le_rfl⟩, le_trans (by decide +kernel) north, last⟩, by decide +kernel⟩
            (.singleton _))
      · rw [length_cons_cons, length_cons_cons, length_singleton, west_leg, south_leg]
        linarith

end LeastWay

/-! ## The waypoints -/

theorem nodeWaypoint_point (q : ℚ × ℚ) : (nodeWaypoint q).point = q := by
  unfold nodeWaypoint
  split <;> rfl

/-- A waypoint somewhere else than the last one is kept. -/
theorem keepWaypoint_of_ne {out : List ReturnWaypoint} {last waypoint : ReturnWaypoint}
    (apart : last.point ≠ waypoint.point) : keepWaypoint (out ++ [last]) waypoint = out ++ [last] ++ [waypoint] := by
  unfold keepWaypoint
  rw [List.getLast?_concat]
  refine if_pos ?_
  by_contra same
  obtain ⟨x, y⟩ := not_or.mp same
  exact apart (Prod.ext (not_not.mp x) (not_not.mp y))

/-- One at the same place is not. -/
theorem keepWaypoint_of_eq {out : List ReturnWaypoint} {last waypoint : ReturnWaypoint}
    (same : last.point = waypoint.point) : keepWaypoint (out ++ [last]) waypoint = out ++ [last] := by
  unfold keepWaypoint
  rw [List.getLast?_concat]
  refine if_neg ?_
  rintro (x | y)
  · exact x (congrArg Prod.fst same)
  · exact y (congrArg Prod.snd same)

/-- Where no waypoint is at the place of the one before, all are kept. -/
theorem foldl_keepWaypoint {out rest : List ReturnWaypoint} {last : ReturnWaypoint}
    (apart : (last :: rest).IsChain fun a b => a.point ≠ b.point) :
    rest.foldl keepWaypoint (out ++ [last]) = out ++ last :: rest := by
  induction rest generalizing out last with
  | nil => rfl
  | cons waypoint rest ih =>
    obtain ⟨ne, apart'⟩ := List.isChain_cons_cons.mp apart
    rw [List.foldl_cons, keepWaypoint_of_ne ne, ih apart', List.append_assoc]
    rfl

/-- Of a way with no place twice all are kept, but for the place that it begins at where that is the pose. -/
theorem dedupeWaypoints_way {c q : ℚ × ℚ} {rest : List (ℚ × ℚ)} (distinct : (q :: rest).Nodup) :
    (dedupeWaypoints (transitWaypoint c :: (q :: rest).map nodeWaypoint)).map (·.point) =
      if c = q then q :: rest else c :: q :: rest := by
  have points (path : List (ℚ × ℚ)) : (path.map nodeWaypoint).map (·.point) = path := by
    rw [List.map_map]
    exact (List.map_congr_left fun x _ => nodeWaypoint_point x).trans (List.map_id _)
  have apart : ((q :: rest).map nodeWaypoint).IsChain fun a b => a.point ≠ b.point := by
    rw [List.isChain_map]
    simp only [nodeWaypoint_point]
    exact distinct.isChain
  show (((q :: rest).map nodeWaypoint).foldl keepWaypoint ([] ++ [transitWaypoint c])).map (·.point) = _
  by_cases same : c = q
  · have apart' : (transitWaypoint c :: rest.map nodeWaypoint).IsChain fun a b => a.point ≠ b.point := by
      rw [List.map_cons, List.isChain_cons] at apart
      rw [List.isChain_cons]
      refine ⟨fun waypoint first => ?_, apart.2⟩
      have ne := apart.1 waypoint first
      rwa [nodeWaypoint_point, ← same] at ne
    have here : (transitWaypoint c).point = (nodeWaypoint q).point := same.trans (nodeWaypoint_point q).symm
    rw [if_pos same, List.map_cons, List.foldl_cons, keepWaypoint_of_eq here, foldl_keepWaypoint apart',
      List.nil_append, List.map_cons, points]
    exact congrArg (· :: rest) same
  · have apart' : (transitWaypoint c :: (q :: rest).map nodeWaypoint).IsChain fun a b => a.point ≠ b.point :=
      List.isChain_cons_cons.mpr ⟨fun equal => same (equal.trans (nodeWaypoint_point q)), apart⟩
    rw [if_neg same, foldl_keepWaypoint apart', List.nil_append, List.map_cons, points]
    rfl

/-! ## The way back -/

/-- A pose that is within two metres of a lane. -/
structure NearPose where
  point : ℚ × ℚ
  near : ∃ lane ∈ corridorSegments, ∃ q, Contains lane q ∧ squareDistance point q ≤ 4

/-- The projection is on the lanes, and the path is what the search finds from there on the graph that it is joined
to. -/
theorem plannedPath_spec (pose : NearPose) : (∃ lane ∈ corridorSegments, Contains lane (projected pose.point)) ∧
    ∃ g node lane foot, Snaps (projected pose.point) lane foot ∧ Joined g (projected pose.point) node lane foot ∧
      ∀ fuel, plannedPath id pose.point fuel =
        (g.adjacency.dijkstra node 13 fuel).map fun found => found.map fun path => path.map g.place := by
  obtain ⟨best, found, own, on_lane, least⟩ := projectOntoSegments_spec pose.point
  obtain ⟨here, known, q, inside, near⟩ := pose.near
  have at_ : projected pose.point = best.2.1 := by
    unfold projected
    rw [found]
    rfl
  have within : ¬ 4 < best.1 := not_lt.mpr ((least here known q inside).trans near)
  rw [at_]
  obtain ⟨lane, foot, snaps, joined⟩ := joined_joinProjection (added_idx best.2.1) on_lane
  refine ⟨on_lane, _, _, lane, foot, snaps, joined, fun fuel => ?_⟩
  obtain ⟨listed, index⟩ := joined.remote
  unfold plannedPath
  rw [found, Option.bind_some, if_neg within]
  dsimp only
  have same_graph : corridorGraph id = corridors := rfl
  have same_key : Corridors.key id remoteWaiting = remoteWaiting := rfl
  rw [same_graph, same_key, if_neg (not_not.mpr listed), index]
  rfl

/-- The way back is not the fallback, begins at the pose and ends at the waiting point, and after the pose it is the path
from the projection on, which is the pose itself where that lies on a lane. -/
structure ReturnsHome (c : ℚ × ℚ) (fuel : Nat) (path : List (ℚ × ℚ)) (route : List ReturnWaypoint) : Prop where
  planned : plannedPath id c fuel = some (some path)
  built : buildReturnWaypoints id c fuel = some route
  first : route.head?.map (·.point) = some c
  last : route.getLast?.map (·.point) = some remoteWaiting
  start : path.head? = some (projected c)
  after : route.map (·.point) = if c = projected c then path else c :: path

theorem LeastWay.returnsHome {c : ℚ × ℚ} {fuel : Nat} (way : LeastWay g node nodes d)
    (joined : Joined g (projected c) node lane foot) (snaps : Snaps (projected c) lane foot)
    (planned : plannedPath id c fuel = some (some (nodes.map g.place))) :
    ∃ route, ReturnsHome c fuel (nodes.map g.place) route := by
  have head := way.head joined
  have last := way.getLast joined
  have distinct : (nodes.map g.place).Nodup := way.distinct.map_on fun x mem y mem' same =>
    joined.place_inj (joined.node_cases snaps way.walk x mem) (joined.node_cases snaps way.walk y mem') same
  obtain ⟨rest, split⟩ : ∃ rest, nodes.map g.place = projected c :: rest := List.head?_eq_some_iff.mp head
  have built : buildReturnWaypoints id c fuel =
      some (dedupeWaypoints (transitWaypoint c :: (nodes.map g.place).map nodeWaypoint)) := by
    unfold buildReturnWaypoints
    rw [planned]
    rfl
  rw [split] at distinct last
  have after := dedupeWaypoints_way (c := c) distinct
  rw [← split] at after
  refine ⟨_, planned, built, ?_, ?_, head, after.trans ?_⟩
  · rw [← List.head?_map, after, split]
    split_ifs with same
    · exact congrArg some same.symm
    · rfl
  · rw [← List.getLast?_map, after, split]
    split_ifs with same
    · exact last
    · rw [List.getLast?_cons_cons, last]
  · rw [split]

/-- From every pose near the lanes the way back is found, and from the projection on it is a shortest one over the lanes
exactly where there is no detour. -/
theorem return_shortest_iff (pose : NearPose) : ∃ bound, ∀ fuel ≥ bound, ∃ path route,
    ReturnsHome pose.point fuel path route ∧
      (ShortestOnLanes (path.map real) ↔ NoDetour (projected pose.point)) := by
  obtain ⟨on_lane, g, node, lane, foot, snaps, joined, planned⟩ := plannedPath_spec pose
  obtain ⟨bound, enough⟩ := joined.found snaps
  refine ⟨bound, fun fuel le => ?_⟩
  obtain ⟨nodes, d, ran, way⟩ := enough fuel le
  have planned' : plannedPath id pose.point fuel = some (some (nodes.map g.place)) := by
    rw [planned fuel, ran]
    rfl
  obtain ⟨route, home⟩ := way.returnsHome joined snaps planned'
  refine ⟨_, route, home, fun shortest => ?_, way.shortest joined snaps on_lane⟩
  by_contra detour
  exact way.not_shortest joined snaps on_lane detour shortest

/-- On the western lane one drives past the waiting point and turns back at the southern end. -/
theorem western_detour : ∃ pose : NearPose, pose.point = (6 / 5, 10) ∧ ∃ path, path.head? = some (projected pose.point) ∧
    (buildReturnWaypoints id pose.point 40).map (·.map (·.point)) = some path ∧
      ¬ ShortestOnLanes (path.map real) := by
  have near : ∃ lane ∈ corridorSegments, ∃ q, Contains lane q ∧ squareDistance (6 / 5, 10) q ≤ 4 :=
    ⟨_, western_mem, (6 / 5, 10), by decide +kernel, by decide +kernel⟩
  have own : projected (6 / 5, 10) = (6 / 5, 10) := by decide +kernel
  have route : (buildReturnWaypoints id (6 / 5, 10) 40).map (·.map (·.point)) =
      some [(6 / 5, 10), (6 / 5, 1), remoteWaiting] := by
    decide +kernel
  refine ⟨⟨(6 / 5, 10), near⟩, rfl, [(6 / 5, 10), (6 / 5, 1), remoteWaiting], congrArg some own.symm, route, ?_⟩
  refine not_shortestOnLanes [(6 / 5, 10), remoteWaiting] rfl rfl ?_ (by decide +kernel)
  exact .cons_cons ⟨_, western_mem, by decide +kernel⟩ (.singleton _)

end Firebot.Navigation
