import Firebot.Navigation.CorridorGraph

/-!
# Paths over the graph with a point joined

The projection is joined to the ends of its lane and not to the nodes between them, and the waiting point lies between
the ends of the western lane: a path from elsewhere comes to it from the southern end of that lane (`toll_le_length`).
A projection that is its own foot gives edges that are legs on lanes with their own lengths; from one that is just
beside a lane the way goes to one of the ends of that lane first (`LeastWay.beside`).
-/

namespace Firebot.Navigation

open Polyline Dijkstra Corridors

variable {g : Corridors} {p foot : ℚ × ℚ} {node u v : Nat} {lane : (ℚ × ℚ) × (ℚ × ℚ)} {nodes : List Nat} {d : ℚ}

theorem place_zero : corridors.place 0 = southWest := by
  have known : southWest ∈ corridors.nodeXy := by
    refine mem_nodeXy_of_idxOf_lt ?_
    rw [corridors_table.corner]
    decide
  have index := place_idxOf known
  rwa [corridors_table.corner] at index

theorem remoteWaiting_mem : remoteWaiting ∈ corridors.nodeXy := by
  refine mem_nodeXy_of_idxOf_lt ?_
  rw [corridors_table.remote]
  decide

theorem place_remote : corridors.place 13 = remoteWaiting := by
  have index := place_idxOf remoteWaiting_mem
  rwa [corridors_table.remote] at index

/-- The end of a lane is a node, and not the waiting point. -/
theorem lane_ends (known : lane ∈ corridorSegments) :
    (corridors.nodeXy.idxOf lane.1 < 13 ∧ corridors.place (corridors.nodeXy.idxOf lane.1) = lane.1) ∧
      corridors.nodeXy.idxOf lane.2 < 13 ∧ corridors.place (corridors.nodeXy.idxOf lane.2) = lane.2 := by
  obtain ⟨a_lt, b_lt⟩ := corridors_table.ends lane known
  exact ⟨⟨a_lt, place_idxOf (mem_nodeXy_of_idxOf_lt (a_lt.trans (by decide)))⟩,
    b_lt, place_idxOf (mem_nodeXy_of_idxOf_lt (b_lt.trans (by decide)))⟩

theorem place_eq {u : Nat} (node : u < corridors.nodeXy.length) : corridors.place u = corridors.nodeXy[u] := by
  unfold Corridors.place
  rw [List.getD_eq_getElem?_getD, List.getElem?_eq_getElem node]
  rfl

theorem place_mem (u : Nat) (node : u < 14) : corridors.place u ∈ corridors.nodeXy := by
  rw [← corridors_table.length] at node
  rw [place_eq node]
  exact List.getElem_mem node

theorem place_inj (u : Nat) (u_lt : u < 14) (v : Nat) (v_lt : v < 14) (same : corridors.place u = corridors.place v) :
    u = v := by
  rw [← corridors_table.length] at u_lt v_lt
  rw [place_eq u_lt, place_eq v_lt] at same
  exact corridors_table.nodup.getElem_inj_iff.mp same

/-- No node is just beside a lane from south to north. -/
theorem place_apart : ∀ u < 14, ∀ lane ∈ corridorSegments, lane.1.1 = lane.2.1 →
    |(corridors.place u).1 - lane.1.1| < 1 / 1000000 → (corridors.place u).1 = lane.1.1 := by
  decide +kernel

/-- Nothing lies to the west or to the south of the south-western end. -/
theorem lanes_corner : ∀ lane ∈ corridorSegments, 6 / 5 ≤ lane.1.1 ∧ 1 ≤ lane.1.2 := by
  norm_num [corridorSegments, corridorVerticals, corridorHorizontals]

/-- A lane from south to north begins on the southern transfer. -/
theorem columns : ∀ lane ∈ corridorSegments, lane.1.1 = lane.2.1 →
    (lane.1.2 = 1 ∧ 1 < lane.2.2 ∧ lane.1.1 ≤ 40) ∧ ∃ column ∈ corridorVerticals, column.1 = lane.1.1 := by
  norm_num [corridorSegments, corridorVerticals, corridorHorizontals]

/-- The projection is its own foot, or is just beside the lane that it is joined to. -/
theorem Snaps.foot_cases (snaps : Snaps p lane foot) : foot = p ∨
    lane.1.1 = lane.2.1 ∧ |p.1 - lane.1.1| < 1 / 1000000 ∧ p.1 ≠ lane.1.1 ∧ foot = (lane.1.1, p.2) := by
  rcases snaps.which with ⟨column, near⟩ | ⟨same, _⟩
  · have at_ : foot = (lane.1.1, p.2) :=
      Prod.ext (le_antisymm (column ▸ snaps.inside.1.2) snaps.inside.1.1) snaps.level
    by_cases off : p.1 = lane.1.1
    · exact .inl (at_.trans (Prod.ext off.symm rfl))
    · exact .inr ⟨column, near, off, at_⟩
  · exact .inl same

/-- How far it is by the south. -/
theorem leg_southWest (on_lane : ∃ lane ∈ corridorSegments, Contains lane p) :
    leg p southWest = p.1 - 6 / 5 + (p.2 - 1) := by
  obtain ⟨lane, known, ⟨west, _⟩, south, _⟩ := on_lane
  obtain ⟨corner_west, corner_south⟩ := lanes_corner lane known
  unfold leg southWest
  rw [abs_of_nonneg (sub_nonneg.mpr (corner_west.trans west)), abs_of_nonneg (sub_nonneg.mpr (corner_south.trans south))]

/-- Edges that are legs on lanes, with their lengths. -/
def TrueEdges (next : Nat → List (Nat × ℚ)) (place : Nat → ℚ × ℚ) : Prop :=
  ∀ u, ∀ e ∈ next u, e.2 = leg (place u) (place e.1) ∧
    ∃ lane ∈ corridorSegments, Contains lane (place u) ∧ Contains lane (place e.1)

/-- Over such edges the way is as long as the path, and every leg lies on a lane. -/
theorem TrueEdges.walk {next : Nat → List (Nat × ℚ)} {place : Nat → ℚ × ℚ} (edges : TrueEdges next place)
    (walk : Walk next u nodes v d) : length (nodes.map place) = d ∧
      (nodes.map place).IsChain fun p q => ∃ lane ∈ corridorSegments, Contains lane p ∧ Contains lane q := by
  induction walk with
  | start => exact ⟨rfl, .singleton _⟩
  | step before edge ih =>
    obtain ⟨init, rfl⟩ := before.exists_concat
    obtain ⟨own, on_lane⟩ := edges _ _ edge
    simp only [List.map_append, List.map_cons, List.map_nil] at own ih ⊢
    refine ⟨?_, List.isChain_append.mpr ⟨ih.2, .singleton _, fun p last q first => ?_⟩⟩
    · rw [length_concat_concat, ih.1, own]
    · rw [List.getLast?_concat] at last
      cases last
      cases first
      exact on_lane

theorem trueEdges_corridors : TrueEdges corridors.adjacency.next corridors.place := fun _ _ edge =>
  ⟨(edgeFits edge).2.2.1, (edgeFits edge).2.2.2.1⟩

namespace Joined

variable (joined : Joined g p node lane foot)

include joined

theorem nonneg : g.adjacency.Nonneg := by
  intro u e edge
  rcases (joined.edges u e).mp edge with old | ⟨_, rfl | rfl⟩ | ⟨_, rfl⟩ | ⟨_, rfl⟩
  · rw [(edgeFits old).2.2.1]
    exact leg_nonneg
  all_goals exact leg_nonneg

theorem place_zero : g.place 0 = southWest := (joined.place_old 0 (by decide)).trans Navigation.place_zero

theorem place_remote : g.place 13 = remoteWaiting := (joined.place_old 13 (by decide)).trans Navigation.place_remote

variable (snaps : Snaps p lane foot)

include snaps

/-- From a projection that is not the waiting point an edge leads there from the southern end of the western lane
only. -/
theorem eq_zero_of_edge (other : node ≠ 13) {w : ℚ} (edge : (13, w) ∈ g.adjacency.next u) : u = 0 := by
  obtain ⟨⟨a_lt, _⟩, b_lt, _⟩ := lane_ends snaps.known
  rcases (joined.edges u _).mp edge with old | ⟨_, same | same⟩ | ⟨_, same⟩ | ⟨_, same⟩
  · exact (edgeFits old).2.2.2.2 rfl
  · exact absurd (congrArg Prod.fst same) a_lt.ne'
  · exact absurd (congrArg Prod.fst same) b_lt.ne'
  · exact absurd (congrArg Prod.fst same).symm other
  · exact absurd (congrArg Prod.fst same).symm other

/-- The way by the first end of the lane, and by the south. -/
theorem walk_south :
    ∃ nodes, Walk g.adjacency.next node nodes 13 (foot.1 - 6 / 5 + (foot.2 - 4 / 5)) := by
  obtain ⟨⟨a_lt, a_place⟩, _⟩ := lane_ends snaps.known
  obtain ⟨⟨west, _⟩, south, _⟩ := snaps.inside
  have first : ∃ on_lane ∈ corridorSegments, Contains on_lane lane.1 :=
    ⟨lane, snaps.known, ⟨le_rfl, west.trans snaps.inside.1.2⟩, le_rfl, south.trans snaps.inside.2.2⟩
  have home := walk_homeNodes a_lt
  rw [a_place] at home
  have edge : (corridors.nodeXy.idxOf lane.1, leg foot lane.1) ∈ g.adjacency.next node :=
    (joined.edges _ _).mpr (.inr (.inl ⟨rfl, .inl rfl⟩))
  have way := Walk.cons edge (home.mono fun u _ e old _ => (joined.edges u e).mpr (.inl old))
  have total : leg foot lane.1 + (leg lane.1 southWest + 1 / 5) = foot.1 - 6 / 5 + (foot.2 - 4 / 5) := by
    rw [leg_southWest first]
    unfold leg
    rw [abs_of_nonneg (sub_nonneg.mpr west), abs_of_nonneg (sub_nonneg.mpr south)]
    ring
  rw [total] at way
  exact ⟨_, way⟩

/-- The nodes of a way are the one of the point and those that there were. -/
theorem node_cases (walk : Walk g.adjacency.next node nodes v d) : ∀ x ∈ nodes, x = node ∨ x < 14 := by
  obtain ⟨⟨a_lt, _⟩, b_lt, _⟩ := lane_ends snaps.known
  induction walk with
  | start => exact fun x mem => .inl (List.mem_singleton.mp mem)
  | step before edge ih =>
    intro x mem
    rcases List.mem_append.mp mem with earlier | last
    · exact ih x earlier
    · rw [List.mem_singleton.mp last]
      rcases (joined.edges _ _).mp edge with old | ⟨_, same | same⟩ | ⟨_, same⟩ | ⟨_, same⟩
      · exact .inr (edgeFits old).2.1
      · exact .inr ((congrArg Prod.fst same).trans_lt (a_lt.trans (by decide)))
      · exact .inr ((congrArg Prod.fst same).trans_lt (b_lt.trans (by decide)))
      · exact .inl (congrArg Prod.fst same)
      · exact .inl (congrArg Prod.fst same)

omit snaps in
/-- Different nodes are at different places. -/
theorem place_inj (u_case : u = node ∨ u < 14) (v_case : v = node ∨ v < 14) (same : g.place u = g.place v) : u = v := by
  have old_inj : u < 14 → v < 14 → u = v := fun u_lt v_lt => by
    rw [joined.place_old u u_lt, joined.place_old v v_lt] at same
    exact Navigation.place_inj u u_lt v v_lt same
  have away {x : Nat} (x_lt : x < 14) (at_ : g.place x = p) : node < 14 := by
    rcases joined.new with old | ⟨_, absent⟩
    · exact old
    · rw [joined.place_old x x_lt] at at_
      exact absurd (at_ ▸ place_mem x x_lt) absent
  rcases u_case with rfl | u_lt
  · rcases v_case with rfl | v_lt
    · rfl
    · exact old_inj (away v_lt (same.symm.trans joined.place_node)) v_lt
  · rcases v_case with rfl | v_lt
    · exact old_inj u_lt (away u_lt (same.trans joined.place_node))
    · exact old_inj u_lt v_lt

/-- A path comes to the waiting point from the southern end of the western lane. -/
theorem toll_le_length (other : node ≠ 13) (start : u ≠ 13) (walk : Walk g.adjacency.next u nodes 13 d) :
    leg (g.place u) southWest + 1 / 5 ≤ length (nodes.map g.place) := by
  cases walk with
  | start => exact absurd rfl start
  | @step before v _ d' w way edge =>
    obtain rfl := joined.eq_zero_of_edge snaps other edge
    obtain ⟨init, split⟩ := way.exists_concat
    have last_leg : leg southWest remoteWaiting = 1 / 5 := by decide +kernel
    have direct : leg (g.place u) southWest ≤ length (before.map g.place) := by
      rcases way.uncons with ⟨rfl, rfl, _⟩ | ⟨_, _, rest, _, _, _, rfl, _⟩
      · rw [joined.place_zero, leg_self]
        exact length_nonneg _
      · rw [List.map_cons]
        refine leg_le_length ?_
        rw [← List.map_cons, split, List.map_append, List.map_cons, List.map_nil, List.getLast?_concat,
          joined.place_zero]
    rw [split] at direct ⊢
    simp only [List.map_append, List.map_cons, List.map_nil] at direct ⊢
    rw [length_concat_concat, joined.place_zero, joined.place_remote, last_leg]
    rw [joined.place_zero] at direct
    exact add_le_add_left direct _

/-- Where the projection is its own foot, every edge is a leg on a lane. -/
theorem trueEdges (same : foot = p) : TrueEdges g.adjacency.next g.place := by
  obtain ⟨⟨a_lt, a_place⟩, b_lt, b_place⟩ := lane_ends snaps.known
  have a_place' : g.place (corridors.nodeXy.idxOf lane.1) = lane.1 :=
    (joined.place_old _ (a_lt.trans (by decide))).trans a_place
  have b_place' : g.place (corridors.nodeXy.idxOf lane.2) = lane.2 :=
    (joined.place_old _ (b_lt.trans (by decide))).trans b_place
  have inside : Contains lane p := same ▸ snaps.inside
  have first : Contains lane lane.1 :=
    ⟨⟨le_rfl, inside.1.1.trans inside.1.2⟩, le_rfl, inside.2.1.trans inside.2.2⟩
  have second : Contains lane lane.2 :=
    ⟨⟨inside.1.1.trans inside.1.2, le_rfl⟩, inside.2.1.trans inside.2.2, le_rfl⟩
  intro u e edge
  rcases (joined.edges u e).mp edge with old | ⟨rfl, rfl | rfl⟩ | ⟨rfl, rfl⟩ | ⟨rfl, rfl⟩
  · obtain ⟨u_lt, e_lt, own, on_lane, _⟩ := edgeFits old
    rw [joined.place_old u u_lt, joined.place_old _ e_lt]
    exact ⟨own, on_lane⟩
  · rw [joined.place_node, a_place', same]
    exact ⟨rfl, lane, snaps.known, inside, first⟩
  · rw [joined.place_node, b_place', same]
    exact ⟨rfl, lane, snaps.known, inside, second⟩
  · rw [joined.place_node, a_place', same]
    exact ⟨leg_comm, lane, snaps.known, first, inside⟩
  · rw [joined.place_node, b_place', same]
    exact ⟨leg_comm, lane, snaps.known, second, inside⟩

end Joined

/-! ## A shortest way over the graph -/

/-- A shortest way over the graph, with no node twice. -/
structure LeastWay (g : Corridors) (node : Nat) (path : List Nat) (d : ℚ) : Prop where
  walk : Walk g.adjacency.next node path 13 d
  least : ∀ nodes d', Walk g.adjacency.next node nodes 13 d' → d ≤ d'
  distinct : path.Nodup

/-- Some number of rounds is enough to find one. -/
theorem Joined.found (joined : Joined g p node lane foot) (snaps : Snaps p lane foot) : ∃ bound, ∀ fuel ≥ bound,
    ∃ path d, g.adjacency.dijkstra node 13 fuel = some (some path) ∧ LeastWay g node path d := by
  let lanes : Lanes := ⟨g.adjacency, joined.nonneg⟩
  refine ⟨lanes.graph.size + 2, fun fuel enough => ?_⟩
  obtain ⟨found, ran, shortest, distinct⟩ := search_spec lanes.graph node 13 enough
  obtain ⟨nodes, way⟩ := joined.walk_south snaps
  cases found with
  | none => exact absurd way (shortest nodes _)
  | some path =>
    obtain ⟨d, walk, least⟩ := shortest
    exact ⟨path, d, ran, walk, least, distinct path rfl⟩

namespace LeastWay

variable (way : LeastWay g node nodes d) (joined : Joined g p node lane foot) (snaps : Snaps p lane foot)

include way joined

theorem head : (nodes.map g.place).head? = some p := by
  rw [List.head?_map, way.walk.head?, Option.map_some, joined.place_node]

theorem getLast : (nodes.map g.place).getLast? = some remoteWaiting := by
  rw [List.getLast?_map, way.walk.getLast?, Option.map_some, joined.place_remote]

/-- From the waiting point there is nowhere to go. -/
theorem shortest_remote (here : p = remoteWaiting) : ShortestOnLanes ((nodes.map g.place).map real) := by
  have at_ : node = 13 := by
    refine joined.place_inj (.inl rfl) (.inr (by decide)) ?_
    rw [joined.place_node, joined.place_remote, here]
  have only : nodes = [13] := by
    have walk := way.walk
    rw [at_] at walk
    rcases walk.uncons with ⟨only, _⟩ | ⟨_, _, rest, _, _, later, split, _⟩
    · exact only
    · have distinct := way.distinct
      rw [split] at distinct
      exact absurd (List.mem_of_getLast? later.getLast?) (List.nodup_cons.mp distinct).1
  refine shortestOnLanes_of_le (p := p) ?_ ?_ ?_
  · exact way.head joined
  · rw [only]
    exact .singleton _
  · rw [here, homeward_remoteWaiting, only]
    exact le_of_eq Rat.cast_zero

include snaps

/-- Where the projection is its own foot, and the south is not a detour. -/
theorem shortest_of_foot (same : foot = p) (short : ((p.1 - 6 / 5 + (p.2 - 4 / 5) : ℚ) : ℝ) ≤ homeward (real p)) :
    ShortestOnLanes ((nodes.map g.place).map real) := by
  obtain ⟨own, lanes⟩ := (joined.trueEdges snaps same).walk way.walk
  obtain ⟨south, by_south⟩ := joined.walk_south snaps
  have le := way.least south _ by_south
  rw [same] at le
  refine shortestOnLanes_of_le (way.head joined) lanes (le_trans ?_ short)
  rw [own, Rat.cast_le]
  exact le

/-- From just beside a lane the way goes to one of the ends of that lane first, and then over the lanes. -/
theorem beside (column : lane.1.1 = lane.2.1) (near : |p.1 - lane.1.1| < 1 / 1000000) (off : p.1 ≠ lane.1.1) :
    ∃ a rest, (a = lane.1 ∨ a = lane.2) ∧ nodes.map g.place = p :: a :: rest ∧
      (a :: rest).IsChain (fun p q => ∃ lane ∈ corridorSegments, Contains lane p ∧ Contains lane q) ∧
        d = leg foot a + length (a :: rest) ∧ leg a southWest + 1 / 5 ≤ length (a :: rest) := by
  obtain ⟨⟨a_lt, a_place⟩, b_lt, b_place⟩ := lane_ends snaps.known
  have new : node = 14 := by
    rcases joined.new with old | ⟨new, _⟩
    · have at_ : corridors.place node = p := (joined.place_old node old).symm.trans joined.place_node
      have apart := place_apart node old lane snaps.known column
      rw [at_] at apart
      exact absurd (apart near) off
    · exact new
  have other : node ≠ 13 := new ▸ by decide
  rcases way.walk.uncons with ⟨_, same, _⟩ | ⟨u, w, rest, d', edge, later, split, total⟩
  · exact absurd same.symm other
  have absent : node ∉ rest := (List.nodup_cons.mp (split ▸ way.distinct)).1
  have old_nodes : ∀ x ∈ rest, x < 14 := fun x mem =>
    (joined.node_cases snaps way.walk x (split ▸ List.mem_cons_of_mem _ mem)).resolve_left fun same => absent (same ▸ mem)
  have over_graph : Walk corridors.adjacency.next u rest 13 d' := by
    refine later.mono fun x mem e edge' mem' => ?_
    rcases (joined.edges x e).mp edge' with old | ⟨same, _⟩ | ⟨_, same⟩ | ⟨_, same⟩
    · exact old
    · exact absurd (same ▸ mem) absent
    · rw [same] at mem'
      exact absurd mem' absent
    · rw [same] at mem'
      exact absurd mem' absent
  have places : rest.map g.place = rest.map corridors.place :=
    List.map_congr_left fun x mem => joined.place_old x (old_nodes x mem)
  obtain ⟨own, lanes⟩ := trueEdges_corridors.walk over_graph
  rw [← places] at own lanes
  obtain ⟨a, a_cases, first_place, start, first_length⟩ :
      ∃ a, (a = lane.1 ∨ a = lane.2) ∧ g.place u = a ∧ u ≠ 13 ∧ w = leg foot a := by
    rcases (joined.edges _ _).mp edge with old | ⟨_, same | same⟩ | ⟨same, _⟩ | ⟨same, _⟩
    · exact absurd (edgeFits old).1 (not_lt.mpr new.ge)
    · obtain ⟨rfl, rfl⟩ := Prod.mk.inj same
      exact ⟨_, .inl rfl, (joined.place_old _ (a_lt.trans (by decide))).trans a_place, a_lt.ne, rfl⟩
    · obtain ⟨rfl, rfl⟩ := Prod.mk.inj same
      exact ⟨_, .inr rfl, (joined.place_old _ (b_lt.trans (by decide))).trans b_place, b_lt.ne, rfl⟩
    · omega
    · omega
  obtain ⟨tail, rfl⟩ : ∃ tail, rest = u :: tail := List.head?_eq_some_iff.mp later.head?
  have toll := joined.toll_le_length snaps other start later
  rw [List.map_cons, first_place] at own lanes toll
  refine ⟨a, tail.map g.place, a_cases, ?_, lanes, ?_, toll⟩
  · rw [split, List.map_cons, List.map_cons, first_place, joined.place_node]
  · rw [own, total, first_length]

/-- From just east of a lane on the southern transfer the way goes to the southern end of that lane first. -/
theorem shortest_beside (south : p.2 = 1) (column : lane.1.1 = lane.2.1) (near : |p.1 - lane.1.1| < 1 / 1000000)
    (east : lane.1.1 < p.1) (short : ((p.1 - 6 / 5 + (p.2 - 4 / 5) : ℚ) : ℝ) ≤ homeward (real p))
    (at_foot : foot = (lane.1.1, p.2)) (on_lane : p.1 ≤ 40) : ShortestOnLanes ((nodes.map g.place).map real) := by
  obtain ⟨⟨lower, upper, _⟩, _⟩ := columns lane snaps.known column
  obtain ⟨a, rest, a_cases, split, lanes, total, toll⟩ := way.beside joined snaps column near east.ne'
  obtain ⟨nodes', by_south⟩ := joined.walk_south snaps
  have le := way.least nodes' _ by_south
  rw [total, at_foot, south] at le
  have first : a = lane.1 := by
    refine a_cases.resolve_right fun last => ?_
    have up : leg (lane.1.1, 1) lane.2 = lane.2.2 - 1 := by
      unfold leg
      rw [← column, sub_self, abs_zero, zero_add, abs_sub_comm, abs_of_pos (sub_pos.mpr upper)]
    have away : leg lane.2 southWest = lane.2.1 - 6 / 5 + (lane.2.2 - 1) :=
      leg_southWest ⟨lane, snaps.known, ⟨column.le, le_rfl⟩, by rw [lower]; exact upper.le, le_rfl⟩
    rw [last, up] at le
    rw [last, away] at toll
    linarith
  have at_start : leg (lane.1.1, 1) lane.1 = 0 := by
    unfold leg
    rw [lower, sub_self, sub_self, abs_zero, add_zero]
  have back : leg p lane.1 = p.1 - lane.1.1 := by
    unfold leg
    rw [south, lower, sub_self, abs_zero, add_zero, abs_of_pos (sub_pos.mpr east)]
  rw [first] at split lanes le
  rw [at_start] at le
  refine shortestOnLanes_of_le (way.head joined) ?_ (le_trans (Rat.cast_le.mpr ?_) short)
  · have corner := (lanes_corner lane snaps.known).1
    have transfer : ((6 / 5, 1), (40, 1)) ∈ corridorSegments := by decide +kernel
    rw [split]
    have start : Contains ((6 / 5, 1), (40, 1)) p := ⟨⟨corner.trans east.le, on_lane⟩, south.ge, south.le⟩
    have first_stop : Contains ((6 / 5, 1), (40, 1)) lane.1 := ⟨⟨corner, east.le.trans on_lane⟩, lower.ge, lower.le⟩
    exact List.isChain_cons_cons.mpr ⟨⟨_, transfer, start, first_stop⟩, lanes⟩
  · rw [split, length_cons_cons, back, south]
    linarith

end LeastWay

end Firebot.Navigation
