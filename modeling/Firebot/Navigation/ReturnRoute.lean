import Mathlib.Algebra.Order.Ring.Unbundled.Rat
import Mathlib.Data.List.Dedup
import Mathlib.Data.List.MinMax
import Mathlib.Data.List.Sort
import Firebot.Navigation.Cruise
import Firebot.Navigation.ShortestPath

/-!
# The way back to the waiting point

`build_return_waypoints` projects the pose onto the nearest lane, joins the projection to the graph of the lanes at the
two ends of the lane it lies on, and searches the graph for a shortest path to the waiting point.

Coordinates are rational, and `round` is what rounds the keys of the nodes. Distances to the lanes are compared by
their squares. The index of a key in `key_to_idx` is its place in `node_xy`.
-/

namespace Firebot.Navigation

open Firebot.Patrols (WaypointKind)

/-- `REMOTE_WAITING`, without its heading. -/
def remoteWaiting : ℚ × ℚ := (6 / 5, 6 / 5)

/-- `CORRIDOR_VERTICALS`: x, and the bounds of y. -/
def corridorVerticals : List (ℚ × ℚ × ℚ) :=
  [(6 / 5, 1, 287 / 10), (8, 1, 27), (14, 1, 27), (32, 1, 27), (40, 1, 287 / 10)]

/-- `CORRIDOR_HORIZONTALS`: y, and the bounds of x. -/
def corridorHorizontals : List (ℚ × ℚ × ℚ) := [(1, 6 / 5, 40), (27, 6 / 5, 40), (287 / 10, 6 / 5, 221 / 5)]

/-! ## The graph of the lanes -/

/-- `node_xy` and `adjacency`. -/
structure Corridors where
  nodeXy : List (ℚ × ℚ)
  adjacency : Adjacency

namespace Corridors

variable (round : ℚ → ℚ)

/-- The key of a point. -/
def key (p : ℚ × ℚ) : ℚ × ℚ := (round p.1, round p.2)

/-- `idx`. -/
def idx (p : ℚ × ℚ) (g : Corridors) : Nat × Corridors :=
  if key round p ∈ g.nodeXy then (g.nodeXy.idxOf (key round p), g)
  else (g.nodeXy.length, { g with nodeXy := g.nodeXy ++ [key round p] })

/-- `adjacency.setdefault(a, []).append((b, w))`. -/
def append (a b : Nat) (w : ℚ) (g : Corridors) : Corridors :=
  { g with adjacency := g.adjacency.insert a (g.adjacency.next a ++ [(b, w)]) }

/-- `link`. -/
def link (a b : Nat) (w : ℚ) (g : Corridors) : Corridors :=
  if w < 1 / 1000000 then g else (g.append a b w).append b a w

/-- `link(idx(p), idx(q), w)`. -/
def linkPoints (p q : ℚ × ℚ) (w : ℚ) (g : Corridors) : Corridors :=
  let (a, g) := g.idx round p
  let (b, g) := g.idx round q
  g.link a b w

/-- Both ends of a lane and the crossings with other ones, in order. -/
def stops (at_ : ℚ) (lane : ℚ × ℚ) (others : List (ℚ × ℚ × ℚ)) : List ℚ :=
  let crossings := others.filterMap fun other =>
    if lane.1 ≤ other.1 ∧ other.1 ≤ lane.2 ∧ other.2.1 ≤ at_ ∧ at_ ≤ other.2.2 then some other.1 else none
  (lane.1 :: lane.2 :: crossings).dedup.insertionSort (· ≤ ·)

/-- The stops of a lane are linked, each to the next one. -/
def linkStops (point : ℚ → ℚ × ℚ) (stops : List ℚ) (g : Corridors) : Corridors :=
  (stops.zip stops.tail).foldl (fun g pair => g.linkPoints round (point pair.1) (point pair.2) (pair.2 - pair.1)) g

/-- `_corridor_graph`. -/
def corridorGraph : Corridors :=
  let empty : Corridors := ⟨[], ∅⟩
  let g := corridorVerticals.foldl
    (fun g lane => linkStops round (fun y => (lane.1, y)) (stops lane.1 lane.2 corridorHorizontals) g) empty
  let g := corridorHorizontals.foldl
    (fun g lane => linkStops round (fun x => (x, lane.1)) (stops lane.1 lane.2 corridorVerticals) g) g
  g.linkPoints round remoteWaiting (6 / 5, 1) (1 / 5)

end Corridors

/-! ## The nearest lane -/

/-- `_corridor_segments`. -/
def corridorSegments : List ((ℚ × ℚ) × (ℚ × ℚ)) :=
  corridorVerticals.map (fun lane => ((lane.1, lane.2.1), (lane.1, lane.2.2))) ++
    corridorHorizontals.map fun lane => ((lane.2.1, lane.1), (lane.2.2, lane.1))

/-- The square of a distance. -/
def squareDistance (p q : ℚ × ℚ) : ℚ := (p.1 - q.1) ^ 2 + (p.2 - q.2) ^ 2

/-- `proj` of a segment. -/
def projection (c : ℚ × ℚ) (segment : (ℚ × ℚ) × (ℚ × ℚ)) : ℚ × ℚ :=
  let a := segment.1
  let dx := segment.2.1 - a.1
  let dy := segment.2.2 - a.2
  let length2 := dx * dx + dy * dy
  if length2 < 1 / 1000000000 then a
  else
    let t := max 0 (min 1 (((c.1 - a.1) * dx + (c.2 - a.2) * dy) / length2))
    (a.1 + t * dx, a.2 + t * dy)

/-- One turn of the loop in `_project_onto_segments`. -/
def nearer (c : ℚ × ℚ) (best : Option (ℚ × (ℚ × ℚ) × Nat)) (entry : ((ℚ × ℚ) × (ℚ × ℚ)) × Nat) :
    Option (ℚ × (ℚ × ℚ) × Nat) :=
  let proj := projection c entry.1
  let d := squareDistance c proj
  if best.all fun best => d < best.1 then some (d, proj, entry.2) else best

/-- `_project_onto_segments`, with the square of the distance; `none` where the assertion fails. -/
def projectOntoSegments (c : ℚ × ℚ) (segments : List ((ℚ × ℚ) × (ℚ × ℚ))) : Option (ℚ × (ℚ × ℚ) × Nat) :=
  segments.zipIdx.foldl (nearer c) none

/-- `proj` of a pose. -/
def projected (c : ℚ × ℚ) : ℚ × ℚ := ((projectOntoSegments c corridorSegments).map fun best => best.2.1).getD c

/-! ## The projection is joined -/

/-- The first lane that a point lies on, by the coordinate that is to be the lane's and the one along it. -/
def laneOf (lanes : List (ℚ × ℚ × ℚ)) (across along : ℚ) : Option (ℚ × ℚ × ℚ) :=
  lanes.find? fun lane =>
    decide (|across - lane.1| < 1 / 1000000) && decide (lane.2.1 ≤ along) && decide (along ≤ lane.2.2)

namespace Corridors

variable (round : ℚ → ℚ)

/-- A node is joined to two points. -/
def join (node : Nat) (a b : ℚ × ℚ) (toA toB : ℚ) (g : Corridors) : Corridors :=
  let ia := g.nodeXy.idxOf (key round a)
  let ib := g.nodeXy.idxOf (key round b)
  (((g.append node ia toA).append ia node toA).append node ib toB).append ib node toB

/-- The projection is joined to the two ends of its lane. -/
def joinProjection (proj : ℚ × ℚ) (node : Nat) (g : Corridors) : Corridors :=
  match laneOf corridorVerticals proj.1 proj.2 with
  | some (x, ymin, ymax) => g.join round node (x, ymin) (x, ymax) |proj.2 - ymin| |ymax - proj.2|
  | none =>
    match laneOf corridorHorizontals proj.2 proj.1 with
    | some (y, xmin, xmax) => g.join round node (xmin, y) (xmax, y) |proj.1 - xmin| |xmax - proj.1|
    | none => g

end Corridors

/-! ## The route -/

/-- A waypoint `{x, y, kind, theta?}`. -/
structure ReturnWaypoint where
  x : ℚ
  y : ℚ
  kind : WaypointKind
  theta : Option Heading
  deriving DecidableEq

/-- Where a waypoint is. -/
def ReturnWaypoint.point (waypoint : ReturnWaypoint) : ℚ × ℚ := (waypoint.x, waypoint.y)

/-- One turn of the loop in `_dedupe_waypoints`. -/
def keepWaypoint (out : List ReturnWaypoint) (waypoint : ReturnWaypoint) : List ReturnWaypoint :=
  match out.getLast? with
  | none => out ++ [waypoint]
  | some last => if last.x ≠ waypoint.x ∨ last.y ≠ waypoint.y then out ++ [waypoint] else out

/-- `_dedupe_waypoints`. -/
def dedupeWaypoints (points : List ReturnWaypoint) : List ReturnWaypoint := points.foldl keepWaypoint []

/-- The waiting point as a waypoint. -/
def waitingWaypoint (p : ℚ × ℚ) : ReturnWaypoint := ⟨p.1, p.2, .waiting, some .north⟩

/-- A point on the way. -/
def transitWaypoint (p : ℚ × ℚ) : ReturnWaypoint := ⟨p.1, p.2, .transit, none⟩

/-- The waypoint of a node. -/
def nodeWaypoint (p : ℚ × ℚ) : ReturnWaypoint :=
  if |p.1 - remoteWaiting.1| < 1 / 1000000 ∧ |p.2 - remoteWaiting.2| < 1 / 1000000 then waitingWaypoint p
  else transitWaypoint p

/-- `_fallback_return`. -/
def fallbackReturn (c : ℚ × ℚ) : List ReturnWaypoint :=
  let vx := ((corridorVerticals.map Prod.fst).argmin fun x => |x - c.1|).getD 0
  dedupeWaypoints
    ([transitWaypoint c] ++ (if |vx - c.1| > 1 / 1000000 then [transitWaypoint (vx, c.2)] else []) ++
      [transitWaypoint (vx, 1), transitWaypoint (remoteWaiting.1, 1), waitingWaypoint remoteWaiting])

/-- The nodes of the path over the graph, from the projection on, or `some none` where there is none to be had; `none`
where the rounds of the search are not enough. -/
def plannedPath (round : ℚ → ℚ) (c : ℚ × ℚ) (fuel : Nat) : Option (Option (List (ℚ × ℚ))) :=
  (projectOntoSegments c corridorSegments).bind fun best =>
    if 4 < best.1 then some none
    else
      let (node, g) := (Corridors.corridorGraph round).idx round best.2.1
      let g := g.joinProjection round best.2.1 node
      let remote := Corridors.key round remoteWaiting
      if remote ∉ g.nodeXy then some none
      else (g.adjacency.dijkstra node (g.nodeXy.idxOf remote) fuel).map fun found =>
        found.map fun path => path.map fun node => g.nodeXy.getD node (0, 0)

/-- `build_return_waypoints`. -/
def buildReturnWaypoints (round : ℚ → ℚ) (c : ℚ × ℚ) (fuel : Nat) : Option (List ReturnWaypoint) :=
  (plannedPath round c fuel).map fun planned =>
    match planned with
    | none => fallbackReturn c
    | some path => dedupeWaypoints (transitWaypoint c :: path.map nodeWaypoint)

end Firebot.Navigation
