import Firebot.Worker.Observation

/-!
# The route of a cruise

The functions of `route_builder.py` that a resumed patrol goes through. A trajectory is a list of waypoints,
and the API takes any list of objects for one: a waypoint may lack its coordinates. What reads a missing
coordinate raises a `KeyError`, and the result is `none` then.
-/

namespace Firebot.Patrols

open Firebot.Worker (PyFloat)

/-- The operations on floats that the route needs besides those of the STOP verification. -/
class RouteFloat (F : Type) extends PyFloat F where
  /-- `x + y`. -/
  add : F → F → F
  /-- `x - y`. -/
  sub : F → F → F
  /-- `x * y`. -/
  mul : F → F → F
  /-- `x / y`. -/
  div : F → F → F
  /-- `x == y`. -/
  eq : F → F → Bool

/-- The rationals as floats, to run a patrol on fixed inputs. -/
instance : RouteFloat ℚ where
  add x y := x + y
  sub x y := x - y
  mul x y := x * y
  div x y := x / y
  eq x y := x = y

/-- The kinds of waypoint. One without a kind is `TRANSIT`. -/
inductive WaypointKind where
  | waiting
  | transit
  | turn
  | inspection
  deriving DecidableEq, Repr

/-- A waypoint `{x, y, kind, theta?, slot_code?, sequence?}`. -/
structure Waypoint (F : Type) where
  x : Option F
  y : Option F
  kind : WaypointKind
  theta : Option F
  slotCode : Option String
  sequence : Option Int
  deriving DecidableEq

/-- The pose in the robot's document. -/
structure CurrentPose (F : Type) where
  x : F
  y : F
  theta : F

variable {F : Type} [RouteFloat F]

section

open Firebot.Worker.PyFloat RouteFloat

/-- `REMOTE_WAITING`, as a waypoint. -/
def remoteWaiting : Waypoint F where
  x := some (ofDecimal 1.2)
  y := some (ofDecimal 1.2)
  kind := .waiting
  theta := some (ofDecimal 1.5707963267948966)
  slotCode := none
  sequence := none

/-- The waypoint at the current pose. -/
def CurrentPose.waypoint (pose : CurrentPose F) : Waypoint F where
  x := some pose.x
  y := some pose.y
  kind := .transit
  theta := none
  slotCode := none
  sequence := none

/-- `max(0.0, min(1.0, t))`. -/
def clampUnit (t : F) : F :=
  let capped := if lt t (ofDecimal 1) then t else ofDecimal 1
  if lt (ofDecimal 0) capped then capped else ofDecimal 0

/-- The distance of a point from the segment between two others. -/
def segmentDistance (c a b : F × F) : F :=
  let dx := sub b.1 a.1
  let dy := sub b.2 a.2
  let length2 := add (mul dx dx) (mul dy dy)
  let proj :=
    if lt length2 (ofDecimal 1e-9) then a
    else
      let t := clampUnit (div (add (mul (sub c.1 a.1) dx) (mul (sub c.2 a.2) dy)) length2)
      (add a.1 (mul t dx), add a.2 (mul t dy))
  hypot (sub c.1 proj.1) (sub c.2 proj.2)

/-- The distances of a point from the segments of a route. -/
def segmentDistances (c : F × F) : List (Waypoint F) → Option (List F)
  | a :: b :: waypoints => do
    let distance := segmentDistance c (← a.x, ← a.y) (← b.x, ← b.y)
    let distances ← segmentDistances c (b :: waypoints)
    return distance :: distances
  | _ => some []

/-- The least distance and the place of the first segment that has it. -/
def nearest (best : F × Nat) : Nat → List F → F × Nat
  | _, [] => best
  | i, distance :: distances =>
    nearest (if lt distance best.1 then (distance, i) else best) (i + 1) distances

/-- `_project_onto_route`: the ends of the nearest segment. A route without a segment fails the assertion. -/
def projectOntoRoute (c : F × F) (waypoints : List (Waypoint F)) : Option (Nat × Nat) := do
  match ← segmentDistances c waypoints with
  | [] => none
  | distance :: distances =>
    let (_, i) := nearest (distance, 0) 1 distances
    return (i, i + 1)

/-- `infer_route_cursor`: the waypoint completed last, and the target. -/
def inferRouteCursor (pose : CurrentPose F) (full : List (Waypoint F)) : Option (Nat × Nat) :=
  projectOntoRoute (pose.x, pose.y) full

/-- `xs[i:]`. -/
def sliceFrom {α : Type} (xs : List α) (i : Int) : List α :=
  xs.drop (if i < 0 then xs.length + i else i).toNat

/-- The target of a resumed cruise: the cursor, or the end of the nearest segment. -/
def routeTarget (pose : CurrentPose F) (full : List (Waypoint F)) (routeCursor : Option Int) :
    Option Int :=
  match routeCursor with
  | some cursor => some cursor
  | none => (inferRouteCursor pose full).map fun ends => (ends.2 : Int)

/-- The waypoints of the plan from the target on. -/
def remaining (full : List (Waypoint F)) (target : Int) : List (Waypoint F) :=
  sliceFrom full (min target (full.length - 1))

/-- `build_resumed_cruise_waypoints`. -/
def buildResumedCruiseWaypoints (pose : CurrentPose F) (full : List (Waypoint F))
    (routeCursor : Option Int) : Option (List (Waypoint F)) := do
  let target ← routeTarget pose full routeCursor
  match remaining full target with
  | [] => return [pose.waypoint, remoteWaiting]
  | first :: rest =>
    let x ← first.x
    if !eq x pose.x then return pose.waypoint :: first :: rest
    let y ← first.y
    if eq y pose.y then return first :: rest
    return pose.waypoint :: first :: rest

end

/-! ## What is inspected -/

/-- The INSPECTION waypoints of a route. -/
def inspections (waypoints : List (Waypoint F)) : List (Waypoint F) :=
  waypoints.filter (·.kind = .inspection)

omit [RouteFloat F] in
@[simp] theorem inspections_nil : inspections ([] : List (Waypoint F)) = [] := rfl

omit [RouteFloat F] in
@[simp] theorem inspections_append (a b : List (Waypoint F)) :
    inspections (a ++ b) = inspections a ++ inspections b := List.filter_append ..

omit [RouteFloat F] in
/-- A waypoint of another kind does not count. -/
theorem inspections_cons_of_ne {waypoint : Waypoint F} (other : waypoint.kind ≠ .inspection)
    (waypoints : List (Waypoint F)) : inspections (waypoint :: waypoints) = inspections waypoints :=
  List.filter_cons_of_neg (by simpa using other)

end Firebot.Patrols
