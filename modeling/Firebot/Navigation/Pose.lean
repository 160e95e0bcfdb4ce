import Firebot.Tasks.World
import Firebot.Worker.Observation

/-!
# What the worker sees of a pose

The worker verifies the final pose of a navigation from the vehicle's document in Redis, where a location
message leaves its pose and every message of the vehicle may leave its stamp. `look` is the part of
`reconcile_navigation_verification` that reads the document.

`float()` raises on a value that it cannot convert, and the tick is rolled back then.
-/

namespace Firebot.Navigation

open Firebot.Tasks Firebot.Worker

/-- The operations on floats that the verification uses besides those of the STOP verification. -/
class PoseFloat (F : Type) extends PyFloat F where
  /-- `x - y`. -/
  sub : F → F → F
  /-- `x <= y`. -/
  le : F → F → Bool
  /-- `math.sin(x)`. -/
  sin : F → F
  /-- `math.cos(x)`. -/
  cos : F → F
  /-- `math.atan2(y, x)`. -/
  atan2 : F → F → F

/-- The rationals as floats, to run the verification on fixed inputs, in which the vehicle heads where it is
to head. -/
instance : PoseFloat ℚ where
  sub x y := x - y
  le x y := x ≤ y
  sin x := x
  cos _ := 1
  atan2 y x := y / x

variable {F : Type} [PoseFloat F]

/-! ## The document -/

/-- The fields of a vehicle's `latest` document that the pose verification reads; a field that is absent
reads as `null`. -/
structure Telemetry (F : Type) where
  serverReceivedAt : Stamp
  localizationStatus : Option String
  x : Value F
  y : Value F
  theta : Value F

/-- The document of a vehicle that has sent nothing. -/
def Telemetry.empty : Telemetry F where
  serverReceivedAt := .absent
  localizationStatus := none
  x := .null
  y := .null
  theta := .null

/-- `handle_location`: a pose on a map that is not verified is not shown. -/
def handleLocation (received : Time) (x y theta : Value F) (localizationStatus : Option String)
    (mapContractVerified : Bool) (latest : Telemetry F) : Telemetry F :=
  if mapContractVerified then
    { latest with
      x := x
      y := y
      theta := theta
      localizationStatus := some (localizationStatus.getD "UNKNOWN")
      serverReceivedAt := .aware received }
  else
    { latest with
      x := .null
      y := .null
      theta := .null
      localizationStatus := some "DEGRADED_MAP_UNVERIFIED"
      serverReceivedAt := .aware received }

/-- `handle_sensor`. -/
def handleSensor (received : Time) (latest : Telemetry F) : Telemetry F :=
  { latest with serverReceivedAt := .aware received }

/-- `process_internal_compat`, of every kind. -/
def processInternalCompat (received : Time) (latest : Telemetry F) : Telemetry F :=
  { latest with serverReceivedAt := .aware received }

/-- `handle_status`. -/
def handleStatus (latest : Telemetry F) : Telemetry F := latest

/-- A message of the vehicle, with what its handler writes of it. -/
inductive Message (F : Type) where
  | location (received : Time) (x y theta : Value F) (localizationStatus : Option String)
      (mapContractVerified : Bool)
  | status
  | sensor (received : Time)
  | compat (received : Time)

namespace Message

/-- The document after the message's handler. -/
def merge : Message F → Telemetry F → Telemetry F
  | location received x y theta localizationStatus mapContractVerified =>
    handleLocation received x y theta localizationStatus mapContractVerified
  | status => handleStatus
  | sensor received => handleSensor received
  | compat received => processInternalCompat received

/-- The message carries a pose on the map. -/
def carriesPose : Message F → Bool
  | location _ _ _ _ _ mapContractVerified => mapContractVerified
  | status | sensor _ | compat _ => false

/-- The handler of the message writes the stamp. -/
def stamps : Message F → Bool
  | location .. | sensor _ | compat _ => true
  | status => false

/-- What a message that carries a pose says by itself: the document it makes of an empty one. -/
def pose (m : Message F) : Option (Telemetry F) :=
  if m.carriesPose then some (m.merge .empty) else none

end Message

/-! ## The look -/

/-- The target of a navigation with its tolerances: `target_pose_snapshot_json` and what
`navigate_to_preset` puts into the parameters. They stay as they are. -/
structure Target (F : Type) where
  x : F
  y : F
  theta : F
  positionTolerance : F
  yawTolerance : F
  freshnessMs : Int

/-- `_angle_error`. -/
def angleError (actual expected : F) : F :=
  let difference := PoseFloat.sub actual expected
  PyFloat.abs (PoseFloat.atan2 (PoseFloat.sin difference) (PoseFloat.cos difference))

/-- The localization states that count. -/
def localized : List String := ["OK", "GOOD", "VALID", "VALID_SOURCE"]

namespace Telemetry

variable (latest : Telemetry F) (target : Target F)

/-- The document is well localized. -/
def localizationOk : Bool := latest.localizationStatus.any (· ∈ localized)

/-- The pose is there. -/
def present : Bool := !latest.x.isNull && !latest.y.isNull && !latest.theta.isNull

/-- The pose is within the tolerances. -/
def within : Except Raised Bool :=
  if latest.present then do
    let x ← toFloat latest.x
    let y ← toFloat latest.y
    let distance := PyFloat.hypot (PoseFloat.sub x target.x) (PoseFloat.sub y target.y)
    if PoseFloat.le distance target.positionTolerance then
      let theta ← toFloat latest.theta
      return PoseFloat.le (angleError theta target.theta) target.yawTolerance
    else
      return false
  else
    return false

/-- The look at a document; `none` where it raises. A stamp that has no offset or is no stamp is caught. -/
def look (now : Time) : Option PoseCheck :=
  match latest.within target with
  | .error _ => none
  | .ok within =>
    some { readable := match latest.serverReceivedAt with
             | .absent | .aware _ => true
             | .naive _ | .other => false
           fresh := latest.serverReceivedAt.within now target.freshnessMs
           localizationOk := latest.localizationOk
           within := within }

/-- The pose is there, and out of the tolerances. -/
def off : Bool :=
  latest.present && match latest.within target with
    | .ok within => !within
    | .error _ => false

/-- What the look finds for a frame to be counted. -/
def shows (now : Time) : Prop :=
  latest.serverReceivedAt.within now target.freshnessMs = true ∧ latest.localizationOk = true ∧
    latest.within target = .ok true

end Telemetry

/-- The look counts as a frame. -/
def good (check : PoseCheck) : Bool := check.fresh && check.localizationOk && check.within

variable {latest : Telemetry F} {target : Target F} {now : Time}

/-- A look counts exactly if the document is fresh, well localized and within the tolerances. -/
theorem look_good_iff :
    (∃ check, latest.look target now = some check ∧ good check = true) ↔ latest.shows target now := by
  unfold Telemetry.look Telemetry.shows
  cases seen : latest.within target with
  | error e => simp
  | ok within => simp [good, and_assoc]

theorem not_off_of_shows (shows : latest.shows target now) : latest.off target = false := by
  unfold Telemetry.off
  rw [shows.2.2]
  simp

end Firebot.Navigation
