import Firebot.MqttIngress.State

/-!
# Boot sessions

`acceptBootSession` decides whether a message comes from the vehicle's current boot, and lets an
availability, a heartbeat or a capabilities message of an unknown boot begin a new session: the current
session ends, and the manual lease of the old boot is revoked.
-/

namespace Firebot.MqttIngress

open Firebot.Robots

/-- `BOOT_ESTABLISH_TYPES`. -/
def bootEstablishTypes : List String := ["availability", "heartbeat", "capabilities"]

/-- A session that begins. -/
def Session.opened (received : Time) : Session where
  firstSeenAt := received
  lastSeenAt := received
  endedAt := none

/-- A session ends, if it has not. -/
def Session.ended (received : Time) (session : Session) : Session :=
  if session.endedAt.isSome then session else { session with endedAt := some received }

/-- A control session of the old boot. -/
def ControlSession.rebooted (now : Time) (session : ControlSession) : ControlSession :=
  if session.state = .held then
    { session with state := .forceReleased, endedAt := some now, endReason := some "ROBOT_REBOOT" }
  else session

namespace Work

/-- The sessions of the robot are changed. -/
def sessions (w : Work) (f : Table String Session → Table String Session) : Work :=
  { w with vehicle := { w.vehicle with sessions := f w.vehicle.sessions } }

/-- `invalidate_old_boot_leases`, where the robot's boot is `old`. -/
def invalidateOldBootLeases (m : Moment) (r : Redis) (old : String) (boot : JsonTree) (w : Work) :
    Work :=
  if old = "" ∨ boot.isText old = true then w
  else
    let w :=
      match r.lease w.vehicle.id with
      | some leaseId =>
        { w.queue (.deleteLease w.vehicle.id) with
          control := Table.modify leaseId (·.rebooted m.now) w.control }
      | none => w
    w.queueEvent "vehicle.rebooted"
      (.obj [("vehicle_id", .str w.vehicleId), ("old_boot_id", .str old), ("boot_id", boot)])

/-- The sessions once a boot has been accepted: `seen` is the session of the boot, if it has one. -/
def touchSession (m : Moment) (bound : String) (seen : Option Session) (w : Work) : Work :=
  w.sessions fun sessions =>
    match seen with
    | some session => sessions.insert bound { session with lastSeenAt := m.received }
    | none => sessions.insert bound (.opened m.received)

/-- The end of the robot's current boot. -/
def endCurrent (m : Moment) (r : Redis) (boot : JsonTree) (w : Work) : Work :=
  match w.vehicle.robot.bootId with
  | none => w
  | some old =>
    if old = "" then w
    else
      (w.sessions (Table.modify old (·.ended m.received))).invalidateOldBootLeases m r old boot

/-- A new boot of the robot. -/
def establish (m : Moment) (r : Redis) (boot : JsonTree) (bound : String) (seen : Option Session)
    (w : Work) : Work :=
  let w := w.endCurrent m r boot
  let w := if seen.isNone then w.sessions (·.insert bound (.opened m.received)) else w
  w.robot fun robot => { robot with bootId := some bound }

/-- `accept_boot_session`: `boot` is the boot id of the message, and `bound` the text that the database
takes it for. -/
def acceptBootSession (m : Moment) (r : Redis) (type : String) (boot : JsonTree) (bound : String)
    (w : Work) : Work × Bool :=
  let seen := w.vehicle.sessions.lookup bound
  if w.vehicle.robot.bootId.any (boot.isText ·) then (w.touchSession m bound seen, true)
  else if seen.any (·.endedAt.isSome) then (w, false)
  else if type ∉ bootEstablishTypes then (w, false)
  else (w.establish m r boot bound seen, true)

end Work

/-- The answer of `accept_boot_session` about a robot. -/
def Vehicle.acceptsBoot (vehicle : Vehicle) (type : String) (boot : JsonTree) (bound : String) : Bool :=
  vehicle.robot.bootId.any (boot.isText ·) ||
    !(vehicle.sessions.lookup bound).any (·.endedAt.isSome) && type ∈ bootEstablishTypes

theorem acceptBootSession_answer (m : Moment) (r : Redis) (type : String) (boot : JsonTree)
    (bound : String) (w : Work) :
    (w.acceptBootSession m r type boot bound).2 = w.vehicle.acceptsBoot type boot bound := by
  unfold Work.acceptBootSession Vehicle.acceptsBoot
  dsimp only
  split
  next current => simp [current]
  next other =>
    rw [Bool.eq_false_iff.mpr other, Bool.false_or]
    split
    next ended => simp [ended]
    next running =>
      rw [Bool.eq_false_iff.mpr running, Bool.not_false, Bool.true_and]
      split
      next late => simp [late]
      next establishes => simpa using establishes

end Firebot.MqttIngress
