import Firebot.Api.Commands

/-!
# Releasing the leases of a user

`release_user_leases` runs when a user's socket closes and after a logout, a change of the password or of the
roles. One transaction spans the loop over the leases, and inside it each lease of the user is deleted and
the stop of its robot is put into the stream of safety commands.
-/

namespace Firebot.Api

open Firebot.Manual (Lease Session)
open Firebot.Robots (Robot)
open Script

/-- The session of a lease, where it is held, is closed. -/
def forceReleased (leaseId reason : String) (session : Option Session) (now : Time) : List Row :=
  ((session.filter (·.state = .held)).map fun session =>
    Row.endSession leaseId (session.ended .forceReleased reason now)).toList

/-- The stop of a robot whose lease has been released: it is put into the stream unless the robot is known to
be away. -/
def stopReleased (userId robotId : String) (robot : Robot) : Script (List Row) := do
  let order : Order :=
    { robotId, robot, operatorId := userId, cmd := .stopMotion, taskId := none, ttl := 5 * second
      priority := 90 }
  let payload ← order.payload
  flush
  let rows : List Row :=
    [ .command payload.commandId (order.safetyRow payload),
      .audit "STOP_MOTION_ON_WS_DISCONNECT" payload.commandId ]
  if robot.onlineState = .online then do
    enqueueSafetyCommand payload
    return rows
  else return rows

/-- One turn of the loop: the key of a robot. -/
def releaseLease (userId reason robotId : String) : Script (List Row) := do
  let raw ← read (.lease robotId)
  match raw.filter (·.userId = userId) with
  | none => return []
  | some lease =>
    deleteLease robotId
    let session ← read (.session lease.leaseId)
    let now ← read .now
    let robot ← read (.robotById lease.robotId)
    let closed := forceReleased lease.leaseId reason session now
    match robot with
    | none => return closed
    | some robot =>
      let rows ← stopReleased userId lease.robotId robot
      return closed ++ rows

/-- The loop over the keys. -/
def releaseLeases (userId reason : String) : List String → Script (List Row)
  | [] => return []
  | robotId :: rest => do
    let rows ← releaseLease userId reason robotId
    let more ← releaseLeases userId reason rest
    return rows ++ more

/-- `release_user_leases`. -/
def releaseUserLeases (userId reason : String) : Script Unit := do
  let keys ← read .leaseKeys
  let rows ← releaseLeases userId reason keys
  commit rows

end Firebot.Api
