import Firebot.MqttIngress.State

/-!
# The manual lease

An operator who drives a robot by hand holds its lease: a document in Redis under the robot's key, which
goes away at the end of its time to live unless a pulse puts that off. A lease has a row of
`manual_control_sessions` as well, which says who held it and how it ended. The key and the row are written
one after the other, by whoever ends the lease.
-/

namespace Firebot.Manual

open Firebot.MqttIngress (ControlState)

/-! ## The key -/

/-- The document under `manual:lease:<robot>`. -/
structure Lease where
  leaseId : String
  controlSessionId : String
  robotId : String
  vehicleId : String
  userId : String
  expiresAt : Time
  deriving DecidableEq

/-- A lease of the robot `R1`, for runs on fixed inputs. -/
def leaseOf (leaseId userId : String) : Lease where
  leaseId := leaseId
  controlSessionId := "session"
  robotId := "R1"
  vehicleId := "V1"
  userId := userId
  expiresAt := 5 * second

/-- A lease as Redis keeps it, with the end of its time to live. -/
structure Held where
  lease : Lease
  deadline : Time
  deriving DecidableEq

/-- The leases in Redis, by the robot's id. -/
abbrev Leases := String → Option Held

namespace Leases

variable (leases : Leases)

/-- `active_lease`. -/
def activeLease (robotId : String) : Option Lease := (leases robotId).map Held.lease

/-- `redis.set(…, ex=ttl, nx=True)`, where the key is free. -/
def set (robotId : String) (held : Held) : Leases := Function.update leases robotId (some held)

/-- `redis.delete`. -/
def delete (robotId : String) : Leases := Function.update leases robotId none

/-- `redis.expire`: it puts off the end of a key that is there. -/
def renew (robotId : String) (deadline : Time) : Leases :=
  Function.update leases robotId ((leases robotId).map fun held => { held with deadline := deadline })

/-- The keys whose time to live is over are gone. -/
def expire (now : Time) : Leases := fun robotId => (leases robotId).filter (now < ·.deadline)

variable {leases}

@[simp] theorem activeLease_set_self (robotId : String) (held : Held) :
    (leases.set robotId held).activeLease robotId = some held.lease := by
  simp [activeLease, set]

@[simp] theorem activeLease_set_of_ne {robotId other : String} (ne : other ≠ robotId) (held : Held) :
    (leases.set robotId held).activeLease other = leases.activeLease other := by
  simp [activeLease, set, ne]

@[simp] theorem activeLease_delete_self (robotId : String) :
    (leases.delete robotId).activeLease robotId = none := by
  simp [activeLease, delete]

@[simp] theorem activeLease_delete_of_ne {robotId other : String} (ne : other ≠ robotId) :
    (leases.delete robotId).activeLease other = leases.activeLease other := by
  simp [activeLease, delete, ne]

@[simp] theorem activeLease_renew (robotId other : String) (deadline : Time) :
    (leases.renew robotId deadline).activeLease other = leases.activeLease other := by
  unfold activeLease renew
  by_cases same : other = robotId
  · subst same
    rw [Function.update_self, Option.map_map]
    rfl
  · rw [Function.update_of_ne same]

/-- A lease that is there after a deletion was there. -/
theorem of_activeLease_delete {robotId other : String} {lease : Lease}
    (there : (leases.delete robotId).activeLease other = some lease) :
    leases.activeLease other = some lease := by
  by_cases same : other = robotId
  · subst same
    rw [activeLease_delete_self] at there
    cases there
  · rwa [activeLease_delete_of_ne same] at there

/-- A lease that outlives an expiry was there. -/
theorem of_activeLease_expire {now : Time} {robotId : String} {lease : Lease}
    (there : (leases.expire now).activeLease robotId = some lease) :
    leases.activeLease robotId = some lease := by
  unfold activeLease expire at there
  obtain ⟨held, kept, rfl⟩ := Option.map_eq_some_iff.mp there
  unfold activeLease
  rw [(Option.filter_eq_some_iff.mp kept).1, Option.map_some]

end Leases

/-! ## The row -/

/-- A row of `manual_control_sessions`, under its lease id. -/
structure Session where
  robotId : String
  userId : String
  state : ControlState
  acquiredAt : Time
  expiresAt : Time
  lastSeq : Int
  endedAt : Option Time
  endReason : Option String
  deriving DecidableEq

/-- The row that `acquire_lease` inserts. -/
def Lease.session (lease : Lease) (now : Time) : Session where
  robotId := lease.robotId
  userId := lease.userId
  state := .held
  acquiredAt := now
  expiresAt := lease.expiresAt
  lastSeq := 0
  endedAt := none
  endReason := none

/-- A session that is held ends. -/
def Session.ended (session : Session) (state : ControlState) (reason : String) (now : Time) : Session :=
  if session.state = .held then
    { session with state := state, endedAt := some now, endReason := some reason }
  else session

/-- `end_lease` on a session; `lastSeq` is what `manual:lastseq:<lease>` holds, or zero. -/
def Session.endLease (session : Session) (state : ControlState) (reason : String) (now : Time)
    (lastSeq : Int) : Session :=
  if session.state = .held then
    { session.ended state reason now with lastSeq := lastSeq }
  else session

end Firebot.Manual
