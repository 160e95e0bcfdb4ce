import Firebot.MqttIngress.Works

/-!
# Online states as the worker sees them

`reconcile_robot_states` runs every second. It derives the online state of each robot from the time at which
the robot was last seen, and writes it where it differs; a robot that is not online loses its manual lease.
What was declared about the robot is not stored, and so it is not looked at.
-/

namespace Firebot.Worker

open Firebot.Robots Firebot.MqttIngress

/-! ## The age of a robot -/

section

variable (settings : Settings) (vehicle : Vehicle)

/-- `stale_seconds` of the robot. -/
def staleSeconds : Int :=
  (vehicle.profile.map Integration.staleSeconds).getD settings.robotStaleSeconds

/-- `offline_seconds` of the robot. -/
def offlineSeconds : Int :=
  (vehicle.profile.map Integration.offlineSeconds).getD settings.robotOfflineSeconds

/-- The state that follows from the robot's age. -/
def derivedState (now : Time) : OnlineState :=
  match vehicle.robot.lastSeenAt with
  | none => .offline
  | some seen =>
    if offlineSeconds settings vehicle * second ≤ now - seen then .offline
    else if staleSeconds settings vehicle * second ≤ now - seen then .stale
    else .online

end

/-! ## One robot -/

/-- A control session whose robot is not online. -/
def lostControl (now : Time) (state : OnlineState) (session : ControlSession) : ControlSession :=
  if session.state = .held then
    { session with state := .expired, endedAt := some now, endReason := some ("ROBOT_" ++ state.text) }
  else session

/-- The manual lease of a robot that is not online is revoked. -/
def expireLease (r : Redis) (now : Time) (state : OnlineState) (w : Work) : Work :=
  match r.lease w.vehicle.id with
  | some leaseId =>
    { w.queue (.deleteLease w.vehicle.id) with
      control := Table.modify leaseId (lostControl now state) w.control }
  | none => w

/-- The derived state is written where it differs. -/
def writeState (r : Redis) (state : OnlineState) (w : Work) : Work :=
  if w.vehicle.robot.onlineState = state then w
  else
    let latest := presenceDoc r state w
    let w := w.robot fun robot => { robot with onlineState := state }
    (w.queue (.setLatest w.vehicleId latest)).queueEvent (stateEvent state) latest

/-- The body of the loop over the robots. -/
def reconcileRobot (settings : Settings) (r : Redis) (now : Time) (w : Work) : Work :=
  match derivedState settings w.vehicle now with
  | .online => writeState r .online w
  | .stale => expireLease r now .stale (writeState r .stale w)
  | .offline => expireLease r now .offline (writeState r .offline w)

/-! ## A tick -/

/-- What a tick has changed and queued so far. -/
structure Reconciliation where
  vehicles : Table String Vehicle
  control : Table String ControlSession
  operations : List Operation
  events : List Event

/-- A robot of the loop. -/
def Reconciliation.next (settings : Settings) (s : State) (now : Time) (t : Reconciliation)
    (row : String × Vehicle) : Reconciliation :=
  let w := reconcileRobot settings s.redis now
    { vehicleId := row.1
      vehicle := row.2
      control := t.control
      business := s.business
      operations := t.operations
      events := t.events }
  { vehicles := t.vehicles.insert row.1 w.vehicle
    control := w.control
    operations := w.operations
    events := w.events }

/-- `reconcile_robot_states`. -/
def reconcileRobotStates (settings : Settings) (s : State) (now : Time) : Reconciliation :=
  s.vehicles.rows.foldl (Reconciliation.next settings s now)
    { vehicles := s.vehicles, control := s.control, operations := [], events := [] }

/-- The part of a tick that is about online states, where the tick's transaction is committed. -/
def tick (settings : Settings) (now : Time) (commits : Bool) (s : State) : State :=
  if commits then
    let t := reconcileRobotStates settings s now
    { s with
      vehicles := t.vehicles
      control := t.control
      redis := s.redis.perform t.operations
      stream := s.stream ++ t.events.filter fun event => event.2.encodes }
  else s

/-! ## What a tick leaves -/

section

variable {settings : Settings} {r : Redis} {now : Time} {w : Work} {s : State} {t : Reconciliation}
  {v : String}

theorem expireLease_keeps (r : Redis) (now : Time) (state : OnlineState) (w : Work) (v : String) :
    (expireLease r now state w).vehicle = w.vehicle ∧
      (expireLease r now state w).operations.filterMap (Redis.written v) =
        w.operations.filterMap (Redis.written v) := by
  unfold expireLease
  split
  · refine ⟨rfl, ?_⟩
    show (w.operations ++ [Operation.deleteLease w.vehicle.id]).filterMap _ = _
    rw [List.filterMap_append]
    exact List.append_nil _
  · exact ⟨rfl, rfl⟩

/-- A robot writes no document of another. -/
theorem reconcileRobot_written (settings : Settings) (r : Redis) (now : Time)
    (other : w.vehicleId ≠ v) :
    (reconcileRobot settings r now w).operations.filterMap (Redis.written v) =
      w.operations.filterMap (Redis.written v) := by
  have write : ∀ state, (writeState r state w).operations.filterMap (Redis.written v) =
      w.operations.filterMap (Redis.written v) := by
    intro state
    unfold writeState
    split
    · rfl
    · show (w.operations ++ [Operation.setLatest w.vehicleId _]).filterMap _ = _
      rw [List.filterMap_append]
      simp [Redis.written, other]
  unfold reconcileRobot
  split
  · exact write _
  · rw [(expireLease_keeps ..).2, write]
  · rw [(expireLease_keeps ..).2, write]

/-- A robot that is offline and old enough stays as it is. -/
theorem reconcileRobot_offline (offline : w.vehicle.robot.onlineState = .offline)
    (old : derivedState settings w.vehicle now = .offline) :
    (reconcileRobot settings r now w).vehicle = w.vehicle ∧
      (reconcileRobot settings r now w).operations.filterMap (Redis.written v) =
        w.operations.filterMap (Redis.written v) := by
  unfold reconcileRobot
  rw [old]
  have same : writeState r .offline w = w := if_pos offline
  dsimp only
  rw [same]
  exact expireLease_keeps r now .offline w v

/-- What the loop keeps of a robot that is offline and old enough. -/
theorem fold_offline {vehicle : Vehicle} (offline : vehicle.robot.onlineState = .offline)
    (old : derivedState settings vehicle now = .offline) (rows : List (String × Vehicle))
    (own : ∀ vehicle', (v, vehicle') ∈ rows → vehicle' = vehicle)
    (found : t.vehicles.lookup v = some vehicle)
    (unwritten : t.operations.filterMap (Redis.written v) = []) :
    (rows.foldl (Reconciliation.next settings s now) t).vehicles.lookup v = some vehicle ∧
      (rows.foldl (Reconciliation.next settings s now) t).operations.filterMap (Redis.written v) =
        [] := by
  induction rows generalizing t with
  | nil => exact ⟨found, unwritten⟩
  | cons row rows ih =>
    have rest : ∀ vehicle', (v, vehicle') ∈ rows → vehicle' = vehicle := by
      intro vehicle' mem
      exact own vehicle' (List.mem_cons_of_mem _ mem)
    obtain ⟨k, vehicle'⟩ := row
    by_cases same : k = v
    · subst same
      cases own vehicle' List.mem_cons_self
      obtain ⟨kept, queued⟩ := reconcileRobot_offline (w := ⟨k, vehicle, t.control, s.business,
        t.operations, t.events⟩) (r := s.redis) (v := k) offline old
      refine ih rest ?_ (queued.trans unwritten)
      show AList.lookup k (t.vehicles.insert k _) = _
      rw [AList.lookup_insert]
      exact congrArg some kept
    · have queued := reconcileRobot_written settings s.redis now
        (w := ⟨k, vehicle', t.control, s.business, t.operations, t.events⟩) same
      refine ih rest ?_ (queued.trans unwritten)
      exact (AList.lookup_insert_ne (Ne.symm same)).trans found

/-- A tick leaves the state of a robot that is offline and old enough, and its document. -/
theorem tick_offline {commits : Bool} {vehicle : Vehicle}
    (found : s.vehicles.lookup v = some vehicle) (offline : vehicle.robot.onlineState = .offline)
    (old : commits = true → derivedState settings vehicle now = .offline) :
    (tick settings now commits s).vehicles.lookup v = some vehicle ∧
      (tick settings now commits s).redis.latest v = s.redis.latest v := by
  unfold tick
  split
  next committed =>
    have own : ∀ vehicle', (v, vehicle') ∈ s.vehicles.rows → vehicle' = vehicle := by
      intro vehicle' mem
      have found' := Table.mem_rows.mp mem
      rw [found] at found'
      exact (Option.some.inj found').symm
    obtain ⟨kept, unwritten⟩ := fold_offline (s := s) offline (old committed) s.vehicles.rows own
      (t := ⟨s.vehicles, s.control, [], []⟩) found rfl
    exact ⟨kept, Redis.perform_latest_kept _ unwritten⟩
  · exact ⟨found, rfl⟩

end

end Firebot.Worker
