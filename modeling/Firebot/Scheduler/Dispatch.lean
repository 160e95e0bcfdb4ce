import Firebot.Commands.Admission
import Firebot.Lib.Except

/-!
# Dispatching a scheduled patrol

The worker dispatches a due occurrence inside the transaction of its tick. `buildPatrolTask` adds the
task and flushes it before the command is created, and the command may be refused. The exception ends in
`dispatchOccurrence`, which notes the occurrence as rejected and goes on; the transaction commits with
whatever has been added by then. Only an exception of the database undoes it: the transaction is lost.

`Session` is the transaction: the tables as it sees them, and whether it is lost.

**An attempt that returns `False` leaves nothing exactly if, whenever it comes to insert its task, the command
is admitted or the transaction is lost** (`dispatch_atomic_iff`). Nothing is said of a commit that fails.
-/

namespace Firebot.Scheduler

open Firebot.Commands Firebot.Robots Firebot.Tasks

/-! ## The configuration -/

/-- `PatrolSchedule.overlap_policy`. -/
inductive OverlapPolicy where
  | queue
  | reject
  | skip
  deriving DecidableEq, Repr

/-- A row of `patrol_schedules`. -/
structure Schedule where
  patrolPlanId : String
  overlapPolicy : OverlapPolicy
  queueExpirySeconds : Int
  requireRobotOnline : Bool
  requireControlContractVerified : Bool
  requireMapContractVerified : Bool

/-- A row of `patrol_plans`, with the presets of its points in their order. -/
structure Plan where
  robotId : String
  mapVersionId : String
  enabled : Bool
  points : List String

/-- A row of `map_versions`. -/
structure MapVersion where
  mapId : String
  version : String

/-- The tables that a dispatch reads and does not write. -/
structure Catalogue where
  schedules : Table String Schedule
  plans : Table String Plan
  versions : Table String MapVersion
  presets : Table String Bool
  robots : Table String Robot

/-- `PatrolScheduleOccurrence.state`. -/
inductive OccurrenceState where
  | pending
  | queued
  | dispatched
  | rejected
  | skipped
  deriving DecidableEq, Repr

/-- A row of `patrol_schedule_occurrences`. -/
structure Occurrence where
  scheduleId : String
  scheduledFor : Time
  state : OccurrenceState
  reasonCode : Option String
  taskId : Option String
  deriving DecidableEq

/-- The occurrence is given up or put off. -/
def Occurrence.put (occurrence : Occurrence) (state : OccurrenceState) (reason : String) :
    Occurrence :=
  { occurrence with state := state, reasonCode := some reason }

/-! ## The transaction -/

/-- The worker's transaction. -/
structure Session where
  db : Database
  lost : Bool

/-- What is in the database after the transaction ends. -/
def Session.commit (before : Database) (s : Session) : Database := if s.lost then before else s.db

/-- The transaction has seen an exception. -/
def Session.raise (s : Session) (e : Raised) : Session := { s with lost := s.lost || e.breaks }

/-- What the calls of one attempt answer or raise: the queries of the gates, those of the build before
the task is added, the two flushes, and what the checks before the command see. -/
structure Calls where
  profiles : Profiles
  querying : Option Raised
  taskFlushed : Bool
  again : Option Profiles
  lease : Option Bool
  otherTask : Option (Option TaskType)
  commandFlushed : Bool

/-- What `assert_robot_can_execute` sees when the build calls it. -/
def Calls.sight (calls : Calls) (robot : Robot) : Sight where
  robot := robot
  profiles := calls.again
  lease := calls.lease
  activeTask := calls.otherTask

/-- The ids that the attempt draws, and the time its command would expire at. -/
structure Draw where
  taskId : String
  commandId : String
  expiresAt : Time

/-- The task of an attempt. -/
def Plan.creation (plan : Plan) (draw : Draw) : Creation where
  taskId := draw.taskId
  commandId := draw.commandId
  robotId := plan.robotId
  fireEventId := none
  type := .patrol
  phase := "PATROL_PLAN_TRIGGERED"
  parameters := .empty
  expiresAt := draw.expiresAt

/-! ## `build_patrol_task` -/

/-- The checks before the task is added. -/
def checkPlan (catalogue : Catalogue) (plan : Plan) (robot : Robot) : Except Raised MapVersion :=
  match catalogue.versions.lookup plan.mapVersionId with
  | none => .error (.platform "PATROL_PLAN_INVALID" "巡检计划或地图版本无效")
  | some version =>
    if !plan.enabled then .error (.platform "PATROL_PLAN_INVALID" "巡检计划或地图版本无效")
    else if robot.currentMapId ≠ some version.mapId ∨
        robot.currentMapVersion ≠ some version.version then
      .error (.platform "MAP_VERSION_MISMATCH" "机器人地图版本与巡检计划不一致")
    else if plan.points.isEmpty || plan.points.any fun point =>
        catalogue.presets.lookup point ≠ some true then
      .error (.platform "PATROL_PLAN_POINTS_INVALID" "巡检计划缺少有效预设点")
    else .ok version

/-- `build_patrol_task` from `db.add(task)` on. A second row under a task's id does not flush. -/
def insertPatrol (c : Creation) (calls : Calls) (robot : Robot) (now : Time) (s : Session) :
    Session × Except Raised String :=
  if !calls.taskFlushed || (s.db.tasks.lookup c.taskId).isSome then
    (s.raise .database, .error .database)
  else
    let added := { s with db := s.db.strand c now }
    match checkCommand (calls.sight robot) .patrol with
    | .error e => (added.raise e, .error e)
    | .ok () =>
      if !calls.commandFlushed then (added.raise .database, .error .database)
      else ({ s with db := s.db.create c now }, .ok c.taskId)

/-- `build_patrol_task`. -/
def buildPatrolTask (catalogue : Catalogue) (plan : Plan) (robot : Robot) (draw : Draw)
    (calls : Calls) (now : Time) (s : Session) : Session × Except Raised String :=
  match calls.querying with
  | some e => (s.raise e, .error e)
  | none =>
    match checkPlan catalogue plan robot with
    | .error e => (s.raise e, .error e)
    | .ok _ => insertPatrol (plan.creation draw) calls robot now s

/-! ## `_dispatch_schedule_occurrence` -/

/-- What the gates find: the plan and the robot of an occurrence that may be dispatched, or the state
and the reason that it is left with. -/
def gates (catalogue : Catalogue) (calls : Calls) (now : Time) (s : Session)
    (occurrence : Occurrence) : Except (OccurrenceState × String) (Plan × Robot) := do
  let invalid : OccurrenceState × String := (.rejected, "CONFIGURATION_INVALID")
  let found {α : Type} (row : Option α) : Except (OccurrenceState × String) α :=
    row.elim (.error invalid) .ok
  let refuse (refused : Bool) (state : OccurrenceState) (reason : String) :
      Except (OccurrenceState × String) Unit :=
    if refused then .error (state, reason) else .ok ()
  let schedule ← found (catalogue.schedules.lookup occurrence.scheduleId)
  let plan ← found (catalogue.plans.lookup schedule.patrolPlanId)
  let robot ← found (catalogue.robots.lookup plan.robotId)
  let version ← found (catalogue.versions.lookup plan.mapVersionId)
  refuse (!plan.enabled) .rejected "CONFIGURATION_INVALID"
  refuse (occurrence.state = .queued &&
      decide (schedule.queueExpirySeconds * second < now - occurrence.scheduledFor))
    .skipped "QUEUE_WINDOW_EXPIRED"
  refuse (schedule.requireRobotOnline && robot.onlineState ≠ .online)
    .skipped ("ROBOT_" ++ robot.onlineState.text)
  refuse (schedule.requireControlContractVerified &&
      !calls.profiles.integration.any fun integration =>
        integration.controlContractVerified && integration.ackContractVerified)
    .skipped "CONTROL_CONTRACT_NOT_VERIFIED"
  refuse (schedule.requireMapContractVerified &&
      !calls.profiles.integration.any (·.mapContractVerified))
    .skipped "MAP_CONTRACT_NOT_VERIFIED"
  refuse (!(robotReadiness { calls.profiles with robot := robot }).autonomousTaskReady .patrol)
    .skipped "AUTONOMOUS_TASK_NOT_READY"
  refuse (robot.currentMapId ≠ some version.mapId || robot.currentMapVersion ≠ some version.version)
    .skipped "MAP_VERSION_MISMATCH"
  let active := !(s.db.active plan.robotId).isEmpty
  refuse (active && schedule.overlapPolicy = .queue) .queued "WAITING_FOR_ACTIVE_TASK"
  refuse (active && schedule.overlapPolicy = .reject) .rejected "ACTIVE_TASK_OVERLAP"
  refuse active .skipped "ACTIVE_TASK_OVERLAP"
  return (plan, robot)

/-- `_dispatch_schedule_occurrence`: the transaction and the occurrence after an attempt, and what it
returns. -/
def dispatchOccurrence (catalogue : Catalogue) (draw : Draw) (calls : Calls) (now : Time)
    (s : Session) (occurrence : Occurrence) : Session × Occurrence × Bool :=
  match gates catalogue calls now s occurrence with
  | .error (state, reason) => (s, occurrence.put state reason, false)
  | .ok (plan, robot) =>
    match buildPatrolTask catalogue plan robot draw calls now s with
    | (s', .error e) => (s', occurrence.put .rejected e.code, false)
    | (s', .ok taskId) =>
      (s', { occurrence with state := .dispatched, reasonCode := none, taskId := some taskId }, true)

/-! ## What an attempt leaves -/

/-- A transaction that is not lost holds what it held before: no task, task event, command or outbox
event has been added. -/
def LeavesNothing (before after : Session) : Prop := after.lost = false → after.db = before.db

/-- The build comes to the insertion of its task, and the task is flushed. -/
def Inserts (catalogue : Catalogue) (plan : Plan) (robot : Robot) (draw : Draw) (calls : Calls)
    (s : Session) : Prop :=
  calls.querying = none ∧ (∃ version, checkPlan catalogue plan robot = .ok version) ∧
    calls.taskFlushed = true ∧ s.db.tasks.lookup draw.taskId = none

/-- Whenever the attempt comes to insert its task, the checks before the command let a patrol through,
or they end in an exception of the database. -/
def Commandable (catalogue : Catalogue) (draw : Draw) (calls : Calls) (now : Time) (s : Session)
    (occurrence : Occurrence) : Prop :=
  s.lost = false → ∀ plan robot, gates catalogue calls now s occurrence = .ok (plan, robot) →
    Inserts catalogue plan robot draw calls s →
    ∀ e, checkCommand (calls.sight robot) .patrol = .error e → e.breaks = true

@[simp] theorem Session.raise_db (s : Session) (e : Raised) : (s.raise e).db = s.db := rfl

theorem Session.raise_lost (s : Session) (e : Raised) : (s.raise e).lost = (s.lost || e.breaks) :=
  rfl

/-- A task under a new id is there after it was added. -/
theorem strand_ne {db : Database} {c : Creation} (unused : db.tasks.lookup c.taskId = none)
    (now : Time) : db.strand c now ≠ db := by
  intro same
  have added : (db.strand c now).tasks.lookup c.taskId = some (c.task now) := AList.lookup_insert _
  rw [same, unused] at added
  cases added

/-- The insertion leaves nothing when it fails, unless the command is refused. -/
theorem insertPatrol_leaves {c : Creation} {calls : Calls} {robot : Robot} {now : Time}
    {s s' : Session} {e : Raised} (open_ : s.lost = false)
    (failed : insertPatrol c calls robot now s = (s', .error e)) :
    LeavesNothing s s' ↔ (calls.taskFlushed = true → s.db.tasks.lookup c.taskId = none →
      ∀ e, checkCommand (calls.sight robot) .patrol = .error e → e.breaks = true) := by
  unfold insertPatrol at failed
  by_cases stuck : (!calls.taskFlushed || (s.db.tasks.lookup c.taskId).isSome) = true
  · rw [if_pos stuck] at failed
    obtain ⟨rfl, _⟩ := Prod.mk.inj failed
    refine iff_of_true (fun _ => rfl) ?_
    intro flushed unused
    rw [flushed, unused] at stuck
    cases stuck
  · rw [if_neg stuck] at failed
    simp only [Bool.or_eq_true, Bool.not_eq_true', not_or, Bool.not_eq_false] at stuck
    obtain ⟨flushed, unused⟩ := stuck
    rw [Bool.not_eq_true, Option.isSome_eq_false_iff, Option.isNone_iff_eq_none] at unused
    dsimp only at failed
    cases admitted : checkCommand (calls.sight robot) .patrol with
    | error refusal =>
      rw [admitted] at failed
      obtain ⟨rfl, _⟩ := Prod.mk.inj failed
      constructor
      · intro nothing _ _ e same
        cases same
        by_contra whole
        have kept : (s.lost || refusal.breaks) = false := by
          rw [open_, Bool.false_or]
          exact Bool.eq_false_iff.mpr whole
        exact strand_ne unused now (nothing kept)
      · intro spoils kept
        have broken := spoils flushed unused refusal rfl
        rw [Session.raise_lost, broken, Bool.or_true] at kept
        cases kept
    | ok admittance =>
      rw [admitted] at failed
      dsimp only at failed
      refine iff_of_true ?_ (fun _ _ e same => by cases same)
      split at failed
      · obtain ⟨rfl, _⟩ := Prod.mk.inj failed
        intro kept
        rw [Session.raise_lost] at kept
        simp [Raised.breaks] at kept
      · cases failed

/-- An insertion that succeeds was admitted. -/
theorem insertPatrol_admitted {c : Creation} {calls : Calls} {robot : Robot} {now : Time}
    {s s' : Session} {id : String} (done : insertPatrol c calls robot now s = (s', .ok id)) :
    checkCommand (calls.sight robot) .patrol = .ok () := by
  unfold insertPatrol at done
  split at done
  · cases done
  · dsimp only at done
    split at done
    · cases done
    · assumption

/-- A lost transaction stays lost. -/
theorem insertPatrol_lost {c : Creation} {calls : Calls} {robot : Robot} {now : Time} {s : Session}
    (lost : s.lost = true) : (insertPatrol c calls robot now s).1.lost = true := by
  unfold insertPatrol
  dsimp only
  split
  · simp [Session.raise_lost, lost]
  · split
    · simp [Session.raise_lost, lost]
    · split
      · simp [Session.raise_lost, lost]
      · exact lost

theorem buildPatrolTask_lost {catalogue : Catalogue} {plan : Plan} {robot : Robot} {draw : Draw}
    {calls : Calls} {now : Time} {s : Session} (lost : s.lost = true) :
    (buildPatrolTask catalogue plan robot draw calls now s).1.lost = true := by
  unfold buildPatrolTask
  split
  · simp [Session.raise_lost, lost]
  · split
    · simp [Session.raise_lost, lost]
    · exact insertPatrol_lost lost

/-- The transaction after an attempt is the one its build leaves. -/
theorem dispatchOccurrence_session {catalogue : Catalogue} {draw : Draw} {calls : Calls}
    {now : Time} {s : Session} {occurrence : Occurrence} {plan : Plan} {robot : Robot}
    (passed : gates catalogue calls now s occurrence = .ok (plan, robot)) :
    (dispatchOccurrence catalogue draw calls now s occurrence).1 =
      (buildPatrolTask catalogue plan robot draw calls now s).1 := by
  unfold dispatchOccurrence
  rw [passed]
  dsimp only
  split <;> rename_i built <;> rw [built]

/-! ## What can still refuse the command -/

/-- An occurrence that passes the gates has a robot that is ready for a patrol. -/
theorem gates_ready {catalogue : Catalogue} {calls : Calls} {now : Time} {s : Session}
    {occurrence : Occurrence} {plan : Plan} {robot : Robot}
    (passed : gates catalogue calls now s occurrence = .ok (plan, robot)) :
    Facts.autonomousTaskReady { calls.profiles with robot := robot } .patrol = true := by
  unfold gates at passed
  simp only [Except.bind_eq_ok] at passed
  obtain ⟨schedule, _, plan', _, robot', _, version, _, _, _, _, _, _, _, _, _, _, _, _, ready, _, _,
    _, _, _, _, _, _, same⟩ := passed
  cases same
  split at ready
  · cases ready
  · next isReady => simpa [robotReadiness] using isReady

/-- The gates leave four reasons to refuse the command when the profiles are read again as they were: a
manual lease or no answer of Redis, another active task or no answer of the database, and an unknown
boot session. -/
theorem admit_after_gates {catalogue : Catalogue} {calls : Calls} {now : Time} {s : Session}
    {occurrence : Occurrence} {plan : Plan} {robot : Robot}
    (passed : gates catalogue calls now s occurrence = .ok (plan, robot))
    (again : calls.again = some calls.profiles) :
    checkCommand (calls.sight robot) .patrol = (do
      checkLease calls.lease .patrol
      checkActiveTask calls.otherTask .patrol
      checkBoot robot .patrol) := by
  have ready := gates_ready passed
  obtain ⟨enabled, online, estop, supported, integration, profile, direct, control, ack, map⟩ :=
    ready_of_autonomous ready
  cases declared : calls.profiles.capability with
  | none =>
    simp only [declared, supports, Option.any_none] at supported
    cases supported
  | some capability =>
    have free : checkRobot robot .patrol = .ok () := by
      simp only at enabled online estop
      simp [checkRobot, enabled, online, estop]
    have profiles : checkProfiles calls.profiles = .ok (integration, capability) := by
      simp only at profile
      simp [checkProfiles, profile, declared, direct]
    have verified : checkReadiness { calls.profiles with robot := robot } integration .patrol =
        .ok () := by
      simp [checkReadiness, control, ack, map, safetyCommands, robotReadiness, ready]
    have listed : capability.supportedCommands.contains (Cmd.text .patrol) = true := by
      simpa [supports, declared] using supported
    unfold checkCommand assertRobotCanExecute
    simp only [Calls.sight, again, free, profiles, verified, listed, Except.ok_bind, if_true]
    cases checkLease calls.lease .patrol <;> rfl

/-! ## Every attempt -/

/-- **An attempt that returns `False` leaves nothing exactly if, whenever it comes to insert its task,
the command is admitted or the transaction is lost.** After the gates the lease, another task and the boot session are
left to refuse it. -/
theorem dispatch_atomic_iff (catalogue : Catalogue) (draw : Draw) (calls : Calls) (now : Time)
    (s : Session) (occurrence : Occurrence) :
    (((dispatchOccurrence catalogue draw calls now s occurrence).2.2 = false →
      LeavesNothing s (dispatchOccurrence catalogue draw calls now s occurrence).1) ↔
      Commandable catalogue draw calls now s occurrence) ∧
    ∀ plan robot, gates catalogue calls now s occurrence = .ok (plan, robot) → calls.again = some calls.profiles →
      checkCommand (calls.sight robot) .patrol = (do
        checkLease calls.lease .patrol
        checkActiveTask calls.otherTask .patrol
        checkBoot robot .patrol) := by
  refine ⟨?_, fun _ _ passed again => admit_after_gates passed again⟩
  unfold Commandable
  cases passed : gates catalogue calls now s occurrence with
  | error reason =>
    refine iff_of_true ?_ (fun _ _ _ found => by cases found)
    intro _ _
    simp only [dispatchOccurrence, passed]
  | ok found =>
    obtain ⟨plan, robot⟩ := found
    rw [dispatchOccurrence_session passed]
    by_cases open_ : s.lost = false
    · cases querying : calls.querying with
      | some e =>
        refine iff_of_true ?_ ?_
        · intro _ _
          simp only [buildPatrolTask, querying, Session.raise_db]
        · rintro _ _ _ _ ⟨answered, _⟩
          rw [querying] at answered
          cases answered
      | none =>
        cases plan_checked : checkPlan catalogue plan robot with
        | error e =>
          refine iff_of_true ?_ ?_
          · intro _ _
            simp only [buildPatrolTask, querying, plan_checked, Session.raise_db]
          · rintro _ _ _ same ⟨_, ⟨version, valid⟩, _⟩
            cases same
            rw [plan_checked] at valid
            cases valid
        | ok version =>
          have built : buildPatrolTask catalogue plan robot draw calls now s =
              insertPatrol (plan.creation draw) calls robot now s := by
            simp only [buildPatrolTask, querying, plan_checked]
          rw [built]
          cases inserted : insertPatrol (plan.creation draw) calls robot now s with
          | mk s' result =>
            cases result with
            | ok id =>
              refine iff_of_true ?_ ?_
              · intro refused
                simp [dispatchOccurrence, passed, built, inserted] at refused
              · rintro _ _ _ same _ e refused
                cases same
                rw [insertPatrol_admitted inserted] at refused
                cases refused
            | error e =>
              have refused : (dispatchOccurrence catalogue draw calls now s occurrence).2.2 =
                  false := by
                simp only [dispatchOccurrence, passed, built, inserted]
              rw [refused, insertPatrol_leaves open_ inserted]
              constructor
              · rintro spoils _ _ _ same ⟨_, _, flushed, unused⟩
                cases same
                exact spoils rfl flushed unused
              · intro spoils _ flushed unused
                exact spoils open_ plan robot rfl ⟨querying, ⟨version, plan_checked⟩, flushed, unused⟩
    · refine iff_of_true ?_ (fun kept => absurd kept open_)
      intro _ kept
      rw [buildPatrolTask_lost (Bool.not_eq_false _ ▸ open_)] at kept
      cases kept

/-- A mock robot that is ready for a patrol on the map version of its plan. -/
def readyRobot : Robot where
  siteId := "S1"
  enabled := true
  onlineState := .online
  lastSeenAt := some 0
  currentMapId := some "M1"
  currentMapVersion := some "1"
  currentMode := "IDLE"
  currentTaskId := none
  battery := .int 90
  estopActive := some false
  bootId := some "boot"

/-- Its profiles. -/
def readyProfiles : Profiles where
  integration := some { Integration.initial with
    sourceKind := .mock
    controlContractVerified := true
    ackContractVerified := true
    mapContractVerified := true }
  capability := some { protocolVersion := "1.3.0", supportedCommands := ["patrol"], sensors := []
                       media := [], receivedAt := 0 }
  motion := none

/-- A schedule with its plan, for that robot. -/
def readyCatalogue : Catalogue where
  schedules := AList.singleton "schedule"
    { patrolPlanId := "plan", overlapPolicy := .skip, queueExpirySeconds := 300
      requireRobotOnline := true, requireControlContractVerified := true
      requireMapContractVerified := true }
  plans := AList.singleton "plan"
    { robotId := "R1", mapVersionId := "V1", enabled := true, points := ["P1"] }
  versions := AList.singleton "V1" { mapId := "M1", version := "1" }
  presets := AList.singleton "P1" true
  robots := AList.singleton "R1" readyRobot

/-- The calls of an attempt while an operator holds the manual lease; the database answers them all. -/
def leasedCalls : Calls where
  profiles := readyProfiles
  querying := none
  taskFlushed := true
  again := some readyProfiles
  lease := some true
  otherTask := some none
  commandFlushed := true

/-- While an operator holds the manual lease, the attempt is rejected, the transaction goes on, and an
active task without a command is committed with it. -/
theorem lease_leaves_task :
    let after := dispatchOccurrence readyCatalogue
      { taskId := "T1", commandId := "C1", expiresAt := 30 * second } leasedCalls 0
      { db := .empty, lost := false }
      { scheduleId := "schedule", scheduledFor := 0, state := .pending, reasonCode := none
        taskId := none }
    ¬ (after.2.2 = false → LeavesNothing { db := .empty, lost := false } after.1) ∧
      after.2.1.reasonCode = some "MANUAL_LEASE_CONFLICT" ∧
      ((after.1.commit .empty).active "R1").length = 1 := by
  refine ⟨?_, rfl, rfl⟩
  intro nothing
  have same := congrArg (fun db : Database => db.taskEvents.length) (nothing rfl rfl)
  cases same

end Firebot.Scheduler
