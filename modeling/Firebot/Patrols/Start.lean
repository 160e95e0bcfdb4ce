import Mathlib.Analysis.Real.Sqrt
import Firebot.Patrols.Resume

/-!
# Where a full patrol starts

A full patrol drives to its first point from wherever the robot is, so it is to start in the waiting area only,
and only if no cancelled patrol can be resumed. `patrol_plan_task` checks both: the position in the robot's
document in Redis (`robotAtWaiting`, which decides the distance in the plane: `waiting_iff`), and the patrol
that was cancelled last. `patrol` and the scheduler build the same task and check neither, and no path looks at
the patrols cancelled before the last one. **Every full patrol of a run is created in the waiting area, with
none to resume, exactly if every action fits** (`start_guarded_iff`).

A request is one transaction here; one that is refused leaves the tables as they were. Distances are exact, where the
code rounds to floats.
-/

namespace Firebot.Patrols.Start

open Firebot.Api (Resumable)
open Firebot.MqttIngress (Call Env Latest Raised State deliver)
open Firebot.Tasks

/-! ## The pose -/

/-- `REMOTE_WAITING_POSE`. -/
def remoteWaitingPose : ℚ × ℚ := (6 / 5, 6 / 5)

/-- `WAITING_TOLERANCE_M`. -/
def waitingToleranceM : ℚ := 4 / 5

/-- `math.hypot(x - x₀, y - y₀) <= tolerance`, by the squares; a float that is not finite is never that near. -/
def within (x y : JsonTree) : Bool :=
  match x, y with
  | .real x, .real y => (x - remoteWaitingPose.1) ^ 2 + (y - remoteWaitingPose.2) ^ 2 ≤ waitingToleranceM ^ 2
  | _, _ => false

/-- `_robot_at_waiting`. -/
def robotAtWaiting (env : Env) (latest : Option Latest) : Except Raised Bool :=
  match latest.bind (·.doc.get "x"), latest.bind (·.doc.get "y") with
  | some x, some y => do
    let x ← env.float x
    let y ← env.float y
    return within x y
  | _, _ => .ok false

/-! ## The requests -/

/-- A request for a patrol, or an occurrence of a schedule, with the ids of the task and the command that it
would insert. `builds` says that the checks before the insertion pass. -/
structure StartRequest where
  vehicleId : String
  builds : Bool
  taskId : String
  commandId : String
  expiresAt : Time

/-- The request as `patrol_plan_task` sees it. -/
def StartRequest.plan (r : StartRequest) (robotId : String) (resumeTaskId : Option String)
    (atWaiting : Bool) : PlanRequest where
  robotId := robotId
  resumeTaskId := resumeTaskId
  atWaiting := atWaiting
  builds := r.builds
  taskId := r.taskId
  commandId := r.commandId
  expiresAt := r.expiresAt

/-- `build_patrol_task`. -/
def buildPatrolTask (r : PlanRequest) (now : Time) (db : Database) : Database :=
  if starts r db then db.create (r.creation "PATROL_PLAN_TRIGGERED" none) now else db

/-- `_dispatch_schedule_occurrence`: a robot with an active task gets no other. -/
def dispatchOccurrence (r : PlanRequest) (now : Time) (db : Database) : Database :=
  if (db.active r.robotId).isEmpty then buildPatrolTask r now db else db

/-! ## Actions -/

/-- A message reaches the ingress, a request the API, or the scheduler comes to an occurrence. -/
inductive Action where
  | message (c : Call)
  | patrolPlan (r : StartRequest) (resumeTaskId : Option String) (now : Time)
  | patrol (r : StartRequest) (now : Time)
  | scheduled (r : StartRequest) (now : Time)
  | returnDock (r : ReturnRequest) (now : Time)

section

variable (env : Env) (s : State)

/-- A request about the robot of a vehicle. -/
def request (vehicleId : String) (f : String → Database → Database) : State :=
  match s.vehicles.lookup vehicleId with
  | none => s
  | some vehicle => { s with business := f vehicle.id s.business }

/-- The test of the vehicle's document passes; where it raises, the request fails. -/
def waiting (vehicleId : String) : Bool := (robotAtWaiting env (s.redis.latest vehicleId)).toOption = some true

/-- One action. -/
def step : Action → State
  | .message c => deliver env s c
  | .patrolPlan r resumeTaskId now => request s r.vehicleId fun robotId =>
      patrolPlanTask (r.plan robotId resumeTaskId (waiting env s r.vehicleId)) now
  | .patrol r now => request s r.vehicleId fun robotId => buildPatrolTask (r.plan robotId none false) now
  | .scheduled r now => request s r.vehicleId fun robotId =>
      dispatchOccurrence (r.plan robotId none false) now
  | .returnDock r now => { s with business := Patrols.returnDock r now s.business }

/-- The state after a list of actions. -/
abbrev run (actions : List Action) : State := Runs.run (step env) s actions

end

/-! ## What is asked for -/

/-- A full patrol of the robot is created. -/
def Started (before after : Database) (robotId : String) : Prop :=
  ∃ id task, before.tasks.lookup id = none ∧ after.tasks.lookup id = some task ∧
    task.type = .patrol ∧ task.robotId = robotId ∧ task.parameters.resumedFromTaskId = none

/-- The position in the vehicle's document. -/
structure Position (env : Env) (s : State) (vehicleId : String) (x y : ℚ) : Prop where
  x : ∃ value, (s.redis.latest vehicleId).bind (·.doc.get "x") = some value ∧ env.float value = .ok (.real x)
  y : ∃ value, (s.redis.latest vehicleId).bind (·.doc.get "y") = some value ∧ env.float value = .ok (.real y)

/-- The latest position of the robot is 0.8 m at most from (1.2, 1.2). -/
def AtWaiting (env : Env) (s : State) (robotId : String) : Prop :=
  ∃ vehicleId vehicle, s.vehicles.lookup vehicleId = some vehicle ∧ vehicle.id = robotId ∧
    ∃ x y : ℚ, Position env s vehicleId x y ∧ √((x - 6 / 5 : ℚ) ^ 2 + (y - 6 / 5 : ℚ) ^ 2 : ℝ) ≤ (4 / 5 : ℚ)

/-- No cancelled patrol of the robot can be resumed. -/
def NoneAvailable (db : Database) (robotId : String) : Prop :=
  ∀ id task, db.tasks.lookup id = some task → Resumable robotId task = true →
    task.parameters.resumeState ≠ some .available

/-- A full patrol is created in the waiting area only, and only if none can be resumed. -/
def Guarded (env : Env) (before after : State) : Prop :=
  ∀ robotId, Started before.business after.business robotId →
    AtWaiting env before robotId ∧ NoneAvailable before.business robotId

/-- A patrol other than the one cancelled last is cancelled and marked as one to resume. No path looks at these. -/
def olderAvailable (robotId : String) (db : Database) : Bool :=
  db.tasks.rows.any fun row => Resumable robotId row.2 && some row.1 ≠ (db.lastCancelled robotId).map Prod.fst &&
    row.2.parameters.resumeState = some .available

/-- The guards of `patrol_plan_task` would let a full patrol of the robot pass. -/
structure PassesGuards (env : Env) (s : State) (robotId : String) : Prop where
  atWaiting : ∃ vehicleId vehicle, s.vehicles.lookup vehicleId = some vehicle ∧ vehicle.id = robotId ∧
    waiting env s vehicleId = true
  unavailable : resumeAvailable robotId s.business = false

/-- A patrol that is built outside of `patrol_plan_task` would pass the guards there, and none that is built finds a
patrol to resume that was cancelled before the last one. -/
def Fits (env : Env) (s : State) : Action → Prop
  | .message _ => True
  | .patrolPlan r resumeTaskId _ => ∀ vehicle, s.vehicles.lookup r.vehicleId = some vehicle →
      resumeTaskId.filter (· ≠ "") = none → waiting env s r.vehicleId = true →
      resumeAvailable vehicle.id s.business = false →
      starts (r.plan vehicle.id resumeTaskId true) s.business = true → olderAvailable vehicle.id s.business = false
  | .patrol r _ => ∀ vehicle, s.vehicles.lookup r.vehicleId = some vehicle →
      starts (r.plan vehicle.id none false) s.business = true →
      PassesGuards env s vehicle.id ∧ olderAvailable vehicle.id s.business = false
  | .scheduled r _ => ∀ vehicle, s.vehicles.lookup r.vehicleId = some vehicle →
      (s.business.active vehicle.id).isEmpty = true →
      starts (r.plan vehicle.id none false) s.business = true →
      PassesGuards env s vehicle.id ∧ olderAvailable vehicle.id s.business = false
  | .returnDock .. => True

/-! ## What the guards decide -/

/-- The test decides whether the position is 0.8 m at most from the waiting pose. -/
theorem waiting_iff {env : Env} {s : State} {vehicleId : String} : waiting env s vehicleId = true ↔
    ∃ x y : ℚ, Position env s vehicleId x y ∧ √((x - 6 / 5 : ℚ) ^ 2 + (y - 6 / 5 : ℚ) ^ 2 : ℝ) ≤ (4 / 5 : ℚ) := by
  have near (x y : ℚ) : within (.real x) (.real y) = true ↔
      √((x - 6 / 5 : ℚ) ^ 2 + (y - 6 / 5 : ℚ) ^ 2 : ℝ) ≤ (4 / 5 : ℚ) := by
    have nonneg : (0 : ℝ) ≤ (4 / 5 : ℚ) := by
      rw [Rat.cast_nonneg]
      norm_num
    have square : ((x - 6 / 5 : ℚ) ^ 2 + (y - 6 / 5 : ℚ) ^ 2 : ℝ) = ((x - 6 / 5) ^ 2 + (y - 6 / 5) ^ 2 : ℚ) := by
      rw [Rat.cast_add, Rat.cast_pow, Rat.cast_pow]
    rw [Real.sqrt_le_left nonneg, square, ← Rat.cast_pow, Rat.cast_le]
    exact decide_eq_true_iff
  unfold waiting robotAtWaiting
  rw [decide_eq_true_iff]
  constructor
  · intro passed
    split at passed
    next a b at_x at_y =>
      cases float_x : env.float a with
      | error e => rw [float_x] at passed; cases passed
      | ok x =>
        cases float_y : env.float b with
        | error e => rw [float_x, float_y] at passed; cases passed
        | ok y =>
          rw [float_x, float_y] at passed
          have inside : within x y = true := Option.some.inj passed
          cases x with
          | real x =>
            cases y with
            | real y => exact ⟨x, y, ⟨⟨a, at_x, float_x⟩, b, at_y, float_y⟩, (near x y).mp inside⟩
            | _ => cases inside
          | _ => cases inside
    next => cases passed
  · rintro ⟨x, y, ⟨⟨a, at_x, float_x⟩, b, at_y, float_y⟩, distance⟩
    rw [at_x, at_y]
    dsimp only
    rw [float_x, float_y]
    exact congrArg some ((near x y).mpr distance)

/-- None is available if neither the newest cancelled patrol is, nor one before it. -/
theorem noneAvailable_iff {db : Database} {robotId : String} : NoneAvailable db robotId ↔
    resumeAvailable robotId db = false ∧ olderAvailable robotId db = false := by
  constructor
  · intro none_
    constructor
    · unfold resumeAvailable
      cases newest : db.lastCancelled robotId with
      | none => rfl
      | some row =>
        obtain ⟨found, resumable⟩ := Table.newest_spec newest
        exact decide_eq_false (none_ row.1 row.2 found resumable)
    · refine Bool.eq_false_iff.mpr fun older => ?_
      obtain ⟨id, task, found, marked⟩ := Table.any_rows.mp older
      simp only [Bool.and_eq_true, decide_eq_true_eq] at marked
      exact none_ id task found marked.1.1 marked.2
  · rintro ⟨unavailable, noOlder⟩ id task found resumable available
    obtain ⟨newestId, newest, last⟩ : ∃ newestId newest, db.lastCancelled robotId = some (newestId, newest) :=
      Table.exists_newest Task.createdAt found resumable
    unfold resumeAvailable at unavailable
    rw [last] at unavailable
    by_cases same : id = newestId
    · subst same
      rw [(Table.newest_spec last).1] at found
      cases found
      exact of_decide_eq_false unavailable available
    · refine Bool.eq_false_iff.mp noOlder (Table.any_rows.mpr ⟨id, task, found, ?_⟩)
      rw [last]
      simp only [Bool.and_eq_true, decide_eq_true_eq]
      exact ⟨⟨resumable, fun equal => same (Option.some.inj equal)⟩, available⟩

/-- The guards, and the patrols they do not look at, decide the guarantee. -/
theorem passesGuards_iff {env : Env} {s : State} {robotId : String} : PassesGuards env s robotId ∧
    olderAvailable robotId s.business = false ↔ AtWaiting env s robotId ∧ NoneAvailable s.business robotId := by
  rw [noneAvailable_iff]
  constructor
  · rintro ⟨⟨⟨vehicleId, vehicle, found, own, passed⟩, unavailable⟩, older⟩
    exact ⟨⟨vehicleId, vehicle, found, own, waiting_iff.mp passed⟩, unavailable, older⟩
  · rintro ⟨⟨vehicleId, vehicle, found, own, here⟩, unavailable, older⟩
    exact ⟨⟨⟨vehicleId, vehicle, found, own, waiting_iff.mpr here⟩, unavailable⟩, older⟩

/-! ## One action -/

section

variable {env : Env} {s : State} {db : Database} {robotId : String}

/-- Nothing is started where nothing changes. -/
theorem not_started_self : ¬ Started db db robotId := by
  rintro ⟨id, task, unused, found, _⟩
  rw [unused] at found
  cases found

/-- A creation starts a full patrol if it is one. -/
theorem started_create {c : Creation} (now : Time) (unused : db.tasks.lookup c.taskId = none) :
    Started db (db.create c now) robotId ↔
      c.type = .patrol ∧ c.robotId = robotId ∧ c.parameters.resumedFromTaskId = none := by
  constructor
  · rintro ⟨id, task, absent, found, type, own, fresh⟩
    rcases Table.of_lookup_insert found with ⟨_, rfl⟩ | ⟨_, before⟩
    · exact ⟨type, own, fresh⟩
    · rw [absent] at before
      cases before
  · rintro ⟨type, own, fresh⟩
    exact ⟨c.taskId, _, unused, AList.lookup_insert _, type, own, fresh⟩

/-- A continuation is no full patrol. -/
theorem not_started_resumed {r : PlanRequest} {id : String} {now : Time} {task : Task}
    (unused : db.tasks.lookup r.taskId = none) (found : db.tasks.lookup id = some task) :
    ¬ Started db { db.create (r.creation "PATROL_RESUMED" (some id)) now with
      tasks := Table.modify id resumed (db.create (r.creation "PATROL_RESUMED" (some id)) now).tasks }
      robotId := by
  rintro ⟨newId, row, absent, marked, type, own, fresh⟩
  have other : newId ≠ id := by
    rintro rfl
    rw [absent] at found
    cases found
  have created : AList.lookup newId (db.create (r.creation "PATROL_RESUMED" (some id)) now).tasks =
      some row := (Table.lookup_modify_of_ne other resumed _).symm.trans marked
  have started : Started db (db.create (r.creation "PATROL_RESUMED" (some id)) now) robotId :=
    ⟨newId, row, absent, created, type, own, fresh⟩
  obtain ⟨_, _, continues⟩ :=
    (started_create (c := r.creation "PATROL_RESUMED" (some id)) now unused).mp started
  cases continues

/-- Building a patrol starts one if it comes to the creation. -/
theorem started_build (r : PlanRequest) (now : Time) :
    Started db (buildPatrolTask r now db) robotId ↔ starts r db = true ∧ r.robotId = robotId := by
  unfold buildPatrolTask
  split
  next started =>
    rw [started_create now (fresh_of_starts started)]
    exact ⟨fun new => ⟨started, new.2.1⟩, fun new => ⟨rfl, new.2, rfl⟩⟩
  next refused => exact iff_of_false not_started_self fun new => refused new.1

/-- Dispatching an occurrence starts one if the robot is free besides. -/
theorem started_dispatch (r : PlanRequest) (now : Time) :
    Started db (dispatchOccurrence r now db) robotId ↔
      (db.active r.robotId).isEmpty = true ∧ starts r db = true ∧ r.robotId = robotId := by
  unfold dispatchOccurrence
  split
  next idle =>
    rw [started_build]
    exact (and_iff_right idle).symm
  next busy => exact iff_of_false not_started_self fun new => busy new.1

/-- A request of `patrol_plan_task` creates a full patrol if it names none to resume and passes the guards. -/
theorem started_plan (r : PlanRequest) (now : Time) :
    Started db (patrolPlanTask r now db) robotId ↔
      r.resumeTaskId.filter (· ≠ "") = none ∧ resumeAvailable r.robotId db = false ∧
        r.atWaiting = true ∧ starts r db = true ∧ r.robotId = robotId := by
  unfold patrolPlanTask
  cases named : r.resumeTaskId.filter (· ≠ "") with
  | some id =>
    refine iff_of_false ?_ fun new => by cases new.1
    rw [if_pos (show (some id).isSome = true from rfl)]
    cases resumes : previous r db with
    | none => exact not_started_self
    | some row =>
      dsimp only
      split
      next started => exact not_started_resumed (fresh_of_starts started) (previous_eq_some resumes).1
      next => exact not_started_self
  | none =>
    rw [if_neg (show ¬ (none : Option String).isSome = true by decide)]
    by_cases guarded : (resumeAvailable r.robotId db || !r.atWaiting) = true
    · rw [if_pos guarded]
      refine iff_of_false not_started_self ?_
      rintro ⟨_, unavailable, atWaiting, _⟩
      rw [unavailable, atWaiting] at guarded
      cases guarded
    · rw [if_neg guarded]
      simp only [Bool.not_eq_true, Bool.or_eq_false_iff, Bool.not_eq_false'] at guarded
      have built : Started db (buildPatrolTask r now db) robotId ↔
          starts r db = true ∧ r.robotId = robotId := started_build r now
      unfold buildPatrolTask at built
      rw [built]
      exact ⟨fun new => ⟨rfl, guarded.1, guarded.2, new⟩, fun new => new.2.2.2⟩

/-- A request about a robot is guarded exactly if the full patrols that it creates are. -/
theorem guarded_request {vehicleId : String} {f : String → Database → Database} :
    Guarded env s (request s vehicleId f) ↔
      ∀ vehicle, s.vehicles.lookup vehicleId = some vehicle → ∀ robotId,
        Started s.business (f vehicle.id s.business) robotId →
        AtWaiting env s robotId ∧ NoneAvailable s.business robotId := by
  unfold Guarded request
  cases found : s.vehicles.lookup vehicleId with
  | none =>
    refine iff_of_true (fun robotId started => absurd started not_started_self) ?_
    rintro vehicle ⟨⟩
  | some vehicle =>
    constructor
    · rintro guarded _ ⟨⟩
      exact guarded
    · intro guarded
      exact guarded vehicle rfl

/-- A message starts no patrol. -/
theorem guarded_message (env : Env) (s : State) (c : Call) :
    Guarded env s (deliver env s c) := by
  rintro robotId ⟨id, task, unused, found, _⟩
  have there : ((deliver env s c).business.tasks.lookup id).isSome = false := by
    rcases MqttIngress.deliver_business env s c with same | ⟨msg, vehicle, source, w₀, w, call, after⟩
    · rw [same, unused]
      rfl
    · rw [after]
      have reached := call.reached
      generalize w.business = db at reached
      cases reached with
      | same => rw [unused]; rfl
      | alarm w₁ _ business _ => rw [MqttIngress.handleAlarm_tasks, business, unused]; rfl
      | ack => rw [Database.handleAck_tasks, unused]; rfl
      | report => rw [Database.handleTaskStatus_isSome, unused]; rfl
  rw [found] at there
  cases there

/-- Neither does a return. -/
theorem guarded_returnDock (env : Env) (s : State) (r : ReturnRequest) (now : Time) :
    Guarded env s { s with business := Patrols.returnDock r now s.business } := by
  intro robotId started
  exfalso
  have started' : Started s.business (Patrols.returnDock r now s.business) robotId := started
  unfold Patrols.returnDock at started'
  split at started'
  next granted =>
    simp only [Bool.and_eq_true, decide_eq_true_eq] at granted
    obtain ⟨type, _⟩ := (started_create now granted.1.2.1).mp started'
    cases type
  next => exact not_started_self started'

/-- The full patrols that an action creates are guarded exactly if the action fits. -/
theorem guarded_step_iff (env : Env) (s : State) (action : Action) :
    Guarded env s (step env s action) ↔ Fits env s action := by
  cases action with
  | message c => exact iff_of_true (guarded_message env s c) trivial
  | returnDock r now => exact iff_of_true (guarded_returnDock env s r now) trivial
  | patrolPlan r resumeTaskId now =>
    refine guarded_request.trans ?_
    constructor
    · intro guarded vehicle found named atWaiting unavailable started
      rw [atWaiting] at guarded
      exact (noneAvailable_iff.mp (guarded vehicle found vehicle.id
        ((started_plan _ now).mpr ⟨named, unavailable, rfl, started, rfl⟩)).2).2
    · intro fits vehicle found robotId started
      obtain ⟨named, unavailable, atWaiting, started', rfl⟩ := (started_plan _ now).mp started
      have here : waiting env s r.vehicleId = true := atWaiting
      rw [here] at started'
      exact passesGuards_iff.mp ⟨⟨⟨r.vehicleId, vehicle, found, rfl, here⟩, unavailable⟩,
        fits vehicle found named here unavailable started'⟩
  | patrol r now =>
    refine guarded_request.trans ?_
    constructor
    · intro guarded vehicle found started
      exact passesGuards_iff.mpr (guarded vehicle found vehicle.id ((started_build _ now).mpr ⟨started, rfl⟩))
    · intro fits vehicle found robotId started
      obtain ⟨started', rfl⟩ := (started_build _ now).mp started
      exact passesGuards_iff.mp (fits vehicle found started')
  | scheduled r now =>
    refine guarded_request.trans ?_
    constructor
    · intro guarded vehicle found idle started
      exact passesGuards_iff.mpr
        (guarded vehicle found vehicle.id ((started_dispatch _ now).mpr ⟨idle, started, rfl⟩))
    · intro fits vehicle found robotId started
      obtain ⟨idle, started', rfl⟩ := (started_dispatch _ now).mp started
      exact passesGuards_iff.mp (fits vehicle found idle started')

end

/-! ## Runs -/

/-- Every full patrol of a run is created in the waiting area, with none to resume, exactly if every action
fits. -/
theorem start_guarded_iff (env : Env) (s : State) (actions : List Action) :
    (∀ before action after, actions = before ++ action :: after →
      Guarded env (run env s before) (run env s (before ++ [action]))) ↔
      Runs.Meets (step env) (Fits env) s actions := by
  rw [Runs.meets_iff]
  refine forall_congr' fun before => forall_congr' fun action => forall_congr' fun after =>
    imp_congr_right fun _ => ?_
  rw [run, run, Runs.run_append]
  exact guarded_step_iff env _ action

/-- A robot at (20, 10). -/
def farState : State :=
  let s := State.ofVehicles [("AGV1", MqttIngress.Vehicle.initial "R1" "site")]
  { s with redis := { s.redis with
      latest := fun _ => some ⟨.obj [("x", .int 20), ("y", .int 10)], rfl, rfl⟩ } }

/-- A patrol from the generic endpoint. -/
def genericPatrol : List Action :=
  [.patrol { vehicleId := "AGV1", builds := true, taskId := "T1", commandId := "C1", expiresAt := 30 } 0]

/-- The generic endpoint starts a full patrol wherever the robot is. -/
theorem patrol_started_far :
    ¬ ∀ (env : Env) (s : State) (actions before : List Action) (action : Action)
        (after : List Action), actions = before ++ action :: after →
      Guarded env (run env s before) (run env s (before ++ [action])) := by
  intro claim
  have guarded := claim cancelledEnv farState genericPatrol [] _ [] rfl
  have started : Started farState.business (run cancelledEnv farState genericPatrol).business "R1" :=
    ⟨"T1", _, rfl, rfl, rfl, rfl, rfl⟩
  obtain ⟨⟨vehicleId, vehicle, found, _, here⟩, _⟩ := guarded "R1" started
  have passed : waiting cancelledEnv farState vehicleId = true := waiting_iff.mpr here
  have far : (robotAtWaiting cancelledEnv (farState.redis.latest "AGV1")).toOption = some false := by
    decide +kernel
  rw [waiting, show (robotAtWaiting cancelledEnv (farState.redis.latest vehicleId)).toOption = some false from far]
    at passed
  cases passed

end Firebot.Patrols.Start
