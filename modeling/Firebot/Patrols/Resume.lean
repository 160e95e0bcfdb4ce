import Firebot.Api.Tasks
import Firebot.MqttIngress.Business

/-!
# Cancelled patrols and their continuations

A patrol that was cancelled on its route can be resumed. `patrol_plan_task` continues it from there and marks it
as consumed, and so does a completed return. It should be consumed once: `patrol_plan_task` takes any cancelled
patrol of the robot, though, and the ingress makes a patrol that is reported cancelled once more available
again. `Fits` is what is asked of an action instead. **Every patrol of a run is consumed once exactly if every
action fits** (`consumed_once_iff`).

A request is one transaction here; one that is refused leaves the tables as they were.
-/

namespace Firebot.Patrols

open Firebot.Api (Resumable)
open Firebot.MqttIngress (Call Committed Env State deliver reportedOf taskStatus textOf)
open Firebot.Tasks

/-! ## The requests -/

/-- A request of `patrol_plan_task`, with the ids of the task and the command that it would insert. `builds`
says that its plan can be driven from the robot's pose, so that the builder comes to insert the task. -/
structure PlanRequest where
  robotId : String
  resumeTaskId : Option String
  atWaiting : Bool
  builds : Bool
  taskId : String
  commandId : String
  expiresAt : Time

namespace PlanRequest

variable (r : PlanRequest)

/-- The task that the request creates, a continuation of another or not. -/
def creation (phase : String) (previousId : Option String) : Creation where
  taskId := r.taskId
  commandId := r.commandId
  robotId := r.robotId
  fireEventId := none
  type := .patrol
  phase := phase
  parameters := { Parameters.empty with resumedFromTaskId := previousId }
  expiresAt := r.expiresAt

end PlanRequest

/-- The patrol is marked as resumed. -/
def resumed (task : Task) : Task :=
  { task with parameters := { task.parameters with resumeState := some .consumedByResume } }

/-- The command of a patrol is not refused, and its ids are new. -/
def starts (r : PlanRequest) (db : Database) : Bool :=
  r.builds && decide (db.fresh r.taskId r.commandId) && !db.activeConflict r.robotId .patrol

/-- The robot's patrol that was cancelled last can be resumed. -/
def resumeAvailable (robotId : String) (db : Database) : Bool :=
  (db.lastCancelled robotId).any fun row => row.2.parameters.resumeState = some .available

/-- The patrol that the request resumes. -/
def previous (r : PlanRequest) (db : Database) : Option (String × Task) :=
  (r.resumeTaskId.filter (· ≠ "")).bind fun id =>
    ((db.tasks.lookup id).filter (Resumable r.robotId)).map fun task => (id, task)

/-- `patrol_plan_task`. -/
def patrolPlanTask (r : PlanRequest) (now : Time) (db : Database) : Database :=
  if (r.resumeTaskId.filter (· ≠ "")).isSome then
    match previous r db with
    | none => db
    | some (id, _) =>
      if starts r db then
        { db.create (r.creation "PATROL_RESUMED" (some id)) now with
          tasks := Table.modify id resumed (db.create (r.creation "PATROL_RESUMED" (some id)) now).tasks }
      else db
  else if resumeAvailable r.robotId db || !r.atWaiting then db
  else if starts r db then db.create (r.creation "PATROL_PLAN_TRIGGERED" none) now
  else db

/-- A request of `return_dock`. -/
structure ReturnRequest where
  robotId : String
  builds : Bool
  taskId : String
  commandId : String
  expiresAt : Time

/-- `return_dock`. -/
def returnDock (r : ReturnRequest) (now : Time) (db : Database) : Database :=
  if r.builds && decide (db.fresh r.taskId r.commandId) && !db.activeConflict r.robotId .returnDock then
    db.create
      { taskId := r.taskId, commandId := r.commandId, robotId := r.robotId, fireEventId := none
        type := .returnDock, phase := "RETURN_TRIGGERED", parameters := .empty, expiresAt := r.expiresAt }
      now
  else db

/-! ## Actions -/

/-- A message reaches the ingress, or a request the API. -/
inductive Action where
  | message (c : Call)
  | patrolPlan (r : PlanRequest) (now : Time)
  | returnDock (r : ReturnRequest) (now : Time)

/-- One action. -/
def step (env : Env) (s : State) : Action → State
  | .message c => deliver env s c
  | .patrolPlan r now => { s with business := patrolPlanTask r now s.business }
  | .returnDock r now => { s with business := Patrols.returnDock r now s.business }

/-- The state after a list of actions. -/
abbrev run (env : Env) (s : State) (actions : List Action) : State := Runs.run (step env) s actions

/-- One more action at the end of a run. -/
theorem run_concat (env : Env) (s : State) (before : List Action) (action : Action) :
    run env s (before ++ [action]) = step env (run env s before) action :=
  Runs.run_append ..

/-! ## What is asked for -/

/-- The patrol has been consumed, and says how. -/
def Spent (db : Database) (id : String) (state : ResumeState) : Prop :=
  ∃ task, db.tasks.lookup id = some task ∧ task.type = .patrol ∧
    task.parameters.resumeState = some state ∧ state.consumed = true

/-- A continuation of the patrol has been created. -/
def Continued (before after : Database) (id : String) : Prop :=
  ∃ newId task, before.tasks.lookup newId = none ∧ after.tasks.lookup newId = some task ∧
    task.parameters.resumedFromTaskId = some id

/-- The patrol is consumed between two states. -/
def Consumes (before after : Database) (id : String) : Prop :=
  Continued before after id ∨ (¬ ∃ state, Spent before id state) ∧ ∃ state, Spent after id state

/-- What is consumed stays so, and nothing is consumed again. -/
structure ConsumedOnce (env : Env) (s : State) (actions : List Action) : Prop where
  stays : ∀ before middle after id state, actions = before ++ middle ++ after →
    Spent (run env s before).business id state → Spent (run env s (before ++ middle)).business id state
  ended : ∀ before middle after id state, actions = before ++ middle ++ after →
    Spent (run env s before).business id state →
    ¬ Continued (run env s before).business (run env s (before ++ middle)).business id
  once : ∀ before first middle second after id,
    actions = before ++ first :: middle ++ second :: after →
    Consumes (run env s before).business (step env (run env s before) first).business id →
    ¬ Consumes (run env s (before ++ first :: middle)).business
      (step env (run env s (before ++ first :: middle)) second).business id

/-! ## One action -/

/-- What has been consumed stays so, and is not continued. -/
structure Keeps (before after : Database) : Prop where
  stays : ∀ id state, Spent before id state → Spent after id state
  ended : ∀ id state, Spent before id state → ¬ Continued before after id

/-- No task is lost, and none changes its origin. -/
def Extends (before after : Database) : Prop :=
  ∀ id task, before.tasks.lookup id = some task → ∃ task', after.tasks.lookup id = some task' ∧
    task'.parameters.resumedFromTaskId = task.parameters.resumedFromTaskId

section

variable {a b c : Database}

/-- The tasks are all it looks at. -/
theorem Extends.of_tasks (same : b.tasks = a.tasks) : Extends a b := by
  intro id task found
  exact ⟨task, by rw [same, found], rfl⟩

/-- Neither does the law look at more. -/
theorem Keeps.of_tasks (same : b.tasks = a.tasks) : Keeps a b := by
  refine ⟨?_, ?_⟩
  · rintro id state ⟨task, found, spent⟩
    exact ⟨task, by rw [same, found], spent⟩
  · rintro id state _ ⟨newId, task, unused, found, _⟩
    rw [same, unused] at found
    cases found

/-- Two extensions, one after the other. -/
theorem Extends.trans (first : Extends a b) (second : Extends b c) : Extends a c := by
  intro id task found
  obtain ⟨task', found', same⟩ := first id task found
  obtain ⟨task'', found'', same'⟩ := second id task' found'
  exact ⟨task'', found'', same'.trans same⟩

/-- A continuation of a longer stretch was created in one of its parts. -/
theorem Continued.split {id : String} (more : Extends b c) (continued : Continued a c id) :
    Continued a b id ∨ Continued b c id := by
  obtain ⟨newId, task, unused, found, from_id⟩ := continued
  cases between : b.tasks.lookup newId with
  | none => exact .inr ⟨newId, task, between, found, from_id⟩
  | some row =>
    obtain ⟨task', found', same⟩ := more newId row between
    cases Option.some.inj (found.symm.trans found')
    exact .inl ⟨newId, row, unused, between, same.symm.trans from_id⟩

/-- What is kept on the way is kept. -/
theorem Keeps.trans (more : Extends b c) (first : Keeps a b) (second : Keeps b c) : Keeps a c := by
  refine ⟨fun id state spent => second.stays id state (first.stays id state spent), ?_⟩
  intro id state spent continued
  rcases continued.split more with early | late
  · exact first.ended id state spent early
  · exact second.ended id state (first.stays id state spent) late

end

/-! ### Requests -/

/-- The ids of a request that starts a patrol are new. -/
theorem fresh_of_starts {r : PlanRequest} {db : Database} (started : starts r db = true) :
    db.tasks.lookup r.taskId = none := by
  unfold starts at started
  simp only [Bool.and_eq_true, decide_eq_true_eq] at started
  exact started.1.2.1

/-- What a request of `patrol_plan_task` comes to. -/
theorem patrolPlanTask_cases (r : PlanRequest) (now : Time) (db : Database) :
    ((∀ id task, previous r db = some (id, task) → starts r db = true → False) ∧
      (patrolPlanTask r now db = db ∨ starts r db = true ∧
        patrolPlanTask r now db = db.create (r.creation "PATROL_PLAN_TRIGGERED" none) now)) ∨
    ∃ id task, previous r db = some (id, task) ∧ starts r db = true ∧
      patrolPlanTask r now db =
        { db.create (r.creation "PATROL_RESUMED" (some id)) now with
          tasks :=
            Table.modify id resumed (db.create (r.creation "PATROL_RESUMED" (some id)) now).tasks } := by
  unfold patrolPlanTask
  split
  · cases resumes : previous r db with
    | none => exact .inl ⟨by rintro id task ⟨⟩, .inl rfl⟩
    | some row =>
      obtain ⟨id, task⟩ := row
      dsimp only
      split
      next started => exact .inr ⟨id, task, rfl, started, rfl⟩
      next refused => exact .inl ⟨fun _ _ _ started => refused started, .inl rfl⟩
  next unnamed =>
    have none_resumed : ∀ id task, previous r db = some (id, task) → starts r db = true → False := by
      intro id task resumes
      unfold previous at resumes
      rw [Option.not_isSome_iff_eq_none.mp unnamed] at resumes
      cases resumes
    refine .inl ⟨none_resumed, ?_⟩
    split
    · exact .inl rfl
    · split
      next started => exact .inr ⟨started, rfl⟩
      · exact .inl rfl

/-- The patrol that a request resumes is a patrol of the table. -/
theorem previous_eq_some {r : PlanRequest} {db : Database} {id : String} {task : Task}
    (resumes : previous r db = some (id, task)) :
    db.tasks.lookup id = some task ∧ task.type = .patrol := by
  unfold previous at resumes
  obtain ⟨named, _, resumes⟩ := Option.bind_eq_some_iff.mp resumes
  obtain ⟨row, found, same⟩ := Option.map_eq_some_iff.mp resumes
  cases same
  obtain ⟨found, resumable⟩ := Option.filter_eq_some_iff.mp found
  unfold Resumable at resumable
  simp only [Bool.and_eq_true, decide_eq_true_eq] at resumable
  exact ⟨found, resumable.1.2⟩

/-- A new task extends the tables, and keeps what has been consumed unless it continues it. -/
theorem create_keeps (c : Creation) (now : Time) {db : Database} (unused : db.tasks.lookup c.taskId = none) :
    Extends db (db.create c now) ∧
      (Keeps db (db.create c now) ↔
        ∀ id state, c.parameters.resumedFromTaskId = some id → ¬ Spent db id state) := by
  have kept : ∀ id task, db.tasks.lookup id = some task →
      AList.lookup id (db.create c now).tasks = some task :=
    fun id task found => Table.lookup_insert_of_found _ unused found
  refine ⟨fun id task found => ⟨task, kept id task found, rfl⟩, ?_⟩
  constructor
  · intro keeps id state from_id spent
    exact keeps.ended id state spent ⟨c.taskId, _, unused, AList.lookup_insert _, from_id⟩
  · intro other
    refine ⟨?_, ?_⟩
    · rintro id state ⟨task, found, spent⟩
      exact ⟨task, kept id task found, spent⟩
    · rintro id state spent ⟨newId, task, absent, found, from_id⟩
      rcases Table.of_lookup_insert found with ⟨_, rfl⟩ | ⟨_, before⟩
      · exact other id state from_id spent
      · rw [absent] at before
        cases before

/-- A patrol that is marked as resumed keeps the others, and marking it creates none. -/
theorem resumed_keeps (db : Database) (id : String) :
    Extends db { db with tasks := Table.modify id resumed db.tasks } ∧
      (∀ id' state, id' ≠ id → Spent db id' state →
        Spent { db with tasks := Table.modify id resumed db.tasks } id' state) ∧
      ∀ id', ¬ Continued db { db with tasks := Table.modify id resumed db.tasks } id' := by
  refine ⟨?_, ?_, ?_⟩
  · intro id' task found
    by_cases same : id' = id
    · subst same
      refine ⟨resumed task, ?_, rfl⟩
      show AList.lookup _ (Table.modify _ _ _) = _
      rw [Table.lookup_modify_self, found, Option.map_some]
    · refine ⟨task, ?_, rfl⟩
      show AList.lookup _ (Table.modify _ _ _) = _
      rw [Table.lookup_modify_of_ne same, found]
  · rintro id' state other ⟨task, found, spent⟩
    refine ⟨task, ?_, spent⟩
    show AList.lookup _ (Table.modify _ _ _) = _
    rw [Table.lookup_modify_of_ne other, found]
  · rintro id' ⟨newId, task, unused, found, _⟩
    obtain ⟨row, before, _⟩ := Table.of_lookup_modify found
    rw [unused] at before
    cases before

/-- A resumed patrol has not been consumed before. -/
def PlanFits (r : PlanRequest) (db : Database) : Prop :=
  ∀ id task, previous r db = some (id, task) → starts r db = true →
    task.parameters.resumeState.any ResumeState.consumed = false

/-- A patrol is spent when its state says so. -/
theorem spent_iff {db : Database} {id : String} {task : Task} (found : db.tasks.lookup id = some task)
    (type : task.type = .patrol) :
    (∃ state, Spent db id state) ↔ task.parameters.resumeState.any ResumeState.consumed = true := by
  constructor
  · rintro ⟨state, row, there, _, marked, consumed⟩
    cases Option.some.inj (found.symm.trans there)
    rw [marked]
    exact consumed
  · intro consumed
    cases marked : task.parameters.resumeState with
    | none =>
      rw [marked] at consumed
      cases consumed
    | some state =>
      rw [marked] at consumed
      exact ⟨state, task, found, type, marked, consumed⟩

/-- A request for a patrol keeps what is spent exactly if it fits. -/
theorem patrolPlanTask_keeps (r : PlanRequest) (now : Time) (db : Database) :
    Extends db (patrolPlanTask r now db) ∧ (Keeps db (patrolPlanTask r now db) ↔ PlanFits r db) := by
  rcases patrolPlanTask_cases r now db with ⟨unresumed, same | ⟨started, same⟩⟩ |
    ⟨id, task, resumes, started, same⟩
  · rw [same]
    exact ⟨.of_tasks rfl, iff_of_true (.of_tasks rfl)
      fun id task resumes started => (unresumed id task resumes started).elim⟩
  · rw [same]
    obtain ⟨extend, keeps⟩ := create_keeps (r.creation "PATROL_PLAN_TRIGGERED" none) now
      (fresh_of_starts started)
    refine ⟨extend, iff_of_true (keeps.mpr ?_) ?_⟩
    · rintro id state ⟨⟩
    · exact fun id task resumes started => (unresumed id task resumes started).elim
  · rw [same]
    obtain ⟨found, type⟩ := previous_eq_some resumes
    obtain ⟨extend, keeps⟩ := create_keeps (r.creation "PATROL_RESUMED" (some id)) now
      (fresh_of_starts started)
    obtain ⟨extend', marks, uncontinued⟩ :=
      resumed_keeps (db.create (r.creation "PATROL_RESUMED" (some id)) now) id
    refine ⟨extend.trans extend', ?_⟩
    have fits : PlanFits r db ↔ ∀ state, ¬ Spent db id state := by
      rw [← not_exists, spent_iff found type, Bool.not_eq_true]
      constructor
      · exact fun fits => fits id task resumes started
      · intro unspent id' task' resumes' _
        cases Option.some.inj (resumes.symm.trans resumes')
        exact unspent
    rw [fits]
    constructor
    · intro keeps state spent
      have new : r.taskId ≠ id := by
        intro same
        rw [← same, fresh_of_starts started] at found
        cases found
      have inserted := (Table.lookup_modify_of_ne new resumed
        (db.create (r.creation "PATROL_RESUMED" (some id)) now).tasks).trans (AList.lookup_insert db.tasks)
      exact keeps.ended id state spent ⟨r.taskId, _, fresh_of_starts started, inserted, rfl⟩
    · intro unspent
      have created := keeps.mpr fun id' state from_id => by
        cases from_id
        exact unspent state
      refine ⟨?_, ?_⟩
      · intro id' state spent
        refine marks id' state ?_ (created.stays id' state spent)
        rintro rfl
        exact unspent state spent
      · intro id' state spent continued
        rcases continued.split extend' with first | second
        · exact created.ended id' state spent first
        · exact uncontinued id' second

/-- A return keeps what is spent. -/
theorem returnDock_keeps (r : ReturnRequest) (now : Time) (db : Database) :
    Extends db (returnDock r now db) ∧ Keeps db (returnDock r now db) := by
  unfold returnDock
  split
  next started =>
    simp only [Bool.and_eq_true, decide_eq_true_eq] at started
    obtain ⟨extend, keeps⟩ := create_keeps
      { taskId := r.taskId, commandId := r.commandId, robotId := r.robotId, fireEventId := none
        type := .returnDock, phase := "RETURN_TRIGGERED", parameters := .empty, expiresAt := r.expiresAt }
      now started.1.2.1
    refine ⟨extend, keeps.mpr ?_⟩
    rintro id state ⟨⟩
  · exact ⟨.of_tasks rfl, .of_tasks rfl⟩

/-! ### Messages -/

/-- The report does not make a patrol available that has been consumed. -/
def ReportFits (db : Database) (robotId : String) (msg : TaskStatus) : Prop :=
  ∀ task, db.tasks.lookup msg.taskId = some task → task.robotId = robotId → task.type = .patrol →
    task.parameters.resumeState.any ResumeState.consumed = true → ¬ task.resumes msg

/-- A report keeps what is spent exactly if it fits. -/
theorem handleTaskStatus_keeps (db : Database) (robotId : String) (msg : TaskStatus) (received : Time) :
    Extends db (db.handleTaskStatus robotId msg received) ∧
      (Keeps db (db.handleTaskStatus robotId msg received) ↔ ReportFits db robotId msg) := by
  have spent_any : ∀ {state : ResumeState} {task : Task}, task.parameters.resumeState = some state →
      state.consumed = true → task.parameters.resumeState.any ResumeState.consumed = true := by
    intro state task marked consumed
    rw [marked]
    exact consumed
  refine ⟨?_, ?_⟩
  · intro id task found
    obtain ⟨task', after, _, continues, _⟩ :=
      Database.handleTaskStatus_resume robotId msg received found
    exact ⟨task', after, continues⟩
  constructor
  · intro keeps task found own type consumed resumes
    obtain ⟨state, spent⟩ := (spent_iff found type).mpr consumed
    obtain ⟨row, after, _, marked, consumed'⟩ := keeps.stays _ state spent
    obtain ⟨row', after', _, _, resumed⟩ :=
      Database.handleTaskStatus_resume robotId msg received found
    cases Option.some.inj (after.symm.trans after')
    rw [resumed consumed, if_pos ⟨⟨rfl, own⟩, resumes⟩] at marked
    cases marked
    cases consumed'
  · intro fits
    refine ⟨?_, ?_⟩
    · rintro id state ⟨task, found, type, marked, consumed⟩
      obtain ⟨task', after, type', _, resumed⟩ :=
        Database.handleTaskStatus_resume robotId msg received found
      have any := spent_any marked consumed
      have unresumed : ¬ (msg.concerns robotId id task ∧ task.resumes msg) := by
        rintro ⟨⟨rfl, own⟩, resumes⟩
        exact fits task found own type any resumes
      refine ⟨task', after, type'.trans type, ?_, consumed⟩
      rw [resumed any, if_neg unresumed, marked]
    · rintro id state _ ⟨newId, task, unused, found, _⟩
      have there := db.handleTaskStatus_isSome robotId msg received newId
      rw [unused, found] at there
      cases there

/-- The report that a call commits fits. -/
def MessageFits (env : Env) (s : State) (c : Call) : Prop :=
  ∀ msg vehicle source w₀ w status,
    Committed env c.moment c.topic c.payload s msg vehicle source w₀ w →
    textOf msg "type" = "task_status" → reportedOf (textOf msg "status") = .ok status →
    ReportFits s.business vehicle.id (taskStatus msg status)

/-- So does a message, whatever its type. -/
theorem message_keeps (env : Env) (s : State) (c : Call) :
    Extends s.business (deliver env s c).business ∧
      (Keeps s.business (deliver env s c).business ↔ MessageFits env s c) := by
  have fits_of : Keeps s.business (deliver env s c).business → MessageFits env s c := by
    intro keeps msg vehicle source w₀ w status call type read
    rw [call.deliver_business (by rw [type]; decide), call.report type read] at keeps
    exact (handleTaskStatus_keeps ..).2.mp keeps
  rcases MqttIngress.deliver_business env s c with same | ⟨msg, vehicle, source, w₀, w, call, after⟩
  · rw [same] at fits_of ⊢
    exact ⟨.of_tasks rfl, fits_of, fun _ => .of_tasks rfl⟩
  · rw [after] at fits_of ⊢
    have reached := call.reached
    generalize w.business = db at reached fits_of
    cases reached with
    | same => exact ⟨.of_tasks rfl, fits_of, fun _ => .of_tasks rfl⟩
    | alarm w₁ _ business _ =>
      have tasks : (MqttIngress.handleAlarm env c.moment msg w₁).business.tasks = s.business.tasks := by
        rw [MqttIngress.handleAlarm_tasks, business]
      exact ⟨.of_tasks tasks, fits_of, fun _ => .of_tasks tasks⟩
    | ack commandId =>
      have tasks := Database.handleAck_tasks vehicle.id commandId (MqttIngress.ackMessage msg)
        c.moment.received s.business
      exact ⟨.of_tasks tasks, fits_of, fun _ => .of_tasks tasks⟩
    | report status type read =>
      refine ⟨(handleTaskStatus_keeps ..).1, fits_of, fun fits => ?_⟩
      exact (handleTaskStatus_keeps ..).2.mpr (fits msg vehicle source w₀ w status call type read)

/-! ## Runs -/

/-- A patrol that is resumed has not been consumed, and none that has been is reported cancelled again. -/
def Fits (env : Env) (s : State) : Action → Prop
  | .message c => MessageFits env s c
  | .patrolPlan r _ => PlanFits r s.business
  | .returnDock .. => True

/-- Every action extends the tasks, and keeps what is spent exactly if it fits. -/
theorem step_keeps (env : Env) (s : State) (action : Action) :
    Extends s.business (step env s action).business ∧
      (Keeps s.business (step env s action).business ↔ Fits env s action) := by
  cases action with
  | message c => exact message_keeps env s c
  | patrolPlan r now => exact patrolPlanTask_keeps r now s.business
  | returnDock r now =>
    obtain ⟨extend, keeps⟩ := returnDock_keeps r now s.business
    exact ⟨extend, iff_of_true keeps trivial⟩

/-- A patrol that an action continues has been consumed. -/
theorem spent_of_continued {env : Env} {s : State} {action : Action} {id : String}
    (continued : Continued s.business (step env s action).business id) :
    ∃ state, Spent (step env s action).business id state := by
  have old : ∀ {db : Database}, db.tasks = s.business.tasks → ¬ Continued s.business db id := by
    rintro db same ⟨newId, task, unused, found, _⟩
    rw [same, unused] at found
    cases found
  cases action with
  | message c =>
    exfalso
    obtain ⟨newId, task, unused, found, _⟩ := continued
    have there : ((deliver env s c).business.tasks.lookup newId).isSome = false := by
      rcases MqttIngress.deliver_business env s c with same | ⟨msg, vehicle, source, w₀, w, call, after⟩
      · rw [same, unused]
        rfl
      · rw [after]
        have reached := call.reached
        generalize w.business = db at reached
        cases reached with
        | same => rw [unused]; rfl
        | alarm w₁ _ business _ => rw [MqttIngress.handleAlarm_tasks, business, unused]; rfl
        | ack => rw [Database.handleAck_tasks, unused]; rfl
        | report => rw [Database.handleTaskStatus_isSome, unused]; rfl
    have found' : (deliver env s c).business.tasks.lookup newId = some task := found
    rw [found'] at there
    cases there
  | patrolPlan r now =>
    rcases patrolPlanTask_cases r now s.business with ⟨_, same | ⟨started, same⟩⟩ |
      ⟨previousId, task, resumes, started, same⟩
    · exact absurd continued (old (congrArg Database.tasks same))
    · obtain ⟨newId, task, unused, found, from_id⟩ := continued
      have found' : AList.lookup newId (patrolPlanTask r now s.business).tasks = some task := found
      rw [same] at found'
      rcases Table.of_lookup_insert found' with ⟨_, rfl⟩ | ⟨_, before⟩
      · cases from_id
      · rw [unused] at before
        cases before
    · obtain ⟨newId, row, unused, found, from_id⟩ := continued
      obtain ⟨previousRow, type⟩ := previous_eq_some resumes
      have found' : AList.lookup newId (patrolPlanTask r now s.business).tasks = some row := found
      rw [same] at found'
      have inserted : AList.lookup previousId
          (s.business.create (r.creation "PATROL_RESUMED" (some previousId)) now).tasks = some task :=
        Table.lookup_insert_of_found _ (fresh_of_starts started) previousRow
      have marked : AList.lookup previousId (patrolPlanTask r now s.business).tasks =
          some (resumed task) := by
        rw [same]
        show AList.lookup _ (Table.modify _ _ _) = _
        rw [Table.lookup_modify_self, inserted, Option.map_some]
      obtain ⟨row', before, ⟨rfl, _⟩ | ⟨_, rfl⟩⟩ := Table.of_lookup_modify found'
      · rw [unused] at previousRow
        cases previousRow
      · rcases Table.of_lookup_insert before with ⟨_, rfl⟩ | ⟨_, there⟩
        · cases from_id
          exact ⟨.consumedByResume, resumed task, marked, type, rfl, rfl⟩
        · rw [unused] at there
          cases there
  | returnDock r now =>
    exfalso
    obtain ⟨newId, task, unused, found, from_id⟩ := continued
    have found' : AList.lookup newId (Patrols.returnDock r now s.business).tasks = some task := found
    unfold Patrols.returnDock at found'
    split at found'
    · rcases Table.of_lookup_insert found' with ⟨_, rfl⟩ | ⟨_, before⟩
      · cases from_id
      · rw [unused] at before
        cases before
    · rw [unused] at found'
      cases found'

/-- Every patrol of a run is consumed once exactly if every action fits. -/
theorem consumed_once_iff (env : Env) (s : State) (actions : List Action) :
    ConsumedOnce env s actions ↔ Runs.Meets (step env) (Fits env) s actions := by
  have steps : Runs.Meets (step env)
      (fun s action => Extends s.business (step env s action).business ∧
        Keeps s.business (step env s action).business) s actions ↔
      Runs.Meets (step env) (Fits env) s actions := by
    refine Runs.meets_congr (I := fun _ => True) (fun _ _ _ => trivial) (fun s action _ => ?_) trivial actions
    rw [(step_keeps env s action).2, and_iff_right (step_keeps env s action).1]
  have trans : ∀ {a b c : State}, Extends a.business b.business ∧ Keeps a.business b.business →
      Extends b.business c.business ∧ Keeps b.business c.business →
      Extends a.business c.business ∧ Keeps a.business c.business :=
    fun first second => ⟨first.1.trans second.1, first.2.trans second.1 second.2⟩
  have stretches : (∀ before middle after, actions = before ++ middle ++ after →
      Extends (run env s before).business (run env s (before ++ middle)).business ∧
        Keeps (run env s before).business (run env s (before ++ middle)).business) ↔
      Runs.Meets (step env) (fun s action => Extends s.business (step env s action).business ∧
        Keeps s.business (step env s action).business) s actions :=
    Runs.kept_iff (R := fun s s' => Extends s.business s'.business ∧ Keeps s.business s'.business)
      (fun _ => ⟨.of_tasks rfl, .of_tasks rfl⟩) trans s actions
  rw [← steps]
  constructor
  · intro single
    refine Runs.meets_iff.mpr fun before action after split => ?_
    refine ⟨(step_keeps env _ action).1, ?_, ?_⟩
    · intro id state spent
      have stays := single.stays before [action] after id state (by rw [split]; simp) spent
      rwa [run_concat] at stays
    · intro id state spent
      have ended := single.ended before [action] after id state (by rw [split]; simp) spent
      rwa [run_concat] at ended
  · intro met
    have kept := stretches.mpr met
    refine ⟨fun before middle after id state split => (kept before middle after split).2.stays id state,
      fun before middle after id state split => (kept before middle after split).2.ended id state, ?_⟩
    intro before first middle second after id split consumes again
    have spent : ∃ state, Spent (step env (run env s before) first).business id state := by
      rcases consumes with continued | ⟨_, spent⟩
      · exact spent_of_continued continued
      · exact spent
    obtain ⟨state, spent⟩ := spent
    have later : Spent (run env s (before ++ first :: middle)).business id state := by
      have stretch := kept (before ++ [first]) middle (second :: after) (by rw [split]; simp)
      have from_first := stretch.2.stays id state (by rw [run_concat]; exact spent)
      rwa [List.append_assoc] at from_first
    have last := kept (before ++ first :: middle) [second] after (by rw [split]; simp)
    rcases again with continued | ⟨unspent, _⟩
    · refine last.2.ended id state later ?_
      rw [run_concat]
      exact continued
    · exact unspent ⟨state, later⟩

/-! ## A patrol is resumed twice -/

/-- A patrol that was cancelled on its route. -/
def cancelledPatrol : Task where
  robotId := "R1"
  fireEventId := none
  type := .patrol
  status := .cancelled
  phase := "CANCELLED"
  progress := .int 40
  parameters := { Parameters.empty with resumeState := some .available }
  createdAt := 0
  acceptedAt := none
  startedAt := none
  completedAt := some 1
  failureCode := none
  failureMessage := none

/-- The vehicle has established its boot, and its patrol `T1` has been cancelled. -/
def cancelledState : State :=
  let vehicle := MqttIngress.Vehicle.initial "R1" "site"
  let booted := { vehicle with
    robot := { vehicle.robot with bootId := some "11111111-1111-4111-8111-111111111111" } }
  { State.ofVehicles [("AGV1", booted)] with
    business := { Database.empty with tasks := AList.insert "T1" cancelledPatrol ∅ } }

/-- A request that resumes the patrol `T1`. -/
def resumption (taskId commandId : String) : PlanRequest where
  robotId := "R1"
  resumeTaskId := some "T1"
  atWaiting := false
  builds := true
  taskId := taskId
  commandId := commandId
  expiresAt := 30

/-- The report that the patrol `T2` has been cancelled too. -/
def cancelledText : String :=
  "\x7b\"schema_version\": \"1.3\", \"message_id\": \"00000000-0000-4000-8000-000000000009\", " ++
  "\"type\": \"task_status\", \"vehicle_id\": \"AGV1\", " ++
  "\"boot_id\": \"11111111-1111-4111-8111-111111111111\", " ++
  "\"timestamp\": \"2026-01-01T00:00:00+00:00\", \"seq\": 9, \"task_id\": \"T2\", " ++
  "\"status\": \"cancelled\", \"phase\": \"CANCELLED\", \"progress\": 50\x7d"

/-- The report, decoded. -/
def cancelledMessage : JsonTree :=
  .obj [("schema_version", .str "1.3"),
    ("message_id", .str "00000000-0000-4000-8000-000000000009"),
    ("type", .str "task_status"), ("vehicle_id", .str "AGV1"),
    ("boot_id", .str "11111111-1111-4111-8111-111111111111"),
    ("timestamp", .str "2026-01-01T00:00:00+00:00"), ("seq", .int 9), ("task_id", .str "T2"),
    ("status", .str "cancelled"), ("phase", .str "CANCELLED"), ("progress", .int 50)]

/-- Python, as far as the report goes. -/
def cancelledEnv : Env :=
  Env.knowing [(cancelledText, cancelledMessage)]
    [("2026-01-01T00:00:00+00:00", MqttIngress.lostAt)]

/-- `T1` is resumed as `T2`, which is cancelled, and resumed once more. -/
def resumedTwice : List Action :=
  [.patrolPlan (resumption "T2" "C2") 2,
    .message { moment := .plain MqttIngress.lostAt, topic := ["robot", "AGV1", "task_status"]
               payload := Env.bytes cancelledText },
    .patrolPlan (resumption "T3" "C3") 3]

set_option maxRecDepth 4000 in
/-- A patrol that has been resumed is resumed again. -/
theorem patrol_resumed_twice :
    ¬ ∀ (env : Env) (s : State) (actions : List Action), ConsumedOnce env s actions := by
  intro claim
  have single := claim cancelledEnv cancelledState resumedTwice
  have spent : ((run cancelledEnv cancelledState (resumedTwice.take 2)).business.tasks.lookup "T1").map
      (fun task => (task.type, task.parameters.resumeState)) = some (.patrol, some .consumedByResume) := by
    decide +kernel
  have unused : ((run cancelledEnv cancelledState (resumedTwice.take 2)).business.tasks.lookup
      "T3").isNone = true := by
    decide +kernel
  have continued : ((run cancelledEnv cancelledState resumedTwice).business.tasks.lookup "T3").map
      (fun task => task.parameters.resumedFromTaskId) = some (some "T1") := by
    decide +kernel
  obtain ⟨task, found, same⟩ := Option.map_eq_some_iff.mp spent
  obtain ⟨type, marked⟩ := Prod.mk.inj same
  obtain ⟨new, created, from_id⟩ := Option.map_eq_some_iff.mp continued
  refine single.ended (resumedTwice.take 2) (resumedTwice.drop 2) [] "T1" .consumedByResume rfl
    ⟨task, found, type, marked, rfl⟩ ⟨"T3", new, Option.isNone_iff_eq_none.mp unused, ?_, from_id⟩
  exact created

end Firebot.Patrols
