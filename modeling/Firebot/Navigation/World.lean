import Firebot.Tasks.Terminal

/-!
# Tasks under stop requests

`stop_current_operation` stops the vehicle and asks for the cancellation of the robot's newest active task;
`cancel_task` asks for the cancellation of any. Both write the phase of the task and leave its state, which
is the vehicle's to report. `actions` adds the stop to what can happen to tasks.

`row_of_step` says what an action other than a report of the task can do to it: overwrite the phase, consume
a patrol, or verify the pose.
-/

namespace Firebot.Navigation

open Firebot.Tasks

/-! ## Stop requests -/

/-- A stop request: its commands, whether the robot can be reached, and whether the cancellation is refused
(`create_durable_command` raises, and the endpoint goes on). -/
structure Stop where
  robotId : String
  stopCommandId : String
  cancelCommandId : String
  deliverable : Bool
  cancelRefused : Bool
  now : Time
  stopExpiresAt : Time
  cancelExpiresAt : Time

/-- The row of `commands` that `create_safety_command` inserts for the stop. -/
def Stop.command (s : Stop) (taskId : Option String) : Command where
  robotId := s.robotId
  taskId := taskId
  cmd := .stopMotion
  lifecycleStatus := if s.deliverable then .created else .publishedUnconfirmed
  issuedAt := s.now
  expiresAt := s.stopExpiresAt
  publishedAt := none
  ackAt := none
  ackStatus := none
  ackReason := if s.deliverable then none else some "OFFLINE_NOT_DELIVERED"
  terminalAt := none

section

variable (db : Database)

/-- The robot's newest active task. -/
def current (robotId : String) : Option (String × Task) :=
  db.tasks.newest (fun _ task => task.robotId = robotId && task.status.active) Task.createdAt

/-- The ids of the commands are new. -/
def Stop.fresh (s : Stop) : Prop :=
  db.commands.lookup s.stopCommandId = none ∧ db.commands.lookup s.cancelCommandId = none ∧
    s.stopCommandId ≠ s.cancelCommandId

instance (s : Stop) : Decidable (s.fresh db) := inferInstanceAs (Decidable (_ ∧ _ ∧ _))

/-- `stop_current_operation`, as far as tasks and commands go. -/
def stopCurrentOperation (s : Stop) : Database :=
  let active := current db s.robotId
  let stopped := { db with
    commands := db.commands.insert s.stopCommandId (s.command (active.map Prod.fst)) }
  match active with
  | none => stopped
  | some (taskId, _) =>
    if s.cancelRefused then stopped
    else
      { stopped.enqueue s.cancelCommandId
          (.queued s.robotId (some taskId) .cancelTask s.now s.cancelExpiresAt) s.now with
        tasks := Table.modify taskId (fun task => { task with phase := "STOP_REQUESTED" }) db.tasks }

end

/-! ## Actions -/

/-- What can happen to tasks and their commands. -/
inductive Action where
  | event (e : Event)
  | stop (s : Stop)

/-- One action. -/
def step (db : Database) : Action → Database
  | .event e => db.step e
  | .stop s => if s.fresh db then stopCurrentOperation db s else db

/-- The database after some actions. -/
abbrev run (db : Database) (actions : List Action) : Database := Runs.run step db actions

/-- The action is a report about a task of this robot. -/
def Action.reports (robotId id : String) : Action → Bool
  | .event (.taskStatus reporter msg _) => reporter = robotId && msg.taskId = id
  | _ => false

/-- The action overwrites the phase of an active task: it is a cancel request for the task, or a stop
request that finds no newer one and may cancel it. -/
def Overwrites (db : Database) (id : String) : Action → Prop
  | .event (.cancel taskId commandId _ _) =>
    taskId = id ∧ db.commands.lookup commandId = none ∧
      ∃ task, db.tasks.lookup id = some task ∧ task.status.active = true
  | .stop s => s.fresh db ∧ s.cancelRefused = false ∧ (current db s.robotId).map Prod.fst = some id
  | _ => False

/-- No look of the tick at a task under verification raises. -/
def Passes (db : Database) (check : String → Task → Option PoseCheck) : Prop :=
  ∀ r ∈ db.tasks.select fun _ task => task.verifying, (check r.1 r.2).isSome

/-- The row of a task after an action that does not report about it. -/
inductive Row (db : Database) (id : String) (task : Task) (a : Action) : Task → Prop
  | overwritten (phase : String) (overwrites : Overwrites db id a) (active : task.status.active = true)
      (other : phase ≠ "VERIFYING_FINAL_POSE") : Row db id task a { task with phase := phase }
  | same (kept : ¬ Overwrites db id a) : Row db id task a task
  | consumed (kept : ¬ Overwrites db id a) : Row db id task a task.consumed
  | checked (kept : ¬ Overwrites db id a) {check : String → Task → Option PoseCheck} {timeout : Nat}
      {now : Time} {seen : PoseCheck} (tick : a = .event (.tick check timeout now))
      (passes : Passes db check) (looked : check id task = some seen)
      (verifying : task.verifying = true) : Row db id task a (task.checked seen now)

variable {db : Database} {id : String} {task : Task}

theorem verifying_iff : task.verifying = true ↔
    task.type = .navigateToPreset ∧ task.status = .executing ∧ task.phase = "VERIFYING_FINAL_POSE" := by
  simp [Task.verifying, and_assoc]

/-! ## The tick -/

theorem verifyTasks_row {check : String → Task → Option PoseCheck} {now : Time}
    {rows : List (String × Task)} {after : Database} (nodup : (rows.map Prod.fst).Nodup)
    (mem : (id, task) ∈ rows) (found : db.tasks.lookup id = some task)
    (done : rows.foldlM (fun db r => (check r.1 r.2).map (db.verifyTask now r.1 r.2)) db = some after) :
    ∃ seen, check id task = some seen ∧ after.tasks.lookup id = some (task.checked seen now) := by
  induction rows generalizing db with
  | nil => cases mem
  | cons r rows ih =>
    obtain ⟨next, first, rest⟩ := Option.bind_eq_some_iff.mp done
    obtain ⟨seen, looked, rfl⟩ := Option.map_eq_some_iff.mp first
    obtain ⟨new, others⟩ := List.nodup_cons.mp nodup
    rcases List.mem_cons.mp mem with rfl | later
    · have apart : ∀ r ∈ rows, id ≠ r.1 := by
        rintro r inside rfl
        exact new (List.mem_map.mpr ⟨r, inside, rfl⟩)
      refine ⟨seen, looked, (verifyTasks_untouched apart rest).task.trans ?_⟩
      show AList.lookup id (Table.modify _ _ _) = _
      rw [Table.lookup_modify_self, found, Option.map_some]
    · have ne : id ≠ r.1 := by
        intro same
        exact new (List.mem_map.mpr ⟨(id, task), later, same⟩)
      exact ih others later ((verifyTask_untouched ne now db r.2 seen).task.trans found) rest

/-- A tick goes through exactly if no look at a task under verification raises. -/
theorem verifyTasks_isSome (db : Database) (check : String → Task → Option PoseCheck) (now : Time)
    (rows : List (String × Task)) :
    (rows.foldlM (fun db r => (check r.1 r.2).map (Database.verifyTask now db r.1 r.2)) db).isSome ↔
      ∀ r ∈ rows, (check r.1 r.2).isSome := by
  induction rows generalizing db with
  | nil => simp
  | cons r rows ih =>
    rw [List.foldlM_cons, List.forall_mem_cons]
    cases looked : check r.1 r.2 with
    | none => simp
    | some seen => simpa using ih _

/-- The row of a task after a tick: it is looked at if it is under verification and the tick goes
through. -/
theorem tick_row (check : String → Task → Option PoseCheck) (timeout : Nat) (now : Time)
    (found : db.tasks.lookup id = some task) :
    (Passes db check ∧ task.verifying = true ∧ ∃ seen, check id task = some seen ∧
      (db.tick check timeout now).tasks.lookup id = some (task.checked seen now)) ∨
    (¬ (Passes db check ∧ task.verifying = true) ∧
      (db.tick check timeout now).tasks.lookup id = some task) := by
  have passes := verifyTasks_isSome (db.expireCommands timeout now) check now
    (db.tasks.select fun _ task => task.verifying)
  unfold Database.tick
  cases done : (db.expireCommands timeout now).reconcileNavigationVerification check now with
  | none =>
    refine .inr ⟨?_, found⟩
    rintro ⟨passing, _⟩
    have there := passes.mpr passing
    have none : List.foldlM _ (db.expireCommands timeout now)
      (db.tasks.select fun _ task => task.verifying) = none := done
    rw [none] at there
    cases there
  | some after =>
    have expired : (db.expireCommands timeout now).tasks.lookup id = some task := found
    by_cases verifying : task.verifying = true
    · have passing : Passes db check := passes.mp (Option.isSome_iff_exists.mpr ⟨after, done⟩)
      have mem : (id, task) ∈ db.tasks.select fun _ task => task.verifying :=
        Table.mem_select.mpr ⟨found, verifying⟩
      exact .inl ⟨passing, verifying, verifyTasks_row (Table.nodup_select _ _) mem expired done⟩
    · refine .inr ⟨fun both => verifying both.2, ?_⟩
      have apart : ∀ r ∈ db.tasks.select fun _ task => task.verifying, id ≠ r.1 := by
        rintro ⟨_, row⟩ inside rfl
        obtain ⟨there, verified⟩ := Table.mem_select.mp inside
        cases Option.some.inj (there.symm.trans found)
        exact verifying verified
      exact (verifyTasks_untouched apart done).task.trans expired

/-! ## One action -/

theorem stopCurrentOperation_row (s : Stop) (fresh : s.fresh db)
    (found : db.tasks.lookup id = some task) :
    ∃ task', (stopCurrentOperation db s).tasks.lookup id = some task' ∧
      Row db id task (.stop s) task' := by
  unfold stopCurrentOperation
  dsimp only
  cases active : current db s.robotId with
  | none =>
    refine ⟨task, found, .same ?_⟩
    rintro ⟨_, _, named⟩
    rw [active] at named
    cases named
  | some r =>
    obtain ⟨taskId, row⟩ := r
    by_cases refused : s.cancelRefused = true
    · dsimp only
      rw [if_pos refused]
      refine ⟨task, found, .same ?_⟩
      rintro ⟨_, cancelled, _⟩
      rw [cancelled] at refused
      cases refused
    · dsimp only
      rw [if_neg refused]
      by_cases same : id = taskId
      · subst same
        obtain ⟨there, meets⟩ := Table.newest_spec active
        cases Option.some.inj (there.symm.trans found)
        refine ⟨{ task with phase := "STOP_REQUESTED" }, ?_, ?_⟩
        · show AList.lookup id (Table.modify _ _ _) = _
          rw [Table.lookup_modify_self, found, Option.map_some]
        · refine .overwritten _ ⟨fresh, Bool.eq_false_of_not_eq_true refused, ?_⟩
            (Bool.and_eq_true_iff.mp meets).2 (by decide)
          rw [active, Option.map_some]
      · refine ⟨task, (Table.lookup_modify_of_ne same _ _).trans found, .same ?_⟩
        rintro ⟨_, _, named⟩
        rw [active, Option.map_some] at named
        exact same (Option.some.inj named).symm

/-- What an action does to a task that it does not report about. -/
theorem row_of_step (a : Action) (found : db.tasks.lookup id = some task)
    (unreported : a.reports task.robotId id = false) :
    ∃ task', (step db a).tasks.lookup id = some task' ∧ Row db id task a task' := by
  cases a with
  | stop s =>
    unfold step
    dsimp only
    split
    next fresh => exact stopCurrentOperation_row s fresh found
    next old => exact ⟨task, found, .same fun overwrites => old overwrites.1⟩
  | event e =>
    simp only [step]
    cases e with
    | create c now =>
      refine ⟨task, ?_, .same fun overwrites => overwrites⟩
      simp only [Database.step]
      split
      next admitted => exact Table.lookup_insert_of_found _ admitted.1.1 found
      next => exact found
    | strand c now =>
      refine ⟨task, ?_, .same fun overwrites => overwrites⟩
      simp only [Database.step]
      split
      next unused => exact Table.lookup_insert_of_found _ unused found
      next => exact found
    | cancel taskId commandId now expiresAt =>
      simp only [Database.step]
      by_cases same : taskId = id
      · subst same
        rw [found]
        dsimp only
        split
        next granted =>
          refine ⟨{ task with phase := "CANCEL_QUEUED" }, ?_, ?_⟩
          · show AList.lookup taskId (Table.modify _ _ _) = _
            rw [Table.lookup_modify_self, found, Option.map_some]
          · exact .overwritten _ ⟨rfl, granted.2, task, found, granted.1⟩ granted.1 (by decide)
        next refused =>
          refine ⟨task, found, .same ?_⟩
          rintro ⟨_, unused, task', there, active⟩
          cases Option.some.inj (there.symm.trans found)
          exact refused ⟨active, unused⟩
      · refine ⟨task, ?_, .same fun overwrites => same overwrites.1⟩
        split
        · exact found
        · split
          · exact (Table.lookup_modify_of_ne (Ne.symm same) _ _).trans found
          · exact found
    | dispatch commandId invalid broker now =>
      refine ⟨task, ?_, .same fun overwrites => overwrites⟩
      simp only [Database.step]
      split
      · split <;> exact found
      · exact found
    | ack robotId commandId msg received =>
      refine ⟨task, ?_, .same fun overwrites => overwrites⟩
      simp only [Database.step, Database.handleAck_tasks]
      exact found
    | taskStatus reporter msg received =>
      obtain ⟨row, consumed, after⟩ := Database.handleTaskStatus_row reporter msg received found
      have other : ¬ msg.concerns reporter id task := by
        rintro ⟨rfl, own⟩
        simp [Action.reports, own] at unreported
      rw [if_neg other] at after
      have kept : ¬ Overwrites db id (.event (.taskStatus reporter msg received)) :=
        fun overwrites => overwrites
      refine ⟨row, after, ?_⟩
      rcases consumed with rfl | rfl
      · exact .same kept
      · exact .consumed kept
    | tick check timeout now =>
      have kept : ¬ Overwrites db id (.event (.tick check timeout now)) :=
        fun overwrites => overwrites
      rcases tick_row check timeout now found with ⟨passes, verifying, seen, looked, after⟩ | ⟨_, after⟩
      · exact ⟨_, after, .checked kept rfl passes looked verifying⟩
      · exact ⟨task, after, .same kept⟩

/-! ## A navigation for runs on fixed inputs -/

/-- A navigation of the robot `R1` to be verified by three frames. -/
def newNavigation : Creation where
  taskId := "N1"
  commandId := "C1"
  robotId := "R1"
  fireEventId := none
  type := .navigateToPreset
  phase := "CREATED"
  expiresAt := 30 * second
  parameters := { Parameters.empty with
                  requiredVerificationFrames := some 3
                  verificationTimeoutSeconds := some 30 }

/-- Its completion. -/
def navigationCompleted : TaskStatus := .plain "N1" .completed "DONE" (.int 100)

end Firebot.Navigation
