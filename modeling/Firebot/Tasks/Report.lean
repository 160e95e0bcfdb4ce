import Mathlib.Algebra.Order.Ring.Unbundled.Rat
import Firebot.Tasks.Model

/-!
# What the ingress does with a report and with an ACK

`handleTaskStatus` writes what the vehicle reports into the task, whatever the task's state is, and
passes the new state on to the command that started the task and to the fire event. The reported
completion of a navigation to a preset is not believed: the task goes on executing until the worker has
seen the vehicle at its pose.

`handleAck` writes into the command and looks at no task.
-/

namespace Firebot.Tasks

open Firebot.Server (AckMessage pyOr)

/-! ## The task -/

/-- `min(float(progress), 99.0)` of a number between 0 and 100; NaN is not greater than 99. -/
def capped : JsonTree → JsonTree
  | .int n => .real (min n 99)
  | .real q => .real (min q 99)
  | other => other

namespace Task

/-- `verify_navigation`. -/
def verifies (task : Task) (msg : TaskStatus) : Bool :=
  task.type = .navigateToPreset && msg.status = .completed

/-- State, phase and progress as the message reports them, or the start of the pose verification. -/
def settled (task : Task) (msg : TaskStatus) (received : Time) : Task :=
  if task.verifies msg then
    { task with
      status := .executing
      phase := "VERIFYING_FINAL_POSE"
      progress := capped msg.progress
      parameters := { task.parameters with
                      vehicleCompletedReportedAt := some received
                      poseVerificationFrames := some 0 } }
  else { task with status := msg.status.internal, phase := msg.phase, progress := msg.progress }

/-- The times a report sets; `verify` is whether it starts the pose verification. -/
def stamped (task : Task) (msg : TaskStatus) (verify : Bool) (received : Time) : Task :=
  { task with
    acceptedAt := if msg.status = .accepted then some received else task.acceptedAt
    startedAt :=
      if msg.status = .executing ∧ task.startedAt = none then some received else task.startedAt
    completedAt :=
      if msg.status.internal.terminal && !verify then some received else task.completedAt
    failureCode := msg.failureCode
    failureMessage := msg.failureMessage }

/-- The checkpoint and the route cursor a report carries. -/
def located (task : Task) (msg : TaskStatus) : Task :=
  { task with
    parameters := { task.parameters with
      liveCheckpoint :=
        if msg.checkpointIndex.isNull then task.parameters.liveCheckpoint
        else some { index := msg.checkpointIndex, total := msg.checkpointTotal
                    currentSlotCode := msg.currentSlotCode, nextSlotCode := msg.nextSlotCode }
      liveRouteCursor :=
        if msg.waypointIndex.isNull && msg.targetWaypointIndex.isNull then
          task.parameters.liveRouteCursor
        else some { waypointIndex := msg.waypointIndex, waypointTotal := msg.waypointTotal
                    targetWaypointIndex := msg.targetWaypointIndex
                    lastCompletedWaypointIndex := msg.lastCompletedWaypointIndex } } }

/-- A cancelled patrol with a route cursor and a cancelled return can be resumed. -/
def resumable (task : Task) (msg : TaskStatus) : Task :=
  if msg.status = .cancelled ∧ ((task.type = .patrol ∧ task.parameters.liveRouteCursor.isSome) ∨
      task.type = .returnDock) then
    { task with parameters := { task.parameters with resumeState := some .available } }
  else task

/-- The task after a report. -/
def reported (task : Task) (msg : TaskStatus) (received : Time) : Task :=
  ((((task.settled msg received).stamped msg (task.verifies msg) received).located msg).resumable
    msg)

@[simp] theorem resumable_status (task : Task) (msg : TaskStatus) :
    (task.resumable msg).status = task.status := by
  unfold resumable
  split <;> rfl

@[simp] theorem resumable_completedAt (task : Task) (msg : TaskStatus) :
    (task.resumable msg).completedAt = task.completedAt := by
  unfold resumable
  split <;> rfl

@[simp] theorem resumable_fireEventId (task : Task) (msg : TaskStatus) :
    (task.resumable msg).fireEventId = task.fireEventId := by
  unfold resumable
  split <;> rfl

/-- A report leaves the fire event that the task names. -/
@[simp] theorem reported_fireEventId (task : Task) (msg : TaskStatus) (received : Time) :
    (task.reported msg received).fireEventId = task.fireEventId := by
  unfold reported
  rw [resumable_fireEventId]
  show (task.settled msg received).fireEventId = _
  unfold settled
  split <;> rfl

/-- The route cursor after a report is the one of `located`. -/
theorem reported_liveRouteCursor (task : Task) (msg : TaskStatus) (received : Time) :
    (task.reported msg received).parameters.liveRouteCursor =
      (task.located msg).parameters.liveRouteCursor := by
  have settled : (task.settled msg received).parameters.liveRouteCursor =
      task.parameters.liveRouteCursor := by
    unfold Task.settled
    split <;> rfl
  have located : (((task.settled msg received).stamped msg (task.verifies msg) received).located
      msg).parameters.liveRouteCursor = (task.located msg).parameters.liveRouteCursor := by
    show (if _ then (task.settled msg received).parameters.liveRouteCursor else _) = if _ then _ else _
    rw [settled]
  rw [← located]
  unfold reported resumable
  split <;> rfl

/-- The report makes the task one that can be resumed. -/
def resumes (task : Task) (msg : TaskStatus) : Prop :=
  msg.status = .cancelled ∧
    (task.type = .patrol ∧ (task.located msg).parameters.liveRouteCursor.isSome ∨
      task.type = .returnDock)

instance (task : Task) (msg : TaskStatus) : Decidable (task.resumes msg) :=
  inferInstanceAs (Decidable (_ ∧ _))

/-- What a report leaves of the type of a task, of its resume state and of the task that it continues. -/
theorem reported_resume (task : Task) (msg : TaskStatus) (received : Time) :
    (task.reported msg received).type = task.type ∧
      (task.reported msg received).parameters.resumedFromTaskId = task.parameters.resumedFromTaskId ∧
      (task.reported msg received).parameters.resumeState =
        if task.resumes msg then some .available else task.parameters.resumeState := by
  have settled : ∀ after, after = task.settled msg received →
      after.type = task.type ∧
        after.parameters.resumedFromTaskId = task.parameters.resumedFromTaskId ∧
        after.parameters.resumeState = task.parameters.resumeState ∧
        after.parameters.liveRouteCursor = task.parameters.liveRouteCursor := by
    rintro after rfl
    unfold Task.settled
    split <;> exact ⟨rfl, rfl, rfl, rfl⟩
  obtain ⟨type, continues, state, cursor⟩ := settled _ rfl
  have located : ((((task.settled msg received).stamped msg (task.verifies msg) received).located
      msg).parameters.liveRouteCursor) = (task.located msg).parameters.liveRouteCursor := by
    show (if _ then (task.settled msg received).parameters.liveRouteCursor else _) = if _ then _ else _
    rw [cursor]
  have resumes : (msg.status = .cancelled ∧
      ((((task.settled msg received).stamped msg (task.verifies msg) received).located msg).type = .patrol ∧
        (((task.settled msg received).stamped msg (task.verifies msg) received).located
          msg).parameters.liveRouteCursor.isSome ∨
        (((task.settled msg received).stamped msg (task.verifies msg) received).located msg).type =
          .returnDock)) ↔ task.resumes msg := by
    rw [located, show (((task.settled msg received).stamped msg (task.verifies msg) received).located
      msg).type = task.type from type]
    exact Iff.rfl
  unfold reported resumable
  by_cases resumed : task.resumes msg
  · rw [if_pos (resumes.mpr resumed), if_pos resumed]
    exact ⟨type, continues, rfl⟩
  · rw [if_neg (mt resumes.mp resumed), if_neg resumed]
    exact ⟨type, continues, state⟩

/-- The state a report leaves. -/
theorem reported_status (task : Task) (msg : TaskStatus) (received : Time) :
    (task.reported msg received).status =
      if task.verifies msg then .executing else msg.status.internal := by
  unfold reported
  rw [resumable_status]
  show (task.settled msg received).status = _
  unfold settled
  split <;> rfl

/-- A report sets the time of completion exactly where it ends the task. -/
theorem reported_completedAt (task : Task) (msg : TaskStatus) (received : Time) :
    (task.reported msg received).completedAt =
      if (task.reported msg received).status.terminal then some received else task.completedAt := by
  rw [reported_status]
  unfold reported
  rw [resumable_completedAt]
  show (if msg.status.internal.terminal && !task.verifies msg then some received
    else (task.settled msg received).completedAt) = _
  have before : (task.settled msg received).completedAt = task.completedAt := by
    unfold settled
    split <;> rfl
  rw [before]
  cases verify : task.verifies msg with
  | true => simp [TaskState.terminal]
  | false => simp

end Task

/-! ## The command, the fire event and an earlier patrol -/

/-- The command of a reported task. -/
def Command.advanced (command : Command) (status : TaskState) (received : Time) : Command :=
  { command with
    lifecycleStatus := status.lifecycle
    terminalAt := if status.terminal then some received else command.terminalAt }

/-- The fire event of a reported task. -/
def Fire.moved (fire : Fire) (status : TaskState) (received : Time) : Fire :=
  match status with
  | .accepted => { fire with state := .dispatched }
  | .executing => { fire with state := .inProgress }
  | .succeeded => { fire with state := .resolved, resolvedAt := some received }
  | .failed | .cancelled => { fire with state := .confirmed }
  | .created | .queued => fire

/-- The patrol that was cancelled last, once a return has been completed. -/
def Task.consumed (task : Task) : Task :=
  if task.parameters.resumeState = some .available then
    { task with parameters := { task.parameters with resumeState := some .consumedByReturn } }
  else task

@[simp] theorem Task.consumed_status (task : Task) : task.consumed.status = task.status := by
  unfold Task.consumed
  split <;> rfl

@[simp] theorem Task.consumed_type (task : Task) : task.consumed.type = task.type := by
  unfold Task.consumed
  split <;> rfl

@[simp] theorem Task.consumed_fireEventId (task : Task) :
    task.consumed.fireEventId = task.fireEventId := by
  unfold Task.consumed
  split <;> rfl

@[simp] theorem Task.consumed_completedAt (task : Task) :
    task.consumed.completedAt = task.completedAt := by
  unfold Task.consumed
  split <;> rfl

namespace Database

/-- The command of the task that a report advances. -/
def initiating (db : Database) (taskId : String) : Option (String × Command) :=
  db.commands.newest (fun _ command => command.starts taskId) Command.issuedAt

/-- The robot's patrol that was cancelled last. -/
def lastCancelled (db : Database) (robotId : String) : Option (String × Task) :=
  db.tasks.newest (fun _ task => task.robotId = robotId && task.type = .patrol &&
    task.status = .cancelled) Task.createdAt

/-- A completed return consumes the patrol that was cancelled last. -/
def consumeResume (db : Database) (task : Task) (msg : TaskStatus) : Table String Task :=
  if msg.status = .completed ∧ task.type = .returnDock then
    match db.lastCancelled task.robotId with
    | some (previous, _) => Table.modify previous Task.consumed db.tasks
    | none => db.tasks
  else db.tasks

/-- `handle_task_status`. -/
def handleTaskStatus (robotId : String) (msg : TaskStatus) (received : Time) (db : Database) :
    Database :=
  match db.tasks.lookup msg.taskId with
  | none => db
  | some task =>
    if task.robotId ≠ robotId then db
    else
      let after := task.reported msg received
      { db with
        tasks := Table.modify msg.taskId (·.reported msg received) (db.consumeResume task msg)
        taskEvents := db.taskEvents ++ [{ taskId := msg.taskId, status := after.status
                                          phase := after.phase, progress := after.progress
                                          payload := .report msg }]
        commands :=
          match db.initiating msg.taskId with
          | some (id, _) => Table.modify id (·.advanced after.status received) db.commands
          | none => db.commands
        fires :=
          match task.fireEventId.filter (· ≠ "") with
          | some id => Table.modify id (·.moved after.status received) db.fires
          | none => db.fires }

end Database

/-! ## The ACK -/

/-- `handle_ack` on a command without an ACK. -/
def Command.acked (command : Command) (msg : AckMessage) (received : Time) : Command :=
  let command := { command with ackAt := some received, ackStatus := some msg.status,
                                ackReason := pyOr msg.reasonCode msg.reason }
  if msg.status = "accepted" then { command with lifecycleStatus := .ackAccepted }
  else if msg.status = "unsupported" then
    { command with lifecycleStatus := .ackUnsupported, terminalAt := some received }
  else { command with lifecycleStatus := .ackRejected, terminalAt := some received }

/-- `handle_ack`. -/
def Database.handleAck (robotId commandId : String) (msg : AckMessage) (received : Time)
    (db : Database) : Database :=
  match db.commands.lookup commandId with
  | none => db
  | some command =>
    if command.robotId ≠ robotId ∨ command.ackAt.isSome then db
    else { db with commands := Table.modify commandId (·.acked msg received) db.commands }

/-! ## What a report leaves -/

/-- An ACK refuses the command unless it accepts it. -/
theorem Command.acked_refused (command : Command) (msg : AckMessage) (received : Time) :
    (command.acked msg received).lifecycleStatus.refused = decide (msg.status ≠ "accepted") := by
  unfold Command.acked
  dsimp only
  split
  · next accepted => simp [accepted, CommandState.refused]
  · next rejected => split <;> simp [rejected, CommandState.refused]

/-- The command that a report advances starts the task. -/
theorem Database.initiating_spec {db : Database} {taskId id : String} {command : Command}
    (found : db.initiating taskId = some (id, command)) :
    db.commands.lookup id = some command ∧ command.starts taskId = true :=
  Table.newest_spec found

/-- A completed return changes the resume state of a patrol, if anything. -/
theorem Database.consumeResume_lookup {db : Database} {id : String} {row : Task} (task : Task)
    (msg : TaskStatus) (found : db.tasks.lookup id = some row) :
    ∃ row', (db.consumeResume task msg).lookup id = some row' ∧ (row' = row ∨ row' = row.consumed) := by
  unfold consumeResume
  split
  · split
    · next previous _ _ =>
      by_cases same : id = previous
      · subst same
        refine ⟨row.consumed, ?_, .inr rfl⟩
        rw [Table.lookup_modify_self, found, Option.map_some]
      · refine ⟨row, ?_, .inl rfl⟩
        rw [Table.lookup_modify_of_ne same, found]
    · exact ⟨row, found, .inl rfl⟩
  · exact ⟨row, found, .inl rfl⟩

/-- The report is about this task. -/
def TaskStatus.concerns (msg : TaskStatus) (robotId id : String) (task : Task) : Prop :=
  id = msg.taskId ∧ task.robotId = robotId

instance (msg : TaskStatus) (robotId id : String) (task : Task) :
    Decidable (msg.concerns robotId id task) := inferInstanceAs (Decidable (_ ∧ _))

/-- The row of a task after a report: the one that the report is about takes it, and a completed return may
have consumed it. -/
theorem Database.handleTaskStatus_row {db : Database} {id : String} {task : Task}
    (robotId : String) (msg : TaskStatus) (received : Time)
    (found : db.tasks.lookup id = some task) :
    ∃ row, (row = task ∨ row = task.consumed) ∧
      (db.handleTaskStatus robotId msg received).tasks.lookup id =
        some (if msg.concerns robotId id task then row.reported msg received else row) := by
  by_cases about : ∃ reportedRow, db.tasks.lookup msg.taskId = some reportedRow ∧
      reportedRow.robotId = robotId
  · obtain ⟨reportedRow, there, own⟩ := about
    obtain ⟨row, kept, consumed⟩ := consumeResume_lookup reportedRow msg found
    refine ⟨row, consumed, ?_⟩
    unfold handleTaskStatus
    rw [there]
    dsimp only
    rw [if_neg (fun foreign => foreign own)]
    show AList.lookup _ (Table.modify _ _ _) = _
    by_cases named : id = msg.taskId
    · subst named
      cases Option.some.inj (there.symm.trans found)
      rw [Table.lookup_modify_self, kept, Option.map_some, if_pos ⟨rfl, own⟩]
    · rw [Table.lookup_modify_of_ne named, kept, if_neg (fun concerned => named concerned.1)]
  · have other : ¬ msg.concerns robotId id task := by
      rintro ⟨rfl, own⟩
      exact about ⟨task, found, own⟩
    refine ⟨task, .inl rfl, ?_⟩
    rw [if_neg other]
    unfold handleTaskStatus
    split
    · exact found
    next reportedRow there => rw [if_pos (fun own => about ⟨reportedRow, there, own⟩), found]

/-- What a report does to a task: the one it is about takes the reported state, any other keeps its
own. -/
theorem Database.handleTaskStatus_task {db : Database} {id : String} {task : Task}
    (robotId : String) (msg : TaskStatus) (received : Time)
    (found : db.tasks.lookup id = some task) :
    ∃ task', (db.handleTaskStatus robotId msg received).tasks.lookup id = some task' ∧
      task'.status = (if msg.concerns robotId id task then (task.reported msg received).status
        else task.status) ∧
      task'.completedAt = (if msg.concerns robotId id task then
        (task.reported msg received).completedAt else task.completedAt) := by
  obtain ⟨row, consumed, after⟩ := handleTaskStatus_row robotId msg received found
  refine ⟨_, after, ?_⟩
  by_cases concerned : msg.concerns robotId id task
  · rw [if_pos concerned, if_pos concerned, if_pos concerned]
    rcases consumed with rfl | rfl
    · exact ⟨rfl, rfl⟩
    · simp [Task.reported_completedAt, Task.reported_status, Task.verifies]
  · rw [if_neg concerned, if_neg concerned, if_neg concerned]
    rcases consumed with rfl | rfl
    · exact ⟨rfl, rfl⟩
    · simp

/-- What a report leaves of a patrol that has been consumed, and of the origin of any task. -/
theorem Database.handleTaskStatus_resume {db : Database} {id : String} {task : Task}
    (robotId : String) (msg : TaskStatus) (received : Time)
    (found : db.tasks.lookup id = some task) :
    ∃ task', (db.handleTaskStatus robotId msg received).tasks.lookup id = some task' ∧
      task'.type = task.type ∧
      task'.parameters.resumedFromTaskId = task.parameters.resumedFromTaskId ∧
      (task.parameters.resumeState.any ResumeState.consumed = true →
        task'.parameters.resumeState =
          if msg.concerns robotId id task ∧ task.resumes msg then some .available
          else task.parameters.resumeState) := by
  obtain ⟨row, consumed, after⟩ := handleTaskStatus_row robotId msg received found
  have origin : row.type = task.type ∧
      row.parameters.resumedFromTaskId = task.parameters.resumedFromTaskId := by
    rcases consumed with rfl | rfl
    · exact ⟨rfl, rfl⟩
    · unfold Task.consumed
      split <;> exact ⟨rfl, rfl⟩
  have same : task.parameters.resumeState.any ResumeState.consumed = true → row = task := by
    intro spent
    rcases consumed with rfl | rfl
    · rfl
    · refine if_neg ?_
      intro available
      rw [available] at spent
      cases spent
  refine ⟨_, after, ?_⟩
  by_cases concerned : msg.concerns robotId id task
  · obtain ⟨type, continues, state⟩ := row.reported_resume msg received
    rw [if_pos concerned]
    refine ⟨type.trans origin.1, continues.trans origin.2, ?_⟩
    intro spent
    rw [state, same spent]
    simp only [concerned, true_and]
  · rw [if_neg concerned]
    refine ⟨origin.1, origin.2, ?_⟩
    intro spent
    rw [same spent, if_neg (fun both => concerned both.1)]

/-- What a report does to a fire event: the one that the reported task names moves with the task. -/
theorem Database.handleTaskStatus_fire {db : Database} {robotId : String} {task : Task}
    {msg : TaskStatus} (received : Time) (found : db.tasks.lookup msg.taskId = some task)
    (own : task.robotId = robotId) (id : String) :
    (db.handleTaskStatus robotId msg received).fires.lookup id =
      if task.fireEventId.filter (· ≠ "") = some id then
        (db.fires.lookup id).map (·.moved (task.reported msg received).status received)
      else db.fires.lookup id := by
  unfold handleTaskStatus
  rw [found]
  dsimp only
  rw [if_neg (fun foreign => foreign own)]
  show AList.lookup id (match task.fireEventId.filter (· ≠ "") with
    | some id => Table.modify id (·.moved (task.reported msg received).status received) db.fires
    | none => db.fires) = _
  cases named : task.fireEventId.filter (· ≠ "") with
  | none => simp
  | some fireId =>
    dsimp only
    by_cases same : fireId = id
    · subst same
      rw [if_pos rfl, Table.lookup_modify_self]
    · rw [if_neg (fun eq => same (Option.some.inj eq)), Table.lookup_modify_of_ne (Ne.symm same)]

/-- A report about no task of the robot is dropped. -/
theorem Database.handleTaskStatus_foreign {db : Database} {robotId : String} {msg : TaskStatus}
    (received : Time)
    (foreign : ∀ task, db.tasks.lookup msg.taskId = some task → task.robotId ≠ robotId) :
    db.handleTaskStatus robotId msg received = db := by
  unfold handleTaskStatus
  cases found : db.tasks.lookup msg.taskId with
  | none => rfl
  | some task => exact if_pos (foreign task found)

/-- An ACK leaves the tasks. -/
@[simp] theorem Database.handleAck_tasks (robotId commandId : String) (msg : AckMessage)
    (received : Time) (db : Database) :
    (db.handleAck robotId commandId msg received).tasks = db.tasks := by
  unfold handleAck
  split
  · rfl
  · split <;> rfl

/-- An ACK leaves the fire events. -/
@[simp] theorem Database.handleAck_fires (robotId commandId : String) (msg : AckMessage)
    (received : Time) (db : Database) :
    (db.handleAck robotId commandId msg received).fires = db.fires := by
  unfold handleAck
  split
  · rfl
  · split <;> rfl

/-- The command that started the reported task takes the task's new state. -/
theorem Database.handleTaskStatus_initiating {db : Database} {id robotId : String} {task : Task}
    {command : Command} {msg : TaskStatus} (received : Time)
    (found : db.tasks.lookup msg.taskId = some task) (own : task.robotId = robotId)
    (starting : db.initiating msg.taskId = some (id, command)) :
    (db.handleTaskStatus robotId msg received).commands.lookup id =
      some (command.advanced (task.reported msg received).status received) := by
  unfold handleTaskStatus
  rw [found]
  dsimp only
  rw [if_neg (fun foreign => foreign own), starting]
  show AList.lookup _ (Table.modify _ _ _) = _
  rw [Table.lookup_modify_self, (initiating_spec starting).1, Option.map_some]

/-- What a report does to a command: the one that started the task takes the task's new state, any
other is left as it is. -/
theorem Database.handleTaskStatus_command {db : Database} {commandId : String} {command : Command}
    (robotId : String) (msg : TaskStatus) (received : Time)
    (found : db.commands.lookup commandId = some command) :
    (db.handleTaskStatus robotId msg received).commands.lookup commandId = some command ∨
      ∃ task, db.tasks.lookup msg.taskId = some task ∧ task.robotId = robotId ∧
        db.initiating msg.taskId = some (commandId, command) ∧
        (db.handleTaskStatus robotId msg received).commands.lookup commandId =
          some (command.advanced (task.reported msg received).status received) := by
  cases reportedTask : db.tasks.lookup msg.taskId with
  | none =>
    left
    simpa only [handleTaskStatus, reportedTask] using found
  | some task =>
    by_cases own : task.robotId = robotId
    · cases starting : db.initiating msg.taskId with
      | none =>
        left
        simpa only [handleTaskStatus, reportedTask, starting, own, ne_eq, not_true_eq_false,
          if_false] using found
      | some r =>
        obtain ⟨id, row⟩ := r
        by_cases same : commandId = id
        · subst same
          cases Option.some.inj ((initiating_spec starting).1.symm.trans found)
          exact .inr ⟨task, rfl, own, rfl,
            handleTaskStatus_initiating received reportedTask own starting⟩
        · left
          unfold handleTaskStatus
          rw [reportedTask]
          dsimp only
          rw [if_neg (fun foreign => foreign own), starting]
          show AList.lookup _ (Table.modify _ _ _) = _
          rw [Table.lookup_modify_of_ne same, found]
    · left
      unfold handleTaskStatus
      rw [reportedTask]
      dsimp only
      rw [if_pos own]
      exact found

@[simp] theorem Database.consumeResume_isSome (db : Database) (task : Task) (msg : TaskStatus)
    (id : String) :
    ((db.consumeResume task msg).lookup id).isSome = (db.tasks.lookup id).isSome := by
  unfold consumeResume
  split
  · split <;> simp
  · rfl

/-- A report neither creates nor removes a task. -/
@[simp] theorem Database.handleTaskStatus_isSome (db : Database) (robotId : String)
    (msg : TaskStatus) (received : Time) (id : String) :
    ((db.handleTaskStatus robotId msg received).tasks.lookup id).isSome =
      (db.tasks.lookup id).isSome := by
  unfold handleTaskStatus
  split
  · rfl
  · split
    · rfl
    · simp

/-- A report changes one command at most. -/
theorem Database.handleTaskStatus_commands (db : Database) (robotId : String) (msg : TaskStatus)
    (received : Time) :
    (db.handleTaskStatus robotId msg received).commands = db.commands ∨
      ∃ id status, (db.handleTaskStatus robotId msg received).commands =
        Table.modify id (·.advanced status received) db.commands := by
  unfold handleTaskStatus
  split
  · exact .inl rfl
  · split
    · exact .inl rfl
    · dsimp only
      split
      · exact .inr ⟨_, _, rfl⟩
      · exact .inl rfl

end Firebot.Tasks
