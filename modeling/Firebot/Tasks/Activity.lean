import Firebot.Tasks.World

/-!
# Which tasks are active

A task becomes active when it is created, and once more when a report says so of a task that has ended.
Nothing else makes a task active.
-/

namespace Firebot.Tasks

/-- The robot has this task, and it is active. -/
def Active (db : Database) (robotId id : String) : Prop :=
  ∃ task, db.tasks.lookup id = some task ∧ task.robotId = robotId ∧ task.status.active = true

/-- The report makes a task of the robot active that has ended. -/
def Revives (db : Database) (robotId : String) (msg : TaskStatus) : Prop :=
  ∃ task, db.tasks.lookup msg.taskId = some task ∧ task.robotId = robotId ∧
    task.status.active = false ∧ (task.verifies msg || msg.status.internal.active) = true

section

variable {db : Database} {robotId id : String}

theorem active_isEmpty : (db.active robotId).isEmpty = true ↔ ∀ id, ¬ Active db robotId id := by
  constructor
  · rintro empty id ⟨task, found, own, active⟩
    have mem : (id, task) ∈ db.active robotId := Table.mem_select.mpr ⟨found, by simp [own, active]⟩
    rw [List.isEmpty_iff.mp empty] at mem
    cases mem
  · intro none_active
    rw [List.isEmpty_iff, List.eq_nil_iff_forall_not_mem]
    rintro ⟨id, task⟩ mem
    obtain ⟨found, meets⟩ := Table.mem_select.mp mem
    simp only [Bool.and_eq_true, decide_eq_true_eq] at meets
    exact none_active id ⟨task, found, meets⟩

/-- The state that a report leaves is active, or not, as the report says. -/
theorem Task.reported_active (task : Task) (msg : TaskStatus) (received : Time) :
    (task.reported msg received).status.active =
      (task.verifies msg || msg.status.internal.active) := by
  rw [Task.reported_status]
  cases task.verifies msg <;> rfl

/-- A report keeps the robot of a task. -/
theorem Task.reported_robotId (task : Task) (msg : TaskStatus) (received : Time) :
    (task.reported msg received).robotId = task.robotId := by
  unfold Task.reported Task.resumable Task.settled
  split <;> split <;> rfl

theorem Task.checked_robotId (task : Task) (check : PoseCheck) (now : Time) :
    (task.checked check now).robotId = task.robotId := by
  unfold Task.checked
  dsimp only
  split <;> rfl

/-- A task that is active once its pose has been looked at was active. -/
theorem Task.active_of_checked {task : Task} {check : PoseCheck} {now : Time}
    (active : (task.checked check now).status.active = true) : task.status.active = true := by
  unfold Task.checked at active
  dsimp only at active
  split at active
  · cases active
  · cases active
  · exact active

/-- A row after a report is the row of before, consumed or not, and has been reported if the report is about
it. -/
theorem of_handleTaskStatus {msg : TaskStatus} {received : Time} {task' : Task}
    (found : (db.handleTaskStatus robotId msg received).tasks.lookup id = some task') :
    ∃ task row, db.tasks.lookup id = some task ∧ (row = task ∨ row = task.consumed) ∧
      (task' = row ∨ msg.concerns robotId id task ∧ task' = row.reported msg received) := by
  have there := Database.handleTaskStatus_isSome db robotId msg received id
  rw [found, Option.isSome_some, eq_comm, Option.isSome_iff_exists] at there
  obtain ⟨task, was⟩ := there
  unfold Database.handleTaskStatus at found
  split at found
  · exact ⟨task', task', found, .inl rfl, .inl rfl⟩
  next reported named =>
    split at found
    · exact ⟨task', task', found, .inl rfl, .inl rfl⟩
    next own =>
      obtain ⟨row, kept, changed⟩ := Table.of_lookup_modify found
      obtain ⟨row', kept', consumed⟩ := Database.consumeResume_lookup reported msg was
      cases Option.some.inj (kept.symm.trans kept')
      refine ⟨task, row, was, consumed, ?_⟩
      rcases changed with ⟨rfl, rfl⟩ | ⟨_, rfl⟩
      · cases Option.some.inj (named.symm.trans was)
        exact .inr ⟨⟨rfl, not_not.mp own⟩, rfl⟩
      · exact .inl rfl

theorem Task.consumed_robotId (task : Task) : task.consumed.robotId = task.robotId := by
  unfold Task.consumed
  split <;> rfl

theorem Task.consumed_verifies (task : Task) (msg : TaskStatus) :
    task.consumed.verifies msg = task.verifies msg := by
  unfold Task.verifies
  rw [Task.consumed_type]

/-- After a report a task is active if it was, or if the report has revived it. -/
theorem active_of_report {msg : TaskStatus} {received : Time} {reporter : String}
    (after : Active (db.handleTaskStatus reporter msg received) robotId id) :
    Active db robotId id ∨ robotId = reporter ∧ id = msg.taskId ∧ Revives db reporter msg := by
  obtain ⟨task', found, own, active⟩ := after
  obtain ⟨task, row, was, consumed, changed⟩ := of_handleTaskStatus found
  have same : row.robotId = task.robotId ∧ row.status = task.status ∧
      row.verifies msg = task.verifies msg := by
    rcases consumed with rfl | rfl
    · exact ⟨rfl, rfl, rfl⟩
    · exact ⟨task.consumed_robotId, task.consumed_status, task.consumed_verifies msg⟩
  obtain ⟨robot, status, verifies⟩ := same
  by_cases before : task.status.active = true
  · refine .inl ⟨task, was, ?_, before⟩
    rw [← own, ← robot]
    rcases changed with rfl | ⟨_, rfl⟩
    · rfl
    · rw [Task.reported_robotId]
  · rcases changed with rfl | ⟨⟨rfl, concerned⟩, rfl⟩
    · rw [status] at active
      exact absurd active before
    · rw [Task.reported_robotId, robot] at own
      rw [Task.reported_active, verifies] at active
      exact .inr ⟨own.symm.trans concerned, rfl, task, was, concerned, by simpa using before, active⟩

/-- The task that a report revives is active afterwards. -/
theorem Revives.active {msg : TaskStatus} (revives : Revives db robotId msg) (received : Time) :
    Active (db.handleTaskStatus robotId msg received) robotId msg.taskId := by
  obtain ⟨task, found, own, _, active⟩ := revives
  unfold Active Database.handleTaskStatus
  rw [found]
  dsimp only
  rw [if_neg (not_not.mpr own)]
  obtain ⟨row, kept, consumed⟩ := Database.consumeResume_lookup task msg found
  refine ⟨row.reported msg received, ?_, ?_, ?_⟩
  · show AList.lookup _ (Table.modify _ _ _) = _
    rw [Table.lookup_modify_self, kept, Option.map_some]
  · rw [Task.reported_robotId]
    rcases consumed with rfl | rfl
    · exact own
    · exact task.consumed_robotId.trans own
  · rw [Task.reported_active]
    rcases consumed with rfl | rfl
    · exact active
    · rwa [Task.consumed_verifies]

/-- The rest of the steps make no task active. -/
theorem active_of_verifyTasks {check : String → Task → Option PoseCheck} {now : Time}
    {rows : List (String × Task)} {after : Database}
    (done : rows.foldlM (fun db r => (check r.1 r.2).map (db.verifyTask now r.1 r.2)) db =
      some after) (active : Active after robotId id) : Active db robotId id := by
  induction rows generalizing db with
  | nil =>
    cases done
    exact active
  | cons r rows ih =>
    obtain ⟨next, first, rest⟩ := Option.bind_eq_some_iff.mp done
    obtain ⟨seen, _, rfl⟩ := Option.map_eq_some_iff.mp first
    obtain ⟨task', found, own, isActive⟩ := ih rest
    obtain ⟨task, was, ⟨_, rfl⟩ | ⟨_, rfl⟩⟩ := Table.of_lookup_modify found
    · exact ⟨task, was, by rwa [Task.checked_robotId] at own, Task.active_of_checked isActive⟩
    · exact ⟨task', was, own, isActive⟩

/-- The event creates a task. -/
def Event.creates : Event → Bool
  | .create .. | .strand .. => true
  | .cancel .. | .dispatch .. | .ack .. | .taskStatus .. | .tick .. => false

/-- What makes a task active, where nothing is created: a report that revives it. -/
theorem active_of_step {e : Event} (quiet : e.creates = false)
    (after : Active (db.step e) robotId id) :
    Active db robotId id ∨ ∃ msg received, e = .taskStatus robotId msg received ∧ id = msg.taskId ∧
      Revives db robotId msg := by
  cases e with
  | create c now => cases quiet
  | strand c now => cases quiet
  | cancel taskId commandId now expiresAt =>
    left
    simp only [Database.step] at after
    split at after
    · exact after
    · split at after
      · obtain ⟨task', found, own, active⟩ := after
        obtain ⟨task, was, ⟨_, rfl⟩ | ⟨_, rfl⟩⟩ := Table.of_lookup_modify found
        · exact ⟨task, was, own, active⟩
        · exact ⟨task', was, own, active⟩
      · exact after
  | dispatch commandId invalid broker now =>
    left
    simp only [Database.step] at after
    split at after
    · split at after
      · exact after
      · exact after
    · exact after
  | ack reporter commandId msg received =>
    left
    simp only [Database.step, Database.handleAck] at after
    split at after
    · exact after
    · split at after
      · exact after
      · exact after
  | taskStatus reporter msg received =>
    rcases active_of_report after with before | ⟨rfl, same, revives⟩
    · exact .inl before
    · exact .inr ⟨msg, received, rfl, same, revives⟩
  | tick check timeout now =>
    left
    simp only [Database.step, Database.tick] at after
    cases done : (db.expireCommands timeout now).reconcileNavigationVerification check now with
    | none =>
      rw [done] at after
      exact after
    | some db' =>
      rw [done] at after
      have before : Active (db.expireCommands timeout now) robotId id :=
        active_of_verifyTasks done after
      exact before

end

end Firebot.Tasks
