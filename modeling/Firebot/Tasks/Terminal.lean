import Firebot.Tasks.World

/-!
# Ended tasks under reports and ticks

A report overwrites the state of its task whatever that state is. So a task that has ended stays as it is only
as long as no report names it, except one that repeats its end at the same instant (`Repeats`). The worker's
tick looks at executing tasks only and never touches one that has ended. **What has ended stays exactly in the
runs whose reports are all harmless** (`terminal_stays_iff`). Nothing is said of the commands of an ended task.
-/

namespace Firebot.Tasks

open Database

/-! ## What stays -/

/-- **Tasks that have ended are as they were**: their state, the time they ended, and the state of the
command that started them where it has ended as well. -/
structure Kept (before after : Database) : Prop where
  task : ∀ id task, before.tasks.lookup id = some task → task.status.terminal = true →
    ∃ task', after.tasks.lookup id = some task' ∧ task'.status = task.status ∧
      task'.completedAt = task.completedAt
  command : ∀ id task commandId command, before.tasks.lookup id = some task →
    task.status.terminal = true → before.commands.lookup commandId = some command →
    command.starts id = true → command.lifecycleStatus.terminal = true →
    ∃ command', after.commands.lookup commandId = some command' ∧ command'.starts id = true ∧
      command'.lifecycleStatus = command.lifecycleStatus

theorem Kept.refl (db : Database) : Kept db db where
  task _ task found _ := ⟨task, found, rfl, rfl⟩
  command _ _ _ command _ _ found starts _ := ⟨command, found, starts, rfl⟩

theorem Kept.trans {a b c : Database} (ab : Kept a b) (bc : Kept b c) : Kept a c where
  task id task found ended := by
    obtain ⟨task', found', status, completed⟩ := ab.task id task found ended
    obtain ⟨task'', found'', status', completed'⟩ := bc.task id task' found' (status ▸ ended)
    exact ⟨task'', found'', status'.trans status, completed'.trans completed⟩
  command id task commandId command found ended foundCommand starts closed := by
    obtain ⟨task', found', status, _⟩ := ab.task id task found ended
    obtain ⟨command', foundCommand', starts', state⟩ :=
      ab.command id task commandId command found ended foundCommand starts closed
    obtain ⟨command'', foundCommand'', starts'', state'⟩ :=
      bc.command id task' commandId command' found' (status ▸ ended) foundCommand' starts'
        (state ▸ closed)
    exact ⟨command'', foundCommand'', starts'', state'.trans state⟩

/-! ## The tick -/

/-- One task and the commands that start it are not touched. -/
structure Untouched (id : String) (before after : Database) : Prop where
  task : after.tasks.lookup id = before.tasks.lookup id
  commands : ∀ commandId command, before.commands.lookup commandId = some command →
    command.starts id = true → after.commands.lookup commandId = some command

theorem Untouched.refl (id : String) (db : Database) : Untouched id db db :=
  ⟨rfl, fun _ _ found _ => found⟩

theorem Untouched.trans {id : String} {a b c : Database} (ab : Untouched id a b)
    (bc : Untouched id b c) : Untouched id a c where
  task := bc.task.trans ab.task
  commands commandId command found starts :=
    bc.commands commandId command (ab.commands commandId command found starts) starts

/-- The verification of one task does not touch another. -/
theorem verifyTask_untouched {id other : String} (ne : id ≠ other) (now : Time) (db : Database)
    (task : Task) (check : PoseCheck) : Untouched id db (db.verifyTask now other task check) where
  task := Table.lookup_modify_of_ne ne _ _
  commands commandId command found starts := by
    show AList.lookup commandId (if task.verdict check now = .verified then _ else _) = _
    split
    · cases latest : db.latestCommand other with
      | none => exact found
      | some r =>
        obtain ⟨latestId, latestRow⟩ := r
        obtain ⟨row, belongs⟩ := Table.newest_spec latest
        have different : commandId ≠ latestId := by
          intro same
          subst same
          cases Option.some.inj (row.symm.trans found)
          have own : command.taskId = some id := by
            simpa using (Bool.and_eq_true_iff.mp starts).1
          have others : command.taskId = some other := by simpa using belongs
          exact ne (Option.some.inj (own.symm.trans others))
        exact (Table.lookup_modify_of_ne different _ _).trans found
    · exact found

/-- The verifications of other tasks do not touch a task. -/
theorem verifyTasks_untouched {id : String} {check : String → Task → Option PoseCheck} {now : Time}
    {rows : List (String × Task)} {db after : Database} (others : ∀ r ∈ rows, id ≠ r.1)
    (done : rows.foldlM (fun db r => (check r.1 r.2).map (db.verifyTask now r.1 r.2)) db =
      some after) : Untouched id db after := by
  induction rows generalizing db with
  | nil =>
    cases done
    exact .refl id _
  | cons r rows ih =>
    obtain ⟨next, first, rest⟩ := Option.bind_eq_some_iff.mp done
    obtain ⟨seen, _, rfl⟩ := Option.map_eq_some_iff.mp first
    have here := verifyTask_untouched (others r List.mem_cons_self) now db r.2 seen
    exact here.trans (ih (fun r mem => others r (List.mem_cons_of_mem _ mem)) rest)

/-- The sweep leaves a command that has ended. -/
theorem Command.swept_of_terminal {command : Command} (ended : command.lifecycleStatus.terminal = true)
    (timeout : Nat) (now : Time) : command.swept timeout now = command := by
  unfold Command.swept
  split
  · next overdue =>
    have published : command.lifecycleStatus = .published := by
      simpa using (Bool.and_eq_true_iff.mp overdue).1
    rw [published] at ended
    cases ended
  · rfl

/-- **A tick keeps the tasks that have ended.** -/
theorem tick_kept (check : String → Task → Option PoseCheck) (timeout : Nat) (now : Time)
    (db : Database) : Kept db (db.tick check timeout now) := by
  unfold tick
  cases done : (db.expireCommands timeout now).reconcileNavigationVerification check now with
  | none => exact .refl db
  | some after =>
    have untouched : ∀ id task, db.tasks.lookup id = some task → task.status.terminal = true →
        Untouched id (db.expireCommands timeout now) after := by
      intro id task found ended
      refine verifyTasks_untouched ?_ done
      intro r mem same
      obtain ⟨row, verifying⟩ := Table.mem_select.mp mem
      have isTask : r.2 = task := Option.some.inj (row.symm.trans (same ▸ found))
      have executing : r.2.status = .executing := by
        simp only [Task.verifying, Bool.and_eq_true, decide_eq_true_eq] at verifying
        exact verifying.1.2
      rw [← isTask, executing] at ended
      cases ended
    constructor
    · intro id task found ended
      exact ⟨task, (untouched id task found ended).task.trans found, rfl, rfl⟩
    · intro id task commandId command found ended foundCommand starts closed
      have swept : (db.expireCommands timeout now).commands.lookup commandId = some command := by
        show AList.lookup commandId (Table.update _ _) = _
        rw [Table.lookup_update, foundCommand, Option.map_some, Command.swept_of_terminal closed]
      exact ⟨command, (untouched id task found ended).commands commandId command swept starts,
        starts, rfl⟩

/-! ## The report -/

/-- A report about a task that has ended repeats its end at the instant it ended, and the state of the
command that started it, where that has ended too, is the same. -/
def Repeats (db : Database) (robotId : String) (msg : TaskStatus) (received : Time) : Prop :=
  ∀ task, db.tasks.lookup msg.taskId = some task → task.robotId = robotId →
    task.status.terminal = true →
      msg.status.internal = task.status ∧ task.verifies msg = false ∧
        task.completedAt = some received ∧
        ∀ id command, db.initiating msg.taskId = some (id, command) →
          command.lifecycleStatus.terminal = true → command.lifecycleStatus = task.status.lifecycle

/-- **A report keeps the tasks that have ended exactly if it is about none of them, or repeats the end
of the one it is about.** -/
theorem handleTaskStatus_kept (db : Database) (robotId : String) (msg : TaskStatus)
    (received : Time) :
    Kept db (db.handleTaskStatus robotId msg received) ↔ Repeats db robotId msg received := by
  constructor
  · intro kept task found own ended
    have concerned : msg.concerns robotId msg.taskId task := ⟨rfl, own⟩
    obtain ⟨task', found', status, completed⟩ :=
      handleTaskStatus_task robotId msg received found
    obtain ⟨task'', found'', status', completed'⟩ := kept.task _ _ found ended
    cases Option.some.inj (found'.symm.trans found'')
    rw [if_pos concerned] at status completed
    have same : (task.reported msg received).status = task.status := status.symm.trans status'
    have verifies : task.verifies msg = false := by
      by_contra verify
      rw [Task.reported_status, if_pos (Bool.not_eq_false _ ▸ verify)] at same
      rw [← same] at ended
      cases ended
    refine ⟨?_, verifies, ?_, ?_⟩
    · rw [Task.reported_status, verifies, if_neg Bool.false_ne_true] at same
      exact same
    · rw [Task.reported_completedAt, same, ended, if_pos rfl] at completed
      exact completed'.symm.trans completed
    · intro id command starting closed
      obtain ⟨foundCommand, starts⟩ := initiating_spec starting
      obtain ⟨command', foundCommand', _, state⟩ :=
        kept.command _ _ _ _ found ended foundCommand starts closed
      rw [handleTaskStatus_initiating received found own starting] at foundCommand'
      rw [← state, ← Option.some.inj foundCommand', ← same]
      rfl
  · intro repeats
    constructor
    · intro id task found ended
      obtain ⟨task', found', status, completed⟩ :=
        handleTaskStatus_task robotId msg received found
      refine ⟨task', found', ?_⟩
      by_cases concerned : msg.concerns robotId id task
      · rw [if_pos concerned] at status completed
        obtain ⟨rfl, own⟩ := concerned
        obtain ⟨reported, verifies, at_, _⟩ := repeats task found own ended
        have same : (task.reported msg received).status = task.status := by
          rw [Task.reported_status, verifies, if_neg Bool.false_ne_true, reported]
        rw [Task.reported_completedAt, same, ended, if_pos rfl] at completed
        exact ⟨status.trans same, completed.trans at_.symm⟩
      · rw [if_neg concerned] at status completed
        exact ⟨status, completed⟩
    · intro id task commandId command found ended foundCommand starts closed
      rcases handleTaskStatus_command robotId msg received foundCommand with
        unchanged | ⟨row, foundRow, own, starting, advanced⟩
      · exact ⟨command, unchanged, starts, rfl⟩
      · refine ⟨_, advanced, starts, ?_⟩
        -- the reported task is the one that the command starts
        have sameTask : id = msg.taskId := by
          have one := (Bool.and_eq_true_iff.mp starts).1
          have other := (Bool.and_eq_true_iff.mp (initiating_spec starting).2).1
          simp only [decide_eq_true_eq] at one other
          exact Option.some.inj (one.symm.trans other)
        subst sameTask
        cases Option.some.inj (found.symm.trans foundRow)
        obtain ⟨reported, verifies, _, repeated⟩ := repeats task found own ended
        have same : (task.reported msg received).status = task.status := by
          rw [Task.reported_status, verifies, if_neg Bool.false_ne_true, reported]
        show (task.reported msg received).status.lifecycle = _
        rw [same]
        exact (repeated _ _ starting closed).symm

/-! ## The scheduler -/

/-- A new task keeps the tasks that have ended. -/
theorem create_kept {db : Database} {c : Creation} (fresh : db.fresh c.taskId c.commandId)
    (now : Time) : Kept db (db.create c now) where
  task _ task found _ := ⟨task, Table.lookup_insert_of_found _ fresh.1 found, rfl, rfl⟩
  command _ _ _ command _ _ found starts _ :=
    ⟨command, Table.lookup_insert_of_found _ fresh.2 found, starts, rfl⟩

theorem strand_kept {db : Database} {c : Creation} (unused : db.tasks.lookup c.taskId = none)
    (now : Time) : Kept db (db.strand c now) where
  task _ task found _ := ⟨task, Table.lookup_insert_of_found _ unused found, rfl, rfl⟩
  command _ _ _ command _ _ found starts _ := ⟨command, found, starts, rfl⟩

/-! ## Runs of reports and ticks -/

/-- A report of a vehicle, or a part of the worker's tick: the sweep with the verification of poses,
and a task that the scheduler creates or fails to create. -/
inductive Report where
  | taskStatus (robotId : String) (msg : TaskStatus) (received : Time)
  | tick (check : String → Task → Option PoseCheck) (timeout : Nat) (now : Time)
  | scheduled (c : Creation) (now : Time)
  | stranded (c : Creation) (now : Time)

/-- The event of a report or tick. -/
def Report.event : Report → Event
  | .taskStatus robotId msg received => .taskStatus robotId msg received
  | .tick check timeout now => .tick check timeout now
  | .scheduled c now => .create c now
  | .stranded c now => .strand c now

/-- The database after a report or tick. -/
def Database.report (db : Database) (r : Report) : Database := db.step r.event

/-- **What has ended stays**: over every stretch of a run of reports and ticks. -/
def TerminalStays (db : Database) (reports : List Report) : Prop :=
  ∀ before middle after, reports = before ++ middle ++ after →
    Kept (Runs.run report db before) (Runs.run report db (before ++ middle))

/-- The report is about no task that has ended, or repeats its end; ticks are harmless. -/
def Harmless (db : Database) : Report → Prop
  | .taskStatus robotId msg received => Repeats db robotId msg received
  | .tick .. | .scheduled .. | .stranded .. => True

theorem report_kept (db : Database) (r : Report) : Kept db (db.report r) ↔ Harmless db r := by
  cases r with
  | taskStatus robotId msg received => exact handleTaskStatus_kept db robotId msg received
  | tick check timeout now => exact iff_of_true (tick_kept check timeout now db) trivial
  | scheduled c now =>
    refine iff_of_true ?_ trivial
    simp only [report, Report.event, step]
    split
    · next admitted => exact create_kept admitted.1 now
    · exact .refl db
  | stranded c now =>
    refine iff_of_true ?_ trivial
    simp only [report, Report.event, step]
    split
    · next unused => exact strand_kept unused now
    · exact .refl db

/-- **What has ended stays exactly in the runs whose reports are all harmless.** -/
theorem terminal_stays_iff (db : Database) (reports : List Report) :
    TerminalStays db reports ↔ Runs.Meets report Harmless db reports := by
  have steps : (fun (db : Database) r => Kept db (db.report r)) = Harmless := by
    funext db r
    exact propext (report_kept db r)
  rw [← steps]
  exact Runs.kept_iff Kept.refl Kept.trans db reports

/-- A patrol that the vehicle has taken up. -/
def executingPatrol : Database :=
  run .empty
    [ .create (patrolCreation "T1" "C1" (30 * second)) 0,
      .dispatch "C1" none none second,
      .ack "R1" "C1" { status := "accepted", reasonCode := none, reason := none } (2 * second),
      .taskStatus "R1" (.plain "T1" .executing "MOVING" (.int 5)) (3 * second) ]

/-- A patrol that has been reported completed is reported failed, and the task with its command
follows. -/
theorem terminal_overwritten :
    ¬ TerminalStays executingPatrol
      [ .taskStatus "R1" (.plain "T1" .completed "DONE" (.int 100)) (60 * second),
        .taskStatus "R1" (.plain "T1" .failed "LATE" (.int 100)) (61 * second) ] := by
  intro stays
  have kept := stays
    [.taskStatus "R1" (.plain "T1" .completed "DONE" (.int 100)) (60 * second)]
    [.taskStatus "R1" (.plain "T1" .failed "LATE" (.int 100)) (61 * second)] [] rfl
  obtain ⟨task', found, status, _⟩ := kept.task "T1" _ rfl rfl
  cases found
  cases status

end Firebot.Tasks
