import Firebot.Tasks.World

/-!
# Tasks whose command was refused

A command that the vehicle refuses, or that expires before it is sent, ends; the task that it was to start does
not, for `handle_ack` and the dispatcher write the command only. Such a task stays active and keeps later tasks
from being created. **It does not happen in a run in which no command is refused or expires while the task it
starts is active** (`Spared`, `no_refused_active`). Nothing is said of a task whose command is never answered.
-/

namespace Firebot.Tasks

open Database

/-! ## The invariant -/

/-- **No active task has a refused command**: the command that was created to start it has not been
rejected, has not been declared unsupported and has not expired. -/
def Live (db : Database) : Prop :=
  ∀ id task commandId command, db.tasks.lookup id = some task → task.status.active = true →
    db.commands.lookup commandId = some command → command.starts id = true →
    command.lifecycleStatus.refused = false

/-- Commands belong to tasks that exist, and one command at most starts a task. -/
structure Linked (db : Database) : Prop where
  task : ∀ commandId command id, db.commands.lookup commandId = some command →
    command.taskId = some id → (db.tasks.lookup id).isSome = true
  single : ∀ id a b ca cb, db.commands.lookup a = some ca → db.commands.lookup b = some cb →
    ca.starts id = true → cb.starts id = true → a = b

/-- No task disappears and no command appears or changes its task or its kind. -/
structure Evolves (before after : Database) : Prop where
  task : ∀ id, (before.tasks.lookup id).isSome = true → (after.tasks.lookup id).isSome = true
  command : ∀ commandId command', after.commands.lookup commandId = some command' →
    ∃ command, before.commands.lookup commandId = some command ∧
      command'.taskId = command.taskId ∧ command'.cmd = command.cmd

/-- Whether a command starts a task is read from its task and its verb. -/
theorem Command.starts_congr {a b : Command} (task : a.taskId = b.taskId) (cmd : a.cmd = b.cmd)
    (id : String) : a.starts id = b.starts id := by
  unfold Command.starts
  rw [task, cmd]

/-- A command that starts a task names it. -/
theorem Command.starts_taskId {command : Command} {id : String} (starts : command.starts id = true) :
    command.taskId = some id := by
  simpa using (Bool.and_eq_true_iff.mp starts).1

/-- An evolution keeps the commands with their tasks. -/
theorem Linked.evolves {before after : Database} (h : Linked before) (e : Evolves before after) :
    Linked after where
  task commandId command' id found' belongs := by
    obtain ⟨command, found, task, _⟩ := e.command commandId command' found'
    exact e.task id (h.task commandId command id found (task ▸ belongs))
  single id a b ca cb foundA foundB startsA startsB := by
    obtain ⟨ca', foundA', taskA, cmdA⟩ := e.command a ca foundA
    obtain ⟨cb', foundB', taskB, cmdB⟩ := e.command b cb foundB
    rw [Command.starts_congr taskA cmdA] at startsA
    rw [Command.starts_congr taskB cmdB] at startsB
    exact h.single id a b ca' cb' foundA' foundB' startsA startsB

/-- One command is changed, and neither its task nor its kind. -/
theorem Evolves.of_command {db : Database} (commandId : String) {f : Command → Command}
    (task : ∀ c, (f c).taskId = c.taskId) (cmd : ∀ c, (f c).cmd = c.cmd) :
    Evolves db { db with commands := Table.modify commandId f db.commands } where
  task _ found := found
  command id command' found := by
    obtain ⟨command, before, ⟨_, rfl⟩ | ⟨_, rfl⟩⟩ := Table.of_lookup_modify found
    · exact ⟨command, before, task command, cmd command⟩
    · exact ⟨command', before, rfl, rfl⟩

/-! ## Reports and ACKs -/

/-- A report evolves the database. -/
theorem handleTaskStatus_evolves (db : Database) (robotId : String) (msg : TaskStatus)
    (received : Time) : Evolves db (db.handleTaskStatus robotId msg received) where
  task id found := by rwa [handleTaskStatus_isSome]
  command commandId command' found := by
    rcases handleTaskStatus_commands db robotId msg received with same | ⟨id, status, changed⟩
    · rw [same] at found
      exact ⟨command', found, rfl, rfl⟩
    · rw [changed] at found
      obtain ⟨command, before, ⟨_, rfl⟩ | ⟨_, rfl⟩⟩ := Table.of_lookup_modify found
      · exact ⟨command, before, rfl, rfl⟩
      · exact ⟨command', before, rfl, rfl⟩

/-- A report leaves the command of the task it is about in the task's state, and no other task becomes
active. -/
theorem Live.handleTaskStatus {db : Database} (h : Live db) (linked : Linked db) (robotId : String)
    (msg : TaskStatus) (received : Time) : Live (db.handleTaskStatus robotId msg received) := by
  intro id task' commandId command' found' active foundCommand' starts
  have here : (db.tasks.lookup id).isSome = true := by
    rw [← handleTaskStatus_isSome db robotId msg received, found']
    rfl
  obtain ⟨task, found⟩ := Option.isSome_iff_exists.mp here
  obtain ⟨command, foundCommand, sameTask, sameCmd⟩ :=
    (handleTaskStatus_evolves db robotId msg received).command commandId command' foundCommand'
  rw [Command.starts_congr sameTask sameCmd] at starts
  rcases handleTaskStatus_command robotId msg received foundCommand with
    unchanged | ⟨_, _, _, _, advanced⟩
  · cases Option.some.inj (foundCommand'.symm.trans unchanged)
    obtain ⟨task'', found'', status, _⟩ := handleTaskStatus_task robotId msg received found
    cases Option.some.inj (found'.symm.trans found'')
    by_cases concerned : msg.concerns robotId id task
    · -- the command that starts the reported task is the one that is advanced
      obtain ⟨rfl, own⟩ := concerned
      obtain ⟨newest, row, starting⟩ :=
        Table.exists_newest Command.issuedAt foundCommand starts
          (p := fun _ command => command.starts msg.taskId)
      obtain ⟨foundNewest, startsNewest⟩ := initiating_spec starting
      cases linked.single _ _ _ _ _ foundNewest foundCommand startsNewest starts
      have advanced := handleTaskStatus_initiating received found own starting
      cases Option.some.inj (foundCommand'.symm.trans advanced)
      exact TaskState.lifecycle_refused _
    · rw [if_neg concerned] at status
      exact h id task commandId command' found (status ▸ active) foundCommand starts
  · cases Option.some.inj (foundCommand'.symm.trans advanced)
    exact TaskState.lifecycle_refused _

/-- An ACK leaves the task of a command. -/
theorem Command.acked_taskId (command : Command) (msg : Server.AckMessage) (received : Time) :
    (command.acked msg received).taskId = command.taskId := by
  unfold Command.acked
  dsimp only
  split
  · rfl
  · split <;> rfl

/-- An ACK leaves the verb of a command. -/
theorem Command.acked_cmd (command : Command) (msg : Server.AckMessage) (received : Time) :
    (command.acked msg received).cmd = command.cmd := by
  unfold Command.acked
  dsimp only
  split
  · rfl
  · split <;> rfl

/-- A change of one command keeps the tasks alive if it refuses no command of an active task. -/
theorem Live.of_command {db : Database} (h : Live db) (commandId : String) {f : Command → Command}
    (task : ∀ c, (f c).taskId = c.taskId) (cmd : ∀ c, (f c).cmd = c.cmd)
    (spared : ∀ command, db.commands.lookup commandId = some command →
      (f command).lifecycleStatus.refused = true → command.lifecycleStatus.refused = false →
      ∀ id task, command.starts id = true → db.tasks.lookup id = some task →
        task.status.active = false) :
    Live { db with commands := Table.modify commandId f db.commands } := by
  intro id row other command' found active foundCommand' starts
  obtain ⟨command, before, ⟨rfl, rfl⟩ | ⟨_, rfl⟩⟩ := Table.of_lookup_modify foundCommand'
  · rw [Command.starts_congr (task command) (cmd command)] at starts
    have live := h id row other command found active before starts
    by_contra refused
    have ended := spared command before (Bool.not_eq_false _ ▸ refused) live id row starts found
    rw [ended] at active
    cases active
  · exact h id row other command' found active before starts

/-! ## The tick -/

/-- The sweep leaves the task of a command. -/
theorem Command.swept_taskId (command : Command) (timeout : Nat) (now : Time) :
    (command.swept timeout now).taskId = command.taskId := by
  unfold Command.swept
  split <;> rfl

/-- The sweep leaves the verb of a command. -/
theorem Command.swept_cmd (command : Command) (timeout : Nat) (now : Time) :
    (command.swept timeout now).cmd = command.cmd := by
  unfold Command.swept
  split <;> rfl

/-- The sweep refuses no command. -/
theorem Command.swept_refused {command : Command} (live : command.lifecycleStatus.refused = false)
    (timeout : Nat) (now : Time) :
    (command.swept timeout now).lifecycleStatus.refused = false := by
  unfold Command.swept
  split
  · rfl
  · exact live

/-- The state that a look at its pose leaves a task in. -/
theorem Task.checked_status (task : Task) (check : PoseCheck) (now : Time) :
    (task.checked check now).status = task.status ∨
      (task.checked check now).status.active = false := by
  unfold Task.checked
  dsimp only
  split
  · exact .inr rfl
  · exact .inr rfl
  · exact .inl rfl

/-- The invariant: the tasks are alive, and the commands linked to them. -/
structure Alive (db : Database) : Prop where
  live : Live db
  linked : Linked db

/-- A command after the sweep is one of before. -/
theorem expireCommands_command {db : Database} {timeout : Nat} {now : Time} {commandId : String}
    {command' : Command}
    (found : (db.expireCommands timeout now).commands.lookup commandId = some command') :
    ∃ command, db.commands.lookup commandId = some command ∧
      command.swept timeout now = command' := by
  change AList.lookup commandId (Table.update _ db.commands) = _ at found
  rw [Table.lookup_update] at found
  exact Option.map_eq_some_iff.mp found

/-- A command after a look at a task is one of before, of the same task and kind, and is refused only if it
was. -/
theorem verifyTask_command {db : Database} {now : Time} {id : String} {task : Task} {check : PoseCheck}
    {commandId : String} {command' : Command}
    (found : (db.verifyTask now id task check).commands.lookup commandId = some command') :
    ∃ command, db.commands.lookup commandId = some command ∧
      command'.taskId = command.taskId ∧ command'.cmd = command.cmd ∧
      (command.lifecycleStatus.refused = false → command'.lifecycleStatus.refused = false) := by
  change AList.lookup commandId (if task.verdict check now = .verified then _ else _) = _ at found
  split at found
  · cases latest : db.latestCommand id with
    | none =>
      rw [latest] at found
      exact ⟨command', found, rfl, rfl, fun live => live⟩
    | some r =>
      rw [latest] at found
      obtain ⟨command, before, ⟨_, rfl⟩ | ⟨_, rfl⟩⟩ := Table.of_lookup_modify found
      · exact ⟨command, before, rfl, rfl, fun _ => rfl⟩
      · exact ⟨command', before, rfl, rfl, fun live => live⟩
  · exact ⟨command', found, rfl, rfl, fun live => live⟩

/-- The sweep of the commands keeps the tasks alive. -/
theorem Alive.expireCommands {db : Database} (h : Alive db) (timeout : Nat) (now : Time) :
    Alive (db.expireCommands timeout now) := by
  constructor
  · intro id task commandId command' found active foundCommand' starts
    obtain ⟨command, foundCommand, rfl⟩ := expireCommands_command foundCommand'
    rw [Command.starts_congr (Command.swept_taskId ..) (Command.swept_cmd ..)] at starts
    exact Command.swept_refused (h.live id task commandId command found active foundCommand starts)
      timeout now
  · refine h.linked.evolves ⟨fun _ found => found, ?_⟩
    intro commandId command' found'
    obtain ⟨command, found, rfl⟩ := expireCommands_command found'
    exact ⟨command, found, Command.swept_taskId .., Command.swept_cmd ..⟩

/-- The verification of one task settles it together with its command. -/
theorem Alive.verifyTask {db : Database} (h : Alive db) (now : Time) (id : String) (task : Task)
    (check : PoseCheck) : Alive (db.verifyTask now id task check) := by
  constructor
  · intro other row commandId command' found active foundCommand' starts
    obtain ⟨before, foundBefore, changed⟩ := Table.of_lookup_modify found
    have activeBefore : before.status.active = true := by
      rcases changed with ⟨_, rfl⟩ | ⟨_, rfl⟩
      · rcases Task.checked_status before check now with same | ended
        · rwa [← same]
        · rw [ended] at active
          cases active
      · exact active
    obtain ⟨command, foundCommand, sameTask, sameCmd, live⟩ := verifyTask_command foundCommand'
    rw [Command.starts_congr sameTask sameCmd] at starts
    exact live (h.live other before commandId command foundBefore activeBefore foundCommand starts)
  · refine h.linked.evolves ⟨?_, ?_⟩
    · intro other found
      show (AList.lookup other (Table.modify id _ db.tasks)).isSome = true
      rwa [Table.isSome_lookup_modify]
    · intro commandId command' found'
      obtain ⟨command, found, sameTask, sameCmd, _⟩ := verifyTask_command found'
      exact ⟨command, found, sameTask, sameCmd⟩

/-- The verification of all of them, one by one. -/
theorem Alive.verifyTasks {check : String → Task → Option PoseCheck} {now : Time}
    {rows : List (String × Task)} {db after : Database} (h : Alive db)
    (done : rows.foldlM (fun db r => (check r.1 r.2).map (db.verifyTask now r.1 r.2)) db =
      some after) : Alive after := by
  induction rows generalizing db with
  | nil =>
    cases done
    exact h
  | cons r rows ih =>
    obtain ⟨next, first, rest⟩ := Option.bind_eq_some_iff.mp done
    obtain ⟨seen, _, rfl⟩ := Option.map_eq_some_iff.mp first
    exact ih (h.verifyTask now r.1 r.2 seen) rest

/-- A tick of the worker. -/
theorem Alive.tick {db : Database} (h : Alive db) (check : String → Task → Option PoseCheck)
    (timeout : Nat) (now : Time) : Alive (db.tick check timeout now) := by
  unfold Database.tick
  cases done : (db.expireCommands timeout now).reconcileNavigationVerification check now with
  | none => exact h
  | some after => exact (h.expireCommands timeout now).verifyTasks done

/-! ## Requests -/

/-- A new task comes with a command that is queued. -/
theorem Alive.create {db : Database} (h : Alive db) {c : Creation}
    (fresh : db.fresh c.taskId c.commandId) (now : Time) : Alive (db.create c now) := by
  have unlinked : ∀ commandId command, db.commands.lookup commandId = some command →
      command.starts c.taskId = false := by
    intro commandId command found
    by_contra starts
    have exists_ := h.linked.task commandId command c.taskId found
      (Command.starts_taskId (Bool.not_eq_false _ ▸ starts))
    rw [fresh.1] at exists_
    cases exists_
  constructor
  · intro id task commandId command found active foundCommand starts
    rcases Table.of_lookup_insert foundCommand with ⟨_, rfl⟩ | ⟨_, before⟩
    · rfl
    · rcases Table.of_lookup_insert found with ⟨rfl, _⟩ | ⟨_, foundBefore⟩
      · rw [unlinked commandId command before] at starts
        cases starts
      · exact h.live id task commandId command foundBefore active before starts
  · constructor
    · intro commandId command id found belongs
      show (AList.lookup id (db.tasks.insert c.taskId _)).isSome = true
      by_cases new : id = c.taskId
      · rw [new, AList.lookup_insert]
        rfl
      · rw [AList.lookup_insert_ne new]
        rcases Table.of_lookup_insert found with ⟨_, rfl⟩ | ⟨_, before⟩
        · exact absurd (Option.some.inj belongs).symm new
        · exact h.linked.task commandId command id before belongs
    · intro id a b ca cb foundA foundB startsA startsB
      rcases Table.of_lookup_insert foundA with ⟨rfl, rfl⟩ | ⟨_, beforeA⟩ <;>
        rcases Table.of_lookup_insert foundB with ⟨rfl, rfl⟩ | ⟨_, beforeB⟩
      · rfl
      · have own : id = c.taskId := (Option.some.inj (Command.starts_taskId startsA)).symm
        rw [own, unlinked b cb beforeB] at startsB
        cases startsB
      · have own : id = c.taskId := (Option.some.inj (Command.starts_taskId startsB)).symm
        rw [own, unlinked a ca beforeA] at startsA
        cases startsA
      · exact h.linked.single id a b ca cb beforeA beforeB startsA startsB

/-- A task without a command has no refused one. -/
theorem Alive.strand {db : Database} (h : Alive db) {c : Creation}
    (unused : db.tasks.lookup c.taskId = none) (now : Time) : Alive (db.strand c now) := by
  constructor
  · intro id task commandId command found active foundCommand starts
    rcases Table.of_lookup_insert found with ⟨rfl, _⟩ | ⟨_, before⟩
    · have exists_ := h.linked.task commandId command _ foundCommand
        (Command.starts_taskId starts)
      rw [unused] at exists_
      cases exists_
    · exact h.live id task commandId command before active foundCommand starts
  · refine h.linked.evolves ⟨?_, fun _ command found => ⟨command, found, rfl, rfl⟩⟩
    intro id found
    obtain ⟨task, found⟩ := Option.isSome_iff_exists.mp found
    show (AList.lookup id (db.tasks.insert c.taskId _)).isSome = true
    rw [Table.lookup_insert_of_found _ unused found]
    rfl

/-- Cancelling a task adds a command that starts none. -/
theorem Alive.cancel {db : Database} (h : Alive db) {taskId : String} {task : Task}
    (found : db.tasks.lookup taskId = some task) (commandId : String) (now expiresAt : Time) : Alive (db.cancel taskId commandId task now expiresAt) := by
  have startsOld : ∀ id command,
      AList.lookup id (db.commands.insert commandId
        (.queued task.robotId (some taskId) .cancelTask now expiresAt)) = some command →
      ∀ other, command.starts other = true → db.commands.lookup id = some command := by
    intro id command foundCommand other starts
    rcases Table.of_lookup_insert foundCommand with ⟨_, rfl⟩ | ⟨_, before⟩
    · have business := (Bool.and_eq_true_iff.mp starts).2
      cases business
    · exact before
  constructor
  · intro id row other command foundRow active foundCommand starts
    obtain ⟨before, foundBefore, changed⟩ := Table.of_lookup_modify foundRow
    have activeBefore : before.status.active = true := by
      rcases changed with ⟨_, rfl⟩ | ⟨_, rfl⟩ <;> exact active
    exact h.live id before other command foundBefore activeBefore
      (startsOld other command foundCommand id starts) starts
  · constructor
    · intro other command id foundCommand belongs
      show (AList.lookup id (Table.modify taskId _ db.tasks)).isSome = true
      rw [Table.isSome_lookup_modify]
      rcases Table.of_lookup_insert foundCommand with ⟨_, rfl⟩ | ⟨_, before⟩
      · cases Option.some.inj belongs
        rw [found]
        rfl
      · exact h.linked.task other command id before belongs
    · intro id a b ca cb foundA foundB startsA startsB
      exact h.linked.single id a b ca cb (startsOld a ca foundA id startsA)
        (startsOld b cb foundB id startsB) startsA startsB

/-! ## Every run -/

/-- The command was created to start a task that is active. -/
def Database.startsActive (db : Database) (command : Command) : Prop :=
  ∃ id task, command.starts id = true ∧ db.tasks.lookup id = some task ∧
    task.status.active = true

/-- No command that starts an active task is refused: it gets no ACK but an accepting one, unless it has
an ACK already, and it does not come to its expiry before it is sent. -/
def Spared (db : Database) : Event → Prop
  | .ack robotId commandId msg _ => msg.status ≠ "accepted" →
      ∀ command, db.commands.lookup commandId = some command → command.robotId = robotId →
        command.ackAt = none → ¬ db.startsActive command
  | .dispatch commandId invalid _ now => invalid = none →
      ∀ event command, db.outbox.lookup commandId = some event → due event now = true →
        db.commands.lookup commandId = some command → command.expiresAt ≤ now →
        ¬ db.startsActive command
  | .create .. | .strand .. | .cancel .. | .taskStatus .. | .tick .. => True

/-- A command that is given up as expired was valid, and its time had run out. -/
theorem publishCommand_expired {invalid broker : Option Server.Failure} {expiresAt now : Time}
    (h : publishCommand invalid broker expiresAt now = .expired) :
    invalid = none ∧ expiresAt ≤ now := by
  unfold publishCommand at h
  split at h
  · cases h
  · split at h
    · next late => exact ⟨rfl, late⟩
    · split at h <;> cases h

/-- Only its expiry refuses a command that is dispatched. -/
theorem Command.dispatched_refused {command : Command} {now : Time} {publish : Publish}
    (refused : (command.dispatched now publish).lifecycleStatus.refused = true)
    (live : command.lifecycleStatus.refused = false) : publish = .expired := by
  cases publish with
  | sent => cases refused
  | expired => rfl
  | failed error =>
    rw [show (command.dispatched now (.failed error)) = command from rfl, live] at refused
    cases refused

/-- A change of one command that spares the active tasks. -/
theorem Alive.of_command {db : Database} (h : Alive db) (commandId : String)
    {f : Command → Command} (task : ∀ c, (f c).taskId = c.taskId) (cmd : ∀ c, (f c).cmd = c.cmd)
    (spared : ∀ command, db.commands.lookup commandId = some command →
      (f command).lifecycleStatus.refused = true → command.lifecycleStatus.refused = false →
      ¬ db.startsActive command) :
    Alive { db with commands := Table.modify commandId f db.commands } where
  live := h.live.of_command commandId task cmd fun command found refused live id row starts row_found =>
    Bool.eq_false_iff.mpr fun active =>
      spared command found refused live ⟨id, row, starts, row_found, active⟩
  linked := h.linked.evolves (.of_command commandId task cmd)

/-- Every step that spares the active tasks keeps them alive. -/
theorem Alive.step {db : Database} {e : Event} (h : Alive db) (spared : Spared db e) :
    Alive (db.step e) := by
  cases e with
  | create c now =>
    simp only [Database.step]
    split
    · next admitted => exact h.create admitted.1 now
    · exact h
  | strand c now =>
    simp only [Database.step]
    split
    · next unused => exact h.strand unused now
    · exact h
  | cancel taskId commandId now expiresAt =>
    simp only [Database.step]
    split
    · exact h
    · next task found =>
      split
      · exact h.cancel found commandId now expiresAt
      · exact h
  | dispatch commandId invalid broker now =>
    simp only [Database.step]
    split
    · next event command foundEvent found =>
      split
      · next isDue =>
        have changed := h.of_command commandId
          (f := (·.dispatched now (publishCommand invalid broker command.expiresAt now)))
          (fun c => by cases publishCommand invalid broker command.expiresAt now <;> rfl)
          (fun c => by cases publishCommand invalid broker command.expiresAt now <;> rfl) ?_
        · exact ⟨changed.live, changed.linked.task, changed.linked.single⟩
        · intro row foundRow refused live
          cases Option.some.inj (found.symm.trans foundRow)
          obtain ⟨valid, late⟩ := publishCommand_expired (Command.dispatched_refused refused live)
          exact spared valid event command foundEvent isDue found late
      · exact h
    · exact h
  | ack robotId commandId msg received =>
    simp only [Database.step, handleAck]
    split
    · exact h
    · next command found =>
      split
      · exact h
      · next first =>
        refine h.of_command commandId (fun c => Command.acked_taskId c msg received)
          (fun c => Command.acked_cmd c msg received) ?_
        intro row foundRow refused _
        cases Option.some.inj (found.symm.trans foundRow)
        rw [Command.acked_refused, decide_eq_true_eq] at refused
        have own : command.robotId = robotId := by_contra fun foreign => first (.inl foreign)
        have unanswered : command.ackAt = none := by
          simpa using fun answered => first (.inr answered)
        exact spared refused command found own unanswered
  | taskStatus robotId msg received =>
    exact ⟨h.live.handleTaskStatus h.linked robotId msg received,
      h.linked.evolves (handleTaskStatus_evolves db robotId msg received)⟩
  | tick check timeout now => exact h.tick check timeout now

/-- No tasks, no commands. -/
theorem Alive.empty : Alive .empty where
  live _ _ _ _ found := by cases found
  linked := ⟨fun _ _ _ found => (by cases found), fun _ _ _ _ _ found => (by cases found)⟩

/-- A task that keeps another from being created is alive. -/
theorem Live.activeConflict {db : Database} (h : Live db) {robotId : String} {cmd : Cmd}
    (conflict : db.activeConflict robotId cmd = true) :
    ∃ id task, db.tasks.lookup id = some task ∧ task.robotId = robotId ∧
      task.status.active = true ∧ ∀ commandId command,
        db.commands.lookup commandId = some command → command.starts id = true →
        command.lifecycleStatus.refused = false := by
  unfold Database.activeConflict at conflict
  split at conflict
  · cases conflict
  · next id task first =>
    obtain ⟨found, meets⟩ := Table.mem_select.mp (List.mem_of_mem_head? first)
    simp only [Bool.and_eq_true, decide_eq_true_eq] at meets
    exact ⟨id, task, found, meets.1, meets.2,
      fun commandId command => h id task commandId command found meets.2⟩

/-- **In every run in which the active tasks are spared, no active task has a refused command, and no
later task is kept from being created by one that has.** -/
theorem no_refused_active (events : List Event) (spared : Runs.Meets step Spared .empty events) :
    Live (run .empty events) ∧
      ∀ robotId cmd, (run .empty events).activeConflict robotId cmd = true →
        ∃ id task, (run .empty events).tasks.lookup id = some task ∧ task.robotId = robotId ∧
          task.status.active = true ∧ ∀ commandId command,
            (run .empty events).commands.lookup commandId = some command →
            command.starts id = true → command.lifecycleStatus.refused = false := by
  have alive : Alive (run .empty events) :=
    Runs.invariant (fun _ _ h spared => h.step spared) Alive.empty spared
  exact ⟨alive.live, fun _ _ conflict => alive.live.activeConflict conflict⟩

/-- A patrol that is accepted, whose cancellation the vehicle then rejects, is a run like that. -/
theorem no_refused_active_cancel :
    Live (run .empty
      [ .create (patrolCreation "T1" "C1" (30 * second)) 0,
        .dispatch "C1" none none second,
        .ack "R1" "C1" { status := "accepted", reasonCode := none, reason := none } (2 * second),
        .cancel "T1" "C2" (3 * second) (33 * second),
        .dispatch "C2" none none (4 * second),
        .ack "R1" "C2" { status := "rejected", reasonCode := none, reason := none } (5 * second),
        .tick (fun _ _ => none) 5000000 (6 * second) ]) := by
  refine (no_refused_active _ ?_).1
  refine ⟨trivial, ?_, ?_, trivial, ?_, ?_, trivial, trivial⟩
  · intro _ event command _ _ found late
    cases found
    exact absurd late (by decide)
  · intro rejected
    exact absurd rfl rejected
  · intro _ event command _ _ found late
    cases found
    exact absurd late (by decide)
  · rintro _ command found _ _ ⟨id, task, starts, _⟩
    cases found
    exact absurd (Bool.and_eq_true_iff.mp starts).2 (by decide)

/-- A patrol that the vehicle rejects stays queued over the worker's ticks and keeps the next one from
being created. -/
theorem refused_patrol_blocks :
    let events : List Event :=
      [ .create (patrolCreation "T1" "C1" (30 * second)) 0,
        .dispatch "C1" none none second,
        .ack "R1" "C1" { status := "rejected", reasonCode := some "COMMAND_REJECTED", reason := none }
          (2 * second),
        .tick (fun _ _ => none) 5000000 (3 * second) ]
    ¬ Live (run .empty events) ∧
      (run .empty events).activeConflict "R1" .patrol = true ∧
      (run .empty (events ++ [.create (patrolCreation "T2" "C2" (90 * second)) (60 * second)])).tasks.lookup
        "T2" = none := by
  intro events
  refine ⟨?_, rfl, rfl⟩
  intro live
  have refused := live "T1" _ "C1" _ rfl rfl rfl rfl
  cases refused

end Firebot.Tasks
