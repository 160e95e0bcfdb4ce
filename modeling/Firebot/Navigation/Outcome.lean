import Firebot.Navigation.World
import Firebot.Tasks.Refusal

/-!
# To which command an outcome goes

A verified pose ends the newest command of the task, whatever kind of command it is. Commands of a task are
inserted when it is created, and by cancel and stop requests; none is removed, and none changes its task or its
kind (`commands_stay`).

**While the task has no command but the one that started it, that one becomes SUCCEEDED with the task**
(`tick_written`). Nothing is said of a task with others.
-/

namespace Firebot.Navigation

open Firebot.Tasks

/-- The ids of the commands of a task. -/
def commandsOf (db : Database) (taskId : String) : List String :=
  (db.commands.select fun _ command => command.taskId = some taskId).map Prod.fst

/-- The state of a command. -/
def commandState (db : Database) (commandId : String) : Option CommandState :=
  (db.commands.lookup commandId).map (·.lifecycleStatus)

/-- The commands of before are there, each of the same task and kind. -/
def CommandsStay (before after : Database) : Prop :=
  ∀ commandId command, before.commands.lookup commandId = some command →
    ∃ command', after.commands.lookup commandId = some command' ∧ command'.taskId = command.taskId ∧
      command'.cmd = command.cmd

variable {db after : Database} {id taskId commandId : String} {task : Task} {command : Command}

/-- The commands of a task are those that name it. -/
theorem mem_commandsOf : commandId ∈ commandsOf db taskId ↔
    ∃ command, db.commands.lookup commandId = some command ∧ command.taskId = some taskId := by
  unfold commandsOf
  constructor
  · intro mem
    obtain ⟨⟨_, command⟩, inside, rfl⟩ := List.mem_map.mp mem
    obtain ⟨found, belongs⟩ := Table.mem_select.mp inside
    exact ⟨command, found, of_decide_eq_true belongs⟩
  · rintro ⟨command, found, belongs⟩
    exact List.mem_map.mpr ⟨(commandId, command), Table.mem_select.mpr ⟨found, decide_eq_true belongs⟩, rfl⟩

/-! ## Commands stay -/

/-- Nothing has happened. -/
theorem CommandsStay.refl (db : Database) : CommandsStay db db :=
  fun _ command found => ⟨command, found, rfl, rfl⟩

/-- Two steps, one after the other. -/
theorem CommandsStay.trans {a b c : Database} (ab : CommandsStay a b) (bc : CommandsStay b c) :
    CommandsStay a c := by
  intro commandId command found
  obtain ⟨command', found', task, cmd⟩ := ab commandId command found
  obtain ⟨command'', found'', task', cmd'⟩ := bc commandId command' found'
  exact ⟨command'', found'', task'.trans task, cmd'.trans cmd⟩

/-- One command is changed, and neither its task nor its kind. -/
theorem CommandsStay.of_modify {key : String} {f : Command → Command}
    (changed : after.commands = Table.modify key f db.commands) (task : ∀ c, (f c).taskId = c.taskId)
    (cmd : ∀ c, (f c).cmd = c.cmd) : CommandsStay db after := by
  intro commandId command found
  by_cases same : commandId = key
  · subst same
    refine ⟨f command, ?_, task command, cmd command⟩
    rw [changed, Table.lookup_modify_self, found, Option.map_some]
  · exact ⟨command, by rw [changed, Table.lookup_modify_of_ne same, found], rfl, rfl⟩

/-- A command is inserted under a new id. -/
theorem CommandsStay.of_insert {key : String} {new : Command}
    (inserted : after.commands = db.commands.insert key new) (unused : db.commands.lookup key = none) :
    CommandsStay db after := by
  intro commandId command found
  exact ⟨command, by rw [inserted, Table.lookup_insert_of_found _ unused found], rfl, rfl⟩

/-- A dispatch leaves every command what it is for. -/
theorem dispatch_stay (db : Database) (commandId : String) (publish : Publish) (now : Time) :
    CommandsStay db (db.dispatch commandId publish now) := by
  have same (c : Command) : (c.dispatched now publish).taskId = c.taskId ∧
      (c.dispatched now publish).cmd = c.cmd := by
    cases publish <;> exact ⟨rfl, rfl⟩
  have changed : (db.dispatch commandId publish now).commands =
      Table.modify commandId (·.dispatched now publish) db.commands := rfl
  exact .of_modify changed (fun c => (same c).1) fun c => (same c).2

/-- The verification of a task leaves every command what it is for. -/
theorem verifyTask_stay (now : Time) (db : Database) (id : String) (task : Task) (check : PoseCheck) :
    CommandsStay db (db.verifyTask now id task check) := by
  let ended (command : Command) : Command := { command with lifecycleStatus := .succeeded, terminalAt := some now }
  have commands : (db.verifyTask now id task check).commands = db.commands ∨
      ∃ latest, (db.verifyTask now id task check).commands = Table.modify latest ended db.commands := by
    unfold Database.verifyTask
    dsimp only
    split
    · cases db.latestCommand id with
      | none => exact .inl rfl
      | some r => exact .inr ⟨r.1, rfl⟩
    · exact .inl rfl
  rcases commands with same | ⟨latest, changed⟩
  · exact fun _ command found => ⟨command, same ▸ found, rfl, rfl⟩
  · exact .of_modify changed (fun _ => rfl) fun _ => rfl

/-- A tick leaves every command what it is for. -/
theorem tick_stay (check : String → Task → Option PoseCheck) (timeout : Nat) (now : Time) (db : Database) :
    CommandsStay db (db.tick check timeout now) := by
  have expired : CommandsStay db (db.expireCommands timeout now) := by
    intro commandId command found
    refine ⟨command.swept timeout now, ?_, Command.swept_taskId .., Command.swept_cmd ..⟩
    show AList.lookup commandId (Table.update _ db.commands) = _
    rw [Table.lookup_update, found, Option.map_some]
  have rows (rows : List (String × Task)) {before after : Database}
      (done : rows.foldlM (fun db r => (check r.1 r.2).map (db.verifyTask now r.1 r.2)) before = some after) :
      CommandsStay before after := by
    induction rows generalizing before with
    | nil =>
      cases done
      exact .refl _
    | cons r rows ih =>
      obtain ⟨next, first, rest⟩ := Option.bind_eq_some_iff.mp done
      obtain ⟨seen, _, rfl⟩ := Option.map_eq_some_iff.mp first
      exact (verifyTask_stay now before r.1 r.2 seen).trans (ih rest)
  unfold Database.tick
  cases done : (db.expireCommands timeout now).reconcileNavigationVerification check now with
  | none => exact .refl db
  | some after => exact expired.trans (rows _ done)

/-- A stop inserts a command of its own, and leaves the others. -/
theorem stopCurrentOperation_stay {s : Stop} (fresh : s.fresh db) :
    CommandsStay db (stopCurrentOperation db s) := by
  have stopped (taskId : Option String) :
      CommandsStay db { db with commands := db.commands.insert s.stopCommandId (s.command taskId) } :=
    .of_insert rfl fresh.1
  unfold stopCurrentOperation
  dsimp only
  cases active : current db s.robotId with
  | none => exact stopped none
  | some r =>
    dsimp only
    split
    · exact stopped (some r.1)
    · refine (stopped (some r.1)).trans (.of_insert rfl ?_)
      rw [AList.lookup_insert_ne (Ne.symm fresh.2.2)]
      exact fresh.2.1

/-- **No action removes a command, or changes its task or its kind.** -/
theorem commands_stay (db : Database) (a : Action) : CommandsStay db (step db a) := by
  cases a with
  | stop s =>
    unfold step
    dsimp only
    split
    next fresh => exact stopCurrentOperation_stay fresh
    next => exact .refl db
  | event e =>
    simp only [step]
    cases e with
    | create c now =>
      simp only [Database.step]
      split
      next admitted => exact .of_insert rfl admitted.1.2
      next => exact .refl db
    | strand c now =>
      simp only [Database.step]
      split
      · exact fun _ command found => ⟨command, found, rfl, rfl⟩
      · exact .refl db
    | cancel taskId commandId now expiresAt =>
      simp only [Database.step]
      split
      · exact .refl db
      · split
        next granted => exact .of_insert rfl granted.2
        next => exact .refl db
    | dispatch commandId invalid broker now =>
      simp only [Database.step]
      split
      · split
        · exact dispatch_stay db commandId _ now
        · exact .refl db
      · exact .refl db
    | ack robotId commandId msg received =>
      simp only [Database.step, Database.handleAck]
      split
      · exact .refl db
      · split
        · exact .refl db
        · exact .of_modify rfl (fun c => c.acked_taskId msg received) fun c => c.acked_cmd msg received
    | taskStatus reporter msg received =>
      intro commandId command found
      rcases Database.handleTaskStatus_command reporter msg received found with same | ⟨_, _, _, _, advanced⟩
      · exact ⟨command, same, rfl, rfl⟩
      · exact ⟨_, advanced, rfl, rfl⟩
    | tick check timeout now => exact tick_stay check timeout now db

/-! ## The tick that verifies -/

/-- The looks at some tasks, one of which finds its pose verified. -/
theorem verifyTasks_written {check : String → Task → Option PoseCheck} {now : Time} {seen : PoseCheck}
    {rows : List (String × Task)} (nodup : (rows.map Prod.fst).Nodup) (mem : (id, task) ∈ rows)
    (looked : check id task = some seen) (verified : task.verdict seen now = .verified)
    (alone : ∀ other ∈ commandsOf db id, other = commandId)
    (found : db.commands.lookup commandId = some command) (starts : command.starts id = true)
    (done : rows.foldlM (fun db r => (check r.1 r.2).map (db.verifyTask now r.1 r.2)) db = some after) :
    commandState after commandId = some .succeeded := by
  induction rows generalizing db with
  | nil => cases mem
  | cons r rows ih =>
    obtain ⟨next, first, rest⟩ := Option.bind_eq_some_iff.mp done
    obtain ⟨check', looked', rfl⟩ := Option.map_eq_some_iff.mp first
    obtain ⟨new, others⟩ := List.nodup_cons.mp nodup
    rcases List.mem_cons.mp mem with rfl | later
    · cases Option.some.inj (looked.symm.trans looked')
      obtain ⟨newest, row, latest⟩ :=
        Table.exists_newest Command.issuedAt found (p := fun _ command => command.taskId = some id)
          (decide_eq_true (Command.starts_taskId starts))
      obtain ⟨there, belongs⟩ := Table.newest_spec latest
      obtain rfl := alone newest (mem_commandsOf.mpr ⟨row, there, of_decide_eq_true belongs⟩)
      have written : (db.verifyTask now id task seen).commands.lookup newest =
          some { command with lifecycleStatus := .succeeded, terminalAt := some now } := by
        unfold Database.verifyTask Database.latestCommand
        rw [if_pos verified, latest]
        show AList.lookup newest (Table.modify newest _ db.commands) = _
        rw [Table.lookup_modify_self, found, Option.map_some]
      have apart : ∀ r ∈ rows, id ≠ r.1 := by
        rintro r inside rfl
        exact new (List.mem_map.mpr ⟨r, inside, rfl⟩)
      unfold commandState
      rw [(verifyTasks_untouched apart rest).commands newest _ written starts]
      rfl
    · have ne : id ≠ r.1 := by
        intro same
        exact new (List.mem_map.mpr ⟨(id, task), later, same⟩)
      refine ih others later ?_ ((verifyTask_untouched ne now db r.2 check').commands _ _ found starts) rest
      intro other mem
      obtain ⟨row', there, belongs⟩ := mem_commandsOf.mp mem
      obtain ⟨row, before, task, _⟩ := verifyTask_command there
      exact alone other (mem_commandsOf.mpr ⟨row, before, task ▸ belongs⟩)

/-- **A tick that verifies the pose ends the command that started the task, if the task has no other.** -/
theorem tick_written {check : String → Task → Option PoseCheck} (timeout : Nat) {now : Time} {seen : PoseCheck}
    (passes : Passes db check) (inside : db.tasks.lookup id = some task) (verifying : task.verifying = true)
    (looked : check id task = some seen) (verified : task.verdict seen now = .verified)
    (alone : ∀ other ∈ commandsOf db id, other = commandId)
    (found : db.commands.lookup commandId = some command) (starts : command.starts id = true) :
    commandState (db.tick check timeout now) commandId = some .succeeded := by
  obtain ⟨after, done⟩ := Option.isSome_iff_exists.mp
    ((verifyTasks_isSome (db.expireCommands timeout now) check now
      (db.tasks.select fun _ task => task.verifying)).mpr passes)
  have through : db.tick check timeout now = after := by
    unfold Database.tick
    rw [show (db.expireCommands timeout now).reconcileNavigationVerification check now = some after from done]
    rfl
  have swept : (db.expireCommands timeout now).commands.lookup commandId = some (command.swept timeout now) := by
    show AList.lookup commandId (Table.update _ db.commands) = _
    rw [Table.lookup_update, found, Option.map_some]
  rw [through]
  refine verifyTasks_written (Table.nodup_select _ _) (Table.mem_select.mpr ⟨inside, verifying⟩) looked verified ?_
    swept ?_ done
  · intro other mem
    obtain ⟨row', there, belongs⟩ := mem_commandsOf.mp mem
    obtain ⟨row, before, rfl⟩ := expireCommands_command there
    rw [Command.swept_taskId] at belongs
    exact alone other (mem_commandsOf.mpr ⟨row, before, belongs⟩)
  · rw [Command.starts_congr (Command.swept_taskId ..) (Command.swept_cmd ..)]
    exact starts

end Firebot.Navigation
