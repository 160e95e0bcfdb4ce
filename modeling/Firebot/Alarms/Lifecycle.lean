import Firebot.Alarms.World

/-!
# The lifecycle of a fire event

`allowed` is the table of `transition`. The dispatch of a task adds the step to `dispatched`, and the end of a
task that has failed or was cancelled leads back to `confirmed`. `Forward` is a step of this lifecycle, and
`Moves` says that every event makes one, or stays.

`create_task` and the reports look at no state: they write `dispatched`, or what the report says, over a closed
event too. `Fits` is what is asked of an action instead. **The lifecycle is kept exactly by the runs whose
actions all fit** (`fire_lifecycle_iff`). Nothing is said of whether a fire that was confirmed is ever
dispatched.
-/

namespace Firebot.Alarms

open Firebot.Api (FireState.extinguishable)
open Firebot.MqttIngress (Call Committed Env Moment State Vehicle Work deliver reportedOf taskStatus textOf)
open Firebot.Tasks

/-! ## Steps of the lifecycle -/

/-- A task of the event has failed or has been cancelled. -/
def Ended (before after : Database) (id : String) : Prop :=
  ∃ taskId task task', before.tasks.lookup taskId = some task ∧
    after.tasks.lookup taskId = some task' ∧ task'.fireEventId = some id ∧
    task'.status ≠ task.status ∧ (task'.status = .failed ∨ task'.status = .cancelled)

/-- The steps of the lifecycle. -/
inductive Forward (before after : Database) (id : String) : FireState → FireState → Prop
  | stays (state : FireState) : Forward before after id state state
  | transition {state target : FireState} (listed : target ∈ allowed state) :
      Forward before after id state target
  | dispatched {state : FireState} (untreated : FireState.extinguishable state = true) :
      Forward before after id state .dispatched
  | returned {state : FireState} (treated : state = .dispatched ∨ state = .inProgress)
      (ended : Ended before after id) : Forward before after id state .confirmed

/-- Every fire event is still there, and stays as it is or moves forward. -/
def Moves (before after : Database) : Prop :=
  ∀ id fire, before.fires.lookup id = some fire →
    ∃ fire', after.fires.lookup id = some fire' ∧ Forward before after id fire.state fire'.state

section

variable {before after : Database} {id : String} {state target : FireState}

theorem forward_iff : Forward before after id state target ↔
    target = state ∨ target ∈ allowed state ∨
      target = .dispatched ∧ FireState.extinguishable state = true ∨
      target = .confirmed ∧ (state = .dispatched ∨ state = .inProgress) ∧ Ended before after id := by
  constructor
  · intro forward
    cases forward with
    | stays => exact .inl rfl
    | transition listed => exact .inr (.inl listed)
    | dispatched untreated => exact .inr (.inr (.inl ⟨rfl, untreated⟩))
    | returned treated ended => exact .inr (.inr (.inr ⟨rfl, treated, ended⟩))
  · rintro (rfl | listed | ⟨rfl, untreated⟩ | ⟨rfl, treated, ended⟩)
    · exact .stays _
    · exact .transition listed
    · exact .dispatched untreated
    · exact .returned treated ended

/-- A closed or dismissed event stays so. -/
theorem Forward.of_dead (forward : Forward before after id state target)
    (dead : state = .closed ∨ state = .dismissed) : target = state := by
  rcases dead with rfl | rfl <;> simpa [forward_iff, allowed, FireState.extinguishable] using forward

/-- A resolved event can be closed. -/
theorem Forward.of_resolved (forward : Forward before after id .resolved target) :
    target = .resolved ∨ target = .closed := by
  simpa [forward_iff, allowed, FireState.extinguishable] using forward

theorem Moves.of_fires (same : after.fires = before.fires) : Moves before after := by
  intro id fire found
  exact ⟨fire, by rw [same, found], .stays _⟩

end

/-! ## Operators -/

theorem transition_moves (alarmId : String) (target : FireState) (now : Time) (db : Database) :
    Moves db (transition alarmId target now db) := by
  unfold transition
  split
  · exact .of_fires rfl
  next row found =>
    split
    next listed =>
      intro id fire before
      by_cases same : id = alarmId
      · subst same
        cases Option.some.inj (found.symm.trans before)
        refine ⟨transitioned target now row, ?_, .transition listed⟩
        show AList.lookup _ (Table.modify _ _ _) = _
        rw [Table.lookup_modify_self, found, Option.map_some]
      · refine ⟨fire, ?_, .stays _⟩
        show AList.lookup _ (Table.modify _ _ _) = _
        rw [Table.lookup_modify_of_ne same, before]
    · exact .of_fires rfl

theorem manualAlarm_moves (id : String) (fire : Fire) (db : Database) :
    Moves db (manualAlarm id fire db) := by
  unfold manualAlarm
  split
  next unused =>
    intro id' fire' before
    exact ⟨fire', Table.lookup_insert_of_found _ unused before, .stays _⟩
  · exact .of_fires rfl

/-! ## Creation of tasks -/

/-- The creation names no fire event that has been treated or given up. -/
def CreationFits (c : Creation) (db : Database) : Prop :=
  db.fresh c.taskId c.commandId ∧ db.activeConflict c.robotId c.type.cmd = false →
    ∀ id fire, c.fireEventId.filter (· ≠ "") = some id → db.fires.lookup id = some fire →
      FireState.extinguishable fire.state = true ∨ fire.state = .dispatched

theorem createTask_moves (c : Creation) (now : Time) (db : Database) :
    Moves db (createTask c now db) ↔ CreationFits c db := by
  unfold createTask CreationFits
  split
  next free =>
    rw [forall_prop_of_true free]
    cases named : c.fireEventId.filter (· ≠ "") with
    | none =>
      refine iff_of_true (.of_fires rfl) ?_
      rintro id fire ⟨⟩
    | some id =>
      dsimp only
      cases found : db.fires.lookup id with
      | none =>
        refine iff_of_true (.of_fires rfl) ?_
        rintro id' fire ⟨⟩ there
        rw [found] at there
        cases there
      | some fire =>
        rw [if_pos Option.isSome_some]
        have after : AList.lookup id (Table.modify id (fun fire => { fire with state := .dispatched })
            db.fires) = some { fire with state := .dispatched } := by
          rw [Table.lookup_modify_self, found, Option.map_some]
        constructor
        · rintro moves id' fire' ⟨⟩ there
          cases Option.some.inj (found.symm.trans there)
          obtain ⟨fire', now, forward⟩ := moves id fire found
          cases Option.some.inj (now.symm.trans after)
          revert forward
          rw [forward_iff]
          cases fire.state <;> simp [allowed, FireState.extinguishable]
        · intro fits id' fire' before
          by_cases same : id' = id
          · subst same
            cases Option.some.inj (found.symm.trans before)
            refine ⟨_, after, ?_⟩
            rcases fits _ _ rfl found with untreated | dispatched
            · exact .dispatched untreated
            · rw [dispatched]
              exact .stays _
          · refine ⟨fire', ?_, .stays _⟩
            show AList.lookup _ (Table.modify _ _ _) = _
            rw [Table.lookup_modify_of_ne same, before]
  next taken =>
    refine iff_of_true (.of_fires rfl) ?_
    intro free
    exact absurd free taken

/-- A task that is created from an event fits it. -/
theorem alarmCreateTask_moves (alarmId : String) (c : Creation) (now : Time) (db : Database) :
    Moves db (alarmCreateTask alarmId c now db) := by
  unfold alarmCreateTask
  split
  · exact .of_fires rfl
  next alarm found =>
    split
    next untreated =>
      refine (createTask_moves _ now db).mpr ?_
      intro _ id fire named there
      obtain ⟨same, _⟩ := Option.filter_eq_some_iff.mp named
      cases Option.some.inj same
      cases Option.some.inj (found.symm.trans there)
      exact .inl untreated
    · exact .of_fires rfl

/-! ## Reports -/

/-- A task that goes from one state to another may take an event in this state along. -/
def follows (before after : TaskState) (state : FireState) : Bool :=
  match after with
  | .created | .queued => true
  | .accepted => FireState.extinguishable state || state = .dispatched
  | .executing => state = .dispatched || state = .inProgress
  | .succeeded =>
    state = .confirmed || state = .dispatched || state = .inProgress || state = .resolved
  | .failed | .cancelled =>
    FireState.extinguishable state ||
      (state = .dispatched || state = .inProgress) && decide (before ≠ after)

/-- The state that a report gives the task. -/
def stateOf (task : Task) (msg : TaskStatus) : TaskState :=
  if task.verifies msg then .executing else msg.status.internal

/-- The event of the reported task is in a state that it may leave with the task. -/
def ReportFits (db : Database) (robotId : String) (msg : TaskStatus) : Prop :=
  ∀ task id fire, db.tasks.lookup msg.taskId = some task → task.robotId = robotId →
    task.fireEventId.filter (· ≠ "") = some id → db.fires.lookup id = some fire →
    follows task.status (stateOf task msg) fire.state = true

/-- A step of the lifecycle is what a task can take an event along. -/
theorem forward_moved {before after : Database} {id : String} {state : TaskState} (fire : Fire)
    (status : TaskState) (received : Time)
    (ended : status = .failed ∨ status = .cancelled → (Ended before after id ↔ state ≠ status)) :
    Forward before after id fire.state (fire.moved status received).state ↔
      follows state status fire.state = true := by
  rw [forward_iff]
  cases status with
  | created | queued => exact iff_of_true (.inl rfl) rfl
  | accepted =>
    rw [show (fire.moved .accepted received).state = .dispatched from rfl]
    cases fire.state <;> simp [follows, allowed, FireState.extinguishable]
  | executing =>
    rw [show (fire.moved .executing received).state = .inProgress from rfl]
    cases fire.state <;> simp [follows, allowed, FireState.extinguishable]
  | succeeded =>
    rw [show (fire.moved .succeeded received).state = .resolved from rfl]
    cases fire.state <;> simp [follows, allowed, FireState.extinguishable]
  | failed =>
    rw [show (fire.moved .failed received).state = .confirmed from rfl, ended (.inl rfl)]
    cases fire.state <;> simp [follows, allowed, FireState.extinguishable]
  | cancelled =>
    rw [show (fire.moved .cancelled received).state = .confirmed from rfl, ended (.inr rfl)]
    cases fire.state <;> simp [follows, allowed, FireState.extinguishable]

/-- A report ends a task of the event if it changes the state of the task that it is about. -/
theorem ended_iff {db : Database} {robotId : String} {task : Task} {msg : TaskStatus} {id : String}
    (received : Time) (found : db.tasks.lookup msg.taskId = some task) (own : task.robotId = robotId)
    (named : task.fireEventId = some id) (final : stateOf task msg = .failed ∨ stateOf task msg = .cancelled) :
    Ended db (db.handleTaskStatus robotId msg received) id ↔ task.status ≠ stateOf task msg := by
  constructor
  · rintro ⟨taskId, row, row', before, after, _, changed, _⟩
    obtain ⟨row'', after', status, _⟩ := Database.handleTaskStatus_task robotId msg received before
    cases Option.some.inj (after.symm.trans after')
    by_cases concerned : msg.concerns robotId taskId row
    · rw [concerned.1] at before
      cases Option.some.inj (before.symm.trans found)
      rw [status, if_pos concerned, Task.reported_status] at changed
      exact Ne.symm changed
    · rw [if_neg concerned] at status
      exact absurd status changed
  · intro changed
    obtain ⟨row, consumed, after⟩ := Database.handleTaskStatus_row robotId msg received found
    rw [if_pos ⟨rfl, own⟩] at after
    have status : (row.reported msg received).status = stateOf task msg := by
      rw [Task.reported_status]
      rcases consumed with rfl | rfl
      · rfl
      · simp [stateOf, Task.verifies]
    have event : (row.reported msg received).fireEventId = some id := by
      rw [Task.reported_fireEventId]
      rcases consumed with rfl | rfl
      · exact named
      · rw [Task.consumed_fireEventId, named]
    refine ⟨_, _, _, found, after, event, ?_, ?_⟩
    · rw [status]
      exact Ne.symm changed
    · rw [status]
      exact final

theorem handleTaskStatus_moves (db : Database) (robotId : String) (msg : TaskStatus) (received : Time) :
    Moves db (db.handleTaskStatus robotId msg received) ↔ ReportFits db robotId msg := by
  by_cases about : ∃ task, db.tasks.lookup msg.taskId = some task ∧ task.robotId = robotId
  · obtain ⟨task, found, own⟩ := about
    have fires := Database.handleTaskStatus_fire received found own
    rw [Task.reported_status] at fires
    have moved : ∀ (id : String) (fire : Fire), task.fireEventId.filter (· ≠ "") = some id →
        (Forward db (db.handleTaskStatus robotId msg received) id fire.state
          (fire.moved (stateOf task msg) received).state ↔
            follows task.status (stateOf task msg) fire.state = true) := by
      intro id fire named
      refine forward_moved fire _ received fun final => ?_
      exact ended_iff received found own (Option.filter_eq_some_iff.mp named).1 final
    constructor
    · intro moves task' id fire found' _ named there
      cases Option.some.inj (found.symm.trans found')
      obtain ⟨fire', after, forward⟩ := moves id fire there
      rw [fires, if_pos named, there, Option.map_some] at after
      cases Option.some.inj after
      exact (moved id fire named).mp forward
    · intro fits id fire before
      by_cases named : task.fireEventId.filter (· ≠ "") = some id
      · refine ⟨_, ?_, (moved id fire named).mpr (fits task id fire found own named before)⟩
        rw [fires, if_pos named, before]
        rfl
      · refine ⟨fire, ?_, .stays _⟩
        rw [fires, if_neg named, before]
  · have foreign : ∀ task, db.tasks.lookup msg.taskId = some task → task.robotId ≠ robotId :=
      fun task found own => about ⟨task, found, own⟩
    rw [Database.handleTaskStatus_foreign received foreign]
    refine iff_of_true (.of_fires rfl) ?_
    intro task _ _ found own
    exact absurd own (foreign task found)

/-! ## Messages -/

/-- An alarm opens an event under a new id, or leaves the states as they are. -/
theorem handleAlarm_moves {env : Env} {m : Moment} {msg : JsonTree} {w : Work}
    (unused : w.business.fires.lookup m.newId = none) :
    Moves w.business (MqttIngress.handleAlarm env m msg w).business := by
  unfold MqttIngress.handleAlarm
  split
  · exact .of_fires rfl
  · exact .of_fires rfl
  next fireId row fate =>
    intro id fire before
    by_cases same : id = fireId
    · subst same
      refine ⟨MqttIngress.seenAgain m msg row, AList.lookup_insert _, ?_⟩
      cases Option.some.inj (before.symm.trans (MqttIngress.alarmFate_again fate).1)
      exact .stays _
    · refine ⟨fire, ?_, .stays _⟩
      show AList.lookup _ (AList.insert _ _ _) = _
      rw [AList.lookup_insert_ne same, before]
  · intro id fire before
    exact ⟨fire, Table.lookup_insert_of_found _ unused before, .stays _⟩

/-- The report that a call commits fits. -/
def MessageFits (env : Env) (s : State) (c : Call) : Prop :=
  ∀ msg vehicle source w₀ w status,
    Committed env c.moment c.topic c.payload s msg vehicle source w₀ w →
    textOf msg "type" = "task_status" → reportedOf (textOf msg "status") = .ok status →
    ReportFits s.business vehicle.id (taskStatus msg status)

theorem message_moves (env : Env) (s : State) (c : Call)
    (unused : c.moment.commits = true → s.business.fires.lookup c.moment.newId = none) :
    Moves s.business (deliver env s c).business ↔ MessageFits env s c := by
  constructor
  · intro moves msg vehicle source w₀ w status call type read
    rw [call.deliver_business (by rw [type]; decide), call.report type read,
      handleTaskStatus_moves] at moves
    exact moves
  · intro fits
    rcases MqttIngress.deliver_business env s c with same | ⟨msg, vehicle, source, w₀, w, call, after⟩
    · rw [same]
      exact .of_fires rfl
    · rw [after]
      have reached := call.reached
      generalize w.business = db at reached
      cases reached with
      | same => exact .of_fires rfl
      | alarm w₁ _ business _ =>
        rw [← business]
        refine handleAlarm_moves ?_
        rw [business]
        exact unused call.commits
      | ack => exact .of_fires (Database.handleAck_fires ..)
      | report status type read =>
        exact (handleTaskStatus_moves ..).mpr (fits msg vehicle source w₀ w status call type read)

/-! ## Runs -/

/-- A created task names an event that waits for one, and a report comes before its event has been closed. -/
def Fits (env : Env) (s : State) : Action → Prop
  | .message c => MessageFits env s (answered s c)
  | .createTask c _ => CreationFits c s.business
  | .transition .. | .manualAlarm .. | .alarmCreateTask .. => True

theorem step_moves (env : Env) (s : State) (action : Action) :
    Moves s.business (step env s action).business ↔ Fits env s action := by
  cases action with
  | message c =>
    refine message_moves env s (answered s c) ?_
    intro commits
    obtain ⟨same, unused⟩ := answered_of_commits commits
    rw [same]
    exact unused
  | transition alarmId target now => exact iff_of_true (transition_moves alarmId target now _) trivial
  | manualAlarm id fire => exact iff_of_true (manualAlarm_moves id fire _) trivial
  | createTask c now => exact createTask_moves c now _
  | alarmCreateTask alarmId c now => exact iff_of_true (alarmCreateTask_moves alarmId c now _) trivial

/-- The fire events of a run keep to the lifecycle: none leaves it in a step, and over any stretch a closed or
dismissed one stays so, and a resolved one stays so or is closed. -/
structure FireLifecycle (env : Env) (s : State) (actions : List Action) : Prop where
  forward : ∀ before action after, actions = before ++ action :: after →
    Moves (run env s before).business (step env (run env s before) action).business
  dead : ∀ before middle after id fire, actions = before ++ middle ++ after →
    (run env s before).business.fires.lookup id = some fire →
    fire.state = .closed ∨ fire.state = .dismissed →
    ∃ fire', (run env s (before ++ middle)).business.fires.lookup id = some fire' ∧
      fire'.state = fire.state
  resolved : ∀ before middle after id fire, actions = before ++ middle ++ after →
    (run env s before).business.fires.lookup id = some fire → fire.state = .resolved →
    ∃ fire', (run env s (before ++ middle)).business.fires.lookup id = some fire' ∧
      (fire'.state = .resolved ∨ fire'.state = .closed)

/-- A fact about the state of an event that no step of the lifecycle ends holds on. -/
theorem held {env : Env} {s : State} {actions : List Action} {P : FireState → Prop}
    (kept : ∀ {before after id state target}, Forward before after id state target → P state → P target)
    (moves : Runs.Meets (step env) (fun s action => Moves s.business (step env s action).business) s actions)
    {id : String} {fire : Fire} (found : s.business.fires.lookup id = some fire) (holds : P fire.state) :
    ∃ fire', (run env s actions).business.fires.lookup id = some fire' ∧ P fire'.state := by
  refine Runs.invariant (I := fun s => ∃ fire, s.business.fires.lookup id = some fire ∧ P fire.state)
    ?_ ⟨fire, found, holds⟩ moves
  rintro s action ⟨fire, found, holds⟩ step
  obtain ⟨fire', after, forward⟩ := step id fire found
  exact ⟨fire', after, kept forward holds⟩

/-- The lifecycle is kept exactly by the runs whose actions all fit. -/
theorem fire_lifecycle_iff (env : Env) (s : State) (actions : List Action) :
    FireLifecycle env s actions ↔ Runs.Meets (step env) (Fits env) s actions := by
  have moves : Runs.Meets (step env) (fun s action => Moves s.business (step env s action).business) s
      actions ↔ Runs.Meets (step env) (Fits env) s actions :=
    Runs.meets_congr (I := fun _ => True) (fun _ _ _ => trivial) (fun s a _ => step_moves env s a) trivial
      actions
  rw [← moves]
  constructor
  · intro lifecycle
    exact Runs.meets_iff.mpr lifecycle.forward
  · intro met
    have stretch : ∀ before middle after, actions = before ++ middle ++ after →
        Runs.Meets (step env) (fun s action => Moves s.business (step env s action).business)
          (run env s before) middle := by
      intro before middle after split
      rw [split, Runs.meets_append, Runs.meets_append] at met
      exact met.1.2
    refine ⟨Runs.meets_iff.mp met, ?_, ?_⟩
    · intro before middle after id fire split found dead
      rw [show run env s (before ++ middle) = run env (run env s before) middle from Runs.run_append ..]
      refine held (P := fun state => state = fire.state) ?_ (stretch before middle after split) found rfl
      intro _ _ _ state target forward same
      rw [← same] at dead ⊢
      exact forward.of_dead dead
    · intro before middle after id fire split found resolved
      rw [show run env s (before ++ middle) = run env (run env s before) middle from Runs.run_append ..]
      refine held (P := fun state => state = .resolved ∨ state = .closed) ?_
        (stretch before middle after split) found (.inl resolved)
      rintro _ _ _ state target forward (rfl | rfl)
      · exact forward.of_resolved
      · exact .inr (forward.of_dead (.inl rfl))

/-! ## A dismissed event is dispatched -/

/-- A false alarm of an operator. -/
def falseAlarm : Fire where
  robotId := none
  parkingSlotId := "P1"
  fireType := .str "SMOKE"
  severity := .str "HIGH"
  confidence := .null
  fingerprint := "manual"
  sourceMessageId := none
  sourceEventId := none
  state := .new
  firstSeenAt := 0
  lastSeenAt := 0
  occurrenceCount := 1
  resolvedAt := none
  sourcePosition := .null
  mediaSnapshot := .null

/-- An extinguishing task that names the event `F1`. -/
def extinguishing : Creation where
  taskId := "T1"
  commandId := "C1"
  robotId := "R1"
  fireEventId := some "F1"
  type := .extinguish
  phase := "CREATED"
  parameters := .empty
  expiresAt := 1

/-- The alarm is raised and dismissed, and a task is created that names it. -/
def falseAlarmRun : List Action :=
  [.manualAlarm "F1" falseAlarm, .transition "F1" .dismissed 0, .createTask extinguishing 0]

/-- A dismissed event is dispatched by a task that names it. -/
theorem dismissed_dispatched :
    ¬ ∀ (env : Env) (s : State) (actions : List Action), FireLifecycle env s actions := by
  intro all
  have lifecycle := all (.knowing [] []) .empty falseAlarmRun
  have dismissed : (run (.knowing [] []) .empty (falseAlarmRun.take 2)).business.fires.lookup "F1" =
      some { falseAlarm with state := .dismissed } := rfl
  have dispatched : (run (.knowing [] []) .empty falseAlarmRun).business.fires.lookup "F1" =
      some { falseAlarm with state := .dispatched } := rfl
  obtain ⟨fire, after, same⟩ :=
    lifecycle.dead (falseAlarmRun.take 2) (falseAlarmRun.drop 2) [] "F1" _ rfl dismissed (.inr rfl)
  cases Option.some.inj (after.symm.trans dispatched)
  cases same

end Firebot.Alarms
