import Firebot.Api.Tasks
import Firebot.MqttIngress.Business

/-!
# What happens to fire events

A fire event is opened by an alarm of a vehicle or by an operator. Operators move it along with `transition`,
which has a table of the moves that it allows; `create_task` moves the event that a task names, and the reports
about the task move it further. These two write the state directly.

A request is one transaction here, and one action; one that is refused leaves the tables as they were.
-/

namespace Firebot.Alarms

open Firebot.Api (FireState.extinguishable)
open Firebot.MqttIngress (Call Env State deliver)
open Firebot.Tasks (Creation Database Fire FireState)

/-! ## Operators -/

/-- `allowed.get(before, set())`. -/
def allowed : FireState → List FireState
  | .new => [.acknowledged, .confirmed, .dismissed]
  | .acknowledged => [.confirmed, .dismissed]
  | .confirmed => [.resolved, .dismissed]
  | .dispatched => [.inProgress, .resolved]
  | .inProgress => [.resolved]
  | .resolved => [.closed]
  | .dismissed | .closed => []

/-- The row after a transition. -/
def transitioned (target : FireState) (now : Time) (fire : Fire) : Fire :=
  { fire with
    state := target
    resolvedAt := if target = .resolved then some now else fire.resolvedAt }

/-- `transition`. -/
def transition (alarmId : String) (target : FireState) (now : Time) (db : Database) : Database :=
  match db.fires.lookup alarmId with
  | none => db
  | some row =>
    if target ∈ allowed row.state then
      { db with fires := Table.modify alarmId (transitioned target now) db.fires }
    else db

/-- `manual_alarm`: the event is new, and of no vehicle. -/
def manualAlarm (id : String) (fire : Fire) (db : Database) : Database :=
  if db.fires.lookup id = none then
    { db with
      fires := db.fires.insert id
        { fire with robotId := none, sourceMessageId := none, sourceEventId := none, state := .new } }
  else db

/-! ## Tasks -/

/-- `create_task`: the fire event that the task names must be there, and is dispatched. -/
def createTask (c : Creation) (now : Time) (db : Database) : Database :=
  if db.fresh c.taskId c.commandId ∧ db.activeConflict c.robotId c.type.cmd = false then
    match c.fireEventId.filter (· ≠ "") with
    | none => db.create c now
    | some id =>
      if (db.fires.lookup id).isSome then
        { db.create c now with
          fires := Table.modify id (fun fire => { fire with state := .dispatched }) db.fires }
      else db
  else db

/-- `alarm_create_task`. -/
def alarmCreateTask (alarmId : String) (c : Creation) (now : Time) (db : Database) : Database :=
  match db.fires.lookup alarmId with
  | none => db
  | some alarm =>
    if FireState.extinguishable alarm.state then createTask { c with fireEventId := some alarmId } now db
    else db

/-! ## Actions -/

/-- A message reaches the ingress, or a request the API. -/
inductive Action where
  | message (c : Call)
  | transition (alarmId : String) (target : FireState) (now : Time)
  | manualAlarm (id : String) (fire : Fire)
  | createTask (c : Creation) (now : Time)
  | alarmCreateTask (alarmId : String) (c : Creation) (now : Time)

/-- The call as the database answers it: no fire event is stored under an id that is taken. -/
def answered (s : State) (c : Call) : Call :=
  if (s.business.fires.lookup c.moment.newId).isSome then
    { c with moment := { c.moment with commits := false } }
  else c

/-- A call that the database takes stores its fire event under an id of its own. -/
theorem answered_of_commits {s : State} {c : Call} (commits : (answered s c).moment.commits = true) :
    answered s c = c ∧ s.business.fires.lookup c.moment.newId = none := by
  unfold answered at commits ⊢
  split at commits
  · cases commits
  next free => exact ⟨if_neg free, Option.not_isSome_iff_eq_none.mp free⟩

/-- One action. -/
def step (env : Env) (s : State) : Action → State
  | .message c => deliver env s (answered s c)
  | .transition alarmId target now => { s with business := Alarms.transition alarmId target now s.business }
  | .manualAlarm id fire => { s with business := Alarms.manualAlarm id fire s.business }
  | .createTask c now => { s with business := Alarms.createTask c now s.business }
  | .alarmCreateTask alarmId c now =>
    { s with business := Alarms.alarmCreateTask alarmId c now s.business }

/-- The state after a list of actions. -/
abbrev run (env : Env) (s : State) (actions : List Action) : State := Runs.run (step env) s actions

end Firebot.Alarms
