import Mathlib.Data.List.Perm.Basic
import Mathlib.Logic.Function.Basic
import Firebot.Lib.Recurrence
import Firebot.Lib.Run
import Firebot.Scheduler.Dispatch

/-!
# The schedules and their occurrences

In every tick the worker tries the queued occurrences again and then runs each schedule that is due: it moves
`next_run_at` on, records one occurrence for the instant it had, and dispatches or skips it. All of it is one
transaction; a tick in which anything raises leaves nothing.

A row of `patrol_schedules` is split in two: what a dispatch reads is in the catalogue, and when the schedule
runs in its timetable. The model keeps what was recorded, in order, when each occurrence was queued, and when
queued ones were dispatched.
-/

namespace Firebot.Scheduler

open Firebot.Commands Firebot.Robots Firebot.Tasks

/-- `PatrolSchedule.misfire_policy`. -/
inductive MisfirePolicy where
  | skip
  | runIfWithinWindow
  deriving DecidableEq

/-- The columns of a schedule that say when it runs. -/
structure Timetable where
  cronExpression : String
  timezone : String
  enabled : Bool
  misfirePolicy : MisfirePolicy
  misfireGraceSeconds : Int
  nextRunAt : Option Time
  lastRunAt : Option Time

/-- The schedule is due. -/
def Timetable.due (row : Timetable) (now : Time) : Bool := row.enabled && row.nextRunAt.any (· ≤ now)

/-- The dispatch of an occurrence that was queued. -/
structure LateDispatch where
  scheduleId : String
  queuedAt : Time
  dispatchedAt : Time

/-- The tables, and what is kept of the past. -/
structure Agenda where
  catalogue : Catalogue
  timetables : Table String Timetable
  occurrences : Table String Occurrence
  db : Database
  recorded : List (String × Time)
  queuedAt : String → Time
  dispatched : List LateDispatch

/-- The transaction of a tick; a lost one is rolled back. -/
structure Turn where
  agenda : Agenda
  lost : Bool

/-- What an attempt is given: the ids it draws, the answers to its calls, and how long after the start of the
tick it looks at the clock. -/
structure Attempt where
  draw : Draw
  calls : Calls
  elapsed : Nat

/-- A tick: its time, the order in which the two queries return their rows, the id of each new occurrence, what
the attempts are given, whether a new occurrence is flushed, and whether the rest of the tick and the commit
succeed. -/
structure Tick where
  now : Time
  queued : List String
  due : List String
  newId : String → String
  attempt : String → Attempt
  flushes : String → Bool
  completes : Bool

/-- When the attempt at an occurrence looks at the clock. -/
def Tick.checkedAt (tick : Tick) (id : String) : Time := tick.now + (tick.attempt id).elapsed

/-- What can happen: a tick, or others change the tables. -/
inductive AgendaEvent where
  | tick (tick : Tick)
  | others (agenda : Agenda)

/-- `next_schedule_run`: the cron expression, the time zone and the base; `none` where it raises. -/
abbrev NextRun := String → String → Time → Option Time

/-- A new occurrence. -/
def Occurrence.new (scheduleId : String) (scheduledFor : Time) : Occurrence :=
  { scheduleId, scheduledFor, state := .pending, reasonCode := none, taskId := none }

namespace Turn

/-- `_dispatch_schedule_occurrence`. -/
def dispatch (t : Turn) (tick : Tick) (id : String) : Turn :=
  match t.agenda.occurrences.lookup id with
  | none => t
  | some before =>
    let attempt := tick.attempt id
    let now := tick.checkedAt id
    let (session, after, _) := dispatchOccurrence t.agenda.catalogue attempt.draw attempt.calls now
      { db := t.agenda.db, lost := t.lost } before
    { agenda :=
        { t.agenda with
          db := session.db
          occurrences := Table.modify id (fun _ => after) t.agenda.occurrences
          queuedAt := if after.state = .queued ∧ before.state ≠ .queued then
            Function.update t.agenda.queuedAt id now else t.agenda.queuedAt
          dispatched := t.agenda.dispatched ++ if before.state = .queued ∧ after.state = .dispatched then
            [{ scheduleId := before.scheduleId, queuedAt := t.agenda.queuedAt id, dispatchedAt := now }] else [] }
      lost := session.lost }

/-- The first loop of `run_patrol_scheduler`. -/
def retry (tick : Tick) (t : Turn) (id : String) : Turn := if t.lost then t else t.dispatch tick id

/-- An occurrence is added and flushed, unless its schedule has one for that time already. -/
def record (t : Turn) (tick : Tick) (scheduleId : String) (scheduledFor : Time) : Turn :=
  let id := tick.newId scheduleId
  let taken := t.agenda.occurrences.rows.any fun row =>
    row.2.scheduleId = scheduleId && row.2.scheduledFor = scheduledFor
  if !tick.flushes scheduleId || (t.agenda.occurrences.lookup id).isSome || taken then { t with lost := true }
  else
    { t with
      agenda := { t.agenda with
        occurrences := t.agenda.occurrences.insert id (.new scheduleId scheduledFor)
        recorded := t.agenda.recorded ++ [(scheduleId, scheduledFor)] } }

/-- The occurrence is too late. -/
def misfire (t : Turn) (id : String) : Turn :=
  { t with
    agenda := { t.agenda with
      occurrences := Table.modify id (fun o => o.put .skipped "MISFIRE_EXPIRED") t.agenda.occurrences } }

/-- The second loop of `run_patrol_scheduler`. -/
def runDue (next : NextRun) (tick : Tick) (t : Turn) (scheduleId : String) : Turn :=
  if t.lost then t
  else
    match t.agenda.timetables.lookup scheduleId with
    | none => t
    | some row =>
      match row.nextRunAt with
      | none => t
      | some scheduledFor =>
        match next row.cronExpression row.timezone scheduledFor with
        | none => { t with lost := true }
        | some nextRunAt =>
          let moved := { t with
            agenda := { t.agenda with
              timetables := Table.modify scheduleId
                (fun row => { row with nextRunAt := some nextRunAt, lastRunAt := some tick.now })
                t.agenda.timetables } }
          let recorded := moved.record tick scheduleId scheduledFor
          if recorded.lost then recorded
          else
            let delay := tick.now - scheduledFor
            let misfired := 5 * second < delay
            let allowedLate := row.misfirePolicy = .runIfWithinWindow ∧ delay ≤ row.misfireGraceSeconds * second
            if misfired ∧ ¬ allowedLate then recorded.misfire (tick.newId scheduleId)
            else recorded.dispatch tick (tick.newId scheduleId)

end Turn

/-- The instants of a schedule among the recorded ones. -/
def timesOf (recorded : List (String × Time)) (scheduleId : String) : List Time :=
  (recorded.filter fun x => x.1 = scheduleId).map Prod.snd

namespace Agenda

variable (next : NextRun) (w : Agenda)

/-- The occurrences that are queued. -/
def queuedIds : List String := (w.occurrences.select fun _ o => o.state = .queued).map Prod.fst

/-- The schedules that are due. -/
def dueIds (now : Time) : List String := (w.timetables.select fun _ row => row.due now).map Prod.fst

/-- `run_patrol_scheduler`. -/
def runPatrolScheduler (tick : Tick) : Turn :=
  tick.due.foldl (Turn.runDue next tick) (tick.queued.foldl (Turn.retry tick) { agenda := w, lost := false })

/-- What happens; a tick's queries return the rows that they ask for, in some order. -/
def step : AgendaEvent → Agenda
  | .tick tick =>
    if tick.queued.Perm w.queuedIds ∧ tick.due.Perm (w.dueIds tick.now) then
      let turn := w.runPatrolScheduler next tick
      if turn.lost || !tick.completes then w else turn.agenda
    else w
  | .others agenda =>
    { agenda with recorded := w.recorded, queuedAt := w.queuedAt, dispatched := w.dispatched }

/-- The agenda after a run. -/
abbrev run (events : List AgendaEvent) : Agenda := Runs.run (step next) w events

/-- The instants that were recorded for a schedule, in order. -/
def times (scheduleId : String) : List Time := timesOf w.recorded scheduleId

end Agenda

/-! ## What is to hold -/

/-- A schedule has caught up: what was recorded for it are the firing instants from `start` up to its
`next_run_at`, each with one occurrence; every occurrence is dispatched, skipped, rejected or queued; and none was
dispatched that had been queued for longer than it may be. -/
structure CaughtUp (fires : String → String → Time → Prop) (scheduleId : String) (start : Time) (w : Agenda) :
    Prop where
  contiguous : ∃ row stop, w.timetables.lookup scheduleId = some row ∧ row.nextRunAt = some stop ∧
    Recurrence.Contiguous (fires row.cronExpression row.timezone) start stop (w.times scheduleId)
  occurs : ∀ t, t ∈ w.times scheduleId ↔
    ∃ id o, w.occurrences.lookup id = some o ∧ o.scheduleId = scheduleId ∧ o.scheduledFor = t
  once : ∀ id id' o o', w.occurrences.lookup id = some o → w.occurrences.lookup id' = some o' →
    o.scheduleId = scheduleId → o'.scheduleId = scheduleId → o.scheduledFor = o'.scheduledFor → id = id'
  left : ∀ id o, w.occurrences.lookup id = some o → o.scheduleId = scheduleId →
    o.state = .dispatched ∨ o.state = .skipped ∨ o.state = .rejected ∨ o.state = .queued
  in_window : ∀ d ∈ w.dispatched, d.scheduleId = scheduleId →
    ∀ schedule, w.catalogue.schedules.lookup scheduleId = some schedule →
      d.dispatchedAt - d.queuedAt ≤ schedule.queueExpirySeconds * second

/-- A schedule that was created with this `next_run_at`, and has not run yet. -/
structure Created (fires : String → String → Time → Prop) (scheduleId : String) (start : Time) (w : Agenda) :
    Prop where
  timetable : ∃ row, w.timetables.lookup scheduleId = some row ∧ row.enabled = true ∧ row.nextRunAt = some start ∧
    fires row.cronExpression row.timezone start
  unrecorded : w.times scheduleId = []
  none_there : ∀ id o, w.occurrences.lookup id = some o → o.scheduleId ≠ scheduleId
  none_dispatched : ∀ d ∈ w.dispatched, d.scheduleId ≠ scheduleId

/-- Others leave the schedule and its occurrences as they are. -/
def Unedited (scheduleId : String) (w : Agenda) : AgendaEvent → Prop
  | .tick _ => True
  | .others agenda =>
    agenda.timetables.lookup scheduleId = w.timetables.lookup scheduleId ∧
      agenda.catalogue.schedules.lookup scheduleId = w.catalogue.schedules.lookup scheduleId ∧
      ∀ id o, o.scheduleId = scheduleId → (agenda.occurrences.lookup id = some o ↔ w.occurrences.lookup id = some o)

end Firebot.Scheduler
