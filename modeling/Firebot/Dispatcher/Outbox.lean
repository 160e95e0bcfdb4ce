import Mathlib.Logic.Function.Basic
import Firebot.Dispatcher.Publish
import Firebot.Lib.Run
import Firebot.Lib.Table

/-!
# The outbox

A pass of `outbox_loop` takes the oldest row that is pending, available and not locked by another dispatcher,
publishes its payload, and stores how that has ended. A row whose publish fails is put off, for a time that
doubles up to half a minute; it keeps its place by age, so that it comes first again once it is available.

The model keeps with the table which rows were given to the client, and who has waited for whom: a row waits for
one that has failed while it could have been taken itself, until it is taken, and it is overtaken if the other
one is taken again before.
-/

namespace Firebot.Dispatcher

open MqttIngress Server

/-! ## Rows -/

/-- `OutboxEvent`. -/
structure OutboxEvent where
  aggregateId : String
  payload : JsonTree
  createdAt : Time
  columns : Outbox

/-- The time for which a row is put off after so many attempts. -/
def delay (attempts : Nat) : Time := (min 30 (Nat.pow 2 (min attempts 5)) : Nat) * second

/-- What a publish makes of the row's columns. -/
def Publication.settled (publication : Publication) (endedAt : Time) (columns : Outbox) : Outbox :=
  match publication with
  | .published =>
    { columns with status := .published, publishedAt := some endedAt, attempts := columns.attempts + 1 }
  | .expired => { columns with status := .expired, lastError := some "expired" }
  | .failed error _ =>
    { columns with
      attempts := columns.attempts + 1
      lastError := some (error.text.take 500).toString
      availableAt := endedAt + delay (columns.attempts + 1) }

/-- What a publish makes of the command. -/
def Publication.ordered (publication : Publication) (endedAt : Time) (row : Row) : Row :=
  match publication with
  | .published => { row with lifecycleStatus := .published, publishedAt := some endedAt }
  | .expired => { row with lifecycleStatus := .expired, terminalAt := some endedAt }
  | .failed _ _ => row

/-- The publish has failed. -/
def Publication.fails : Publication → Bool
  | .failed _ _ => true
  | .published | .expired => false

namespace OutboxEvent

/-- `PUBLISHED` or `EXPIRED`. -/
def terminal (row : OutboxEvent) : Bool := row.columns.status ≠ .pending

/-- The row can be selected. -/
def due (row : OutboxEvent) (now : Time) : Bool := row.columns.status = .pending && row.columns.availableAt ≤ now

/-- How long the row has been available. -/
def dueFor (row : OutboxEvent) (now : Time) : Time := now - row.columns.availableAt

/-- When the row last failed. -/
def failedAt (row : OutboxEvent) : Time := row.columns.availableAt - delay row.columns.attempts

end OutboxEvent

/-! ## Passes -/

/-- A pass: when it selects, how long it takes to the expiry check and from there to the end, the row that comes
first, which rows others have locked, how the publish ends, and whether the transaction commits. -/
structure Pass where
  now : Time
  checking : Nat
  publishing : Nat
  chosen : String
  locked : String → Bool
  broker : Option Failure
  commits : Bool

/-- When the pass compares `expires_at` with the clock. -/
def Pass.checkedAt (p : Pass) : Time := p.now + p.checking

/-- When the pass stores the outcome. -/
def Pass.endedAt (p : Pass) : Time := p.checkedAt + p.publishing

/-- The tables, the rows that were given to the client, and the waiting: `waiting` has a row with the one that
has failed before it, `overtaken` those that have waited in vain. -/
structure Queue where
  rows : Table String OutboxEvent
  commands : String → Option Row
  sent : List String
  waiting : List (String × String)
  overtaken : List (String × String)

/-- What can happen: a row is inserted with its command, others change the commands, and a pass of the loop. -/
inductive OutboxStep where
  | insert (id : String) (row : OutboxEvent)
  | others (commands : String → Option Row)
  | pass (p : Pass)

namespace Queue

variable (lib : Library) (q : Queue)

/-- The tables as they are found. -/
def initial (rows : Table String OutboxEvent) (commands : String → Option Row) : Queue where
  rows := rows
  commands := commands
  sent := []
  waiting := []
  overtaken := []

/-- The rows that the query of a pass runs over. -/
def candidates (p : Pass) : List (String × OutboxEvent) :=
  q.rows.select fun id row => row.due p.now && !p.locked id

/-- The row that a pass takes: one of the oldest. -/
def selected (p : Pass) : Option OutboxEvent :=
  (q.rows.lookup p.chosen).filter fun row =>
    row.due p.now && !p.locked p.chosen && (q.candidates p).all fun other => row.createdAt ≤ other.2.createdAt

/-- How the publish of a row ends. -/
def publication (p : Pass) (row : OutboxEvent) : Publication := publishCommand lib row.payload p.checkedAt p.broker

/-- The row that a pass has taken waits for none, and those that have waited for it are overtaken; if it has
failed, the other candidates wait for it. -/
def wait (p : Pass) (fails : Bool) : Queue :=
  let others := (q.candidates p).map Prod.fst
  { q with
    waiting := q.waiting.filter (fun x => x.1 ≠ p.chosen && x.2 ≠ p.chosen) ++
      if fails then (others.filter (· ≠ p.chosen)).map fun id => (id, p.chosen) else []
    overtaken := q.overtaken ++ q.waiting.filter fun x => x.2 = p.chosen && others.contains x.1 }

/-- What a pass stores. -/
def store (p : Pass) (publication : Publication) (row : OutboxEvent) : Queue :=
  let settled (row : OutboxEvent) := { row with columns := publication.settled p.endedAt row.columns }
  let command := (q.commands row.aggregateId).map (publication.ordered p.endedAt)
  { q with
    rows := Table.modify p.chosen settled q.rows
    commands := Function.update q.commands row.aggregateId command }

/-- A pass of `outbox_loop`. -/
def pass (p : Pass) : Queue :=
  match q.selected p with
  | none => q
  | some row =>
    let publication := publication lib p row
    let q := if publication.sends then { q with sent := q.sent ++ [p.chosen] } else q
    if p.commits then (q.wait p publication.fails).store p publication row else q

/-- What happens. -/
def step : OutboxStep → Queue
  | .insert id row => if (q.rows.lookup id).isNone then { q with rows := q.rows.insert id row } else q
  | .others commands => { q with commands }
  | .pass p => q.pass lib p

/-- The queue after a run. -/
abbrev run (events : List OutboxStep) : Queue := Runs.run (step lib) q events

end Queue

/-! ## What is to hold -/

/-- Rows that are settled stay as they are and are not sent again. -/
def Kept (q q' : Queue) : Prop :=
  ∀ id row, q.rows.lookup id = some row → row.terminal = true →
    q'.rows.lookup id = some row ∧ q'.sent.count id = q.sent.count id

/-- A pass that takes a row at or after its `expires_at` settles the row, expires its command and sends
nothing. -/
def Expires (lib : Library) (q : Queue) (p : Pass) : Prop :=
  ∀ row t, q.selected p = some row → expiresAt lib row.payload = .ok t → t ≤ p.now → p.commits = true →
    (∃ after, (q.pass lib p).rows.lookup p.chosen = some after ∧ after.terminal = true) ∧
    (∀ command ∈ (q.pass lib p).commands row.aggregateId, command.lifecycleStatus = .expired) ∧
    (q.pass lib p).sent = q.sent

/-- What is to hold of a run: settled rows are kept, nobody is overtaken by a row that has failed, and what is
late expires. -/
structure Settles (lib : Library) (q : Queue) (events : List OutboxStep) : Prop where
  kept : ∀ before middle after, events = before ++ middle ++ after →
    Kept (q.run lib before) (q.run lib (before ++ middle))
  in_turn : ∀ before after, events = before ++ after → (q.run lib before).overtaken = []
  expires : ∀ before p after, events = before ++ .pass p :: after → Expires lib (q.run lib before) p

/-- When a pass takes a row that has failed, no other candidate has been available for as long as the backoff and
the time for which that row has been available; and a row that is taken late validates. -/
def Fits (lib : Library) (q : Queue) : OutboxStep → Prop
  | .insert _ _ | .others _ => True
  | .pass p => ∀ row, q.selected p = some row →
    (0 < row.columns.attempts → ∀ other ∈ q.candidates p, other.1 ≠ p.chosen →
      other.2.dueFor p.now < delay row.columns.attempts + row.dueFor p.now) ∧
    ∀ t, expiresAt lib row.payload = .ok t → t ≤ p.now → p.commits = true →
      validateMessage lib.env row.payload = .ok ()

end Firebot.Dispatcher
