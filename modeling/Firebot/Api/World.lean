import Firebot.Api.Release
import Firebot.Api.Tasks
import Firebot.Lib.Run

/-!
# Requests side by side

Any number of requests and releases are under way, and one call of one of them is answered at a time. What
they read is answered by the environment, in any way; the idempotency records, the commits, and what is
written to Redis are kept here, each with the process that it comes from.

`uq_idempotency_scope` is checked at the commit: a session with a record of a scope that has one by then does
not commit. `Stage` follows a process along its calls.
-/

namespace Firebot.Api

/-! ## How far a process has come -/

/-- How far a process has come. A request looks its key up, works, commits its rows with the record of its
scope, and answers; `committed` and `answered` have the rows and the stored response. A release works at
once, and commits at its end. -/
inductive Stage where
  | entering (actorId key : String)
  | replayed (scope : Scope) (response : Response)
  | working (scope : Scope)
  | committed (scope : Scope) (rows : List Row) (response : Response)
  | answered (scope : Scope) (rows : List Row) (response : Response)
  | releasing
  | released (rows : List Row)

namespace Stage

/-- The scope of a request that has looked its key up. -/
def scope? : Stage → Option Scope
  | .replayed scope _ | .working scope | .committed scope _ _ | .answered scope _ _ => some scope
  | .entering .. | .releasing | .released _ => none

/-- The scope whose record a request has stored. -/
def owns : Stage → Option Scope
  | .committed scope _ _ | .answered scope _ _ => some scope
  | .entering .. | .replayed .. | .working _ | .releasing | .released _ => none

/-- What the transaction has committed, once it has. -/
def rows? : Stage → Option (List Row)
  | .committed _ rows _ | .answered _ rows _ | .released rows => some rows
  | .entering .. | .replayed .. | .working _ | .releasing => none

/-- The response that may be returned. -/
def sends : Stage → Option Response
  | .replayed _ response | .committed _ _ response | .answered _ _ response => some response
  | .entering .. | .working _ | .releasing | .released _ => none

/-- Whose request it is, and its key. -/
def caller : Stage → Option (String × String)
  | .entering actorId key => some (actorId, key)
  | .replayed scope _ | .working scope | .committed scope _ _ | .answered scope _ _ =>
    some (scope.actorId, scope.key)
  | .releasing | .released _ => none

end Stage

/-- The response that a commit leaves in the record. -/
def stored (response : Response) (rows : List Row) : Response :=
  rows.foldl (fun response row =>
    match row with
    | .setResponse _ later => later
    | _ => response) response

/-- The record that the rows of a commit end with. -/
def lastRecord (rows : List Row) : Option Record :=
  match rows.getLast? with
  | some (.record _ record) => some record
  | _ => none

/-- The stage after a call has been answered. -/
def Stage.next (stage : Stage) (c : Call) (answer : Ans c) : Stage :=
  match c, stage with
  | .lookup scope, .entering actorId key =>
    match answer with
    | .error _ => .entering actorId key
    | .ok none => .working scope
    | .ok (some record) => .replayed scope record.response
  | .commit rows, .working scope =>
    match Fate.applied answer, lastRecord rows with
    | true, some record => .committed scope rows record.response
    | _, _ => .working scope
  | .commit changes, .committed scope rows response =>
    if Fate.applied answer then .committed scope (rows ++ changes) (stored response changes)
    else .committed scope rows response
  | .respond _, .committed scope rows response => .answered scope rows response
  | .commit rows, .releasing => if Fate.applied answer then .released rows else .releasing
  | _, stage => stage

/-- The calls that a stage allows. -/
def Stage.allows (stage : Stage) (c : Call) : Prop :=
  match stage, c with
  | .entering .., .read _ | .entering .., .flush => True
  | .entering actorId key, .lookup scope => scope.actorId = actorId ∧ scope.key = key
  | .replayed _ stored, .respond response => response = stored
  | .working _, .read _ | .working _, .flush => True
  | .working scope, .commit rows => ∃ before record, rows = before ++ [.record scope record] ∧
      ∀ row ∈ before, row.scope? = none
  | .committed _ rows _, .enqueue payload => ∃ command, Row.command payload.commandId command ∈ rows
  | .committed .., .deleteLease _ | .committed .., .appendEvent _ => True
  | .committed scope _ _, .commit changes => ∀ row ∈ changes, row.creates = false ∧
      (row.scope? = none ∨ ∃ response, row = .setResponse scope response)
  | .committed _ _ stored, .respond response => response = stored
  | .releasing, .commit rows => ∀ row ∈ rows, row.scope? = none
  | .releasing, .read _ | .releasing, .flush | .releasing, .enqueue _ | .releasing, .deleteLease _ => True
  | _, _ => False

/-- The order in which a process goes. -/
def discipline : Process.Discipline Call Ans Stage where
  allows := Stage.allows
  next := Stage.next

/-! ## The world -/

/-- Where a process comes from. -/
inductive Origin where
  | request (actorId key : String) (request : Request)
  | release (userId reason : String)

/-- A process under way, or over. -/
structure Running where
  origin : Origin
  stage : Stage
  process : Script Unit

/-- The idempotency records, what has been committed and by whom, what has been written to Redis and by whom,
the responses that have been returned, and the processes. -/
structure World where
  records : Scope → Option Record
  commits : List (Nat × List Row)
  stream : List (Nat × Payload)
  deletions : List (Nat × String)
  events : List (Nat × String)
  responses : List (Nat × Response)
  running : List Running

/-- What the environment answers. -/
abbrev Env := (c : Call) → Ans c

namespace World

/-- Before any request. -/
def initial : World where
  records := fun _ => none
  commits := []
  stream := []
  deletions := []
  events := []
  responses := []
  running := []

/-- What can happen: a request arrives, a release begins, one call of a process is answered, a process is
killed. -/
inductive Event where
  | arrive (actorId key : String) (request : Request)
  | release (userId reason : String)
  | go (pid : Nat) (env : Env)
  | kill (pid : Nat)

section

variable (w : World)

/-- One of the records to be inserted has a scope that has one. -/
def taken (rows : List Row) : Bool :=
  rows.any fun row =>
    match row with
    | .record scope _ => (w.records scope).isSome
    | _ => false

/-- The records after one row has been written. -/
def writeRecord (records : Scope → Option Record) : Row → Scope → Option Record
  | .record scope record => Function.update records scope (some record)
  | .setResponse scope response =>
    Function.update records scope ((records scope).map fun record => { record with response := response })
  | _ => records

/-- What a call answers: a lookup finds what is there, and a commit with a record that is taken fails. -/
def reply (env : Env) : (c : Call) → Ans c
  | .lookup scope => (env (.lookup scope)).map fun _ => w.records scope
  | .commit rows => if w.taken rows then Fate.failed else env (.commit rows)
  | .read q => env (.read q)
  | .flush => env .flush
  | .enqueue payload => env (.enqueue payload)
  | .deleteLease robotId => env (.deleteLease robotId)
  | .appendEvent type => env (.appendEvent type)
  | .respond response => env (.respond response)

/-- The call writes, and takes effect. -/
def applied (env : Env) : Call → Bool
  | .commit rows => Fate.applied (w.reply env (.commit rows))
  | .enqueue payload => Fate.applied (w.reply env (.enqueue payload))
  | .deleteLease robotId => Fate.applied (w.reply env (.deleteLease robotId))
  | .appendEvent type => Fate.applied (w.reply env (.appendEvent type))
  | .respond _ => true
  | .read _ | .flush | .lookup _ => false

/-- What a call does when it takes effect. -/
def effect (pid : Nat) : Call → World
  | .commit rows =>
    { w with records := rows.foldl writeRecord w.records, commits := w.commits ++ [(pid, rows)] }
  | .enqueue payload => { w with stream := w.stream ++ [(pid, payload)] }
  | .deleteLease robotId => { w with deletions := w.deletions ++ [(pid, robotId)] }
  | .appendEvent type => { w with events := w.events ++ [(pid, type)] }
  | .respond response => { w with responses := w.responses ++ [(pid, response)] }
  | .read _ | .flush | .lookup _ => w

/-- What is left after a call. -/
def call (pid : Nat) (env : Env) (c : Call) : World :=
  if w.applied env c then w.effect pid c else w

/-- The next call of a process is answered. -/
def go (pid : Nat) (env : Env) (x : Running) : World :=
  match x.process with
  | .ret _ | .raise _ => w
  | .call c next =>
    { w.call pid env c with
      running := w.running.set pid
        { x with stage := x.stage.next c (w.reply env c), process := next (w.reply env c) } }

end

variable (requestHash : JsonTree → String)

/-- One event. -/
def step (w : World) : Event → World
  | .arrive actorId key request =>
    { w with
      running := w.running ++
        [{ origin := .request actorId key request, stage := .entering actorId key
           process := request.serve requestHash actorId key }] }
  | .release userId reason =>
    { w with
      running := w.running ++
        [{ origin := .release userId reason, stage := .releasing
           process := releaseUserLeases userId reason }] }
  | .go pid env =>
    match w.running[pid]? with
    | none => w
    | some x => w.go pid env x
  | .kill pid =>
    match w.running[pid]? with
    | none => w
    | some x => { w with running := w.running.set pid { x with process := .raise .other } }

/-- The state after a list of events. -/
abbrev run (w : World) (events : List Event) : World := Runs.run (step requestHash) w events

end World

end Firebot.Api
