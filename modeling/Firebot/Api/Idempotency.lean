import Firebot.Api.Calls

/-!
# Idempotent requests

Every endpoint that takes an `Idempotency-Key` goes the same way: it finds out under which endpoint and for
which body it is called, looks the key up, and returns the stored response where there is one. Otherwise it
does its work, stores the response with the rows of the work, commits, and does afterwards what others can
see: it deletes the leases that it has ended, sends its safety command, and announces the change.

What an endpoint does before the lookup, and its work, are what differs. `Entry` and `Work` hold them; the rest
is `serve`.
-/

namespace Firebot.Api

open Script

/-! ## The work -/

/-- The safety command that a request has to send after the commit, and the response that it stores instead
where the queue cannot be reached. -/
structure Delivery where
  payload : Payload
  unqueued : Option Response

/-- What a request has worked out when it is about to commit: its rows, the response to store, the robots whose
leases it deletes after the commit, the safety command that it sends, and the event that it announces. -/
structure Work where
  rows : List Row
  response : Response
  leases : List String
  delivery : Option Delivery
  event : Option String
  unrecorded : ∀ row ∈ rows, row.scope? = none
  delivers : ∀ d, delivery = some d → ∃ command, Row.command d.payload.commandId command ∈ rows

/-- A work after whose commit only an event is left to announce. -/
def Work.plain (rows : List Row) (response : Response) (event : Option String)
    (unrecorded : ∀ row ∈ rows, row.scope? = none) : Work where
  rows := rows
  response := response
  leases := []
  delivery := none
  event := event
  unrecorded := unrecorded
  delivers d sent := by cases sent

/-- Under which endpoint and for which body a request looks its key up, and what it does without a record. -/
structure Entry where
  endpoint : String
  body : JsonTree
  status : Nat
  work : Script Work
  quiet : work.Only Call.quiet

/-! ## The key -/

section

variable (requestHash : JsonTree → String)

/-- `lookup`. -/
def lookup (scope : Scope) (body : JsonTree) : Script (Option Record) := do
  let answer ← Process.ask (Call.lookup scope)
  let row ← check answer
  refuse (row.any fun record => record.requestHash ≠ requestHash body)
    (platformError "IDEMPOTENCY_KEY_CONFLICT" "相同 Idempotency-Key 对应不同请求内容")
  return row

/-- The record that `store` adds. -/
def Entry.record (entry : Entry) (response : Response) : Record where
  requestHash := requestHash entry.body
  responseStatus := entry.status
  response := response

/-! ## The commit and after -/

/-- `_publish_committed_events`, the deletions that were queued: the first that raises ends them. -/
def afterCommit : List String → Script Unit
  | [] => pure ()
  | robotId :: rest => do
    deleteLease robotId
    afterCommit rest

/-- What is changed when the safety command could not be queued. -/
def Delivery.changes (d : Delivery) (scope : Scope) : List Row :=
  .setLifecycle d.payload.commandId .publishedUnconfirmed "SAFETY_QUEUE_UNAVAILABLE" ::
    (d.unqueued.map (Row.setResponse scope)).toList

/-- The safety command is sent; where that raises, the command is committed once more. It returns the
response. -/
def Work.send (work : Work) (scope : Scope) : Script Response :=
  match work.delivery with
  | none => pure work.response
  | some d =>
    tryCatch (do
      enqueueSafetyCommand d.payload
      return work.response) fun _ => do
        commit (d.changes scope)
        return d.unqueued.getD work.response

/-- The event is announced. -/
def Work.announce (work : Work) : Script Unit :=
  match work.event with
  | none => pure ()
  | some type => appendEvent type

/-- A request, from the lookup on. -/
def Entry.serve (entry : Entry) (actorId key : String) : Script Response := do
  let scope : Scope := { actorId, endpoint := entry.endpoint, key }
  match ← lookup requestHash scope entry.body with
  | some record => return record.response
  | none =>
    let work ← entry.work
    commit (work.rows ++ [.record scope (entry.record requestHash work.response)])
    tryCatch (afterCommit work.leases) fun _ => pure ()
    let response ← work.send scope
    work.announce
    return response

end

/-! ## The calls of the parts -/

section

variable {α : Type} {P : Call → Prop}

@[simp] theorem only_check (r : Except Thrown α) : (check r).Only P := by
  cases r <;> trivial

@[simp] theorem only_found (e : Thrown) (row : Option α) : (found e row).Only P := by
  cases row <;> trivial

@[simp] theorem only_refuse (condition : Bool) (e : Thrown) : (refuse condition e).Only P := by
  cases condition <;> trivial

@[simp] theorem only_read (q : Query) : (read q).Only Call.quiet :=
  Process.only_bind (Process.only_ask.mpr trivial) fun _ => only_check _

@[simp] theorem only_flush : flush.Only Call.quiet :=
  Process.only_bind (Process.only_ask.mpr trivial) fun _ => only_refuse _ _

end

end Firebot.Api
