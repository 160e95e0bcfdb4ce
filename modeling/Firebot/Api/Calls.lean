import Firebot.Lib.Process
import Firebot.Manual.Model
import Firebot.Scheduler.Dispatch
import Firebot.Worker.StopOperation

/-!
# What a request calls

A request of the API runs in one session of the database: it reads, it flushes what it has added, it commits.
Beside that it reads Redis, and it writes the stream of safety commands, the keys of the manual leases and the
stream of events. `Call` is each of these; a request is a `Process` over them.

A query is answered with what it returns or raises. A call that writes may also fail after it has taken
effect, when the answer is lost on the way back (`Fate`). The response is returned by a call as well. The rows that a session has added are the argument of
the commit: until then nothing of them is seen by others.
-/

namespace Firebot.Api

open Firebot.Commands (Raised Sight)
open Firebot.Manual (Lease Session)
open Firebot.Robots (Robot)
open Firebot.Scheduler (Catalogue Plan)
open Firebot.Tasks (Cmd Command CommandState Creation Fire ResumeState RouteCursor Task TaskEvent TaskState)
open Firebot.Worker (CancelState)

/-! ## Exceptions -/

/-- What a request raises: an exception of the platform or of a store, one of HTTP, or another. -/
inductive Thrown where
  | raised (e : Raised)
  | http (status : Nat) (detail : String)
  | other
  deriving DecidableEq

/-- `raise PlatformError(code, message)`. -/
abbrev platformError (code message : String) : Thrown := .raised (.platform code message)

/-! ## Rows -/

/-- The payload of a command, as `build_command_payload` makes it. -/
structure Payload where
  commandId : String
  robotId : String
  targetBootId : Option String
  taskId : Option String
  operatorId : String
  cmd : Cmd
  priority : Nat
  issuedAt : Time
  expiresAt : Time

/-- What a `StopOperation` is inserted with. -/
structure StopRow where
  robotId : String
  bootIdSnapshot : Option String
  taskId : Option String
  cancelCommandId : Option String
  stopCommandId : String
  missionCancelState : CancelState
  requestedBy : String
  stopAckDeadlineAt : Time
  cancelDeadlineAt : Option Time
  stationaryVerifyDeadlineAt : Time

/-- What an endpoint returns: a row with `serialize_model`, a task's with the id of its command. -/
inductive Response where
  | command (id : String) (row : Command)
  | task (id : String) (row : Task) (commandId : String)
  | stopOperation (id : String) (row : StopRow)
  | fireEvent (id : String) (row : Fire)

/-- Under which an idempotency record is unique: `uq_idempotency_scope`. -/
structure Scope where
  actorId : String
  endpoint : String
  key : String
  deriving DecidableEq

/-- A row of `idempotency_records`. -/
structure Record where
  requestHash : String
  responseStatus : Nat
  response : Response

/-- A row that a session adds, or a change it makes to one that it has loaded. -/
inductive Row where
  | task (id : String) (row : Task)
  | taskEvent (row : TaskEvent)
  | command (id : String) (row : Command)
  | outboxEvent (commandId : String) (payload : Payload)
  | fireEvent (id : String) (row : Fire)
  | stopOperation (id : String) (row : StopRow)
  | operationEvent (robotId : String) (taskId : Option String)
  | audit (action resourceId : String)
  | record (scope : Scope) (record : Record)
  | setPhase (taskId phase : String)
  | setResumeState (taskId : String) (state : ResumeState)
  | assignFire (fireId taskId : String)
  | endSession (leaseId : String) (session : Session)
  | setLifecycle (commandId : String) (state : CommandState) (reason : String)
  | setResponse (scope : Scope) (response : Response)

/-- The row is a new one of the business: a task, a command, an outbox event, a fire event, a stop operation. -/
def Row.creates : Row → Bool
  | .task .. | .command .. | .outboxEvent .. | .fireEvent .. | .stopOperation .. => true
  | .taskEvent .. | .operationEvent .. | .audit .. | .record .. | .setPhase .. | .setResumeState ..
  | .assignFire .. | .endSession .. | .setLifecycle .. | .setResponse .. => false

/-- The scope whose record the row adds or changes. -/
def Row.scope? : Row → Option Scope
  | .record scope _ | .setResponse scope _ => some scope
  | _ => none

/-! ## Inputs -/

/-- `TaskInput`. -/
structure TaskInput where
  robotId : String
  targetParkingSlotId : String
  trajectoryId : Option String
  fireEventId : Option String
  parameters : List (JsonText × JsonTree)

/-- A text or `None`. -/
def optionalText : Option String → JsonTree
  | none => .null
  | some s => .str s

/-- `payload.model_dump()`. -/
def TaskInput.modelDump (input : TaskInput) : JsonTree :=
  .obj
    [ ("robot_id", .str input.robotId), ("target_parking_slot_id", .str input.targetParkingSlotId),
      ("trajectory_id", optionalText input.trajectoryId),
      ("fire_event_id", optionalText input.fireEventId), ("parameters", .obj input.parameters) ]

/-! ## Queries -/

/-- A row of `parking_slots`. -/
structure Slot where
  mapVersionId : String
  centerPose : JsonTree

/-- A row of `map_versions`. -/
structure Version where
  mapId : String
  version : String
  published : Bool
  semanticRevision : Int

/-- A row of `trajectories`. -/
structure Path where
  mapVersionId : String
  path : JsonTree

/-- A row of `navigation_presets`. -/
structure Preset where
  mapVersionId : String
  enabled : Bool
  requiresReverse : Bool
  pose : JsonTree

/-- What a request reads: the permissions of its actor, rows, the keys in Redis, ids and the clock. A sight is
what `assert_robot_can_execute` reads, and `robot:<vehicle>:latest` is read for the pose of the robot alone:
whether it is known, and whether it is in the waiting area. -/
inductive Query where
  | permitted (actorId permission : String)
  | robot (ref : String)
  | robotById (id : String)
  | sight (robotId : String) (cmd : Cmd) (ignoreTaskId : Option String)
  | lease (robotId : String)
  | leaseKeys
  | session (leaseId : String)
  | lastSeq (leaseId : String)
  | task (id : String)
  | activeTask (robotId : String)
  | newestCancelled (robotId : String)
  | fire (id : String)
  | slot (id : String)
  | version (id : String)
  | extinguishPoint (slotId : String)
  | trajectory (id : String)
  | firstPlan (robotId : String)
  | plan (id : String)
  | catalogue
  | preset (id : String)
  | reversePrecision (robotId : String)
  | fingerprint (slotId fireType : String) (now : Time)
  | cruise
  | waitingArea
  | poseKnown (robotId : String)
  | atWaiting (robotId : String)
  | routes (cursor : Option RouteCursor)
  | uuid
  | now

/-- What a query returns. -/
abbrev Query.Answer : Query → Type
  | .permitted .. => Bool
  | .robot _ => Option (String × Robot)
  | .robotById _ => Option Robot
  | .sight .. => Sight
  | .lease _ => Option Lease
  | .leaseKeys => List String
  | .session _ => Option Session
  | .lastSeq _ => Int
  | .task _ => Option Task
  | .activeTask _ => Option (String × Task)
  | .newestCancelled _ => Option (String × Task)
  | .fire _ => Option Fire
  | .slot _ => Option Slot
  | .version _ => Option Version
  | .extinguishPoint _ => Option JsonTree
  | .trajectory _ => Option Path
  | .firstPlan _ => Option Plan
  | .plan _ => Option Plan
  | .catalogue => Catalogue
  | .preset _ => Option Preset
  | .reversePrecision _ => Bool
  | .fingerprint .. => String
  | .cruise => Option Path
  | .waitingArea => Option (String × JsonTree)
  | .poseKnown _ => Bool
  | .atWaiting _ => Bool
  | .routes _ => Unit
  | .uuid => String
  | .now => Time

/-! ## Calls -/

/-- What becomes of a call that writes: it succeeds; it raises and has no effect; it raises although it has
taken effect. -/
inductive Fate where
  | done
  | failed
  | lost
  deriving DecidableEq, Repr

/-- The call has taken effect. -/
def Fate.applied : Fate → Bool
  | .done | .lost => true
  | .failed => false

/-- The call raises. -/
def Fate.raises : Fate → Bool
  | .failed | .lost => true
  | .done => false

/-- A call. -/
inductive Call where
  | read (q : Query)
  | lookup (scope : Scope)
  | flush
  | commit (rows : List Row)
  | enqueue (payload : Payload)
  | deleteLease (robotId : String)
  | appendEvent (type : String)
  | respond (response : Response)

/-- What a call answers. -/
abbrev Ans : Call → Type
  | .read q => Except Thrown q.Answer
  | .lookup _ => Except Thrown (Option Record)
  | .flush | .commit _ | .enqueue _ | .deleteLease _ | .appendEvent _ => Fate
  | .respond _ => Unit

/-- The calls that nobody else can see. -/
def Call.quiet : Call → Prop
  | .read _ | .flush => True
  | .lookup _ | .commit _ | .enqueue _ | .deleteLease _ | .appendEvent _ | .respond _ => False

/-- A program of calls. -/
abbrev Script (α : Type) : Type := Process Call Ans Thrown α

namespace Script

/-- What does not depend on a call. -/
def check {α : Type} : Except Thrown α → Script α
  | .ok a => pure a
  | .error e => throw e

/-- `if not row: raise`. -/
def found {α : Type} (e : Thrown) : Option α → Script α
  | some a => pure a
  | none => throw e

/-- `if condition: raise`. -/
def refuse (condition : Bool) (e : Thrown) : Script Unit := if condition then throw e else pure ()

/-- A query. -/
def read (q : Query) : Script q.Answer := Process.ask (Call.read q) >>= check

/-- `db.flush()`. -/
def flush : Script Unit := do
  let fate ← Process.ask Call.flush
  refuse (Fate.raises fate) (.raised .database)

/-- `db.commit()`, or the end of `SessionLocal.begin()`. -/
def commit (rows : List Row) : Script Unit := do
  let fate ← Process.ask (Call.commit rows)
  refuse (Fate.raises fate) (.raised .database)

/-- `enqueue_safety_command`. -/
def enqueueSafetyCommand (payload : Payload) : Script Unit := do
  let fate ← Process.ask (Call.enqueue payload)
  refuse (Fate.raises fate) (.raised .redis)

/-- `redis.delete` on the key of a manual lease. -/
def deleteLease (robotId : String) : Script Unit := do
  let fate ← Process.ask (Call.deleteLease robotId)
  refuse (Fate.raises fate) (.raised .redis)

/-- `append_event`. -/
def appendEvent (type : String) : Script Unit := do
  let fate ← Process.ask (Call.appendEvent type)
  refuse (Fate.raises fate) (.raised .redis)

/-- The response is returned. -/
def respond (response : Response) : Script Unit := Process.ask (Call.respond response)

end Script

end Firebot.Api
