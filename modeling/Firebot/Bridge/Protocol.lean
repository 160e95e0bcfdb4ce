import Firebot.Data.Json

/-!
# The Bridge's protocol: messages, sequence numbers, command validation

The vehicle Bridge builds every message it sends on `vehicleBase` (`Protocol.base`), which numbers
the messages of one type upwards from one, and checks every command it receives
(`validateCommand`, then `validateReceivedCommand` for task ids and declared capabilities).

A command is the dictionary the MQTT callback decoded: a field that is absent is `none`, and the
validator tells it from one that is `null`. Only the fields that the Bridge or the control adapter
looks at carry values; the other required ones are kept because their presence is checked.
-/

namespace Firebot.Bridge

/-! ## Commands -/

/-- `COMMAND_ENUM`. -/
inductive Cmd where
  | manualControl
  | stopMotion
  | emergencyStop
  | resetEstop
  | returnDock
  | patrol
  | extinguish
  | cancelTask
  deriving DecidableEq, Repr

/-- The spelling of a command on the wire. -/
def Cmd.wire : Cmd → String
  | .manualControl => "manual_control"
  | .stopMotion => "stop_motion"
  | .emergencyStop => "emergency_stop"
  | .resetEstop => "reset_estop"
  | .returnDock => "return_dock"
  | .patrol => "patrol"
  | .extinguish => "extinguish"
  | .cancelTask => "cancel_task"

/-- `COMMAND_ENUM` as the collection the validator searches. -/
def commandEnum : List Cmd :=
  [.manualControl, .stopMotion, .emergencyStop, .resetEstop, .returnDock, .patrol, .extinguish,
    .cancelTask]

/-- The command a JSON value names, if it is in `COMMAND_ENUM`. -/
def Cmd.ofJson (value : Json) : Option Cmd := commandEnum.find? fun c => value = .str c.wire

/-- `TASK_CMDS`: the commands that need a task id and hold the task lock. -/
def Cmd.isTask : Cmd → Bool
  | .patrol | .returnDock | .extinguish => true
  | _ => false

/-- A `command_id`, up to the equality Python's dictionaries use: a hashable JSON value. An array or
an object is no key, and the handlers raise on it before they change anything. -/
inductive CommandId where
  | null
  | text (s : String)
  | number (q : ℚ)
  deriving DecidableEq

/-- The pose `float()` makes of a waypoint's `x`, `y` and `theta`. -/
structure Pose where
  x : ℚ
  y : ℚ
  theta : ℚ
  deriving DecidableEq

/-- One entry of a patrol command's trajectory. `pose` is `none` where `float()` raises on one of
the coordinates. -/
inductive Waypoint where
  | dict (kind : Json) (pose : Option Pose)
  | other
  deriving DecidableEq

/-- A command's `params`: an object whose `trajectory` is a list (empty where it is absent or falsy), or
a value that is no object. An object whose `trajectory` is neither a list nor falsy is given as a
truthy `other`: the adapter raises on both before it publishes anything. -/
inductive Params where
  | object (trajectory : List Waypoint)
  | other (value : Json)
  deriving DecidableEq

/-- A decoded downlink command. -/
structure Command where
  schemaVersion : Option Json
  messageId : Option Json
  type : Option Json
  vehicleId : Option Json
  targetBootId : Option Json
  commandId : Option CommandId
  correlationId : Option Json
  issuedAt : Option Json
  expiresAt : Option Json
  ttlMs : Option Json
  priority : Option Json
  source : Option Json
  operatorId : Option Json
  cmd : Option Json
  params : Option Params
  taskId : Option Json
  deriving DecidableEq

namespace Command

/-- `COMMAND_REQUIRED_FIELDS`, each as the test `field in command`. -/
def requiredFields (c : Command) : List Bool :=
  [c.schemaVersion.isSome, c.messageId.isSome, c.type.isSome, c.vehicleId.isSome,
    c.targetBootId.isSome, c.commandId.isSome, c.correlationId.isSome, c.issuedAt.isSome,
    c.expiresAt.isSome, c.ttlMs.isSome, c.priority.isSome, c.source.isSome, c.operatorId.isSome,
    c.cmd.isSome, c.params.isSome]

/-- `command.get("command_id")`. -/
def id (c : Command) : CommandId := c.commandId.getD .null

/-- `command.get("task_id")`. -/
def task (c : Command) : Json := c.taskId.getD .null

/-- `command.get("cmd")`, as the command it names. -/
def kind (c : Command) : Option Cmd := Cmd.ofJson (c.cmd.getD .null)

/-- `command.get("cmd") in TASK_CMDS`. -/
def isTask (c : Command) : Bool :=
  match c.kind with
  | some cmd => cmd.isTask
  | none => false

end Command

/-- `str(command.get("schema_version", ""))` is one of the supported versions. The float `1.2`
prints as `"1.2"`. -/
def supportedVersion : Option Json → Bool
  | some (.str s) => s == "1.2" || s == "1.3"
  | some (.real q) => q == 6 / 5 || q == 13 / 10
  | _ => false

/-- What a validator answers: `error` when it raises, `ok none` for `(True, None)`, `ok (some r)`
for `(False, r)`. -/
abbrev Verdict := Except Unit (Option String)

/-- `validate_command`. The expiry is inside a `try`: anything that is not an aware instant in the
future or the past is an invalid message. A list or an object as `cmd` is not hashable, so the
membership test raises. -/
def validateCommand (c : Command) (currentBootId : String) (now : Time) : Verdict :=
  if !supportedVersion c.schemaVersion then .ok (some "PROTOCOL_VERSION_UNSUPPORTED")
  else if !c.requiredFields.all (· = true) then .ok (some "INVALID_PROTOCOL_MESSAGE")
  else if c.type ≠ some (.str "command") then .ok (some "INVALID_PROTOCOL_MESSAGE")
  else match c.cmd.getD .null with
  | .compound _ => .error ()
  | cmd =>
    match Cmd.ofJson cmd with
    | none => .ok (some "COMMAND_UNSUPPORTED")
    | some kind =>
      match c.expiresAt.getD .null with
      | .instant expires =>
        if expires ≤ now then .ok (some "COMMAND_EXPIRED")
        else if kind = .emergencyStop then
          if c.targetBootId.getD .null ∈ [.null, .str currentBootId] then .ok none
          else .ok (some "ROBOT_BOOT_SESSION_UNKNOWN")
        else if c.targetBootId.getD .null ≠ .str currentBootId then
          .ok (some "ROBOT_BOOT_SESSION_UNKNOWN")
        else .ok none
      | _ => .ok (some "INVALID_PROTOCOL_MESSAGE")

/-- The configuration the command path reads. -/
structure Config where
  bridgeStubMode : Bool
  stubSimulateFeedback : Bool
  stubFeedbackSimulation : String
  feedbackTimeout : Nat
  supportedCommands : List Cmd
  deriving DecidableEq

/-- `validate_received_command`. -/
def validateReceivedCommand (c : Command) (bootId : String) (config : Config) (now : Time) :
    Verdict :=
  match validateCommand c bootId now with
  | .error e => .error e
  | .ok (some reason) => .ok (some reason)
  | .ok none =>
    if c.isTask && !c.task.truthy then .ok (some "INVALID_PROTOCOL_MESSAGE")
    else if !config.bridgeStubMode && !(c.kind.any (· ∈ config.supportedCommands)) then
      .ok (some "COMMAND_UNSUPPORTED")
    else .ok none

/-- An accepted task command names a task. -/
theorem task_truthy_of_accepted {c : Command} {bootId : String} {config : Config} {now : Time}
    (accepted : validateReceivedCommand c bootId config now = .ok none) (task : c.isTask = true) :
    c.task.truthy = true := by
  unfold validateReceivedCommand at accepted
  split at accepted
  · cases accepted
  · cases accepted
  · split at accepted
    · cases accepted
    · next h =>
      simp only [task, Bool.true_and, Bool.not_eq_true', Bool.not_eq_false] at h
      exact h

/-! ## Messages -/

/-- The two kinds of report the command path sends. -/
inductive MsgType where
  | commandAck
  | taskStatus
  deriving DecidableEq, Repr

/-- `vehicleBase`: `message_id` is the number of the UUID drawn. -/
structure Header where
  type : MsgType
  messageId : Nat
  vehicleId : String
  bootId : String
  timestamp : Time
  seq : Nat
  deriving DecidableEq, Repr

/-- `status` of a `command_ack`. -/
inductive AckStatus where
  | accepted
  | rejected
  deriving DecidableEq, Repr

/-- `status` of a `task_status`. -/
inductive ReportStatus where
  | accepted
  | executing
  | completed
  | failed
  | cancelled
  deriving DecidableEq, Repr

/-- A `command_ack` message. -/
structure CommandAck where
  header : Header
  commandId : CommandId
  taskId : Json
  status : AckStatus
  reasonCode : Json
  reason : Json
  deriving DecidableEq

/-- A `task_status` message. -/
structure TaskReport where
  header : Header
  taskId : Json
  status : ReportStatus
  phase : Json
  progress : Json
  failureCode : Json
  failureMessage : Json
  deriving DecidableEq

/-- What the Bridge hands to its MQTT client. -/
inductive Message where
  | commandAck (ack : CommandAck)
  | taskStatus (report : TaskReport)
  deriving DecidableEq

/-- `Protocol`: the counters of the sequence numbers and of the UUIDs drawn. -/
structure Protocol where
  vehicleId : String
  bootId : String
  seq : MsgType → Nat
  drawn : Nat

namespace Protocol

/-- `Protocol.next_seq`, as the protocol after it. -/
def nextSeq (p : Protocol) (type : MsgType) : Protocol :=
  { p with seq := fun t => if t = type then p.seq t + 1 else p.seq t }

/-- `Protocol.base`: the header of the next message of a type, and the protocol after it. -/
def base (p : Protocol) (type : MsgType) (now : Time) : Header × Protocol :=
  let after := { p.nextSeq type with drawn := p.drawn + 1 }
  ({ type, messageId := p.drawn, vehicleId := p.vehicleId, bootId := p.bootId, timestamp := now,
     seq := after.seq type }, after)

@[simp] theorem base_header_seq (p : Protocol) (type : MsgType) (now : Time) :
    (p.base type now).1.seq = p.seq type + 1 := if_pos rfl

@[simp] theorem base_seq_self (p : Protocol) (type : MsgType) (now : Time) :
    (p.base type now).2.seq type = p.seq type + 1 := if_pos rfl

theorem base_seq_ne (p : Protocol) {type other : MsgType} (now : Time) (h : other ≠ type) :
    (p.base type now).2.seq other = p.seq other := if_neg h

end Protocol

end Firebot.Bridge
