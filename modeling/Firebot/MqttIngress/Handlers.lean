import Firebot.MqttIngress.Boot
import Firebot.MqttIngress.Serialize
import Firebot.Tasks.Report

/-!
# The handlers

One for each type of message. A handler reads the document of latest values from Redis, not what the
transaction has queued, and queues the document with the message's fields merged into it.
-/

namespace Firebot.MqttIngress

open Firebot.Robots
open Firebot.Tasks (Fire Task TaskStatus Reported)

/-- The type of the event about a robot's state. -/
def stateEvent : OnlineState → String
  | .online => "vehicle.online"
  | .stale => "vehicle.stale"
  | .offline => "vehicle.offline"

/-- The document that a new one starts from. -/
def Work.identity (w : Work) : List (JsonText × JsonTree) :=
  [("vehicle_id", .str w.vehicleId), ("robot_id", .str w.vehicle.id)]

/-- `update_online`. -/
def updateOnline (m : Moment) (r : Redis) (state : OnlineState) (boot reason : JsonTree) (w : Work) :
    Work :=
  let previous := w.vehicle.robot.onlineState
  let w := w.robot fun robot => { robot with onlineState := state, lastSeenAt := some m.now }
  let latest := r.latestOr w.vehicleId w.identity
  let w := w.queue (.setLatest w.vehicleId (latest.set "online_state" (.str state.text)))
  if previous = state then w
  else
    let log := { state := state, bootId := boot, reason := reason }
    { w with vehicle := { w.vehicle with logs := w.vehicle.logs ++ [log] } }.queueEvent
      (stateEvent state)
      (.obj [("vehicle_id", .str w.vehicleId), ("state", .str state.text), ("reason", reason)])

/-! ## Telemetry -/

/-- A channel over which a message has come. -/
def Channel.received (kind : SourceKind) (source received : Time) (channel : Channel) : Channel :=
  { channel with
    support := .connected
    quality := .good
    sourceKind := kind
    lastSourceTimestamp := some source
    lastReceivedAt := some received }

section

variable (env : Env) (m : Moment) (r : Redis) (msg : JsonTree) (source : Time)

/-- The projection of a channel in a realtime event. -/
def channelTree (name : String) (kind : SourceKind) : JsonTree :=
  .obj [("channel", .str name),
    ("support_state", .str "CONNECTED"),
    ("quality", .str "GOOD"),
    ("source_kind", .str kind.text),
    ("last_source_timestamp", .str (env.isoformat source)),
    ("last_received_at", .str (env.isoformat m.received))]

/-- `touch_field_channel`. -/
def touchFieldChannel (name : String) (kind : SourceKind) (w : Work) : Work :=
  w.channel name (·.received kind source m.received)

/-- The pose fields of a location. -/
def poseProjection (mapVerified : Bool) : List (JsonText × JsonTree) :=
  let pose := msg.getD "position"
  if mapVerified then
    [("position", pose), ("x", pose.getD "x"), ("y", pose.getD "y"), ("theta", pose.getD "theta")]
  else [("diagnostic_pose", pose)]

/-- The fields a location writes into the document. -/
def locationFields (mapVerified : Bool) (w : Work) : List (JsonText × JsonTree) :=
  let identity : List (JsonText × JsonTree) :=
    w.identity.concat ("online_state", .str w.vehicle.robot.onlineState.text)
  let values : List (JsonText × JsonTree) :=
    [("linear", msg.getD "linear_speed"),
      ("angular", msg.getD "angular_speed"),
      ("linear_speed", msg.getD "linear_speed"),
      ("angular_speed", msg.getD "angular_speed"),
      ("battery", (msg.get "battery").getD w.vehicle.robot.battery),
      ("site_code", msg.getD "site_code"),
      ("map_code", msg.getD "map_code"),
      ("map_version", msg.getD "map_version"),
      ("frame_id", msg.getD "frame_id"),
      ("parking_slot_code", msg.getD "parking_slot_code"),
      ("localization_status",
        if mapVerified then (msg.get "localization_status").getD (.str "UNKNOWN")
        else .str "DEGRADED_MAP_UNVERIFIED"),
      ("map_contract_verified", .bool mapVerified),
      ("boot_id", msg.getD "boot_id"),
      ("seq", msg.getD "seq"),
      ("source_timestamp", .str (env.isoformat source)),
      ("server_received_at", .str (env.isoformat m.received))]
  identity ++ poseProjection msg mapVerified ++ values

/-- The document after a location. -/
def locationLatest (estopUnknown mapVerified : Bool) (w : Work) : JsonTree :=
  let latest := r.latestOr w.vehicleId []
  let latest := if estopUnknown then latest.erase "estop_active" else latest
  let latest :=
    if mapVerified then latest
    else (((latest.erase "position").erase "x").erase "y").erase "theta"
  latest.update (locationFields env m msg source mapVerified w)

/-- The battery of the robot after a location. -/
def locationBattery (w : Work) : Except Raised JsonTree :=
  if (msg.getD "battery").isNull then .ok w.vehicle.robot.battery
  else env.float (msg.getD "battery")

/-- The robot's row after a location. -/
def locationRobot (battery : JsonTree) (robot : Robot) : Robot :=
  { robot with
    battery := battery
    currentMapVersion := plainText (msg.getD "map_version")
    currentMapId := (plainText (msg.getD "map_code")).bind fun code =>
      (env.maps robot.siteId code).map MapRow.id }

/-- The sample of a location. -/
def telemetrySample (battery : JsonTree) : TelemetrySample where
  sourceTimestamp := source
  serverReceivedAt := m.received
  pose := msg.getD "position"
  linearSpeed := msg.getD "linear_speed"
  angularSpeed := msg.getD "angular_speed"
  battery := (msg.get "battery").getD battery
  localizationStatus := (msg.get "localization_status").getD (.str "UNKNOWN")
  mapVersion := msg.getD "map_version"
  bootId := msg.getD "boot_id"
  seq := msg.getD "seq"

/-- What a location writes, given the battery. -/
def locationWork (latest battery : JsonTree) (w : Work) : Work :=
  let w := w.queue (.setLatest w.vehicleId latest)
  let w := w.robot (locationRobot env msg battery)
  let samples :=
    if m.sampled then w.vehicle.telemetry ++ [telemetrySample m msg source battery]
    else w.vehicle.telemetry
  { w with vehicle := { w.vehicle with telemetry := samples } }.queueEvent "vehicle.location" latest

/-- `handle_location`. -/
def handleLocation (estopUnknown mapVerified : Bool) (w : Work) : Except Raised Work := do
  let latest := locationLatest env m r msg source estopUnknown mapVerified w
  let battery ← locationBattery env msg w
  return locationWork env m msg source latest battery w

/-- The robot's row after a status message. -/
def statusRobot (robot : Robot) : Robot :=
  { robot with
    currentMode :=
      match msg.get "mode" with
      | some mode => (plainText mode).getD ""
      | none => robot.currentMode
    battery := (msg.get "battery").getD robot.battery
    estopActive :=
      match msg.get "estop_active" with
      | some active => some active.truthy
      | none => robot.estopActive
    currentTaskId :=
      match msg.get "active_task_id" with
      | some task => plainText task
      | none => robot.currentTaskId }

/-- The fields a status message writes into the document. -/
def statusFields : List (JsonText × JsonTree) :=
  optionalKey "mode" (msg.get "mode") ++
  optionalKey "battery" (msg.get "battery") ++
  optionalKey "estop_active" ((msg.get "estop_active").map fun active => .bool active.truthy) ++
  optionalKey "active_task_id" (msg.get "active_task_id")

/-- `handle_status`. -/
def handleStatus (kind : SourceKind) (w : Work) : Work :=
  let w := w.robot (statusRobot msg)
  let hasBattery := (msg.get "battery").isSome
  let w := if hasBattery then touchFieldChannel m source "battery" kind w else w
  let latest := (r.latestOr w.vehicleId w.identity).update (statusFields msg)
  let w := w.queue (.setLatest w.vehicleId latest)
  w.queueEvent "vehicle.status"
    (if hasBattery then
      latest.set "data_channels" (.obj [("battery", channelTree env m source "battery" kind)])
    else latest)

/-- The fields a sensor message writes into the document. -/
def sensorFields : List (JsonText × JsonTree) :=
  let reading (name key : String) : List (JsonText × JsonTree) :=
    if (msg.getD name).isNull then [] else [(key, msg.getD name)]
  optionalKey "server_received_at" (some (.str (env.isoformat m.received))) ++
  reading "smoke" "smoke" ++
  reading "bottom_ir" "bottom_ir" ++
  reading "top_ir_max" "top_ir" ++
  reading "top_ir_max" "top_ir_max"

/-- `handle_sensor`. -/
def handleSensor (kind : SourceKind) (w : Work) : Work :=
  let hasSmoke := !(msg.getD "smoke").isNull
  let w := if hasSmoke then touchFieldChannel m source "smoke" kind w else w
  let sample : SensorSample :=
    { sourceTimestamp := source
      serverReceivedAt := m.received
      smoke := msg.getD "smoke"
      bottomIr := msg.getD "bottom_ir"
      topIrMax := msg.getD "top_ir_max"
      payload := (msg.get "payload").getD (.obj [])
      bootId := msg.getD "boot_id"
      seq := msg.getD "seq" }
  let w := { w with vehicle := { w.vehicle with sensors := w.vehicle.sensors ++ [sample] } }
  let latest := (r.latestOr w.vehicleId w.identity).update (sensorFields env m msg)
  let w := w.queue (.setLatest w.vehicleId latest)
  w.queueEvent "vehicle.sensor"
    (if hasSmoke then
      latest.set "data_channels" (.obj [("smoke", channelTree env m source "smoke" kind)])
    else latest)

/-! ## Alarms, capabilities, acknowledgements and reports -/

/-- The row of an alarm that is seen again. -/
def seenAgain (fire : Fire) : Fire :=
  { fire with
    lastSeenAt := m.received
    occurrenceCount := fire.occurrenceCount + 1
    confidence := msg.getD "confidence" }

/-- The row of a new alarm. -/
def newFire (robotId slotId fingerprint : String) : Fire where
  robotId := some robotId
  parkingSlotId := slotId
  fireType := msg.getD "fire_type"
  severity := msg.getD "severity"
  confidence := msg.getD "confidence"
  fingerprint := fingerprint
  sourceMessageId := plainText (msg.getD "message_id")
  sourceEventId := plainText (msg.getD "event_id")
  state := .new
  firstSeenAt := m.received
  lastSeenAt := m.received
  occurrenceCount := 1
  resolvedAt := none
  sourcePosition := msg.getD "position"
  mediaSnapshot := (msg.get "media").getD (.obj [])

/-- What an alarm is about. -/
inductive AlarmFate where
  | known
  | noSlot
  | again (fireId : String) (fire : Fire)
  | fresh (slotId fingerprint : String)

/-- Whether the alarm has been stored, has no parking slot, is one that is seen again, or is new. -/
def alarmFate (w : Work) : AlarmFate :=
  let fires := w.business.fires
  let messageId := plainText (msg.getD "message_id")
  let eventId := plainText (msg.getD "event_id")
  if fires.rows.any fun row => row.2.sourceMessageId.isSome && row.2.sourceMessageId = messageId then
    .known
  else
    match (plainText (msg.getD "parking_slot_code")).bind env.slots with
    | none => .noSlot
    | some slotId =>
      let fingerprint :=
        env.sha256 (w.vehicle.id ++ ":" ++ slotId ++ ":" ++
          (plainText (msg.getD "fire_type")).getD "")
      let byEvent := fires.select fun _ fire =>
        fire.robotId = some w.vehicle.id && fire.sourceEventId = eventId
      let recent := fires.select fun _ fire =>
        fire.fingerprint = fingerprint && m.received - 300 * second ≤ fire.lastSeenAt
      match byEvent ++ recent with
      | (fireId, fire) :: _ => .again fireId fire
      | [] => .fresh slotId fingerprint

/-- The row of a fire event is written. -/
def Work.putFire (id : String) (fire : Fire) (w : Work) : Work :=
  { w with business := { w.business with fires := w.business.fires.insert id fire } }

/-- `handle_alarm`. -/
def handleAlarm (w : Work) : Work :=
  match alarmFate env m msg w with
  | .known | .noSlot => w
  | .again fireId fire =>
    let fire := seenAgain m msg fire
    (w.putFire fireId fire).queueEvent "alarm.updated" (fireTree env fireId fire)
  | .fresh slotId fingerprint =>
    let fire := newFire m msg w.vehicle.id slotId fingerprint
    (w.putFire m.newId fire).queueEvent "alarm.created" (fireTree env m.newId fire)

/-- `handle_capabilities`. -/
def handleCapabilities (w : Work) : Work :=
  let capability : Capability :=
    { protocolVersion := (plainText (msg.getD "protocol_version")).getD ""
      supportedCommands := plainTexts (msg.getD "supported_commands")
      sensors := plainTexts (msg.getD "sensors")
      media := plainTexts (msg.getD "media")
      receivedAt := m.received }
  { w with vehicle := { w.vehicle with capability := some capability } }.queueEvent
    "vehicle.capabilities"
    (.obj [("vehicle_id", .str w.vehicleId),
      ("protocol_version", msg.getD "protocol_version"),
      ("supported_commands_json", msg.getD "supported_commands"),
      ("sensors_json", msg.getD "sensors"),
      ("media_json", msg.getD "media"),
      ("received_at", .str (env.isoformat m.received))])

/-- The fields of an acknowledgement. -/
def ackMessage : Server.AckMessage where
  status := (plainText (msg.getD "status")).getD ""
  reasonCode := plainText (msg.getD "reason_code")
  reason := plainText (msg.getD "reason")

/-- `handle_ack`. -/
def handleAck (w : Work) : Work :=
  let id := (plainText (msg.getD "command_id")).getD ""
  let after := w.business.handleAck w.vehicle.id id (ackMessage msg) m.received
  match w.business.commands.lookup id with
  | none => w
  | some command =>
    if command.robotId ≠ w.vehicle.id ∨ command.ackAt.isSome then w
    else
      { w with business := after }.queueEvent "command.updated"
        (commandTree env id (command.acked (ackMessage msg) m.received))

/-- The `status` of a task status message. -/
def reportedOf : String → Except Raised Reported
  | "accepted" => .ok .accepted
  | "executing" => .ok .executing
  | "completed" => .ok .completed
  | "failed" => .ok .failed
  | "cancelled" => .ok .cancelled
  | _ => .error .keyError

/-- The fields of a task status message. -/
def taskStatus (status : Reported) : TaskStatus where
  taskId := (plainText (msg.getD "task_id")).getD ""
  status := status
  phase := (plainText (msg.getD "phase")).getD ""
  progress := msg.getD "progress"
  failureCode := plainText (msg.getD "failure_code")
  failureMessage := plainText (msg.getD "failure_message")
  checkpointIndex := msg.getD "checkpoint_index"
  checkpointTotal := msg.getD "checkpoint_total"
  currentSlotCode := msg.getD "current_slot_code"
  nextSlotCode := msg.getD "next_slot_code"
  waypointIndex := msg.getD "waypoint_index"
  waypointTotal := msg.getD "waypoint_total"
  targetWaypointIndex := msg.getD "target_waypoint_index"
  lastCompletedWaypointIndex := msg.getD "last_completed_waypoint_index"

/-- The events of a report about a task. -/
def reportEvents (after : Tasks.Database) (taskId : String) : List Event :=
  match after.tasks.lookup taskId with
  | none => []
  | some task =>
    (match (task.fireEventId.filter (· ≠ "")).bind fun id =>
        (after.fires.lookup id).map fun fire => (id, fire) with
      | some (id, fire) => [("alarm.updated", fireTree env id fire)]
      | none => []) ++
    [("task.updated", taskTree env taskId task)]

/-- `handle_task_status`. -/
def handleTaskStatus (w : Work) : Except Raised Work := do
  let id := (plainText (msg.getD "task_id")).getD ""
  match w.business.tasks.lookup id with
  | none => return w
  | some task =>
    if task.robotId ≠ w.vehicle.id then return w
    else
      let status ← reportedOf ((plainText (msg.getD "status")).getD "")
      let after := w.business.handleTaskStatus w.vehicle.id (taskStatus msg status) m.received
      return { w with business := after, events := w.events ++ reportEvents env after id }

end

end Firebot.MqttIngress
