import Firebot.MqttIngress.State

/-!
# Rows as the payload of an event

`serialize_model` writes the columns of a row into a dictionary, times as ISO texts and everything else as it
is. The dictionaries here have the columns that the model's rows have.
-/

namespace Firebot.MqttIngress

open Firebot.Tasks

/-! ## The texts of the state columns -/

/-- `Task.type`. -/
def typeText : TaskType → String
  | .patrol => "PATROL"
  | .extinguish => "EXTINGUISH"
  | .returnDock => "RETURN_DOCK"
  | .navigateToPreset => "NAVIGATE_TO_PRESET"

/-- `Task.status`. -/
def statusText : TaskState → String
  | .created => "CREATED"
  | .queued => "QUEUED"
  | .accepted => "ACCEPTED"
  | .executing => "EXECUTING"
  | .succeeded => "SUCCEEDED"
  | .failed => "FAILED"
  | .cancelled => "CANCELLED"

/-- `Command.lifecycle_status`. -/
def lifecycleText : CommandState → String
  | .created => "CREATED"
  | .queued => "QUEUED"
  | .published => "PUBLISHED"
  | .publishedUnconfirmed => "PUBLISHED_UNCONFIRMED"
  | .expired => "EXPIRED"
  | .ackAccepted => "ACK_ACCEPTED"
  | .ackUnsupported => "ACK_UNSUPPORTED"
  | .ackRejected => "ACK_REJECTED"
  | .accepted => "ACCEPTED"
  | .executing => "EXECUTING"
  | .succeeded => "SUCCEEDED"
  | .failed => "FAILED"
  | .cancelled => "CANCELLED"

/-- `FireEvent.state`. -/
def fireText : FireState → String
  | .new => "NEW"
  | .acknowledged => "ACKNOWLEDGED"
  | .confirmed => "CONFIRMED"
  | .dispatched => "DISPATCHED"
  | .inProgress => "IN_PROGRESS"
  | .resolved => "RESOLVED"
  | .dismissed => "DISMISSED"
  | .closed => "CLOSED"

/-- `parameters["resume_state"]`. -/
def resumeText : ResumeState → String
  | .available => "AVAILABLE"
  | .consumedByReturn => "CONSUMED_BY_RETURN"
  | .consumedByResume => "CONSUMED_BY_RESUME"

/-! ## Columns -/

/-- A text column. -/
def textColumn : Option String → JsonTree
  | some s => .str s
  | none => .null

/-- The text of a value, without surrogates. -/
def plainText (value : JsonTree) : Option String := value.asText.bind JsonText.plain

/-- The texts of an array. -/
def plainTexts : JsonTree → List String
  | .arr values => values.filterMap plainText
  | _ => []

section

variable (env : Env)

/-- A column with a time. -/
def timeColumn : Option Time → JsonTree
  | some t => .str (env.isoformat t)
  | none => .null

/-- `parameters["live_checkpoint"]`. -/
def checkpointTree (c : Checkpoint) : JsonTree :=
  .obj [("index", c.index), ("total", c.total), ("current_slot_code", c.currentSlotCode),
    ("next_slot_code", c.nextSlotCode)]

/-- `parameters["live_route_cursor"]`. -/
def cursorTree (c : RouteCursor) : JsonTree :=
  .obj [("waypoint_index", c.waypointIndex), ("waypoint_total", c.waypointTotal),
    ("target_waypoint_index", c.targetWaypointIndex),
    ("last_completed_waypoint_index", c.lastCompletedWaypointIndex)]

/-- A key that is there where it has a value. -/
def optionalKey (name : String) : Option JsonTree → List (JsonText × JsonTree)
  | some value => [(name, value)]
  | none => []

/-- `Task.parameters_json`. -/
def parametersTree (p : Parameters) : JsonTree :=
  .obj (optionalKey "vehicle_completed_reported_at"
      (p.vehicleCompletedReportedAt.map fun t => .str (env.isoformat t)) ++
    optionalKey "pose_verification_frames" (p.poseVerificationFrames.map fun n => .int n) ++
    optionalKey "required_verification_frames" (p.requiredVerificationFrames.map fun n => .int n) ++
    optionalKey "verification_timeout_seconds" (p.verificationTimeoutSeconds.map fun n => .int n) ++
    optionalKey "live_checkpoint" (p.liveCheckpoint.map checkpointTree) ++
    optionalKey "live_route_cursor" (p.liveRouteCursor.map cursorTree) ++
    optionalKey "resume_state" (p.resumeState.map fun r => .str (resumeText r)) ++
    optionalKey "resumed_from_task_id" (p.resumedFromTaskId.map fun id => .str id))

/-- `serialize_model` of a task. -/
def taskTree (id : String) (task : Task) : JsonTree :=
  .obj [("id", .str id),
    ("robot_id", .str task.robotId),
    ("fire_event_id", textColumn task.fireEventId),
    ("type", .str (typeText task.type)),
    ("status", .str (statusText task.status)),
    ("phase", .str task.phase),
    ("progress", task.progress),
    ("parameters_json", parametersTree env task.parameters),
    ("created_at", timeColumn env (some task.createdAt)),
    ("accepted_at", timeColumn env task.acceptedAt),
    ("started_at", timeColumn env task.startedAt),
    ("completed_at", timeColumn env task.completedAt),
    ("failure_code", textColumn task.failureCode),
    ("failure_message", textColumn task.failureMessage)]

/-- `serialize_model` of a command. -/
def commandTree (id : String) (command : Command) : JsonTree :=
  .obj [("command_id", .str id),
    ("robot_id", .str command.robotId),
    ("task_id", textColumn command.taskId),
    ("cmd", .str command.cmd.text),
    ("lifecycle_status", .str (lifecycleText command.lifecycleStatus)),
    ("issued_at", timeColumn env (some command.issuedAt)),
    ("expires_at", timeColumn env (some command.expiresAt)),
    ("published_at", timeColumn env command.publishedAt),
    ("ack_at", timeColumn env command.ackAt),
    ("ack_status", textColumn command.ackStatus),
    ("ack_reason", textColumn command.ackReason),
    ("terminal_at", timeColumn env command.terminalAt)]

/-- `serialize_model` of a fire event. -/
def fireTree (id : String) (fire : Fire) : JsonTree :=
  .obj [("id", .str id),
    ("robot_id", textColumn fire.robotId),
    ("parking_slot_id", .str fire.parkingSlotId),
    ("fire_type", fire.fireType),
    ("confidence", fire.confidence),
    ("severity", fire.severity),
    ("fingerprint", .str fire.fingerprint),
    ("source_message_id", textColumn fire.sourceMessageId),
    ("source_event_id", textColumn fire.sourceEventId),
    ("state", .str (fireText fire.state)),
    ("first_seen_at", timeColumn env (some fire.firstSeenAt)),
    ("last_seen_at", timeColumn env (some fire.lastSeenAt)),
    ("occurrence_count", .int fire.occurrenceCount),
    ("resolved_at", timeColumn env fire.resolvedAt),
    ("source_position_json", fire.sourcePosition),
    ("media_snapshot_json", fire.mediaSnapshot)]

end

end Firebot.MqttIngress
