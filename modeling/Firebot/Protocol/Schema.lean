import Firebot.Lib.JsonSchema

/-!
# The message schemas

`firebot-message-1.2.schema.json` and `firebot-message-1.3.schema.json`, which the server checks every
message against. The two differ in what a status and a sensor message have to carry, in the progress
fields of a task status, and in two lists of texts.

The validator knows no checker for the format `date-time`, so that format accepts every text; the checker
of the format `uuid` is a parameter.
-/

namespace Firebot.Protocol

open JsonSchema

/-- `SUPPORTED_SCHEMA_VERSIONS`. -/
inductive SchemaVersion where
  | v12
  | v13
  deriving DecidableEq, Repr

/-- The text of `schema_version`. -/
def SchemaVersion.text : SchemaVersion → String
  | .v12 => "1.2"
  | .v13 => "1.3"

/-! ## Parts -/

/-- A letter, a digit, `_` or `-`. -/
def isIdChar (c : Char) : Bool := c.isAlphanum || c == '_' || c == '-'

/-- `^[A-Za-z0-9_-]{1,64}$`; the `$` also matches before a newline at the end. -/
def vehicleIdPattern : JsonText → Bool
  | .chars s =>
    let chars := if s.toList.getLast? = some '\n' then s.toList.dropLast else s.toList
    0 < chars.length && chars.length ≤ 64 && chars.all isIdChar
  | .surrogates _ => false

/-- `"type": "string"`. -/
def text : JsonSchema := kinds [.string]

/-- A text that may be `null`. -/
def nullableText : JsonSchema := kinds [.string, .null]

/-- An integer that may be `null`. -/
def nullableInteger : JsonSchema := kinds [.integer, .null]

/-- A text of at least one character. -/
def nonEmpty : JsonSchema := allOf [kinds [.string], minLength 1]

/-- A number between two bounds. -/
def between (low high : ℚ) : JsonSchema := allOf [kinds [.number], minimum low, maximum high]

/-- `"type": "integer", "minimum": 0`. -/
def natural : JsonSchema := allOf [kinds [.integer], minimum 0]

/-- `"format": "date-time"`. -/
def dateTime : JsonSchema := allOf [kinds [.string], format fun _ => true]

/-- An array of different texts. -/
def texts : JsonSchema := allOf [kinds [.array], items text, uniqueTexts]

section

variable (uuid : JsonText → Bool) (version : SchemaVersion)

/-- `"format": "uuid"`. -/
def uuidText : JsonSchema := allOf [kinds [.string], format uuid]

/-- `vehicleBase`. -/
def vehicleBase : JsonSchema :=
  object ["schema_version", "message_id", "type", "vehicle_id", "boot_id", "timestamp", "seq"]
    [("schema_version", const version.text),
     ("message_id", uuidText uuid),
     ("type", text),
     ("vehicle_id", allOf [kinds [.string], pattern vehicleIdPattern]),
     ("boot_id", uuidText uuid),
     ("timestamp", dateTime),
     ("seq", natural)]

/-- `pose`. -/
def pose : JsonSchema :=
  allOf [object ["x", "y", "theta"]
      [("x", kinds [.number]), ("y", kinds [.number]), ("theta", kinds [.number])],
    closed ["x", "y", "theta"]]

/-- A message of a vehicle: what every message has, what its type has to have, and what else its type asks
for. -/
def vehicleMessage (type : String) (names : List String) (properties : List (String × JsonSchema))
    (more : List JsonSchema) : JsonSchema :=
  allOf (vehicleBase uuid version :: object names (("type", const type) :: properties) :: more)

/-! ## Message types -/

/-- `location`. -/
def location : JsonSchema :=
  vehicleMessage uuid version "location"
    ["position", "site_code", "map_code", "map_version", "map_checksum", "frame_id"]
    [("position", pose),
     ("linear_speed", kinds [.number]),
     ("angular_speed", kinds [.number]),
     ("battery", between 0 100),
     ("site_code", nonEmpty),
     ("map_code", nonEmpty),
     ("map_version", nonEmpty),
     ("map_checksum", allOf [kinds [.string], minLength 8, maxLength 128]),
     ("frame_id", const "map"),
     ("parking_slot_code", nullableText),
     ("localization_status", text)] []

/-- `status`. -/
def status : JsonSchema :=
  vehicleMessage uuid version "status"
    (match version with
      | .v12 => ["mode", "battery", "estop_active"]
      | .v13 => [])
    [("mode", enum false ["IDLE", "MANUAL", "PATROL", "EXTINGUISH", "RETURN_DOCK", "ESTOP"]),
     ("battery", between 0 100),
     ("estop_active", kinds [.boolean]),
     ("active_task_id", nullableText),
     ("network_rssi", kinds [.number, .null])] []

/-- `sensor`. -/
def sensor : JsonSchema :=
  vehicleMessage uuid version "sensor"
    (match version with
      | .v12 => ["smoke", "bottom_ir", "top_ir_max"]
      | .v13 => [])
    [("smoke", kinds [.number]),
     ("bottom_ir", kinds [.number]),
     ("top_ir_max", kinds [.number]),
     ("payload", kinds [.object])]
    (match version with
      | .v12 => []
      | .v13 => [anyOf [required ["smoke"], required ["bottom_ir"], required ["top_ir_max"]]])

/-- `alarm`. -/
def alarm : JsonSchema :=
  vehicleMessage uuid version "alarm" ["event_id", "fire_type", "severity", "position"]
    [("event_id", nonEmpty),
     ("fire_type", enum false ["smoke", "flame", "unknown"]),
     ("severity", enum false ["LOW", "MEDIUM", "HIGH", "CRITICAL"]),
     ("confidence", allOf [kinds [.number, .null], minimum 0, maximum 1]),
     ("parking_slot_code", nullableText),
     ("position", pose),
     ("media", kinds [.object])] []

/-- `taskStatus`. -/
def taskStatus : JsonSchema :=
  vehicleMessage uuid version "task_status" ["task_id", "status", "phase", "progress"]
    ([("task_id", nonEmpty),
      ("status", enum false ["accepted", "executing", "completed", "failed", "cancelled"]),
      ("phase", nonEmpty),
      ("progress", between 0 100),
      ("failure_code", nullableText),
      ("failure_message", nullableText)] ++
    match version with
      | .v12 => []
      | .v13 =>
        [("checkpoint_index", nullableInteger),
         ("checkpoint_total", nullableInteger),
         ("current_slot_code", nullableText),
         ("next_slot_code", nullableText),
         ("waypoint_index", nullableInteger),
         ("waypoint_total", nullableInteger),
         ("target_waypoint_index", nullableInteger),
         ("last_completed_waypoint_index", nullableInteger)]) []

/-- `heartbeat`. -/
def heartbeat : JsonSchema :=
  vehicleMessage uuid version "heartbeat" []
    [("uptime_seconds", allOf [kinds [.number], minimum 0])] []

/-- `availability`. -/
def availability : JsonSchema :=
  vehicleMessage uuid version "availability" ["state"]
    [("state", enum false ["online", "offline"]), ("reason", nullableText)] []

/-- `capabilities`. -/
def capabilities : JsonSchema :=
  vehicleMessage uuid version "capabilities"
    ["protocol_version", "supported_commands", "sensors", "media"]
    [("protocol_version",
        match version with
        | .v12 => const "1.2.0"
        | .v13 => enum false ["1.2.0", "1.3.0"]),
     ("supported_commands", texts),
     ("sensors", texts),
     ("media", texts)] []

/-- The properties of `command`. -/
def commandProperties : List (String × JsonSchema) :=
  [("schema_version", const version.text),
   ("message_id", uuidText uuid),
   ("type", const "command"),
   ("vehicle_id", allOf [kinds [.string], pattern vehicleIdPattern]),
   ("target_boot_id", allOf [kinds [.string, .null], format uuid]),
   ("command_id", nonEmpty),
   ("correlation_id", uuidText uuid),
   ("task_id", nullableText),
   ("lease_id", nullableText),
   ("control_session_id", nullableText),
   ("seq", natural),
   ("issued_at", dateTime),
   ("expires_at", dateTime),
   ("ttl_ms", allOf [kinds [.integer], minimum 1]),
   ("priority", allOf [kinds [.integer], minimum 0, maximum 100]),
   ("source", const "WEB"),
   ("operator_id", nonEmpty),
   ("cmd", enum false ["manual_control", "stop_motion", "emergency_stop", "reset_estop",
     "return_dock", "patrol", "extinguish", "cancel_task"]),
   ("params", kinds [.object])]

/-- The `cmd` of a command is this one. -/
def cmdIs (cmd : String) : JsonSchema := allOf [property "cmd" (const cmd), required ["cmd"]]

/-- `command`. -/
def command : JsonSchema :=
  allOf [
    object ["schema_version", "message_id", "type", "vehicle_id", "target_boot_id", "command_id",
        "correlation_id", "issued_at", "expires_at", "ttl_ms", "priority", "source", "operator_id",
        "cmd", "params"] (commandProperties uuid version),
    conditional (cmdIs "emergency_stop") (allOf []) (property "target_boot_id" (uuidText uuid)),
    conditional (cmdIs "manual_control") (required ["lease_id", "control_session_id", "seq"])
      (allOf []),
    closed ((commandProperties uuid version).map Prod.fst)]

/-- The reason codes of an ACK. -/
def reasonCodes : List String :=
  ["ROBOT_DISABLED", "ROBOT_STALE", "ROBOT_OFFLINE", "ROBOT_BOOT_SESSION_UNKNOWN",
   "ROBOT_CAPABILITY_UNSUPPORTED", "ROBOT_ESTOP_ACTIVE", "MANUAL_LEASE_INVALID",
   "ACTIVE_TASK_CONFLICT", "MAP_VERSION_MISMATCH", "COMMAND_EXPIRED", "COMMAND_REJECTED",
   "COMMAND_UNSUPPORTED", "INVALID_PROTOCOL_MESSAGE", "PROTOCOL_VERSION_UNSUPPORTED"] ++
  match version with
    | .v12 => []
    | .v13 => ["BRIDGE_ADAPTER_NOT_CONNECTED"]

/-- `commandAck`. -/
def commandAck : JsonSchema :=
  vehicleMessage uuid version "command_ack" ["command_id", "status", "reason_code"]
    [("command_id", nonEmpty),
     ("task_id", nullableText),
     ("status", enum false ["accepted", "rejected", "unsupported"]),
     ("reason_code", allOf [kinds [.string, .null], enum true (reasonCodes version)]),
     ("reason", nullableText)] []

/-- The alternatives, by the `type` of a message. -/
def alternatives : List (String × JsonSchema) :=
  [("location", location uuid version),
   ("status", status uuid version),
   ("sensor", sensor uuid version),
   ("alarm", alarm uuid version),
   ("task_status", taskStatus uuid version),
   ("heartbeat", heartbeat uuid version),
   ("availability", availability uuid version),
   ("capabilities", capabilities uuid version),
   ("command", command uuid version),
   ("command_ack", commandAck uuid version)]

/-- The schema of a version. -/
def messageSchema : JsonSchema := oneOf ((alternatives uuid version).map Prod.snd)

/-! ## Which alternative a message is checked against -/

variable {uuid : JsonText → Bool} {version : SchemaVersion} {t : JsonTree}

/-- A message of a vehicle names its type. -/
theorem vehicleMessage_type {type : String} {names : List String}
    {properties : List (String × JsonSchema)} {more : List JsonSchema}
    (h : (vehicleMessage uuid version type names properties more).valid t = true) :
    t.get "type" = some (.str type) := by
  have parts := valid_allOf.mp h
  have base := parts (vehicleBase uuid version) (by simp)
  have own := parts (object names (("type", const type) :: properties)) (by simp)
  obtain ⟨value, found, _⟩ := exists_field base "type" text (by simp) (by simp)
  have named := (valid_object.mp own).2.2 ("type", const type) (by simp) value found
  rw [found, valid_const.mp named]

/-- A command names its type. -/
theorem command_type (h : (command uuid version).valid t = true) :
    t.get "type" = some (.str "command") := by
  have own := valid_allOf.mp h _ List.mem_cons_self
  obtain ⟨value, found, named⟩ := exists_field own "type" (const "command") (by simp)
    (by simp [commandProperties])
  rw [found, valid_const.mp named]

/-- The alternatives exclude each other. -/
theorem discriminated (uuid : JsonText → Bool) (version : SchemaVersion) :
    Discriminated "type" (alternatives uuid version) where
  distinct := by
    simp [alternatives]
  carries := by
    intro a mem t h
    simp only [alternatives, List.mem_cons, List.not_mem_nil, or_false] at mem
    rcases mem with rfl | rfl | rfl | rfl | rfl | rfl | rfl | rfl | rfl | rfl
    case inr.inr.inr.inr.inr.inr.inr.inr.inl => exact command_type h
    all_goals exact vehicleMessage_type h

/-- A valid message is valid for the alternative of its type. -/
theorem valid_alternative (h : (messageSchema uuid version).valid t = true) {type : String}
    {schema : JsonSchema} (listed : (type, schema) ∈ alternatives uuid version)
    (named : t.get "type" = some (.str type)) : schema.valid t = true := by
  obtain ⟨a, mem, tag, holds⟩ := (discriminated uuid version).valid_oneOf.mp h
  have same : a.1 = type := by
    have := tag.symm.trans named
    simpa using this
  have entry : a = (type, schema) := by
    refine List.inj_on_of_nodup_map (discriminated uuid version).distinct mem listed same
  rw [entry] at holds
  exact holds

/-- A message that is valid for the alternative it names is valid. -/
theorem valid_of_alternative {type : String} {schema : JsonSchema}
    (listed : (type, schema) ∈ alternatives uuid version) (holds : schema.valid t = true) :
    (messageSchema uuid version).valid t = true :=
  (discriminated uuid version).valid_oneOf.mpr
    ⟨(type, schema), listed, (discriminated uuid version).carries _ listed t holds, holds⟩

/-- A valid message is a command, or it has the fields of a vehicle's message. -/
theorem valid_command_or_base (h : (messageSchema uuid version).valid t = true) :
    t.get "type" = some (.str "command") ∧ (command uuid version).valid t = true ∨
      t.get "type" ≠ some (.str "command") ∧ (vehicleBase uuid version).valid t = true := by
  obtain ⟨a, mem, tag, holds⟩ := (discriminated uuid version).valid_oneOf.mp h
  simp only [alternatives, List.mem_cons, List.not_mem_nil, or_false] at mem
  rcases mem with rfl | rfl | rfl | rfl | rfl | rfl | rfl | rfl | rfl | rfl
  case inr.inr.inr.inr.inr.inr.inr.inr.inl => exact .inl ⟨tag, holds⟩
  all_goals exact .inr ⟨by rw [tag]; simp, valid_allOf.mp holds _ List.mem_cons_self⟩

end

end Firebot.Protocol
