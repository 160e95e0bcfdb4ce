import Mathlib.Data.List.Infix
import Mathlib.Data.Rat.Defs
import Firebot.Lib.Dict
import Firebot.Lib.JsonTree
import Firebot.Lib.Run

/-!
# The field trace

`emit` numbers an event, puts its sanitized fields into a record, keeps what the whitelist of the event allows,
writes the record to the journal and hands it to the recorder, all in one `try` whose exceptions are swallowed.
`transition` emits where a value has changed.

Values are numbers, texts, lists, tuples and dictionaries, and objects of other kinds. A call is given how deep
`sanitize` and the encoder may recurse before Python raises; a value that contains itself is deeper than that.
`throttle` and `changed` are left out, and so is the time between a command and its effects. The handlers of the
journal catch their own errors.
-/

namespace Firebot.Trace

/-! ## Values -/

/-- A value: dictionaries have keys of type `κ`, and `ω` are the objects of other kinds. -/
inductive Value (κ ω : Type) where
  | int (n : Int)
  | float (q : ℚ)
  | str (s : JsonText)
  | list (items : List (Value κ ω))
  | tuple (items : List (Value κ ω))
  | dict (items : List (κ × Value κ ω))
  | other (object : ω)

/-- What keys of dictionaries may be. -/
inductive Key (ω : Type) where
  | text (s : JsonText)
  | other (object : ω)

/-- A value as it is given. -/
abbrev Raw (ω : Type) := Value (Key ω) ω

/-- A value whose dictionaries have texts for keys. -/
abbrev Clean (ω : Type) := Value JsonText ω

/-- Keyword arguments. -/
abbrev Fields (ω : Type) := List (JsonText × Raw ω)

/-- What is written and recorded. -/
abbrev Record (ω : Type) := List (JsonText × Clean ω)

/-- What is called of Python: `str` of a key (`none` where it raises), `lower`, which objects `json.dumps` can
write, the text that it makes, and `!=` (`none` where it raises). -/
structure Library (ω : Type) where
  str : ω → Option JsonText
  lower : JsonText → JsonText
  serializes : ω → Bool
  render : Record ω → String
  differs : Raw ω → Raw ω → Option Bool
  lower_ascii : ∀ s : String, s.toList.all (fun c => c.isLower || c = '_') = true → lower s = s

variable {ω : Type} (lib : Library ω)

/-! ## Sanitizing -/

/-- `part in text`. -/
def contains (part : String) : JsonText → Bool
  | .chars s => decide (part.toList <:+: s.toList)
  | .surrogates points => decide (part.toList.map Char.toNat <:+: points)

/-- `_SECRET_KEY_PARTS`. -/
def secretKeyParts : List String := ["password", "authorization", "cookie", "token", "secret", "csrf"]

/-- `_is_secret_key`. -/
def isSecretKey (key : JsonText) : Bool := secretKeyParts.any fun part => contains part (lib.lower key)

/-- `str(key)`. -/
def Key.str : Key ω → Option JsonText
  | .text s => some s
  | .other object => lib.str object

/-- What stands for a secret. -/
def redacted {κ : Type} : Value κ ω := .str "<redacted>"

/-- One entry of a dictionary that is sanitized. -/
def sanitizeItem {κ : Type} (str : κ → Option JsonText) (inner : Raw ω → Option (Clean ω)) (item : κ × Raw ω) :
    Option (JsonText × Clean ω) :=
  match str item.1 with
  | none => none
  | some key => (if isSecretKey lib key then some redacted else inner item.2).map (Prod.mk key)

/-- The entries of a dictionary that is sanitized. -/
def sanitizeItems {κ : Type} (str : κ → Option JsonText) (inner : Raw ω → Option (Clean ω)) (items : List (κ × Raw ω)) :
    Option (List (JsonText × Clean ω)) :=
  (items.mapM (sanitizeItem lib str inner)).map (Dict.update [])

/-- `sanitize`. -/
def sanitize : Nat → Raw ω → Option (Clean ω)
  | 0, _ => none
  | room + 1, .dict items => (sanitizeItems lib (Key.str lib) (sanitize room) items).map .dict
  | room + 1, .list items => (items.mapM (sanitize room)).map .list
  | room + 1, .tuple items => (items.mapM (sanitize room)).map .list
  | _ + 1, .int n => some (.int n)
  | _ + 1, .float q => some (.float q)
  | _ + 1, .str s => some (.str s)
  | _ + 1, .other object => some (.other object)

/-- `sanitize(fields)`. -/
def sanitizeFields : Nat → Fields ω → Option (Record ω)
  | 0, _ => none
  | room + 1, fields => sanitizeItems lib some (sanitize lib room) fields

/-! ## Writing -/

/-- `json.dumps` can write a value. -/
def writable : Nat → Clean ω → Bool
  | _, .int _ | _, .float _ | _, .str _ => true
  | _, .other object => lib.serializes object
  | 0, .list _ | 0, .tuple _ | 0, .dict _ => false
  | room + 1, .list items => items.all (writable room)
  | room + 1, .tuple items => items.all (writable room)
  | room + 1, .dict items => items.all fun item => writable room item.2

/-- `json.dumps` of a record. -/
def dumps (room : Nat) (record : Record ω) : Option String :=
  if writable lib room (.dict record) then some (lib.render record) else none

/-! ## Events -/

/-- Which events are recorded, and which are only telemetry. -/
inductive Importance where
  | critical
  | important
  | telemetry
  deriving DecidableEq

/-- `_IMPORTANCE`. -/
def importanceTable : List (String × Importance) := [
  ("bridge.started", .critical),
  ("bridge.stopping", .critical),
  ("mqtt.connected", .critical),
  ("mqtt.connect_failed", .critical),
  ("mqtt.disconnected", .critical),
  ("mqtt.command.rx", .critical),
  ("ros.command.tx", .critical),
  ("ros.command.tx_failed", .critical),
  ("ros.feedback.rx", .critical),
  ("mqtt.command_ack.tx", .critical),
  ("mqtt.task_status.tx", .critical),
  ("ros.master.changed", .critical),
  ("ros.adapter.changed", .critical),
  ("mqtt.subscribed", .important),
  ("mqtt.availability.tx", .important),
  ("mqtt.capabilities.tx", .important),
  ("ros.child.spawned", .important),
  ("ros.child.exited", .important),
  ("ros.child.ready_timeout", .important),
  ("ros.child.backoff", .important),
  ("mqtt.command.ignored", .important),
  ("mqtt.heartbeat.tx", .telemetry),
  ("mqtt.status.tx", .telemetry),
  ("mqtt.sensor.tx", .telemetry),
  ("mqtt.location.tx", .telemetry),
  ("ros.battery.rx", .telemetry),
  ("ros.smoke.rx", .telemetry),
  ("ros.status.rx", .telemetry),
  ("ros.location.rx", .telemetry),
  ("ros.battery.stale", .important),
  ("ros.battery.recovered", .important),
  ("ros.smoke.stale", .important),
  ("ros.smoke.recovered", .important)]

/-- `_BASE_KEYS`. -/
def baseKeys : List String :=
  ["trace_schema_version", "timestamp_utc", "monotonic", "vehicle_id", "boot_id", "event_seq", "event", "level"]

/-- `_ALWAYS_ALLOWED`. -/
def alwaysAllowed : List String := ["previous", "latency_ms"]

/-- `_EVENT_ALLOWED_KEYS`. -/
def eventAllowedKeys : List (String × List String) := [
  ("bridge.started", ["vehicle", "boot", "protocol", "pid", "stub", "commands"]),
  ("bridge.stopping", ["boot"]),
  ("mqtt.connected", ["broker", "boot"]),
  ("mqtt.connect_failed", ["broker"]),
  ("mqtt.disconnected", ["rc"]),
  ("mqtt.subscribed", ["topic", "qos"]),
  ("mqtt.command.rx", ["cmd", "command_id", "task_id", "vehicle_id", "target_boot_id"]),
  ("mqtt.command.ignored", ["reason"]),
  ("mqtt.availability.tx", ["state", "reason"]),
  ("mqtt.capabilities.tx", ["commands", "sensors"]),
  ("mqtt.heartbeat.tx", ["seq", "uptime"]),
  ("mqtt.status.tx", ["battery", "mode", "estop_active", "active_task_id"]),
  ("mqtt.sensor.tx", ["smoke"]),
  ("mqtt.location.tx", []),
  ("mqtt.command_ack.tx", ["cmd", "status", "reason_code", "command_id", "task_id"]),
  ("mqtt.task_status.tx", ["task_id", "status", "phase", "progress", "failure_code"]),
  ("ros.master.changed", ["state"]),
  ("ros.child.spawned", ["pid", "generation"]),
  ("ros.child.exited", ["pid", "generation", "returncode"]),
  ("ros.child.ready_timeout", ["pid", "generation", "timeout_s"]),
  ("ros.child.backoff", ["seconds"]),
  ("ros.adapter.changed", ["state", "node", "publisher", "feedback"]),
  ("ros.command.tx", ["cmd", "command_id", "task_id"]),
  ("ros.command.tx_failed", ["reason", "cmd", "command_id", "task_id"]),
  ("ros.feedback.rx",
    ["cmd", "state", "command_id", "task_id", "reason_code", "message", "phase", "progress"]),
  ("ros.battery.rx", ["battery", "source"]),
  ("ros.smoke.rx", ["smoke", "source"]),
  ("ros.status.rx", ["mode", "estop_active", "active_task_id"]),
  ("ros.location.rx", ["x", "y", "theta", "localization_status", "enabled"]),
  ("ros.battery.stale", ["source", "age_seconds"]),
  ("ros.battery.recovered", ["source", "age_seconds"]),
  ("ros.smoke.stale", ["source", "age_seconds"]),
  ("ros.smoke.recovered", ["source", "age_seconds"])]

/-- The keys that the record of an event may have. -/
def allowedKeys (event : String) : List String :=
  baseKeys ++ alwaysAllowed ++ (eventAllowedKeys.lookup event).getD []

/-- `k in allowed`. -/
def isAllowed (event : String) (key : JsonText) : Bool := (allowedKeys event).any fun name => key = .chars name

/-- `_apply_key_whitelist`. -/
def applyKeyWhitelist (event : String) (record : Record ω) : Record ω :=
  record.filter fun field => isAllowed event field.1

/-! ## The trace -/

/-- When a call is made, and how deep it may recurse. -/
structure Moment where
  timestampUtc : String
  monotonic : ℚ
  sanitizeRoom : Nat
  encoderRoom : Nat

/-- `FieldTrace`, with the records that were handed to `recorder.enqueue` and the lines of the journal. -/
structure FieldTrace (ω : Type) where
  enabled : Bool
  telemetryLogEnabled : Bool
  vehicleId : String
  bootId : String
  hasRecorder : Bool
  seq : Nat
  last : List (String × Raw ω)
  handed : List (Record ω × Importance)
  journal : List String

namespace FieldTrace

/-- `FieldTrace.__init__`. -/
def initial (enabled telemetryLogEnabled : Bool) (vehicleId bootId : String) (hasRecorder : Bool) : FieldTrace ω where
  enabled
  telemetryLogEnabled
  vehicleId
  bootId
  hasRecorder
  seq := 0
  last := []
  handed := []
  journal := []

variable (trace : FieldTrace ω)

/-- `_importance_of`. -/
def importanceOf (event : String) (importance : Option Importance) : Importance :=
  importance.getD ((importanceTable.lookup event).getD .telemetry)

/-- `_should_journal`. -/
def shouldJournal (imp : Importance) : Bool := imp = .critical || imp = .important || trace.enabled

/-- `_should_persist`. -/
def shouldPersist (imp : Importance) : Bool := imp = .critical || imp = .important || trace.telemetryLogEnabled

/-- The record before the fields are put into it. -/
def baseRecord (now : Moment) (event level : String) : Record ω := [
  (("trace_schema_version" : String), .int 1),
  (("timestamp_utc" : String), .str now.timestampUtc),
  (("monotonic" : String), .float now.monotonic),
  (("vehicle_id" : String), .str trace.vehicleId),
  (("boot_id" : String), .str trace.bootId),
  (("event_seq" : String), .int trace.seq),
  (("event" : String), .str event),
  (("level" : String), .str level)]

/-- The record of an event, once it has a number. -/
def record (now : Moment) (event level : String) (fields : Record ω) : Record ω :=
  applyKeyWhitelist event (Dict.update (trace.baseRecord now event level) fields)

/-- A number is taken. -/
def numbered : FieldTrace ω := { trace with seq := trace.seq + 1 }

/-- A number is taken, and lines are written to the journal. -/
def written (lines : List String) : FieldTrace ω := { trace.numbered with journal := trace.journal ++ lines }

/-- `recorder.enqueue`, where there is a recorder. -/
def persistRecord (imp : Importance) (record : Record ω) : FieldTrace ω :=
  if trace.shouldPersist imp && trace.hasRecorder then { trace with handed := trace.handed ++ [(record, imp)] } else trace

/-- `emit`. -/
def emit (now : Moment) (event level : String) (importance : Option Importance) (fields : Fields ω) : FieldTrace ω :=
  let imp := importanceOf event importance
  if !(trace.shouldJournal imp || trace.shouldPersist imp) then trace
  else
    match sanitizeFields lib now.sanitizeRoom fields with
    | none => trace.numbered
    | some fields =>
      let record := trace.numbered.record now event level fields
      if trace.shouldJournal imp then
        match dumps lib now.encoderRoom record with
        | none => trace.numbered
        | some line => (trace.written [line]).persistRecord imp record
      else trace.numbered.persistRecord imp record

/-- `transition`; a second `previous` is a `TypeError`. -/
def transition (now : Moment) (key : String) (newValue : Raw ω) (event level : String) (importance : Option Importance)
    (fields : Fields ω) : FieldTrace ω :=
  let imp := importanceOf event importance
  if !(trace.shouldJournal imp || trace.shouldPersist imp) then trace
  else
    let stored := { trace with last := Dict.assign key newValue trace.last }
    match trace.last.lookup key with
    | none => stored.emit lib now event level (some imp) fields
    | some old =>
      match lib.differs old newValue with
      | none | some false => trace
      | some true =>
        if fields.any fun field => field.1 = .chars "previous" then stored
        else stored.emit lib now event level (some imp) ((("previous" : String), old) :: fields)

end FieldTrace

/-- A call; a `level` among the arguments of `transition` is that of `emit`. -/
inductive Call (ω : Type) where
  | emit (now : Moment) (event level : String) (importance : Option Importance) (fields : Fields ω)
  | transition (now : Moment) (key : String) (newValue : Raw ω) (event level : String)
      (importance : Option Importance) (fields : Fields ω)

/-- What is done. -/
def FieldTrace.step (trace : FieldTrace ω) : Call ω → FieldTrace ω
  | .emit now event level importance fields => trace.emit lib now event level importance fields
  | .transition now key newValue event level importance fields =>
    trace.transition lib now key newValue event level importance fields

end Firebot.Trace
