import Firebot.MqttIngress.Compat

/-!
# A message is processed

`process` takes every payload on every topic. A message of a vehicle is parsed and checked against its
schema; it is compared with the marks in Redis; and its handler runs in a transaction. Parsing catches three
exceptions and the transaction all of them; between the two nothing is caught, and the mark that reserves
the message's id has been set by then.
-/

namespace Firebot.MqttIngress

open Firebot.Robots
open Firebot.Protocol

/-! ## Videos -/

/-- The code points of a text. -/
def points : JsonText → List Nat
  | .chars s => s.toList.map Char.toNat
  | .surrogates ps => ps

/-- A code point without its case, as `re.IGNORECASE` compares the letters of the pattern. -/
def fold (p : Nat) : Nat :=
  if 65 ≤ p ∧ p ≤ 90 then p + 32
  else if p = 0x130 ∨ p = 0x131 then 0x69
  else if p = 0x17f then 0x73
  else p

/-- The rest of a text after a prefix. -/
def after (start : String) (ps : List Nat) : Option (List Nat) :=
  let start := start.toList.map Char.toNat
  if start.isPrefixOf (ps.map fold) then some (ps.drop start.length) else none

/-- `BASE64_DATA_RE.match(value)`. -/
def base64Data (ps : List Nat) : Bool :=
  match (after "data:" ps).bind fun rest => after "image/" rest <|> after "video/" rest with
  | none => false
  | some rest =>
    let media := rest.takeWhile (· ≠ 59)
    !media.isEmpty && (after ";base64," (rest.drop media.length)).isSome

/-- A long text that says `base64` near its start. -/
def longBase64 (ps : List Nat) : Bool :=
  let window := (ps.take 128).map fun p => if 65 ≤ p ∧ p ≤ 90 then p + 32 else p
  65536 < ps.length && window.tails.any (("base64".toList.map Char.toNat).isPrefixOf ·)

mutual

/-- `contains_video_payload`. -/
def containsVideo : JsonTree → Bool
  | .str s => base64Data (points s) || longBase64 (points s)
  | .arr items => containsVideoItems items
  | .obj fields => containsVideoFields fields
  | .null | .bool _ | .int _ | .real _ | .inf _ | .nan => false

/-- One of the items contains a video. -/
def containsVideoItems : List JsonTree → Bool
  | [] => false
  | item :: items => containsVideo item || containsVideoItems items

/-- One of the fields contains a video. -/
def containsVideoFields : List (JsonText × JsonTree) → Bool
  | [] => false
  | (_, value) :: fields => containsVideo value || containsVideoFields fields

end

/-! ## Parsing and validation -/

/-- The text of a field, where it is one without surrogates. -/
def textOf (msg : JsonTree) (name : String) : String := (plainText (msg.getD name)).getD ""

/-- The version with this text. -/
def versionOf (text : JsonText) : Option SchemaVersion :=
  if text = .chars "1.2" then some .v12 else if text = .chars "1.3" then some .v13 else none

/-- What parsing makes of a payload. -/
inductive Inspection where
  | tooDeep
  | video
  | message (msg : JsonTree)

section

variable (env : Env)

/-- `str(payload.get("schema_version") or "1.2")`. -/
def claimedVersion (msg : JsonTree) : Except Raised JsonText :=
  if (msg.getD "schema_version").truthy then env.text (msg.getD "schema_version") else .ok "1.2"

/-- `validate_message`. -/
def validateMessage (msg : JsonTree) : Except Raised Unit :=
  if !msg.isObject then .error .attributeError
  else do
    let version ← claimedVersion env msg
    match versionOf version with
    | none => .error .validationError
    | some version =>
      if (messageSchema env.isUuid version).valid msg then .ok () else .error .validationError

/-- `json_depth`. -/
def jsonDepth (msg : JsonTree) : Except Raised Nat :=
  if env.stack < msg.depth 0 then .error .recursionError else .ok (msg.depth 0)

/-- The part of `process` inside the first `try`. -/
def inspect (payload : Payload) : Except Raised Inspection := do
  let msg ← env.loads payload
  let depth ← jsonDepth env msg
  if env.settings.maxJsonDepth < depth then return .tooDeep
  else if containsVideo msg then return .video
  else
    validateMessage env msg
    return .message msg

end

/-! ## The marks -/

/-- The key under which a message's number is compared. -/
def seqKey (msg : JsonTree) : SeqKey :=
  (textOf msg "vehicle_id", textOf msg "boot_id", textOf msg "type")

namespace Redis

variable (r : Redis) (msg : JsonTree)

/-- The message's id is known, or being worked on. -/
def seen : Bool :=
  (textOf msg "type" ≠ "availability" && r.dedup (textOf msg "message_id")) ||
    r.pending (textOf msg "message_id")

/-- `redis.set(pending_key, "1", ex=30, nx=True)`. -/
def reserve : Redis :=
  { r with pending := Function.update r.pending (textOf msg "message_id") true }

/-- `redis.delete(pending_key)`. -/
def release : Redis :=
  { r with pending := Function.update r.pending (textOf msg "message_id") false }

/-- `redis.setex(dedup_key, …)`, where the message has such a key. -/
def markSeen : Redis :=
  if textOf msg "type" = "availability" then r
  else { r with dedup := Function.update r.dedup (textOf msg "message_id") true }

/-- `redis.setex(last_key, 86400, msg["seq"])`. -/
def markLast : Redis :=
  { r with lastSeq := Function.update r.lastSeq (seqKey msg) (some (msg.getD "seq")) }

end Redis

/-- `int(last_seq)`, of a number as Redis keeps it: the text of a float is no integer. -/
def storedInt : JsonTree → Except Raised Int
  | .int n => .ok n
  | _ => .error .valueError

/-- `msg["seq"] <= n`. -/
def atMost (n : Int) : JsonTree → Bool
  | .int k => k ≤ n
  | .real q => q ≤ n
  | _ => false

/-- The message's number is not above the last one. -/
def Redis.late (r : Redis) (msg : JsonTree) : Except Raised Bool :=
  if textOf msg "type" = "availability" then .ok false
  else
    match r.lastSeq (seqKey msg) with
    | none => .ok false
    | some last => do
      let n ← storedInt last
      return atMost n (msg.getD "seq")

/-- The marks in Redis are changed. -/
def State.marks (s : State) (f : Redis → Redis) : State := { s with redis := f s.redis }

/-! ## The transaction -/

/-- `source_kind`. -/
def sourceKind (topic : Topic) : SourceKind := if isCompat topic then .rosCompat else .canonicalMqtt

section

variable (env : Env) (m : Moment) (r : Redis) (kind : SourceKind) (msg : JsonTree) (source : Time)

/-- A message through the compatibility layer makes the robot read-only. -/
def adopt (w : Work) : Work :=
  if kind = .rosCompat then
    let known := w.vehicle.profile.any fun profile => profile.sourceKind = .rosCompat
    let w := if known then w else w.profile (readOnlyProfile env)
    let w := w.robot fun robot => { robot with estopActive := none }
    { w with vehicle := { w.vehicle with capability := some (readOnlyCapability m.received) } }
  else w

/-- `channel_name`. -/
def channelName : String :=
  if kind = .rosCompat ∧ textOf msg "type" = "location" then "pose" else textOf msg "type"

/-- The message declares its vehicle offline. -/
def declaresOffline : Bool :=
  textOf msg "type" = "availability" && textOf msg "state" = "offline"

/-- The message says that its vehicle is there. -/
def declaresOnline : Bool :=
  textOf msg "type" = "heartbeat" || textOf msg "type" = "availability" && !declaresOffline msg

/-- The channel and the online state after a message. -/
def presence (w : Work) : Work :=
  let w := touchFieldChannel m source (channelName kind msg) kind w
  if declaresOffline msg then
    let w := w.channel (channelName kind msg) fun channel => { channel with support := .notConnected }
    let w := updateOnline m r .offline (msg.getD "boot_id") (msg.getD "reason") w
    w.queue (.deleteHeartbeat w.vehicleId)
  else if declaresOnline msg then
    let w := updateOnline m r .online (msg.getD "boot_id") .null w
    w.queue (.setHeartbeat w.vehicleId m.received)
  else w

/-- The handler of the message's type. -/
def handle (w : Work) : Except Raised Work :=
  match textOf msg "type" with
  | "location" =>
    let verified := w.vehicle.profile.any (·.mapContractVerified)
    handleLocation env m r msg source (kind = .rosCompat) (kind ≠ .rosCompat || verified) w
  | "status" => .ok (handleStatus env m r msg source kind w)
  | "sensor" => .ok (handleSensor env m r msg source kind w)
  | "alarm" => .ok (handleAlarm env m msg w)
  | "capabilities" => .ok (handleCapabilities env m msg w)
  | "command_ack" => .ok (handleAck env m msg w)
  | "task_status" => handleTaskStatus env m msg w
  | _ => .ok w

/-- The transaction about a robot, once the boot of the message has been accepted. -/
def messageWork (w : Work) : Except Raised Work :=
  handle env m r kind msg source (presence m r kind msg source (adopt env m kind w))

/-- The transaction of a message. -/
def transact (s : State) : State × Outcome :=
  match s.vehicles.lookup (textOf msg "vehicle_id") with
  | none => (s, .unknownVehicle)
  | some vehicle =>
    match (s.begin (textOf msg "vehicle_id") vehicle).acceptBootSession m s.redis
        (textOf msg "type") (msg.getD "boot_id") (textOf msg "boot_id") with
    | (_, false) => (s, .refusedBoot)
    | (w, true) =>
      match messageWork env m s.redis kind msg source w with
      | .error _ => (s, .failed)
      | .ok w => if m.commits then (s.commit w, .handled) else (s, .failed)

end

/-! ## `process` -/

/-- The marks after a transaction. -/
def Redis.settle (r : Redis) (msg : JsonTree) : Outcome → Redis
  | .failed => r.release msg
  | .handled => ((r.markSeen msg).markLast msg).release msg
  | _ => (r.markSeen msg).release msg

/-- A message whose id has been reserved. -/
def processReserved (env : Env) (m : Moment) (topic : Topic) (msg : JsonTree) (s : State) :
    State × Outcome :=
  if (msg.get "boot_id").isNone then (s, .escaped .keyError)
  else
    match s.redis.late msg with
    | .error e => (s, .escaped e)
    | .ok true => (s.marks fun r => (r.markSeen msg).release msg, .outOfOrder)
    | .ok false =>
      match env.parseTime (msg.getD "timestamp") with
      | .error e => (s, .escaped e)
      | .ok source =>
        let (s, outcome) := transact env m (sourceKind topic) msg source s
        (s.marks fun r => r.settle msg outcome, outcome)

/-- A message that has been parsed and validated. -/
def processMessage (env : Env) (m : Moment) (topic : Topic) (msg : JsonTree) (s : State) :
    State × Outcome :=
  if textOf msg "type" ≠ lastLevel topic then (s, .topicMismatch)
  else if !m.rateAllowed then (s, .rateLimited)
  else if s.redis.seen msg then (s, .duplicate)
  else processReserved env m topic msg (s.marks fun r => r.reserve msg)

/-- `process`. -/
def process (env : Env) (m : Moment) (topic : Topic) (payload : Payload) (s : State) :
    State × Outcome :=
  if env.settings.maxMqttPayloadBytes < payload.length then (s, .tooLarge)
  else
    match compatKind topic with
    | some kind => processInternalCompat env m kind payload s
    | none =>
      match inspect env payload with
      | .error e => (s, if e.rejects then .invalid else .escaped e)
      | .ok .tooDeep => (s, .tooDeep)
      | .ok .video => (s, .video)
      | .ok (.message msg) => processMessage env m topic msg s

end Firebot.MqttIngress
