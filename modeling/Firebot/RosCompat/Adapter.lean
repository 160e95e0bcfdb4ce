import Mathlib.Algebra.Order.Ring.Unbundled.Rat
import Mathlib.Logic.Function.Basic
import Firebot.Data.Float
import Firebot.Data.PyInt

/-!
# The ROS compatibility adapter

`Adapter.normalize` turns a native message of the vehicle into messages of the platform. `validate_envelope`
checks who sent it and when, and remembers its number and its time under the boot and the suffix of the topic;
then the part for the suffix reads the payload. Whatever raises ends the call, and the adapter keeps what has been
changed until then.

A text is compared as it is: a boot is the text that its id makes. Times are exact, and so are the ages that are
compared with the settings. The client, the lock around `seq` and what `on_message` does around `normalize` are
left out.
-/

namespace Firebot.RosCompat

open MqttIngress (Raised)

/-- A decoded object. -/
abbrev Payload := List (JsonText × JsonTree)

/-- `payload.get(name)`. -/
def field (payload : Payload) (name : String) : Option JsonTree := payload.lookup (.chars name)

/-- `payload.get(name, payload.get(…, default))`. -/
def firstOf (payload : Payload) (default : JsonTree) : List String → JsonTree
  | [] => default
  | name :: names => (field payload name).getD (firstOf payload default names)

/-- `payload.setdefault(name, value)`. -/
def setDefault (payload : Payload) (name : String) (value : JsonTree) : Payload :=
  if (field payload name).isSome then payload else payload ++ [(.chars name, value)]

/-- An object. -/
def object (fields : List (String × JsonTree)) : JsonTree := .obj (fields.map fun f => (.chars f.1, f.2))

/-- Why a message is not normalized: a `ValueError` of the adapter, or what the library raises. -/
inductive Failure where
  | rejected (message : String)
  | raised (error : Raised)
  deriving DecidableEq

/-- What `datetime.fromisoformat` reads: a time with its offset or without, and the time in UTC that `astimezone`
makes of it, unless it raises. -/
structure Stamp where
  aware : Bool
  utc : Except Raised Time

/-- What the adapter calls of Python's library. `fromisoformat` is called with `Z` replaced. -/
structure Library where
  str : JsonTree → Except Raised JsonText
  lower : JsonText → JsonText
  upper : JsonText → JsonText
  isdigit : JsonText → Bool
  floatOf : JsonText → Option JsonTree
  hypot : JsonTree → JsonTree → JsonTree
  isUuid : JsonText → Bool
  fromtimestamp : JsonTree → Except Raised Time
  fromisoformat : JsonText → Option Stamp
  isoformat : Time → JsonText

/-- The settings of the adapter. -/
structure Settings where
  internalId : JsonText
  heartbeatMaxAgeSeconds : ℚ
  poseMaxAgeSeconds : ℚ
  maxFutureSkewSeconds : ℚ

/-- `map_identity`. -/
structure MapIdentity where
  siteCode : JsonText
  mapCode : JsonText
  mapVersion : JsonText
  mapChecksum : JsonText
  deriving DecidableEq

/-- The `Adapter`. -/
structure Adapter where
  bootId : JsonText
  externalIdForNormalize : JsonText
  seq : Nat
  latest : JsonTree
  lastSequences : JsonText × String → Option Nat
  lastSourceTimes : JsonText × String → Option Time
  mapIdentity : Option MapIdentity

/-- A call of `normalize`; `now` is the clock, and `messageId` what `uuid4` draws. -/
structure Call where
  suffix : String
  payload : Payload
  externalId : Option JsonText
  received : Option Time
  now : Time
  messageId : JsonText

/-- What is read of the envelope. -/
structure Envelope where
  bootId : JsonText
  seq : Nat
  sourceTime : Time

/-- The messages that a call returns, with their kinds. -/
abbrev Messages := List (String × JsonTree)

variable (lib : Library) (settings : Settings)

/-- A call of the library. -/
def raise {α : Type} : Except Raised α → Except Failure α
  | .ok x => .ok x
  | .error e => .error (.raised e)

/-- `str(value)`. -/
def strOf (value : JsonTree) : Except Failure JsonText := raise (lib.str value)

/-- `float(value)`. -/
def floatOf (value : JsonTree) : Except Failure JsonTree := raise (float lib.floatOf value)

/-- `isinstance(value, float | int)`. -/
def isNumber : JsonTree → Bool
  | .bool _ | .int _ | .real _ | .inf _ | .nan => true
  | .null | .str _ | .arr _ | .obj _ => false

/-! ## The envelope -/

/-- `ts`, in `validate_envelope`. -/
def readSourceTime (payload : Payload) : Except Failure Time :=
  match field payload "ts" with
  | some (.str text) =>
    match lib.fromisoformat text with
    | none => .error (.rejected "ts must be ISO-8601 or Unix seconds")
    | some stamp => if stamp.aware then raise stamp.utc else .error (.rejected "ts must include timezone")
  | some value =>
    if isNumber value then (floatOf lib value).bind fun x => raise (lib.fromtimestamp x)
    else .error (.rejected "ts is required")
  | none => .error (.rejected "ts is required")

/-- `ts`, where `normalize` is given no time of receipt. -/
def readReceived (payload : Payload) (now : Time) : Except Failure Time :=
  match field payload "ts" with
  | some (.str text) =>
    match lib.fromisoformat text with
    | none => .error (.raised .valueError)
    | some stamp => raise stamp.utc
  | some value => if isNumber value then (floatOf lib value).bind fun x => raise (lib.fromtimestamp x) else .ok now
  | none => .ok now

/-- The greatest age for a suffix. -/
def maxAge (suffix : String) : ℚ :=
  if suffix = "heartbeat" ∨ suffix = "availability" then settings.heartbeatMaxAgeSeconds else settings.poseMaxAgeSeconds

/-- `seq`. -/
def readSeq (payload : Payload) : Except Failure Nat :=
  match field payload "seq" with
  | some (.int n) => if n < 0 then .error (.rejected "seq must be a non-negative integer") else .ok n.toNat
  | _ => .error (.rejected "seq must be a non-negative integer")

/-- `validate_envelope`, up to the look at what is remembered. -/
def readEnvelope (externalId : JsonText) (suffix : String) (payload : Payload) (received : Time) :
    Except Failure Envelope := do
  if (field payload "compat_schema_version").bind JsonTree.asText ≠ some "1.1" then
    throw (.rejected "compat_schema_version must be 1.1")
  if (field payload "external_id").bind JsonTree.asText ≠ some externalId then
    throw (.rejected "external_id must match MQTT topic")
  let bootId ← strOf lib (firstOf payload (.str "") ["bridge_boot_id"])
  if !lib.isUuid bootId then throw (.rejected "bridge_boot_id must be UUID")
  let seq ← readSeq payload
  let sourceTime ← readSourceTime lib payload
  let age : ℚ := (received - sourceTime : Int) / 1000000
  if maxAge settings suffix < age then throw (.rejected "source timestamp is stale")
  if age < -settings.maxFutureSkewSeconds then throw (.rejected "source timestamp is in the future")
  return { bootId, seq, sourceTime }

namespace Adapter

variable (a : Adapter)

/-- The envelope's number and time are new under its key. -/
def checkOrder (suffix : String) (envelope : Envelope) : Except Failure Unit :=
  let key := (envelope.bootId, suffix)
  if (a.lastSequences key).any fun last => envelope.seq ≤ last then
    .error (.rejected "duplicate or out-of-order seq")
  else if (a.lastSourceTimes key).any fun last => envelope.sourceTime < last then
    .error (.rejected "source timestamp moved backwards")
  else .ok ()

/-- The envelope is remembered. -/
def remember (suffix : String) (envelope : Envelope) : Adapter :=
  { a with
    lastSequences := Function.update a.lastSequences (envelope.bootId, suffix) (some envelope.seq)
    lastSourceTimes := Function.update a.lastSourceTimes (envelope.bootId, suffix) (some envelope.sourceTime) }

/-- `map_facts`. -/
def mapFacts : MapIdentity := a.mapIdentity.getD ⟨"UNVERIFIED", "UNVERIFIED", "UNVERIFIED", "UNVERIFIED"⟩

/-- `map_verified`. -/
def mapVerified : Bool :=
  [a.mapFacts.siteCode, a.mapFacts.mapCode, a.mapFacts.mapVersion, a.mapFacts.mapChecksum].all
    fun value => value ≠ .chars "" && value ≠ .chars "UNVERIFIED"

end Adapter

/-! ## Messages -/

/-- The fields that every internal message begins with, up to its own; `seq` and the boot are as in the payload. -/
def internal (payload : Payload) (sourceTime : Time) : List (String × JsonTree) :=
  [("bridge_boot_id", firstOf payload .null ["bridge_boot_id"]), ("seq", firstOf payload .null ["seq"]),
    ("timestamp", .str (lib.isoformat sourceTime))]

/-- The contract and the vehicle of an internal message. -/
def contract : List (String × JsonTree) :=
  [("internal_contract", .str "ros-compat-v1"), ("vehicle_id", .str settings.internalId)]

/-- `base`. -/
def base (kind : String) (payload : Payload) (sourceTime : Time) (messageId : JsonText) : List (String × JsonTree) :=
  [("schema_version", .str "1.2"), ("message_id", .str messageId), ("type", .str kind),
    ("vehicle_id", .str settings.internalId), ("boot_id", firstOf payload .null ["bridge_boot_id"]),
    ("timestamp", .str (lib.isoformat sourceTime)), ("seq", firstOf payload .null ["seq"])]

/-- The fields of the payload with one of some names. -/
def selection (payload : Payload) (names : List String) : List (String × JsonTree) :=
  names.filterMap fun name => (field payload name).map fun value => (name, value)

/-- A field that is in `latest`, under its name in the message. -/
def fromLatest (latest : JsonTree) (name source : String) : List (String × JsonTree) :=
  match latest.get (.chars source) with
  | some value => [(name, value)]
  | none => []

/-! ## The suffixes -/

/-- `max(0.0, x)`. -/
def atLeastZero : JsonTree → JsonTree
  | .real q => .real (max 0 q)
  | .inf false => .inf false
  | _ => .real 0

/-- `min(100.0, x)` of what is not negative. -/
def atMostHundred : JsonTree → JsonTree
  | .real q => .real (min 100 q)
  | _ => .real 100

/-- `payload[name]` of a field that the map's identity needs, as a text. -/
def mapField (payload : Payload) (name : String) : Except Failure JsonText := strOf lib (firstOf payload .null [name])

/-- The map's identity. -/
def readMap (payload : Payload) : Except Failure MapIdentity := do
  if ["site_code", "map_code", "map_version", "map_checksum"].any fun name =>
      !(firstOf payload .null [name]).truthy then
    throw (.rejected "map identity requires site/map/version/checksum")
  let siteCode ← mapField lib payload "site_code"
  let mapCode ← mapField lib payload "map_code"
  let mapVersion ← mapField lib payload "map_version"
  let mapChecksum ← mapField lib payload "map_checksum"
  return { siteCode, mapCode, mapVersion, mapChecksum }

/-- `state` of an availability. -/
def readState (payload : Payload) : Except Failure JsonText := do
  let text ← strOf lib (firstOf payload (.str "") ["state"])
  let state := lib.lower text
  if state ≠ "online" ∧ state ≠ "offline" then throw (.rejected "availability state must be online/offline")
  return state

/-- `payload.get("position", {}).get(name)`. -/
def positionField (payload : Payload) (name : String) : Except Failure JsonTree :=
  match field payload "position" with
  | none => .ok .null
  | some (.obj position) => .ok (firstOf position .null [name])
  | some _ => .error (.raised .attributeError)

/-- `x`, `y` and `theta` of a pose, as floats. -/
def readPose (payload : Payload) : Except Failure (JsonTree × JsonTree × JsonTree) := do
  let x := firstOf payload (← positionField payload "x") ["x"]
  let y := firstOf payload (← positionField payload "y") ["y"]
  let yaw := firstOf payload (← positionField payload "theta") ["yaw", "theta"]
  if x.isNull ∨ y.isNull ∨ yaw.isNull then throw (.rejected "pose requires x, y and yaw/theta")
  return (← floatOf lib x, ← floatOf lib y, ← floatOf lib yaw)

/-- `frame_id` of a pose. -/
def readFrame (payload : Payload) : Except Failure JsonText := do
  let frame ← strOf lib (firstOf payload (.str "map") ["frame_id"])
  if frame ≠ "map" then throw (.rejected "AMCL global pose requires frame_id=map")
  return frame

/-- `localization_status` of a pose. -/
def readLocalization (verified : Bool) (payload : Payload) : Except Failure JsonText :=
  if verified then strOf lib (firstOf payload (.str "VALID_SOURCE") ["localization_status"])
  else .ok "DEGRADED_MAP_UNVERIFIED"

/-- `covariance` of a pose. -/
def covarianceOf (payload : Payload) : JsonTree :=
  let given := firstOf payload .null ["covariance"]
  if given.truthy then given else object (selection payload ["cov_xx", "cov_yy", "cov_yawyaw"])

/-- The speeds of an odometry, as floats. -/
def readOdom (payload : Payload) : Except Failure (JsonTree × JsonTree × JsonTree) := do
  let linearX := firstOf payload .null ["vx", "linear_x", "linear_speed"]
  let linearY := firstOf payload (.real 0) ["vy", "linear_y"]
  let angularZ := firstOf payload .null ["wz", "angular_z", "angular_speed"]
  if linearX.isNull ∨ angularZ.isNull then throw (.rejected "odom requires vx/linear_x and wz/angular_z")
  return (← floatOf lib linearX, ← floatOf lib linearY, ← floatOf lib angularZ)

/-- The charge of a battery, as a float between 0 and 100. -/
def readBattery (payload : Payload) : Except Failure JsonTree := do
  let value := firstOf payload .null ["battery_percentage", "percentage", "battery"]
  if value.isNull then throw (.rejected "battery requires percentage")
  return atMostHundred (atLeastZero (← floatOf lib value))

/-- The controller's mode, as it is given. -/
def givenMode (payload : Payload) : JsonTree :=
  let value := firstOf payload .null ["control_mode", "control_mode_str", "mode"]
  if value.isNull then .str "UNKNOWN" else value

/-- The controller's mode. -/
def readMode (payload : Payload) : Except Failure (Option Int) := do
  let text ← strOf lib (givenMode payload)
  let raw := lib.upper text
  if lib.isdigit raw then
    match raw.plain.bind fun text => pyInt text.toList with
    | some mode => return some mode
    | none => throw (.raised .valueError)
  else if raw = "MANUAL" then return some 1
  else if raw = "ROS" then return some 3
  else return none

/-- `uptime_seconds` of a heartbeat. -/
def readUptime (payload : Payload) : Except Failure JsonTree := do
  return atLeastZero (← floatOf lib (firstOf payload (.int 0) ["uptime_sec", "uptime_seconds"]))

/-- `status` of a navigation. -/
def readStatus (payload : Payload) : Except Failure JsonText :=
  strOf lib (firstOf payload (.str "UNKNOWN") ["status", "state"])

namespace Adapter

variable (a : Adapter) (externalId : JsonText) (payload : Payload) (sourceTime : Time) (messageId : JsonText)

/-- `suffix == "map"`. -/
def normalizeMap : Adapter × Except Failure Messages :=
  match readMap lib payload with
  | .error e => (a, .error e)
  | .ok identity =>
    ({ a with mapIdentity := some identity },
      .ok [("compat_map", object (contract settings ++ ("external_id", .str externalId) :: internal lib payload sourceTime ++
        [("site_code", .str identity.siteCode), ("map_code", .str identity.mapCode),
          ("map_version", .str identity.mapVersion), ("map_checksum", .str identity.mapChecksum)]))])

/-- `suffix == "availability"`. -/
def normalizeAvailability : Adapter × Except Failure Messages :=
  match readState lib payload with
  | .error e => (a, .error e)
  | .ok state =>
    (a, .ok [("compat_availability", object (contract settings ++ ("external_id", .str externalId) ::
      internal lib payload sourceTime ++ [("state", .str state), ("reason", firstOf payload .null ["reason"])]))])

/-- `suffix == "pose"`. -/
def normalizePose : Adapter × Except Failure Messages :=
  match readPose lib payload with
  | .error e => (a, .error e)
  | .ok (x, y, theta) =>
    let a := { a with latest := a.latest.update [(.chars "x", x), (.chars "y", y), (.chars "theta", theta)] }
    match readFrame lib payload with
    | .error e => (a, .error e)
    | .ok frame =>
      let covariance := covarianceOf payload
      let facts := a.mapFacts
      match readLocalization lib a.mapVerified payload with
      | .error e => (a, .error e)
      | .ok localization =>
        let a := if covariance.truthy then { a with latest := a.latest.set (.chars "amcl_covariance") covariance } else a
        (a, .ok [("location", object (base lib settings "location" payload sourceTime messageId ++
          [("position", object [("x", x), ("y", y), ("theta", theta)]),
            ("site_code", .str facts.siteCode), ("map_code", .str facts.mapCode),
            ("map_version", .str facts.mapVersion), ("map_checksum", .str facts.mapChecksum),
            ("frame_id", .str frame), ("localization_status", .str localization)] ++
          fromLatest a.latest "linear_speed" "planar_speed" ++ fromLatest a.latest "angular_speed" "angular_z" ++
          fromLatest a.latest "battery" "battery"))])

/-- `suffix == "odom"`. -/
def normalizeOdom : Adapter × Except Failure Messages :=
  match readOdom lib payload with
  | .error e => (a, .error e)
  | .ok (linearX, linearY, angularZ) =>
    let speeds := [("linear_x", linearX), ("linear_y", linearY), ("angular_z", angularZ),
      ("planar_speed", lib.hypot linearX linearY)]
    ({ a with latest := a.latest.update (speeds.map fun f => (.chars f.1, f.2)) },
      .ok [("compat_odom", object (contract settings ++ internal lib payload sourceTime ++ speeds))])

/-- `suffix == "battery"`. -/
def normalizeBattery : Adapter × Except Failure Messages :=
  match readBattery lib payload with
  | .error e => (a, .error e)
  | .ok battery =>
    let diagnostics := selection payload ["battery_voltage", "battery_current", "battery_temperature",
      "battery_capacity", "battery_charge_state", "battery_cycle_count"]
    ({ a with latest := a.latest.set (.chars "battery") battery },
      .ok [("compat_battery", object (contract settings ++ internal lib payload sourceTime ++
        [("battery", battery), ("diagnostics", object diagnostics)]))])

/-- `suffix == "status"`. -/
def normalizeStatus : Adapter × Except Failure Messages :=
  match readMode lib payload with
  | .error e => (a, .error e)
  | .ok mode =>
    (a, .ok [("compat_status", object (contract settings ++ internal lib payload sourceTime ++
      [("mode", .str (if mode = some 1 then "MANUAL" else "IDLE")),
        ("ros_control_mode", match mode with
          | some n => .int n
          | none => .null)]))])

/-- `suffix == "heartbeat"`. -/
def normalizeHeartbeat : Adapter × Except Failure Messages :=
  match readUptime lib payload with
  | .error e => (a, .error e)
  | .ok uptime =>
    (a, .ok [("heartbeat", object (base lib settings "heartbeat" payload sourceTime messageId ++
      [("uptime_seconds", uptime)]))])

/-- `suffix in {"nav_status", "nav_result"}`. -/
def normalizeNavigation (suffix : String) : Adapter × Except Failure Messages :=
  match readStatus lib payload with
  | .error e => (a, .error e)
  | .ok status =>
    (a, .ok [("compat_" ++ suffix, object (contract settings ++ internal lib payload sourceTime ++
      [("external_goal_id", firstOf payload .null ["goal_id"]), ("status", .str status), ("payload", .obj payload)]))])

/-- `normalize`, after the envelope. -/
def normalizeContents (suffix : String) : Adapter × Except Failure Messages :=
  match suffix with
  | "map" => a.normalizeMap lib settings externalId payload sourceTime
  | "availability" => a.normalizeAvailability lib settings externalId payload sourceTime
  | "pose" => a.normalizePose lib settings payload sourceTime messageId
  | "odom" => a.normalizeOdom lib settings payload sourceTime
  | "battery" => a.normalizeBattery lib settings payload sourceTime
  | "status" => a.normalizeStatus lib settings payload sourceTime
  | "heartbeat" => a.normalizeHeartbeat lib settings payload sourceTime messageId
  | "nav_status" => a.normalizeNavigation lib settings payload sourceTime "nav_status"
  | "nav_result" => a.normalizeNavigation lib settings payload sourceTime "nav_result"
  | _ => (a, .ok [])

/-- The external id that the call is about. -/
def externalIdOf (call : Call) : Except Failure JsonText :=
  match call.externalId with
  | some (.chars "") | none => strOf lib (firstOf call.payload (.str a.externalIdForNormalize) ["external_id"])
  | some externalId => .ok externalId

/-- The payload with the defaults of a fixture, which a call without an external id is. -/
def payloadOf (call : Call) (externalId : JsonText) : Payload :=
  if call.externalId.isNone then
    setDefault (setDefault (setDefault (setDefault call.payload "compat_schema_version" (.str "1.1"))
      "external_id" (.str externalId)) "bridge_boot_id" (.str a.bootId)) "seq" (.int (a.seq + 1))
  else call.payload

/-- A fixture takes a number. -/
def draw (call : Call) : Adapter := if call.externalId.isNone then { a with seq := a.seq + 1 } else a

/-- `received`. -/
def receivedOf (call : Call) (payload : Payload) : Except Failure Time :=
  match call.received with
  | some received => .ok received
  | none => readReceived lib payload call.now

/-- The payload that is looked at, and the envelope that is read of it. -/
def opened (call : Call) : Except Failure (JsonText × Payload × Envelope) := do
  let externalId ← a.externalIdOf lib call
  let payload := a.payloadOf call externalId
  let received ← receivedOf lib call payload
  let envelope ← readEnvelope lib settings externalId call.suffix payload received
  a.checkOrder call.suffix envelope
  return (externalId, payload, envelope)

/-- `normalize`. -/
def normalize (call : Call) : Adapter × Except Failure Messages :=
  match a.externalIdOf lib call with
  | .error e => (a, .error e)
  | .ok _ =>
    match a.opened lib settings call with
    | .error e => (a.draw call, .error e)
    | .ok (externalId, payload, envelope) =>
      ((a.draw call).remember call.suffix envelope).normalizeContents lib settings externalId payload envelope.sourceTime
        call.messageId call.suffix

end Adapter

end Firebot.RosCompat
