import Firebot.MqttIngress.Handlers

/-!
# The messages of the ROS compatibility layer

`process_internal_compat` takes the messages on `_platform/compat/…/compat_*`. They are parsed inside a
`try` and then handled outside of any: what the handling raises leaves `process`. An odometry message is
first merged into the document of latest values in Redis, whether or not there is such a robot, and only the
first in a while goes on to the database.
-/

namespace Firebot.MqttIngress

open Firebot.Robots

/-- How a call of `process` ends. -/
inductive Outcome where
  | tooLarge
  | tooDeep
  | video
  | invalid
  | topicMismatch
  | rateLimited
  | duplicate
  | outOfOrder
  | unknownVehicle
  | refusedBoot
  | failed
  | handled
  | escaped (e : Raised)
  deriving DecidableEq, Repr

/-- The message is dropped. -/
def Outcome.rejects : Outcome → Bool
  | .handled | .escaped _ => false
  | _ => true

/-! ## Kinds of messages -/

/-- The last level of the topic. -/
inductive CompatKind where
  | availability
  | map
  | status
  | battery
  | odom
  | navStatus
  | navResult
  deriving DecidableEq, Repr

/-- `expected`, as one of the kinds. -/
def CompatKind.ofLevel : String → Option CompatKind
  | "compat_availability" => some .availability
  | "compat_map" => some .map
  | "compat_status" => some .status
  | "compat_battery" => some .battery
  | "compat_odom" => some .odom
  | "compat_nav_status" => some .navStatus
  | "compat_nav_result" => some .navResult
  | _ => none

/-- `expected.removeprefix("compat_")`. -/
def CompatKind.channel : CompatKind → String
  | .availability => "availability"
  | .map => "map"
  | .status => "status"
  | .battery => "battery"
  | .odom => "odom"
  | .navStatus => "nav_status"
  | .navResult => "nav_result"

/-- `topic.startswith("_platform/compat/")`. -/
def isCompat : Topic → Bool
  | "_platform" :: "compat" :: _ :: _ => true
  | _ => false

/-- `topic.rsplit("/", 1)[-1]`. -/
def lastLevel (topic : Topic) : String := topic.getLast?.getD ""

/-- The kind of an internal message. -/
def compatKind (topic : Topic) : Option CompatKind :=
  if isCompat topic then CompatKind.ofLevel (lastLevel topic) else none

/-! ## Parsing -/

/-- What is read of an internal message before it is handled. -/
structure CompatMessage where
  msg : JsonTree
  vehicleId : JsonTree
  source : Time

section

variable (env : Env) (m : Moment)

/-- The part inside the `try`. -/
def readCompat (payload : Payload) : Except Raised CompatMessage := do
  let msg ← env.loads payload
  if !msg.isObject then throw .attributeError
  if !(msg.getD "internal_contract").isText "ros-compat-v1" then throw .valueError
  let vehicleId ← Env.field msg "vehicle_id"
  let timestamp ← Env.field msg "timestamp"
  let source ← env.parseTime timestamp
  return { msg := msg, vehicleId := vehicleId, source := source }

/-- The vehicle in the key `robot:<vehicle_id>:latest`. -/
def latestKey (vehicleId : JsonTree) : Except Raised String := do
  let text ← env.text vehicleId
  Env.encode text

/-! ## Odometry, before the database -/

variable (c : CompatMessage)

/-- The speeds that odometry writes into the document. -/
def odomSpeeds : List (JsonText × JsonTree) :=
  [("linear", c.msg.getD "planar_speed"),
    ("angular", c.msg.getD "angular_z"),
    ("linear_x", c.msg.getD "linear_x"),
    ("linear_y", c.msg.getD "linear_y"),
    ("angular_z", c.msg.getD "angular_z"),
    ("planar_speed", c.msg.getD "planar_speed"),
    ("linear_speed", c.msg.getD "planar_speed"),
    ("angular_speed", c.msg.getD "angular_z")]

/-- What odometry writes into the document. -/
def odomFields : List (JsonText × JsonTree) :=
  let stamps : List (JsonText × JsonTree) :=
    [("source_timestamp", .str (env.isoformat c.source)),
      ("server_received_at", .str (env.isoformat m.received)),
      ("bridge_boot_id", c.msg.getD "bridge_boot_id"),
      ("seq", c.msg.getD "seq")]
  odomSpeeds c ++ stamps

/-- The document after odometry. -/
def odomLatest (r : Redis) (key : String) : JsonTree :=
  (r.latestOr key [("vehicle_id", c.vehicleId)]).update (odomFields env m c)

/-- The document as it is written: it can be dumped, and every text in it encodes. -/
def writable (doc : JsonTree) : Except Raised Latest :=
  if env.encoderStack < doc.depth 0 then .error .recursionError
  else
    match Latest.of doc with
    | some latest => .ok latest
    | none => .error .unicodeEncodeError

/-- The document is written to Redis. -/
def State.putLatest (s : State) (key : String) (latest : Latest) : State :=
  { s with redis := { s.redis with
                      latest := Function.update s.redis.latest key (some latest) } }

/-- The fast path: the document, and an event where the gate is open. -/
def odomFast (s : State) : State × Option Raised :=
  match latestKey env c.vehicleId with
  | .error e => (s, some e)
  | .ok key =>
    let doc := odomLatest env m c s.redis key
    match writable env doc with
    | .error e => (s, some e)
    | .ok latest =>
      let s := s.putLatest key latest
      if m.wsGate then
        if env.encoderStack < doc.depth 1 then (s, some .recursionError)
        else ({ s with stream := s.stream ++ [("vehicle.odom", doc)] }, none)
      else (s, none)

/-! ## The transaction -/

/-- The profile of a robot behind the compatibility layer, as an ordinary message makes it. -/
def readOnlyProfile (profile : Integration) : Integration :=
  { profile with
    sourceKind := .rosCompat
    upstreamProtocol := some "ros-native-compat"
    controlContractVerified := false
    ackContractVerified := false
    mapContractVerified := false
    bidirectionalBridgeVerified := false
    commandPathVerified := false
    cmdVelArbitrationVerified := false
    readOnlyReason := some "ROS 原生上行已接入；command/ACK 与地图合同尚未现场验证"
    staleSeconds := env.settings.rosCompatStaleSeconds
    offlineSeconds := env.settings.rosCompatOfflineSeconds }

/-- The profile after an internal message. -/
def compatProfile (kind : CompatKind) (profile : Integration) : Integration :=
  let name := kind.channel
  let entry : SequenceState :=
    { bridgeBootId := c.msg.getD "bridge_boot_id"
      seq := c.msg.getD "seq"
      sourceTimestamp := c.source }
  { readOnlyProfile env profile with
    mapContractVerified := if kind = .map then profile.mapContractVerified else false
    externalId := (c.msg.get "external_id").getD profile.externalId
    bridgeBootId := (c.msg.get "bridge_boot_id").getD profile.bridgeBootId
    lastSourceTimestamp := some c.source
    lastReceivedAt := some m.received
    compatSequenceState := (name, entry) :: profile.compatSequenceState.filter (·.1 ≠ name) }

/-- The capability of a robot behind the compatibility layer. -/
def readOnlyCapability (received : Time) : Capability where
  protocolVersion := "ros1-readonly"
  supportedCommands := []
  sensors := []
  media := []
  receivedAt := received

/-- The profile is changed; a robot without one gets it. -/
def Work.profile (f : Integration → Integration) (w : Work) : Work :=
  { w with vehicle := { w.vehicle with
                        profile := some (f (w.vehicle.profile.getD .initial)) } }

/-- What every internal message does to the robot's rows first. -/
def compatRows (kind : CompatKind) (w : Work) : Work :=
  let w := w.profile (compatProfile env m c kind)
  let w := w.robot fun robot => { robot with estopActive := none }
  { w with vehicle := { w.vehicle with capability := some (readOnlyCapability m.received) } }

/-- The online state that an internal message declares. -/
def declaredState (state : JsonText) : OnlineState :=
  if state = .chars "online" then .online else .offline

/-- The rows after `compat_availability`. The answer of `accept_boot_session` is not looked at. -/
def availabilityRows (r : Redis) (state : JsonText) (boot : JsonTree) (bound : String) (w : Work) :
    Work :=
  let w := w.profile fun profile => { profile with availabilityState := state.plain }
  let w := (w.acceptBootSession m r "availability" boot bound).1
  w.robot fun robot =>
    { robot with onlineState := declaredState state, lastSeenAt := some m.received }

/-- `compat_availability`. A session without a boot id cannot be stored. -/
def compatAvailability (r : Redis) (latest : JsonTree) (w : Work) : Except Raised (Work × JsonTree) := do
  let state ← Env.field c.msg "state"
  let text ← env.text state
  let boot ← Env.field c.msg "bridge_boot_id"
  match ← env.bind boot with
  | none => throw .databaseError
  | some bound =>
    let state := env.lower text
    return (availabilityRows m r state boot bound w,
      latest.set "online_state" (.str (declaredState state).text))

/-- The profile after `compat_map`. -/
def reportedMap (site code version checksum : JsonTree) (verified : Bool) (profile : Integration) :
    Integration :=
  { profile with
    reportedSiteCode := site
    reportedMapCode := code
    reportedMapVersion := version
    reportedMapChecksum := checksum
    mapContractVerified := verified }

/-- The map that a message names is the active version of one of the robot's maps. -/
def mapVerified (siteId : String) (code : Option String) (version checksum : JsonTree) : Bool :=
  ((code.bind (env.maps siteId)).bind MapRow.active).any fun active =>
    version.isText active.1 && checksum.isText active.2

/-- `compat_map`. -/
def compatMap (latest : JsonTree) (w : Work) : Except Raised (Work × JsonTree) := do
  let site ← Env.field c.msg "site_code"
  let code ← Env.field c.msg "map_code"
  let version ← Env.field c.msg "map_version"
  let checksum ← Env.field c.msg "map_checksum"
  let bound ← env.bind code
  let verified := mapVerified env w.vehicle.robot.siteId bound version checksum
  return (w.profile (reportedMap site code version checksum verified),
    latest.set "map_contract_verified" (.bool verified))

/-- The rows after `compat_status`. -/
def modeRows (mode : JsonText) (control : JsonTree) (w : Work) : Work :=
  let w := w.robot fun robot => { robot with currentMode := mode.plain.getD "" }
  w.profile fun profile => { profile with rosControlMode := control }

/-- `compat_status`. -/
def compatStatus (latest : JsonTree) (w : Work) : Except Raised (Work × JsonTree) := do
  let value ← Env.field c.msg "mode"
  let mode ← env.text value
  let control := c.msg.getD "ros_control_mode"
  return (modeRows mode control w, (latest.set "mode" (.str mode)).set "ros_control_mode" control)

/-- `compat_battery`. -/
def compatBattery (latest : JsonTree) (w : Work) : Except Raised (Work × JsonTree) := do
  let value ← Env.field c.msg "battery"
  let battery ← env.float value
  let diagnostics := (c.msg.get "diagnostics").getD (.obj [])
  return (w.robot fun robot => { robot with battery := battery },
    (latest.set "battery" battery).set "battery_diagnostics" diagnostics)

/-- The row of a navigation message. -/
def navigationRow (kind : CompatKind) (status : JsonText) : NavigationDiagnostic where
  externalGoalId := c.msg.getD "external_goal_id"
  diagnosticType := kind.channel
  status := status
  payload := (c.msg.get "payload").getD (.obj [])
  sourceTimestamp := c.source
  serverReceivedAt := m.received

/-- `compat_nav_status` and `compat_nav_result`. -/
def compatNavigation (kind : CompatKind) (latest : JsonTree) (w : Work) :
    Except Raised (Work × JsonTree) := do
  let status ← env.text ((c.msg.get "status").getD (.str "UNKNOWN"))
  let rows := w.vehicle.diagnostics ++ [navigationRow m c kind status]
  return ({ w with vehicle := { w.vehicle with diagnostics := rows } }, latest)

/-- What the kind of the message does to the rows and to the document. -/
def compatBody (r : Redis) (kind : CompatKind) (latest : JsonTree) (w : Work) :
    Except Raised (Work × JsonTree) :=
  match kind with
  | .availability => compatAvailability env m c r latest w
  | .map => compatMap env c latest w
  | .status => compatStatus env c latest w
  | .battery => compatBattery env c latest w
  | .odom => .ok (w, latest.update (odomSpeeds c))
  | .navStatus | .navResult => compatNavigation env m c kind latest w

/-- The channel of the message. -/
def compatChannel (kind : CompatKind) (channel : Channel) : Channel :=
  let channel := channel.received .rosCompat c.source m.received
  match kind with
  | .battery =>
    { channel with metadata := .obj [("diagnostics", (c.msg.get "diagnostics").getD (.obj []))] }
  | .navStatus | .navResult =>
    { channel with metadata := .obj [("external_goal_id", c.msg.getD "external_goal_id"),
                                     ("diagnostic_only", .bool true)] }
  | .availability | .map | .status | .odom => channel

/-- A channel that the compatibility layer does not have. -/
def missingChannel (support : Support) (channel : Channel) : Channel :=
  { channel with support := support, quality := .notAvailable, sourceKind := .rosCompat }

/-- The channels after an internal message. -/
def compatChannels (kind : CompatKind) (w : Work) : Work :=
  let w := w.channel kind.channel (compatChannel m c kind)
  let w := ["estop", "roof_rgb", "roof_thermal", "bottom_ir_video"].foldl
    (fun w name => w.channel name (missingChannel .unsupported)) w
  ["smoke", "top_ir", "bottom_ir"].foldl
    (fun w name => w.channel name (missingChannel .notConnected)) w

/-- The transaction about a robot that exists. -/
def compatWork (r : Redis) (kind : CompatKind) (w : Work) : Except Raised Work := do
  let key ← latestKey env c.vehicleId
  let w := compatRows env m c kind w
  let latest := r.latestOr key [("vehicle_id", c.vehicleId), ("robot_id", .str w.vehicle.id)]
  let (w, latest) ← compatBody env m c r kind (latest.erase "estop_active") w
  let latest := (latest.set "server_received_at" (.str (env.isoformat m.received))).set
    "source_timestamp" (.str (env.isoformat c.source))
  let w := w.queue (.setLatest key latest)
  let w := compatChannels m c kind w
  return w.queueEvent ("vehicle." ++ kind.channel) latest

/-- The transaction; nothing catches what it raises. -/
def compatTransaction (kind : CompatKind) (s : State) : State × Outcome :=
  match env.bind c.vehicleId with
  | .error e => (s, .escaped e)
  | .ok vehicleId =>
    match vehicleId.bind fun v => (s.vehicles.lookup v).map fun vehicle => (v, vehicle) with
    | none => (s, .unknownVehicle)
    | some (v, vehicle) =>
      match compatWork env m c s.redis kind (s.begin v vehicle) with
      | .error e => (s, .escaped e)
      | .ok w => if m.commits then (s.commit w, .handled) else (s, .escaped .databaseError)

end

/-- `process_internal_compat`, for a message of a kind. -/
def processInternalCompat (env : Env) (m : Moment) (kind : CompatKind) (payload : Payload)
    (s : State) : State × Outcome :=
  match readCompat env payload with
  | .error e => (s, if e.rejectsCompat then .invalid else .escaped e)
  | .ok c =>
    if kind = .odom then
      match odomFast env m c s with
      | (s, some e) => (s, .escaped e)
      | (s, none) => if m.metadataGate then compatTransaction env m c kind s else (s, .handled)
    else compatTransaction env m c kind s

end Firebot.MqttIngress
