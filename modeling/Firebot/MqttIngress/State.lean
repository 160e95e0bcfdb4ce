import Firebot.MqttIngress.Env
import Firebot.Robots.Model
import Firebot.Tasks.Model

/-!
# What the ingress keeps

The rows of a robot are one `Vehicle`, found by its `vehicle_id`. Redis holds a document of latest values
for each vehicle (`Latest`: an object that has been written, so every text in it encodes), the manual
leases, and the marks by which messages are deduplicated and ordered.

A transaction is a `Work`: the rows it has changed, and the Redis operations and realtime events it has
queued. They are carried out after the commit, in order; a Redis operation that raises ends the queue of
Redis operations, an event that cannot be written is left out, and neither undoes the commit.
-/

namespace Firebot.MqttIngress

open Firebot.Robots

/-! ## The rows of a robot -/

/-- A row of `robot_boot_sessions`, under its boot id. -/
structure Session where
  firstSeenAt : Time
  lastSeenAt : Time
  endedAt : Option Time
  deriving DecidableEq

/-- `RobotDataChannel.support_state`. -/
inductive Support where
  | connected
  | notConnected
  | unsupported
  deriving DecidableEq, Repr

/-- `RobotDataChannel.quality`. -/
inductive Quality where
  | good
  | notAvailable
  | unknown
  deriving DecidableEq, Repr

/-- A row of `robot_data_channels`, under its channel's name. -/
structure Channel where
  support : Support
  quality : Quality
  sourceKind : SourceKind
  lastSourceTimestamp : Option Time
  lastReceivedAt : Option Time
  metadata : JsonTree

/-- A new channel: the defaults of its columns. -/
def Channel.initial : Channel where
  support := .notConnected
  quality := .unknown
  sourceKind := .canonicalMqtt
  lastSourceTimestamp := none
  lastReceivedAt := none
  metadata := .obj []

/-- A row of `robot_connection_logs`. -/
structure ConnectionLog where
  state : OnlineState
  bootId : JsonTree
  reason : JsonTree

/-- A row of `telemetry_samples`. -/
structure TelemetrySample where
  sourceTimestamp : Time
  serverReceivedAt : Time
  pose : JsonTree
  linearSpeed : JsonTree
  angularSpeed : JsonTree
  battery : JsonTree
  localizationStatus : JsonTree
  mapVersion : JsonTree
  bootId : JsonTree
  seq : JsonTree

/-- A row of `sensor_samples`. -/
structure SensorSample where
  sourceTimestamp : Time
  serverReceivedAt : Time
  smoke : JsonTree
  bottomIr : JsonTree
  topIrMax : JsonTree
  payload : JsonTree
  bootId : JsonTree
  seq : JsonTree

/-- A row of `robot_navigation_diagnostics`. -/
structure NavigationDiagnostic where
  externalGoalId : JsonTree
  diagnosticType : String
  status : JsonText
  payload : JsonTree
  sourceTimestamp : Time
  serverReceivedAt : Time

/-- The rows of one robot. -/
structure Vehicle where
  id : String
  robot : Robot
  profile : Option Integration
  capability : Option Capability
  sessions : Table String Session
  channels : Table String Channel
  logs : List ConnectionLog
  telemetry : List TelemetrySample
  sensors : List SensorSample
  diagnostics : List NavigationDiagnostic

/-- A robot that has sent nothing: the defaults of its columns, and no other rows. -/
def Vehicle.initial (id siteId : String) : Vehicle where
  id := id
  robot :=
    { siteId := siteId
      enabled := true
      onlineState := .offline
      lastSeenAt := none
      currentMapId := none
      currentMapVersion := none
      currentMode := "IDLE"
      currentTaskId := none
      battery := .null
      estopActive := some false
      bootId := none }
  profile := none
  capability := none
  sessions := ∅
  channels := ∅
  logs := []
  telemetry := []
  sensors := []
  diagnostics := []

/-- `ManualControlSession.state`. -/
inductive ControlState where
  | held
  | released
  | forceReleased
  | expired
  deriving DecidableEq, Repr

/-- A row of `manual_control_sessions`, under its lease id. -/
structure ControlSession where
  state : ControlState
  endedAt : Option Time
  endReason : Option String
  deriving DecidableEq

/-! ## Redis -/

/-- The document of a vehicle's latest values. -/
structure Latest where
  doc : JsonTree
  isObject : doc.isObject = true
  encodes : doc.encodes = true

/-- A document that can be written. -/
def Latest.of (doc : JsonTree) : Option Latest :=
  if h : doc.isObject = true ∧ doc.encodes = true then some ⟨doc, h.1, h.2⟩ else none

/-- The key `seq:<vehicle>:<boot>:<type>`. -/
abbrev SeqKey := String × String × String

/-- The keys that the ingress and the worker use. -/
structure Redis where
  latest : String → Option Latest
  heartbeat : String → Option Time
  lease : String → Option String
  dedup : String → Bool
  pending : String → Bool
  lastSeq : SeqKey → Option JsonTree

/-- An operation queued for after the commit. -/
inductive Operation where
  | setLatest (vehicleId : String) (doc : JsonTree)
  | setHeartbeat (vehicleId : String) (received : Time)
  | deleteHeartbeat (vehicleId : String)
  | deleteLease (robotId : String)

/-- The queued operations, up to the first that raises. -/
def Redis.perform (r : Redis) : List Operation → Redis
  | [] => r
  | .setLatest vehicleId doc :: rest =>
    match Latest.of doc with
    | some latest =>
      Redis.perform { r with latest := Function.update r.latest vehicleId (some latest) } rest
    | none => r
  | .setHeartbeat vehicleId received :: rest =>
    Redis.perform { r with heartbeat := Function.update r.heartbeat vehicleId (some received) } rest
  | .deleteHeartbeat vehicleId :: rest =>
    Redis.perform { r with heartbeat := Function.update r.heartbeat vehicleId none } rest
  | .deleteLease robotId :: rest =>
    Redis.perform { r with lease := Function.update r.lease robotId none } rest

/-! ## The state and a transaction -/

/-- A realtime event: its type and its payload. -/
abbrev Event := String × JsonTree

/-- The database, Redis and the event stream. -/
structure State where
  vehicles : Table String Vehicle
  control : Table String ControlSession
  business : Tasks.Database
  redis : Redis
  stream : List Event

/-- Nothing has been stored. -/
def State.empty : State where
  vehicles := ∅
  control := ∅
  business := .empty
  redis :=
    { latest := fun _ => none
      heartbeat := fun _ => none
      lease := fun _ => none
      dedup := fun _ => false
      pending := fun _ => false
      lastSeq := fun _ => none }
  stream := []

/-- The robots are there, and nothing else. -/
def State.ofVehicles (vehicles : List (String × Vehicle)) : State :=
  { State.empty with
    vehicles := vehicles.foldr (fun entry table => AList.insert entry.1 entry.2 table) ∅ }

/-- A transaction about one robot. -/
structure Work where
  vehicleId : String
  vehicle : Vehicle
  control : Table String ControlSession
  business : Tasks.Database
  operations : List Operation
  events : List Event

namespace Work

variable (w : Work)

/-- `queue_event`. -/
def queueEvent (type : String) (payload : JsonTree) : Work :=
  { w with events := w.events ++ [(type, payload)] }

/-- `queue_redis_set` and `queue_redis_delete`. -/
def queue (operation : Operation) : Work :=
  { w with operations := w.operations ++ [operation] }

/-- The robot's row is changed. -/
def robot (f : Robot → Robot) : Work :=
  { w with vehicle := { w.vehicle with robot := f w.vehicle.robot } }

/-- The row of a channel is changed, or inserted. -/
def channel (name : String) (f : Channel → Channel) : Work :=
  let row := (w.vehicle.channels.lookup name).getD .initial
  { w with vehicle := { w.vehicle with channels := w.vehicle.channels.insert name (f row) } }

end Work

namespace State

variable (s : State)

/-- A transaction about a robot begins. -/
def begin (vehicleId : String) (vehicle : Vehicle) : Work where
  vehicleId := vehicleId
  vehicle := vehicle
  control := s.control
  business := s.business
  operations := []
  events := []

/-- The transaction is committed, and what it has queued is carried out. -/
def commit (w : Work) : State where
  vehicles := s.vehicles.insert w.vehicleId w.vehicle
  control := w.control
  business := w.business
  redis := s.redis.perform w.operations
  stream := s.stream ++ w.events.filter fun event => event.2.encodes

end State

/-- The document that a handler starts from: the vehicle's, or a new one. -/
def Redis.latestOr (r : Redis) (vehicleId : String) (fresh : List (JsonText × JsonTree)) : JsonTree :=
  match r.latest vehicleId with
  | some latest => latest.doc
  | none => .obj fresh

end Firebot.MqttIngress
