import Firebot.Lib.JsonTree
import Firebot.Data.Json

/-!
# A robot and what the server knows of it

The rows of `robots`, `robot_integration_profiles`, `robot_capabilities` and `robot_motion_profiles`, as
far as the ingress, the worker and the checks before a command read or write them. A column that takes
a number from a message keeps it as it was decoded.
-/

namespace Firebot.Robots

/-- `Robot.online_state`. -/
inductive OnlineState where
  | online
  | stale
  | offline
  deriving DecidableEq, Repr

/-- The text of the column. -/
def OnlineState.text : OnlineState → String
  | .online => "ONLINE"
  | .stale => "STALE"
  | .offline => "OFFLINE"

/-- A row of `robots`; `battery` is `null` where the column is. -/
structure Robot where
  siteId : String
  enabled : Bool
  onlineState : OnlineState
  lastSeenAt : Option Time
  currentMapId : Option String
  currentMapVersion : Option String
  currentMode : String
  currentTaskId : Option String
  battery : JsonTree
  estopActive : Option Bool
  bootId : Option String

/-- `RobotIntegrationProfile.source_kind`. -/
inductive SourceKind where
  | canonicalMqtt
  | rosCompat
  | mock
  deriving DecidableEq, Repr

/-- The text of the column. -/
def SourceKind.text : SourceKind → String
  | .canonicalMqtt => "CANONICAL_MQTT"
  | .rosCompat => "ROS_COMPAT"
  | .mock => "MOCK"

/-- What the last message of one kind said, in `compat_sequence_state_json`. -/
structure SequenceState where
  bridgeBootId : JsonTree
  seq : JsonTree
  sourceTimestamp : Time

/-- A row of `robot_integration_profiles`. -/
structure Integration where
  sourceKind : SourceKind
  upstreamProtocol : Option String
  externalId : JsonTree
  bridgeBootId : JsonTree
  availabilityState : Option String
  reportedSiteCode : JsonTree
  reportedMapCode : JsonTree
  reportedMapVersion : JsonTree
  reportedMapChecksum : JsonTree
  lastSourceTimestamp : Option Time
  lastReceivedAt : Option Time
  compatSequenceState : List (String × SequenceState)
  controlContractVerified : Bool
  ackContractVerified : Bool
  mapContractVerified : Bool
  bidirectionalBridgeVerified : Bool
  commandPathVerified : Bool
  cmdVelArbitrationVerified : Bool
  rosControlMode : JsonTree
  readOnlyReason : Option String
  staleSeconds : Int
  offlineSeconds : Int
  reversePrecisionNavigation : Bool

/-- A new profile: the defaults of its columns. -/
def Integration.initial : Integration where
  sourceKind := .canonicalMqtt
  upstreamProtocol := none
  externalId := .null
  bridgeBootId := .null
  availabilityState := none
  reportedSiteCode := .null
  reportedMapCode := .null
  reportedMapVersion := .null
  reportedMapChecksum := .null
  lastSourceTimestamp := none
  lastReceivedAt := none
  compatSequenceState := []
  controlContractVerified := false
  ackContractVerified := false
  mapContractVerified := false
  bidirectionalBridgeVerified := false
  commandPathVerified := false
  cmdVelArbitrationVerified := false
  rosControlMode := .null
  readOnlyReason := none
  staleSeconds := 3
  offlineSeconds := 10
  reversePrecisionNavigation := false

/-- A row of `robot_capabilities`. -/
structure Capability where
  protocolVersion : String
  supportedCommands : List String
  sensors : List String
  media : List String
  receivedAt : Time
  deriving DecidableEq

/-- A row of `robot_motion_profiles`. -/
structure MotionProfile where
  maxManualForwardMps : Option ℚ
  maxManualReverseMps : Option ℚ
  maxManualAngularRadps : Option ℚ
  manualWatchdogVerified : Bool
  reverseAllowed : Bool
  reversePrecisionVerified : Bool
  deriving DecidableEq

end Firebot.Robots
