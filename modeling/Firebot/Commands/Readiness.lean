import Firebot.Robots.Model
import Firebot.Tasks.Model

/-!
# Readiness

`robotReadiness` computes from the server's own facts which commands a robot can be given. A robot whose
messages come through the ROS compatibility layer has no way down to it in this release
(`rosCompatDownlinkImplemented`), so it is never ready; one on the canonical path has to prove the ROS
command path, a mock has not.
-/

namespace Firebot.Commands

open Firebot.Robots
open Firebot.Tasks (Cmd)

/-- `SAFETY_COMMANDS`. -/
def safetyCommands : List Cmd := [.stopMotion, .emergencyStop, .resetEstop]

/-- `AUTONOMOUS_COMMANDS`. -/
def autonomousCommands : List Cmd := [.patrol, .extinguish, .returnDock, .cancelTask]

/-- `ROS_COMPAT_DOWNLINK_IMPLEMENTED`. -/
def rosCompatDownlinkImplemented : Bool := false

/-- `control_mode == 3`: ROS has the control. -/
def controlModeRos : JsonTree → Bool
  | .int n => n = 3
  | .real q => q = 3
  | _ => false

/-- `_ros_motion_path_verified`, of a profile that exists. -/
def rosMotionPathVerified (integration : Integration) : Bool :=
  integration.bidirectionalBridgeVerified && integration.commandPathVerified &&
    integration.cmdVelArbitrationVerified && controlModeRos integration.rosControlMode

/-- `_supports`. -/
def supports (capability : Option Capability) (cmd : Cmd) : Bool :=
  capability.any fun capability => capability.supportedCommands.contains cmd.text

/-- The profiles of a robot. -/
structure Profiles where
  integration : Option Integration
  capability : Option Capability
  motion : Option MotionProfile

/-- What readiness is computed from. -/
structure Facts extends Profiles where
  robot : Robot

namespace Facts

variable (facts : Facts)

/-- `online`. -/
def online : Bool := facts.robot.enabled && facts.robot.onlineState = .online

/-- `bridge_ready`. -/
def bridgeReady : Bool :=
  facts.integration.any fun integration =>
    integration.sourceKind ≠ .rosCompat ||
      rosCompatDownlinkImplemented && integration.bidirectionalBridgeVerified

/-- `control_contract_ready`. -/
def controlContractReady : Bool :=
  facts.integration.any (·.controlContractVerified) && facts.bridgeReady

/-- `ack_contract_ready`. -/
def ackContractReady : Bool := facts.integration.any (·.ackContractVerified)

/-- `ros_command_path_ready`. -/
def rosCommandPathReady : Bool :=
  facts.integration.any fun integration =>
    (integration.sourceKind ≠ .rosCompat ||
      rosCompatDownlinkImplemented && rosMotionPathVerified integration) &&
    (integration.sourceKind ≠ .canonicalMqtt || rosMotionPathVerified integration)

/-- `safety_command_ready[command]`. -/
def safetyCommandReady (cmd : Cmd) : Bool :=
  facts.online && facts.controlContractReady && facts.ackContractReady &&
    facts.rosCommandPathReady && supports facts.capability cmd

/-- `motion_envelope_ready`. -/
def motionEnvelopeReady : Bool :=
  facts.motion.any fun motion =>
    motion.manualWatchdogVerified && motion.maxManualForwardMps.isSome &&
      motion.maxManualAngularRadps.isSome

/-- `manual_control_ready`. -/
def manualControlReady : Bool :=
  facts.online && facts.controlContractReady && facts.ackContractReady &&
    facts.rosCommandPathReady && facts.motionEnvelopeReady &&
    supports facts.capability .manualControl && facts.safetyCommandReady .stopMotion &&
    facts.robot.estopActive = some false

/-- `autonomous_task_ready[command]`. -/
def autonomousTaskReady (cmd : Cmd) : Bool :=
  facts.online && facts.controlContractReady && facts.ackContractReady &&
    facts.rosCommandPathReady && facts.integration.any (·.mapContractVerified) &&
    supports facts.capability cmd && facts.robot.estopActive = some false

/-- `readiness_reasons`. -/
def readinessReasons : List String :=
  (if facts.robot.enabled then [] else ["ROBOT_DISABLED"]) ++
  (if facts.robot.onlineState = .online then [] else ["ROBOT_" ++ facts.robot.onlineState.text]) ++
  (match facts.integration with
    | none => ["INTEGRATION_PROFILE_MISSING"]
    | some integration =>
      (if integration.sourceKind = .rosCompat && !facts.bridgeReady then
        ["ROS_COMPAT_READ_ONLY"] else []) ++
      (if integration.controlContractVerified then [] else ["CONTROL_CONTRACT_NOT_VERIFIED"]) ++
      (if integration.ackContractVerified then [] else ["ACK_CONTRACT_NOT_VERIFIED"]) ++
      (if integration.mapContractVerified then [] else ["MAP_CONTRACT_NOT_VERIFIED"]) ++
      (if integration.sourceKind = .mock then [] else
        (if integration.bidirectionalBridgeVerified then []
          else ["BIDIRECTIONAL_BRIDGE_NOT_VERIFIED"]) ++
        (if integration.commandPathVerified then [] else ["COMMAND_PATH_NOT_VERIFIED"]) ++
        (if integration.cmdVelArbitrationVerified then []
          else ["CMD_VEL_ARBITRATION_NOT_VERIFIED"]) ++
        (if controlModeRos integration.rosControlMode then [] else ["CONTROL_MODE_NOT_ROS"]))) ++
  (if facts.motionEnvelopeReady then [] else ["MANUAL_MOTION_PROFILE_NOT_VERIFIED"]) ++
  (if facts.capability.isSome then [] else ["CAPABILITY_DECLARATION_MISSING"]) ++
  (if facts.safetyCommandReady .stopMotion then [] else ["STOP_MOTION_NOT_READY"]) ++
  (if facts.robot.estopActive = some true then ["ROBOT_ESTOP_ACTIVE"] else []) ++
  (match (safetyCommands ++ Cmd.manualControl :: autonomousCommands).filter
      fun cmd => !supports facts.capability cmd with
    | [] => []
    | unsupported => ["UNSUPPORTED_COMMANDS:" ++ String.intercalate "," (unsupported.map Cmd.text)])

end Facts

/-- What `robot_readiness` returns. -/
structure Readiness where
  monitorReady : Bool
  safetyCommandReady : Cmd → Bool
  manualControlReady : Bool
  autonomousTaskReady : Cmd → Bool
  controlEnabled : Bool
  readinessReasons : List String
  motionProfile : Option MotionProfile

/-- `robot_readiness`. -/
def robotReadiness (facts : Facts) : Readiness where
  monitorReady := facts.online
  safetyCommandReady := facts.safetyCommandReady
  manualControlReady := facts.manualControlReady
  autonomousTaskReady := facts.autonomousTaskReady
  controlEnabled := facts.autonomousTaskReady .patrol
  readinessReasons := facts.readinessReasons
  motionProfile := facts.motion

/-- A robot that is ready for a task is enabled, online, without a latched stop, verified and declared to
support the task, and it is not one of the ROS compatibility layer. -/
theorem ready_of_autonomous {facts : Facts} {cmd : Cmd}
    (ready : facts.autonomousTaskReady cmd = true) :
    facts.robot.enabled = true ∧ facts.robot.onlineState = .online ∧
      facts.robot.estopActive = some false ∧ supports facts.capability cmd = true ∧
      ∃ integration, facts.integration = some integration ∧
        integration.sourceKind ≠ .rosCompat ∧ integration.controlContractVerified = true ∧
        integration.ackContractVerified = true ∧ integration.mapContractVerified = true := by
  simp only [Facts.autonomousTaskReady, Facts.online, Facts.controlContractReady,
    Facts.ackContractReady, Facts.bridgeReady, Bool.and_eq_true, decide_eq_true_eq] at ready
  obtain ⟨⟨⟨⟨⟨⟨⟨enabled, online⟩, control, bridge⟩, ack⟩, _⟩, map⟩, supported⟩, estop⟩ := ready
  refine ⟨enabled, online, estop, supported, ?_⟩
  cases profile : facts.integration with
  | none =>
    rw [profile] at control
    cases control
  | some integration =>
    simp only [profile, Option.any_some, rosCompatDownlinkImplemented, Bool.false_and,
      Bool.or_false, decide_eq_true_eq] at control bridge ack map
    exact ⟨integration, rfl, bridge, control, ack, map⟩

end Firebot.Commands
