import Firebot.Commands.Readiness
import Firebot.Tasks.World

/-!
# Whether a command may be created

`assertRobotCanExecute` goes through the server's facts in order and raises at the first that forbids
the action. `createDurableCommand` inserts the command with its outbox event once it does not, and once
the robot's boot session is known. Redis is asked for the manual lease and the database for an active
task; either may fail.
-/

namespace Firebot.Commands

open Firebot.Robots
open Firebot.Tasks (Cmd Command Database TaskType)

/-! ## Exceptions -/

/-- What a request raises: an error of the platform with its code and text, or an exception of the
database or of Redis. -/
inductive Raised where
  | platform (code message : String)
  | database
  | redis
  deriving DecidableEq, Repr

/-- `getattr(exc, "code", "PATROL_BUILD_FAILED")`. -/
def Raised.code : Raised → String
  | .platform code _ => code
  | .database | .redis => "PATROL_BUILD_FAILED"

/-- An exception of the database ends the transaction: nothing of it can be committed any more. -/
def Raised.breaks : Raised → Bool
  | .database => true
  | .platform .. | .redis => false

/-! ## `assert_robot_can_execute` -/

/-- Everything the checks before a command see: the robot, its profiles, the answer of Redis about a
manual lease, and the active task, other than the command's own, that the query finds; `none` where the
call fails. -/
structure Sight where
  robot : Robot
  profiles : Option Profiles
  lease : Option Bool
  activeTask : Option (Option TaskType)

/-- `action in {...}`: emergency and plain stop. -/
def stops (cmd : Cmd) : Bool := cmd = .emergencyStop || cmd = .stopMotion

/-- The first part: the robot itself. -/
def checkRobot (robot : Robot) (cmd : Cmd) : Except Raised Unit :=
  if !robot.enabled then .error (.platform "ROBOT_DISABLED" "机器人已禁用")
  else if robot.onlineState ≠ .online && !stops cmd then
    .error (.platform ("ROBOT_" ++ robot.onlineState.text)
      ("机器人状态为 " ++ robot.onlineState.text ++ "，拒绝执行 " ++ cmd.text))
  else if robot.estopActive = some true && cmd ≠ .emergencyStop && cmd ≠ .resetEstop then
    .error (.platform "ROBOT_ESTOP_ACTIVE" "软件急停已锁存")
  else .ok ()

/-- The second part: the robot has its profiles, and there is a way down to it. -/
def checkProfiles (profiles : Profiles) : Except Raised (Integration × Capability) :=
  match profiles.integration with
  | none =>
    .error (.platform "INTEGRATION_PROFILE_MISSING" "机器人尚未建立可信集成档案，拒绝执行车辆命令")
  | some integration =>
    if integration.sourceKind = .rosCompat &&
        !(rosCompatDownlinkImplemented && rosMotionPathVerified integration) then
      .error (.platform "ROS_COMPAT_READ_ONLY"
        ((integration.readOnlyReason.filter (· ≠ "")).getD
          "ROS1 兼容链路的下行、仲裁或 control_mode 尚未验证"))
    else match profiles.capability with
      | none => .error (.platform "CAPABILITY_DECLARATION_MISSING"
          "机器人尚未提供可信能力声明，拒绝执行车辆命令")
      | some capability => .ok (integration, capability)

/-- The third part: the contracts and the readiness for the action. -/
def checkReadiness (facts : Facts) (integration : Integration) (cmd : Cmd) : Except Raised Unit :=
  if !integration.controlContractVerified then
    .error (.platform "CONTROL_CONTRACT_NOT_VERIFIED"
      ((integration.readOnlyReason.filter (· ≠ "")).getD "实车控制合同尚未验证，当前仅允许只读监控"))
  else if autonomousCommands.contains cmd &&
      !(integration.ackContractVerified && integration.mapContractVerified) then
    .error (.platform "INTEGRATION_CONTRACT_INCOMPLETE" "ACK 或地图合同尚未验证，拒绝自动运动任务")
  else if safetyCommands.contains cmd && facts.robot.onlineState = .online &&
      !(robotReadiness facts).safetyCommandReady cmd then
    .error (.platform "SAFETY_COMMAND_NOT_READY" "安全命令链路或对应车辆能力尚未验证")
  else if cmd = .manualControl && !(robotReadiness facts).manualControlReady then
    .error (.platform "MANUAL_CONTROL_NOT_READY" "手动控制链路、500ms watchdog 或运动参数尚未验证")
  else if autonomousCommands.contains cmd && !(robotReadiness facts).autonomousTaskReady cmd then
    .error (.platform "AUTONOMOUS_TASK_NOT_READY" "自动任务链路、地图或对应车辆能力尚未验证")
  else .ok ()

/-- The fourth part: a manual lease forbids a task. -/
def checkLease (lease : Option Bool) (cmd : Cmd) : Except Raised Unit :=
  if cmd.business then
    match lease with
    | none => .error .redis
    | some true => .error (.platform "MANUAL_LEASE_CONFLICT" "机器人已有有效手动控制租约，请先显式释放")
    | some false => .ok ()
  else .ok ()

/-- The last part: an active task forbids another. -/
def checkActiveTask (activeTask : Option (Option TaskType)) (cmd : Cmd) : Except Raised Unit :=
  match activeTask with
  | none => .error .database
  | some none => .ok ()
  | some (some type) =>
    match cmd with
    | .manualControl =>
      .error (.platform "ACTIVE_TASK_CONFLICT" "存在自动任务，请先显式取消任务再进入手动模式")
    | .patrol => .error (.platform "ACTIVE_TASK_CONFLICT" "机器人已有活动业务任务")
    | .returnDock =>
      if type = .extinguish then
        .error (.platform "ACTIVE_TASK_CONFLICT" "灭火任务活动时不能回充")
      else .ok ()
    | .extinguish =>
      .error (.platform "ACTIVE_TASK_CONFLICT" "灭火任务不得静默覆盖现有任务，请先显式取消")
    | .cancelTask | .stopMotion | .emergencyStop | .resetEstop => .ok ()

/-- `assert_robot_can_execute`. -/
def assertRobotCanExecute (sight : Sight) (cmd : Cmd) : Except Raised Unit := do
  checkRobot sight.robot cmd
  match sight.profiles with
  | none => .error .database
  | some profiles =>
    let (integration, capability) ← checkProfiles profiles
    checkReadiness { profiles with robot := sight.robot } integration cmd
    checkLease sight.lease cmd
    if capability.supportedCommands.contains cmd.text then
      checkActiveTask sight.activeTask cmd
    else
      .error (.platform "ROBOT_CAPABILITY_UNSUPPORTED" ("机器人能力声明不支持 " ++ cmd.text))

/-- The check of `build_command_payload`. -/
def checkBoot (robot : Robot) (cmd : Cmd) : Except Raised Unit :=
  if robot.bootId.all (· = "") && cmd ≠ .emergencyStop then
    .error (.platform "ROBOT_BOOT_SESSION_UNKNOWN" "机器人当前 boot 会话未知，拒绝发送命令")
  else .ok ()

/-- Everything that `create_durable_command` checks before it inserts. -/
def checkCommand (sight : Sight) (cmd : Cmd) : Except Raised Unit := do
  assertRobotCanExecute sight cmd
  checkBoot sight.robot cmd

end Firebot.Commands
