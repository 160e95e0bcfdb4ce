import Firebot.Maps.Model
import Firebot.Tasks.Model

/-!
# The builders of motion tasks

Every request that sets a robot in motion has its builder: a full patrol, a resumed patrol, an extinguishing
run, the navigation to a preset, a return and the scheduled patrol. A builder reads its rows through keys of
its own and compares the robot's map version with what it has read, with one row of it, or with nothing.

The coordinates of a mission are told by where they come from. The command of the task says once more where to go,
and on which map (`Params`); `create_task` spreads the parameters of the request over that, so that a request brings
coordinates and names of maps of its own along. A request that replays an earlier response creates nothing and is left
out.
-/

namespace Firebot.Missions

open Firebot.Maps (ExtinguishPoint Id Kind MapVersion NavigationPreset ParkingSlot Trajectory)
open Firebot.Tasks (TaskType)

/-- The map of a robot, as it has reported it last. -/
structure Robot where
  currentMapId : Option Id
  currentMapVersion : Option String

/-- A row of `patrol_plans`. -/
structure PatrolPlan where
  code : String
  robotId : Id
  mapVersionId : Id
  trajectoryId : Option Id
  enabled : Bool

/-- A row of `patrol_plan_points`. -/
structure PatrolPlanPoint where
  patrolPlanId : Id
  navigationPresetId : Id
  sequence : Int
  dwellSeconds : Int
  requiredObservationsJson : JsonTree

/-- The maps, the robots and the plans. `idText` is the text of an id. -/
structure Catalogue extends Maps.Database where
  idText : Id → String
  robots : Table Id Robot
  plans : Table Id PatrolPlan
  points : Table Id PatrolPlanPoint

/-! ## Missions -/

/-- Where coordinates come from: a row, the waypoints of a trajectory that are left behind the robot's pose,
or constants of `route_builder.py`. -/
inductive Coordinates where
  | preset (id : Id)
  | extinguishPoint (id : Id)
  | trajectory (id : Id)
  | resumed (trajectoryId : Option Id)
  | corridors
  deriving DecidableEq

/-- The row that coordinates come from. -/
def Coordinates.row : Coordinates → Option (Kind × Id)
  | preset id => some (.preset, id)
  | extinguishPoint id => some (.extinguish, id)
  | trajectory id => some (.trajectory, id)
  | resumed trajectoryId => trajectoryId.map fun id => (.trajectory, id)
  | corridors => none

/-- A point of `parameters["points"]`. -/
structure MissionPoint where
  pose : Coordinates
  dwellSeconds : Int
  requiredObservations : JsonTree

/-- A parameter of a command: from the tables, or brought along by the request. -/
inductive Param (α : Type) where
  | own (value : α)
  | brought (value : JsonTree)

/-- The parameters of a command that say where to go; one that the command does not have is `none`. -/
structure Params where
  targetPose : Option (Param Coordinates)
  mapId : Option (Param Id)
  mapVersion : Option (Param String)
  trajectory : Param (Option Coordinates)
  points : List MissionPoint

/-- `payload.parameters`. -/
abbrev Parameters := List (JsonText × JsonTree)

/-- A parameter that `**payload.parameters` may replace. -/
def Parameters.spread {α : Type} (parameters : Parameters) (name : String) (value : α) : Param α :=
  match parameters.lookup (.chars name) with
  | some given => .brought given
  | none => .own value

/-- A motion task, and the command that is dispatched for it. A snapshot that is empty is `none`. -/
structure Mission where
  robotId : Id
  type : TaskType
  phase : String
  targetPose : Coordinates
  mapId : Option Id
  mapVersion : Option String
  semanticRevision : Int
  trajectory : Option Coordinates
  points : List MissionPoint
  params : Params

/-- The value, if it is from the tables. -/
def Param.own? {α : Type} : Param α → Option α
  | own value => some value
  | brought _ => none

/-- The coordinates from the tables that a command has. -/
def Params.coordinates (p : Params) : List Coordinates :=
  (p.targetPose.bind Param.own?).toList ++ (p.trajectory.own?.bind id).toList ++ p.points.map (·.pose)

/-- The rows that the trajectory and the target poses of a mission come from, in the task and in its command. -/
def Mission.sources (m : Mission) : List (Kind × Id) :=
  (m.targetPose :: (m.trajectory.toList ++ m.points.map (·.pose)) ++ m.params.coordinates).filterMap Coordinates.row

/-- Why there is no mission: an answer of the API, or the state and reason of a schedule's occurrence. -/
inductive Refused where
  | http (status : Nat) (detail : String)
  | platform (code message : String) (status : Nat)
  | occurrence (state reason : String)
  | raised
  deriving DecidableEq

/-- `PlatformError(code, message)`. -/
def platformError (code message : String) : Refused := .platform code message 409

/-- A row that has to be there. -/
def found {α : Type} (missing : Refused) (row : Option α) : Except Refused α := row.elim (.error missing) .ok

/-- A check. -/
def require (holds : Bool) (refused : Refused) : Except Refused Unit :=
  if holds then .ok () else .error refused

@[simp] theorem found_eq_ok {α : Type} {missing : Refused} {row : Option α} {a : α} :
    found missing row = .ok a ↔ row = some a := by
  cases row <;> simp [found]

@[simp] theorem require_eq_ok {holds : Bool} {refused : Refused} {u : Unit} :
    require holds refused = .ok u ↔ holds = true := by
  cases holds <;> simp [require]

/-- The robot's map is the version's. -/
def Robot.on (robot : Robot) (version : MapVersion) : Bool :=
  robot.currentMapId = some version.mapId && robot.currentMapVersion = some version.version

/-! ## The builders -/

namespace Catalogue

variable (c : Catalogue)

/-- `db.get(NavigationPreset, id)`. -/
def preset (id : Id) : Option NavigationPreset := (c.rows .preset).lookup id

/-- `db.get(Trajectory, id)`. -/
def trajectory (id : Id) : Option Trajectory := (c.rows .trajectory).lookup id

/-- `db.get(ParkingSlot, id)`. -/
def slot (id : Id) : Option ParkingSlot := (c.rows .slot).lookup id

/-- The points of a plan, in their order. -/
def pointsOf (planId : Id) : List PatrolPlanPoint :=
  ((c.points.select fun _ point => point.patrolPlanId = planId).map (·.2)).mergeSort
    fun a b => a.sequence ≤ b.sequence

/-- The trajectory of a plan, if it is there. -/
def trajectoryOf (plan : PatrolPlan) : Option Id :=
  plan.trajectoryId.filter fun id => (c.trajectory id).isSome

/-- The preset is there and enabled. -/
def usable (presetId : Id) : Bool := (c.preset presetId).any (·.enabled)

/-- A point of a plan in the task. -/
def missionPoint (point : PatrolPlanPoint) : MissionPoint where
  pose := .preset point.navigationPresetId
  dwellSeconds := point.dwellSeconds
  requiredObservations := point.requiredObservationsJson

/-- `build_patrol_task`. -/
def buildPatrolTask (planId : Id) (plan : PatrolPlan) (robotId : Id) (robot : Robot) :
    Except Refused Mission := do
  let invalid := platformError "PATROL_PLAN_INVALID" "巡检计划或地图版本无效"
  let version ← found invalid (c.versions.lookup plan.mapVersionId)
  require plan.enabled invalid
  require (robot.on version) (platformError "MAP_VERSION_MISMATCH" "机器人地图版本与巡检计划不一致")
  let first ← found (platformError "PATROL_PLAN_POINTS_INVALID" "巡检计划缺少有效预设点")
    (c.pointsOf planId).head?
  require ((c.pointsOf planId).all fun point => c.usable point.navigationPresetId)
    (platformError "PATROL_PLAN_POINTS_INVALID" "巡检计划缺少有效预设点")
  let trajectory := (c.trajectoryOf plan).map .trajectory
  let points := (c.pointsOf planId).map missionPoint
  return {
    robotId, type := .patrol, phase := "PATROL_PLAN_TRIGGERED"
    targetPose := .preset first.navigationPresetId
    mapId := some version.mapId, mapVersion := some version.version
    semanticRevision := version.semanticRevision
    trajectory, points
    params := {
      targetPose := none, mapId := some (.own version.mapId), mapVersion := some (.own version.version)
      trajectory := .own trajectory, points } }

/-- `build_resumed_patrol_task`. `routed` says that the builder of the route does not raise. -/
def buildResumedPatrolTask (plan : PatrolPlan) (robotId : Id) (poseKnown routed : Bool) :
    Except Refused Mission := do
  let invalid := platformError "PATROL_PLAN_INVALID" "巡检计划或地图版本无效"
  let version ← found invalid (c.versions.lookup plan.mapVersionId)
  require plan.enabled invalid
  require poseKnown (platformError "ROBOT_POSE_UNKNOWN" "无法确定机器人当前位置，不能安全恢复巡检")
  require routed .raised
  return {
    robotId, type := .patrol, phase := "PATROL_RESUMED"
    targetPose := .resumed (c.trajectoryOf plan)
    mapId := some version.mapId, mapVersion := some version.version
    semanticRevision := version.semanticRevision
    trajectory := some (.resumed (c.trajectoryOf plan))
    points := []
    params := {
      targetPose := none, mapId := some (.own version.mapId), mapVersion := some (.own version.version)
      trajectory := .own (some (.resumed (c.trajectoryOf plan))), points := [] } }

/-- The extinguish point of a slot. -/
def extinguishPoint (slotId : Id) : Option (Id × ExtinguishPoint) :=
  ((c.rows .extinguish).select fun _ point => ExtinguishPoint.parkingSlotId point = slotId).head?

/-- `EXTINGUISH_MODES`. -/
def extinguishModes : List String := ["DEPLOY_BLANKET", "SPRAY_AGENT", "DEPLOY_THEN_SPRAY"]

/-- `mode not in EXTINGUISH_MODES`, which raises for a list or a dictionary. -/
def checkMode (parameters : Parameters) : Except Refused Unit :=
  let missing := platformError "EXTINGUISH_MODE_REQUIRED" "灭火任务必须明确选择处理方式"
  match (parameters.lookup (.chars "extinguish_mode")).getD .null with
  | .str mode => require (extinguishModes.any fun known => mode = .chars known) missing
  | .arr _ | .obj _ => .error .raised
  | _ => .error missing

/-- `target_snapshot` of an extinguishing run, and the task and the command of `create_task`. -/
def buildExtinguishTask (robotId : Id) (robot : Robot) (slotId : Id) (trajectoryId : Option Id)
    (parameters : Parameters) : Except Refused Mission := do
  checkMode parameters
  let slot ← found (.http 404 "目标车位不存在") (c.slot slotId)
  let version ← found (.http 409 "目标必须属于 Published 地图版本")
    ((c.versions.lookup slot.mapVersionId).filter (·.status = .published))
  require (robot.on version) (platformError "MAP_VERSION_MISMATCH" "机器人地图版本与任务目标不一致")
  let (pointId, _) ← found (.http 409 "目标车位缺少灭火操作点") (c.extinguishPoint slotId)
  let trajectoryId := trajectoryId.filter fun id => (c.trajectory id).isSome
  require ((trajectoryId.bind c.trajectory).all fun trajectory =>
    trajectory.mapVersionId = slot.mapVersionId) (.http 409 "轨迹与目标地图版本不一致")
  return {
    robotId, type := .extinguish, phase := "CREATED"
    targetPose := .extinguishPoint pointId
    mapId := some version.mapId, mapVersion := some version.version
    semanticRevision := version.semanticRevision
    trajectory := trajectoryId.map .trajectory
    points := []
    params := {
      targetPose := some (parameters.spread "target_pose" (.extinguishPoint pointId))
      mapId := some (parameters.spread "map_id" version.mapId)
      mapVersion := some (parameters.spread "map_version" version.version)
      trajectory := parameters.spread "trajectory" (trajectoryId.map .trajectory)
      points := [] } }

/-- The task of `navigate_to_preset`. `reversing` is the profile's `reverse_precision_navigation`. -/
def buildNavigationTask (robotId : Id) (robot : Robot) (presetId : Id) (reversing : Bool) :
    Except Refused Mission := do
  let missing := Refused.platform "RESOURCE_NOT_FOUND" "预设位置不存在或已停用" 404
  let preset ← found missing (c.preset presetId)
  require preset.enabled missing
  let version ← found (platformError "MAP_VERSION_NOT_PUBLISHED" "预设位置必须属于已发布地图")
    ((c.versions.lookup preset.mapVersionId).filter (·.status = .published))
  require (robot.on version) (platformError "MAP_VERSION_MISMATCH" "机器人与预设位置的地图版本不一致")
  require (!preset.requiresReverse || reversing)
    (platformError "REVERSE_PRECISION_UNSUPPORTED" "当前 AGV 能力边界不承诺需要倒车的精确到位任务")
  return {
    robotId, type := .navigateToPreset, phase := "CREATED"
    targetPose := .preset presetId
    mapId := some version.mapId, mapVersion := some version.version
    semanticRevision := preset.semanticRevision
    trajectory := none
    points := []
    params := {
      targetPose := some (.own (.preset presetId)), mapId := some (.own version.mapId)
      mapVersion := some (.own version.version), trajectory := .own none, points := [] } }

/-- The version has the cruise. -/
def hasCruise (versionId : Id) : Bool :=
  (c.rows .trajectory).rows.any fun row =>
    Trajectory.code row.2 = "RIGHT_SIDE_S_CRUISE" && Trajectory.mapVersionId row.2 = versionId

/-- The preset is the waiting area of a version that has the cruise. -/
def isWaiting (preset : NavigationPreset) : Bool :=
  c.hasCruise preset.mapVersionId && preset.category = "WAITING_AREA" &&
    preset.code = "REMOTE_WAITING_AREA"

/-- The preset that a return goes to. -/
def waiting : Option (Id × NavigationPreset) := ((c.rows .preset).select fun _ => c.isWaiting).head?

/-- `build_return_task`. The way back leads through the corridors. -/
def buildReturnTask (robotId : Id) (robot : Robot) : Except Refused Mission := do
  let (presetId, _) ← found (platformError "WAITING_AREA_MISSING" "未配置远端待命区") c.waiting
  return {
    robotId, type := .returnDock, phase := "RETURN_TRIGGERED"
    targetPose := .preset presetId
    mapId := robot.currentMapId, mapVersion := robot.currentMapVersion
    semanticRevision := 1
    trajectory := some .corridors
    points := []
    params := {
      targetPose := some (.own (.preset presetId)), mapId := none, mapVersion := none
      trajectory := .own (some .corridors), points := [] } }

/-! ## The requests -/

/-- The first plan of a robot that is enabled, by code. -/
def firstPlan (robotId : Id) : Option (Id × PatrolPlan) :=
  ((c.plans.select fun _ plan => plan.robotId = robotId && plan.enabled).mergeSort
    fun a b => a.2.code ≤ b.2.code).head?

/-- `find_robot`. -/
def findRobot (robotId : Id) : Except Refused Robot :=
  found (.http 404 "机器人不存在") (c.robots.lookup robotId)

/-- A plan that is the robot's. -/
def ownPlan (robotId planId : Id) : Except Refused PatrolPlan :=
  found (platformError "PATROL_PLAN_INVALID" "巡检计划不存在或不属于当前机器人")
    ((c.plans.lookup planId).filter (·.robotId = robotId))

end Catalogue

/-- The paths to a motion task. What a path checks besides its rows is given as its outcome. -/
inductive Path where
  | patrol (robotId : Id)
  | patrolPlan (robotId planId : Id) (guards : Except Refused Unit)
  | resume (robotId planId : Id) (previous : Except Refused Unit) (poseKnown routed : Bool)
  | schedule (planId : Id) (gates : Except Refused Unit) (active : Except Refused Unit)
  | extinguish (robotId slotId : Id) (trajectoryId : Option Id) (parameters : Parameters)
  | navigate (robotId presetId : Id) (reversing : Bool)
  | returnDock (robotId : Id)

namespace Catalogue

variable (c : Catalogue)

/-- `_dispatch_schedule_occurrence`: the gates that come before the comparison of the maps, the comparison,
the one that looks for an active task, and the build. -/
def dispatchScheduleOccurrence (planId : Id) (gates active : Except Refused Unit) :
    Except Refused Mission := do
  let invalid := Refused.occurrence "REJECTED" "CONFIGURATION_INVALID"
  let plan ← found invalid (c.plans.lookup planId)
  let robot ← found invalid (c.robots.lookup plan.robotId)
  let version ← found invalid (c.versions.lookup plan.mapVersionId)
  require plan.enabled invalid
  gates
  require (robot.on version) (.occurrence "SKIPPED" "MAP_VERSION_MISMATCH")
  active
  c.buildPatrolTask planId plan plan.robotId robot

/-- The mission that a path comes to. -/
def build : Path → Except Refused Mission
  | .patrol robotId => do
    let robot ← c.findRobot robotId
    let (planId, plan) ← found (platformError "PATROL_PLAN_INVALID" "当前机器人没有启用的巡检计划")
      (c.firstPlan robotId)
    c.buildPatrolTask planId plan robotId robot
  | .patrolPlan robotId planId guards => do
    let robot ← c.findRobot robotId
    let plan ← c.ownPlan robotId planId
    guards
    c.buildPatrolTask planId plan robotId robot
  | .resume robotId planId previous poseKnown routed => do
    let _ ← c.findRobot robotId
    let plan ← c.ownPlan robotId planId
    previous
    c.buildResumedPatrolTask plan robotId poseKnown routed
  | .schedule planId gates active => c.dispatchScheduleOccurrence planId gates active
  | .extinguish robotId slotId trajectoryId parameters => do
    let robot ← c.findRobot robotId
    c.buildExtinguishTask robotId robot slotId trajectoryId parameters
  | .navigate robotId presetId reversing => do
    let robot ← c.findRobot robotId
    c.buildNavigationTask robotId robot presetId reversing
  | .returnDock robotId => do
    let robot ← c.findRobot robotId
    c.buildReturnTask robotId robot

/-- The task is created if what comes after its builder lets it through: `create_durable_command` first. -/
def create (path : Path) (admitted : Except Refused Unit) : Except Refused Mission := do
  let mission ← c.build path
  admitted
  return mission

end Catalogue

end Firebot.Missions
