import Firebot.Lib.Except
import Firebot.Missions.Model

/-!
# Motion tasks and the robot's map

A mission is to be driven on the map that the robot is on: the trajectory and the target poses belong to the
robot's current map version, and so does the version that the command names. The builders compare the robot with
one version and take their rows from wherever the keys lead: a plan's trajectory may belong to another version
than the plan, an extinguish point to another than its slot. A resumed patrol and a return are compared with
nothing, and an extinguishing run takes places and names from the request as they are. **A path that creates its
task creates it on the robot's map exactly if its rows and its request meet what is asked of them**
(`created_on_map_iff`). Nothing is said of a map that changes after the task has been created.

Two versions of one map with the same name are one row (`Consistent.single`), so that the comparison by map
and version is one of rows.
-/

namespace Firebot.Missions

open Firebot.Maps (Id Kind MapVersion)

namespace Catalogue

variable (c : Catalogue)

/-! ## What is asked for -/

/-- The version of a row is the robot's. -/
def Belongs (robot : Robot) (row : Kind × Id) : Prop :=
  ∃ r version, (c.rows row.1).lookup row.2 = some r ∧
    c.versions.lookup (row.1.mapVersionId r) = some version ∧ robot.on version = true

/-- The parameter is the text of a value. -/
def Named {α : Type} (text : α → String) (p : Param α) (current : Option α) : Prop :=
  match p with
  | .own value => current = some value
  | .brought value => ∃ a, current = some a ∧ value = .str (text a)

/-- The mission is on the map of a robot: the rows that it comes from belong to the version that the robot is on, it has
no coordinates that belong to no version, and the version that its command names is the robot's. -/
structure OnMapOf (robot : Robot) (m : Mission) : Prop where
  rows : ∀ row ∈ m.sources, c.Belongs robot row
  targetPose : ∀ value, m.params.targetPose = some (.brought value) → value = .null
  trajectory : ∀ value, m.params.trajectory = .brought value → value = .null
  mapId : ∀ p, m.params.mapId = some p → Named c.idText p robot.currentMapId
  mapVersion : ∀ p, m.params.mapVersion = some p → Named id p robot.currentMapVersion

/-- The mission is on the map of its robot. -/
def OnMap (m : Mission) : Prop :=
  ∀ robot, c.robots.lookup m.robotId = some robot → c.OnMapOf robot m

/-- If a path creates its task, the mission is on the robot's map. -/
def CreatesOnMap (path : Path) (admitted : Except Refused Unit) : Prop :=
  ∀ m, c.create path admitted = .ok m → c.OnMap m

/-- The trajectory and the presets of a plan are of the plan's version. -/
structure OfOneVersion (planId : Id) (plan : PatrolPlan) : Prop where
  trajectory : ∀ id row, c.trajectoryOf plan = some id → c.trajectory id = some row →
    row.mapVersionId = plan.mapVersionId
  preset : ∀ point ∈ c.pointsOf planId, ∀ row, c.preset point.navigationPresetId = some row →
    row.mapVersionId = plan.mapVersionId

/-- The trajectory of a plan is of the plan's version. -/
def TrajectoryOfVersion (plan : PatrolPlan) : Prop :=
  ∀ id row, c.trajectoryOf plan = some id → c.trajectory id = some row → row.mapVersionId = plan.mapVersionId

/-- A request for an extinguishing run brings no coordinates along, and no other map than the robot's. -/
structure Plain (robot : Robot) (parameters : Parameters) : Prop where
  targetPose : ∀ value, parameters.lookup (.chars "target_pose") = some value → value = .null
  trajectory : ∀ value, parameters.lookup (.chars "trajectory") = some value → value = .null
  mapId : ∀ value, parameters.lookup (.chars "map_id") = some value →
    ∃ id, robot.currentMapId = some id ∧ value = .str (c.idText id)
  mapVersion : ∀ value, parameters.lookup (.chars "map_version") = some value →
    ∃ version, robot.currentMapVersion = some version ∧ value = .str version

/-- What the rows of a path and its request have to meet. -/
def SameVersion : Path → Prop
  | .patrol robotId => ∀ planId plan, c.firstPlan robotId = some (planId, plan) → c.OfOneVersion planId plan
  | .patrolPlan _ planId _ => ∀ plan, c.plans.lookup planId = some plan → c.OfOneVersion planId plan
  | .resume robotId planId _ _ _ => ∀ robot plan version, c.robots.lookup robotId = some robot →
      c.plans.lookup planId = some plan → c.versions.lookup plan.mapVersionId = some version →
      robot.on version = true ∧ c.TrajectoryOfVersion plan
  | .schedule planId _ _ => ∀ plan, c.plans.lookup planId = some plan → c.OfOneVersion planId plan
  | .extinguish robotId slotId _ parameters => (∀ slot pointId point, c.slot slotId = some slot →
      c.extinguishPoint slotId = some (pointId, point) → point.mapVersionId = slot.mapVersionId) ∧
      ∀ robot, c.robots.lookup robotId = some robot → c.Plain robot parameters
  | .navigate _ _ _ => True
  | .returnDock robotId => ∀ robot presetId preset, c.robots.lookup robotId = some robot →
      c.waiting = some (presetId, preset) → c.Belongs robot (.preset, presetId)

/-! ## Rows and versions -/

variable {c} {robot : Robot} {version : MapVersion} {versionId : Id}

/-- A row is on the map of a robot that is on some version exactly if it is of this version. -/
theorem belongs_iff (at_ : c.versions.lookup versionId = some version) (on_ : robot.on version = true)
    {k : Kind} {id : Id} {r : k.Row} (found : (c.rows k).lookup id = some r) :
    c.Belongs robot (k, id) ↔ k.mapVersionId r = versionId := by
  constructor
  · rintro ⟨r', version', found', at', on'⟩
    cases found.symm.trans found'
    simp only [Robot.on, Bool.and_eq_true, decide_eq_true_eq] at on_ on'
    apply c.consistent.single _ _ version' version at' at_
    · exact Option.some.inj (on'.1.symm.trans on_.1)
    · exact Option.some.inj (on'.2.symm.trans on_.2)
  · intro same
    exact ⟨r, version, found, by rw [same, at_], on_⟩

/-- The command goes where the task goes. -/
def Echoes (m : Mission) : Prop :=
  ∀ source ∈ m.params.coordinates, source = m.targetPose ∨ m.trajectory = some source ∨
    ∃ point ∈ m.points, point.pose = source

theorem mem_sources {m : Mission} (echoes : Echoes m) {row : Kind × Id} :
    row ∈ m.sources ↔ m.targetPose.row = some row ∨ (∃ path, m.trajectory = some path ∧
      path.row = some row) ∨ ∃ point ∈ m.points, point.pose.row = some row := by
  unfold Mission.sources
  simp only [List.mem_filterMap, List.mem_cons, List.mem_append, Option.mem_toList, List.mem_map]
  constructor
  · rintro ⟨source, (rfl | path | ⟨point, mem, rfl⟩) | sent, found⟩
    · exact .inl found
    · exact .inr (.inl ⟨source, path, found⟩)
    · exact .inr (.inr ⟨point, mem, found⟩)
    · rcases echoes source sent with rfl | path | ⟨point, mem, rfl⟩
      · exact .inl found
      · exact .inr (.inl ⟨source, path, found⟩)
      · exact .inr (.inr ⟨point, mem, found⟩)
  · rintro (found | ⟨path, is_path, found⟩ | ⟨point, mem, found⟩)
    · exact ⟨_, .inl (.inl rfl), found⟩
    · exact ⟨path, .inl (.inr (.inl is_path)), found⟩
    · exact ⟨_, .inl (.inr (.inr ⟨point, mem, rfl⟩)), found⟩

/-- A command whose parameters are all from the tables, and name the version that the robot is on, leaves the rows only
to be looked at. -/
theorem onMapOf_iff {m : Mission} (target : ∀ value, m.params.targetPose ≠ some (.brought value))
    (path : ∀ value, m.params.trajectory ≠ .brought value)
    (mapId : ∀ p, m.params.mapId = some p → Named c.idText p robot.currentMapId)
    (mapVersion : ∀ p, m.params.mapVersion = some p → Named id p robot.currentMapVersion) :
    c.OnMapOf robot m ↔ ∀ row ∈ m.sources, c.Belongs robot row := by
  constructor
  · exact OnMapOf.rows
  · intro rows
    exact ⟨rows, fun value brought => absurd brought (target value), fun value brought => absurd brought (path value),
      mapId, mapVersion⟩

theorem on_iff : robot.on version = true ↔
    robot.currentMapId = some version.mapId ∧ robot.currentMapVersion = some version.version := by
  simp only [Robot.on, Bool.and_eq_true, decide_eq_true_eq]

theorem usable_found {presetId : Id} (enabled : c.usable presetId = true) :
    ∃ row, c.preset presetId = some row := by
  unfold usable at enabled
  cases found : c.preset presetId with
  | none =>
    rw [found] at enabled
    cases enabled
  | some row => exact ⟨row, rfl⟩

theorem trajectoryOf_found {plan : PatrolPlan} {id : Id} (named : c.trajectoryOf plan = some id) :
    ∃ row, c.trajectory id = some row := by
  unfold trajectoryOf at named
  obtain ⟨-, found⟩ := Option.filter_eq_some_iff.mp named
  exact Option.isSome_iff_exists.mp found

/-! ## The builders -/

/-- A full patrol is on the map exactly if its plan is of one version. -/
theorem onMap_patrol_iff {planId : Id} {plan : PatrolPlan} {robotId : Id} {m : Mission}
    (own : c.robots.lookup robotId = some robot)
    (built : c.buildPatrolTask planId plan robotId robot = .ok m) :
    c.OnMap m ↔ c.OfOneVersion planId plan := by
  unfold buildPatrolTask at built
  simp only [Except.bind_eq_ok, found_eq_ok, require_eq_ok] at built
  obtain ⟨version, at_, _, _, _, on_, first, head, _, usable, made⟩ := built
  have first_mem : first ∈ c.pointsOf planId := List.mem_of_mem_head? head
  have echoes : Echoes m := by
    cases made
    intro source sent
    rcases List.mem_append.mp sent with path | point
    · exact .inr (.inl (Option.mem_toList.mp path))
    · obtain ⟨point, mem, same⟩ := List.mem_map.mp point
      exact .inr (.inr ⟨point, mem, same⟩)
  obtain ⟨map_on, version_on⟩ := on_iff.mp on_
  have rows_iff : c.OnMapOf robot m ↔ ∀ row ∈ m.sources, c.Belongs robot row := by
    cases made
    exact onMapOf_iff (by rintro value ⟨⟩) (by rintro value ⟨⟩) (by rintro p ⟨⟩; exact map_on)
      (by rintro p ⟨⟩; exact version_on)
  cases made
  constructor
  · intro onMap
    have belongs := rows_iff.mp (onMap robot own)
    refine ⟨?_, ?_⟩
    · intro id row named found
      refine (belongs_iff at_ on_ (k := .trajectory) found).mp (belongs _ ((mem_sources echoes).mpr ?_))
      exact .inr (.inl ⟨.trajectory id, by simp [named], rfl⟩)
    · intro point mem row found
      refine (belongs_iff at_ on_ (k := .preset) found).mp (belongs _ ((mem_sources echoes).mpr ?_))
      exact .inr (.inr ⟨missionPoint point, List.mem_map_of_mem mem, rfl⟩)
  · intro one robot' own'
    cases own.symm.trans own'
    refine rows_iff.mpr fun row mem => ?_
    have preset : ∀ point ∈ c.pointsOf planId,
        c.Belongs robot (.preset, point.navigationPresetId) := by
      intro point mem
      obtain ⟨row, found⟩ := usable_found (List.all_eq_true.mp usable point mem)
      exact (belongs_iff at_ on_ (k := .preset) found).mpr (one.preset point mem row found)
    rcases (mem_sources echoes).mp mem with source | ⟨path, is_path, source⟩ | ⟨_, is_point, source⟩
    · cases source
      exact preset first first_mem
    · obtain ⟨id, named, rfl⟩ := Option.map_eq_some_iff.mp is_path
      cases source
      obtain ⟨row, found⟩ := trajectoryOf_found named
      exact (belongs_iff at_ on_ (k := .trajectory) found).mpr (one.trajectory id row named found)
    · obtain ⟨point, point_mem, rfl⟩ := List.mem_map.mp is_point
      cases source
      exact preset point point_mem

/-- A resumed patrol is on the map exactly if its plan is of the robot's version, and so is the trajectory that it goes
on with. -/
theorem onMap_resumed_iff {plan : PatrolPlan} {robotId : Id} {poseKnown routed : Bool} {m : Mission}
    (own : c.robots.lookup robotId = some robot)
    (built : c.buildResumedPatrolTask plan robotId poseKnown routed = .ok m) :
    c.OnMap m ↔ ∀ version, c.versions.lookup plan.mapVersionId = some version →
      robot.on version = true ∧ c.TrajectoryOfVersion plan := by
  unfold buildResumedPatrolTask at built
  simp only [Except.bind_eq_ok, found_eq_ok, require_eq_ok] at built
  obtain ⟨version, at_, _, _, _, _, _, _, made⟩ := built
  have sources : ∀ row, Coordinates.row (.resumed (c.trajectoryOf plan)) = some row ↔
      ∃ id, c.trajectoryOf plan = some id ∧ (Kind.trajectory, id) = row :=
    fun row => Option.map_eq_some_iff
  have echoes : Echoes m := by
    cases made
    intro source sent
    exact .inl (List.mem_singleton.mp sent)
  cases made
  constructor
  · intro onMap version' at'
    cases at_.symm.trans at'
    have here := onMap robot own
    have on_ : robot.on version = true := on_iff.mpr ⟨here.mapId _ rfl, here.mapVersion _ rfl⟩
    refine ⟨on_, fun id row named found => ?_⟩
    refine (belongs_iff at_ on_ (k := .trajectory) found).mp (here.rows _ ((mem_sources echoes).mpr ?_))
    exact .inl ((sources _).mpr ⟨id, named, rfl⟩)
  · intro meets robot' own'
    cases own.symm.trans own'
    obtain ⟨on_, trajectory⟩ := meets version at_
    obtain ⟨map_on, version_on⟩ := on_iff.mp on_
    refine (onMapOf_iff (by rintro value ⟨⟩) (by rintro value ⟨⟩) (by rintro p ⟨⟩; exact map_on)
      (by rintro p ⟨⟩; exact version_on)).mpr fun row mem => ?_
    rcases (mem_sources echoes).mp mem with source | ⟨path, ⟨⟩, source⟩ | ⟨_, ⟨⟩, _⟩
    all_goals
      obtain ⟨id, named, rfl⟩ := (sources row).mp source
      obtain ⟨row, found⟩ := trajectoryOf_found named
      exact (belongs_iff at_ on_ (k := .trajectory) found).mpr (trajectory id row named found)

/-- A parameter that may be replaced. -/
theorem spread_cases {α : Type} (parameters : Parameters) (name : String) (value : α) :
    (parameters.lookup (.chars name) = none ∧ parameters.spread name value = .own value) ∨
      ∃ given, parameters.lookup (.chars name) = some given ∧ parameters.spread name value = .brought given := by
  unfold Parameters.spread
  cases parameters.lookup (.chars name) with
  | none => exact .inl ⟨rfl, rfl⟩
  | some given => exact .inr ⟨given, rfl, rfl⟩

theorem spread_eq_brought {α : Type} {parameters : Parameters} {name : String} {value : α} {given : JsonTree} :
    parameters.spread name value = .brought given ↔ parameters.lookup (.chars name) = some given := by
  rcases spread_cases parameters name value with ⟨none_, own⟩ | ⟨other, found, brought⟩
  · rw [own, none_]
    exact iff_of_false (by rintro ⟨⟩) (by rintro ⟨⟩)
  · rw [brought, found, Param.brought.injEq, Option.some.injEq]

theorem spread_own {α : Type} {parameters : Parameters} {name : String} {value a : α}
    (own : (parameters.spread name value).own? = some a) : a = value := by
  rcases spread_cases parameters name value with ⟨_, same⟩ | ⟨_, _, same⟩
  · rw [same] at own
    exact (Option.some.inj own).symm
  · rw [same] at own
    cases own

/-- A name that may be replaced is that of the current map exactly if what replaces it is. -/
theorem named_spread_iff {α : Type} {text : α → String} {parameters : Parameters} {name : String} {value : α}
    {current : Option α} (same : current = some value) : Named text (parameters.spread name value) current ↔
      ∀ given, parameters.lookup (.chars name) = some given → ∃ a, current = some a ∧ given = .str (text a) := by
  rcases spread_cases parameters name value with ⟨none_, own⟩ | ⟨other, found, brought⟩
  · rw [own, none_]
    exact iff_of_true same (by rintro given ⟨⟩)
  · rw [brought, found]
    constructor
    · rintro named given ⟨⟩
      exact named
    · intro named
      exact named other rfl

/-- An extinguishing run is on the map exactly if the extinguish point is of the slot's version and the request brings
nothing along that is not. -/
theorem onMap_extinguish_iff {robotId slotId : Id} {trajectoryId : Option Id} {parameters : Parameters} {m : Mission}
    (own : c.robots.lookup robotId = some robot)
    (built : c.buildExtinguishTask robotId robot slotId trajectoryId parameters = .ok m) :
    c.OnMap m ↔ (∀ slot pointId point, c.slot slotId = some slot →
      c.extinguishPoint slotId = some (pointId, point) → point.mapVersionId = slot.mapVersionId) ∧
      c.Plain robot parameters := by
  unfold buildExtinguishTask at built
  simp only [Except.bind_eq_ok, found_eq_ok, require_eq_ok] at built
  obtain ⟨_, _, slot, slot_found, version, at_, _, on_, ⟨pointId, point⟩, point_found, _, same, made⟩ := built
  obtain ⟨at_, -⟩ := Option.filter_eq_some_iff.mp at_
  obtain ⟨map_on, version_on⟩ := on_iff.mp on_
  have in_table : (c.rows .extinguish).lookup pointId = some point :=
    (Table.mem_select.mp (List.mem_of_mem_head? point_found)).1
  have point_iff := belongs_iff at_ on_ (k := .extinguish) in_table
  have echoes : Echoes m := by
    cases made
    intro source sent
    rcases List.mem_append.mp ((List.mem_append.mp sent).resolve_right List.not_mem_nil) with target | path
    · exact .inl (spread_own (Option.mem_toList.mp target))
    · obtain ⟨own_path, found, is_path⟩ := Option.bind_eq_some_iff.mp (Option.mem_toList.mp path)
      rw [spread_own found] at is_path
      exact .inr (.inl is_path)
  cases made
  constructor
  · intro onMap
    have here := onMap robot own
    refine ⟨fun slot' pointId' point' slot_found' point_found' => ?_, ?_⟩
    · cases slot_found.symm.trans slot_found'
      cases point_found.symm.trans point_found'
      exact point_iff.mp (here.rows _ ((mem_sources echoes).mpr (.inl rfl)))
    · exact
        { targetPose := fun value given => here.targetPose value (congrArg some (spread_eq_brought.mpr given))
          trajectory := fun value given => here.trajectory value (spread_eq_brought.mpr given)
          mapId := (named_spread_iff map_on).mp (here.mapId _ rfl)
          mapVersion := (named_spread_iff version_on).mp (here.mapVersion _ rfl) }
  · rintro ⟨one, plain⟩ robot' own'
    cases own.symm.trans own'
    refine ⟨fun row mem => ?_, ?_, ?_, ?_, ?_⟩
    · rcases (mem_sources echoes).mp mem with source | ⟨path, is_path, source⟩ | ⟨_, ⟨⟩, _⟩
      · cases source
        exact point_iff.mpr (one slot pointId point slot_found point_found)
      · obtain ⟨id, named, rfl⟩ := Option.map_eq_some_iff.mp is_path
        cases source
        obtain ⟨-, is_there⟩ := Option.filter_eq_some_iff.mp named
        obtain ⟨row, found⟩ := Option.isSome_iff_exists.mp is_there
        rw [named, Option.bind_some, found, Option.all_some, decide_eq_true_eq] at same
        exact (belongs_iff at_ on_ (k := .trajectory) found).mpr same
    · exact fun value brought => plain.targetPose value (spread_eq_brought.mp (Option.some.inj brought))
    · exact fun value brought => plain.trajectory value (spread_eq_brought.mp brought)
    · rintro p ⟨⟩
      exact (named_spread_iff map_on).mpr plain.mapId
    · rintro p ⟨⟩
      exact (named_spread_iff version_on).mpr plain.mapVersion

/-- The navigation to a preset is on the map. -/
theorem onMap_navigation {robotId presetId : Id} {reversing : Bool} {m : Mission}
    (own : c.robots.lookup robotId = some robot)
    (built : c.buildNavigationTask robotId robot presetId reversing = .ok m) : c.OnMap m := by
  unfold buildNavigationTask at built
  simp only [Except.bind_eq_ok, found_eq_ok, require_eq_ok] at built
  obtain ⟨preset, found, _, _, version, at_, _, on_, _, _, made⟩ := built
  obtain ⟨at_, -⟩ := Option.filter_eq_some_iff.mp at_
  obtain ⟨map_on, version_on⟩ := on_iff.mp on_
  have echoes : Echoes m := by
    cases made
    intro source sent
    exact .inl (List.mem_singleton.mp sent)
  cases made
  intro robot' own'
  cases own.symm.trans own'
  refine (onMapOf_iff (by rintro value ⟨⟩) (by rintro value ⟨⟩) (by rintro p ⟨⟩; exact map_on)
    (by rintro p ⟨⟩; exact version_on)).mpr fun row mem => ?_
  rcases (mem_sources echoes).mp mem with source | ⟨_, ⟨⟩, _⟩ | ⟨_, ⟨⟩, _⟩
  cases source
  exact (belongs_iff at_ on_ (k := .preset) found).mpr rfl

/-- A return is on the map exactly if the waiting area that it goes to is. -/
theorem onMap_return_iff {robotId : Id} {m : Mission} (own : c.robots.lookup robotId = some robot)
    (built : c.buildReturnTask robotId robot = .ok m) :
    c.OnMap m ↔ ∀ presetId preset, c.waiting = some (presetId, preset) →
      c.Belongs robot (.preset, presetId) := by
  unfold buildReturnTask at built
  simp only [Except.bind_eq_ok, found_eq_ok] at built
  obtain ⟨⟨presetId, preset⟩, waiting, made⟩ := built
  have echoes : Echoes m := by
    cases made
    intro source sent
    rcases List.mem_cons.mp sent with target | path
    · exact .inl target
    · exact .inr (.inl (congrArg some (List.mem_singleton.mp path).symm))
  have rows_iff : c.OnMapOf robot m ↔ ∀ row ∈ m.sources, c.Belongs robot row := by
    cases made
    exact onMapOf_iff (by rintro value ⟨⟩) (by rintro value ⟨⟩) (by rintro p ⟨⟩) (by rintro p ⟨⟩)
  cases made
  constructor
  · intro onMap presetId' preset' waiting'
    cases waiting.symm.trans waiting'
    exact rows_iff.mp (onMap robot own) _ ((mem_sources echoes).mpr (.inl rfl))
  · intro belongs robot' own'
    cases own.symm.trans own'
    refine rows_iff.mpr fun row mem => ?_
    rcases (mem_sources echoes).mp mem with source | ⟨_, ⟨⟩, ⟨⟩⟩ | ⟨_, ⟨⟩, _⟩
    cases source
    exact belongs presetId preset waiting

/-! ## The paths -/

theorem findRobot_eq_ok {robotId : Id} :
    c.findRobot robotId = .ok robot ↔ c.robots.lookup robotId = some robot := found_eq_ok

theorem ownPlan_found {robotId planId : Id} {plan : PatrolPlan} (own : c.ownPlan robotId planId = .ok plan) :
    c.plans.lookup planId = some plan :=
  (Option.filter_eq_some_iff.mp (found_eq_ok.mp own)).1

/-- A scheduled patrol is on the map exactly if its plan is of one version. -/
theorem onMap_schedule_iff {planId : Id} {gates active : Except Refused Unit} {m : Mission}
    (built : c.dispatchScheduleOccurrence planId gates active = .ok m) :
    c.OnMap m ↔ ∀ plan, c.plans.lookup planId = some plan → c.OfOneVersion planId plan := by
  unfold dispatchScheduleOccurrence at built
  simp only [Except.bind_eq_ok, found_eq_ok, require_eq_ok] at built
  obtain ⟨plan, found, robot, own, _, _, _, _, _, _, _, _, _, _, built⟩ := built
  rw [onMap_patrol_iff own built]
  constructor
  · intro one plan' found'
    cases found.symm.trans found'
    exact one
  · intro one
    exact one plan found

/-- **A mission that is built** is on the robot's map exactly if the rows of its path meet what is asked of
them. -/
theorem onMap_iff {path : Path} {m : Mission} (built : c.build path = .ok m) :
    c.OnMap m ↔ c.SameVersion path := by
  cases path with
  | patrol robotId =>
    simp only [build, Except.bind_eq_ok, findRobot_eq_ok, found_eq_ok] at built
    obtain ⟨robot, own, ⟨planId, plan⟩, first, built⟩ := built
    rw [onMap_patrol_iff own built]
    constructor
    · intro one planId' plan' first'
      cases first.symm.trans first'
      exact one
    · intro one
      exact one planId plan first
  | patrolPlan robotId planId guards =>
    simp only [build, Except.bind_eq_ok, findRobot_eq_ok] at built
    obtain ⟨robot, own, plan, plan_own, _, _, built⟩ := built
    have found := ownPlan_found plan_own
    rw [onMap_patrol_iff own built]
    constructor
    · intro one plan' found'
      cases found.symm.trans found'
      exact one
    · intro one
      exact one plan found
  | resume robotId planId previous poseKnown routed =>
    simp only [build, Except.bind_eq_ok, findRobot_eq_ok] at built
    obtain ⟨robot, own, plan, plan_own, _, _, built⟩ := built
    have found := ownPlan_found plan_own
    rw [onMap_resumed_iff own built]
    constructor
    · intro meets robot' plan' version own' found' at_
      cases own.symm.trans own'
      cases found.symm.trans found'
      exact meets version at_
    · intro meets version at_
      exact meets robot plan version own found at_
  | schedule planId gates active => exact onMap_schedule_iff built
  | extinguish robotId slotId trajectoryId parameters =>
    simp only [build, Except.bind_eq_ok, findRobot_eq_ok] at built
    obtain ⟨robot, own, built⟩ := built
    rw [onMap_extinguish_iff own built]
    refine and_congr_right fun _ => ⟨fun plain robot' own' => ?_, fun plain => plain robot own⟩
    cases own.symm.trans own'
    exact plain
  | navigate robotId presetId reversing =>
    simp only [build, Except.bind_eq_ok, findRobot_eq_ok] at built
    obtain ⟨robot, own, built⟩ := built
    exact iff_of_true (onMap_navigation own built) trivial
  | returnDock robotId =>
    simp only [build, Except.bind_eq_ok, findRobot_eq_ok] at built
    obtain ⟨robot, own, built⟩ := built
    rw [onMap_return_iff own built]
    constructor
    · intro belongs robot' presetId preset own' waiting
      cases own.symm.trans own'
      exact belongs presetId preset waiting
    · intro belongs presetId preset waiting
      exact belongs robot presetId preset own waiting

theorem create_eq_ok {path : Path} {admitted : Except Refused Unit} {m : Mission} :
    c.create path admitted = .ok m ↔ c.build path = .ok m ∧ admitted = .ok () := by
  unfold create
  simp only [Except.bind_eq_ok]
  constructor
  · rintro ⟨_, built, ⟨⟩, let_through, ⟨⟩⟩
    exact ⟨built, let_through⟩
  · rintro ⟨built, let_through⟩
    exact ⟨m, built, (), let_through, rfl⟩

/-- **Motion tasks match the robot's map** where their rows do: a path that creates its task creates it on
the robot's map exactly if its rows meet what is asked of them. -/
theorem created_on_map_iff (c : Catalogue) (path : Path) (admitted : Except Refused Unit) :
    c.CreatesOnMap path admitted ↔ ((∃ m, c.create path admitted = .ok m) → c.SameVersion path) := by
  constructor
  · rintro onMap ⟨m, created⟩
    exact (onMap_iff (create_eq_ok.mp created).1).mp (onMap m created)
  · intro same m created
    exact (onMap_iff (create_eq_ok.mp created).1).mpr (same ⟨m, created⟩)

end Catalogue

/-! ## A patrol that is resumed on another map version -/

namespace Moved

/-- Map 1 with version "1", which the plan and its trajectory are of, and version "2", which the robot has
moved to since its patrol was cancelled. -/
def tables : Maps.Tables where
  maps := AList.singleton 1 (some 11)
  versions := (AList.singleton 10 ⟨⟨1, "1", 1⟩, .published⟩).insert 11 ⟨⟨1, "2", 1⟩, .published⟩
  rows
    | .trajectory => AList.singleton 20 ⟨10, "CRUISE", "1", .arr [.obj [("x", .int 3), ("y", .int 4)]], true⟩
    | .slot | .inspection | .extinguish | .preset => ∅

/-- The robot and its plan. -/
def catalogue : Catalogue where
  idText := toString
  toTables := tables
  consistent := by decide +kernel
  robots := AList.singleton 1 ⟨some 1, some "2"⟩
  plans := AList.singleton 5 ⟨"P", 1, 10, some 20, true⟩
  points := ∅

end Moved

/-- The patrol is resumed with a trajectory of version "1" while the robot is on version "2". -/
theorem resumed_off_map :
    ¬ ∀ (c : Catalogue) (path : Path) (admitted : Except Refused Unit), c.CreatesOnMap path admitted := by
  intro onMap
  have resumed : ∃ m, Moved.catalogue.build (.resume 1 5 (.ok ()) true true) = .ok m := ⟨_, rfl⟩
  obtain ⟨m, built⟩ := resumed
  have created := onMap Moved.catalogue (.resume 1 5 (.ok ()) true true) (.ok ()) m
    (Catalogue.create_eq_ok.mpr ⟨built, rfl⟩)
  have belongs := (Catalogue.onMap_iff built).mp created
  obtain ⟨on_, _⟩ := belongs _ _ _ rfl rfl rfl
  exact absurd on_ (by decide)

end Firebot.Missions
