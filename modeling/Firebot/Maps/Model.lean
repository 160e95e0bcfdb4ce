import Mathlib.Logic.Function.Basic
import Firebot.Lib.JsonTree
import Firebot.Lib.Table

/-!
# Map versions and what belongs to them

A map has versions, and a version has parking slots, inspection points, extinguish points, trajectories
and navigation presets. `maps/router.py` and `create_preset` write these tables: every write looks whether
some version is a draft. The database refuses a commit that breaks a key (`Consistent`), and a slot that is
deleted takes its points with it.

The five collections are one family (`Kind`): each endpoint is `create` or `update` at its own kind.
-/

namespace Firebot.Maps

abbrev Id := Nat

/-- `MapVersion.status`. -/
inductive Status where
  | draft
  | published
  | archived
  deriving DecidableEq

/-- `VersionInput`, as far as a key or another table depends on it. -/
structure VersionInput where
  mapId : Id
  version : String
  semanticRevision : Int
  deriving DecidableEq

/-- A row of `map_versions`. -/
structure MapVersion extends VersionInput where
  status : Status
  deriving DecidableEq

/-- `SlotInput`; a row of `parking_slots` has the same columns. -/
structure ParkingSlot where
  mapVersionId : Id
  code : String
  polygonJson : JsonTree
  centerPoseJson : JsonTree
  enabled : Bool

/-- `InspectionInput`; a row of `inspection_points` has the same columns. -/
structure InspectionPoint where
  mapVersionId : Id
  parkingSlotId : Id
  poseJson : JsonTree
  sensorOrientationJson : JsonTree
  priority : Int

/-- `ExtinguishInput`; a row of `extinguish_points` has the same columns. -/
structure ExtinguishPoint where
  mapVersionId : Id
  parkingSlotId : Id
  poseJson : JsonTree
  approachJson : JsonTree
  nozzleConfigJson : JsonTree

/-- `TrajectoryInput`; a row of `trajectories` has the same columns. -/
structure Trajectory where
  mapVersionId : Id
  code : String
  version : String
  pathJson : JsonTree
  enabled : Bool

/-- `PresetInput`. -/
structure PresetInput where
  mapVersionId : Id
  parkingSlotId : Option Id
  code : String
  name : String
  category : String
  poseJson : JsonTree
  positionToleranceM : ℚ
  yawToleranceRad : ℚ
  allowedApproachJson : JsonTree
  requiresReverse : Bool
  isDefault : Bool
  enabled : Bool

/-- A row of `navigation_presets`. -/
structure NavigationPreset extends PresetInput where
  semanticRevision : Int

/-- The collections of a map version. -/
inductive Kind where
  | slot
  | inspection
  | extinguish
  | trajectory
  | preset
  deriving DecidableEq

namespace Kind

/-- All of them. -/
def all : List Kind := [slot, inspection, extinguish, trajectory, preset]

theorem mem_all (k : Kind) : k ∈ all := by
  cases k <;> decide

/-- A row of the collection. -/
abbrev Row : Kind → Type
  | slot => ParkingSlot
  | inspection => InspectionPoint
  | extinguish => ExtinguishPoint
  | trajectory => Trajectory
  | preset => NavigationPreset

/-- `map_version_id`. -/
def mapVersionId : (k : Kind) → k.Row → Id
  | slot => ParkingSlot.mapVersionId
  | inspection => InspectionPoint.mapVersionId
  | extinguish => ExtinguishPoint.mapVersionId
  | trajectory => Trajectory.mapVersionId
  | preset => fun row => row.mapVersionId

/-- `parking_slot_id`, where the collection has it. -/
def parkingSlotId : (k : Kind) → k.Row → Option Id
  | slot => fun _ => none
  | inspection => fun row => some row.parkingSlotId
  | extinguish => fun row => some row.parkingSlotId
  | trajectory => fun _ => none
  | preset => fun row => row.parkingSlotId

/-- The unique constraints do not let the rows stand side by side. A slot that is `NULL` is unlike any
other. -/
def clash : (k : Kind) → k.Row → k.Row → Bool
  | slot => fun a b => a.mapVersionId = b.mapVersionId ∧ a.code = b.code
  | inspection => fun _ _ => false
  | extinguish => fun _ _ => false
  | trajectory => fun _ _ => false
  | preset => fun a b => a.mapVersionId = b.mapVersionId ∧
      (a.code = b.code ∨
        a.parkingSlotId.isSome ∧ a.parkingSlotId = b.parkingSlotId ∧ a.category = b.category)

/-- What the deletion of a slot leaves of a row: the points of the slot are deleted with it, and its
presets are left without a slot. -/
def afterDelete (deleted : Id) : (k : Kind) → Id → k.Row → Option k.Row
  | slot, key, row => if key = deleted then none else some row
  | inspection, _, row => if row.parkingSlotId = deleted then none else some row
  | extinguish, _, row => if row.parkingSlotId = deleted then none else some row
  | trajectory, _, row => some row
  | preset, _, row =>
    if row.parkingSlotId = some deleted then some { row with parkingSlotId := none } else some row

end Kind

/-- The tables. A map is there with its active version. -/
structure Tables where
  maps : Table Id (Option Id)
  versions : Table Id MapVersion
  rows : (k : Kind) → Table Id k.Row

namespace Tables

variable (t : Tables)

/-- The tables with another table of one collection. -/
def put (k : Kind) (rows : Table Id k.Row) : Tables := { t with rows := Function.update t.rows k rows }

@[simp] theorem put_self (k : Kind) (rows : Table Id k.Row) : (t.put k rows).rows k = rows :=
  Function.update_self ..

theorem put_of_ne {k k' : Kind} (ne : k' ≠ k) (rows : Table Id k.Row) :
    (t.put k rows).rows k' = t.rows k' := Function.update_of_ne ne ..

/-- The foreign keys and the unique constraints. -/
structure Consistent : Prop where
  map : ∀ id version, t.versions.lookup id = some version → (t.maps.lookup version.mapId).isSome
  single : ∀ i j a b, t.versions.lookup i = some a → t.versions.lookup j = some b →
    a.mapId = b.mapId → a.version = b.version → i = j
  version : ∀ (k : Kind) id row, (t.rows k).lookup id = some row →
    (t.versions.lookup (k.mapVersionId row)).isSome
  slot : ∀ (k : Kind) id row s, (t.rows k).lookup id = some row → k.parkingSlotId row = some s →
    ((t.rows .slot).lookup s).isSome
  unique : ∀ (k : Kind) i j a b, (t.rows k).lookup i = some a → (t.rows k).lookup j = some b →
    k.clash a b = true → i = j

/-- The same, over the rows there are. -/
def Checked : Prop :=
  (∀ r ∈ t.versions.rows, (t.maps.lookup r.2.mapId).isSome) ∧
  (∀ a ∈ t.versions.rows, ∀ b ∈ t.versions.rows,
    a.2.mapId = b.2.mapId → a.2.version = b.2.version → a.1 = b.1) ∧
  (∀ k ∈ Kind.all, ∀ r ∈ (t.rows k).rows, (t.versions.lookup (k.mapVersionId r.2)).isSome) ∧
  (∀ k ∈ Kind.all, ∀ r ∈ (t.rows k).rows, ∀ s ∈ k.parkingSlotId r.2,
    ((t.rows .slot).lookup s).isSome) ∧
  ∀ k ∈ Kind.all, ∀ a ∈ (t.rows k).rows, ∀ b ∈ (t.rows k).rows,
    k.clash a.2 b.2 = true → a.1 = b.1

instance : Decidable t.Checked := by
  unfold Checked
  infer_instance

theorem checked_iff : t.Checked ↔ t.Consistent := by
  constructor
  · rintro ⟨map, single, version, slot, unique⟩
    refine ⟨?_, ?_, ?_, ?_, ?_⟩
    · intro id row found
      exact map (id, row) (Table.mem_rows.mpr found)
    · intro i j a b foundA foundB
      exact single (i, a) (Table.mem_rows.mpr foundA) (j, b) (Table.mem_rows.mpr foundB)
    · intro k id row found
      exact version k k.mem_all (id, row) (Table.mem_rows.mpr found)
    · intro k id row s found refers
      exact slot k k.mem_all (id, row) (Table.mem_rows.mpr found) s refers
    · intro k i j a b foundA foundB
      exact unique k k.mem_all (i, a) (Table.mem_rows.mpr foundA) (j, b) (Table.mem_rows.mpr foundB)
  · intro consistent
    refine ⟨?_, ?_, ?_, ?_, ?_⟩
    · rintro ⟨id, row⟩ mem
      exact consistent.map id row (Table.mem_rows.mp mem)
    · rintro ⟨i, a⟩ memA ⟨j, b⟩ memB
      exact consistent.single i j a b (Table.mem_rows.mp memA) (Table.mem_rows.mp memB)
    · rintro k - ⟨id, row⟩ mem
      exact consistent.version k id row (Table.mem_rows.mp mem)
    · rintro k - ⟨id, row⟩ mem s refers
      exact consistent.slot k id row s (Table.mem_rows.mp mem) refers
    · rintro k - ⟨i, a⟩ memA ⟨j, b⟩ memB
      exact consistent.unique k i j a b (Table.mem_rows.mp memA) (Table.mem_rows.mp memB)

instance : Decidable t.Consistent := decidable_of_iff _ t.checked_iff

end Tables

/-- A database: its tables keep their constraints. -/
structure Database extends Tables where
  consistent : toTables.Consistent

/-- Why a request does nothing. -/
inductive Refused where
  | http (status : Nat) (detail : String)
  | platform (code detail : String) (status : Nat)
  | integrity
  deriving DecidableEq

/-- The database takes what keeps its constraints. -/
def commit (t : Tables) : Except Refused Database :=
  if consistent : t.Consistent then .ok ⟨t, consistent⟩ else .error .integrity

namespace Database

variable (db : Database)

/-- The version with this id, which has to be a draft. -/
def requireDraft (missing released : Refused) (versionId : Id) : Except Refused MapVersion := do
  let some version := db.versions.lookup versionId | throw missing
  if version.status ≠ .draft then throw released
  return version

/-- `draft(db, version_id)`. -/
def draft : Id → Except Refused MapVersion :=
  db.requireDraft (.http 404 "地图版本不存在")
    (.http 409 "Published/Archived 地图不可原地修改，请创建新版本")

/-- `_draft_version(db, version_id)`. -/
def draftVersion : Id → Except Refused MapVersion :=
  db.requireDraft (.platform "RESOURCE_NOT_FOUND" "地图版本不存在" 404)
    (.platform "MAP_VERSION_IMMUTABLE" "已发布地图不可原地修改" 409)

/-! ## Versions -/

/-- `create_version`, with the id that the row gets. -/
def createVersion (id : Id) (payload : VersionInput) : Except Refused Database :=
  if (db.versions.lookup id).isSome then .error .integrity
  else commit { db.toTables with versions := db.versions.insert id ⟨payload, .draft⟩ }

/-- The version gets a status. -/
def setStatus (id : Id) (status : Status) : Table Id MapVersion :=
  db.versions.modify id fun version => { version with status := status }

/-- `publish_version`. -/
def publishVersion (versionId : Id) : Except Refused Database := do
  let version ← db.draft versionId
  if ((db.rows .slot).select fun _ slot => Kind.slot.mapVersionId slot = versionId).isEmpty then
    throw (.http 409 "发布前至少需要一个车位")
  else if (db.maps.lookup version.mapId).isNone then
    throw (.http 409 "地图版本所属地图不存在")
  else
    commit
      { db.toTables with
        versions := db.setStatus versionId .published
        maps := db.maps.modify version.mapId fun _ => some versionId }

/-- `archive_version`. -/
def archiveVersion (versionId : Id) : Except Refused Database := do
  let some version := db.versions.lookup versionId | throw (.http 404 "地图版本不存在")
  if version.status ≠ .published then throw (.http 409 "只有 Published 版本可归档")
  commit { db.toTables with versions := db.setStatus versionId .archived }

/-! ## Rows -/

/-- A new row is added. -/
def insert (k : Kind) (id : Id) (row : k.Row) : Except Refused Database :=
  if ((db.rows k).lookup id).isSome then .error .integrity
  else commit (db.put k ((db.rows k).insert id row))

/-- The body of the endpoints that create a row, with the id that it gets: the version that the payload
names has to be a draft. -/
def create (k : Kind) (id : Id) (payload : k.Row) : Except Refused Database := do
  let _ ← db.draft (k.mapVersionId payload)
  db.insert k id payload

/-- The body of the endpoints that update a row: the version that it belongs to has to be a draft, and then
every field of the payload is set. -/
def update (k : Kind) (missing : String) (id : Id) (payload : k.Row) : Except Refused Database := do
  let some row := (db.rows k).lookup id | throw (.http 404 missing)
  let _ ← db.draft (k.mapVersionId row)
  commit (db.put k ((db.rows k).insert id payload))

/-- `create_slot`. -/
def createSlot (id : Id) (payload : ParkingSlot) : Except Refused Database := db.create .slot id payload

/-- `update_slot`. -/
def updateSlot (rowId : Id) (payload : ParkingSlot) : Except Refused Database :=
  db.update .slot "车位不存在" rowId payload

/-- The tables without a slot. -/
def withoutSlot (id : Id) : Tables :=
  { db.toTables with rows := fun k => (db.rows k).filterMap (k.afterDelete id) }

/-- `delete_slot`. The flag says that a row of another table refers to the slot (a fire event, a task or an
observation does so without a cascade). -/
def deleteSlot (rowId : Id) (referenced : Bool) : Except Refused Database := do
  let some row := (db.rows .slot).lookup rowId | return db
  let _ ← db.draft (Kind.slot.mapVersionId row)
  if referenced then throw .integrity
  commit (db.withoutSlot rowId)

/-- `create_inspection`. -/
def createInspection (id : Id) (payload : InspectionPoint) : Except Refused Database :=
  db.create .inspection id payload

/-- `update_inspection`. -/
def updateInspection (rowId : Id) (payload : InspectionPoint) : Except Refused Database :=
  db.update .inspection "巡检点不存在" rowId payload

/-- `create_extinguish`. -/
def createExtinguish (id : Id) (payload : ExtinguishPoint) : Except Refused Database :=
  db.create .extinguish id payload

/-- `update_extinguish`. -/
def updateExtinguish (rowId : Id) (payload : ExtinguishPoint) : Except Refused Database :=
  db.update .extinguish "灭火点不存在" rowId payload

/-- `create_trajectory`. -/
def createTrajectory (id : Id) (payload : Trajectory) : Except Refused Database :=
  db.create .trajectory id payload

/-- `update_trajectory`. -/
def updateTrajectory (rowId : Id) (payload : Trajectory) : Except Refused Database :=
  db.update .trajectory "轨迹不存在" rowId payload

/-- `create_preset`. -/
def createPreset (id : Id) (payload : PresetInput) : Except Refused Database := do
  let version ← db.draftVersion payload.mapVersionId
  if payload.requiresReverse then
    throw (.platform "REVERSE_PRECISION_UNSUPPORTED" "当前 AGV 能力边界不承诺需要倒车的精准到位任务" 409)
  db.insert .preset id ⟨payload, version.semanticRevision⟩

end Database

/-- A request. -/
inductive Request where
  | createVersion (id : Id) (payload : VersionInput)
  | publishVersion (versionId : Id)
  | archiveVersion (versionId : Id)
  | createSlot (id : Id) (payload : ParkingSlot)
  | updateSlot (rowId : Id) (payload : ParkingSlot)
  | deleteSlot (rowId : Id) (referenced : Bool)
  | createInspection (id : Id) (payload : InspectionPoint)
  | updateInspection (rowId : Id) (payload : InspectionPoint)
  | createExtinguish (id : Id) (payload : ExtinguishPoint)
  | updateExtinguish (rowId : Id) (payload : ExtinguishPoint)
  | createTrajectory (id : Id) (payload : Trajectory)
  | updateTrajectory (rowId : Id) (payload : Trajectory)
  | createPreset (id : Id) (payload : PresetInput)

namespace Database

variable (db : Database)

/-- What a request comes to. -/
def answer : Request → Except Refused Database
  | .createVersion id payload => db.createVersion id payload
  | .publishVersion versionId => db.publishVersion versionId
  | .archiveVersion versionId => db.archiveVersion versionId
  | .createSlot id payload => db.createSlot id payload
  | .updateSlot rowId payload => db.updateSlot rowId payload
  | .deleteSlot rowId referenced => db.deleteSlot rowId referenced
  | .createInspection id payload => db.createInspection id payload
  | .updateInspection rowId payload => db.updateInspection rowId payload
  | .createExtinguish id payload => db.createExtinguish id payload
  | .updateExtinguish rowId payload => db.updateExtinguish rowId payload
  | .createTrajectory id payload => db.createTrajectory id payload
  | .updateTrajectory rowId payload => db.updateTrajectory rowId payload
  | .createPreset id payload => db.createPreset id payload

/-- The database after a request. One that is refused changes nothing. -/
def after : Except Refused Database → Database
  | .ok db' => db'
  | .error _ => db

/-- One request. -/
def step (request : Request) : Database := db.after (db.answer request)

end Database

end Firebot.Maps
