import Firebot.Lib.Except
import Firebot.Lib.Run
import Firebot.Maps.Model

/-!
# Published maps

A version that is not a draft is not to be changed any more: its slots, points, trajectories and presets stay,
with all their fields. A new row belongs to a draft, so a creation keeps that. An update looks at the version
that the row belongs to and then sets the one that the payload names, so a row of a draft can move into a
published version; and the deletion of a draft's slot takes along the points of a published version that refer
to the slot. **What is published stays as it is exactly if no update of the run moves a row into a published
version, and no slot is deleted that a published version refers to** (`published_immutable_iff`). Nothing is
said of the files that belong to a map.
-/

namespace Firebot.Maps

/-- The version has been published. -/
def Tables.published (t : Tables) (v : Id) : Prop :=
  ∃ version, t.versions.lookup v = some version ∧ version.status ≠ .draft

/-- The row under a key, if it belongs to a version. -/
def Tables.content (t : Tables) (v : Id) (k : Kind) (id : Id) : Option k.Row :=
  ((t.rows k).lookup id).filter fun row => k.mapVersionId row = v

/-- What has been published stays published, with what belongs to it. -/
def Preserves (before after : Tables) : Prop :=
  ∀ v, before.published v →
    after.published v ∧ ∀ (k : Kind) id, after.content v k id = before.content v k id

namespace Preserves

variable {a b c : Tables}

theorem refl (a : Tables) : Preserves a a := fun _ published => ⟨published, fun _ _ => rfl⟩

theorem trans (first : Preserves a b) (second : Preserves b c) : Preserves a c := by
  intro v published
  obtain ⟨still, same⟩ := first v published
  obtain ⟨after, same'⟩ := second v still
  exact ⟨after, fun k id => (same' k id).trans (same k id)⟩

end Preserves

namespace Database

variable (db : Database)

/-- The version is a draft. -/
def isDraft (v : Id) : Prop := ∃ version, db.versions.lookup v = some version ∧ version.status = .draft

/-- An update moves a row of a draft into a published version, and the constraints allow it. -/
def Moves (k : Kind) (id : Id) (payload : k.Row) : Prop :=
  (∃ row, (db.rows k).lookup id = some row ∧ db.isDraft (k.mapVersionId row)) ∧
    (db.put k ((db.rows k).insert id payload)).Consistent ∧ db.published (k.mapVersionId payload)

/-- The slot of a draft that is deleted is one that a row of a published version refers to. -/
def Strips (rowId : Id) (referenced : Bool) : Prop :=
  (∃ slot, (db.rows .slot).lookup rowId = some slot ∧ db.isDraft (Kind.slot.mapVersionId slot)) ∧
    referenced = false ∧
    ∃ (k : Kind) (id : Id) (row : k.Row), (db.rows k).lookup id = some row ∧
      k.parkingSlotId row = some rowId ∧ db.published (k.mapVersionId row)

/-- The request leaves what is published as it is. -/
def Fits (db : Database) : Request → Prop
  | .updateSlot rowId payload => ¬ db.Moves .slot rowId payload
  | .updateInspection rowId payload => ¬ db.Moves .inspection rowId payload
  | .updateExtinguish rowId payload => ¬ db.Moves .extinguish rowId payload
  | .updateTrajectory rowId payload => ¬ db.Moves .trajectory rowId payload
  | .deleteSlot rowId referenced => ¬ db.Strips rowId referenced
  | _ => True

variable {db} {db' : Database} {k : Kind} {id : Id}

/-! ## The checks -/

/-- `_require_draft` passes exactly for a draft. -/
theorem requireDraft_eq_ok {missing released : Refused} {v : Id} {version : MapVersion} :
    db.requireDraft missing released v = .ok version ↔
      db.versions.lookup v = some version ∧ version.status = .draft := by
  unfold requireDraft
  cases found : db.versions.lookup v with
  | none => exact iff_of_false (fun raised => by cases raised) fun isDraft => by cases isDraft.1
  | some row =>
    by_cases isDraft : row.status = .draft
    · simp only [isDraft, ne_eq, not_true_eq_false, if_false]
      constructor
      · rintro ⟨⟩
        exact ⟨rfl, isDraft⟩
      · rintro ⟨⟨⟩, _⟩
        rfl
    · simp only [ne_eq, isDraft, not_false_eq_true, if_true]
      constructor
      · rintro ⟨⟩
      · rintro ⟨⟨⟩, same⟩
        exact absurd same isDraft

/-- So does its test. -/
theorem passes_draft {v : Id} : (db.draft v).Passes ↔ db.isDraft v :=
  exists_congr fun _ => requireDraft_eq_ok

/-- A commit stores the tables where the keys are kept. -/
theorem commit_eq_ok {t : Tables} : commit t = .ok db' ↔ db'.toTables = t := by
  unfold commit
  split
  next consistent =>
    constructor
    · rintro ⟨⟩
      rfl
    · rintro rfl
      rfl
  next broken =>
    constructor
    · rintro ⟨⟩
    · rintro rfl
      exact absurd db'.consistent broken

/-- A draft is not published. -/
theorem not_published_of_isDraft {v : Id} (isDraft : db.isDraft v) : ¬ db.published v := by
  rintro ⟨version', found', released⟩
  obtain ⟨version, found, same⟩ := isDraft
  cases found.symm.trans found'
  exact released same

/-- A request that is refused keeps everything; of the others it is the answer that counts. -/
theorem preserves_after {x : Except Refused Database} {p : Prop}
    (granted : ∀ db', x = .ok db' → (Preserves db.toTables db'.toTables ↔ p))
    (refused : ¬ x.Passes → p) : Preserves db.toTables (db.after x).toTables ↔ p := by
  cases x with
  | ok db' => exact granted db' rfl
  | error e => exact iff_of_true (.refl _) (refused (Except.not_passes_error e))

/-! ## Rows -/

/-- A row takes the place of none, or of one that is not in a published version: what is published stays
as it is exactly if the row does not belong to it. -/
theorem preserves_put {payload : k.Row}
    (old : ∀ row, (db.rows k).lookup id = some row → ¬ db.published (k.mapVersionId row)) :
    Preserves db.toTables (db.put k ((db.rows k).insert id payload)) ↔
      ¬ db.published (k.mapVersionId payload) := by
  have before : ∀ v, db.published v → db.content v k id = none := by
    intro v published
    unfold Tables.content
    rw [Option.filter_eq_none_iff]
    intro row found belongs
    exact old row found (of_decide_eq_true belongs ▸ published)
  constructor
  · intro preserves published
    obtain ⟨_, same⟩ := preserves _ published
    have moved := same k id
    rw [before _ published] at moved
    simp [Tables.content] at moved
  · intro foreign v published
    refine ⟨published, ?_⟩
    intro k' id'
    by_cases other : k' = k
    · subst other
      by_cases place : id' = id
      · subst place
        rw [before v published]
        unfold Tables.content
        rw [Tables.put_self, AList.lookup_insert, Option.filter_eq_none_iff]
        rintro row ⟨⟩ belongs
        exact foreign (of_decide_eq_true belongs ▸ published)
      · unfold Tables.content
        rw [Tables.put_self, AList.lookup_insert_ne place]
    · unfold Tables.content
      rw [Tables.put_of_ne _ other]

/-- An insertion into a draft changes no published version. -/
theorem preserves_insert (payload : k.Row) (draft : db.isDraft (k.mapVersionId payload))
    (inserted : db.insert k id payload = .ok db') : Preserves db.toTables db'.toTables := by
  unfold insert at inserted
  split at inserted
  · cases inserted
  next unused =>
    rw [commit_eq_ok.mp inserted]
    refine (preserves_put ?_).mpr (not_published_of_isDraft draft)
    intro row found
    rw [found] at unused
    exact absurd rfl unused

/-- So does a create endpoint. -/
theorem preserves_create {payload : k.Row} (created : db.create k id payload = .ok db') :
    Preserves db.toTables db'.toTables := by
  obtain ⟨version, isDraft, inserted⟩ := Except.bind_eq_ok.mp created
  exact preserves_insert payload (passes_draft.mp ⟨version, isDraft⟩) inserted

/-- So does that of a preset. -/
theorem preserves_createPreset {payload : PresetInput} (created : db.createPreset id payload = .ok db') :
    Preserves db.toTables db'.toTables := by
  obtain ⟨version, isDraft, rest⟩ := Except.bind_eq_ok.mp created
  by_cases reverse : payload.requiresReverse = true
  · rw [if_pos reverse] at rest
    cases rest
  · rw [if_neg reverse] at rest
    have draft : db.isDraft payload.mapVersionId := ⟨version, requireDraft_eq_ok.mp isDraft⟩
    exact preserves_insert (k := .preset) ⟨payload, version.semanticRevision⟩ draft rest

/-- An update passes exactly for a row of a draft. -/
theorem update_eq_ok {missing : String} {payload : k.Row} :
    db.update k missing id payload = .ok db' ↔
      (∃ row, (db.rows k).lookup id = some row ∧ db.isDraft (k.mapVersionId row)) ∧
        db'.toTables = db.put k ((db.rows k).insert id payload) := by
  unfold update
  cases found : (db.rows k).lookup id with
  | none =>
    refine iff_of_false (fun raised => by cases raised) ?_
    rintro ⟨⟨_, ⟨⟩, _⟩, _⟩
  | some row =>
    dsimp only
    rw [Except.bind_eq_ok]
    constructor
    · rintro ⟨version, isDraft, written⟩
      exact ⟨⟨row, rfl, passes_draft.mp ⟨version, isDraft⟩⟩, commit_eq_ok.mp written⟩
    · rintro ⟨⟨_, ⟨⟩, isDraft⟩, written⟩
      obtain ⟨version, isDraft⟩ := passes_draft.mpr isDraft
      exact ⟨version, isDraft, commit_eq_ok.mpr written⟩

/-- An update preserves the published versions exactly if it does not move the row into one. -/
theorem preserves_update {missing : String} {payload : k.Row} :
    Preserves db.toTables (db.after (db.update k missing id payload)).toTables ↔
      ¬ db.Moves k id payload := by
  refine preserves_after ?_ ?_
  · intro db' updated
    obtain ⟨⟨row, found, isDraft⟩, written⟩ := update_eq_ok.mp updated
    rw [written, preserves_put]
    · constructor
      · rintro foreign ⟨_, _, published⟩
        exact foreign published
      · intro stays published
        exact stays ⟨⟨row, found, isDraft⟩, written ▸ db'.consistent, published⟩
    · intro row' found'
      cases found.symm.trans found'
      exact not_published_of_isDraft isDraft
  · rintro refused ⟨draft, consistent, _⟩
    exact refused ⟨⟨_, consistent⟩, update_eq_ok.mpr ⟨draft, rfl⟩⟩

/-! ## The deletion of a slot -/

/-- A row that does not refer to the slot, and is not the slot, stays as it is. -/
theorem afterDelete_of_ne {deleted key : Id} {row : k.Row} (other : k = .slot → key ≠ deleted)
    (refers : k.parkingSlotId row ≠ some deleted) : k.afterDelete deleted key row = some row := by
  cases k with
  | slot => exact if_neg (other rfl)
  | inspection | extinguish => exact if_neg fun same => refers (congrArg some same)
  | trajectory => rfl
  | preset => exact if_neg refers

/-- A row that refers to the slot does not. -/
theorem afterDelete_of_refers {deleted key : Id} {row : k.Row}
    (refers : k.parkingSlotId row = some deleted) : k.afterDelete deleted key row ≠ some row := by
  intro kept
  cases k with
  | slot | trajectory => cases refers
  | inspection | extinguish =>
    have gone : row.parkingSlotId = deleted := Option.some.inj refers
    rw [Kind.afterDelete, if_pos gone] at kept
    cases kept
  | preset =>
    have gone : row.parkingSlotId = some deleted := refers
    rw [Kind.afterDelete, if_pos gone, Option.some.injEq] at kept
    rw [← kept] at gone
    cases gone

/-- What is left of a row belongs to the same version, and refers to the slot that it referred to or to
none. -/
theorem of_afterDelete {deleted key : Id} {row left : k.Row}
    (kept : k.afterDelete deleted key row = some left) :
    (k = .slot → key ≠ deleted) ∧ k.mapVersionId left = k.mapVersionId row ∧
      ∀ s, k.parkingSlotId left = some s → k.parkingSlotId row = some s ∧ s ≠ deleted := by
  cases k with
  | slot =>
    rw [Kind.afterDelete, Option.ite_none_left_eq_some] at kept
    obtain ⟨other, ⟨⟩⟩ := kept
    exact ⟨fun _ => other, rfl, fun s refers => by cases refers⟩
  | inspection | extinguish =>
    rw [Kind.afterDelete, Option.ite_none_left_eq_some] at kept
    obtain ⟨other, ⟨⟩⟩ := kept
    refine ⟨fun same => (by cases same), rfl, ?_⟩
    rintro s ⟨⟩
    exact ⟨rfl, other⟩
  | trajectory =>
    cases kept
    exact ⟨fun same => (by cases same), rfl, fun s refers => by cases refers⟩
  | preset =>
    refine ⟨fun same => (by cases same), ?_⟩
    rw [Kind.afterDelete] at kept
    split at kept
    · cases kept
      exact ⟨rfl, fun s refers => by cases refers⟩
    next other =>
      cases kept
      refine ⟨rfl, fun s refers => ⟨refers, ?_⟩⟩
      rintro rfl
      exact other refers

/-- Rows of which the rest clashes clash. -/
theorem clash_of_afterDelete {deleted i j : Id} {a b a' b' : k.Row}
    (keptA : k.afterDelete deleted i a = some a') (keptB : k.afterDelete deleted j b = some b')
    (clash : k.clash a' b' = true) : k.clash a b = true := by
  cases k with
  | slot =>
    rw [Kind.afterDelete, Option.ite_none_left_eq_some] at keptA keptB
    obtain ⟨-, ⟨⟩⟩ := keptA
    obtain ⟨-, ⟨⟩⟩ := keptB
    exact clash
  | inspection | extinguish | trajectory => cases clash
  | preset =>
    simp only [Kind.clash, decide_eq_true_eq] at clash ⊢
    rw [Kind.afterDelete] at keptA keptB
    split at keptA <;> split at keptB <;> cases keptA <;> cases keptB
    case isFalse.isFalse.refl.refl => exact clash
    all_goals
      obtain ⟨version, code | ⟨there, same, -⟩⟩ := clash
      · exact ⟨version, .inl code⟩
      · first | cases there | (rw [same] at there; cases there)

/-- What the deletion of a slot leaves of a row. -/
theorem lookup_withoutSlot {deleted : Id} {left : k.Row} :
    ((db.withoutSlot deleted).rows k).lookup id = some left ↔
      ∃ row, (db.rows k).lookup id = some row ∧ k.afterDelete deleted id row = some left := by
  show (Table.filterMap _ (db.rows k)).lookup id = _ ↔ _
  rw [Table.lookup_filterMap, Option.bind_eq_some_iff]

/-- The tables stay consistent without the slot. -/
theorem withoutSlot_consistent (deleted : Id) : (db.withoutSlot deleted).Consistent where
  map := db.consistent.map
  single := db.consistent.single
  version k id left found := by
    obtain ⟨row, before, kept⟩ := lookup_withoutSlot.mp found
    rw [(of_afterDelete kept).2.1]
    exact db.consistent.version k id row before
  slot k id left s found refers := by
    obtain ⟨row, before, kept⟩ := lookup_withoutSlot.mp found
    obtain ⟨referred, other⟩ := (of_afterDelete kept).2.2 s refers
    obtain ⟨slot, there⟩ := Option.isSome_iff_exists.mp (db.consistent.slot k id row s before referred)
    have stays : Kind.slot.afterDelete deleted s slot = some slot := if_neg other
    exact Option.isSome_iff_exists.mpr ⟨slot, lookup_withoutSlot.mpr ⟨slot, there, stays⟩⟩
  unique k i j a' b' foundA foundB clash := by
    obtain ⟨a, beforeA, keptA⟩ := lookup_withoutSlot.mp foundA
    obtain ⟨b, beforeB, keptB⟩ := lookup_withoutSlot.mp foundB
    exact db.consistent.unique k i j a b beforeA beforeB (clash_of_afterDelete keptA keptB clash)

/-- The deletion of a slot keeps what is published exactly if nothing of it refers to the slot. -/
theorem preserves_withoutSlot {deleted : Id} {slot : Kind.slot.Row}
    (found : (db.rows .slot).lookup deleted = some slot)
    (draft : db.isDraft (Kind.slot.mapVersionId slot)) :
    Preserves db.toTables (db.withoutSlot deleted) ↔
      ¬ ∃ (k : Kind) (id : Id) (row : k.Row), (db.rows k).lookup id = some row ∧
        k.parkingSlotId row = some deleted ∧ db.published (k.mapVersionId row) := by
  constructor
  · rintro preserves ⟨k, id, row, there, refers, published⟩
    have same := (preserves _ published).2 k id
    unfold Tables.content at same
    rw [there, Option.filter_some, if_pos (decide_eq_true rfl), Option.filter_eq_some_iff] at same
    obtain ⟨row', before, kept⟩ := lookup_withoutSlot.mp same.1
    cases there.symm.trans before
    exact afterDelete_of_refers refers kept
  · intro apart v published
    refine ⟨published, fun k id => ?_⟩
    unfold Tables.content
    show Option.filter _ ((Table.filterMap _ (db.rows k)).lookup id) = _
    rw [Table.lookup_filterMap]
    cases before : (db.rows k).lookup id with
    | none => rfl
    | some row =>
      rw [Option.bind_some]
      by_cases belongs : k.mapVersionId row = v
      · rw [afterDelete_of_ne]
        · rintro rfl rfl
          cases found.symm.trans before
          exact not_published_of_isDraft draft (belongs ▸ published)
        · intro refers
          exact apart ⟨k, id, row, before, refers, belongs ▸ published⟩
      · rw [Option.filter_some, if_neg (fun same => belongs (of_decide_eq_true same)),
          Option.filter_eq_none_iff]
        intro left kept same
        exact belongs ((of_afterDelete kept).2.1.symm.trans (of_decide_eq_true same))

/-- A deletion preserves the published versions exactly if it strips no row of one. -/
theorem preserves_deleteSlot {rowId : Id} {referenced : Bool} :
    Preserves db.toTables (db.after (db.deleteSlot rowId referenced)).toTables ↔
      ¬ db.Strips rowId referenced := by
  unfold deleteSlot
  cases found : (db.rows .slot).lookup rowId with
  | none =>
    refine iff_of_true (.refl _) ?_
    rintro ⟨⟨slot, there, _⟩, _⟩
    cases found.symm.trans there
  | some slot =>
    dsimp only
    cases checked : db.draft (Kind.slot.mapVersionId slot) with
    | error e =>
      refine iff_of_true (.refl _) ?_
      rintro ⟨⟨slot', there, isDraft⟩, _⟩
      cases found.symm.trans there
      obtain ⟨version, passed⟩ := passes_draft.mpr isDraft
      cases checked.symm.trans passed
    | ok version =>
      have isDraft := passes_draft.mp ⟨version, checked⟩
      rw [Except.ok_bind]
      cases referenced with
      | true => exact iff_of_true (.refl _) fun strips => by cases strips.2.1
      | false =>
        have committed : commit (db.withoutSlot rowId) =
            .ok ⟨db.withoutSlot rowId, withoutSlot_consistent rowId⟩ := commit_eq_ok.mpr rfl
        show Preserves _ (db.after (commit (db.withoutSlot rowId))).toTables ↔ _
        rw [committed]
        refine (preserves_withoutSlot found isDraft).trans (not_congr ?_)
        constructor
        · intro strips
          exact ⟨⟨slot, found, isDraft⟩, rfl, strips⟩
        · intro strips
          exact strips.2.2

/-! ## Versions -/

/-- The rows stay, and no version that is not a draft becomes one. -/
theorem preserves_versions {before after : Tables} (rows : after.rows = before.rows)
    (released : ∀ v, before.published v → after.published v) : Preserves before after := by
  intro v published
  refine ⟨released v published, fun k id => ?_⟩
  unfold Tables.content
  rw [rows]

/-- A version that was published stays so. -/
theorem published_setStatus {v : Id} {status : Status} (released : status ≠ .draft)
    (published : db.published v) :
    ∃ version, (db.setStatus id status).lookup v = some version ∧ version.status ≠ .draft := by
  obtain ⟨version, found, other⟩ := published
  unfold setStatus
  by_cases same : v = id
  · subst same
    rw [Table.lookup_modify_self, found]
    exact ⟨_, rfl, released⟩
  · rw [Table.lookup_modify_of_ne same]
    exact ⟨version, found, other⟩

/-- A new version changes no published one. -/
theorem preserves_createVersion {payload : VersionInput}
    (created : db.createVersion id payload = .ok db') : Preserves db.toTables db'.toTables := by
  unfold createVersion at created
  split at created
  · cases created
  next unused =>
    rw [commit_eq_ok.mp created]
    refine preserves_versions rfl ?_
    rintro v ⟨version, found, other⟩
    have absent : db.versions.lookup id = none := by
      rwa [Option.not_isSome_iff_eq_none] at unused
    exact ⟨version, Table.lookup_insert_of_found _ absent found, other⟩

/-- Nor does publishing. -/
theorem preserves_publishVersion (published : db.publishVersion id = .ok db') :
    Preserves db.toTables db'.toTables := by
  obtain ⟨version, _, rest⟩ := Except.bind_eq_ok.mp published
  split at rest
  · cases rest
  · split at rest
    · cases rest
    · rw [commit_eq_ok.mp rest]
      exact preserves_versions rfl fun v => published_setStatus (by decide)

/-- Nor does archiving. -/
theorem preserves_archiveVersion (archived : db.archiveVersion id = .ok db') :
    Preserves db.toTables db'.toTables := by
  unfold archiveVersion at archived
  split at archived
  · split at archived
    · cases archived
    · rw [commit_eq_ok.mp archived]
      exact preserves_versions rfl fun v => published_setStatus (by decide)
  · cases archived

/-! ## Runs -/

/-- A request preserves the published versions exactly if it fits. -/
theorem preserves_step_iff (db : Database) (request : Request) :
    Preserves db.toTables (db.step request).toTables ↔ db.Fits request := by
  unfold step
  cases request with
  | createVersion id payload =>
    exact preserves_after (fun _ created => iff_of_true (preserves_createVersion created) trivial)
      fun _ => trivial
  | publishVersion id =>
    exact preserves_after (fun _ published => iff_of_true (preserves_publishVersion published) trivial)
      fun _ => trivial
  | archiveVersion id =>
    exact preserves_after (fun _ archived => iff_of_true (preserves_archiveVersion archived) trivial)
      fun _ => trivial
  | createSlot | createInspection | createExtinguish | createTrajectory =>
    exact preserves_after (fun _ created => iff_of_true (preserves_create created) trivial)
      fun _ => trivial
  | createPreset id payload =>
    exact preserves_after (fun _ created => iff_of_true (preserves_createPreset created) trivial)
      fun _ => trivial
  | updateSlot | updateInspection | updateExtinguish | updateTrajectory => exact preserves_update
  | deleteSlot rowId referenced => exact preserves_deleteSlot

/-- What is published stays as it is over every stretch of a run exactly if no update of the run moves a
row into a published version, and no slot is deleted that a published version refers to. -/
theorem published_immutable_iff (db : Database) (requests : List Request) :
    (∀ before middle after, requests = before ++ middle ++ after →
      Preserves (Runs.run step db before).toTables (Runs.run step db (before ++ middle)).toTables) ↔
      Runs.Meets step Fits db requests := by
  have trans : ∀ {a b c : Database}, Preserves a.toTables b.toTables →
      Preserves b.toTables c.toTables → Preserves a.toTables c.toTables := Preserves.trans
  calc
    _ ↔ Runs.Meets step (fun db request => Preserves db.toTables (step db request).toTables) db
        requests :=
      Runs.kept_iff (R := fun a b => Preserves a.toTables b.toTables) (fun db => .refl _) trans db
        requests
    _ ↔ Runs.Meets step Fits db requests :=
      Runs.meets_congr (I := fun _ => True) (fun _ _ _ => trivial)
        (fun db request _ => preserves_step_iff db request) trivial requests

/-- One map, without a version. -/
def emptyMap : Database where
  maps := AList.singleton 1 none
  versions := ∅
  rows _ := ∅
  consistent := by decide

/-- A slot of a version. -/
def slotOf (versionId : Id) (code : String) : ParkingSlot where
  mapVersionId := versionId
  code := code
  polygonJson := .obj []
  centerPoseJson := .obj []
  enabled := true

/-- A version is published, and then a slot of the next version is updated: the payload names the published
one. -/
def slotMoved : List Request :=
  [.createVersion 1 ⟨1, "1", 1⟩, .createSlot 1 (slotOf 1 "A1"), .publishVersion 1,
    .createVersion 2 ⟨1, "2", 1⟩, .createSlot 2 (slotOf 2 "A2"), .updateSlot 2 (slotOf 1 "A2")]

/-- A published version gets another slot. -/
theorem published_slot_added :
    ¬ ∀ (db : Database) (requests before middle after : List Request),
      requests = before ++ middle ++ after →
      Preserves (Runs.run step db before).toTables (Runs.run step db (before ++ middle)).toTables := by
  intro claim
  have kept := claim emptyMap slotMoved (slotMoved.take 5) (slotMoved.drop 5) [] (by
    rw [List.append_nil, List.take_append_drop])
  have published : (Runs.run step emptyMap (slotMoved.take 5)).published 1 :=
    ⟨⟨⟨1, "1", 1⟩, .published⟩, by decide +kernel, by decide⟩
  have same := congrArg Option.isSome ((kept 1 published).2 .slot 2)
  revert same
  decide +kernel

end Database

end Firebot.Maps
