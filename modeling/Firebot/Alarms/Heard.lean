import Firebot.Alarms.World

/-!
# Alarms that are heard

After an alarm has been accepted there should be an open fire event for it: of the robot, of the type of fire,
and at the parking slot, if the robot's map has one of the reported code (`Heard`). `handle_alarm` drops an
alarm without a slot it knows, takes the first slot of the code on any map, and counts an alarm that it has seen
before on the event of then, whatever has become of that. **Every alarm of a run is heard exactly if each finds
such an event (`Heard`, before), or opens one at the right slot (`Opens`)** (`alarms_heard_iff`). Nothing is
said of what becomes of the event later, nor of alarms that the vehicle never sends.
-/

namespace Firebot.Alarms

open Firebot.MqttIngress (AlarmFate Call Committed Env Moment State Vehicle Work alarmFate
  alarmFate_again committedBy committed_of_committedBy deliver handleAlarm newFire plainText seenAgain
  textOf)
open Firebot.Robots (Robot)
open Firebot.Tasks (Database Fire FireState)

/-! ## Parking slots -/

/-- A row of `parking_slots`, with the map and the version that it belongs to. -/
structure ParkingSlot where
  id : String
  mapId : String
  version : String
  code : String
  deriving DecidableEq

/-- The parking slots; a version of a map has one of each code. -/
structure ParkingSlots where
  rows : List ParkingSlot
  unique : ∀ a ∈ rows, ∀ b ∈ rows,
    a.mapId = b.mapId → a.version = b.version → a.code = b.code → a = b

namespace ParkingSlots

variable (slots : ParkingSlots)

/-- The slot that the ingress finds: the first of the code. -/
def byCode (code : String) : Option String :=
  (slots.rows.find? fun slot => slot.code = code).map ParkingSlot.id

/-- The slot of the code on the map of a robot. -/
def ofMap (robot : Robot) (code : String) : Option String :=
  (slots.rows.find? fun slot => robot.currentMapId = some slot.mapId &&
    robot.currentMapVersion = some slot.version && slot.code = code).map ParkingSlot.id

/-- The ingress with these slots in its database. -/
def within (env : Env) : Env := { env with slots := slots.byCode }

variable {slots}

end ParkingSlots

/-! ## What is asked for -/

/-- The operators still have to do with the event. -/
def FireState.isOpen : FireState → Bool
  | .resolved | .closed | .dismissed => false
  | .new | .acknowledged | .confirmed | .dispatched | .inProgress => true

/-- The slot that an alarm of a robot reports, if the robot's map has it. -/
def reportedSlot (slots : ParkingSlots) (vehicle : Vehicle) (msg : JsonTree) : Option String :=
  (plainText (msg.getD "parking_slot_code")).bind (slots.ofMap vehicle.robot)

/-- The event is open, and about this robot, this fire and this slot. -/
structure Answers (slots : ParkingSlots) (vehicle : Vehicle) (msg : JsonTree) (fire : Fire) : Prop where
  robot : fire.robotId = some vehicle.id
  type : fire.fireType = msg.getD "fire_type"
  isOpen : FireState.isOpen fire.state = true
  slot : ∀ slotId, reportedSlot slots vehicle msg = some slotId → fire.parkingSlotId = slotId

/-- There is an open event for the alarm. -/
def Heard (slots : ParkingSlots) (vehicle : Vehicle) (msg : JsonTree) (db : Database) : Prop :=
  ∃ id fire, db.fires.lookup id = some fire ∧ Answers slots vehicle msg fire

/-- Immediately after each alarm that is accepted there is an open event for it. -/
def AlarmsHeard (slots : ParkingSlots) (env : Env) (s : State) (actions : List Action) : Prop :=
  ∀ before c after, actions = before ++ .message c :: after →
    ∀ msg vehicle, committedBy (slots.within env) (run (slots.within env) s before)
        (answered (run (slots.within env) s before) c) = some msg →
      textOf msg "type" = "alarm" →
      (run (slots.within env) s before).vehicles.lookup (textOf msg "vehicle_id") = some vehicle →
      Heard slots vehicle msg
        (step (slots.within env) (run (slots.within env) s before) (.message c)).business

/-! ## When an alarm opens an event -/

/-- The alarm has a slot, and no event has been opened by it, by one of its id, or by one like it lately. -/
structure Opens (slots : ParkingSlots) (env : Env) (m : Moment) (vehicle : Vehicle) (msg : JsonTree)
    (db : Database) (slotId : String) : Prop where
  slot : (plainText (msg.getD "parking_slot_code")).bind slots.byCode = some slotId
  message : ∀ id fire, db.fires.lookup id = some fire →
    fire.sourceMessageId.isSome = true → fire.sourceMessageId ≠ plainText (msg.getD "message_id")
  event : ∀ id fire, db.fires.lookup id = some fire →
    fire.robotId = some vehicle.id → fire.sourceEventId ≠ plainText (msg.getD "event_id")
  recent : ∀ id fire, db.fires.lookup id = some fire →
    fire.fingerprint = env.sha256 (vehicle.id ++ ":" ++ slotId ++ ":" ++
      (plainText (msg.getD "fire_type")).getD "") → fire.lastSeenAt < m.received - 300 * second

section

variable {slots : ParkingSlots} {env : Env} {m : Moment} {msg : JsonTree} {w : Work} {slotId : String}

/-- The alarm has not opened an event. -/
theorem not_stored_iff : ¬ (w.business.fires.rows.any fun row => row.2.sourceMessageId.isSome &&
      row.2.sourceMessageId = plainText (msg.getD "message_id")) = true ↔
    ∀ id fire, w.business.fires.lookup id = some fire → fire.sourceMessageId.isSome = true →
      fire.sourceMessageId ≠ plainText (msg.getD "message_id") := by
  rw [Table.any_rows]
  constructor
  · intro new id fire found isSome same
    exact new ⟨id, fire, found, Bool.and_eq_true_iff.mpr ⟨isSome, decide_eq_true same⟩⟩
  · rintro new ⟨id, fire, found, same⟩
    rw [Bool.and_eq_true, decide_eq_true_eq] at same
    exact new id fire found same.1 same.2

/-- There is no event that the alarm counts on. -/
theorem merged_eq_nil {print : String} {eventId : Option String} :
    (w.business.fires.select fun _ fire =>
        fire.robotId = some w.vehicle.id && fire.sourceEventId = eventId) ++
      (w.business.fires.select fun _ fire =>
        fire.fingerprint = print && m.received - 300 * second ≤ fire.lastSeenAt) = [] ↔
    (∀ id fire, w.business.fires.lookup id = some fire →
      fire.robotId = some w.vehicle.id → fire.sourceEventId ≠ eventId) ∧
    ∀ id fire, w.business.fires.lookup id = some fire →
      fire.fingerprint = print → fire.lastSeenAt < m.received - 300 * second := by
  rw [List.append_eq_nil_iff, Table.select_eq_nil, Table.select_eq_nil]
  simp only [Bool.and_eq_false_imp, decide_eq_true_eq, decide_eq_false_iff_not, not_le, ne_eq]

/-- An alarm that opens an event opens it where it says so. -/
theorem alarmFate_fresh_iff : (∃ print, alarmFate (slots.within env) m msg w = .fresh slotId print) ↔
      Opens slots env m w.vehicle msg w.business slotId := by
  unfold alarmFate
  dsimp only
  rw [show (slots.within env).slots = slots.byCode from rfl]
  split
  next stored =>
    refine iff_of_false (by rintro ⟨_, ⟨⟩⟩) ?_
    intro opens
    exact not_stored_iff.mpr opens.message stored
  next new =>
    cases slot : (plainText (msg.getD "parking_slot_code")).bind slots.byCode with
    | none =>
      refine iff_of_false (by rintro ⟨_, ⟨⟩⟩) ?_
      intro opens
      cases slot.symm.trans opens.slot
    | some found =>
      dsimp only
      constructor
      · rintro ⟨print, fresh⟩
        split at fresh
        · cases fresh
        next nothing =>
          cases fresh
          obtain ⟨event, recent⟩ := merged_eq_nil.mp nothing
          exact ⟨slot, not_stored_iff.mp new, event, recent⟩
      · intro opens
        cases Option.some.inj (opens.slot.symm.trans slot)
        rw [show (slots.within env).sha256 = env.sha256 from rfl,
          merged_eq_nil.mpr ⟨opens.event, opens.recent⟩]
        exact ⟨_, rfl⟩

/-! ## One alarm -/

/-- The alarm opens an event at the slot that it reports. -/
def OpensThere (slots : ParkingSlots) (env : Env) (m : Moment) (vehicle : Vehicle) (msg : JsonTree)
    (db : Database) : Prop :=
  ∃ slotId, Opens slots env m vehicle msg db slotId ∧
    ∀ reported, reportedSlot slots vehicle msg = some reported → slotId = reported

theorem Answers.again {vehicle : Vehicle} {fire : Fire} :
    Answers slots vehicle msg (seenAgain m msg fire) ↔ Answers slots vehicle msg fire :=
  ⟨fun answers => ⟨answers.robot, answers.type, answers.isOpen, answers.slot⟩,
    fun answers => ⟨answers.robot, answers.type, answers.isOpen, answers.slot⟩⟩

theorem answers_newFire {vehicle : Vehicle} {print : String} :
    Answers slots vehicle msg (newFire m msg vehicle.id slotId print) ↔
      ∀ reported, reportedSlot slots vehicle msg = some reported → slotId = reported :=
  ⟨fun answers => answers.slot, fun there => ⟨rfl, rfl, rfl, there⟩⟩

/-- There is an event for an alarm exactly if there was one, or the alarm opens it. -/
theorem handleAlarm_heard (unused : w.business.fires.lookup m.newId = none) :
    Heard slots w.vehicle msg (handleAlarm (slots.within env) m msg w).business ↔
      Heard slots w.vehicle msg w.business ∨ OpensThere slots env m w.vehicle msg w.business := by
  have opens : ∀ {fate}, alarmFate (slots.within env) m msg w = fate →
      (∀ slotId print, fate ≠ .fresh slotId print) →
        ¬ OpensThere slots env m w.vehicle msg w.business := by
    rintro fate same other ⟨slotId, opens, _⟩
    obtain ⟨print, fresh⟩ := alarmFate_fresh_iff.mpr opens
    exact other slotId print (same.symm.trans fresh)
  unfold handleAlarm
  cases fate : alarmFate (slots.within env) m msg w with
  | known => exact (or_iff_left (opens fate (by simp))).symm
  | noSlot => exact (or_iff_left (opens fate (by simp))).symm
  | again fireId fire =>
    rw [or_iff_left (opens fate (by simp))]
    have before := (alarmFate_again fate).1
    constructor
    · rintro ⟨id, row, found, answers⟩
      rcases Table.of_lookup_insert found with ⟨rfl, rfl⟩ | ⟨_, kept⟩
      · exact ⟨id, fire, before, Answers.again.mp answers⟩
      · exact ⟨id, row, kept, answers⟩
    · rintro ⟨id, row, found, answers⟩
      by_cases same : id = fireId
      · subst same
        cases Option.some.inj (before.symm.trans found)
        exact ⟨id, _, AList.lookup_insert _, Answers.again.mpr answers⟩
      · exact ⟨id, row, (AList.lookup_insert_ne same).trans found, answers⟩
  | fresh slotId print =>
    have there : OpensThere slots env m w.vehicle msg w.business ↔
        ∀ reported, reportedSlot slots w.vehicle msg = some reported → slotId = reported := by
      constructor
      · rintro ⟨slotId', opens, there⟩
        obtain ⟨print', fresh⟩ := alarmFate_fresh_iff.mpr opens
        cases fate.symm.trans fresh
        exact there
      · intro there
        exact ⟨slotId, alarmFate_fresh_iff.mp ⟨print, fate⟩, there⟩
    rw [there, ← answers_newFire ]
    constructor
    · rintro ⟨id, row, found, answers⟩
      rcases Table.of_lookup_insert found with ⟨_, rfl⟩ | ⟨_, kept⟩
      · exact .inr answers
      · exact .inl ⟨id, row, kept, answers⟩
    · rintro (⟨id, row, found, answers⟩ | answers)
      · exact ⟨id, row, Table.lookup_insert_of_found _ unused found, answers⟩
      · exact ⟨m.newId, _, AList.lookup_insert _, answers⟩

end

/-! ## Runs -/

/-- An alarm that a call commits finds an open event, or opens one where it should. -/
def Noticed (slots : ParkingSlots) (env : Env) (s : State) : Action → Prop
  | .message c => ∀ msg vehicle, committedBy (slots.within env) s (answered s c) = some msg →
      textOf msg "type" = "alarm" → s.vehicles.lookup (textOf msg "vehicle_id") = some vehicle →
      Heard slots vehicle msg s.business ∨ OpensThere slots env c.moment vehicle msg s.business
  | .transition .. | .manualAlarm .. | .createTask .. | .alarmCreateTask .. => True

theorem message_heard (slots : ParkingSlots) (env : Env) (s : State) (c : Call) {msg : JsonTree}
    {vehicle : Vehicle} (commits : committedBy (slots.within env) s (answered s c) = some msg)
    (type : textOf msg "type" = "alarm")
    (found : s.vehicles.lookup (textOf msg "vehicle_id") = some vehicle) :
    Heard slots vehicle msg (step (slots.within env) s (.message c)).business ↔
      Heard slots vehicle msg s.business ∨ OpensThere slots env c.moment vehicle msg s.business := by
  obtain ⟨row, source, w₀, w, call⟩ := committed_of_committedBy commits
  cases Option.some.inj (found.symm.trans call.found)
  have after := (call.deliver_business (by rw [type]; decide)).trans (call.alarm type)
  obtain ⟨same, unused⟩ := answered_of_commits call.commits
  rw [same] at after
  show Heard slots vehicle msg (deliver (slots.within env) s (answered s c)).business ↔ _
  rw [same, after]
  exact handleAlarm_heard (w := s.begin (textOf msg "vehicle_id") vehicle) unused

/-- Every alarm of a run is heard exactly if each finds an open event, or opens one where it should. -/
theorem alarms_heard_iff (slots : ParkingSlots) (env : Env) (s : State) (actions : List Action) :
    AlarmsHeard slots env s actions ↔
      Runs.Meets (step (slots.within env)) (Noticed slots env) s actions := by
  rw [Runs.meets_iff]
  constructor
  · intro heard before action after split
    cases action with
    | message c =>
      intro msg vehicle commits type found
      exact (message_heard slots env _ c commits type found).mp
        (heard before c after split msg vehicle commits type found)
    | transition | manualAlarm | createTask | alarmCreateTask => trivial
  · intro noticed before c after split msg vehicle commits type found
    exact (message_heard slots env _ c commits type found).mpr
      (noticed before (.message c) after split msg vehicle commits type found)

/-! ## An alarm without a code -/

/-- An alarm of a vehicle that does not know its parking slot. -/
def uncodedText : String :=
  "\x7b\"schema_version\": \"1.2\", \"message_id\": \"00000000-0000-4000-8000-000000000007\", " ++
  "\"type\": \"alarm\", \"vehicle_id\": \"R001\", " ++
  "\"boot_id\": \"11111111-1111-4111-8111-111111111111\", " ++
  "\"timestamp\": \"2026-08-11T00:00:07Z\", \"seq\": 7, \"event_id\": \"FIRE-OWNER-001\", " ++
  "\"fire_type\": \"smoke\", \"severity\": \"HIGH\", \"parking_slot_code\": null, " ++
  "\"position\": \x7b\"x\": 1, \"y\": 3, \"theta\": 0\x7d\x7d"

/-- The alarm, decoded. -/
def uncodedMessage : JsonTree :=
  .obj [("schema_version", .str "1.2"),
    ("message_id", .str "00000000-0000-4000-8000-000000000007"),
    ("type", .str "alarm"), ("vehicle_id", .str "R001"),
    ("boot_id", .str "11111111-1111-4111-8111-111111111111"),
    ("timestamp", .str "2026-08-11T00:00:07Z"), ("seq", .int 7), ("event_id", .str "FIRE-OWNER-001"),
    ("fire_type", .str "smoke"), ("severity", .str "HIGH"), ("parking_slot_code", .null),
    ("position", .obj [("x", .int 1), ("y", .int 3), ("theta", .int 0)])]

/-- The time at which it comes. -/
def uncodedAt : Time := 1786406407000000

/-- Python, as far as the alarm goes. -/
def uncodedEnv : Env := Env.knowing [(uncodedText, uncodedMessage)] [("2026-08-11T00:00:07Z", uncodedAt)]

/-- The vehicle has established its boot. -/
def bootedVehicle : Vehicle :=
  let vehicle := Vehicle.initial "r1" "site"
  { vehicle with
    robot := { vehicle.robot with bootId := some "11111111-1111-4111-8111-111111111111" } }

/-- A parking place with one slot. -/
def oneSlot : ParkingSlots where
  rows := [{ id := "p1", mapId := "m1", version := "1", code := "A01" }]
  unique := by simp

/-- The call with the alarm. -/
def uncodedCall : Call where
  moment := .plain uncodedAt
  topic := ["robot", "R001", "alarm"]
  payload := Env.bytes uncodedText

set_option maxRecDepth 4000 in
/-- An alarm without the code of a parking slot is accepted, and no event is opened. -/
theorem uncoded_alarm_lost :
    ¬ ∀ (slots : ParkingSlots) (env : Env) (s : State) (actions : List Action),
      AlarmsHeard slots env s actions := by
  intro claim
  have heard := claim oneSlot uncodedEnv (State.ofVehicles [("R001", bootedVehicle)])
    [.message uncodedCall] [] uncodedCall [] rfl
  have accepted : (committedBy (oneSlot.within uncodedEnv) (State.ofVehicles [("R001", bootedVehicle)])
      (answered (State.ofVehicles [("R001", bootedVehicle)]) uncodedCall)).map (textOf · "type") =
        some "alarm" := by
    decide +kernel
  have fires : (step (oneSlot.within uncodedEnv) (State.ofVehicles [("R001", bootedVehicle)])
      (.message uncodedCall)).business.fires.rows.map Prod.fst = [] := by
    decide +kernel
  obtain ⟨msg, commits, type⟩ := Option.map_eq_some_iff.mp accepted
  obtain ⟨vehicle, _, _, _, call⟩ := committed_of_committedBy commits
  obtain ⟨id, fire, found, _⟩ := heard msg vehicle commits type call.found
  have mem := List.mem_map_of_mem (f := Prod.fst) (Table.mem_rows.mpr found)
  have none_open : id ∈ ([] : List String) := fires ▸ mem
  cases none_open

end Firebot.Alarms
