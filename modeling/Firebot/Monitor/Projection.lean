import Firebot.Monitor.Emitted
import Firebot.Monitor.Store

/-!
# What the page shows of a vehicle

The server takes fields out of a vehicle's document: the pose, when its map is no longer verified, and the
emergency stop, when its source does not report it. The page merges the document into the vehicle's entry and
takes nothing out. **After each event the entry agrees with the last whole document in pose and emergency stop
exactly if no document lacks one of these fields that the one before it had** (`entry_agrees_iff`). Nothing is
said of events that do not arrive.
-/

namespace Firebot.Monitor

open Firebot.Robots Firebot.MqttIngress Firebot.Platform Firebot.Events

/-- An event of a vehicle, as the ingress or the worker emits it and the socket sends it. -/
structure VehicleEvent where
  streamId : StreamId
  event : MqttIngress.Event
  vehicleId : JsonText
  type : (event.1.startsWith "vehicle.") = true
  named : named vehicleId event.2 = true
  emitted : ∃ env s a, event ∈ emitted env s a

namespace VehicleEvent

variable (e : VehicleEvent) (v : JsonText)

/-- The event as the page gets it. -/
def realtime : RealtimeEvent := ⟨e.streamId, e.event.1, e.event.2⟩

/-- The document of the vehicle that the event carries, if it carries the whole of it. -/
def document : Option JsonTree := if e.vehicleId = v ∧ isFull e.event = true then some e.event.2 else none

end VehicleEvent

section

variable (string : JsonTree → JsonText) (v : JsonText) (store : Store) (events : List VehicleEvent)

/-- The store after some events. -/
def applied : Store := events.foldl (fun s e => s.applyEvent string e.realtime) store

/-- The last whole document of a vehicle. -/
def lastDocument : Option JsonTree := (events.filterMap fun e => e.document v).getLast?

/-- A field of the vehicle's entry. -/
def Store.shows (s : Store) (name : JsonText) : Option JsonTree := (s.entry v).bind fun entry => entry.get name

/-- After each event the entry agrees with the last whole document. -/
def Agrees : Prop :=
  ∀ before after, events = before ++ after → ∀ doc, lastDocument v before = some doc →
    ∀ name ∈ projected, (applied string store before).shows v name = doc.get name

/-- What the documents said last of a field: the last one, or the entry before the first. -/
def said (name : JsonText) : Option JsonTree :=
  match lastDocument v events with
  | some doc => doc.get name
  | none => store.shows v name

/-- No document lacks a projected field that was said to be there before it. -/
def NothingRemoved : Prop :=
  ∀ before e after, events = before ++ e :: after → ∀ doc, e.document v = some doc →
    ∀ name ∈ projected, doc.get name = none → said v store before name = none

end

/-! ## One event -/

section

variable {string : JsonTree → JsonText} {v : JsonText} {store : Store} {before : List VehicleEvent}
  {e : VehicleEvent} {name : JsonText}

theorem applied_concat (before : List VehicleEvent) (e : VehicleEvent) :
    applied string store (before ++ [e]) = (applied string store before).applyEvent string e.realtime :=
  List.foldl_append

theorem applyEvent_entry (s : Store) (e : VehicleEvent) (v : JsonText) :
    (s.applyEvent string e.realtime).entry v = (applyVehicle string s.robots e.event.2).find? (named v) := by
  have type : (e.realtime.type.startsWith "robot." || e.realtime.type.startsWith "vehicle.") = true := by
    rw [Bool.or_eq_true]
    exact .inr e.type
  unfold Store.applyEvent Store.entry
  dsimp only
  rw [if_pos type]
  rfl

/-- An event of the vehicle is merged into its entry. -/
theorem shows_of_own (s : Store) (own : e.vehicleId = v) (among : name ∈ projected) :
    (s.applyEvent string e.realtime).shows v name = (e.event.2.get name).or (s.shows v name) := by
  have other : name ≠ "data_channels" := by
    intro same
    subst same
    exact absurd among (by decide)
  subst own
  unfold Store.shows
  rw [applyEvent_entry, find?_applyVehicle e.named]
  show (some _ : Option JsonTree).bind _ = _
  cases found : s.entry e.vehicleId with
  | none =>
    unfold Store.entry at found
    rw [found]
    simp
  | some entry =>
    have is_entry : named e.vehicleId entry = true := List.find?_some found
    unfold Store.entry at found
    rw [found]
    exact get_mergeEntry (isObject_of_named is_entry) other

/-- An event of another vehicle leaves the entry as it is. -/
theorem shows_of_other (s : Store) (other : e.vehicleId ≠ v) (name : JsonText) :
    (s.applyEvent string e.realtime).shows v name = s.shows v name := by
  unfold Store.shows
  rw [applyEvent_entry, find?_applyVehicle_other e.named other]
  rfl

/-- A whole document is merged into the entry. -/
theorem shows_of_document (s : Store) {doc : JsonTree} (carries : e.document v = some doc)
    (among : name ∈ projected) :
    (s.applyEvent string e.realtime).shows v name = (doc.get name).or (s.shows v name) := by
  unfold VehicleEvent.document at carries
  split at carries
  next whole =>
    cases carries
    exact shows_of_own s whole.1 among
  · cases carries

/-- Any other event leaves the projected fields of the entry as they are. -/
theorem shows_of_no_document (s : Store) (carries : e.document v = none) (among : name ∈ projected) :
    (s.applyEvent string e.realtime).shows v name = s.shows v name := by
  by_cases own : e.vehicleId = v
  · obtain ⟨env, state, action, mem⟩ := e.emitted
    unfold VehicleEvent.document at carries
    rcases emitted_plain env state action e.event mem with full | apart
    · rw [if_pos ⟨own, full⟩] at carries
      cases carries
    · rw [shows_of_own s own among, apart name among, Option.none_or]
  · exact shows_of_other s own name

theorem said_of_document {doc : JsonTree} (carries : e.document v = some doc) (name : JsonText) :
    said v store (before ++ [e]) name = doc.get name := by
  unfold said lastDocument
  simp [carries]

theorem said_of_no_document (carries : e.document v = none) (name : JsonText) :
    said v store (before ++ [e]) name = said v store before name := by
  unfold said lastDocument
  simp [carries]

end

/-! ## Sequences of events -/

section

variable (string : JsonTree → JsonText) (v : JsonText) (store : Store) (events : List VehicleEvent)

/-- Before the first document the entry shows what it showed. -/
theorem shows_before {string : JsonTree → JsonText} {v : JsonText} {store : Store} {before : List VehicleEvent}
    (none : lastDocument v before = none) {name : JsonText} (among : name ∈ projected) :
    (applied string store before).shows v name = store.shows v name := by
  induction before using List.reverseRecOn with
  | nil => rfl
  | append_singleton before e ih =>
    have silent : e.document v = Option.none ∧ lastDocument v before = Option.none := by
      unfold lastDocument at none ⊢
      rw [List.filterMap_append, List.getLast?_eq_none_iff, List.append_eq_nil_iff] at none
      constructor
      · simpa using none.2
      · rw [none.1]
        rfl
    rw [applied_concat, shows_of_no_document _ silent.1 among, ih silent.2]

/-- Where nothing is removed, the entry shows what was said last. -/
theorem shows_said {string : JsonTree → JsonText} {v : JsonText} {store : Store} {events : List VehicleEvent}
    (kept : NothingRemoved v store events) (before after : List VehicleEvent)
    (split : events = before ++ after) {name : JsonText} (among : name ∈ projected) :
    (applied string store before).shows v name = said v store before name := by
  induction before using List.reverseRecOn generalizing after with
  | nil => rfl
  | append_singleton before e ih =>
    have split' : events = before ++ e :: after := by rw [split, List.append_assoc]; rfl
    have shown := ih (e :: after) split'
    rw [applied_concat]
    cases carries : e.document v with
    | none => rw [shows_of_no_document _ carries among, said_of_no_document carries, shown]
    | some doc =>
      rw [shows_of_document _ carries among, said_of_document carries, shown]
      cases field : doc.get name with
      | some value => rfl
      | none => rw [kept before e after split' doc carries name among field, Option.or_none]

/-- **The entry agrees with the last whole document** after each event exactly if no document lacks a field of
the pose or the emergency stop that was said to be there before it. -/
theorem entry_agrees_iff : Agrees string v store events ↔ NothingRemoved v store events := by
  constructor
  · intro agrees before e after split doc carries name among field
    have shown : (applied string store before).shows v name = said v store before name := by
      unfold said
      cases last : lastDocument v before with
      | none => exact shows_before last among
      | some doc' => exact agrees before (e :: after) split doc' last name among
    have last : lastDocument v (before ++ [e]) = some doc := by
      unfold lastDocument
      simp [carries]
    have now := agrees (before ++ [e]) after (by rw [split, List.append_assoc]; rfl) doc last name among
    rw [applied_concat, shows_of_document _ carries among, field, Option.none_or] at now
    rw [← shown, now]
  · intro kept before after split doc last name among
    rw [shows_said kept before after split among]
    unfold said
    rw [last]

end

/-! ## An emergency stop that is shown for ever -/

/-- The vehicle's document before its source was changed. -/
def canonicalDoc : JsonTree :=
  .obj [("vehicle_id", .str "R1"), ("robot_id", .str "r1"), ("online_state", .str "ONLINE"),
    ("estop_active", .bool false)]

/-- The vehicle and its document. -/
def canonicalState : State :=
  let s := State.ofVehicles [("R1", Vehicle.initial "r1" "site")]
  { s with redis := { s.redis with latest := fun _ => Latest.of canonicalDoc } }

/-- The time of the message. -/
def modeAt : Time := 1767225600000

/-- The mode of a vehicle, as the compatibility layer hands it on. -/
def modeText : String :=
  "\x7b\"internal_contract\": \"ros-compat-v1\", \"vehicle_id\": \"R1\", " ++
  "\"bridge_boot_id\": \"00000000-0000-4000-8000-00000000000b\", \"seq\": 7, " ++
  "\"timestamp\": \"2026-01-01T00:00:00+00:00\", \"mode\": \"MANUAL\", " ++
  "\"ros_control_mode\": \"manual\"\x7d"

/-- The message, decoded. -/
def modeMessage : JsonTree :=
  .obj [("internal_contract", .str "ros-compat-v1"), ("vehicle_id", .str "R1"),
    ("bridge_boot_id", .str "00000000-0000-4000-8000-00000000000b"), ("seq", .int 7),
    ("timestamp", .str "2026-01-01T00:00:00+00:00"), ("mode", .str "MANUAL"),
    ("ros_control_mode", .str "manual")]

/-- Python, as far as the message goes. -/
def modeEnv : Env := Env.knowing [(modeText, modeMessage)] [("2026-01-01T00:00:00+00:00", modeAt)]

/-- The message arrives. -/
def modeAction : Action :=
  .message ⟨.plain modeAt, ["_platform", "compat", "R1", "compat_status"], Env.bytes modeText⟩

/-- The page, with the vehicle as the snapshot shows it. -/
def canonicalStore : Store := ⟨zero, [canonicalDoc], [], []⟩

set_option maxRecDepth 8000 in
/-- The page goes on to show an emergency stop that the server has taken out of the document. -/
theorem estop_shown_on : ¬ ∀ string v store events, Agrees string v store events := by
  intro claim
  have first : (emitted modeEnv canonicalState modeAction).head?.any (fun e =>
      e.1.startsWith "vehicle." && named "R1" e.2 && isFull e && (e.2.get "estop_active").isNone) = true := by
    decide +kernel
  obtain ⟨e, head, holds⟩ := (Option.any_eq_true _ _).mp first
  simp only [Bool.and_eq_true, Option.isNone_iff_eq_none] at holds
  obtain ⟨⟨⟨type, own⟩, full⟩, taken⟩ := holds
  let event : VehicleEvent :=
    ⟨streamId 1 0, e, "R1", type, own, modeEnv, canonicalState, modeAction, List.mem_of_head? head⟩
  have carries : event.document "R1" = some e.2 := if_pos ⟨rfl, full⟩
  have last : lastDocument "R1" [event] = some e.2 := by
    unfold lastDocument
    simp [carries]
  have shown := claim (fun _ => "") "R1" canonicalStore [event] [event] [] rfl e.2 last "estop_active" (by decide)
  change (canonicalStore.applyEvent _ event.realtime).shows "R1" "estop_active" = _ at shown
  rw [shows_of_document _ carries (by decide), taken, Option.none_or] at shown
  cases shown

end Firebot.Monitor
