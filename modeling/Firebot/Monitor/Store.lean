import Firebot.Lib.JsonTree
import Firebot.Lib.Rows
import Firebot.Events.Socket

/-!
# The store of the monitor page

A browser holds the snapshot that it has loaded and applies the events of the socket to it. An event of a
vehicle is merged into the vehicle's entry key by key, one of an alarm or a task into the row with its id; where
there is none, it becomes one. What is not in an event stays as it is. The selection of a vehicle, which an
event can change too, is left out.
-/

namespace Firebot.Monitor

open Firebot.Events (StreamId)

/-! ## JavaScript -/

/-- The value counts as true. -/
def truthy : JsonTree → Bool
  | .null | .nan => false
  | .bool b => b
  | .int n => n ≠ 0
  | .real q => q ≠ 0
  | .str s => s ≠ ""
  | .inf _ | .arr _ | .obj _ => true

/-- `a === b`, where `none` is `undefined`: an array or an object is the same as no other. -/
def strictEq : Option JsonTree → Option JsonTree → Bool
  | none, none | some .null, some .null => true
  | some (.bool a), some (.bool b) => a = b
  | some (.int a), some (.int b) => a = b
  | some (.int a), some (.real b) | some (.real b), some (.int a) => (a : ℚ) = b
  | some (.real a), some (.real b) => a = b
  | some (.str a), some (.str b) => a = b
  | _, _ => false

/-- `{...a, ...b}`, where what is spread is an object. -/
def spread (a : JsonTree) : JsonTree → JsonTree
  | .obj fields => fields.foldr (fun field t => t.set field.1 field.2) a
  | _ => a

@[simp] theorem isObject_spread (a b : JsonTree) : (spread a b).isObject = a.isObject := by
  unfold spread
  split
  next fields =>
    induction fields with
    | nil => rfl
    | cons field fields ih => exact (JsonTree.isObject_set ..).trans ih
  · rfl

/-- A field is taken from the second object, if it is there. -/
theorem get_spread {a : JsonTree} (object : a.isObject = true) (b : JsonTree) (name : JsonText) :
    (spread a b).get name = (b.get name).or (a.get name) := by
  cases b with
  | obj fields =>
    induction fields with
    | nil => rfl
    | cons field fields ih =>
      show ((spread a (.obj fields)).set field.1 field.2).get name = _
      have rest : (spread a (.obj fields)).isObject = true := (isObject_spread ..).trans object
      obtain ⟨key, value⟩ := field
      have head : (JsonTree.obj ((key, value) :: fields)).get key = some value := by
        show List.lookup key ((key, value) :: fields) = some value
        rw [List.lookup_cons, BEq.rfl]
      by_cases same : name = key
      · subst same
        rw [JsonTree.get_set_self rest, head]
        rfl
      · have tail : (JsonTree.obj ((key, value) :: fields)).get name = (JsonTree.obj fields).get name :=
          JsonTree.lookup_cons_of_ne same ..
        rw [JsonTree.get_set_of_ne same, ih, tail]
  | null | bool b | int n | real q | inf n | nan | str s | arr items => rfl

/-! ## The store -/

/-- An event as the socket sends it. -/
structure RealtimeEvent where
  streamId : StreamId
  type : String
  data : JsonTree

/-- The snapshot, as far as events change it. -/
structure Store where
  watermark : StreamId
  robots : List JsonTree
  alarms : List JsonTree
  tasks : List JsonTree

/-- The entry of a vehicle. -/
def named (v : JsonText) (entry : JsonTree) : Bool := (entry.getD "vehicle_id").asText = some v

/-- The entry of a vehicle, if there is one. -/
def Store.entry (s : Store) (v : JsonText) : Option JsonTree := s.robots.find? (named v)

/-- An entry with an event merged into it. The channels of the event are merged into those of the entry. -/
def mergeEntry (data current : JsonTree) : JsonTree :=
  let merged := spread current data
  match data.get "data_channels" with
  | some incoming =>
    if truthy incoming then
      let channels := ((current.get "data_channels").filter truthy).getD (.obj [])
      merged.set "data_channels" (spread channels incoming)
    else merged
  | none => merged

/-- `replaceById`. -/
def replaceById (rows : List JsonTree) (value : JsonTree) : List JsonTree :=
  (Rows.replaceFirst (fun row => strictEq (row.get "id") (value.get "id")) (spread · value) rows).getD
    (value :: rows)

section

variable (string : JsonTree → JsonText)

/-- `String(event.data.vehicle_id || '')`, where `string` is `String` of what is no text. -/
def vehicleIdOf (data : JsonTree) : JsonText :=
  match data.getD "vehicle_id" with
  | .str s => s
  | value => if truthy value then string value else ""

/-- The entries after an event of a vehicle. -/
def applyVehicle (robots : List JsonTree) (data : JsonTree) : List JsonTree :=
  (Rows.replaceFirst (named (vehicleIdOf string data)) (mergeEntry data) robots).getD (robots ++ [data])

/-- `applyEvent`. -/
def Store.applyEvent (s : Store) (e : RealtimeEvent) : Store :=
  let s := { s with watermark := e.streamId }
  if e.type.startsWith "robot." || e.type.startsWith "vehicle." then
    { s with robots := applyVehicle string s.robots e.data }
  else if e.type.startsWith "alarm." then { s with alarms := replaceById s.alarms e.data }
  else if e.type.startsWith "task." then { s with tasks := replaceById s.tasks e.data }
  else s

end

/-! ## What an entry shows -/

section

variable {string : JsonTree → JsonText} {robots : List JsonTree} {data entry : JsonTree} {u v : JsonText}

theorem isObject_of_named (own : named v entry = true) : entry.isObject = true := by
  cases entry with
  | obj fields => rfl
  | null | bool b | int n | real q | inf n | nan | str s | arr items => cases own

/-- A field of an entry other than its channels, once an event is merged into it. -/
theorem get_mergeEntry (object : entry.isObject = true) {name : JsonText} (other : name ≠ "data_channels") :
    (mergeEntry data entry).get name = (data.get name).or (entry.get name) := by
  unfold mergeEntry
  dsimp only
  split
  · split
    · rw [JsonTree.get_set_of_ne other, get_spread object]
    · exact get_spread object data name
  · exact get_spread object data name

/-- An event that names its vehicle by a text. -/
theorem vehicleIdOf_named (own : named v data = true) : vehicleIdOf string data = v := by
  have text : (data.getD "vehicle_id").asText = some v := of_decide_eq_true own
  cases same : data.getD "vehicle_id" with
  | str s =>
    rw [same] at text
    unfold vehicleIdOf
    rw [same]
    exact Option.some.inj text
  | _ =>
    rw [same] at text
    cases text

theorem named_mergeEntry (own : named v data = true) (entry : JsonTree) (found : named v entry = true) :
    named v (mergeEntry data entry) = true := by
  unfold named JsonTree.getD
  rw [get_mergeEntry (isObject_of_named found) (by decide)]
  have text : (data.getD "vehicle_id").asText = some v := of_decide_eq_true own
  unfold JsonTree.getD at text
  cases given : data.get "vehicle_id" with
  | none =>
    rw [given] at text
    cases text
  | some value =>
    rw [given] at text
    exact decide_eq_true text

theorem named_ne (other : u ≠ v) (own : named u entry = true) : named v entry = false := by
  unfold named at own ⊢
  rw [of_decide_eq_true own, decide_eq_false_iff_not, Option.some_inj]
  exact other

/-- The entry of the vehicle that an event is about. -/
theorem find?_applyVehicle (own : named v data = true) :
    (applyVehicle string robots data).find? (named v) =
      some (((robots.find? (named v)).map (mergeEntry data)).getD data) := by
  unfold applyVehicle
  rw [vehicleIdOf_named own]
  cases replaced : Rows.replaceFirst (named v) (mergeEntry data) robots with
  | none =>
    have absent := Rows.replaceFirst_eq_none.mp replaced
    rw [Option.getD_none, List.find?_append, absent]
    simp [own]
  | some rows =>
    have kept := Rows.find?_replaceFirst (named_mergeEntry own) replaced
    cases found : robots.find? (named v) with
    | none =>
      rw [Rows.replaceFirst_eq_none.mpr found] at replaced
      cases replaced
    | some entry =>
      rw [found] at kept
      exact kept

/-- The entry of another vehicle. -/
theorem find?_applyVehicle_other (own : named u data = true) (other : u ≠ v) :
    (applyVehicle string robots data).find? (named v) = robots.find? (named v) := by
  unfold applyVehicle
  rw [vehicleIdOf_named own]
  cases replaced : Rows.replaceFirst (named u) (mergeEntry data) robots with
  | none =>
    rw [Option.getD_none, List.find?_append]
    simp [named_ne other own]
  | some rows =>
    apply Rows.find?_replaceFirst_other _ _ replaced
    · intro entry found
      exact named_ne other found
    · intro entry found
      exact named_ne other (named_mergeEntry own entry found)

end

end Firebot.Monitor
