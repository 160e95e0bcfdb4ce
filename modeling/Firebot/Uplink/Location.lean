import Firebot.Data.Float

/-!
# The location that the Bridge reports

`BridgeState` keeps the last location that came from ROS, counts the locations (`locationRevision`) and knows
when the last one came. `location_loop` goes round in steps: it reads the clock, lets a location that is too
old expire, reads the revision, builds a message from the location that is there by then, hands it to the MQTT
client, and records the revision that it has read. Other threads set and clear the location between any two
of these steps.

The dictionary of a location carries a note (`Located`), of a type that a reader of the model chooses. No
function looks at it.
-/

namespace Firebot.Uplink

open MqttIngress (Raised)

/-- A location dictionary as ROS sent it, with a note of where it comes from. -/
structure Located (γ : Type) where
  doc : JsonTree
  note : γ

/-! ## The state -/

/-- What `BridgeState` keeps of the location. -/
structure LocationState (γ : Type) where
  lastLocation : Option (Located γ)
  locationRevision : Nat
  locationUpdated : Option Time

namespace LocationState

variable {γ : Type} (s : LocationState γ)

/-- `BridgeState()`. -/
def initial : LocationState γ where
  lastLocation := none
  locationRevision := 0
  locationUpdated := none

/-- `set_location`. -/
def setLocation (value : Option (Located γ)) (now : Time) : LocationState γ :=
  match value with
  | none => { s with lastLocation := none }
  | some loc =>
    { lastLocation := some loc
      locationRevision := s.locationRevision + 1
      locationUpdated := some now }

/-- `expire_stale_location`. -/
def expireStaleLocation (stale now : Time) : LocationState γ :=
  match s.lastLocation, s.locationUpdated with
  | some _, some updated =>
    if 0 < stale ∧ stale < now - updated then { s with lastLocation := none } else s
  | _, _ => s

/-- `clear_ros_telemetry`. -/
def clearRosTelemetry : LocationState γ := { s with lastLocation := none, locationUpdated := none }

variable {s} {stale now : Time}

@[simp] theorem expireStaleLocation_revision :
    (s.expireStaleLocation stale now).locationRevision = s.locationRevision := by
  unfold expireStaleLocation
  split
  · split <;> rfl
  · rfl

/-- What the check leaves there was there before, and is not too old. -/
theorem of_expireStaleLocation (pos : 0 < stale) {loc : Located γ}
    (there : (s.expireStaleLocation stale now).lastLocation = some loc) {updated : Time}
    (came : s.lastLocation = some loc → s.locationUpdated = some updated) :
    s.lastLocation = some loc ∧
      (s.expireStaleLocation stale now).locationUpdated = s.locationUpdated ∧ now ≤ updated + stale := by
  unfold expireStaleLocation at there ⊢
  cases last : s.lastLocation with
  | none =>
    simp only [last] at there
    cases there
  | some loc' =>
    cases time : s.locationUpdated with
    | none =>
      simp only [last, time] at there
      cases there
      cases (came last).symm.trans time
    | some updated' =>
      simp only [last, time] at there ⊢
      split at there
      next => cases there
      next young =>
        cases last.symm.trans there
        cases (came last).symm.trans time
        rw [if_neg young]
        refine ⟨rfl, time, ?_⟩
        exact Int.le_add_of_sub_left_le (Int.not_lt.mp (not_and.mp young pos))

end LocationState

/-! ## The message -/

/-- What the Bridge's configuration says about locations. -/
structure LocationConfig where
  locationEnabled : Bool
  locationStale : Time
  minInterval : Time
  siteCode : JsonText
  mapCode : JsonText
  mapVersion : JsonText
  mapChecksum : JsonText
  /-- `_env_location_stale_seconds` answers no other value. -/
  stale_pos : 0 < locationStale

/-- A configuration with the defaults of the Bridge and a map. -/
def onSite : LocationConfig where
  locationEnabled := true
  locationStale := 3 * second
  minInterval := second / 10
  siteCode := "yard"
  mapCode := "floor"
  mapVersion := "1"
  mapChecksum := "c1"
  stale_pos := by decide

/-- `loc.get("position") or loc`. -/
def positionOf (loc : JsonTree) : JsonTree :=
  if (loc.getD "position").truthy then loc.getD "position" else loc

/-- `float(pos.get(name, 0.0))`. -/
def coordinate (floatOf : JsonText → Option JsonTree) (pos : JsonTree) (name : String) :
    Except Raised JsonTree :=
  if pos.isObject then float floatOf ((pos.get name).getD (.real 0)) else .error .attributeError

/-- The pose in a location dictionary. -/
def poseOf (floatOf : JsonText → Option JsonTree) (loc : JsonTree) :
    Except Raised (JsonTree × JsonTree × JsonTree) := do
  let x ← coordinate floatOf (positionOf loc) "x"
  let y ← coordinate floatOf (positionOf loc) "y"
  let theta ← coordinate floatOf (positionOf loc) "theta"
  return (x, y, theta)

/-- `loc.get(name, 0.0)`. -/
def speedOf (loc : JsonTree) (name : String) : JsonTree := (loc.get name).getD (.real 0)

/-- The fields that `make_location` adds to the header of a message. -/
def locationFields (config : LocationConfig) (loc x y theta : JsonTree) : List (JsonText × JsonTree) :=
  [("position", .obj [("x", x), ("y", y), ("theta", theta)]),
    ("linear_speed", speedOf loc "linear"),
    ("angular_speed", speedOf loc "angular"),
    ("site_code", .str config.siteCode),
    ("map_code", .str config.mapCode),
    ("map_version", .str config.mapVersion),
    ("map_checksum", .str config.mapChecksum),
    ("frame_id", .str "map"),
    ("localization_status", (loc.get "localization_status").getD (.str "OK"))]

/-- `if bat is not None: msg["battery"] = bat`. -/
def withBattery (msg battery : JsonTree) : JsonTree :=
  if battery.isNull then msg else msg.set "battery" battery

/-- `make_location`, with the header that `proto.base` makes and the battery of `snapshot_telemetry`. -/
def makeLocation (floatOf : JsonText → Option JsonTree) (config : LocationConfig)
    (base : List (JsonText × JsonTree)) (battery : JsonTree) (loc : Option JsonTree) :
    Except Raised (Option JsonTree) :=
  if !config.locationEnabled then .ok none
  else
    match loc with
    | none => .ok none
    | some loc =>
      if !loc.truthy then .ok none
      else
        match poseOf floatOf loc with
        | .ok (x, y, theta) =>
          .ok (some (withBattery ((JsonTree.obj base).update (locationFields config loc x y theta)) battery))
        | .error .typeError | .error .valueError => .ok none
        | .error raised => .error raised

/-! ## The loop -/

/-- Where `location_loop` stands. -/
inductive Stage where
  | waking
  | expiring (now : Time)
  | reading (now : Time)
  | building (now : Time) (revision : Nat)
  | recording (now : Time) (revision : Nat)
  | ended

/-- A message that was handed to the MQTT client: the location it was built from, and `now` in its pass. -/
structure Publication (γ : Type) where
  message : JsonTree
  location : Located γ
  checked : Time

/-- The state, and the loop that reports from it. -/
structure Feed (γ : Type) where
  state : LocationState γ
  stage : Stage
  lastSent : Time
  lastSentRevision : Nat
  published : List (Publication γ)

/-- What a step of the loop is given: the header and the battery of a message, and whether the MQTT client
takes it. -/
structure Supply where
  base : List (JsonText × JsonTree)
  battery : JsonTree
  taken : Bool

namespace Feed

variable {γ : Type} (floatOf : JsonText → Option JsonTree) (config : LocationConfig) (f : Feed γ)

/-- The Bridge as it starts. -/
def initial : Feed γ where
  state := .initial
  stage := .waking
  lastSent := 0
  lastSentRevision := 0
  published := []

/-- The message that is built now, of the location that is there. -/
def outgoing (supply : Supply) : Except Raised (Option JsonTree) :=
  makeLocation floatOf config supply.base supply.battery (f.state.lastLocation.map Located.doc)

/-- Building and publishing: an exception ends the thread. -/
def build (now : Time) (revision : Nat) (supply : Supply) : Feed γ :=
  match f.outgoing floatOf config supply, f.state.lastLocation with
  | .error _, _ => { f with stage := .ended }
  | .ok (some message), some location =>
    if supply.taken then
      { f with stage := .recording now revision
               published := f.published ++ [{ message, location, checked := now }] }
    else { f with stage := .ended }
  | .ok _, _ => { f with stage := .waking }

/-- One step of `location_loop`. -/
def turn (clock : Time) (supply : Supply) : Feed γ :=
  match f.stage with
  | .waking => { f with stage := .expiring clock }
  | .expiring now =>
    { f with state := f.state.expireStaleLocation config.locationStale now, stage := .reading now }
  | .reading now =>
    if f.lastSentRevision < f.state.locationRevision ∧ config.minInterval ≤ now - f.lastSent then
      { f with stage := .building now f.state.locationRevision }
    else { f with stage := .waking }
  | .building now revision => f.build floatOf config now revision supply
  | .recording now revision =>
    { f with stage := .waking, lastSent := now, lastSentRevision := revision }
  | .ended => f

/-- A message is built of the location that is there, and the MQTT client takes it. -/
def sends (supply : Supply) : Prop :=
  (∃ message, f.outgoing floatOf config supply = .ok (some message)) ∧ supply.taken = true

variable {floatOf config f}

/-- A location is there whenever a message is built. -/
theorem located_of_outgoing {supply : Supply} {message : JsonTree}
    (out : f.outgoing floatOf config supply = .ok (some message)) :
    ∃ location, f.state.lastLocation = some location := by
  unfold outgoing makeLocation at out
  cases there : f.state.lastLocation with
  | some location => exact ⟨location, rfl⟩
  | none =>
    rw [there] at out
    split at out
    · cases out
    · cases out

/-- How building ends: with the message sent and the revision about to be recorded, or with nothing sent. -/
theorem built (f : Feed γ) (now : Time) (revision : Nat) (supply : Supply) :
    (f.sends floatOf config supply ∧ ∃ message location,
      f.outgoing floatOf config supply = .ok (some message) ∧ f.state.lastLocation = some location ∧
      f.build floatOf config now revision supply =
        { f with stage := .recording now revision
                 published := f.published ++ [{ message, location, checked := now }] }) ∨
    (¬ f.sends floatOf config supply ∧ ∃ stage, (stage = .waking ∨ stage = .ended) ∧
      f.build floatOf config now revision supply = { f with stage }) := by
  unfold build sends
  cases out : f.outgoing floatOf config supply with
  | error raised => exact .inr ⟨by simp, .ended, .inr rfl, rfl⟩
  | ok message =>
    cases message with
    | none => exact .inr ⟨by simp, .waking, .inl rfl, rfl⟩
    | some message =>
      obtain ⟨location, there⟩ := located_of_outgoing out
      rw [there]
      cases taken : supply.taken with
      | true => exact .inl ⟨⟨⟨message, rfl⟩, rfl⟩, message, location, rfl, rfl, rfl⟩
      | false => exact .inr ⟨by simp, .ended, .inr rfl, rfl⟩

end Feed

end Firebot.Uplink
