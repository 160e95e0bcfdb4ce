import Firebot.Lib.Except
import Firebot.Lib.Run
import Firebot.Uplink.Location

/-!
# Where the motion data come from

The callbacks of the ROS adapter: `/odom` leaves the two speeds in the adapter, `/amcl_pose` sends a location
with its pose and the speeds that the adapter has, and the location topic sends its dictionary as it is. A
child that starts anew has the speeds `0.0`. The Bridge keeps the last location, and a pass of its
`location_loop` reports it.

Every observation is kept with the time it was received (`Receipt`), and a location carries the receipts its
fields were taken from (`Source`). Only the location as a whole is checked for its age. A speed that the adapter
has had for longer, or never received, and a field that a dictionary lacks go out with it, the latter as `0.0`.
**All five values are of the last `location_stale_seconds` exactly if a location is reported only while its
speeds are of that time as well and its dictionary has all of them** (`Supported`, `motion_grounded_iff`).
Nothing is said of how old a message was when it was received.
-/

namespace Firebot.Uplink

open MqttIngress (Raised)

/-! ## Observations -/

/-- The motion data in a location message. -/
inductive Field where
  | x
  | y
  | theta
  | linear
  | angular
  deriving DecidableEq

namespace Field

/-- The value for the field in a location dictionary. -/
def inDoc (doc : JsonTree) : Field → Option JsonTree
  | .x => (positionOf doc).get "x"
  | .y => (positionOf doc).get "y"
  | .theta => (positionOf doc).get "theta"
  | .linear => doc.get "linear"
  | .angular => doc.get "angular"

/-- The value of the field in a message. -/
def inMessage (message : JsonTree) : Field → Option JsonTree
  | .x => (message.getD "position").get "x"
  | .y => (message.getD "position").get "y"
  | .theta => (message.getD "position").get "theta"
  | .linear => message.get "linear_speed"
  | .angular => message.get "angular_speed"

/-- What `make_location` makes of a value for the field. -/
def reads (floatOf : JsonText → Option JsonTree) (value : JsonTree) : Field → Except Raised JsonTree
  | .x | .y | .theta => float floatOf value
  | .linear | .angular => .ok value

end Field

/-- What a callback is given. The speeds of an odometry message are `math.hypot(vx, vy)` and the rate about the
vertical, the angle of a pose is its yaw; `none` where reading it raises. -/
inductive Observation where
  | odom (linear angular : Option JsonTree)
  | amcl (x y theta : JsonTree)
  | location (doc : JsonTree)

/-- The value for a field in an observation. -/
def Observation.carries : Observation → Field → Option JsonTree
  | .odom linear _, .linear => linear
  | .odom _ angular, .angular => angular
  | .odom _ _, _ => none
  | .amcl x _ _, .x => some x
  | .amcl _ y _, .y => some y
  | .amcl _ _ theta, .theta => some theta
  | .amcl _ _ _, _ => none
  | .location doc, f => f.inDoc doc

/-- An observation and the time it was received. -/
structure Receipt where
  time : Time
  observation : Observation

/-- The observations that a location was made of. -/
inductive Source where
  | amcl (pose : Receipt) (linear angular : Option Receipt)
  | topic (receipt : Receipt)

/-- The observation that a field was taken from; `none` for a speed that was never received. -/
def Source.of : Source → Field → Option Receipt
  | .amcl _ linear _, .linear => linear
  | .amcl _ _ angular, .angular => angular
  | .amcl pose _ _, _ => some pose
  | .topic receipt, _ => some receipt

/-- The observation that made the location. -/
def Source.receipt : Source → Receipt
  | .amcl pose _ _ => pose
  | .topic receipt => receipt

/-! ## The adapter and the Bridge -/

/-- A speed that the adapter has, and the observation that brought it. -/
structure Sample where
  value : JsonTree
  receipt : Option Receipt

/-- `0.0`, before any odometry. -/
def Sample.default : Sample where
  value := .real 0
  receipt := none

/-- The adapter's speeds, the Bridge, its clock, and everything received. -/
structure Motion where
  clock : Time
  linear : Sample
  angular : Sample
  feed : Feed Source
  received : List Receipt

/-- What can happen: time passes, a callback runs, a child starts, `clear_ros_telemetry` is called, the loop
makes a pass. -/
inductive MotionEvent where
  | advance (elapsed : Nat)
  | odom (linear angular : Option JsonTree)
  | amcl (pose : Option (JsonTree × JsonTree × JsonTree))
  | location (data : Option JsonTree)
  | childStarted
  | clearRosTelemetry
  | pass (supply : Supply)

/-- The dictionary that `on_amcl` sends. -/
def amclLocation (x y theta linear angular : JsonTree) : JsonTree :=
  .obj [("position", .obj [("x", x), ("y", y), ("theta", theta)]), ("linear", linear),
    ("angular", angular), ("localization_status", .str "OK")]

namespace Feed

variable {γ : Type} (floatOf : JsonText → Option JsonTree) (config : LocationConfig)

/-- The steps of a pass that are left, one after the other. -/
def finish (clock : Time) (supply : Supply) : Nat → Feed γ → Feed γ
  | 0, f => f
  | n + 1, f =>
    match f.stage with
    | .waking | .ended => f
    | _ => finish clock supply n (f.turn floatOf config clock supply)

/-- A pass of `location_loop`. -/
def pass (f : Feed γ) (clock : Time) (supply : Supply) : Feed γ :=
  finish floatOf config clock supply 4 (f.turn floatOf config clock supply)

end Feed

namespace Motion

variable (floatOf : JsonText → Option JsonTree) (config : LocationConfig)

/-- The adapter and the Bridge as they start. -/
def initial (start : Time) : Motion where
  clock := start
  linear := .default
  angular := .default
  feed := .initial
  received := []

/-- `set_location`, with a dictionary that came from ROS. -/
def setLocation (w : Motion) (doc : JsonTree) (note : Source) : Motion :=
  { w with feed := { w.feed with state := w.feed.state.setLocation (some { doc, note }) w.clock } }

/-- An observation is received. -/
def receive (w : Motion) (r : Receipt) : Motion := { w with received := w.received ++ [r] }

/-- `on_odom`: an exception leaves the rest as it was. -/
def onOdom (w : Motion) (linear angular : Option JsonTree) : Motion :=
  let r : Receipt := { time := w.clock, observation := .odom linear angular }
  match linear with
  | none => w
  | some l =>
    let w := { w.receive r with linear := { value := l, receipt := some r } }
    match angular with
    | none => w
    | some a => { w with angular := { value := a, receipt := some r } }

/-- `on_amcl`. -/
def onAmcl (w : Motion) (pose : Option (JsonTree × JsonTree × JsonTree)) : Motion :=
  match pose with
  | none => w
  | some (x, y, theta) =>
    let r : Receipt := { time := w.clock, observation := .amcl x y theta }
    (w.receive r).setLocation (amclLocation x y theta w.linear.value w.angular.value)
      (.amcl r w.linear.receipt w.angular.receipt)

/-- `on_location`; a text with surrogates cannot be written to the Bridge. -/
def onLocation (w : Motion) (data : Option JsonTree) : Motion :=
  match data with
  | none => w
  | some doc =>
    let r : Receipt := { time := w.clock, observation := .location doc }
    if doc.isObject && doc.encodes then (w.receive r).setLocation doc (.topic r) else w

/-- What happens. -/
def step (w : Motion) : MotionEvent → Motion
  | .advance elapsed => { w with clock := w.clock + elapsed }
  | .odom linear angular => w.onOdom linear angular
  | .amcl pose => w.onAmcl pose
  | .location data => w.onLocation data
  | .childStarted => { w with linear := .default, angular := .default }
  | .clearRosTelemetry => { w with feed := { w.feed with state := w.feed.state.clearRosTelemetry } }
  | .pass supply => { w with feed := w.feed.pass floatOf config w.clock supply }

/-- The adapter and the Bridge after a run. -/
abbrev run (w : Motion) (events : List MotionEvent) : Motion := Runs.run (step floatOf config) w events

end Motion

/-! ## A pass -/

namespace Feed

variable {γ : Type} (floatOf : JsonText → Option JsonTree) (config : LocationConfig) (f : Feed γ)

/-- The loop after its check at a time. -/
def checkedAt (clock : Time) : Feed γ :=
  { f with state := f.state.expireStaleLocation config.locationStale clock }

/-- A pass that begins now reports the location that its check leaves there. -/
def passSends (clock : Time) (supply : Supply) : Prop :=
  f.stage = .waking ∧ f.lastSentRevision < (f.checkedAt config clock).state.locationRevision ∧
    config.minInterval ≤ clock - f.lastSent ∧ (f.checkedAt config clock).sends floatOf config supply

/-- What a pass can come to. -/
inductive Passed (clock : Time) (supply : Supply) : Feed γ → Prop
  | ended (ended : f.stage = .ended) : Passed clock supply f
  | silent (stage : Stage) (rests : stage = .waking ∨ stage = .ended)
      (silent : ¬ f.passSends floatOf config clock supply) :
      Passed clock supply { f.checkedAt config clock with stage }
  | sent (message : JsonTree) (location : Located γ) (sends : f.passSends floatOf config clock supply)
      (built : (f.checkedAt config clock).outgoing floatOf config supply = .ok (some message))
      (there : (f.checkedAt config clock).state.lastLocation = some location) :
      Passed clock supply { f.checkedAt config clock with
        stage := .waking
        lastSent := clock
        lastSentRevision := (f.checkedAt config clock).state.locationRevision
        published := f.published ++ [{ message, location, checked := clock }] }

variable {f}

/-- A pass reports the location that its check has left there, or nothing. -/
theorem passed (rests : f.stage = .waking ∨ f.stage = .ended) (clock : Time) (supply : Supply) :
    Passed floatOf config f clock supply (f.pass floatOf config clock supply) := by
  rcases rests with waking | ended
  · have begun : f.pass floatOf config clock supply =
        finish floatOf config clock supply 2
          (turn floatOf config { f.checkedAt config clock with stage := .reading clock } clock supply) := by
      unfold pass
      rw [show f.turn floatOf config clock supply = { f with stage := .expiring clock } by
        unfold turn
        rw [waking]]
      rfl
    rw [begun]
    by_cases due : f.lastSentRevision < (f.checkedAt config clock).state.locationRevision ∧
        config.minInterval ≤ clock - f.lastSent
    · have read : turn floatOf config { f.checkedAt config clock with stage := .reading clock } clock supply =
          { f.checkedAt config clock with
            stage := .building clock (f.checkedAt config clock).state.locationRevision } := if_pos due
      rw [read]
      show Passed floatOf config f clock supply (finish floatOf config clock supply 1
        (build floatOf config _ clock (f.checkedAt config clock).state.locationRevision supply))
      rcases built { f.checkedAt config clock with
          stage := .building clock (f.checkedAt config clock).state.locationRevision } clock
          (f.checkedAt config clock).state.locationRevision supply with
        ⟨sends, message, location, out, there, same⟩ | ⟨fails, stage, rests, same⟩
      · rw [same]
        exact .sent message location ⟨waking, due.1, due.2, sends⟩ out there
      · rw [same]
        have silent : ¬ f.passSends floatOf config clock supply := fun sends => fails sends.2.2.2
        cases rests with
        | inl waking =>
          rw [waking]
          exact .silent .waking (.inl rfl) silent
        | inr ended =>
          rw [ended]
          exact .silent .ended (.inr rfl) silent
    · have read : turn floatOf config { f.checkedAt config clock with stage := .reading clock } clock supply =
          { f.checkedAt config clock with stage := .waking } := if_neg due
      rw [read]
      exact .silent .waking (.inl rfl) fun sends => due ⟨sends.2.1, sends.2.2.1⟩
  · have unchanged : f.pass floatOf config clock supply = f := by
      unfold pass
      rw [show f.turn floatOf config clock supply = f by
        unfold turn
        rw [ended]]
      unfold finish
      rw [ended]
    rw [unchanged]
    exact .ended ended

end Feed

/-! ## The values in a message -/

section

variable {floatOf : JsonText → Option JsonTree} {config : LocationConfig}

/-- A coordinate that is read is the number in the pose, or zero. -/
theorem coordinate_eq_ok {pos x : JsonTree} {name : String} (h : coordinate floatOf pos name = .ok x) :
    float floatOf ((pos.get name).getD (.real 0)) = .ok x := by
  unfold coordinate at h
  split at h
  · exact h
  · cases h

/-- The battery is the one field that is added. -/
theorem get_withBattery {name : JsonText} (other : name ≠ "battery") (msg battery : JsonTree) :
    (withBattery msg battery).get name = msg.get name := by
  unfold withBattery
  split
  · rfl
  · exact JsonTree.get_set_of_ne other battery msg

/-- A field that `make_location` adds is in the message. -/
theorem get_message {base : List (JsonText × JsonTree)} {battery loc x y theta value : JsonTree}
    {name : JsonText} (mem : (name, value) ∈ locationFields config loc x y theta) (other : name ≠ "battery") :
    (withBattery ((JsonTree.obj base).update (locationFields config loc x y theta)) battery).get name =
      some value := by
  rw [get_withBattery other]
  refine JsonTree.get_update_of_mem rfl ?_ mem
  show (["position", "linear_speed", "angular_speed", "site_code", "map_code", "map_version", "map_checksum",
    "frame_id", "localization_status"] : List JsonText).Nodup
  decide

/-- The message has for each field what the location has for it, or `0.0`. -/
theorem field_of_makeLocation {base : List (JsonText × JsonTree)} {battery doc message : JsonTree}
    (out : makeLocation floatOf config base battery (some doc) = .ok (some message)) (f : Field) :
    ∃ u, f.reads floatOf ((f.inDoc doc).getD (.real 0)) = .ok u ∧ f.inMessage message = some u := by
  unfold makeLocation at out
  split at out
  · cases out
  dsimp only at out
  split at out
  · cases out
  split at out
  next x y theta pose =>
    cases out
    obtain ⟨x', first, pose⟩ := Except.bind_eq_ok.mp pose
    obtain ⟨y', second, pose⟩ := Except.bind_eq_ok.mp pose
    obtain ⟨theta', third, pose⟩ := Except.bind_eq_ok.mp pose
    cases pose
    have position : (withBattery ((JsonTree.obj base).update (locationFields config doc x y theta))
        battery).get "position" = some (.obj [("x", x), ("y", y), ("theta", theta)]) :=
      get_message (.head _) (by decide)
    unfold Field.reads Field.inDoc Field.inMessage JsonTree.getD
    cases f with
    | x => exact ⟨x, coordinate_eq_ok first, by rw [position]; rfl⟩
    | y => exact ⟨y, coordinate_eq_ok second, by rw [position]; rfl⟩
    | theta => exact ⟨theta, coordinate_eq_ok third, by rw [position]; rfl⟩
    | linear => exact ⟨_, rfl, get_message (.tail _ (.head _)) (by decide)⟩
    | angular => exact ⟨_, rfl, get_message (.tail _ (.tail _ (.head _))) (by decide)⟩
  · cases out
  · cases out
  · cases out

end

/-! ## What is to hold -/

namespace Motion

variable (floatOf : JsonText → Option JsonTree) (config : LocationConfig) (w : Motion)

/-- The value of the field in the message is one that was received, `location_stale_seconds` before the
message at most. -/
def Grounded (p : Publication Source) (f : Field) : Prop :=
  ∃ r ∈ w.received, p.location.note.of f = some r ∧ p.checked ≤ r.time + config.locationStale ∧
    ∃ v u, r.observation.carries f = some v ∧ f.reads floatOf v = .ok u ∧ f.inMessage p.message = some u

/-- Every message has received motion data only. -/
def AllGrounded : Prop := ∀ p ∈ w.feed.published, ∀ f, Grounded floatOf config w p f

end Motion

/-- The speeds that a pose was sent with are young enough; a dictionary that came as it is has all the
fields. -/
def Supported (config : LocationConfig) (now : Time) (location : Located Source) : Prop :=
  match location.note with
  | .amcl _ linear angular =>
    (∃ r ∈ linear, now ≤ r.time + config.locationStale) ∧ ∃ r ∈ angular, now ≤ r.time + config.locationStale
  | .topic _ => ∀ f : Field, (f.inDoc location.doc).isSome = true

/-- A pass reports supported locations only. -/
def Motion.Reports (floatOf : JsonText → Option JsonTree) (config : LocationConfig) (w : Motion) :
    MotionEvent → Prop
  | .pass supply => w.feed.passSends floatOf config w.clock supply →
      ∀ loc ∈ (w.feed.checkedAt config w.clock).state.lastLocation, Supported config w.clock loc
  | _ => True

/-! ## What a location was made of -/

/-- The receipts of a location are among those received, and carry what is in its dictionary. -/
structure Traced (received : List Receipt) (location : Located Source) : Prop where
  carried : ∀ f r, location.note.of f = some r →
    r ∈ received ∧ r.observation.carries f = f.inDoc location.doc
  whole : ∀ pose linear angular, location.note = .amcl pose linear angular →
    ∀ f, (Field.inDoc location.doc f).isSome = true

/-- A location stays traced as messages come in. -/
theorem Traced.mono {received received' : List Receipt} {location : Located Source}
    (h : Traced received location) (more : received ⊆ received') : Traced received' location where
  carried f r taken := ⟨more (h.carried f r taken).1, (h.carried f r taken).2⟩
  whole := h.whole

/-- The value of a speed is the one that its receipt carries. -/
def Sample.Traced (received : List Receipt) (sample : Sample) (f : Field) : Prop :=
  ∀ r ∈ sample.receipt, r ∈ received ∧ r.observation.carries f = some sample.value

/-- So does a sample. -/
theorem Sample.Traced.mono {received received' : List Receipt} {sample : Sample} {f : Field}
    (h : sample.Traced received f) (more : received ⊆ received') : sample.Traced received' f :=
  fun r taken => ⟨more (h r taken).1, (h r taken).2⟩

/-- A pose with the speeds that the adapter has. -/
theorem traced_amcl {received : List Receipt} {linear angular : Sample}
    (l : linear.Traced received .linear) (a : angular.Traced received .angular) {time : Time}
    {x y theta : JsonTree} (mem : { time, observation := .amcl x y theta } ∈ received) :
    Traced received
      { doc := amclLocation x y theta linear.value angular.value
        note := .amcl { time, observation := .amcl x y theta } linear.receipt angular.receipt } where
  carried := by
    intro f r taken
    cases f with
    | linear => exact l r taken
    | angular => exact a r taken
    | _ =>
      cases taken
      exact ⟨mem, rfl⟩
  whole := by
    intro pose linear angular same f
    cases f <;> rfl

/-- The document of the topic is traced to the message it was read from. -/
theorem traced_topic {received : List Receipt} {time : Time} {doc : JsonTree}
    (mem : { time, observation := .location doc } ∈ received) :
    Traced received { doc, note := .topic { time, observation := .location doc } } where
  carried := by
    intro f r taken
    cases taken
    exact ⟨mem, rfl⟩
  whole := by
    intro pose linear angular same
    cases same

namespace Motion

/-- What is known of the adapter's speeds, of the location that is there and of every message. -/
structure Sound (floatOf : JsonText → Option JsonTree) (config : LocationConfig) (w : Motion) : Prop where
  rests : w.feed.stage = .waking ∨ w.feed.stage = .ended
  linear : w.linear.Traced w.received .linear
  angular : w.angular.Traced w.received .angular
  location : ∀ loc ∈ w.feed.state.lastLocation,
    w.feed.state.locationUpdated = some loc.note.receipt.time ∧ Traced w.received loc
  published : ∀ p ∈ w.feed.published,
    p.checked ≤ p.location.note.receipt.time + config.locationStale ∧ Traced w.received p.location ∧
      ∀ f : Field, ∃ u, f.reads floatOf ((f.inDoc p.location.doc).getD (.real 0)) = .ok u ∧
        f.inMessage p.message = some u

variable {floatOf : JsonText → Option JsonTree} {config : LocationConfig} {w : Motion}

/-- All the motion data of a message were received exactly if its location was supported when it was sent. -/
theorem Sound.grounded_iff (h : Sound floatOf config w) {p : Publication Source}
    (sent : p ∈ w.feed.published) :
    (∀ f, Grounded floatOf config w p f) ↔ Supported config p.checked p.location := by
  obtain ⟨young, traced, built⟩ := h.published p sent
  have grounded : ∀ f, Grounded floatOf config w p f ↔
      (∃ r ∈ p.location.note.of f, p.checked ≤ r.time + config.locationStale) ∧
        (f.inDoc p.location.doc).isSome = true := by
    intro f
    constructor
    · intro ground
      obtain ⟨r, _, taken, fresh, v, u, carries, _⟩ := ground
      refine ⟨⟨r, taken, fresh⟩, ?_⟩
      rw [← (traced.carried f r taken).2, carries]
      rfl
    · intro found
      obtain ⟨⟨r, taken, fresh⟩, some⟩ := found
      obtain ⟨v, there⟩ := Option.isSome_iff_exists.mp some
      obtain ⟨mem, carries⟩ := traced.carried f r taken
      obtain ⟨u, reads, message⟩ := built f
      rw [there] at carries reads
      exact ⟨r, mem, taken, fresh, v, u, carries, reads, message⟩
  unfold Supported
  cases note : p.location.note with
  | amcl pose linear angular =>
    have whole := traced.whole pose linear angular note
    rw [note] at young
    constructor
    · intro all
      have l := ((grounded .linear).mp (all .linear)).1
      have a := ((grounded .angular).mp (all .angular)).1
      rw [note] at l a
      exact ⟨l, a⟩
    · intro speeds f
      refine (grounded f).mpr ⟨?_, whole f⟩
      rw [note]
      cases f with
      | linear => exact speeds.1
      | angular => exact speeds.2
      | _ => exact ⟨pose, rfl, young⟩
  | topic receipt =>
    rw [note] at young
    constructor
    · intro all f
      exact ((grounded f).mp (all f)).2
    · intro all f
      refine (grounded f).mpr ⟨?_, all f⟩
      rw [note]
      exact ⟨receipt, by cases f <;> rfl, young⟩

/-! ## Every step -/

/-- Nothing has been received. -/
theorem Sound.initial (start : Time) : Sound floatOf config (Motion.initial start) where
  rests := .inl rfl
  linear := by intro r taken; cases taken
  angular := by intro r taken; cases taken
  location := by intro loc there; cases there
  published := by intro p sent; cases sent

/-- A message is received, and nothing is read from it yet. -/
theorem Sound.receive (h : Sound floatOf config w) (r : Receipt) : Sound floatOf config (w.receive r) := by
  have more : w.received ⊆ (w.receive r).received := List.subset_append_left _ _
  refine ⟨h.rests, h.linear.mono more, h.angular.mono more, ?_, ?_⟩
  · intro loc there
    exact ⟨(h.location loc there).1, (h.location loc there).2.mono more⟩
  · intro p sent
    obtain ⟨young, traced, built⟩ := h.published p sent
    exact ⟨young, traced.mono more, built⟩

/-- A location traced to messages received at the present time is stored. -/
theorem Sound.setLocation (h : Sound floatOf config w) {doc : JsonTree} {note : Source}
    (time : note.receipt.time = w.clock) (traced : Traced w.received { doc, note }) :
    Sound floatOf config (w.setLocation doc note) where
  rests := h.rests
  linear := h.linear
  angular := h.angular
  location := by
    intro loc there
    cases there
    exact ⟨congrArg some time.symm, traced⟩
  published := h.published

/-- The message that is being read has been received. -/
theorem received_self (w : Motion) (r : Receipt) : r ∈ (w.receive r).received :=
  List.mem_append_right _ (List.mem_singleton_self r)

/-- The odometry fills in the speeds. -/
theorem Sound.onOdom (h : Sound floatOf config w) (linear angular : Option JsonTree) :
    Sound floatOf config (w.onOdom linear angular) := by
  unfold Motion.onOdom
  cases linear with
  | none => exact h
  | some l =>
    have received := h.receive { time := w.clock, observation := .odom (some l) angular }
    have heard := w.received_self { time := w.clock, observation := .odom (some l) angular }
    have first : Sample.Traced (w.receive { time := w.clock, observation := .odom (some l) angular }).received
        { value := l, receipt := some { time := w.clock, observation := .odom (some l) angular } } .linear := by
      intro r taken
      cases taken
      exact ⟨heard, rfl⟩
    cases angular with
    | none => exact ⟨received.rests, first, received.angular, received.location, received.published⟩
    | some a =>
      refine ⟨received.rests, first, ?_, received.location, received.published⟩
      intro r taken
      cases taken
      exact ⟨heard, rfl⟩

/-- The localization fills in the pose. -/
theorem Sound.onAmcl (h : Sound floatOf config w) (pose : Option (JsonTree × JsonTree × JsonTree)) :
    Sound floatOf config (w.onAmcl pose) := by
  unfold Motion.onAmcl
  cases pose with
  | none => exact h
  | some pose =>
    obtain ⟨x, y, theta⟩ := pose
    have received := h.receive { time := w.clock, observation := .amcl x y theta }
    exact received.setLocation rfl (traced_amcl received.linear received.angular (w.received_self _))

/-- The document of the topic replaces them all. -/
theorem Sound.onLocation (h : Sound floatOf config w) (data : Option JsonTree) :
    Sound floatOf config (w.onLocation data) := by
  unfold Motion.onLocation
  cases data with
  | none => exact h
  | some doc =>
    dsimp only
    split
    · exact (h.receive _).setLocation rfl (traced_topic (w.received_self _))
    · exact h

/-- What the check of a pass leaves there is as young as it asks. -/
theorem Sound.checked (h : Sound floatOf config w) {loc : Located Source}
    (there : (w.feed.checkedAt config w.clock).state.lastLocation = some loc) :
    w.feed.state.lastLocation = some loc ∧
      (w.feed.checkedAt config w.clock).state.locationUpdated = w.feed.state.locationUpdated ∧
      w.clock ≤ loc.note.receipt.time + config.locationStale :=
  LocationState.of_expireStaleLocation config.stale_pos there fun came => (h.location loc came).1

/-- A pass of the feed publishes what it has checked. -/
theorem Sound.pass (h : Sound floatOf config w) (supply : Supply) :
    Sound floatOf config (w.step floatOf config (.pass supply)) := by
  have kept : ∀ loc ∈ (w.feed.checkedAt config w.clock).state.lastLocation,
      (w.feed.checkedAt config w.clock).state.locationUpdated = some loc.note.receipt.time ∧
        Traced w.received loc := by
    intro loc there
    obtain ⟨was, updated, _⟩ := h.checked there
    rw [updated]
    exact h.location loc was
  have passed := Feed.passed floatOf config h.rests w.clock supply
  show Sound floatOf config { w with feed := w.feed.pass floatOf config w.clock supply }
  generalize w.feed.pass floatOf config w.clock supply = after at passed ⊢
  cases passed with
  | ended ended => exact h
  | silent stage rests silent => exact ⟨rests, h.linear, h.angular, kept, h.published⟩
  | sent message location sends built there =>
    refine ⟨.inl rfl, h.linear, h.angular, kept, ?_⟩
    intro p sent
    rcases List.mem_append.mp sent with before | new
    · exact h.published p before
    · cases List.mem_singleton.mp new
      unfold Feed.outgoing at built
      rw [there] at built
      exact ⟨(h.checked there).2.2, (kept location there).2, field_of_makeLocation built⟩

/-- Every step keeps what is known. -/
theorem Sound.step (h : Sound floatOf config w) (e : MotionEvent) :
    Sound floatOf config (w.step floatOf config e) := by
  cases e with
  | advance elapsed => exact ⟨h.rests, h.linear, h.angular, h.location, h.published⟩
  | odom linear angular => exact h.onOdom linear angular
  | amcl pose => exact h.onAmcl pose
  | location data => exact h.onLocation data
  | childStarted =>
    refine ⟨h.rests, ?_, ?_, h.location, h.published⟩
    · intro r taken
      cases taken
    · intro r taken
      cases taken
  | clearRosTelemetry =>
    refine ⟨h.rests, h.linear, h.angular, ?_, h.published⟩
    intro loc there
    cases there
  | pass supply => exact h.pass supply

/-- Only a pass reports. -/
theorem published_callback (w : Motion) {e : MotionEvent} (callback : ∀ supply, e ≠ .pass supply) :
    (w.step floatOf config e).feed.published = w.feed.published := by
  cases e with
  | odom linear angular =>
    show (w.onOdom linear angular).feed.published = _
    unfold onOdom
    cases linear with
    | none => rfl
    | some l => cases angular <;> rfl
  | amcl pose =>
    show (w.onAmcl pose).feed.published = _
    unfold onAmcl
    cases pose <;> rfl
  | location data =>
    show (w.onLocation data).feed.published = _
    unfold onLocation
    cases data with
    | none => rfl
    | some doc =>
      dsimp only
      split <;> rfl
  | pass supply => exact absurd rfl (callback supply)
  | _ => rfl

/-- After a step all messages had supported locations exactly if they had before and the step reports a
supported one. -/
theorem Sound.supported_step_iff (h : Sound floatOf config w) (e : MotionEvent) :
    (∀ p ∈ (w.step floatOf config e).feed.published, Supported config p.checked p.location) ↔
      (∀ p ∈ w.feed.published, Supported config p.checked p.location) ∧ w.Reports floatOf config e := by
  cases e with
  | pass supply =>
    have passed := Feed.passed floatOf config h.rests w.clock supply
    show (∀ p ∈ (w.feed.pass floatOf config w.clock supply).published, _) ↔ _
    generalize w.feed.pass floatOf config w.clock supply = after at passed ⊢
    cases passed with
    | ended ended =>
      refine (and_iff_left ?_).symm
      intro sends
      cases ended.symm.trans sends.1
    | silent stage rests silent => exact (and_iff_left fun sends => absurd sends silent).symm
    | sent message location sends built there =>
      show (∀ p ∈ w.feed.published ++ [_], _) ↔ _
      rw [List.forall_mem_append, List.forall_mem_singleton]
      refine and_congr_right fun _ => ?_
      constructor
      · intro supported _ loc there'
        cases there.symm.trans there'
        exact supported
      · intro reports
        exact reports sends location there
  | _ =>
    rw [published_callback w (by intro supply same; cases same)]
    exact (and_iff_left trivial).symm

/-- All that was published is grounded when each location was supported as it was checked. -/
theorem Sound.allGrounded_iff (h : Sound floatOf config w) :
    AllGrounded floatOf config w ↔ ∀ p ∈ w.feed.published, Supported config p.checked p.location := by
  constructor
  · intro all p sent
    exact (h.grounded_iff sent).mp (all p sent)
  · intro all p sent
    exact (h.grounded_iff sent).mpr (all p sent)

/-- In every state of a run all messages have received motion data of the last `location_stale_seconds` only,
exactly if every pass reports a supported location. -/
theorem motion_grounded_iff (floatOf : JsonText → Option JsonTree) (config : LocationConfig) (start : Time)
    (events : List MotionEvent) :
    (∀ before after, events = before ++ after →
      ((Motion.initial start).run floatOf config before).AllGrounded floatOf config) ↔
    Runs.Meets (Motion.step floatOf config) (Motion.Reports floatOf config) (Motion.initial start) events := by
  constructor
  · intro states
    refine Runs.meets_iff.mpr ?_
    intro before e after split
    have sound : Sound floatOf config ((Motion.initial start).run floatOf config before) :=
      Runs.run_of_step (I := Sound floatOf config) (fun w e h => h.step e) _ _ (Sound.initial start)
    have all := states (before ++ [e]) after (by rw [split, List.append_assoc]; rfl)
    rw [Motion.run, Runs.run_append] at all
    exact ((sound.supported_step_iff e).mp ((sound.step e).allGrounded_iff.mp all)).2
  · intro met before after split
    have kept := Runs.states_of_meets
      (I := fun w => Sound floatOf config w ∧
        ∀ p ∈ w.feed.published, Supported config p.checked p.location)
      (fun w e h ok => ⟨h.1.step e, (h.1.supported_step_iff e).mpr ⟨h.2, ok⟩⟩)
      ⟨Sound.initial start, by intro p sent; cases sent⟩ met before after split
    exact kept.1.allGrounded_iff.mpr kept.2

end Motion

/-! ## A pose without odometry -/

/-- A pose comes before any odometry, and is reported. -/
def posedFirst : List MotionEvent :=
  [.amcl (some (.real 1, .real 2, .real 0)), .pass { base := [], battery := .null, taken := true }]

/-- The message has the linear speed `0.0` that nothing was received for. -/
theorem default_speed_reported :
    ¬ ((Motion.initial (10 * second)).run (fun _ => none) onSite posedFirst).AllGrounded
      (fun _ => none) onSite := by
  intro all
  have unreceived : ((Motion.initial (10 * second)).run (fun _ => none) onSite
      posedFirst).feed.published.map (fun p => (p.location.note.of .linear).isNone) = [true] := by
    decide +kernel
  have reported := List.mem_singleton_self true
  rw [← unreceived] at reported
  obtain ⟨p, sent, absent⟩ := List.mem_map.mp reported
  obtain ⟨r, _, taken, _⟩ := all p sent .linear
  rw [taken] at absent
  cases absent

end Firebot.Uplink
