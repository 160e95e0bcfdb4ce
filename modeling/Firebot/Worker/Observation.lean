import Mathlib.Algebra.Order.Ring.Rat
import Firebot.Data.Json

/-!
# What the worker reads of a vehicle's latest telemetry

The ingress keeps one document per vehicle in Redis; the worker decides from it whether the vehicle
stands still. `stationaryObservation` tells whether the document is fresh and its speeds are below the
thresholds, `observationToken` gives the time by which one observation is told from the next, and
`advanceStationaryFrames` counts.

Floating-point numbers are a type `F` with the operations the code applies to them (`PyFloat`);
nothing is assumed of them. `float()` raises on a value it cannot convert, and nothing on the way to
the worker's main loop catches it.
-/

namespace Firebot.Worker

/-! ## Floats -/

/-- The operations on floats that the worker uses. -/
class PyFloat (F : Type) where
  /-- The float a decimal literal denotes. -/
  ofDecimal : ℚ → F
  /-- `float(n)`; `none` where it overflows. -/
  ofInt : Int → Option F
  /-- `float(text)`; `none` where the text is no number. -/
  ofText : String → Option F
  /-- `bool(x)`. -/
  truthy : F → Bool
  /-- `math.hypot(x, y)`. -/
  hypot : F → F → F
  /-- `abs(x)`. -/
  abs : F → F
  /-- `x < y`. -/
  lt : F → F → Bool

/-- The rationals as floats, to run the worker on fixed inputs: every number of those inputs is exact in
both, no text among them is a number, and one leg of each `hypot` is 0. -/
instance : PyFloat ℚ where
  ofDecimal q := q
  ofInt n := if n.natAbs < 2 ^ 1024 then some n else none
  ofText _ := none
  truthy q := q ≠ 0
  hypot x y := |x| + |y|
  abs q := |q|
  lt p q := p < q

/-- What `float()` raises. -/
inductive Raised where
  | typeError
  | valueError
  | overflowError
  deriving DecidableEq, Repr

/-- A decoded JSON value that the code reads as a number; of an array or an object only whether it is
empty is seen. -/
inductive Value (F : Type) where
  | null
  | bool (b : Bool)
  | int (n : Int)
  | float (x : F)
  | text (s : String)
  | compound (empty : Bool)
  deriving DecidableEq

variable {F : Type} [PyFloat F]

/-- `float(value)`. -/
def toFloat : Value F → Except Raised F
  | .null => .error .typeError
  | .bool b => ((PyFloat.ofInt (if b then 1 else 0)).map .ok).getD (.error .overflowError)
  | .int n => ((PyFloat.ofInt n).map .ok).getD (.error .overflowError)
  | .float x => .ok x
  | .text s => ((PyFloat.ofText s).map .ok).getD (.error .valueError)
  | .compound _ => .error .typeError

/-- `value is None`. -/
def Value.isNull : Value F → Bool
  | .null => true
  | _ => false

/-- `value or 0`. -/
def Value.orZero : Value F → Value F
  | .null => .int 0
  | .bool b => if b then .bool b else .int 0
  | .int n => .int n
  | .float x => if PyFloat.truthy x then .float x else .int 0
  | .text s => if s = "" then .int 0 else .text s
  | .compound empty => if empty then .int 0 else .compound empty

/-! ## The document -/

/-- A time stamp of the document: absent or falsy, a text with an offset, a text without one, or
anything else. -/
inductive Stamp where
  | absent
  | aware (t : Time)
  | naive (t : Time)
  | other
  deriving DecidableEq, Repr

/-- The fields of a vehicle's `latest` document that the worker's STOP verification reads. A field
that is absent reads as `null`; only of `angular_z` the code asks whether it is there. -/
structure Latest (F : Type) where
  serverReceivedAt : Stamp
  sourceTimestamp : Stamp
  linearX : Value F
  linearY : Value F
  planarSpeed : Value F
  linear : Value F
  angularZ : Option (Value F)
  angular : Value F
  deriving DecidableEq

/-- The document of a vehicle that has sent nothing. -/
def Latest.empty : Latest F where
  serverReceivedAt := .absent
  sourceTimestamp := .absent
  linearX := .null
  linearY := .null
  planarSpeed := .null
  linear := .null
  angularZ := none
  angular := .null

/-! ## `stationary_observation` -/

/-- A stamp is at most `freshness_ms` old. A stamp that is absent, has no offset or cannot be read is
not. The code computes the age in floats; for the second that every operation allows this is exact. -/
def Stamp.within (stamp : Stamp) (now : Time) (freshnessMs : Int) : Bool :=
  match stamp with
  | .aware t => now - t ≤ freshnessMs * 1000
  | _ => false

/-- Both stamps of the document are fresh. -/
def Latest.fresh (latest : Latest F) (now : Time) (freshnessMs : Int) : Bool :=
  latest.serverReceivedAt.within now freshnessMs && latest.sourceTimestamp.within now freshnessMs

/-- The planar speed: the field of that name, else the length of the planar velocity, else `linear`. -/
def Latest.planar (latest : Latest F) : Except Raised (Value F) :=
  if !latest.planarSpeed.isNull then .ok latest.planarSpeed
  else if latest.linearX.isNull then .ok latest.linear
  else do
    let x ← toFloat latest.linearX
    let y ← toFloat latest.linearY.orZero
    return .float (PyFloat.hypot x y)

/-- The angular speed: `angular_z` where the document has it, else `angular`. -/
def Latest.turning (latest : Latest F) : Value F := latest.angularZ.getD latest.angular

/-- Both speeds are there and below their thresholds. -/
def below (planar turning : Value F) (linearThreshold angularThreshold : F) : Except Raised Bool :=
  if planar.isNull || turning.isNull then .ok false
  else do
    let speed ← toFloat planar
    if PyFloat.lt (PyFloat.abs speed) linearThreshold then
      let rate ← toFloat turning
      return PyFloat.lt (PyFloat.abs rate) angularThreshold
    else
      return false

/-- `stationary_observation`: whether the document is fresh, and whether it shows a vehicle that stands
still. The speeds of a document that is not fresh are not compared, but its planar speed is computed. -/
def stationaryObservation (latest : Latest F) (now : Time) (freshnessMs : Int)
    (linearThreshold angularThreshold : F) : Except Raised (Bool × Bool) := do
  let planar ← latest.planar
  if latest.fresh now freshnessMs then
    let stationary ← below planar latest.turning linearThreshold angularThreshold
    return (true, stationary)
  else
    return (false, false)

/-- The instant a stamp names; one without an offset is taken as UTC. The text of a value that is no
text may read as a date as well; such a stamp is not fresh, and the token of a document that is not fresh
is not looked at. -/
def Stamp.token : Stamp → Option Time
  | .aware t => some t
  | .naive t => some t
  | .absent | .other => none

/-- `observation_token`. -/
def observationToken (latest : Latest F) : Option Time :=
  latest.serverReceivedAt.token <|> latest.sourceTimestamp.token

/-- The token is later than the one counted last. -/
def isNew (token lastToken : Option Time) : Bool :=
  match token, lastToken with
  | none, _ => false
  | some _, none => true
  | some token, some last => last < token

/-- `advance_stationary_frames`. -/
def advanceStationaryFrames (fresh stationary : Bool) (token lastToken : Option Time)
    (currentFrames : Nat) : Nat × Option Time :=
  if !fresh then (0, lastToken)
  else if !isNew token lastToken then (currentFrames, lastToken)
  else (if stationary then currentFrames + 1 else 0, token)

/-! ## What the worker sees -/

/-- What one look at the document comes to. -/
structure Sight where
  fresh : Bool
  stationary : Bool
  token : Option Time
  deriving DecidableEq, Repr

/-- The document as the frame counter sees it. -/
def Latest.sight (latest : Latest F) (now : Time) (freshnessMs : Int)
    (linearThreshold angularThreshold : F) : Except Raised Sight := do
  let (fresh, stationary) ←
    stationaryObservation latest now freshnessMs linearThreshold angularThreshold
  return { fresh, stationary, token := observationToken latest }

/-- `float()` converts every speed that the observation asks it to. -/
def Latest.Readable (latest : Latest F) (now : Time) (freshnessMs : Int)
    (linearThreshold angularThreshold : F) : Prop :=
  ∃ planar, latest.planar = .ok planar ∧ (latest.fresh now freshnessMs = true →
    ∃ stationary, below planar latest.turning linearThreshold angularThreshold = .ok stationary)

/-- What is seen of a document is its observation with its token. -/
theorem Latest.sight_eq_ok {latest : Latest F} {now : Time} {freshnessMs : Int}
    {linearThreshold angularThreshold : F} {sight : Sight} :
    latest.sight now freshnessMs linearThreshold angularThreshold = .ok sight ↔
      stationaryObservation latest now freshnessMs linearThreshold angularThreshold =
        .ok (sight.fresh, sight.stationary) ∧ sight.token = observationToken latest := by
  unfold Latest.sight
  cases seen : stationaryObservation latest now freshnessMs linearThreshold angularThreshold with
  | error e => simp [bind, Except.bind]
  | ok observation =>
    obtain ⟨fresh, stationary⟩ := observation
    obtain ⟨fresh', stationary', token'⟩ := sight
    simp [bind, Except.bind, pure, Except.pure, eq_comm, and_assoc]

/-- The document can be seen exactly when its speeds are readable. -/
theorem Latest.sight_ok_iff {latest : Latest F} {now : Time} {freshnessMs : Int}
    {linearThreshold angularThreshold : F} :
    (∃ sight, latest.sight now freshnessMs linearThreshold angularThreshold = .ok sight) ↔
      latest.Readable now freshnessMs linearThreshold angularThreshold := by
  unfold Latest.sight stationaryObservation Latest.Readable
  cases speed : latest.planar with
  | error e => simp [bind, Except.bind]
  | ok planar =>
    cases fresh : latest.fresh now freshnessMs with
    | false => simp [bind, Except.bind, pure, Except.pure]
    | true =>
      cases still : below planar latest.turning linearThreshold angularThreshold <;>
        simp [bind, Except.bind, pure, Except.pure, still]

/-- What is seen of a document. -/
theorem Latest.of_sight {latest : Latest F} {now : Time} {freshnessMs : Int}
    {linearThreshold angularThreshold : F} {sight : Sight}
    (seen : latest.sight now freshnessMs linearThreshold angularThreshold = .ok sight) :
    sight.fresh = latest.fresh now freshnessMs ∧ sight.token = observationToken latest ∧
      (sight.fresh = true → ∃ planar, latest.planar = .ok planar ∧
        below planar latest.turning linearThreshold angularThreshold = .ok sight.stationary) := by
  unfold Latest.sight stationaryObservation at seen
  cases speed : latest.planar with
  | error e => simp [speed, bind, Except.bind] at seen
  | ok planar =>
    cases fresh : latest.fresh now freshnessMs with
    | false =>
      simp only [speed, fresh, bind, Except.bind, pure, Except.pure, Bool.false_eq_true, if_false,
        Except.ok.injEq] at seen
      subst seen
      exact ⟨rfl, rfl, nofun⟩
    | true =>
      cases still : below planar latest.turning linearThreshold angularThreshold with
      | error e => simp [speed, fresh, still, bind, Except.bind] at seen
      | ok stationary =>
        simp only [speed, fresh, still, bind, Except.bind, pure, Except.pure, if_true,
          Except.ok.injEq] at seen
        subst seen
        exact ⟨rfl, rfl, fun _ => ⟨planar, rfl, still⟩⟩

/-- The three things an observation does to the counter: a stale one clears it, a repeated one leaves
it, and a new one counts on or clears it. -/
inductive Advanced (sight : Sight) (last : Option Time) (frames : Nat) : Nat × Option Time → Prop
  | stale (stale : sight.fresh = false) : Advanced sight last frames (0, last)
  | repeated (fresh : sight.fresh = true) (old : isNew sight.token last = false) :
      Advanced sight last frames (frames, last)
  | moving (fresh : sight.fresh = true) (new : isNew sight.token last = true)
      (moves : sight.stationary = false) : Advanced sight last frames (0, sight.token)
  | counted (fresh : sight.fresh = true) (new : isNew sight.token last = true)
      (still : sight.stationary = true) : Advanced sight last frames (frames + 1, sight.token)

theorem advanced (sight : Sight) (last : Option Time) (frames : Nat) : Advanced sight last frames
    (advanceStationaryFrames sight.fresh sight.stationary sight.token last frames) := by
  unfold advanceStationaryFrames
  cases fresh : sight.fresh with
  | false => exact .stale fresh
  | true =>
    cases new : isNew sight.token last with
    | false => exact .repeated fresh new
    | true =>
      cases still : sight.stationary with
      | false => exact .moving fresh new still
      | true => exact .counted fresh new still

end Firebot.Worker
