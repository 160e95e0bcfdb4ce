import Mathlib.Logic.Function.Basic
import Firebot.Lib.Run
import Firebot.Lib.JsonTree
import Firebot.Data.Json

/-!
# The ROS child and its generations

`RosChildManager` of the vehicle Bridge runs ROS in a child process. The supervisor thread starts a child,
terminates one that is not ready in time or has lost its master, and starts the next; each child has a reader
thread, which handles its events as long as the child is the current one, and the child's exit at the end.
`stop()` terminates the child from the main thread.

Every thread is at a `Point` of its code, and a step takes one thread on. A thread that tests something and
acts on it does so in two steps, and so does one that clears `_proc` and then resets what the child has
established. The locks cover single steps only.

What was established is kept with the child whose event it came from; every handled event is taken down with
the child that was current then, and every reset by a child's end with the child it has taken something from.
**Where no child is taken away between a reader's test and its handling of an event, and none is published while
an earlier one is being cleared away, nothing of another child is mixed in** (`generations_isolated`). That an
event is then handled for the current child is due to the reader's test (`Placed`). Nothing is said of how long
a step takes, and the reaping of the process is one step.
-/

namespace Firebot.Bridge.RosChild

/-! ## Events and threads -/

/-- The values that ROS telemetry sets. -/
inductive Channel where
  | battery
  | smoke
  | mode
  | estopActive
  | activeTaskId
  | location
  deriving DecidableEq

/-- An event of a child, as `_handle_event` reads it. -/
inductive Payload where
  | ready (node commandPublisher feedback provider : Bool)
  | feedback (feedback : JsonTree)
  | telemetry (values : List (Channel × JsonTree))
  | other

/-- The parts of clearing a child away. -/
inductive Cleaning where
  | reaping
  | releasing
  | resetting
  | clearing
  deriving DecidableEq

/-- The child of a reader thread, and the generation it was started with. -/
structure Reader where
  child : Nat
  generation : Nat
  deriving DecidableEq

/-- Where a thread stands: the passes of the supervisor, `_spawn` line by line, the start of
`_terminate_child`, the loop of a reader, and the clearing away of a child. -/
inductive Point where
  | idle
  | waiting
  | deciding (now : Time) (reachable : Bool)
  | opening
  | publishing
  | stamping
  | readying
  | launching
  | taking
  | reading (reader : Reader)
  | testing (reader : Reader) (payload : Payload)
  | handling (reader : Reader) (payload : Payload)
  | ending (reader : Reader)
  | cleaning (child : Nat) (part : Cleaning)

/-- The threads: the supervisor, the one that calls `stop()`, and a reader for each child. -/
inductive Thread where
  | supervisor
  | stopper
  | reader (child : Nat)
  deriving DecidableEq

/-! ## The manager -/

/-- The readiness flags, with the child that has set them. -/
structure Readiness where
  node : Bool
  commandPublisher : Bool
  feedback : Bool
  provider : Bool
  source : Option Nat

/-- `_reset_ready`. -/
def Readiness.none : Readiness where
  node := false
  commandPublisher := false
  feedback := false
  provider := false
  source := .none

/-- `RosChildManager`. A child is known by its number, the generation that it is published with. `handled` has
the child of every event with the current one, `wiped` the child of every reset with the one whose state it
took. -/
structure Manager where
  proc : Option Nat
  generation : Nat
  stopSet : Bool
  spawnTime : Time
  nextSpawnAllowed : Time
  spawnBackoff : Time
  readiness : Readiness
  telemetry : Channel → Option (Nat × JsonTree)
  points : Thread → Point
  handled : List (Nat × Option Nat)
  wiped : List (Nat × Nat)

/-- What a step is given: the time, whether the master answers, whether `Popen` returns, the next line of the
child, if it has one, and whether handling the event raises. -/
structure Answer where
  now : Time
  reachable : Bool
  opens : Bool
  line : Option Payload
  raises : Bool

/-- What can happen: a thread goes on, or `stop()` is called. -/
inductive ManagerEvent where
  | go (thread : Thread) (answer : Answer)
  | stop

namespace Manager

variable (w : Manager)

/-- `RosChildManager()` once `start` was called. -/
def initial : Manager where
  proc := .none
  generation := 0
  stopSet := false
  spawnTime := 0
  nextSpawnAllowed := 0
  spawnBackoff := second
  readiness := .none
  telemetry := fun _ => .none
  points := Function.update (fun _ => .idle) .supervisor .waiting
  handled := []
  wiped := []

/-- A thread goes to a point. -/
def goTo (thread : Thread) (point : Point) : Manager :=
  { w with points := Function.update w.points thread point }

/-- `adapter_ready`. -/
def adapterReady : Bool := w.readiness.commandPublisher && w.readiness.feedback

/-- `_ready_timed_out`, with a child. -/
def readyTimedOut (now : Time) : Bool := !w.adapterReady && 8 * second < now - w.spawnTime

/-- `_is_current`. -/
def isCurrent (reader : Reader) : Bool := w.generation = reader.generation && w.proc = some reader.child

/-- `_bump_backoff`. -/
def bumpBackoff (now : Time) : Manager :=
  let backoff := min (w.spawnBackoff * 2) (30 * second)
  { w with spawnBackoff := backoff, nextSpawnAllowed := now + backoff }

/-- `_handle_event`. -/
def handleEvent (child : Nat) (payload : Payload) : Manager :=
  let w := { w with handled := w.handled ++ [(child, w.proc)] }
  match payload with
  | .ready node commandPublisher feedback provider =>
    let w := { w with readiness := { node, commandPublisher, feedback, provider, source := some child } }
    if w.adapterReady then { w with spawnBackoff := second } else w
  | .telemetry values =>
    { w with telemetry := values.foldl (fun telemetry value =>
        Function.update telemetry value.1 (some (child, value.2))) w.telemetry }
  | .feedback _ | .other => w

/-- `_reset_ready`, when a child is cleared away. -/
def resetReady (child : Nat) : Manager :=
  { w with readiness := .none
           wiped := w.wiped ++ w.readiness.source.toList.map fun other => (child, other) }

/-- `_clear_telemetry`. -/
def clearTelemetry (child : Nat) : Manager :=
  { w with telemetry := fun _ => .none
           wiped := w.wiped ++ ([.battery, .smoke, .mode, .estopActive, .activeTaskId, .location].filterMap
             fun channel => (w.telemetry channel).map fun value => (child, value.1)) }

/-- Where a thread is once a child is cleared away. -/
def rest : Thread → Point
  | .supervisor => .waiting
  | .stopper | .reader _ => .idle

/-- A part of clearing a child away; `_on_child_exit` releases the child itself, and ends with the backoff. -/
def clean (thread : Thread) (child : Nat) (now : Time) : Cleaning → Manager
  | .reaping =>
    match thread with
    | .reader _ => w.goTo thread (.cleaning child .releasing)
    | .supervisor | .stopper => w.goTo thread (.cleaning child .resetting)
  | .releasing =>
    ({ w with proc := if w.proc = some child then .none else w.proc }).goTo thread (.cleaning child .resetting)
  | .resetting => (w.resetReady child).goTo thread (.cleaning child .clearing)
  | .clearing =>
    match thread with
    | .reader _ => ((w.clearTelemetry child).bumpBackoff now).goTo thread (rest thread)
    | .supervisor | .stopper => (w.clearTelemetry child).goTo thread (rest thread)

/-- What the supervisor does once it has probed the master. -/
def decide (thread : Thread) (now : Time) (reachable : Bool) (later : Time) : Manager :=
  match w.proc with
  | .none =>
    if reachable && w.nextSpawnAllowed ≤ now then w.goTo thread .opening else w.goTo thread .waiting
  | some _ =>
    if !reachable then w.goTo thread .taking
    else if w.readyTimedOut now then (w.bumpBackoff later).goTo thread .taking
    else w.goTo thread .waiting

/-- A step of a thread. -/
def go (thread : Thread) (answer : Answer) : Manager :=
  match w.points thread with
  | .idle => w
  | .waiting => if w.stopSet then w else w.goTo thread (.deciding answer.now answer.reachable)
  | .deciding now reachable => w.decide thread now reachable answer.now
  | .opening =>
    if answer.opens then w.goTo thread .publishing else (w.bumpBackoff answer.now).goTo thread .waiting
  | .publishing =>
    ({ w with generation := w.generation + 1, proc := some (w.generation + 1) }).goTo thread .stamping
  | .stamping =>
    ({ w with spawnTime := answer.now, nextSpawnAllowed := answer.now }).goTo thread .readying
  | .readying => ({ w with readiness := .none }).goTo thread .launching
  | .launching =>
    (w.goTo thread .waiting).goTo (.reader w.generation)
      (.reading { child := w.generation, generation := w.generation })
  | .taking =>
    match w.proc with
    | .none => w.goTo thread (rest thread)
    | some child => ({ w with proc := .none }).goTo thread (.cleaning child .reaping)
  | .reading reader =>
    match answer.line with
    | .none => w.goTo thread (.ending reader)
    | some payload =>
      if w.stopSet then w.goTo thread (.ending reader) else w.goTo thread (.testing reader payload)
  | .testing reader payload =>
    if w.isCurrent reader then w.goTo thread (.handling reader payload) else w.goTo thread (.reading reader)
  | .handling reader payload =>
    let w := w.handleEvent reader.child payload
    if answer.raises then w.goTo thread (.ending reader) else w.goTo thread (.reading reader)
  | .ending reader =>
    if w.isCurrent reader then w.goTo thread (.cleaning reader.child .reaping) else w.goTo thread .idle
  | .cleaning child part => w.clean thread child answer.now part

/-- What happens. -/
def step : ManagerEvent → Manager
  | .go thread answer => w.go thread answer
  | .stop =>
    match w.points .stopper with
    | .idle => ({ w with stopSet := true }).goTo .stopper .taking
    | _ => w

/-- The manager after a run. -/
abbrev run (events : List ManagerEvent) : Manager := Runs.run step w events

end Manager

/-! ## What is to hold -/

/-- The readiness flags are yet to be reset. -/
def Cleaning.resets : Cleaning → Bool
  | .reaping | .releasing | .resetting => true
  | .clearing => false

/-- Some thread is about to reset the readiness flags. -/
def Resets (points : Thread → Point) : Prop :=
  ∃ t child part, points t = .cleaning child part ∧ part.resets = true

/-- Some thread is about to clear the telemetry. -/
def Clears (points : Thread → Point) : Prop := ∃ t child part, points t = .cleaning child part

/-- Every event was handled while its child was the current one; readiness and telemetry are those of the
current child, or without one about to be cleared away; and no child's end has reset what a newer one had
established. -/
structure Isolated (w : Manager) : Prop where
  handled : ∀ h ∈ w.handled, h.2 = some h.1
  readiness : ∀ child ∈ w.readiness.source, (∀ current ∈ w.proc, child = current) ∧
    (w.proc = none → Resets w.points)
  telemetry : ∀ channel value, w.telemetry channel = some value →
    (∀ current ∈ w.proc, value.1 = current) ∧ (w.proc = none → Clears w.points)
  kept : ∀ x ∈ w.wiped, x.2 ≤ x.1

/-- No child is taken away while a reader is between its test and its handling of an event, and a child is
published while none is being cleared away. -/
def Orderly (w : Manager) : ManagerEvent → Prop
  | .stop => True
  | .go thread _ =>
    match w.points thread with
    | .taking => ∀ t reader payload, w.points t ≠ .handling reader payload
    | .publishing => ∀ t child part, w.points t ≠ .cleaning child part
    | _ => True

/-! ## The threads -/

/-- A point of the supervisor's own code. -/
def Point.supervises : Point → Bool
  | .waiting | .deciding _ _ | .opening | .publishing | .stamping | .readying | .launching => true
  | _ => false

/-- A child is to be published. -/
def Point.spawns : Point → Bool
  | .opening | .publishing => true
  | _ => false

/-- A child is published, and its reader is to be started. -/
def Point.launches : Point → Bool
  | .stamping | .readying | .launching => true
  | _ => false

/-- A thread is under way, and clears no child away. -/
def Point.goes : Point → Bool
  | .idle | .cleaning _ _ => false
  | _ => true

/-- A point at which no child is started or cleared away. -/
def Point.ordinary (point : Point) : Bool :=
  match point with
  | .cleaning _ _ => false
  | _ => !point.spawns && !point.launches

/-- Only the supervisor starts children, with none there; no child has a reader before it is published, and
the newest has none until the supervisor starts it. -/
structure Scheduled (points : Thread → Point) (generation : Nat) (proc : Option Nat) : Prop where
  supervises : ∀ t, (points t).supervises = true → t = .supervisor
  free : (points .supervisor).spawns = true → proc = none
  started : ∀ child, points (.reader child) ≠ .idle → child ≤ generation
  unlaunched : (points .supervisor).launches = true → points (.reader generation) = .idle

section

variable {points : Thread → Point} {generation : Nat} {proc : Option Nat} {thread : Thread} {point : Point}

/-- A thread goes on; no reader is started. -/
theorem Scheduled.goTo (h : Scheduled points generation proc)
    (busy : ∀ child, thread = .reader child → points thread ≠ .idle)
    (supervises : point.supervises = true → thread = .supervisor) (free : point.spawns = true → proc = none)
    (launches : point.launches = true → points (.reader generation) = .idle) :
    Scheduled (Function.update points thread point) generation proc where
  supervises := by
    intro t supervised
    by_cases same : t = thread
    · cases same
      rw [Function.update_self] at supervised
      exact supervises supervised
    · rw [Function.update_of_ne same] at supervised
      exact h.supervises t supervised
  free := by
    intro spawns
    by_cases same : Thread.supervisor = thread
    · cases same
      rw [Function.update_self] at spawns
      exact free spawns
    · rw [Function.update_of_ne same] at spawns
      exact h.free spawns
  started := by
    intro child under_way
    by_cases same : Thread.reader child = thread
    · cases same
      exact h.started child (busy child rfl)
    · rw [Function.update_of_ne same] at under_way
      exact h.started child under_way
  unlaunched := by
    intro launching
    have idle : points (.reader generation) = .idle := by
      by_cases same : Thread.supervisor = thread
      · cases same
        rw [Function.update_self] at launching
        exact launches launching
      · rw [Function.update_of_ne same] at launching
        exact h.unlaunched launching
    have other : Thread.reader generation ≠ thread := by
      intro same
      cases same
      exact busy _ rfl idle
    rw [Function.update_of_ne other]
    exact idle

/-- A child that is gone leaves the threads as they are. -/
theorem Scheduled.release (h : Scheduled points generation proc) {proc' : Option Nat}
    (released : proc = none → proc' = none) : Scheduled points generation proc' where
  supervises := h.supervises
  free spawns := released (h.free spawns)
  started := h.started
  unlaunched := h.unlaunched

/-! ## Clearing away -/

/-- A thread that goes on keeps what the exit handling has still to reset. -/
theorem Resets.update (h : Resets points)
    (keeps : ∀ child part, points thread = .cleaning child part → part.resets = true →
      ∃ child' part', point = .cleaning child' part' ∧ part'.resets = true) :
    Resets (Function.update points thread point) := by
  obtain ⟨t, child, part, cleaning, resets⟩ := h
  by_cases same : t = thread
  · cases same
    obtain ⟨child', part', still, resets'⟩ := keeps child part cleaning resets
    exact ⟨_, child', part', by rw [Function.update_self]; exact still, resets'⟩
  · exact ⟨t, child, part, by rw [Function.update_of_ne same]; exact cleaning, resets⟩

/-- And who has still to clear. -/
theorem Clears.update (h : Clears points)
    (keeps : ∀ child part, points thread = .cleaning child part →
      ∃ child' part', point = .cleaning child' part') : Clears (Function.update points thread point) := by
  obtain ⟨t, child, part, cleaning⟩ := h
  by_cases same : t = thread
  · cases same
    obtain ⟨child', part', still⟩ := keeps child part cleaning
    exact ⟨_, child', part', by rw [Function.update_self]; exact still⟩
  · exact ⟨t, child, part, by rw [Function.update_of_ne same]; exact cleaning⟩

end

/-- After a step of a thread, the children being cleared away are those of the other threads, and its own. -/
theorem of_cleaning_update {points : Thread → Point} {thread : Thread} {point : Point} {P : Nat → Prop}
    (before : ∀ t child part, points t = .cleaning child part → P child)
    (after : ∀ child part, point = .cleaning child part → P child) (t : Thread) (child : Nat) (part : Cleaning)
    (cleaning : Function.update points thread point t = .cleaning child part) : P child := by
  by_cases same : t = thread
  · rw [same, Function.update_self] at cleaning
    exact after child part cleaning
  · rw [Function.update_of_ne same] at cleaning
    exact before t child part cleaning

/-- A reader's points are about its own child, only a reader releases its child, and no reader takes one. -/
def Point.Fits (thread : Thread) : Point → Prop
  | .reading reader | .testing reader _ | .handling reader _ | .ending reader => thread = .reader reader.child
  | .taking => ∀ n, thread ≠ .reader n
  | .cleaning child part => thread = .reader child ∨ (∀ n, thread ≠ .reader n) ∧ part ≠ .releasing
  | _ => True

/-- An event is about to be handled. -/
def Point.handles : Point → Bool
  | .handling _ _ => true
  | _ => false

/-- The threads are at points of their own, and an event that is about to be handled is one of the current
child. -/
structure Placed (w : Manager) : Prop where
  fits : ∀ t, (w.points t).Fits t
  handling : ∀ t reader payload, w.points t = .handling reader payload → w.proc = some reader.child

@[simp] theorem Manager.handleEvent_points (w : Manager) (child : Nat) (payload : Payload) :
    (w.handleEvent child payload).points = w.points := by
  unfold Manager.handleEvent
  cases payload with
  | ready =>
    dsimp only
    split <;> rfl
  | _ => rfl

@[simp] theorem Manager.handleEvent_proc (w : Manager) (child : Nat) (payload : Payload) :
    (w.handleEvent child payload).proc = w.proc := by
  unfold Manager.handleEvent
  cases payload with
  | ready =>
    dsimp only
    split <;> rfl
  | _ => rfl

/-- The current child, every child that is being cleared away, and the child of whatever is established are
the newest one; what is established when there is no child is about to be cleared away. -/
structure Attributed (w : Manager) : Prop where
  current : ∀ child ∈ w.proc, child = w.generation
  cleaning : ∀ t child part, w.points t = .cleaning child part → child = w.generation
  readiness : ∀ child ∈ w.readiness.source, child = w.generation ∧ (w.proc = none → Resets w.points)
  telemetry : ∀ channel value, w.telemetry channel = some value →
    value.1 = w.generation ∧ (w.proc = none → Clears w.points)
  handled : ∀ h ∈ w.handled, h.2 = some h.1
  kept : ∀ x ∈ w.wiped, x.2 ≤ x.1

/-- What holds between the steps. -/
structure Sound (w : Manager) : Prop where
  scheduled : Scheduled w.points w.generation w.proc
  attributed : Attributed w

namespace Sound

variable {w : Manager}

/-- A sound manager is isolated. -/
theorem isolated (h : Sound w) : Isolated w where
  handled := h.attributed.handled
  readiness := by
    intro child source
    obtain ⟨newest, cleared⟩ := h.attributed.readiness child source
    exact ⟨fun current there => newest.trans (h.attributed.current current there).symm, cleared⟩
  telemetry := by
    intro channel value there
    obtain ⟨newest, cleared⟩ := h.attributed.telemetry channel value there
    exact ⟨fun current running => newest.trans (h.attributed.current current running).symm, cleared⟩
  kept := h.attributed.kept

/-- The manager is sound at the start. -/
theorem initial : Sound .initial where
  scheduled := by
    refine ⟨?_, ?_, ?_, ?_⟩
    · intro t supervises
      by_cases same : t = .supervisor
      · exact same
      · unfold Manager.initial at supervises
        dsimp only at supervises
        rw [Function.update_of_ne same] at supervises
        cases supervises
    · intro spawns
      rfl
    · intro child under_way
      exact absurd rfl under_way
    · intro launches
      rfl
  attributed := by
    refine ⟨?_, ?_, ?_, ?_, ?_, ?_⟩
    · intro child there
      cases there
    · intro t child part cleaning
      cases t <;> cases cleaning
    · intro child source
      cases source
    · intro channel value there
      cases there
    · intro h mem
      cases mem
    · intro x mem
      cases mem

/-! ## Steps that establish and clear nothing -/

/-- The backoff, the times and the stop do not matter. -/
theorem of_same {w' : Manager} (h : Sound w) (points : w'.points = w.points) (generation : w'.generation = w.generation)
    (proc : w'.proc = w.proc) (readiness : w'.readiness = w.readiness) (telemetry : w'.telemetry = w.telemetry)
    (handled : w'.handled = w.handled) (wiped : w'.wiped = w.wiped) : Sound w' where
  scheduled := by
    rw [points, generation, proc]
    exact h.scheduled
  attributed := by
    refine ⟨?_, ?_, ?_, ?_, ?_, ?_⟩
    · rw [proc, generation]
      exact h.attributed.current
    · rw [points, generation]
      exact h.attributed.cleaning
    · rw [readiness, generation, proc, points]
      exact h.attributed.readiness
    · rw [telemetry, generation, proc, points]
      exact h.attributed.telemetry
    · rw [handled]
      exact h.attributed.handled
    · rw [wiped]
      exact h.attributed.kept

/-- A longer backoff keeps it sound. -/
theorem bumpBackoff (h : Sound w) (now : Time) : Sound (w.bumpBackoff now) := h.of_same rfl rfl rfl rfl rfl rfl rfl

variable {thread : Thread} {point : Point}

/-- The thread clears nothing away, and is no reader that is yet to be started. -/
structure Goes (w : Manager) (thread : Thread) : Prop where
  busy : ∀ child, thread = .reader child → w.points thread ≠ .idle
  clears_nothing : ∀ child part, w.points thread ≠ .cleaning child part

/-- A thread that is on its way goes. -/
theorem goes_of_here (goes : (w.points thread).goes = true) : Goes w thread where
  busy := by
    intro child reader idle
    rw [idle] at goes
    cases goes
  clears_nothing := by
    intro child part cleaning
    rw [cleaning] at goes
    cases goes

/-- `stop` goes before it has begun. -/
theorem goes_stopper (idle : w.points .stopper = .idle) : Goes w .stopper where
  busy := by
    intro child reader
    cases reader
  clears_nothing := by
    intro child part cleaning
    cases idle.symm.trans cleaning

/-- A thread that clears nothing away goes on. -/
theorem move (h : Sound w) (goes : Goes w thread)
    (after : ∀ child part, point = .cleaning child part → child = w.generation)
    (supervises : point.supervises = true → thread = .supervisor) (free : point.spawns = true → w.proc = none)
    (launches : point.launches = true → w.points (.reader w.generation) = .idle) : Sound (w.goTo thread point) where
  scheduled := h.scheduled.goTo goes.busy supervises free launches
  attributed := by
    refine ⟨h.attributed.current, of_cleaning_update h.attributed.cleaning after, ?_, ?_, h.attributed.handled,
      h.attributed.kept⟩
    · intro child source
      refine ⟨(h.attributed.readiness child source).1, fun gone => ?_⟩
      exact ((h.attributed.readiness child source).2 gone).update fun c part cleaning =>
        absurd cleaning (goes.clears_nothing c part)
    · intro channel value there
      refine ⟨(h.attributed.telemetry channel value there).1, fun gone => ?_⟩
      exact ((h.attributed.telemetry channel value there).2 gone).update fun c part cleaning =>
        absurd cleaning (goes.clears_nothing c part)

/-- A thread goes to a point at which no child is started or cleared away. -/
theorem plain (h : Sound w) (goes : Goes w thread) (ordinary : point.ordinary = true)
    (supervises : point.supervises = true → thread = .supervisor) : Sound (w.goTo thread point) := by
  refine h.move goes ?_ supervises ?_ ?_
  · intro child part same
    rw [same] at ordinary
    cases ordinary
  · intro spawns
    cases point with
    | opening | publishing => cases ordinary
    | _ => cases spawns
  · intro launches
    cases point with
    | stamping | readying | launching => cases ordinary
    | _ => cases launches

/-- What the supervisor decides. -/
theorem decide (h : Sound w) {now : Time} {reachable : Bool} (here : w.points thread = .deciding now reachable)
    (later : Time) : Sound (w.decide thread now reachable later) := by
  have supervisor : thread = .supervisor := h.scheduled.supervises thread (by rw [here]; rfl)
  have goes : Goes w thread := goes_of_here (by rw [here]; rfl)
  unfold Manager.decide
  split
  next none_there =>
    split
    · refine h.move goes ?_ (fun _ => supervisor) (fun _ => none_there) ?_
      · intro child part same
        cases same
      · intro launching
        cases launching
    · exact h.plain goes rfl fun _ => supervisor
  · split
    · exact h.plain goes rfl Bool.noConfusion
    · split
      · exact (h.bumpBackoff later).plain ⟨goes.busy, goes.clears_nothing⟩ rfl Bool.noConfusion
      · exact h.plain goes rfl fun _ => supervisor

/-- The newest child's reader is started. -/
theorem start (h : Sound w) (idle : w.points (.reader w.generation) = .idle)
    (launched : (w.points .supervisor).launches = false) :
    Sound (w.goTo (.reader w.generation) (.reading { child := w.generation, generation := w.generation })) where
  scheduled := by
    refine ⟨?_, h.scheduled.free, ?_, ?_⟩
    · intro t supervises
      have supervises : (Function.update w.points (.reader w.generation)
        (.reading { child := w.generation, generation := w.generation }) t).supervises = true := supervises
      by_cases same : t = .reader w.generation
      · cases same
        rw [Function.update_self] at supervises
        cases supervises
      · rw [Function.update_of_ne same] at supervises
        exact h.scheduled.supervises t supervises
    · intro child under_way
      have under_way : Function.update w.points (.reader w.generation)
        (.reading { child := w.generation, generation := w.generation }) (.reader child) ≠ .idle := under_way
      by_cases same : Thread.reader child = .reader w.generation
      · cases same
        exact Nat.le_refl _
      · rw [Function.update_of_ne same] at under_way
        exact h.scheduled.started child under_way
    · intro launches
      cases launched.symm.trans launches
  attributed := by
    refine ⟨h.attributed.current, of_cleaning_update h.attributed.cleaning ?_, ?_, ?_, h.attributed.handled,
      h.attributed.kept⟩
    · intro child part same
      cases same
    · intro child source
      refine ⟨(h.attributed.readiness child source).1, fun gone => ?_⟩
      exact ((h.attributed.readiness child source).2 gone).update fun c part cleaning => by
        cases idle.symm.trans cleaning
    · intro channel value there
      refine ⟨(h.attributed.telemetry channel value there).1, fun gone => ?_⟩
      exact ((h.attributed.telemetry channel value there).2 gone).update fun c part cleaning => by
        cases idle.symm.trans cleaning

/-- The supervisor starts the reader and waits. -/
theorem launch (h : Sound w) (here : w.points thread = .launching) :
    Sound ((w.goTo thread .waiting).goTo (.reader w.generation)
      (.reading { child := w.generation, generation := w.generation })) := by
  have supervisor : thread = .supervisor := h.scheduled.supervises thread (by rw [here]; rfl)
  cases supervisor
  have idle := h.scheduled.unlaunched (by rw [here]; rfl)
  exact (h.plain (goes_of_here (by rw [here]; rfl)) rfl fun _ => rfl).start idle rfl

/-! ## Publishing a child -/

/-- With no child there and none being cleared away, nothing is established. -/
theorem nothing_established (h : Sound w) (gone : w.proc = none)
    (clean : ∀ t child part, w.points t ≠ .cleaning child part) :
    w.readiness.source = none ∧ ∀ channel, w.telemetry channel = none := by
  constructor
  · apply Option.eq_none_iff_forall_ne_some.mpr
    intro child source
    obtain ⟨t, c, part, cleaning, _⟩ := (h.attributed.readiness child source).2 gone
    exact clean t c part cleaning
  · intro channel
    apply Option.eq_none_iff_forall_ne_some.mpr
    intro value there
    obtain ⟨t, c, part, cleaning⟩ := (h.attributed.telemetry channel value there).2 gone
    exact clean t c part cleaning

/-- Publishing a new child keeps it sound. -/
theorem publish (h : Sound w) (here : w.points thread = .publishing)
    (clean : ∀ t child part, w.points t ≠ .cleaning child part) :
    Sound (({ w with generation := w.generation + 1, proc := some (w.generation + 1) }).goTo thread .stamping) := by
  have supervisor : thread = .supervisor := h.scheduled.supervises thread (by rw [here]; rfl)
  cases supervisor
  have gone : w.proc = none := h.scheduled.free (by rw [here]; rfl)
  obtain ⟨unready, silent⟩ := h.nothing_established gone clean
  refine ⟨⟨?_, ?_, ?_, ?_⟩, ⟨?_, of_cleaning_update (fun t c part cleaning => absurd cleaning (clean t c part)) ?_,
    ?_, ?_, h.attributed.handled, h.attributed.kept⟩⟩
  · intro t supervises
    by_cases same : t = .supervisor
    · exact same
    · have supervises : (Function.update w.points .supervisor .stamping t).supervises = true := supervises
      rw [Function.update_of_ne same] at supervises
      exact h.scheduled.supervises t supervises
  · intro spawns
    cases spawns
  · intro child under_way
    exact Nat.le_succ_of_le (h.scheduled.started child under_way)
  · intro launches
    -- the readers that are under way belong to earlier children
    apply of_not_not
    intro under_way
    exact absurd (h.scheduled.started (w.generation + 1) under_way) (Nat.not_succ_le_self _)
  · intro child there
    cases there
    rfl
  · intro child part same
    cases same
  · intro child source
    cases unready.symm.trans source
  · intro channel value there
    cases (silent channel).symm.trans there

/-- The flags are reset before the reader is started. -/
theorem ready (h : Sound w) (here : w.points thread = .readying) :
    Sound (({ w with readiness := .none }).goTo thread .launching) := by
  have supervisor : thread = .supervisor := h.scheduled.supervises thread (by rw [here]; rfl)
  cases supervisor
  have unready : Sound { w with readiness := .none } := by
    refine ⟨h.scheduled, ⟨h.attributed.current, h.attributed.cleaning, ?_, h.attributed.telemetry,
      h.attributed.handled, h.attributed.kept⟩⟩
    intro child source
    cases source
  refine unready.move (goes_of_here (by show (w.points .supervisor).goes = true; rw [here]; rfl)) ?_
    (fun _ => rfl) ?_ ?_
  · intro child part same
    cases same
  · intro spawns
    cases spawns
  · intro _
    exact h.scheduled.unlaunched (by rw [here]; rfl)

/-! ## Events -/

/-- What the telemetry holds after an event was there before or is the event's. -/
theorem of_foldl (child : Nat) (values : List (Channel × JsonTree))
    {telemetry : Channel → Option (Nat × JsonTree)} {channel : Channel} {value : Nat × JsonTree}
    (there : values.foldl (fun (before : Channel → Option (Nat × JsonTree)) entry =>
      Function.update before entry.1 (some (child, entry.2))) telemetry channel = some value) :
    value.1 = child ∨ telemetry channel = some value := by
  induction values generalizing telemetry with
  | nil => exact .inr there
  | cons first values ih =>
    rcases ih there with own | before
    · exact .inl own
    · dsimp only at before
      by_cases same : channel = first.1
      · cases same
        rw [Function.update_self] at before
        cases before
        exact .inl rfl
      · rw [Function.update_of_ne same] at before
        exact .inr before

/-- An event of the current child. -/
theorem handleEvent (h : Sound w) {child : Nat} (current : w.proc = some child) (payload : Payload) :
    Sound (w.handleEvent child payload) := by
  have newest : child = w.generation := h.attributed.current child current
  have handled : ∀ e ∈ w.handled ++ [(child, w.proc)], e.2 = some e.1 := by
    intro e mem
    rcases List.mem_append.mp mem with before | now
    · exact h.attributed.handled e before
    · cases List.mem_singleton.mp now
      exact current
  have running : w.proc = none → ∀ P : Prop, P := by
    intro gone
    cases current.symm.trans gone
  have taken : Sound { w with handled := w.handled ++ [(child, w.proc)] } :=
    have a := h.attributed
    ⟨h.scheduled, ⟨a.current, a.cleaning, a.readiness, a.telemetry, handled, a.kept⟩⟩
  unfold Manager.handleEvent
  cases payload with
  | ready node commandPublisher feedback provider =>
    have set : Sound { w with handled := w.handled ++ [(child, w.proc)]
                              readiness := { node, commandPublisher, feedback, provider, source := some child } } := by
      refine ⟨h.scheduled, ⟨h.attributed.current, h.attributed.cleaning, ?_, h.attributed.telemetry, handled,
        h.attributed.kept⟩⟩
      intro other source
      cases source
      exact ⟨newest, fun gone => running gone _⟩
    dsimp only
    split
    · exact set.of_same rfl rfl rfl rfl rfl rfl rfl
    · exact set
  | telemetry values =>
    refine ⟨h.scheduled, ⟨h.attributed.current, h.attributed.cleaning, h.attributed.readiness, ?_, handled,
      h.attributed.kept⟩⟩
    intro channel value there
    rcases of_foldl child values there with own | before
    · exact ⟨own.trans newest, fun gone => running gone _⟩
    · exact h.attributed.telemetry channel value before
  | feedback fb => exact taken
  | other => exact taken

/-! ## Clearing a child away -/

/-- A thread takes the child to clear it away. -/
theorem take (h : Sound w) (goes : Goes w thread) {child : Nat} (there : w.proc = some child) :
    Sound (({ w with proc := none }).goTo thread (.cleaning child .reaping)) := by
  have newest : child = w.generation := h.attributed.current child there
  have clearing : Function.update w.points thread (.cleaning child .reaping) thread = .cleaning child .reaping :=
    Function.update_self ..
  refine ⟨?_, ⟨?_, of_cleaning_update h.attributed.cleaning ?_, ?_, ?_, h.attributed.handled, h.attributed.kept⟩⟩
  · refine (h.scheduled.release fun _ => rfl).goTo goes.busy Bool.noConfusion ?_ Bool.noConfusion
    intro spawns
    rfl
  · intro other gone
    cases gone
  · intro other part same
    cases same
    exact newest
  · intro other source
    exact ⟨(h.attributed.readiness other source).1, fun _ => ⟨thread, child, .reaping, clearing, rfl⟩⟩
  · intro channel value established
    exact ⟨(h.attributed.telemetry channel value established).1, fun _ => ⟨thread, child, .reaping, clearing⟩⟩

/-- A thread goes on clearing a child away, and may release it. -/
theorem advance (h : Sound w) {child : Nat} {part part' : Cleaning}
    (here : w.points thread = .cleaning child part) (resets : part'.resets = true) {proc : Option Nat}
    (released : ∀ c ∈ proc, c ∈ w.proc) :
    Sound (({ w with proc }).goTo thread (.cleaning child part')) := by
  have clearing : Function.update w.points thread (.cleaning child part') thread = .cleaning child part' :=
    Function.update_self ..
  have none_left : w.proc = none → proc = none := by
    intro gone
    apply Option.eq_none_iff_forall_ne_some.mpr
    intro c there
    cases gone.symm.trans (released c there)
  refine ⟨?_, ⟨?_, of_cleaning_update h.attributed.cleaning ?_, ?_, ?_, h.attributed.handled, h.attributed.kept⟩⟩
  · refine (h.scheduled.release none_left).goTo ?_ Bool.noConfusion Bool.noConfusion Bool.noConfusion
    intro c reader idle
    cases here.symm.trans idle
  · intro c there
    exact h.attributed.current c (released c there)
  · intro other part'' same
    cases same
    exact h.attributed.cleaning _ _ _ here
  · intro other source
    exact ⟨(h.attributed.readiness other source).1, fun _ => ⟨thread, child, part', clearing, resets⟩⟩
  · intro channel value established
    exact ⟨(h.attributed.telemetry channel value established).1, fun _ => ⟨thread, child, part', clearing⟩⟩

/-- The flags that a child's end resets are its own. -/
theorem reset (h : Sound w) {child : Nat} (here : w.points thread = .cleaning child .resetting) :
    Sound ((w.resetReady child).goTo thread (.cleaning child .clearing)) := by
  have newest : child = w.generation := h.attributed.cleaning thread child _ here
  have clearing : Function.update w.points thread (.cleaning child .clearing) thread = .cleaning child .clearing :=
    Function.update_self ..
  refine ⟨?_, ⟨h.attributed.current, of_cleaning_update h.attributed.cleaning ?_, ?_, ?_, h.attributed.handled, ?_⟩⟩
  · refine h.scheduled.goTo ?_ Bool.noConfusion Bool.noConfusion Bool.noConfusion
    intro c reader idle
    cases here.symm.trans idle
  · intro other part same
    cases same
    exact newest
  · intro other source
    cases source
  · intro channel value established
    exact ⟨(h.attributed.telemetry channel value established).1, fun _ => ⟨thread, child, .clearing, clearing⟩⟩
  · intro x mem
    rcases List.mem_append.mp mem with before | now
    · exact h.attributed.kept x before
    · obtain ⟨other, source, same⟩ := List.mem_map.mp now
      cases same
      rw [newest]
      exact Nat.le_of_eq (h.attributed.readiness other (Option.mem_toList.mp source)).1

/-- The telemetry that a child's end clears is its own. -/
theorem clear (h : Sound w) {child : Nat} (here : w.points thread = .cleaning child .clearing) :
    Sound ((w.clearTelemetry child).goTo thread (Manager.rest thread)) := by
  have newest : child = w.generation := h.attributed.cleaning thread child _ here
  refine ⟨?_, ⟨h.attributed.current, of_cleaning_update h.attributed.cleaning ?_, ?_, ?_, h.attributed.handled, ?_⟩⟩
  · refine h.scheduled.goTo ?_ ?_ ?_ ?_
    · intro c reader idle
      cases here.symm.trans idle
    · intro supervises
      cases thread with
      | supervisor => rfl
      | stopper | reader => cases supervises
    · intro spawns
      cases thread <;> cases spawns
    · intro launches
      cases thread <;> cases launches
  · intro other part same
    cases thread <;> cases same
  · intro other source
    refine ⟨(h.attributed.readiness other source).1, fun gone => ?_⟩
    refine ((h.attributed.readiness other source).2 gone).update ?_
    intro c part cleaning resets
    cases here.symm.trans cleaning
    cases resets
  · intro channel value established
    cases established
  · intro x mem
    rcases List.mem_append.mp mem with before | now
    · exact h.attributed.kept x before
    · obtain ⟨channel, _, found⟩ := List.mem_filterMap.mp now
      obtain ⟨value, established, same⟩ := Option.map_eq_some_iff.mp found
      cases same
      rw [newest]
      exact Nat.le_of_eq (h.attributed.telemetry channel value established).1

/-- A step of the exit handling keeps it sound. -/
theorem clean (h : Sound w) {child : Nat} {part : Cleaning} (here : w.points thread = .cleaning child part)
    (now : Time) : Sound (w.clean thread child now part) := by
  cases part with
  | reaping =>
    unfold Manager.clean
    cases thread with
    | reader => exact h.advance here rfl fun _ there => there
    | supervisor | stopper => exact h.advance here rfl fun _ there => there
  | releasing =>
    refine h.advance here rfl ?_
    intro c there
    split at there
    · cases there
    · exact there
  | resetting => exact h.reset here
  | clearing =>
    unfold Manager.clean
    cases thread with
    | reader => exact (h.clear here).of_same rfl rfl rfl rfl rfl rfl rfl
    | supervisor | stopper => exact h.clear here

/-! ## Every step -/

/-- Every orderly step of a thread keeps it sound. -/
theorem go (h : Sound w) (placed : Placed w) {answer : Answer} (orderly : Orderly w (.go thread answer)) :
    Sound (w.go thread answer) := by
  have orderly : match w.points thread with
    | .taking => ∀ t reader payload, w.points t ≠ .handling reader payload
    | .publishing => ∀ t child part, w.points t ≠ .cleaning child part
    | _ => True := orderly
  have supervisor : (w.points thread).supervises = true → thread = .supervisor := h.scheduled.supervises thread
  have going : (w.points thread).goes = true → Goes w thread := goes_of_here
  unfold Manager.go
  cases here : w.points thread with
  | idle => exact h
  | waiting =>
    rw [here] at supervisor going
    dsimp only
    split
    · exact h
    · exact h.plain (going rfl) rfl fun _ => supervisor rfl
  | deciding now reachable => exact h.decide here answer.now
  | opening =>
    rw [here] at supervisor going
    cases supervisor rfl
    have gone := h.scheduled.free (by rw [here]; rfl)
    dsimp only
    split
    · refine h.move (going rfl) ?_ (fun _ => rfl) (fun _ => gone) Bool.noConfusion
      intro child part same
      cases same
    · exact (h.bumpBackoff answer.now).plain ⟨(going rfl).busy, (going rfl).clears_nothing⟩ rfl fun _ => rfl
  | publishing =>
    rw [here] at orderly
    exact h.publish here orderly
  | stamping =>
    rw [here] at supervisor going
    cases supervisor rfl
    have stamped : Sound { w with spawnTime := answer.now, nextSpawnAllowed := answer.now } :=
      h.of_same rfl rfl rfl rfl rfl rfl rfl
    refine stamped.move ⟨(going rfl).busy, (going rfl).clears_nothing⟩ ?_ (fun _ => rfl) Bool.noConfusion ?_
    · intro child part same
      cases same
    · intro _
      exact h.scheduled.unlaunched (by rw [here]; rfl)
  | readying => exact h.ready here
  | launching => exact h.launch here
  | taking =>
    rw [here] at going
    dsimp only
    split
    · cases thread with
      | supervisor => exact h.plain (going rfl) rfl fun _ => rfl
      | stopper | reader => exact h.plain (going rfl) rfl Bool.noConfusion
    next child there => exact h.take (going rfl) there
  | reading reader =>
    rw [here] at going
    dsimp only
    split
    · exact h.plain (going rfl) rfl Bool.noConfusion
    · split
      · exact h.plain (going rfl) rfl Bool.noConfusion
      · exact h.plain (going rfl) rfl Bool.noConfusion
  | testing reader payload =>
    rw [here] at going
    dsimp only
    split
    · exact h.plain (going rfl) rfl Bool.noConfusion
    · exact h.plain (going rfl) rfl Bool.noConfusion
  | handling reader payload =>
    have handled := h.handleEvent (placed.handling thread reader payload here) payload
    have going : Goes (w.handleEvent reader.child payload) thread :=
      goes_of_here (by rw [Manager.handleEvent_points, here]; rfl)
    dsimp only
    split
    · exact handled.plain going rfl Bool.noConfusion
    · exact handled.plain going rfl Bool.noConfusion
  | ending reader =>
    rw [here] at going
    dsimp only
    split
    next current =>
      refine h.move (going rfl) ?_ Bool.noConfusion Bool.noConfusion Bool.noConfusion
      intro child part same
      cases same
      unfold Manager.isCurrent at current
      exact h.attributed.current _ (of_decide_eq_true (Bool.and_eq_true_iff.mp current).2)
    · exact h.plain (going rfl) rfl Bool.noConfusion
  | cleaning child part => exact h.clean here answer.now

/-- And every orderly event. -/
theorem step (h : Sound w) (placed : Placed w) {e : ManagerEvent} (orderly : Orderly w e) : Sound (w.step e) := by
  cases e with
  | go thread answer => exact h.go placed orderly
  | stop =>
    unfold Manager.step
    dsimp only
    split
    next idle =>
      have stopped : Sound { w with stopSet := true } := h.of_same rfl rfl rfl rfl rfl rfl rfl
      exact stopped.plain (goes_stopper idle) rfl Bool.noConfusion
    · exact h

end Sound

/-! ## The readers' tests -/

namespace Placed

variable {w : Manager} {thread : Thread} {point : Point}

/-- All threads are placed at the start. -/
theorem initial : Placed .initial where
  fits := by
    intro t
    cases t <;> exact trivial
  handling := by
    intro t reader payload here
    cases t <;> cases here

/-- A thread goes to a point of its own; only an event of the current child is about to be handled. -/
theorem goTo (h : Placed w) (fits : point.Fits thread)
    (handling : ∀ reader payload, point = .handling reader payload → w.proc = some reader.child) :
    Placed (w.goTo thread point) where
  fits := by
    intro t
    unfold Manager.goTo
    dsimp only
    by_cases same : t = thread
    · cases same
      rw [Function.update_self]
      exact fits
    · rw [Function.update_of_ne same]
      exact h.fits t
  handling := by
    intro t reader payload here
    unfold Manager.goTo at here
    dsimp only at here
    by_cases same : t = thread
    · cases same
      rw [Function.update_self] at here
      exact handling reader payload here
    · rw [Function.update_of_ne same] at here
      exact h.handling t reader payload here

/-- A thread goes to a point at which it handles no event. -/
theorem plain (h : Placed w) (fits : point.Fits thread) (handles : point.handles = false) :
    Placed (w.goTo thread point) := by
  refine h.goTo fits ?_
  intro reader payload same
  rw [same] at handles
  cases handles

/-- What a thread establishes or clears does not matter. -/
theorem of_same {w' : Manager} (h : Placed w) (points : w'.points = w.points) (proc : w'.proc = w.proc) :
    Placed w' where
  fits := by
    rw [points]
    exact h.fits
  handling := by
    rw [points, proc]
    exact h.handling

/-- Where no event is about to be handled, there may be another child. -/
theorem of_unhandled {w' : Manager} (h : Placed w) (points : w'.points = w.points)
    (unhandled : ∀ t reader payload, w.points t ≠ .handling reader payload) : Placed w' where
  fits := by
    rw [points]
    exact h.fits
  handling := by
    intro t reader payload here
    rw [points] at here
    exact absurd here (unhandled t reader payload)

/-- A thread that comes to rest is placed. -/
theorem rest (h : Placed w) (thread : Thread) : Placed (w.goTo thread (Manager.rest thread)) := by
  cases thread <;> exact h.plain trivial rfl

theorem decide (h : Placed w) (no_reader : ∀ n, thread ≠ .reader n) (now : Time) (reachable : Bool) (later : Time) :
    Placed (w.decide thread now reachable later) := by
  have bumped : Placed (w.bumpBackoff later) := h.of_same rfl rfl
  unfold Manager.decide
  split
  · split
    · exact h.plain trivial rfl
    · exact h.plain trivial rfl
  · split
    · exact h.plain no_reader rfl
    · split
      · exact bumped.plain no_reader rfl
      · exact h.plain trivial rfl

/-- A reader releases its own child only, whose events it handles no more. -/
theorem release (h : Placed w) {child : Nat} (here : w.points thread = .cleaning child .releasing) :
    Placed { w with proc := if w.proc = some child then none else w.proc } := by
  split
  next current =>
    refine h.of_unhandled rfl ?_
    intro t reader payload handling
    have same := h.handling t reader payload handling
    have own := h.fits t
    rw [handling] at own
    have releasing := h.fits thread
    rw [here] at releasing
    rcases releasing with reads | ⟨_, other⟩
    · cases current.symm.trans same
      cases reads.trans own.symm
      cases here.symm.trans handling
    · exact other rfl
  · exact h.of_same rfl rfl

/-- So is one in the exit handling. -/
theorem clean (h : Placed w) {child : Nat} {part : Cleaning} (here : w.points thread = .cleaning child part)
    (now : Time) : Placed (w.clean thread child now part) := by
  have fits := h.fits thread
  rw [here] at fits
  -- whose child it is does not change on the way
  have on_way (part' : Cleaning) (keeps : part' ≠ .releasing) : (Point.cleaning child part').Fits thread :=
    fits.imp id fun other => ⟨other.1, keeps⟩
  cases part with
  | reaping =>
    unfold Manager.clean
    cases thread with
    | reader n => exact h.plain (.inl (fits.resolve_right fun other => other.1 n rfl)) rfl
    | supervisor | stopper => exact h.plain (on_way _ Cleaning.noConfusion) rfl
  | releasing => exact (h.release here).plain (on_way _ Cleaning.noConfusion) rfl
  | resetting =>
    have reset : Placed (w.resetReady child) := h.of_same rfl rfl
    exact reset.plain (on_way _ Cleaning.noConfusion) rfl
  | clearing =>
    have cleared : Placed (w.clearTelemetry child) := h.of_same rfl rfl
    have bumped : Placed ((w.clearTelemetry child).bumpBackoff now) := h.of_same rfl rfl
    unfold Manager.clean
    cases thread with
    | reader => exact bumped.rest _
    | supervisor | stopper => exact cleared.rest _

/-- Every orderly step leaves the threads placed. -/
theorem go (h : Placed w) (sound : Sound w) {answer : Answer} (orderly : Orderly w (.go thread answer)) :
    Placed (w.go thread answer) := by
  have orderly : match w.points thread with
    | .taking => ∀ t reader payload, w.points t ≠ .handling reader payload
    | .publishing => ∀ t child part, w.points t ≠ .cleaning child part
    | _ => True := orderly
  have fits := h.fits thread
  have supervisor : (w.points thread).supervises = true → thread = .supervisor := sound.scheduled.supervises thread
  unfold Manager.go
  cases here : w.points thread with
  | idle => exact h
  | waiting =>
    dsimp only
    split
    · exact h
    · exact h.plain trivial rfl
  | deciding now reachable =>
    rw [here] at supervisor
    exact h.decide (fun _ => supervisor rfl ▸ Thread.noConfusion) now reachable answer.now
  | opening =>
    have bumped : Placed (w.bumpBackoff answer.now) := h.of_same rfl rfl
    dsimp only
    split
    · exact h.plain trivial rfl
    · exact bumped.plain trivial rfl
  | publishing =>
    rw [here] at supervisor
    cases supervisor rfl
    have gone : w.proc = none := sound.scheduled.free (by rw [here]; rfl)
    -- no child is there, so no event has passed the test
    have published : Placed { w with generation := w.generation + 1, proc := some (w.generation + 1) } := by
      refine h.of_unhandled rfl ?_
      intro t reader payload handling
      cases gone.symm.trans (h.handling t reader payload handling)
    exact published.plain trivial rfl
  | stamping =>
    have stamped : Placed { w with spawnTime := answer.now, nextSpawnAllowed := answer.now } := h.of_same rfl rfl
    exact stamped.plain trivial rfl
  | readying =>
    have unready : Placed { w with readiness := .none } := h.of_same rfl rfl
    exact unready.plain trivial rfl
  | launching =>
    have waits : Placed (w.goTo thread .waiting) := h.plain trivial rfl
    exact waits.plain rfl rfl
  | taking =>
    rw [here] at orderly fits
    dsimp only
    split
    · exact h.rest thread
    next child there =>
      have taken : Placed { w with proc := none } := h.of_unhandled rfl orderly
      exact taken.plain (.inr ⟨fits, Cleaning.noConfusion⟩) rfl
  | reading reader =>
    rw [here] at fits
    dsimp only
    split
    · exact h.plain fits rfl
    · split
      · exact h.plain fits rfl
      · exact h.plain fits rfl
  | testing reader payload =>
    rw [here] at fits
    dsimp only
    split
    next current =>
      refine h.goTo fits ?_
      intro reader' payload' same
      cases same
      unfold Manager.isCurrent at current
      exact of_decide_eq_true (Bool.and_eq_true_iff.mp current).2
    · exact h.plain fits rfl
  | handling reader payload =>
    rw [here] at fits
    have handled : Placed (w.handleEvent reader.child payload) :=
      h.of_same (w.handleEvent_points ..) (w.handleEvent_proc ..)
    dsimp only
    split
    · exact handled.plain fits rfl
    · exact handled.plain fits rfl
  | ending reader =>
    rw [here] at fits
    dsimp only
    split
    · exact h.plain (.inl fits) rfl
    · exact h.plain trivial rfl
  | cleaning child part => exact h.clean here answer.now

/-- And every orderly event. -/
theorem step (h : Placed w) (sound : Sound w) {e : ManagerEvent} (orderly : Orderly w e) : Placed (w.step e) := by
  cases e with
  | go thread answer => exact h.go sound orderly
  | stop =>
    unfold Manager.step
    dsimp only
    split
    · have stopped : Placed { w with stopSet := true } := h.of_same rfl rfl
      exact stopped.plain (fun _ => Thread.noConfusion) rfl
    · exact h

end Placed

/-- **Where no child is taken away between a reader's test and its handling of an event, and none is published
over another that is being cleared away, the generations are kept apart in every state.** -/
theorem generations_isolated (events : List ManagerEvent)
    (orderly : Runs.Meets Manager.step Orderly .initial events) (before after : List ManagerEvent)
    (split : events = before ++ after) : Isolated (Manager.initial.run before) :=
  (Runs.states_of_meets (I := fun w => Sound w ∧ Placed w)
    (fun _ _ h ok => ⟨h.1.step h.2 ok, h.2.step h.1 ok⟩) ⟨Sound.initial, Placed.initial⟩ orderly before after
    split).1.isolated

/-! ## Two children at once -/

/-- A step of the supervisor, of a reader, and a reader's next line. -/
def supervise (now : Time) : ManagerEvent := .go .supervisor ⟨now * second, true, true, none, false⟩
def readerOf (child : Nat) : ManagerEvent := .go (.reader child) ⟨0, true, true, none, false⟩
def reportsReady (child : Nat) : ManagerEvent :=
  .go (.reader child) ⟨0, true, true, some (.ready true true true true), false⟩

/-- The supervisor starts the first child, which reports that it is ready. -/
def oneChild : List ManagerEvent :=
  List.replicate 7 (supervise 0) ++ [reportsReady 1, readerOf 1, readerOf 1]

/-- One child, and its event is handled while it is there. -/
theorem one_child_isolated : Isolated (Manager.initial.run oneChild) := by
  apply generations_isolated oneChild _ oneChild [] (List.append_nil _).symm
  refine ⟨trivial, trivial, trivial, ?_, trivial, trivial, trivial, trivial, trivial, trivial, trivial⟩
  intro t child part cleaning
  cases t <;> cases cleaning

/-- The first child, without having become ready, ends just as the supervisor gives it up; its reader's exit
handling is still under way when the second child has become ready. -/
def twoChildren : List ManagerEvent :=
  List.replicate 7 (supervise 0) ++ [supervise 9, readerOf 1, readerOf 1, supervise 9, supervise 9,
    supervise 9, supervise 9, supervise 9] ++ List.replicate 7 (supervise 20) ++
    [reportsReady 2, readerOf 2, readerOf 2, readerOf 1, readerOf 1, readerOf 1]

/-- The end of the first child resets what the second one has established. -/
theorem second_child_reset : ¬ Isolated (Manager.initial.run twoChildren) := by
  intro isolated
  have wiped : (Manager.initial.run twoChildren).wiped = [(1, 2)] := by decide +kernel
  have kept := isolated.kept (1, 2) (by rw [wiped]; exact List.mem_singleton.mpr rfl)
  exact absurd kept (by decide)

end Firebot.Bridge.RosChild
