import Firebot.Bridge.GapLock
import Firebot.Vehicle.ControlAdapter

/-!
# The Bridge and the control adapter together

A command the Bridge writes to the ROS child lies in the queue of the adapter's subscriber until the
adapter takes it; the adapter handles one command at a time, stage by stage, and any time may pass
before each stage. Its feedback is in flight until it arrives at the Bridge, in any order. A message
to the adapter may be lost.

Three things are recorded beside the two components: the tasks the adapter has accepted and started
and not reported as failed (`driving`), and everything the adapter did to the vehicle, each with
whether the Bridge had published a rejection of the command before (`late`).
-/

namespace Firebot.Vehicle

open Bridge

/-- Something the adapter did to the vehicle for a command. -/
structure Action where
  commandId : CommandId
  deed : Deed
  late : Bool
  deriving DecidableEq

/-- The Bridge, the adapter, and what is under way between them. -/
structure Joint where
  bridge : Split
  queue : List Command
  handling : Option (Command × Stage)
  feedback : List Feedback
  driving : List Command
  actions : List Action

/-- What can happen in the two components. -/
inductive JointEvent where
  | write (command : Command) (delivered : Bool)
  | register
  | arrive (index : Nat)
  | timeout (handle : Nat)
  | advance (elapsed : Nat)
  | applyStatus (fields : StatusFields)
  | setLocation (value : Option Location)
  | clearRosTelemetry
  | lose (index : Nat)
  | take
  | stage (ok : Bool)

namespace Joint

/-- Both components as they start. -/
def initial (config : Config) (vehicleId bootId : String) (start : Time) : Joint where
  bridge := .initial config vehicleId bootId start
  queue := []
  handling := none
  feedback := []
  driving := []
  actions := []

/-- The delivery leaves the command in flight and in the adapter's queue. -/
def sends (j : Joint) (c : Command) (delivered : Bool) : Prop :=
  j.bridge.inFlight = none ∧ (j.bridge.proc.beginCommand c delivered).2 = true

instance (j : Joint) (c : Command) (delivered : Bool) : Decidable (j.sends c delivered) :=
  inferInstanceAs (Decidable (_ ∧ _))

/-- The tasks that drive after a move of the adapter. -/
def drives (j : Joint) (c : Command) (m : Move) : List Command :=
  match m.deed with
  | some (.navigate _) => j.driving ++ [c]
  | _ =>
    if ∃ f ∈ m.feedback, f.state = some .failed then j.driving.filter (·.id ≠ c.id) else j.driving

/-- The adapter makes a move for the command it handles. -/
def move (j : Joint) (c : Command) (m : Move) : Joint where
  bridge := j.bridge
  queue := j.queue
  handling := m.next.map (c, ·)
  feedback := j.feedback ++ m.feedback.toList
  driving := j.drives c m
  actions := j.actions ++ (m.deed.map fun deed =>
    { commandId := c.id, deed, late := decide (j.bridge.proc.Rejected c.id) : Action }).toList

/-- One event. -/
def step (j : Joint) : JointEvent → Joint
  | .write c delivered =>
    { j with bridge := j.bridge.step (.write c delivered)
             queue := if j.sends c delivered then j.queue ++ [c] else j.queue }
  | .register => { j with bridge := j.bridge.step .register }
  | .arrive index =>
    match j.feedback[index]? with
    | none => j
    | some f =>
      { j with bridge := j.bridge.step (.feedback f), feedback := j.feedback.eraseIdx index }
  | .timeout handle => { j with bridge := j.bridge.step (.timeout handle) }
  | .advance elapsed => { j with bridge := j.bridge.step (.advance elapsed) }
  | .applyStatus fields => { j with bridge := j.bridge.step (.applyStatus fields) }
  | .setLocation value => { j with bridge := j.bridge.step (.setLocation value) }
  | .clearRosTelemetry => { j with bridge := j.bridge.step .clearRosTelemetry }
  | .lose index => { j with queue := j.queue.eraseIdx index }
  | .take =>
    match j.handling, j.queue with
    | none, c :: rest => { j with queue := rest }.move c (Vehicle.take c j.bridge.proc.now)
    | _, _ => j
  | .stage ok =>
    match j.handling with
    | none => j
    | some (c, stage) => j.move c (Vehicle.advance c stage ok)

/-- The two components after a list of events. -/
abbrev run (j : Joint) (events : List JointEvent) : Joint := Runs.run step j events

/-- **No command was acted on after its rejection was published, and the task lock is held while a
task that the adapter has accepted and started drives.** -/
structure Obeyed (j : Joint) : Prop where
  onTime : ∀ a ∈ j.actions, a.late = false
  locked : j.driving ≠ [] → j.bridge.proc.state.taskLockId ≠ none

/-! ## The condition -/

/-- The adapter acts on commands of this kind. -/
def actsOn (c : Command) : Bool := c.kind = some .patrol || c.kind = some .stopMotion

/-- The commands the adapter may still act on: those in the queue that it will not find expired, and
the one it handles until it only observes. -/
def live (j : Joint) : List Command :=
  (j.queue.filter fun c => actsOn c && !expired c j.bridge.proc.now) ++
    (j.handling.toList.filter (·.2 ≠ .observing)).map Prod.fst

/-- Every copy of a command in the adapter's hands. -/
def held (j : Joint) : List Command := j.queue ++ j.handling.toList.map Prod.fst

/-- One of the two components still works on a command of this id. -/
def busy (j : Joint) (id : CommandId) : Prop :=
  (∃ c ∈ j.held, c.id = id) ∨ (∃ c ∈ j.driving, c.id = id) ∨
    (∃ f ∈ j.feedback, f.commandId = id) ∨ j.bridge.proc.pending id ≠ none

instance (j : Joint) (id : CommandId) : Decidable (j.busy id) :=
  inferInstanceAs (Decidable (_ ∨ _ ∨ _ ∨ _))

/-- A command goes to the ROS child when no rejection of it has been published and neither side works
on it; a delivery is rejected, and a timer gives a command up, when the adapter will not act on it
any more; and no stub answers in the place of ROS. -/
def Settled (j : Joint) : JointEvent → Prop
  | .write c _ => j.bridge.inFlight = none →
      (j.bridge.proc.forwards c → ¬ j.bridge.proc.Rejected c.id ∧ ¬ j.busy c.id) ∧
      (¬ j.bridge.proc.forwards c → ¬ j.bridge.proc.answeredFromRecord c →
        ∀ c' ∈ j.live, c'.id ≠ c.id)
  | .register => ¬ (j.bridge.proc.config.bridgeStubMode &&
      j.bridge.proc.config.stubSimulateFeedback) = true
  | .timeout handle => ∀ id ∈ j.bridge.proc.timesOut handle,
      (∀ c ∈ j.live, c.id ≠ id) ∧ ∀ c ∈ j.driving, c.id ≠ id
  | _ => True

instance (j : Joint) : (e : JointEvent) → Decidable (j.Settled e)
  | .write .. => inferInstanceAs (Decidable (_ → _ ∧ _))
  | .register => inferInstanceAs (Decidable (¬ _))
  | .timeout handle => inferInstanceAs (Decidable (∀ id ∈ j.bridge.proc.timesOut handle, _))
  | .arrive _ | .advance _ | .applyStatus _ | .setLocation _ | .clearRosTelemetry | .lose _ | .take
  | .stage _ => isTrue trivial

end Joint

end Firebot.Vehicle
