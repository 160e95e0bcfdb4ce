import Mathlib.Data.List.TakeWhile
import Firebot.Lib.Except
import Firebot.Data.Float

/-!
# Every command is answered

The handlers of `firebot_control_adapter` on the command dictionary as it was decoded, whatever it holds. A
handler is a chain of calls that may fail, with an answer and a return at each failure; reading the target out
of `params` stands outside every `try`. What a handler does is the list of its effects, and the exception it
ends with, if any: an effect after an exception does not happen (`Outcome.andThen`).

`Ros` is what the ROS calls come to. The other calls of ROS return.

A stop is answered by exactly one feedback, a patrol by a rejection or by an acceptance and one verdict. This
fails in three ways only: the target is read from a value of another shape or from a coordinate that is no
number (`WellShaped`), the target's angle is a text that the log cannot format, or an id cannot be encoded.

**The handlers answer a command as they are to, whatever the ROS calls come to, exactly outside these three**
(`Answerable`, `always_answered_iff`). Nothing is said of a call that does not return.
-/

namespace Firebot.Vehicle.Handlers

open MqttIngress (Raised)

/-! ## Calls -/

/-- What the handlers use of Python: `fromisoformat` reads a time, with `Z` for `+00:00`, and answers `some
none` for one without an offset; `sinHalf` and `cosHalf` are sine and cosine of half an angle. -/
structure Python where
  fromisoformat : JsonText → Option (Option Time)
  str : JsonTree → JsonText
  floatOf : JsonText → Option JsonTree
  sinHalf : JsonTree → JsonTree
  cosHalf : JsonTree → JsonTree

/-- What the calls come to: the clock; the subscribers of the navigation topic, the action server, the
receivers on the velocity topic, `none` where the call raises; whether `cancel_all_goals` returns, and the
burst's publications one by one; whether the navigation is seen to start; whether a log line is written that
its arguments do not fit, rather than an exception raised. -/
structure Ros where
  now : Time
  subscribers : Option Nat
  server : Option Bool
  receivers : Option Nat
  cancels : Bool
  publishes : Nat → Bool
  started : Bool
  logs : Bool

/-! ## Effects -/

/-- The states of a feedback. -/
inductive AnswerState where
  | accepted
  | rejected
  | executing
  | failed
  deriving DecidableEq, Repr

/-- A feedback message. -/
structure Answer where
  commandId : JsonTree
  taskId : JsonTree
  state : AnswerState
  reasonCode : Option String
  message : Option String
  phase : Option String
  progress : Option Nat

/-- `geometry_msgs/Pose`, as far as it is set. -/
structure GoalPose where
  x : JsonTree
  y : JsonTree
  z : JsonTree
  w : JsonTree

/-- What a handler does. -/
inductive Effect where
  | feedback (answer : Answer)
  | goal (pose : GoalPose)
  | cancelGoals
  | zeroVelocity

/-- What a handler has done, and the exception it ended with. -/
structure Outcome where
  effects : List Effect
  raised : Option Raised

/-- The first part, and the second where the first does not raise. -/
def Outcome.andThen (first second : Outcome) : Outcome :=
  match first.raised with
  | some _ => first
  | none => { effects := first.effects ++ second.effects, raised := second.raised }

/-! ## The handlers -/

section

variable (py : Python) (ros : Ros) (cmd : JsonTree)

/-- `_expired`. -/
def expired (expiresAt : JsonTree) : Bool :=
  if !expiresAt.truthy then false
  else
    match py.fromisoformat (match expiresAt with | .str s => s | value => py.str value) with
    | some (some t) => t ≤ ros.now
    | _ => false

/-- The command has expired. -/
def late : Bool := expired py ros (cmd.getD "expires_at")

/-- The ids can be written into a feedback. -/
def encodable : Bool := (cmd.getD "command_id").encodes && (cmd.getD "task_id").encodes

/-- `_feedback`. -/
def feedback (state : AnswerState) (reasonCode message phase : Option String) (progress : Option Nat) :
    Outcome :=
  if encodable cmd then
    { effects := [.feedback { commandId := cmd.getD "command_id", taskId := cmd.getD "task_id", state,
                              reasonCode, message, phase, progress }]
      raised := none }
  else { effects := [], raised := some .unicodeEncodeError }

/-- A rejection. -/
def reject (reasonCode : String) (message : Option String) : Outcome :=
  feedback cmd .rejected (some reasonCode) message none none

/-- `_downstream_ready`: an exception counts as no subscriber and as no server. -/
def downstreamReady : Bool := 0 < ros.subscribers.getD 0 && ros.server.getD false

/-- `_pick_target`; `None` where there is no waypoint. -/
def pickTarget : JsonTree → Except Raised JsonTree
  | .arr items =>
    .ok (((items.find? fun wp => wp.isObject && !(wp.getD "kind").isText "WAITING") <|>
      items.head?).getD .null)
  | .str (.chars s) => .ok (.str (.chars (s.take 1).toString))
  | .str (.surrogates points) => .ok (.str (.surrogates (points.take 1)))
  | .obj _ => .error .keyError
  | _ => .error .typeError

/-- `float(wp.get(name, 0.0))`. -/
def coordinate (wp : JsonTree) (name : String) : Except Raised JsonTree :=
  float py.floatOf ((wp.get name).getD (.real 0))

/-- `_to_pose`; `math.sin` raises on an infinite angle. -/
def toPose (wp : JsonTree) : Except Raised GoalPose :=
  if !wp.isObject then .error .attributeError
  else do
    let x ← coordinate py wp "x"
    let y ← coordinate py wp "y"
    let theta ← coordinate py wp "theta"
    match theta with
    | .inf _ => .error .valueError
    | theta => return { x, y, z := py.sinHalf theta, w := py.cosHalf theta }

/-- `value or other`. -/
def orElse (value other : JsonTree) : JsonTree := if value.truthy then value else other

/-- The waypoint that a patrol goes to, and its pose; `none` where there is no waypoint. -/
def target : Except Raised (Option (JsonTree × GoalPose)) :=
  let params := orElse (cmd.getD "params") (.obj [])
  if !params.isObject then .error .attributeError
  else do
    let wp ← pickTarget (orElse (params.getD "trajectory") (.arr []))
    if wp.isNull then return none
    else
      let pose ← toPose py wp
      return some (wp, pose)

/-- The angle in a waypoint fits `%.3f`. -/
def formats (wp : JsonTree) : Bool := ((wp.get "theta").getD (.real 0)).asText.isNone

/-- `_start_navigation`, and its answer. -/
def startNavigation : Outcome × Bool :=
  match target py cmd with
  | .error raised => ({ effects := [], raised := some raised }, false)
  | .ok none => ({ effects := [], raised := none }, false)
  | .ok (some (wp, pose)) =>
    ({ effects := [.goal pose], raised := if formats wp || ros.logs then none else some .typeError }, true)

/-- `_handle_patrol_start`. -/
def handlePatrolStart : Outcome :=
  if late py ros cmd then reject cmd "COMMAND_EXPIRED" none
  else if !downstreamReady ros then reject cmd "COMMAND_REJECTED" (some "NAV_EXECUTION_NOT_READY")
  else
    match startNavigation py ros cmd with
    | (start, false) => start.andThen (reject cmd "NAV_START_FAILED" none)
    | (start, true) =>
      (start.andThen (feedback cmd .accepted none none none none)).andThen
        (if ros.started then feedback cmd .executing none none (some "PATROLLING") (some 0)
          else feedback cmd .failed (some "COMMAND_REJECTED") (some "NAV_START_NOT_CONFIRMED") none none)

/-- `int(rate_hz * duration_s)`. -/
def burstCount : Nat := 5

/-- `_publish_zero_velocity_burst`: the velocities that were sent. -/
def burst : Nat := ((List.range burstCount).takeWhile ros.publishes).length

/-- `_handle_stop_motion`. -/
def handleStopMotion : Outcome :=
  if late py ros cmd then reject cmd "COMMAND_EXPIRED" none
  else if ¬ 0 < ros.receivers.getD 0 then reject cmd "COMMAND_REJECTED" (some "CMD_VEL_NO_RECEIVER")
  else if !ros.cancels then reject cmd "COMMAND_REJECTED" (some "CANCEL_GOALS_FAILED")
  else
    { effects := .cancelGoals :: List.replicate (burst ros) .zeroVelocity, raised := none : Outcome }.andThen
      (if burst ros < burstCount then reject cmd "COMMAND_REJECTED" (some "ZERO_VELOCITY_FAILED")
        else feedback cmd .accepted none none none none)

/-- `_on_command`, of a dictionary. -/
def onCommand : Outcome :=
  if (cmd.getD "command").isText "PATROL_START" then handlePatrolStart py ros cmd
  else if (cmd.getD "command").isText "STOP_MOTION" then handleStopMotion py ros cmd
  else { effects := [], raised := none }

end

/-! ## What is to hold -/

namespace Outcome

/-- The states of the feedbacks, in the order they were sent. -/
def states (o : Outcome) : List AnswerState :=
  o.effects.filterMap fun
    | .feedback answer => some answer.state
    | _ => none

/-- The goals that were published. -/
def goals (o : Outcome) : List GoalPose :=
  o.effects.filterMap fun
    | .goal pose => some pose
    | _ => none

end Outcome

section

variable (py : Python) (ros : Ros) (cmd : JsonTree)

/-- A patrol is rejected, or accepted and then executing or failed; it publishes one goal at most, and none
when it has expired or the navigation is not ready. -/
structure PatrolAnswered (o : Outcome) : Prop where
  answered : o.states = [.rejected] ∨ o.states = [.accepted, .executing] ∨ o.states = [.accepted, .failed]
  goals : o.goals.length ≤ 1
  held : late py ros cmd = true ∨ downstreamReady ros = false → o.goals = []

/-- Every part of the stop went through. -/
def Stopped : Prop :=
  late py ros cmd = false ∧ 0 < ros.receivers.getD 0 ∧ ros.cancels = true ∧
    ∀ i < burstCount, ros.publishes i = true

/-- A stop is accepted if every part of it went through, and rejected otherwise. -/
structure StopAnswered (o : Outcome) : Prop where
  accepted : Stopped py ros cmd → o.states = [.accepted]
  rejected : ¬ Stopped py ros cmd → o.states = [.rejected]

/-- The command is answered. -/
structure Answered (o : Outcome) : Prop where
  patrol : (cmd.getD "command").isText "PATROL_START" = true → PatrolAnswered py ros cmd o
  stop : (cmd.getD "command").isText "STOP_MOTION" = true → StopAnswered py ros cmd o

/-- A waypoint that the vehicle can be sent to. -/
structure WaypointFits (wp : JsonTree) : Prop where
  object : wp.isObject = true
  numbers : ∀ name ∈ ["x", "y", "theta"], (coordinate py wp name).Passes
  bounded : ∀ negative, coordinate py wp "theta" ≠ .ok (.inf negative)
  formats : (formats wp || ros.logs) = true

/-- `params` and its trajectory are of the shape that the handler expects, as far as it reads them. -/
def WellShaped : Prop :=
  let params := orElse (cmd.getD "params") (.obj [])
  params.isObject = true ∧
    ∃ items, orElse (params.getD "trajectory") (.arr []) = .arr items ∧
      ∀ wp, pickTarget (.arr items) = .ok wp → wp.isNull = true ∨ WaypointFits py ros wp

/-- A command that the handlers answer. -/
structure Answerable : Prop where
  encodes : (cmd.getD "command").isText "PATROL_START" = true ∨
    (cmd.getD "command").isText "STOP_MOTION" = true → encodable cmd = true
  shaped : (cmd.getD "command").isText "PATROL_START" = true → late py ros cmd = false →
    downstreamReady ros = true → WellShaped py ros cmd

end

/-! ## The parts -/

section

variable {py : Python} {ros : Ros} {cmd : JsonTree}

/-- The feedbacks of two parts in a row, the first of which returns. -/
theorem states_andThen {first second : Outcome} (returns : first.raised = none) :
    (first.andThen second).states = first.states ++ second.states := by
  unfold Outcome.andThen
  rw [returns]
  exact List.filterMap_append

/-- The goals of two parts, of which the second publishes none. -/
theorem goals_andThen {first second : Outcome} (none_after : second.goals = []) :
    (first.andThen second).goals = first.goals := by
  unfold Outcome.andThen
  cases first.raised with
  | some raised => rfl
  | none =>
    show List.filterMap _ (first.effects ++ second.effects) = _
    rw [List.filterMap_append]
    exact (congrArg _ none_after).trans (List.append_nil _)

/-- What comes after an exception does not happen. -/
theorem andThen_raised {first second : Outcome} {raised : Raised} (raises : first.raised = some raised) :
    first.andThen second = first := by
  unfold Outcome.andThen
  rw [raises]

/-- A feedback is sent exactly if the ids can be written. -/
theorem states_feedback (state : AnswerState) (reasonCode message phase : Option String)
    (progress : Option Nat) :
    (feedback cmd state reasonCode message phase progress).states =
      if encodable cmd then [state] else [] := by
  unfold feedback
  split <;> rfl

/-- A feedback with ids that can be written goes out. -/
theorem raised_feedback (encodes : encodable cmd = true) (state : AnswerState)
    (reasonCode message phase : Option String) (progress : Option Nat) :
    (feedback cmd state reasonCode message phase progress).raised = none := by
  unfold feedback
  rw [if_pos encodes]

/-- A feedback is no goal. -/
theorem goals_feedback (state : AnswerState) (reasonCode message phase : Option String)
    (progress : Option Nat) : (feedback cmd state reasonCode message phase progress).goals = [] := by
  unfold feedback
  split <;> rfl

/-- The burst is complete exactly if every publication returns. -/
theorem burst_complete_iff : ¬ burst ros < burstCount ↔ ∀ i < burstCount, ros.publishes i = true := by
  have prefixed := List.takeWhile_prefix (l := List.range burstCount) ros.publishes
  have short : burst ros ≤ burstCount := prefixed.length_le
  rw [Nat.not_lt]
  constructor
  · intro whole i below
    have all : (List.range burstCount).takeWhile ros.publishes = List.range burstCount :=
      prefixed.eq_of_length (Nat.le_antisymm short whole)
    exact List.takeWhile_eq_self_iff.mp all i (List.mem_range.mpr below)
  · intro all
    unfold burst
    rw [List.takeWhile_eq_self_iff.mpr fun i mem => all i (List.mem_range.mp mem)]
    exact Nat.le_refl _

/-- A pose is made exactly of a dictionary with three numbers, the angle among them not infinite. -/
theorem toPose_passes_iff {wp : JsonTree} :
    (toPose py wp).Passes ↔ wp.isObject = true ∧ (∀ name ∈ ["x", "y", "theta"], (coordinate py wp name).Passes) ∧
      ∀ negative, coordinate py wp "theta" ≠ .ok (.inf negative) := by
  unfold toPose
  cases object : wp.isObject with
  | false =>
    constructor
    · intro passes
      exact absurd passes (Except.not_passes_error _)
    · intro fits
      cases fits.1
  | true =>
    constructor
    · intro passes
      obtain ⟨x, first, passes⟩ := Except.passes_bind.mp passes
      obtain ⟨y, second, passes⟩ := Except.passes_bind.mp passes
      obtain ⟨theta, third, passes⟩ := Except.passes_bind.mp passes
      refine ⟨rfl, ?_, ?_⟩
      · intro name among
        rcases List.mem_cons.mp among with same | among
        · exact same ▸ ⟨x, first⟩
        rcases List.mem_cons.mp among with same | among
        · exact same ▸ ⟨y, second⟩
        · exact List.mem_singleton.mp among ▸ ⟨theta, third⟩
      · intro negative same
        cases third.symm.trans same
        exact Except.not_passes_error _ passes
    · intro fits
      obtain ⟨_, numbers, bounded⟩ := fits
      obtain ⟨x, first⟩ := numbers "x" (.head _)
      obtain ⟨y, second⟩ := numbers "y" (.tail _ (.head _))
      obtain ⟨theta, third⟩ := numbers "theta" (.tail _ (.tail _ (.head _)))
      refine Except.passes_bind.mpr ⟨x, first, Except.passes_bind.mpr ⟨y, second,
        Except.passes_bind.mpr ⟨theta, third, ?_⟩⟩⟩
      cases theta with
      | inf negative => exact absurd third (bounded negative)
      | _ => exact Except.passes_ok _

/-- The target is read exactly from parameters that are an object with a trajectory that can be searched. -/
theorem target_eq_ok {t : Option (JsonTree × GoalPose)} :
    target py cmd = .ok t ↔ (orElse (cmd.getD "params") (.obj [])).isObject = true ∧
      ∃ wp, pickTarget (orElse ((orElse (cmd.getD "params") (.obj [])).getD "trajectory") (.arr [])) = .ok wp ∧
        (wp.isNull = true ∧ t = none ∨
          wp.isNull = false ∧ ∃ pose, toPose py wp = .ok pose ∧ t = some (wp, pose)) := by
  unfold target
  dsimp only
  cases (orElse (cmd.getD "params") (.obj [])).isObject with
  | false =>
    constructor
    · intro found
      cases found
    · intro found
      cases found.1
  | true =>
    constructor
    · intro found
      obtain ⟨wp, picked, found⟩ := Except.bind_eq_ok.mp found
      refine ⟨rfl, wp, picked, ?_⟩
      cases null : wp.isNull with
      | true =>
        rw [null] at found
        cases found
        exact .inl ⟨rfl, rfl⟩
      | false =>
        rw [null] at found
        obtain ⟨pose, made, same⟩ := Except.bind_eq_ok.mp found
        cases same
        exact .inr ⟨rfl, pose, made, rfl⟩
    · intro found
      obtain ⟨_, wp, picked, rest⟩ := found
      refine Except.bind_eq_ok.mpr ⟨wp, picked, ?_⟩
      rcases rest with ⟨null, same⟩ | ⟨null, pose, made, same⟩
      · rw [null, same]
        rfl
      · rw [null, same]
        exact Except.bind_eq_ok.mpr ⟨pose, made, rfl⟩

/-- The start raises exactly if the target cannot be read or its text not be logged. -/
theorem raised_start :
    (startNavigation py ros cmd).1.raised = none ↔
      ∃ t, target py cmd = .ok t ∧ ∀ wp pose, t = some (wp, pose) → (formats wp || ros.logs) = true := by
  unfold startNavigation
  cases target py cmd with
  | error raised => simp
  | ok t =>
    cases t with
    | none => simp
    | some t =>
      obtain ⟨wp, pose⟩ := t
      constructor
      · intro returns
        refine ⟨_, rfl, ?_⟩
        intro wp pose same
        cases same
        apply of_not_not
        intro fails
        cases (if_neg fails).symm.trans returns
      · intro found
        obtain ⟨t, found, fits⟩ := found
        cases found
        exact if_pos (fits wp pose rfl)

/-- The start of the navigation returns exactly if the command is well shaped. -/
theorem start_returns_iff :
    (startNavigation py ros cmd).1.raised = none ↔ WellShaped py ros cmd := by
  rw [raised_start]
  unfold WellShaped
  dsimp only
  constructor
  · intro returns
    obtain ⟨t, found, fits⟩ := returns
    obtain ⟨object, wp, picked, rest⟩ := target_eq_ok.mp found
    refine ⟨object, ?_⟩
    generalize orElse (JsonTree.getD (orElse (cmd.getD "params") (.obj [])) "trajectory") (.arr []) =
      trajectory at picked
    cases trajectory with
    | arr items =>
      refine ⟨items, rfl, ?_⟩
      intro wp' picked'
      cases picked.symm.trans picked'
      rcases rest with ⟨null, _⟩ | ⟨_, pose, made, same⟩
      · exact .inl null
      · obtain ⟨object, numbers, bounded⟩ := toPose_passes_iff.mp ⟨pose, made⟩
        exact .inr ⟨object, numbers, bounded, fits wp pose same⟩
    | str text =>
      -- a text is gone through character by character, and its first one is no dictionary
      have letter : wp.isNull = false ∧ wp.isObject = false := by
        cases text <;> (cases picked; exact ⟨rfl, rfl⟩)
      rcases rest with ⟨null, _⟩ | ⟨_, pose, made, _⟩
      · cases letter.1.symm.trans null
      · cases letter.2.symm.trans (toPose_passes_iff.mp ⟨pose, made⟩).1
    | _ => cases picked
  · intro shaped
    obtain ⟨object, items, trajectory, fits⟩ := shaped
    have picked : pickTarget (.arr items) = .ok (((items.find? fun wp =>
        wp.isObject && !(wp.getD "kind").isText "WAITING") <|> items.head?).getD .null) := rfl
    generalize ((items.find? fun wp => wp.isObject && !(wp.getD "kind").isText "WAITING") <|>
      items.head?).getD .null = wp at picked
    rcases fits wp picked with null | waypoint
    · refine ⟨none, target_eq_ok.mpr ⟨object, wp, by rw [trajectory]; exact picked, .inl ⟨null, rfl⟩⟩, ?_⟩
      intro wp pose same
      cases same
    · obtain ⟨pose, made⟩ := toPose_passes_iff.mpr ⟨waypoint.object, waypoint.numbers, waypoint.bounded⟩
      have someone : wp.isNull = false := by
        have := waypoint.object
        cases wp with
        | obj fields => rfl
        | _ => cases this
      refine ⟨some (wp, pose), target_eq_ok.mpr ⟨object, wp, by rw [trajectory]; exact picked,
        .inr ⟨someone, pose, made, rfl⟩⟩, ?_⟩
      intro wp pose same
      cases same
      exact waypoint.formats

/-! ## The handlers -/

/-- One goal at most is published. -/
theorem goals_start : (startNavigation py ros cmd).1.goals.length ≤ 1 := by
  unfold startNavigation
  cases target py cmd with
  | error raised => exact Nat.zero_le 1
  | ok t =>
    cases t with
    | none => exact Nat.zero_le 1
    | some t => exact Nat.le_refl 1

/-- The start itself answers nothing. -/
theorem states_start : (startNavigation py ros cmd).1.states = [] := by
  unfold startNavigation
  cases target py cmd with
  | error raised => rfl
  | ok t => cases t <;> rfl

/-- The goals of a patrol are those of its start. -/
theorem goals_patrol (due : late py ros cmd = false) (ready : downstreamReady ros = true) :
    (handlePatrolStart py ros cmd).goals = (startNavigation py ros cmd).1.goals := by
  unfold handlePatrolStart
  rw [due, ready]
  obtain ⟨start, published⟩ := startNavigation py ros cmd
  cases published with
  | false => exact goals_andThen (goals_feedback ..)
  | true =>
    refine (goals_andThen ?_).trans (goals_andThen (goals_feedback ..))
    cases ros.started <;> exact goals_feedback ..

/-- A rejection is one feedback, if its ids can be written. -/
theorem states_reject (reasonCode : String) (message : Option String) :
    (reject cmd reasonCode message).states = if encodable cmd then [.rejected] else [] := states_feedback ..

/-- Before the start a patrol can only be rejected. -/
theorem states_patrol_early (early : late py ros cmd = true ∨ downstreamReady ros = false) :
    (handlePatrolStart py ros cmd).states = if encodable cmd then [.rejected] else [] := by
  unfold handlePatrolStart
  cases due : late py ros cmd with
  | true => exact states_reject ..
  | false =>
    rw [early.resolve_left (by rw [due]; decide)]
    exact states_reject ..

/-- A start that raises ends the handler. -/
theorem states_patrol_raised (due : late py ros cmd = false) (ready : downstreamReady ros = true)
    (raises : (startNavigation py ros cmd).1.raised ≠ none) : (handlePatrolStart py ros cmd).states = [] := by
  have silent : (startNavigation py ros cmd).1.states = [] := states_start
  unfold handlePatrolStart
  rw [due, ready]
  obtain ⟨raised, raises⟩ := Option.ne_none_iff_exists'.mp raises
  generalize startNavigation py ros cmd = started at silent raises
  obtain ⟨start, published⟩ := started
  cases published with
  | false =>
    show (start.andThen _).states = []
    rw [andThen_raised raises]
    exact silent
  | true =>
    show ((start.andThen _).andThen _).states = []
    rw [andThen_raised raises, andThen_raised raises]
    exact silent

/-- What follows a start that returns. -/
theorem states_patrol_started (due : late py ros cmd = false) (ready : downstreamReady ros = true)
    (returns : (startNavigation py ros cmd).1.raised = none) :
    (handlePatrolStart py ros cmd).states =
      if encodable cmd then
        if (startNavigation py ros cmd).2 then [.accepted, if ros.started then .executing else .failed]
        else [.rejected]
      else [] := by
  have silent : (startNavigation py ros cmd).1.states = [] := states_start
  unfold handlePatrolStart
  rw [due, ready]
  generalize startNavigation py ros cmd = started at silent returns
  obtain ⟨start, published⟩ := started
  cases published with
  | false =>
    show (start.andThen (reject cmd _ _)).states = _
    rw [states_andThen returns, silent, states_reject]
    rfl
  | true =>
    show ((start.andThen (feedback cmd _ _ _ _ _)).andThen _).states = _
    cases encodes : encodable cmd with
    | false =>
      have mute : (start.andThen (feedback cmd .accepted none none none none)).raised =
          some .unicodeEncodeError := by
        unfold Outcome.andThen feedback
        rw [returns, encodes]
        rfl
      rw [andThen_raised mute, states_andThen returns, silent, states_feedback, encodes]
      rfl
    | true =>
      have speaks : (start.andThen (feedback cmd .accepted none none none none)).raised = none := by
        unfold Outcome.andThen
        rw [returns]
        exact raised_feedback encodes ..
      rw [states_andThen speaks, states_andThen returns, silent, states_feedback, encodes]
      cases ros.started
      · show [.accepted] ++ (feedback cmd .failed _ _ _ _).states = _
        rw [states_feedback, encodes]
        rfl
      · show [.accepted] ++ (feedback cmd .executing _ _ _ _).states = _
        rw [states_feedback, encodes]
        rfl

/-- A patrol is answered as it is to be exactly if its ids can be written and its start, where it comes to
that, returns. -/
theorem patrol_answered_iff :
    PatrolAnswered py ros cmd (handlePatrolStart py ros cmd) ↔
      encodable cmd = true ∧ (late py ros cmd = false → downstreamReady ros = true →
        (startNavigation py ros cmd).1.raised = none) := by
  by_cases early : late py ros cmd = true ∨ downstreamReady ros = false
  · have states : (handlePatrolStart py ros cmd).states = if encodable cmd then [.rejected] else [] :=
      states_patrol_early early
    have no_start : ¬ (late py ros cmd = false ∧ downstreamReady ros = true) := by
      intro both
      rw [both.1, both.2] at early
      simp at early
    have no_goal : (handlePatrolStart py ros cmd).goals = [] := by
      unfold handlePatrolStart
      cases due : late py ros cmd with
      | true => exact goals_feedback ..
      | false =>
        rw [early.resolve_left (by rw [due]; decide)]
        exact goals_feedback ..
    constructor
    · intro answered
      refine ⟨?_, fun due ready => absurd ⟨due, ready⟩ no_start⟩
      have := answered.answered
      rw [states] at this
      cases encodes : encodable cmd with
      | true => rfl
      | false =>
        rw [encodes] at this
        simp at this
    · intro fits
      rw [if_pos fits.1] at states
      exact ⟨.inl states, by rw [no_goal]; exact Nat.zero_le 1, fun _ => no_goal⟩
  · obtain ⟨due, ready⟩ : late py ros cmd = false ∧ downstreamReady ros = true := by
      simpa using early
    have one : (handlePatrolStart py ros cmd).goals = (startNavigation py ros cmd).1.goals :=
      goals_patrol due ready
    by_cases returns : (startNavigation py ros cmd).1.raised = none
    · have states := states_patrol_started due ready returns
      constructor
      · intro answered
        refine ⟨?_, fun _ _ => returns⟩
        have := answered.answered
        rw [states] at this
        cases encodes : encodable cmd with
        | true => rfl
        | false =>
          rw [encodes] at this
          simp at this
      · intro fits
        rw [if_pos fits.1] at states
        refine ⟨?_, by rw [one]; exact goals_start, fun held => absurd held early⟩
        rw [states]
        cases (startNavigation py ros cmd).2 with
        | false => exact .inl rfl
        | true =>
          cases ros.started with
          | true => exact .inr (.inl rfl)
          | false => exact .inr (.inr rfl)
    · have states := states_patrol_raised due ready returns
      constructor
      · intro answered
        have := answered.answered
        rw [states] at this
        simp at this
      · intro fits
        exact absurd (fits.2 due ready) returns

/-- The burst itself sends no feedback. -/
theorem states_braking (n : Nat) (rest : Outcome) :
    ({ effects := .cancelGoals :: List.replicate n .zeroVelocity, raised := none : Outcome }.andThen
      rest).states = rest.states := by
  rw [states_andThen rfl]
  have quiet : Outcome.states { effects := .cancelGoals :: List.replicate n .zeroVelocity, raised := none } =
      [] := by
    unfold Outcome.states
    rw [List.filterMap_eq_nil_iff]
    intro effect mem
    rcases List.mem_cons.mp mem with rfl | mem
    · rfl
    · rw [(List.mem_replicate.mp mem).2]
  rw [quiet]
  rfl

/-- A stop that goes through is accepted. -/
theorem states_stop_through (stopped : Stopped py ros cmd) :
    (handleStopMotion py ros cmd).states = if encodable cmd then [.accepted] else [] := by
  obtain ⟨due, receiver, cancels, whole⟩ := stopped
  unfold handleStopMotion
  rw [due, if_neg Bool.false_ne_true, if_neg (fun absent => absent receiver), cancels,
    if_neg (by decide), if_neg (burst_complete_iff.mpr whole)]
  exact (states_braking ..).trans (states_feedback ..)

/-- Any other stop is rejected. -/
theorem states_stop_failed (failed : ¬ Stopped py ros cmd) :
    (handleStopMotion py ros cmd).states = if encodable cmd then [.rejected] else [] := by
  unfold handleStopMotion
  split
  · exact states_reject ..
  next due =>
    split
    · exact states_reject ..
    next receiver =>
      split
      · exact states_reject ..
      next cancels =>
        have short : burst ros < burstCount := by
          apply of_not_not
          intro whole
          exact failed ⟨Bool.eq_false_iff.mpr due, of_not_not receiver, by simpa using cancels,
            burst_complete_iff.mp whole⟩
        rw [if_pos short, states_braking]
        exact states_reject ..

/-- A stop is answered exactly if its ids can be written. -/
theorem stop_answered_iff :
    StopAnswered py ros cmd (handleStopMotion py ros cmd) ↔ encodable cmd = true := by
  constructor
  · intro answered
    by_cases stopped : Stopped py ros cmd
    · have := answered.accepted stopped
      rw [states_stop_through stopped] at this
      apply of_not_not
      intro mute
      rw [if_neg mute] at this
      cases this
    · have := answered.rejected stopped
      rw [states_stop_failed stopped] at this
      apply of_not_not
      intro mute
      rw [if_neg mute] at this
      cases this
  · intro encodes
    constructor
    · intro stopped
      rw [states_stop_through stopped, if_pos encodes]
    · intro failed
      rw [states_stop_failed failed, if_pos encodes]

end

/-- The handlers answer a command as they are to, whatever the ROS calls come to, exactly if its ids can be
written and, of a patrol that is neither late nor too early for the navigation, the target can be read. -/
theorem always_answered_iff (py : Python) (ros : Ros) (cmd : JsonTree) :
    Answered py ros cmd (onCommand py ros cmd) ↔ Answerable py ros cmd := by
  unfold onCommand
  cases patrol : (cmd.getD "command").isText "PATROL_START" with
  | true =>
    have no_stop : (cmd.getD "command").isText "STOP_MOTION" = false := by
      rw [JsonTree.isText_iff.mp patrol]
      decide
    rw [if_pos rfl]
    constructor
    · intro answered
      obtain ⟨encodes, returns⟩ := patrol_answered_iff.mp (answered.patrol patrol)
      exact ⟨fun _ => encodes, fun _ due ready => start_returns_iff.mp (returns due ready)⟩
    · intro answerable
      refine ⟨fun _ => patrol_answered_iff.mpr ⟨answerable.encodes (.inl patrol), ?_⟩, ?_⟩
      · intro due ready
        exact start_returns_iff.mpr (answerable.shaped patrol due ready)
      · intro stop
        rw [no_stop] at stop
        cases stop
  | false =>
    rw [if_neg (by decide)]
    cases stop : (cmd.getD "command").isText "STOP_MOTION" with
    | true =>
      rw [if_pos rfl]
      constructor
      · intro answered
        refine ⟨fun _ => stop_answered_iff.mp (answered.stop stop), ?_⟩
        intro patrol'
        cases patrol.symm.trans patrol'
      · intro answerable
        refine ⟨?_, fun _ => stop_answered_iff.mpr (answerable.encodes (.inr stop))⟩
        intro patrol'
        cases patrol.symm.trans patrol'
    | false =>
      refine iff_of_true ⟨?_, ?_⟩ ⟨?_, ?_⟩
      · intro patrol'
        cases patrol.symm.trans patrol'
      · intro stop'
        cases stop.symm.trans stop'
      · intro either
        rw [patrol, stop] at either
        simp at either
      · intro patrol'
        cases patrol.symm.trans patrol'

/-! ## A command that is not answered -/

/-- Python, with no time that it can read and no text that is a number. -/
def plain : Python where
  fromisoformat _ := none
  str _ := ""
  floatOf _ := none
  sinHalf _ := .real 0
  cosHalf _ := .real 1

/-- ROS, with every call returning. -/
def allReady : Ros where
  now := 0
  subscribers := some 1
  server := some true
  receivers := some 1
  cancels := true
  publishes _ := true
  started := true
  logs := true

/-- A patrol to a waypoint that is a number. -/
def towardsNumber : JsonTree :=
  .obj [("command", .str "PATROL_START"), ("command_id", .str "c1"), ("task_id", .str "t1"),
    ("params", .obj [("trajectory", .arr [.int 1])])]

/-- It is neither accepted nor rejected. -/
theorem waypoint_number_unanswered :
    ¬ Answered plain allReady towardsNumber (onCommand plain allReady towardsNumber) := by
  intro answered
  have silent : (onCommand plain allReady towardsNumber).states = [] := by decide +kernel
  have := (answered.patrol (by decide +kernel)).answered
  rw [silent] at this
  simp at this

end Firebot.Vehicle.Handlers
