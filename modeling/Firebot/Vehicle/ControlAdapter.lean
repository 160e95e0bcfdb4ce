import Firebot.Bridge.Processor

/-!
# The control adapter

`firebot_control_adapter` takes commands from the ROS topic one after the other. A patrol is checked
for expiry and for the readiness of the navigation stack, then the target pose is published and
`ACCEPTED` reported, then `EXECUTING` or `FAILED` when the navigation was seen to start or not. A stop
needs a receiver on the velocity topic, cancels the navigation goals and sends a burst of zero
velocities; `ACCEPTED` follows when all of it went through. Every other command is ignored.

A handler runs through its stages in order; what each stage finds out (`ok`) is the environment's
answer, and any time may pass between two stages.
-/

namespace Firebot.Vehicle

open Bridge

/-! ## What the adapter computes -/

/-- `_expired`: a time that is missing, unreadable or without an offset is not expired. -/
def expired (c : Command) (now : Time) : Bool :=
  match c.expiresAt.getD .null with
  | .instant expires => expires ≤ now
  | _ => false

/-- `_pick_target`: the first waypoint whose kind is not `WAITING`, else the first. -/
def pickTarget (trajectory : List Waypoint) : Option Waypoint :=
  (trajectory.find? fun
    | .dict kind _ => kind ≠ .str "WAITING"
    | .other => false) <|> trajectory.head?

/-- `_to_pose`; `none` where it raises. -/
def toPose : Waypoint → Option Pose
  | .dict _ pose => pose
  | .other => none

/-- What `_start_navigation` does: publish a pose, return false, or raise. -/
inductive Start where
  | published (pose : Pose)
  | noTarget
  | raised
  deriving DecidableEq

/-- `_start_navigation`. -/
def startNavigation (c : Command) : Start :=
  match c.params.getD (.other .null) with
  | .other value => if value.truthy then .raised else .noTarget
  | .object trajectory =>
    match pickTarget trajectory with
    | none => .noTarget
    | some waypoint =>
      match toPose waypoint with
      | none => .raised
      | some pose => .published pose

/-- `_feedback`. -/
def report (c : Command) (state : FeedbackState) (reasonCode phase progress message : Json) :
    Feedback where
  commandId := c.id
  taskId := c.task
  state := some state
  reasonCode := reasonCode
  phase := phase
  progress := progress
  message := message

/-- A `REJECTED` feedback with its reason and message. -/
def reject (c : Command) (reasonCode message : Json) : Feedback :=
  report c .rejected reasonCode .null .null message

/-! ## The stages -/

/-- Where a handler stands. -/
inductive Stage where
  | checking
  | observing
  | findingReceiver
  | cancelling
  | braking
  deriving DecidableEq, Repr

/-- What the adapter does to the vehicle. -/
inductive Deed where
  | navigate (pose : Pose)
  | cancelGoals
  | zeroVelocity
  deriving DecidableEq

/-- What a stage leads to: the feedback it sends, what it does to the vehicle, and the next stage, if
there is one. -/
structure Move where
  feedback : Option Feedback
  deed : Option Deed
  next : Option Stage
  deriving DecidableEq

/-- The adapter takes a command from the topic. -/
def take (c : Command) (now : Time) : Move :=
  match c.kind with
  | some .patrol =>
    if expired c now then
      { feedback := some (reject c (.str "COMMAND_EXPIRED") .null), deed := none, next := none }
    else { feedback := none, deed := none, next := some .checking }
  | some .stopMotion =>
    if expired c now then
      { feedback := some (reject c (.str "COMMAND_EXPIRED") .null), deed := none, next := none }
    else { feedback := none, deed := none, next := some .findingReceiver }
  | _ => { feedback := none, deed := none, next := none }

/-- A handler ends with a rejection. -/
def refuse (c : Command) (message : String) : Move :=
  { feedback := some (reject c (.str "COMMAND_REJECTED") (.str message)), deed := none, next := none }

/-- A stage of a handler, with what it finds out. -/
def advance (c : Command) (stage : Stage) (ok : Bool) : Move :=
  match stage with
  | .checking =>
    if !ok then refuse c "NAV_EXECUTION_NOT_READY"
    else
      match startNavigation c with
      | .raised => { feedback := none, deed := none, next := none }
      | .noTarget =>
        { feedback := some (reject c (.str "NAV_START_FAILED") .null), deed := none, next := none }
      | .published pose =>
        { feedback := some (report c .accepted .null .null .null .null)
          deed := some (.navigate pose)
          next := some .observing }
  | .observing =>
    if ok then
      { feedback := some (report c .executing .null (.str "PATROLLING") (.int 0) .null)
        deed := none
        next := none }
    else
      { feedback := some (report c .failed (.str "COMMAND_REJECTED") .null .null
          (.str "NAV_START_NOT_CONFIRMED"))
        deed := none
        next := none }
  | .findingReceiver =>
    if ok then { feedback := none, deed := none, next := some .cancelling }
    else refuse c "CMD_VEL_NO_RECEIVER"
  | .cancelling =>
    if ok then { feedback := none, deed := some .cancelGoals, next := some .braking }
    else refuse c "CANCEL_GOALS_FAILED"
  | .braking =>
    -- a burst that fails may have sent some of its velocities
    if ok then
      { feedback := some (report c .accepted .null .null .null .null)
        deed := some .zeroVelocity
        next := none }
    else { refuse c "ZERO_VELOCITY_FAILED" with deed := some .zeroVelocity }

/-- A stage that reports, reports on the command it handles. -/
theorem advance_commandId {c : Command} {stage : Stage} {ok : Bool} {f : Feedback}
    (sent : (advance c stage ok).feedback = some f) : f.commandId = c.id := by
  unfold advance refuse at sent
  split at sent
  · split at sent
    · exact Option.some.inj sent ▸ rfl
    · split at sent
      · cases sent
      · exact Option.some.inj sent ▸ rfl
      · exact Option.some.inj sent ▸ rfl
  · split at sent <;> exact Option.some.inj sent ▸ rfl
  · split at sent
    · cases sent
    · exact Option.some.inj sent ▸ rfl
  · split at sent
    · cases sent
    · exact Option.some.inj sent ▸ rfl
  · split at sent <;> exact Option.some.inj sent ▸ rfl

theorem take_commandId {c : Command} {now : Time} {f : Feedback}
    (sent : (take c now).feedback = some f) : f.commandId = c.id := by
  unfold take at sent
  split at sent
  · split at sent
    · exact Option.some.inj sent ▸ rfl
    · cases sent
  · split at sent
    · exact Option.some.inj sent ▸ rfl
    · cases sent
  · cases sent

/-! ## What a move can be -/

/-- An expired command stays expired. -/
theorem expired_mono {c : Command} {now later : Time} (le : now ≤ later)
    (late : expired c now = true) : expired c later = true := by
  unfold expired at late ⊢
  split
  · next expires found =>
    simp only [found, decide_eq_true_eq] at late ⊢
    exact Int.le_trans late le
  · next found =>
    split at late
    · next expires instant => exact absurd instant (found expires)
    · exact late

/-- A command the adapter takes up is a patrol or a stop that has not expired, and nothing is
reported yet. -/
theorem take_next {c : Command} {now : Time} {s : Stage} (up : (take c now).next = some s) :
    (c.kind = some .patrol ∨ c.kind = some .stopMotion) ∧ expired c now = false ∧
      (take c now).feedback = none ∧ (s = .checking → c.kind = some .patrol) := by
  unfold take at up ⊢
  split at up
  · next kind =>
    split at up
    · cases up
    · next fresh =>
      rw [if_neg fresh]
      exact ⟨.inl kind, Bool.eq_false_iff.mpr fresh, rfl, fun _ => kind⟩
  · next kind =>
    split at up
    · cases up
    · next fresh =>
      rw [if_neg fresh]
      refine ⟨.inr kind, Bool.eq_false_iff.mpr fresh, rfl, ?_⟩
      rintro rfl
      cases up
  · cases up

theorem take_deed (c : Command) (now : Time) : (take c now).deed = none := by
  unfold take
  split
  · split <;> rfl
  · split <;> rfl
  · rfl

/-- A handler that goes on with more than watching has reported nothing. -/
theorem advance_next {c : Command} {stage s : Stage} {ok : Bool}
    (on : (advance c stage ok).next = some s) (acts : s ≠ .observing) :
    (advance c stage ok).feedback = none ∧ s ≠ .checking := by
  cases stage <;> cases ok
  case checking.true =>
    simp only [advance, Bool.not_true, Bool.false_eq_true, if_false] at on
    split at on
    · cases on
    · cases on
    · exact absurd (Option.some.inj on).symm acts
  case findingReceiver.true => exact ⟨rfl, by cases on; decide⟩
  case cancelling.true => exact ⟨rfl, by cases on; decide⟩
  all_goals cases on

/-- Navigation starts in the first stage of a patrol, with its acceptance. -/
theorem advance_navigate {c : Command} {stage : Stage} {ok : Bool} {pose : Pose}
    (drives : (advance c stage ok).deed = some (.navigate pose)) : stage = .checking ∧
      ∃ f, (advance c stage ok).feedback = some f ∧ f.state = some .accepted := by
  cases stage <;> cases ok
  case checking.true =>
    refine ⟨rfl, ?_⟩
    simp only [advance, Bool.not_true, Bool.false_eq_true, if_false] at drives ⊢
    split at drives
    · cases drives
    · cases drives
    · exact ⟨_, rfl, rfl⟩
  all_goals cases drives

/-- An adapter that watches reports execution or failure, and is done. -/
theorem advance_observing (c : Command) (ok : Bool) :
    (advance c .observing ok).next = none ∧ (advance c .observing ok).deed = none ∧
      ∀ f ∈ (advance c .observing ok).feedback,
        f.state = some .executing ∨ f.state = some .failed := by
  cases ok
  · refine ⟨rfl, rfl, fun f sent => .inr ?_⟩
    exact Option.some.inj sent ▸ rfl
  · refine ⟨rfl, rfl, fun f sent => .inl ?_⟩
    exact Option.some.inj sent ▸ rfl

end Firebot.Vehicle
