import Firebot.Worker.StopOperation

/-!
# The STOP state machine

Each operation of the table goes its own way through the ticks (`Reconciled`), except that a tick that raises is
undone for all of them. What the machine must keep is `Kept`: the confirmations are never taken back, full
confirmation is earned, a closed operation stays as it is. **It does so in every run, and an operation past all
its deadlines is closed exactly by a tick that gets through** (`stop_machine`).

A tick raises on a speed that `float()` cannot convert: the observation guards the time stamps of the
document but not its speeds (`Legible`).
-/

namespace Firebot.Worker

variable {F : Type}

namespace StopOperation

/-! ## The steps of the reconciliation -/

/-- The mission cancel truth touches the cancel state and the failure reason only. -/
theorem cancelTruth_eq (op : StopOperation F) (t : Tick F) : op.cancelTruth t =
    { op with missionCancelState := (op.cancelTruth t).missionCancelState
              failureReason := (op.cancelTruth t).failureReason } := by
  unfold cancelTruth
  split
  · split <;> rfl
  · rfl

section Fields

variable (op : StopOperation F) (t : Tick F) (now : Time) (state : OperationState)
  (motion : MotionState) (reason : Option FailureReason) (s : Sight)

@[simp] theorem cancelTruth_motion : (op.cancelTruth t).motionStopState = op.motionStopState := by
  rw [cancelTruth_eq]

@[simp] theorem cancelTruth_frames : (op.cancelTruth t).stationaryFrames = op.stationaryFrames := by
  rw [cancelTruth_eq]

@[simp] theorem cancelTruth_verifyDeadline :
    (op.cancelTruth t).stationaryVerifyDeadlineAt = op.stationaryVerifyDeadlineAt := by
  rw [cancelTruth_eq]

@[simp] theorem cancelTruth_ackConfirmed : (op.cancelTruth t).ackConfirmed t = op.ackConfirmed t := by
  rw [cancelTruth_eq]
  rfl

@[simp] theorem count_ackConfirmed : (op.count s).ackConfirmed t = op.ackConfirmed t := rfl

@[simp] theorem count_verifyDeadline :
    (op.count s).stationaryVerifyDeadlineAt = op.stationaryVerifyDeadlineAt := rfl

@[simp] theorem terminate_state : (op.terminate now state motion reason).1.state = state := rfl

end Fields

/-- The columns that are written once, when the operation is requested. -/
structure Same (op op' : StopOperation F) : Prop where
  robotId : op'.robotId = op.robotId
  taskId : op'.taskId = op.taskId
  cancelCommandId : op'.cancelCommandId = op.cancelCommandId
  stopCommandId : op'.stopCommandId = op.stopCommandId
  linearThreshold : op'.linearThreshold = op.linearThreshold
  angularThreshold : op'.angularThreshold = op.angularThreshold
  telemetryFreshnessMs : op'.telemetryFreshnessMs = op.telemetryFreshnessMs
  ackDeadline : op'.stopAckDeadlineAt = op.stopAckDeadlineAt
  cancelDeadline : op'.cancelDeadlineAt = op.cancelDeadlineAt
  verifyDeadline : op'.stationaryVerifyDeadlineAt = op.stationaryVerifyDeadlineAt

theorem Same.refl (op : StopOperation F) : Same op op := by constructor <;> rfl

theorem Same.trans {a b c : StopOperation F} (first : Same a b) (second : Same b c) : Same a c where
  robotId := second.robotId.trans first.robotId
  taskId := second.taskId.trans first.taskId
  cancelCommandId := second.cancelCommandId.trans first.cancelCommandId
  stopCommandId := second.stopCommandId.trans first.stopCommandId
  linearThreshold := second.linearThreshold.trans first.linearThreshold
  angularThreshold := second.angularThreshold.trans first.angularThreshold
  telemetryFreshnessMs := second.telemetryFreshnessMs.trans first.telemetryFreshnessMs
  ackDeadline := second.ackDeadline.trans first.ackDeadline
  cancelDeadline := second.cancelDeadline.trans first.cancelDeadline
  verifyDeadline := second.verifyDeadline.trans first.verifyDeadline

/-- The look at the cancellation writes none of the columns of the request. -/
theorem cancelTruth_same (op : StopOperation F) (t : Tick F) : Same op (op.cancelTruth t) := by
  rw [cancelTruth_eq]
  constructor <;> rfl

/-- Nor does counting a frame. -/
theorem count_same (op : StopOperation F) (s : Sight) : Same op (op.count s) := by
  constructor <;> rfl

/-- A cancel state that is not waited for stays as it is. -/
theorem cancelTruth_of_settled {op : StopOperation F} {t : Tick F}
    (settled : op.missionCancelState.waiting = false) : op.cancelTruth t = op := by
  simp only [cancelTruth, settled, Bool.false_eq_true, if_false]

/-- A cancellation that is still waited for after the truth was asked has time left. -/
theorem cancelTruth_waiting {op : StopOperation F} {t : Tick F}
    (waiting : (op.cancelTruth t).missionCancelState.waiting = true) :
    op.missionCancelState.waiting = true ∧ ∀ deadline ∈ op.cancelDeadlineAt, t.now < deadline := by
  cases before : op.missionCancelState.waiting with
  | false =>
    rw [cancelTruth_of_settled before, before] at waiting
    cases waiting
  | true =>
    simp only [cancelTruth, before, if_true] at waiting
    split at waiting
    · cases waiting
    · next time =>
      exact ⟨rfl, fun deadline due => Int.not_le.mp fun passed => time ⟨waiting, deadline, due, passed⟩⟩

/-- The ways an operation whose vehicle stands still goes on. -/
inductive Stopped (op : StopOperation F) (t : Tick F) : StopOperation F → Prop
  | confirmed (done : op.missionCancelState.done = true) (ack : op.ackConfirmed t = true) :
      Stopped op t (op.terminate t.now .vehicleStationaryConfirmed .stationaryConfirmed none).1
  | partly (reason : Option FailureReason) (settled : op.missionCancelState.waiting = false)
      (why : op.ackConfirmed t = true → op.missionCancelState.done = false) :
      Stopped op t (op.terminate t.now .partialUnconfirmed .stationaryConfirmed reason).1
  | pending (waiting : op.missionCancelState.waiting = true) :
      Stopped op t op.awaitCancel

/-- What `_stopped` leaves, in one of its three ways. -/
theorem stopped_spec (op : StopOperation F) (t : Tick F) : Stopped op t (op.stopped t).1 := by
  unfold stopped
  cases mission : op.missionCancelState with
  | notRequired =>
    cases ack : op.ackConfirmed t with
    | false => exact .partly _ (by rw [mission]; rfl) (fun yes => by cases ack.symm.trans yes)
    | true => exact .confirmed (by rw [mission]; rfl) ack
  | cancelledConfirmed =>
    cases ack : op.ackConfirmed t with
    | false => exact .partly _ (by rw [mission]; rfl) (fun yes => by cases ack.symm.trans yes)
    | true => exact .confirmed (by rw [mission]; rfl) ack
  | unavailable => exact .partly _ (by rw [mission]; rfl) (fun _ => by rw [mission]; rfl)
  | unconfirmed => exact .partly _ (by rw [mission]; rfl) (fun _ => by rw [mission]; rfl)
  | waitingAck => exact .pending (by rw [mission]; rfl)
  | ackAccepted => exact .pending (by rw [mission]; rfl)

/-- The ways an operation whose vehicle is not known to stand still goes on. -/
inductive Moving (op : StopOperation F) (t : Tick F) (fresh : Bool) : StopOperation F → Prop
  | stale (reason : Option FailureReason) (stale : fresh = false)
      (why : op.ackUnconfirmed t = true ∨ op.stationaryVerifyDeadlineAt ≤ t.now) :
      Moving op t fresh (op.terminate t.now .unconfirmed .unconfirmed reason).1
  | late (reason : Option FailureReason) (late : op.stationaryVerifyDeadlineAt ≤ t.now) :
      Moving op t fresh (op.terminate t.now .unconfirmed .unconfirmed reason).1
  | verifying (motion : MotionState) (unstopped : motion ≠ .stationaryConfirmed)
      (time : t.now < op.stationaryVerifyDeadlineAt)
      (hope : fresh = false → op.ackUnconfirmed t = false) :
      Moving op t fresh (op.keepVerifying motion)

/-- What a tick leaves of an operation whose vehicle is not known to stand. -/
theorem moving_spec (op : StopOperation F) (t : Tick F) (fresh : Bool) :
    Moving op t fresh (op.moving t fresh).1 := by
  unfold moving
  split
  · next lost =>
    simp only [Bool.and_eq_true, Bool.not_eq_true', Bool.or_eq_true, decide_eq_true_eq] at lost
    exact .stale _ lost.1 lost.2
  · next hope =>
    split
    · next late => exact .late _ late
    · next early =>
      have time : t.now < op.stationaryVerifyDeadlineAt := Int.not_le.mp early
      refine .verifying _ ?_ time ?_
      · split
        · decide
        · split <;> decide
      · intro stale
        simp only [stale, Bool.not_false, Bool.true_and, Bool.or_eq_true, decide_eq_true_eq,
          not_or] at hope
        exact Bool.eq_false_iff.mpr hope.1

variable [PyFloat F]

@[simp] theorem cancelTruth_sight (op : StopOperation F) (t : Tick F) :
    (op.cancelTruth t).sight t = op.sight t := by
  rw [cancelTruth_eq]
  rfl

/-- The ways one operation goes through a tick that gets through. -/
inductive Reconciled (op : StopOperation F) (t : Tick F) : StopOperation F → Prop
  | already {op' : StopOperation F} (before : op.motionStopState = .stationaryConfirmed)
      (stopped : Stopped (op.cancelTruth t) t op') : Reconciled op t op'
  | evident {op' : StopOperation F} (sight : Sight) (before : op.motionStopState ≠ .stationaryConfirmed)
      (seen : op.sight t = .ok sight) (enough : 5 ≤ (op.count sight).stationaryFrames)
      (stopped : Stopped ((op.cancelTruth t).count sight) t op') : Reconciled op t op'
  | uncertain {op' : StopOperation F} (sight : Sight)
      (before : op.motionStopState ≠ .stationaryConfirmed)
      (seen : op.sight t = .ok sight) (few : ¬ 5 ≤ (op.count sight).stationaryFrames)
      (moving : Moving ((op.cancelTruth t).count sight) t sight.fresh op') : Reconciled op t op'

omit [PyFloat F] in
/-- Counting does not see what became of the cancellation. -/
theorem count_cancelTruth_frames (op : StopOperation F) (t : Tick F) (s : Sight) :
    ((op.cancelTruth t).count s).stationaryFrames = (op.count s).stationaryFrames := by
  rw [cancelTruth_eq]
  rfl

/-- A tick that comes through has gone one of the ways of `Reconciled`. -/
theorem reconciled {op : StopOperation F} {t : Tick F} {op' : StopOperation F}
    {event : Option OperationEvent} (ok : op.reconcile t = .ok (op', event)) :
    Reconciled op t op' := by
  unfold reconcile at ok
  simp only [cancelTruth_motion] at ok
  split at ok
  · next before =>
    have spec := stopped_spec (op.cancelTruth t) t
    rw [Except.ok.inj ok] at spec
    exact .already before spec
  · next before =>
    rw [cancelTruth_sight] at ok
    cases seen : op.sight t with
    | error e => simp [seen, bind, Except.bind] at ok
    | ok sight =>
      simp only [seen, bind, Except.bind, pure, Except.pure, count_cancelTruth_frames] at ok
      split at ok
      · next enough =>
        have spec := stopped_spec ((op.cancelTruth t).count sight) t
        rw [Except.ok.inj ok] at spec
        exact .evident sight before seen enough spec
      · next few =>
        have spec := moving_spec ((op.cancelTruth t).count sight) t sight.fresh
        rw [Except.ok.inj ok] at spec
        exact .uncertain sight before seen few spec

/-- A tick gets through an operation exactly when it need not look at the vehicle or can read it. -/
theorem reconcile_ok_iff {op : StopOperation F} {t : Tick F} :
    (∃ result, op.reconcile t = .ok result) ↔
      op.motionStopState = .stationaryConfirmed ∨ ∃ sight, op.sight t = .ok sight := by
  unfold reconcile
  simp only [cancelTruth_motion, cancelTruth_sight]
  by_cases before : op.motionStopState = .stationaryConfirmed
  · simp [before]
  · cases seen : op.sight t with
    | error e => simp [before, bind, Except.bind]
    | ok sight =>
      simp only [before, if_false, bind, Except.bind, pure, Except.pure, false_or]
      refine iff_of_true ?_ ⟨sight, rfl⟩
      split <;> exact ⟨_, rfl⟩

/-- A tick comes through a row exactly if the document that it needs can be read. -/
theorem reconcileRow_ok_iff {t : Tick F} {op : StopOperation F} :
    (∃ result, reconcileRow t op = .ok result) ↔
      (op.state.terminal = false → op.motionStopState ≠ .stationaryConfirmed →
        ∃ sight, op.sight t = .ok sight) := by
  cases closed : op.state.terminal with
  | true => simp [reconcileRow, closed]
  | false =>
    simp only [reconcileRow, closed, Bool.false_eq_true, if_false, reconcile_ok_iff, forall_const,
      or_iff_not_imp_left, ne_eq]

/-- A closed operation stays as it is. -/
theorem tick_of_terminal {op : StopOperation F} (t : Tick F) (closed : op.state.terminal = true) :
    op.tick t = op := by
  simp only [tick, reconcileRow, closed, if_true]

/-- What becomes of an open operation in a tick: it is reconciled, or its speeds cannot be read and it
stays as it is. -/
theorem tick_of_open {op : StopOperation F} (t : Tick F) (opened : op.state.terminal = false) :
    Reconciled op t (op.tick t) ∨ (op.motionStopState ≠ .stationaryConfirmed ∧
      (∀ sight, op.sight t ≠ .ok sight) ∧ op.tick t = op) := by
  have row : reconcileRow t op = op.reconcile t := by
    simp only [reconcileRow, opened, Bool.false_eq_true, if_false]
  cases ok : op.reconcile t with
  | ok result =>
    refine .inl ?_
    simp only [tick, row, ok]
    exact reconciled ok
  | error e =>
    have raises := mt reconcile_ok_iff.mpr (by rw [ok]; rintro ⟨_, no⟩; cases no)
    rw [not_or, not_exists] at raises
    exact .inr ⟨raises.1, raises.2, by simp only [tick, row, ok]⟩

/-- A tick reconciles an open operation, or leaves the operation as it is. -/
theorem tick_cases (op : StopOperation F) (t : Tick F) :
    (op.state.terminal = false ∧ Reconciled op t (op.tick t)) ∨ op.tick t = op := by
  cases closed : op.state.terminal with
  | true => exact .inr (tick_of_terminal t closed)
  | false =>
    rcases tick_of_open t closed with through | ⟨_, _, stays⟩
    · exact .inl ⟨rfl, through⟩
    · exact .inr stays

/-! ## What a tick keeps of one operation -/

/-- What no tick may do to an operation: take a confirmation back, confirm it in full without the stop
command's acceptance, the cancellation and the standstill, or change it once it is closed. -/
structure Kept (before after : StopOperation F) (t : Tick F) : Prop where
  motion : before.motionStopState = .stationaryConfirmed →
    after.motionStopState = .stationaryConfirmed
  cancel : before.missionCancelState = .cancelledConfirmed →
    after.missionCancelState = .cancelledConfirmed
  earned : after.state = .vehicleStationaryConfirmed → before.state ≠ .vehicleStationaryConfirmed →
    before.ackConfirmed t = true ∧ after.missionCancelState.done = true ∧
      after.motionStopState = .stationaryConfirmed
  final : before.state.terminal = true → after = before

/-- Every deadline of the operation has passed. -/
def Overdue (op : StopOperation F) (now : Time) : Prop :=
  op.stopAckDeadlineAt ≤ now ∧ (∀ deadline ∈ op.cancelDeadlineAt, deadline ≤ now) ∧
    op.stationaryVerifyDeadlineAt ≤ now

instance (op : StopOperation F) (now : Time) : Decidable (op.Overdue now) :=
  inferInstanceAs (Decidable (_ ∧ _ ∧ _))

/-- A cancellation that is waited for has a deadline. -/
def Bounded (op : StopOperation F) : Prop :=
  op.missionCancelState.waiting = true → op.cancelDeadlineAt ≠ none

omit [PyFloat F] in
theorem Kept.refl (op : StopOperation F) (t : Tick F) : Kept op op t where
  motion := id
  cancel := id
  earned now before := absurd now before
  final _ := rfl

omit [PyFloat F] in
/-- An operation that is looked at as stopped is confirmed to stand. -/
theorem Stopped.motion {op op' : StopOperation F} {t : Tick F} (stopped : Stopped op t op') :
    op'.motionStopState = .stationaryConfirmed := by
  cases stopped <;> rfl

omit [PyFloat F] in
/-- The standstill changes nothing of the cancellation. -/
theorem Stopped.cancel {op op' : StopOperation F} {t : Tick F} (stopped : Stopped op t op') :
    op'.missionCancelState = op.missionCancelState := by
  cases stopped <;> rfl

omit [PyFloat F] in
/-- Nor does a vehicle that moves. -/
theorem Moving.cancel {op op' : StopOperation F} {t : Tick F} {fresh : Bool}
    (moving : Moving op t fresh op') : op'.missionCancelState = op.missionCancelState := by
  cases moving <;> rfl

omit [PyFloat F] in
/-- A full confirmation has the stop command's ACK and a mission that is cancelled. -/
theorem Stopped.earned {op op' : StopOperation F} {t : Tick F} (stopped : Stopped op t op')
    (full : op'.state = .vehicleStationaryConfirmed) :
    op.ackConfirmed t = true ∧ op.missionCancelState.done = true := by
  cases stopped with
  | confirmed done ack => exact ⟨ack, done⟩
  | partly => cases full
  | pending => cases full

omit [PyFloat F] in
/-- A vehicle that is not known to stand is never fully confirmed. -/
theorem Moving.not_confirmed {op op' : StopOperation F} {t : Tick F} {fresh : Bool}
    (moving : Moving op t fresh op') : op'.state ≠ .vehicleStationaryConfirmed := by
  cases moving <;> nofun

/-- The cancel state after a tick is what the cancel truth made of it. -/
theorem Reconciled.cancel {op op' : StopOperation F} {t : Tick F} (through : Reconciled op t op') :
    op'.missionCancelState = (op.cancelTruth t).missionCancelState := by
  cases through with
  | already before stopped => exact stopped.cancel
  | evident sight before seen enough stopped => exact stopped.cancel
  | uncertain sight before seen few moving => exact moving.cancel

/-- A tick keeps what an open operation has earned, and earns what it writes. -/
theorem Reconciled.kept {op op' : StopOperation F} {t : Tick F} (through : Reconciled op t op')
    (opened : op.state.terminal = false) : Kept op op' t where
  motion before := by
    cases through with
    | already _ stopped => exact stopped.motion
    | evident _ unconfirmed => exact absurd before unconfirmed
    | uncertain _ unconfirmed => exact absurd before unconfirmed
  cancel before := by
    rw [through.cancel, cancelTruth_of_settled (by rw [before]; rfl), before]
  earned full _ := by
    rw [through.cancel]
    cases through with
    | already _ stopped =>
      obtain ⟨ack, done⟩ := stopped.earned full
      exact ⟨by simpa only [cancelTruth_ackConfirmed] using ack, done, stopped.motion⟩
    | evident _ _ _ _ stopped =>
      obtain ⟨ack, done⟩ := stopped.earned full
      exact ⟨by simpa only [count_ackConfirmed, cancelTruth_ackConfirmed] using ack, done, stopped.motion⟩
    | uncertain _ _ _ _ moving => exact absurd full moving.not_confirmed
  final closed := Bool.noConfusion (opened.symm.trans closed)

/-- An operation past all its deadlines is closed by a tick that gets through. -/
theorem Reconciled.closes {op op' : StopOperation F} {t : Tick F} (through : Reconciled op t op')
    (bounded : op.Bounded) (overdue : op.Overdue t.now) : op'.state.terminal = true := by
  obtain ⟨_, cancel, verify⟩ := overdue
  have settled : (op.cancelTruth t).missionCancelState.waiting ≠ true := by
    intro waiting
    obtain ⟨before, time⟩ := cancelTruth_waiting waiting
    obtain ⟨deadline, due⟩ := Option.ne_none_iff_exists'.mp (bounded before)
    exact absurd (cancel deadline due) (Int.not_le.mpr (time deadline due))
  have closed {op₁ : StopOperation F} (stopped : Stopped op₁ t op')
      (same : op₁.missionCancelState = (op.cancelTruth t).missionCancelState) :
      op'.state.terminal = true := by
    cases stopped with
    | confirmed => rfl
    | partly => rfl
    | pending waiting => exact absurd (same ▸ waiting) settled
  cases through with
  | already before stopped => exact closed stopped rfl
  | evident sight before seen enough stopped => exact closed stopped rfl
  | uncertain sight before seen few moving =>
    cases moving with
    | stale => rfl
    | late => rfl
    | verifying motion unstopped time =>
      simp only [count_verifyDeadline, cancelTruth_verifyDeadline] at time
      exact absurd verify (Int.not_le.mpr time)

omit [PyFloat F] in
theorem Stopped.same {op op' : StopOperation F} {t : Tick F} (stopped : Stopped op t op') :
    Same op op' := by
  cases stopped <;> constructor <;> rfl

omit [PyFloat F] in
theorem Moving.same {op op' : StopOperation F} {t : Tick F} {fresh : Bool}
    (moving : Moving op t fresh op') : Same op op' := by
  cases moving <;> constructor <;> rfl

/-- No tick writes a column of the request. -/
theorem Reconciled.same {op op' : StopOperation F} {t : Tick F} (through : Reconciled op t op') :
    Same op op' := by
  cases through with
  | already before stopped => exact (cancelTruth_same op t).trans stopped.same
  | evident sight before seen enough stopped =>
    exact ((cancelTruth_same op t).trans (count_same _ sight)).trans stopped.same
  | uncertain sight before seen few moving =>
    exact ((cancelTruth_same op t).trans (count_same _ sight)).trans moving.same

/-- A tick keeps every waiting cancellation under a deadline. -/
theorem Bounded.tick {op : StopOperation F} (bounded : op.Bounded) (t : Tick F) :
    (op.tick t).Bounded := by
  rcases tick_cases op t with ⟨_, through⟩ | stays
  · intro waiting
    rw [through.cancel] at waiting
    rw [through.same.cancelDeadline]
    exact bounded (cancelTruth_waiting waiting).1
  · rwa [stays]

end StopOperation

/-! ## The table -/

/-- A tick without a task, with this answer to every command and this document. -/
def Tick.answered (now : Time) (ack : Option AckStatus) (latest : Latest F) : Tick F where
  now := now
  command _ := some { ackStatus := ack, lifecycleStatus := if ack.isSome then .ackAccepted else .published }
  task _ := none
  latest _ := latest

/-- A location of the vehicle with this speed. -/
def located (stamp : Time) (speed : Value F) : Latest F where
  serverReceivedAt := .aware stamp
  sourceTimestamp := .aware stamp
  linearX := .null
  linearY := .null
  planarSpeed := .null
  linear := speed
  angularZ := none
  angular := .int 0

namespace StopTable

open StopOperation

variable [PyFloat F]

/-- In a tick that gets through every row goes its own way. -/
theorem reconcileAll_rows {t : Tick F} {ops ops' : List (StopOperation F)}
    {events : List OperationEvent} (ok : reconcileAll t ops = .ok (ops', events)) :
    ops' = ops.map (·.tick t) := by
  induction ops generalizing ops' events with
  | nil =>
    cases ok
    rfl
  | cons first rest ih =>
    unfold reconcileAll at ok
    split at ok
    · cases ok
    · next first' event here =>
      split at ok
      · cases ok
      · next rest' events' others =>
        cases ok
        rw [List.map_cons, ← ih others, StopOperation.tick, here]

/-- A tick gets through exactly when it gets through every row. -/
theorem reconcileAll_ok_iff {t : Tick F} {ops : List (StopOperation F)} :
    (∃ result, reconcileAll t ops = .ok result) ↔
      ∀ op ∈ ops, ∃ result, reconcileRow t op = .ok result := by
  induction ops with
  | nil => exact iff_of_true ⟨_, rfl⟩ (List.forall_mem_nil _)
  | cons first rest ih =>
    rw [List.forall_mem_cons, ← ih]
    cases here : reconcileRow t first with
    | error e => simp only [reconcileAll, here, reduceCtorEq, exists_false, false_and]
    | ok result =>
      cases others : reconcileAll t rest with
      | error e => simp only [reconcileAll, here, others, reduceCtorEq, exists_false, and_false]
      | ok results =>
        simp only [reconcileAll, here, others, Except.ok.injEq, exists_eq', and_self]

/-- Every speed that the tick has to read converts: those of the open operations whose vehicle is not
known to stand still yet. -/
def Legible (table : StopTable F) (t : Tick F) : Prop :=
  ∀ op ∈ table.operations, op.state.terminal = false → op.motionStopState ≠ .stationaryConfirmed →
    (t.latest op.robotId).Readable t.now op.telemetryFreshnessMs op.linearThreshold
      op.angularThreshold

/-- A table can be read at a tick exactly if the tick comes through all rows. -/
theorem legible_iff {table : StopTable F} {t : Tick F} :
    table.Legible t ↔ ∃ result, reconcileAll t table.operations = .ok result := by
  simp only [reconcileAll_ok_iff, reconcileRow_ok_iff, Legible, StopOperation.sight,
    Latest.sight_ok_iff]

/-- In a tick that gets through every row of the table goes its own way. -/
theorem tick_of_legible {table : StopTable F} {t : Tick F} (legible : table.Legible t) :
    (table.tick t).operations = table.operations.map (·.tick t) := by
  obtain ⟨result, ok⟩ := legible_iff.mp legible
  simp only [tick, ok, reconcileAll_rows ok]

/-- A tick that raises changes no row. -/
theorem tick_of_not_legible {table : StopTable F} {t : Tick F} (raises : ¬ table.Legible t) :
    table.tick t = table := by
  unfold tick
  split
  · next ok => exact absurd (legible_iff.mpr ⟨_, ok⟩) raises
  · rfl

/-- Every row has the deadline it needs. -/
def Bounded (table : StopTable F) : Prop := ∀ op ∈ table.operations, op.Bounded

/-- Every event keeps the deadlines. -/
theorem bounded_step (table : StopTable F) (e : StopEvent F) (bounded : table.Bounded) :
    (table.step e).Bounded := by
  cases e with
  | request robotId stopCommandId mission ackNow cancelNow verifyNow =>
    intro op mem
    rcases List.mem_append.mp mem with before | new
    · exact bounded op before
    · rw [List.mem_singleton.mp new]
      cases mission with
      | idle => exact fun waiting => by cases waiting
      | cancelled => exact fun _ => nofun
      | unavailable => exact fun waiting => by cases waiting
  | tick t =>
    by_cases legible : table.Legible t
    · intro op' mem
      simp only [step, tick_of_legible legible] at mem
      obtain ⟨op, before, rfl⟩ := List.mem_map.mp mem
      exact (bounded op before).tick t
    · simp only [step, tick_of_not_legible legible]
      exact bounded

/-- What the machine owes each row in one event: a request leaves it alone, a tick keeps it, and a tick
past all its deadlines closes it. -/
def Obeys (table : StopTable F) (e : StopEvent F) : Prop :=
  ∀ (i : Nat) (op : StopOperation F), table.operations[i]? = some op →
    ∃ op', (table.step e).operations[i]? = some op' ∧
      match e with
      | .request .. => op' = op
      | .tick t => Kept op op' t ∧ (op.Overdue t.now → op'.state.terminal = true)

/-- A tick past all deadlines of an open operation meets no speed that `float()` cannot convert. -/
def GetsThrough (table : StopTable F) : StopEvent F → Prop
  | .request .. => True
  | .tick t => (∃ op ∈ table.operations, op.state.terminal = false ∧ op.Overdue t.now) →
      table.Legible t

/-- A request obeys: it closes nothing and confirms nothing. -/
theorem obeys_request (table : StopTable F) (robotId stopCommandId : String) (mission : Mission)
    (ackNow cancelNow verifyNow : Time) :
    table.Obeys (.request robotId stopCommandId mission ackNow cancelNow verifyNow) := by
  intro i op row
  obtain ⟨inside, _⟩ := List.getElem?_eq_some_iff.mp row
  exact ⟨op, (List.getElem?_append_left inside).trans row, rfl⟩

/-- A tick that gets through keeps every row and closes those past their deadlines. -/
theorem obeys_of_legible {table : StopTable F} {t : Tick F} (bounded : table.Bounded)
    (legible : table.Legible t) : table.Obeys (.tick t) := by
  intro i op row
  refine ⟨op.tick t, by rw [step, tick_of_legible legible, List.getElem?_map, row, Option.map_some], ?_⟩
  have mem := List.mem_of_getElem? row
  cases closed : op.state.terminal with
  | true =>
    rw [tick_of_terminal t closed]
    exact ⟨.refl op t, fun _ => closed⟩
  | false =>
    rcases tick_of_open t closed with through | ⟨unconfirmed, raises, _⟩
    · exact ⟨through.kept closed, through.closes (bounded op mem)⟩
    · obtain ⟨sight, seen⟩ := Latest.sight_ok_iff.mpr (legible op mem closed unconfirmed)
      exact absurd seen (raises sight)

/-- **In every run the machine keeps every operation, and closes those past their deadlines exactly
where the tick gets through.** -/
theorem stop_machine (events : List (StopEvent F)) (e : StopEvent F) :
    ((empty : StopTable F).run events).Obeys e ↔
      ((empty : StopTable F).run events).GetsThrough e := by
  have bounded : ((empty : StopTable F).run events).Bounded :=
    Runs.run_of_step bounded_step empty events (List.forall_mem_nil _)
  generalize (empty : StopTable F).run events = table at bounded ⊢
  cases e with
  | request =>
    exact iff_of_true (fun i op row => obeys_request table _ _ _ _ _ _ i op row) trivial
  | tick t =>
    by_cases legible : table.Legible t
    · exact iff_of_true (obeys_of_legible bounded legible) fun _ => legible
    · have stays := tick_of_not_legible legible
      refine ⟨?_, ?_⟩
      · rintro obeys ⟨op, mem, opened, overdue⟩
        obtain ⟨i, row⟩ := List.mem_iff_getElem?.mp mem
        obtain ⟨op', row', _, closes⟩ := obeys i op row
        simp only [step, stays] at row'
        cases Option.some.inj (row.symm.trans row')
        exact Bool.noConfusion (opened.symm.trans (closes overdue))
      · intro through i op row
        refine ⟨op, by simp only [step, stays, row], .refl op t, fun overdue => ?_⟩
        cases opened : op.state.terminal with
        | true => rfl
        | false =>
          exact absurd (through ⟨op, List.mem_of_getElem? row, opened, overdue⟩) legible

/-- A location whose speed is an integer beyond all floats keeps an operation open past its last
deadline. -/
theorem not_stop_machine_overflow :
    ¬ ((empty : StopTable ℚ).run [.request "R1" "S1" .idle 0 0 0]).Obeys
        (.tick (.answered (20 * second) (some .accepted)
          (located (20 * second) (.int (10 ^ 400))))) := by
  intro obeys
  obtain ⟨op', row', _, closes⟩ := obeys 0
    (stopCurrentOperation "R1" "S1" .idle 0 0 0) (by decide +kernel)
  have stays : op' = stopCurrentOperation "R1" "S1" .idle 0 0 0 :=
    Option.some.inj (row'.symm.trans (by decide +kernel))
  exact absurd (closes (by decide +kernel)) (by rw [stays]; decide)

end StopTable

end Firebot.Worker
