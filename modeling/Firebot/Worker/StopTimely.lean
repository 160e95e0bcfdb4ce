import Firebot.Worker.StopMachine

/-!
# Timely evidence and full confirmation

Three facts confirm a stop: the stop command's acceptance, the cancellation of the mission, and five
frames of standstill. Each has its deadline, and each may come first. `Seen` is what an observer of the
worker's ticks knows of the last two, kept apart from the operation; `Timely` says that all three are
seen in time.

The machine closes the operation on the first tick that knows of the standstill and the cancellation, whether or
not the acceptance has been seen; the acceptance may still have seconds left. And it gives up on a tick without
fresh telemetry when the stop command's lifecycle looks lost, though the acceptance may come. **Timely evidence
ends in full confirmation exactly outside these two cases** (`Unhurried`, `timely_confirms`). Nothing is said of
evidence that comes late.
-/

namespace Firebot.Worker

variable {F : Type}

namespace StopOperation

/-- The task has been cancelled. -/
def seesCancelled (op : StopOperation F) (t : Tick F) : Bool :=
  op.taskId.bind t.task = some .cancelled

/-- The cancel state of an operation that is still in time: done or waited for. -/
def Known (op : StopOperation F) : Prop :=
  op.missionCancelState.done = true ∨ op.missionCancelState.waiting = true

/-- A mission that is waited for is not done. -/
theorem done_of_waiting {mission : CancelState} (waiting : mission.waiting = true) :
    mission.done = false := by
  cases mission with
  | waitingAck | ackAccepted => rfl
  | notRequired | cancelledConfirmed | unconfirmed | unavailable => cases waiting

/-- A cancellation that is seen in time is known from then on. -/
theorem cancelTruth_in_time {op : StopOperation F} {t : Tick F} (known : op.Known)
    (time : ∀ deadline ∈ op.cancelDeadlineAt, deadline ≤ t.now →
      op.missionCancelState.done = true ∨ op.seesCancelled t = true) :
    (op.cancelTruth t).missionCancelState.done =
      (op.missionCancelState.done || op.seesCancelled t) ∧ (op.cancelTruth t).Known := by
  rcases known with done | waiting
  · have settled : op.missionCancelState.waiting = false := by
      by_contra waits
      exact Bool.noConfusion (done.symm.trans (done_of_waiting (Bool.eq_true_of_not_eq_false waits)))
    rw [cancelTruth_of_settled settled, done]
    exact ⟨rfl, .inl done⟩
  · have open_ := done_of_waiting waiting
    cases seen : op.seesCancelled t with
    | true =>
      have heard : op.cancelHeard t = .cancelledConfirmed := if_pos (of_decide_eq_true seen)
      have early : ¬ ((op.cancelHeard t).waiting = true ∧
          ∃ deadline ∈ op.cancelDeadlineAt, deadline ≤ t.now) := by
        rintro ⟨waits, _⟩
        rw [heard] at waits
        cases waits
      have now : (op.cancelTruth t).missionCancelState = .cancelledConfirmed := by
        rw [cancelTruth, if_pos waiting, if_neg early]
        exact heard
      exact ⟨by rw [now, Bool.or_true]; rfl, .inl (by rw [now]; rfl)⟩
    | false =>
      have heard : (op.cancelHeard t).waiting = true := by
        simp only [cancelHeard, if_neg (of_decide_eq_false seen)]
        split
        · rfl
        · exact waiting
      have early : ¬ ((op.cancelHeard t).waiting = true ∧
          ∃ deadline ∈ op.cancelDeadlineAt, deadline ≤ t.now) := by
        rintro ⟨_, deadline, due, passed⟩
        rcases time deadline due passed with done | sees
        · exact Bool.noConfusion (open_.symm.trans done)
        · exact Bool.noConfusion (seen.symm.trans sees)
      have now : (op.cancelTruth t).missionCancelState = op.cancelHeard t := by
        simp only [cancelTruth, waiting, if_true, if_neg early]
      refine ⟨?_, .inr (by rw [now, heard])⟩
      rw [now, done_of_waiting heard, open_]
      rfl

section Same

variable {op₀ op : StopOperation F} (same : Same op₀ op) (t : Tick F)
include same

theorem Same.ackConfirmed : op.ackConfirmed t = op₀.ackConfirmed t := by
  simp only [StopOperation.ackConfirmed, same.stopCommandId]

theorem Same.ackUnconfirmed : op.ackUnconfirmed t = op₀.ackUnconfirmed t := by
  simp only [StopOperation.ackUnconfirmed, same.ackConfirmed, same.stopCommandId, same.ackDeadline]

theorem Same.seesCancelled : op.seesCancelled t = op₀.seesCancelled t := by
  simp only [StopOperation.seesCancelled, same.taskId]

theorem Same.sight [PyFloat F] : op.sight t = op₀.sight t := by
  simp only [StopOperation.sight, same.robotId, same.telemetryFreshnessMs, same.linearThreshold,
    same.angularThreshold]

end Same

end StopOperation

namespace StopOperation

variable {op : StopOperation F} {t : Tick F}

/-- An acceptance that is in time can only be missed where the lifecycle looks lost. -/
theorem lost_of_unconfirmed (ack : op.stopAckDeadlineAt ≤ t.now → op.ackConfirmed t = true)
    (unconfirmed : op.ackUnconfirmed t = true) :
    ∃ stop ∈ t.command op.stopCommandId, stop.lifecycleStatus.lost = true := by
  simp only [ackUnconfirmed, Bool.or_eq_true, Bool.and_eq_true, decide_eq_true_eq,
    Bool.not_eq_true', Option.any_eq_true] at unconfirmed
  rcases unconfirmed with lost | ⟨passed, missing⟩
  · exact lost
  · exact Bool.noConfusion (missing.symm.trans (ack passed))

/-- The stop command is not lost as long as there is hope for it. -/
theorem not_lost_of_hope (hope : op.ackUnconfirmed t = false) {stop : CommandRow}
    (here : stop ∈ t.command op.stopCommandId) : stop.lifecycleStatus.lost = false := by
  cases lost : stop.lifecycleStatus.lost with
  | false => rfl
  | true =>
    have unconfirmed : op.ackUnconfirmed t = true := by
      rw [ackUnconfirmed, Option.mem_def.mp here, Option.any_some, lost, Bool.true_or]
    exact Bool.noConfusion (hope.symm.trans unconfirmed)

end StopOperation

/-! ## What the ticks have shown -/

/-- What the ticks have shown of the standstill and the cancellation. -/
structure Seen where
  frames : Nat
  token : Option Time
  evident : Bool
  cancelled : Bool
  deriving DecidableEq, Repr

/-- Both are complete. -/
def Seen.complete (s : Seen) : Bool := s.evident && s.cancelled

variable [PyFloat F]

namespace StopOperation

/-- Before the first tick nothing has been shown; an operation without a task needs no cancellation. -/
def unseen (op : StopOperation F) : Seen where
  frames := 0
  token := none
  evident := false
  cancelled := op.missionCancelState.done

/-- What one more tick shows. A document that cannot be read shows nothing, and neither does the tick;
after five frames in a row no more are needed. -/
def observe (op : StopOperation F) (s : Seen) (t : Tick F) : Seen :=
  if s.evident then { s with cancelled := s.cancelled || op.seesCancelled t }
  else
    match op.sight t with
    | .error _ => s
    | .ok sight =>
      let advanced :=
        advanceStationaryFrames sight.fresh sight.stationary sight.token s.token s.frames
      { frames := advanced.1
        token := advanced.2
        evident := 5 ≤ advanced.1
        cancelled := s.cancelled || op.seesCancelled t }

/-- A tick is in time: from the deadline of the acceptance on it sees the acceptance, from the deadline
of the cancellation on it sees it or has seen it, and a tick that has not seen five frames before comes
before the deadline of the verification. -/
def InTime (op : StopOperation F) (s : Seen) (t : Tick F) : Prop :=
  (op.stopAckDeadlineAt ≤ t.now → op.ackConfirmed t = true) ∧
  (∀ deadline ∈ op.cancelDeadlineAt, deadline ≤ t.now →
    s.cancelled = true ∨ op.seesCancelled t = true) ∧
  (s.evident = false → t.now < op.stationaryVerifyDeadlineAt)

/-- Every tick is in time, an acceptance that was seen stays, and by the last tick the standstill, the
cancellation and the acceptance have been seen. -/
structure Timely (op : StopOperation F) (ticks : List (Tick F)) : Prop where
  inTime : Runs.Meets op.observe op.InTime op.unseen ticks
  ackStays : ticks.Pairwise fun t t' => op.ackConfirmed t = true → op.ackConfirmed t' = true
  complete : (Runs.run op.observe op.unseen ticks).complete = true
  acked : ∃ t ∈ ticks, op.ackConfirmed t = true

/-- A tick after which standstill and cancellation are known has seen the acceptance, and a tick that
finds no fresh telemetry before the five frames does not find the stop command's lifecycle lost. -/
def Unhurried (op : StopOperation F) (s : Seen) (t : Tick F) : Prop :=
  ((op.observe s t).complete = true → op.ackConfirmed t = true) ∧
  (s.evident = false → ∀ sight ∈ (op.sight t).toOption, sight.fresh = false →
    ∀ stop ∈ t.command op.stopCommandId, stop.lifecycleStatus.lost = false)

instance (op : StopOperation F) (s : Seen) (t : Tick F) : Decidable (op.InTime s t) :=
  inferInstanceAs (Decidable (_ ∧ _ ∧ _))

instance (op : StopOperation F) (s : Seen) (t : Tick F) : Decidable (op.Unhurried s t) :=
  inferInstanceAs (Decidable (_ ∧ _))

/-- The sight of a tick, where it can be read. -/
theorem sight_of_mem {op : StopOperation F} {t : Tick F} {sight : Sight}
    (seen : sight ∈ (op.sight t).toOption) : op.sight t = .ok sight := by
  cases ok : op.sight t with
  | error e => rw [ok] at seen; cases seen
  | ok sight' => rw [ok] at seen; exact congrArg Except.ok (Option.some.inj seen)

/-! ## What the operation knows of it -/

/-- An open operation that is in time knows what the ticks have shown. -/
structure Standing (op₀ : StopOperation F) (s : Seen) (op : StopOperation F) : Prop where
  same : Same op₀ op
  opened : op.state.terminal = false
  motion : op.motionStopState = .stationaryConfirmed ↔ s.evident = true
  counter : s.evident = false →
    op.stationaryFrames = s.frames ∧ op.lastStationaryObservationAt = s.token
  mission : op.missionCancelState.done = s.cancelled
  known : op.Known

/-- The three ways a tick in time ends: the operation goes on and the evidence is not complete, it is
confirmed in full, or it is closed otherwise. -/
inductive Turn (op₀ : StopOperation F) (s : Seen) (t : Tick F) (op : StopOperation F) : Prop
  | goesOn (unhurried : op₀.Unhurried s t) (standing : Standing op₀ (op₀.observe s t) op)
      (more : (op₀.observe s t).complete = false) : Turn op₀ s t op
  | confirmed (full : op.state = .vehicleStationaryConfirmed)
      (complete : (op₀.observe s t).complete = true) (unhurried : op₀.Unhurried s t)
      (ack : op₀.ackConfirmed t = true) : Turn op₀ s t op
  | spoiled (closed : op.state.terminal = true) (partly : op.state ≠ .vehicleStationaryConfirmed)
      (hurried : ¬ op₀.Unhurried s t) : Turn op₀ s t op

/-- An operation that knows of the standstill is confirmed, closed or kept open by what it knows of the
cancellation and the acceptance. -/
theorem turn_of_stopped {op₀ op₁ op' : StopOperation F} {s : Seen} {t : Tick F} (same : Same op₀ op₁)
    (stopped : Stopped op₁ t op') (evident : (op₀.observe s t).evident = true)
    (mission : op₁.missionCancelState.done = (op₀.observe s t).cancelled) (known : op₁.Known)
    (quiet : s.evident = false → ∀ sight, op₀.sight t = .ok sight → sight.fresh = true) :
    Turn op₀ s t op' := by
  have unhurried (ack : (op₀.observe s t).complete = true → op₀.ackConfirmed t = true) :
      op₀.Unhurried s t :=
    ⟨ack, fun unseen sight seen stale =>
      Bool.noConfusion (stale.symm.trans (quiet unseen sight (sight_of_mem seen)))⟩
  cases stopped with
  | confirmed done ack =>
    rw [same.ackConfirmed] at ack
    have complete : (op₀.observe s t).complete = true := by
      simp only [Seen.complete, evident, ← mission, done, Bool.and_self]
    exact .confirmed rfl complete (unhurried fun _ => ack) ack
  | partly reason settled why =>
    have done : op₁.missionCancelState.done = true :=
      known.resolve_right fun waiting => Bool.noConfusion (settled.symm.trans waiting)
    refine .spoiled rfl (by simp [terminate_state]) fun calm => ?_
    have complete : (op₀.observe s t).complete = true := by
      simp only [Seen.complete, evident, ← mission, done, Bool.and_self]
    have ack := calm.1 complete
    rw [← same.ackConfirmed] at ack
    exact Bool.noConfusion (done.symm.trans (why ack))
  | pending waiting =>
    have open_ := done_of_waiting waiting
    have more : (op₀.observe s t).complete = false := by
      simp only [Seen.complete, ← mission, open_, Bool.and_false]
    refine .goesOn (unhurried fun complete => Bool.noConfusion (more.symm.trans complete)) ?_ more
    exact ⟨same.trans (by constructor <;> rfl), rfl, iff_of_true rfl evident,
      fun unseen => Bool.noConfusion (evident.symm.trans unseen), mission, known⟩

/-- Once the standstill is evident only the cancellation is looked at. -/
theorem observe_evident {op : StopOperation F} {s : Seen} (t : Tick F) (evident : s.evident = true) :
    op.observe s t = { s with cancelled := s.cancelled || op.seesCancelled t } := by
  simp only [observe, evident, if_true]

/-- A sight that cannot be read shows nothing. -/
theorem observe_unreadable {op : StopOperation F} {s : Seen} {t : Tick F} (unseen : s.evident = false)
    (raises : ∀ sight, op.sight t ≠ .ok sight) : op.observe s t = s := by
  cases seen : op.sight t with
  | error e => simp only [observe, unseen, seen, Bool.false_eq_true, if_false]
  | ok sight => exact absurd seen (raises sight)

/-- A sight advances the frames as the worker does. -/
theorem observe_seen {op : StopOperation F} {s : Seen} {t : Tick F} {sight : Sight}
    (unseen : s.evident = false) (seen : op.sight t = .ok sight) :
    (op.observe s t).frames = (advanceStationaryFrames sight.fresh sight.stationary sight.token s.token
        s.frames).1 ∧
      (op.observe s t).token = (advanceStationaryFrames sight.fresh sight.stationary sight.token
        s.token s.frames).2 ∧
      (op.observe s t).evident = decide (5 ≤ (op.observe s t).frames) ∧
      (op.observe s t).cancelled = (s.cancelled || op.seesCancelled t) := by
  simp only [observe, unseen, seen, Bool.false_eq_true, if_false, and_self]

/-- Five frames are not complete with an observation that is not fresh. -/
theorem fresh_of_five {sight : Sight} {last : Option Time} {frames : Nat} (enough : 5 ≤
    (advanceStationaryFrames sight.fresh sight.stationary sight.token last frames).1) :
    sight.fresh = true := by
  cases fresh : sight.fresh with
  | true => rfl
  | false =>
    simp only [advanceStationaryFrames, fresh, Bool.not_false, if_true] at enough
    cases enough

/-- The counter after an observation is the observer's. -/
theorem Standing.counted {op₀ op : StopOperation F} {s : Seen} {t : Tick F} {sight : Sight}
    (h : Standing op₀ s op) (unseen : s.evident = false) (seen : op₀.sight t = .ok sight) :
    ((op.cancelTruth t).count sight).stationaryFrames = (op₀.observe s t).frames ∧
      ((op.cancelTruth t).count sight).lastStationaryObservationAt = (op₀.observe s t).token := by
  obtain ⟨frames, token, _⟩ := observe_seen unseen seen
  obtain ⟨before, last⟩ := h.counter unseen
  rw [cancelTruth_eq, frames, token, ← before, ← last]
  exact ⟨rfl, rfl⟩

/-- An operation that does not know of the standstill goes on, unless it is past its time or has lost
hope. -/
theorem turn_of_moving {op₀ op₁ op' : StopOperation F} {s : Seen} {t : Tick F} {sight : Sight}
    (same : Same op₀ op₁) (moving : Moving op₁ t sight.fresh op') (unseen : s.evident = false)
    (seen : op₀.sight t = .ok sight) (more : (op₀.observe s t).evident = false)
    (counter : op₁.stationaryFrames = (op₀.observe s t).frames ∧
      op₁.lastStationaryObservationAt = (op₀.observe s t).token)
    (mission : op₁.missionCancelState.done = (op₀.observe s t).cancelled) (known : op₁.Known)
    (ack : op₀.stopAckDeadlineAt ≤ t.now → op₀.ackConfirmed t = true)
    (verify : t.now < op₀.stationaryVerifyDeadlineAt) : Turn op₀ s t op' := by
  have pending : (op₀.observe s t).complete = false := by
    rw [Seen.complete, more, Bool.false_and]
  cases moving with
  | stale reason stale why =>
    refine .spoiled rfl (by simp [terminate_state]) ?_
    intro calm
    rcases why with unconfirmed | late
    · rw [same.ackUnconfirmed] at unconfirmed
      obtain ⟨stop, here, lost⟩ := lost_of_unconfirmed ack unconfirmed
      have found : sight ∈ (op₀.sight t).toOption := by rw [seen]; rfl
      exact Bool.noConfusion ((calm.2 unseen sight found stale stop here).symm.trans lost)
    · exact absurd (same.verifyDeadline ▸ late) (Int.not_le.mpr verify)
  | late reason late => exact absurd (same.verifyDeadline ▸ late) (Int.not_le.mpr verify)
  | verifying motion unstopped time hope =>
    refine .goesOn ⟨fun complete => Bool.noConfusion (pending.symm.trans complete), ?_⟩ ?_ pending
    · intro _ sight' again stale stop here
      cases Except.ok.inj (seen.symm.trans (sight_of_mem again))
      have unlost := hope stale
      rw [same.ackUnconfirmed] at unlost
      exact not_lost_of_hope unlost here
    · exact ⟨same.trans (by constructor <;> rfl), rfl,
        iff_of_false unstopped (Bool.eq_false_iff.mp more), fun _ => counter, mission, known⟩

/-- A tick in time takes one of its three turns. -/
theorem Standing.turn {op₀ op : StopOperation F} {s : Seen} {t : Tick F} (h : Standing op₀ s op)
    (inTime : op₀.InTime s t) : Turn op₀ s t (op.tick t) := by
  obtain ⟨ack, cancel, verify⟩ := inTime
  have truth := cancelTruth_in_time (t := t) h.known fun deadline due passed => by
    rw [h.mission, h.same.seesCancelled]
    exact cancel deadline (h.same.cancelDeadline ▸ due) passed
  rw [h.mission, h.same.seesCancelled] at truth
  have same := h.same.trans (cancelTruth_same op t)
  rcases tick_of_open t h.opened with through | ⟨unconfirmed, raises, stays⟩
  · generalize op.tick t = op' at through ⊢
    cases through with
    | already before stopped =>
      have evident := h.motion.mp before
      have seen : op₀.observe s t = _ := observe_evident t evident
      refine turn_of_stopped same stopped ?_ ?_ truth.2 ?_
      · rw [seen]
        exact evident
      · rw [seen]
        exact truth.1
      · intro unseen
        exact Bool.noConfusion (evident.symm.trans unseen)
    | evident sight before seen enough stopped =>
      have unseen := Bool.eq_false_iff.mpr (mt h.motion.mpr before)
      rw [h.same.sight] at seen
      obtain ⟨_, _, evident, cancelled⟩ := observe_seen unseen seen
      have counter := h.counted unseen seen
      rw [count_cancelTruth_frames] at counter
      refine turn_of_stopped (same.trans (count_same _ sight)) stopped ?_ ?_ truth.2 ?_
      · rw [evident, ← counter.1]
        exact decide_eq_true enough
      · rw [cancelled]
        exact truth.1
      · intro _ other again
        rw [← Except.ok.inj (seen.symm.trans again)]
        exact fresh_of_five enough
    | uncertain sight before seen few moving =>
      have unseen := Bool.eq_false_iff.mpr (mt h.motion.mpr before)
      rw [h.same.sight] at seen
      obtain ⟨_, _, evident, cancelled⟩ := observe_seen unseen seen
      have counter := h.counted unseen seen
      refine turn_of_moving (same.trans (count_same _ sight)) moving unseen seen ?_ counter ?_ truth.2
        ack (verify unseen)
      · rw [evident, ← counter.1, count_cancelTruth_frames]
        exact decide_eq_false few
      · rw [cancelled]
        exact truth.1
  · have unseen := Bool.eq_false_iff.mpr (mt h.motion.mpr unconfirmed)
    rw [h.same.sight] at raises
    have same_seen := observe_unreadable unseen raises
    have more : (op₀.observe s t).complete = false := by
      rw [same_seen, Seen.complete, unseen, Bool.false_and]
    rw [stays]
    refine .goesOn ⟨fun complete => Bool.noConfusion (more.symm.trans complete), ?_⟩ ?_ more
    · exact fun _ sight seen => absurd (sight_of_mem seen) (raises sight)
    · rw [same_seen]
      exact h

/-! ## Every sequence of ticks -/

/-- A closed operation stays as it is. -/
theorem run_of_terminal {op : StopOperation F} (ticks : List (Tick F))
    (closed : op.state.terminal = true) : Runs.run tick op ticks = op :=
  Runs.run_of_step (I := fun op' => op' = op)
    (fun _ t here => by rw [here, tick_of_terminal t closed]) op ticks rfl

/-- Once both are complete they stay so. -/
theorem complete_observe {op : StopOperation F} {s : Seen} (t : Tick F) (complete : s.complete = true) :
    (op.observe s t).complete = true := by
  simp only [Seen.complete, Bool.and_eq_true] at complete ⊢
  rw [observe_evident t complete.1]
  exact ⟨complete.1, by rw [complete.2, Bool.true_or]⟩

/-- With everything seen and the acceptance seen at every tick, nothing is hurried any more. -/
theorem unhurried_of_complete {op : StopOperation F} {s : Seen} {ticks : List (Tick F)}
    (complete : s.complete = true) (acked : ∀ t ∈ ticks, op.ackConfirmed t = true) :
    Runs.Meets op.observe op.Unhurried s ticks := by
  induction ticks generalizing s with
  | nil => exact Runs.meets_nil s
  | cons t rest ih =>
    rw [List.forall_mem_cons] at acked
    refine ⟨⟨fun _ => acked.1, ?_⟩, ih (complete_observe t complete) acked.2⟩
    intro unseen
    simp only [Seen.complete, unseen, Bool.false_and, Bool.false_eq_true] at complete

/-- An operation that stands for what has been seen ends in full confirmation when all is seen in time. -/
theorem Standing.timely {op₀ op : StopOperation F} {s : Seen} {ticks : List (Tick F)}
    (h : Standing op₀ s op) (inTime : Runs.Meets op₀.observe op₀.InTime s ticks)
    (ackStays : ticks.Pairwise fun t t' => op₀.ackConfirmed t = true → op₀.ackConfirmed t' = true)
    (complete : (Runs.run op₀.observe s ticks).complete = true)
    (more : s.complete = false) :
    (Runs.run tick op ticks).state = .vehicleStationaryConfirmed ↔
      Runs.Meets op₀.observe op₀.Unhurried s ticks := by
  induction ticks generalizing s op with
  | nil => exact Bool.noConfusion (more.symm.trans complete)
  | cons t rest ih =>
    rw [Runs.run_cons, Runs.meets_cons]
    rw [List.pairwise_cons] at ackStays
    cases h.turn inTime.1 with
    | goesOn unhurried standing more =>
      rw [ih standing inTime.2 ackStays.2 complete more]
      exact (and_iff_right unhurried).symm
    | confirmed full complete unhurried ack =>
      rw [run_of_terminal rest (by rw [full]; rfl)]
      exact iff_of_true full ⟨unhurried,
        unhurried_of_complete complete fun t' mem => ackStays.1 t' mem ack⟩
    | spoiled closed partly hurried =>
      rw [run_of_terminal rest closed]
      exact iff_of_false partly fun met => hurried met.1

/-- The requested operation, before the first tick. -/
theorem Standing.requested (robotId stopCommandId : String) {mission : Mission}
    (available : ∀ taskId, mission ≠ .unavailable taskId) (ackNow cancelNow verifyNow : Time) :
    let op : StopOperation F :=
      stopCurrentOperation robotId stopCommandId mission ackNow cancelNow verifyNow
    Standing op op.unseen op where
  same := .refl _
  opened := rfl
  motion := iff_of_false nofun nofun
  counter _ := ⟨rfl, rfl⟩
  mission := rfl
  known := by
    cases mission with
    | idle => exact .inl rfl
    | cancelled => exact .inr rfl
    | unavailable taskId => exact absurd rfl (available taskId)

/-- **Timely evidence ends in full confirmation exactly when no tick is hurried.** -/
theorem timely_confirms (robotId stopCommandId : String) (mission : Mission)
    (available : ∀ taskId, mission ≠ .unavailable taskId) (ackNow cancelNow verifyNow : Time)
    (op : StopOperation F)
    (requested : op =
      stopCurrentOperation robotId stopCommandId mission ackNow cancelNow verifyNow)
    (ticks : List (Tick F)) (timely : op.Timely ticks) :
    (Runs.run tick op ticks).state = .vehicleStationaryConfirmed ↔
      Runs.Meets op.observe op.Unhurried op.unseen ticks := by
  subst requested
  have standing := Standing.requested (F := F) robotId stopCommandId available ackNow cancelNow verifyNow
  exact standing.timely timely.inTime timely.ackStays timely.complete rfl

/-- Five ticks, one a second, that see the vehicle stand still; the stop command has this answer. -/
def standingTicks (ack : Option AckStatus) : List (Tick ℚ) :=
  [0, 1, 2, 3, 4].map fun n => .answered (n * second) ack (located (n * second) (.int 0))

/-- A stop that is accepted at once and then verified. -/
theorem timely_confirms_accepted :
    (Runs.run tick (stopCurrentOperation "R1" "S1" .idle 0 0 0)
      (standingTicks (some .accepted))).state = .vehicleStationaryConfirmed :=
  (timely_confirms "R1" "S1" .idle (fun _ => nofun) 0 0 0 _ rfl (standingTicks (some .accepted))
    ⟨by decide +kernel, by decide +kernel, by decide +kernel, by decide +kernel⟩).mpr
    (by decide +kernel)

/-- The vehicle stands still within four seconds, and the acceptance is there within the fifth: the
operation has been closed as partly confirmed one second before. -/
theorem not_timely_confirms_late_acceptance :
    (stopCurrentOperation "R1" "S1" .idle 0 0 0).Timely (standingTicks none ++
        [.answered (5 * second) (some .accepted) (located (5 * second) (.int 0))]) ∧
      (Runs.run tick (stopCurrentOperation "R1" "S1" .idle 0 0 0) (standingTicks none ++
        [.answered (5 * second) (some .accepted) (located (5 * second) (.int 0))])).state =
          .partialUnconfirmed :=
  ⟨⟨by decide +kernel, by decide +kernel, by decide +kernel, by decide +kernel⟩, by decide +kernel⟩

end StopOperation

end Firebot.Worker
