import Mathlib.Data.List.Nodup
import Firebot.Bridge.RecordAge

/-!
# How often a command goes to the ROS child

A redelivery is caught by the table of processed commands, whose records live for `dedupTtl` after
their last update, or, for a task command, by the task lock. The lifetime of the command itself plays
no part: the validator only asks that `expires_at` lies in the future. So a command that lives longer
than its record is forwarded again.

`newCalls` is what a step adds to the log of calls; the log only grows (`run_calls`). **No id occurs in it
twice exactly when every delivery of a forwarded id comes within `dedupTtl` of the time at which its record
was written last, or under the task lock** (`publish_command_at_most_once`). Nothing is said of what the ROS
child does with a call.
-/

namespace Firebot.Bridge.Processor

/-- The ids `publish_command` has been called with, in order. -/
def calledIds (p : Processor) : List CommandId := p.calls.map (·.command.id)

/-- The calls of `publish_command` a step makes. -/
def newCalls (p : Processor) : Event → List RosCall
  | .deliver c delivered => if p.forwards c then [{ command := c, delivered }] else []
  | _ => []

@[simp] theorem onFeedback_calls (p : Processor) (f : Feedback) :
    (p.onFeedback f).calls = p.calls := by
  cases here : p.pending f.commandId with
  | none => rw [onFeedback_unknown here]
  | some entry =>
    rw [onFeedback_pending here]
    have taken := fed p entry f
    generalize p.applyFeedback entry f = q at taken ⊢
    cases taken <;> simp [settled, acceptedAck, ack_calls, reportTask_calls, markAcked_calls, finalize_calls]

@[simp] theorem fire_calls (p : Processor) (handle : Nat) : (p.fire handle).calls = p.calls := by
  have fires := fired p handle
  generalize p.fire handle = q at fires ⊢
  cases fires <;> simp [timedOut, cancelTimer_calls, ack_calls, finalize_calls]

@[simp] theorem registerPending_calls (p : Processor) (c : Command) :
    (p.registerPending c).calls = p.calls := by
  rw [registerPending_eq]
  split
  · rw [onFeedback_calls]
    rfl
  · rfl

/-- The first half of a delivery calls `publish_command` exactly when the command is forwarded. -/
theorem beginCommand_calls (p : Processor) (c : Command) (delivered : Bool) :
    (p.beginCommand c delivered).1.calls = p.calls ++ p.newCalls (.deliver c delivered) := by
  have kept {q : Processor} (none_sent : ¬ p.forwards c) (same : q.calls = p.calls) :
      q.calls = p.calls ++ p.newCalls (.deliver c delivered) := by
    simp only [newCalls, if_neg none_sent, List.append_nil, same]
  have grown {q : Processor} (sent : p.forwards c)
      (more : q.calls = p.calls ++ [{ command := c, delivered }]) :
      q.calls = p.calls ++ p.newCalls (.deliver c delivered) := by
    simp only [newCalls, if_pos sent, more]
  have cases_of := begun p c delivered
  generalize p.beginCommand c delivered = q at cases_of ⊢
  cases cases_of with
  | raised e verdict => exact kept (fun sent => by cases verdict.symm.trans sent.1) rfl
  | refused reason verdict => exact kept (fun sent => by cases verdict.symm.trans sent.1) rfl
  | replayed record verdict found =>
    exact kept (fun sent => by cases found.symm.trans sent.2.1) (by rw [replay_eq])
  | conflict verdict fresh held => exact kept (fun sent => sent.2.2 held) rfl
  | undelivered verdict fresh free lost =>
    exact grown ⟨verdict, fresh, free⟩ (by simp [called, registered, lost])
  | written verdict fresh free got =>
    exact grown ⟨verdict, fresh, free⟩ (by simp [called, registered, got])

/-- A delivery calls `publish_command` exactly when it is forwarded. -/
theorem onCommand_calls (p : Processor) (c : Command) (delivered : Bool) :
    (p.onCommand c delivered).calls = p.calls ++ p.newCalls (.deliver c delivered) := by
  rw [← beginCommand_calls]
  cases began : p.beginCommand c delivered with
  | mk q more =>
    cases more with
    | false => rw [onCommand_of_done began]
    | true => rw [onCommand_of_written began, registerPending_calls]

/-- A step appends its calls to the log. -/
theorem step_calls (p : Processor) (e : Event) : (p.step e).calls = p.calls ++ p.newCalls e := by
  cases e with
  | deliver c delivered => exact onCommand_calls p c delivered
  | feedback f => simp only [step, onFeedback_calls, newCalls, List.append_nil]
  | timeout handle => simp only [step, fire_calls, newCalls, List.append_nil]
  | advance | applyStatus | setLocation | clearRosTelemetry =>
    simp only [step, advance, telemetry, newCalls, List.append_nil]

/-- The log only grows along a run. -/
theorem run_calls (p : Processor) (events : List Event) : p.calls <+: (p.run events).calls :=
  Runs.run_of_step (I := fun q => p.calls <+: q.calls)
    (fun q e grown => grown.trans (step_calls q e ▸ List.prefix_append ..)) p events
    (List.prefix_refl _)

/-- One step keeps the ids apart exactly when it forwards none again. -/
theorem step_nodup {p : Processor} (e : Event) (distinct : p.calledIds.Nodup) :
    (p.step e).calledIds.Nodup ↔ ∀ call ∈ p.newCalls e, call.command.id ∉ p.calledIds := by
  rw [calledIds, step_calls, List.map_append]
  cases e with
  | deliver c delivered =>
    by_cases sent : p.forwards c
    · simp only [newCalls, if_pos sent, List.map_cons, List.map_nil, List.forall_mem_singleton]
      rw [← List.concat_eq_append, List.nodup_concat]
      exact and_iff_left distinct
    · simp only [newCalls, if_neg sent, List.map_nil, List.append_nil]
      exact iff_of_true distinct (List.forall_mem_nil _)
  | feedback | timeout | advance | applyStatus | setLocation | clearRosTelemetry =>
    simp only [newCalls, List.map_nil, List.append_nil]
    exact iff_of_true distinct (List.forall_mem_nil _)

namespace Aged

variable {a : Aged}

/-- A delivery of a forwarded command that passes validation is caught: it comes within `dedupTtl` of the time
at which the record was written last, or it is a task command and the task lock is held. -/
def Caught (a : Aged) : Event → Prop
  | .deliver c _ => a.processor.verdict c = .ok none → c.id ∈ a.processor.calledIds →
      (∃ time, a.written c.id = some time ∧ a.processor.now - time ≤ dedupTtl) ∨ a.processor.conflicts c
  | _ => True

/-- Every command that was forwarded had its record written. -/
def Noted (a : Aged) : Prop := ∀ id ∈ a.processor.calledIds, ∃ time, a.written id = some time

theorem Noted.step (noted : a.Noted) (e : Event) : (a.step e).Noted := by
  intro id mem
  have calls : id ∈ ((a.processor.step e).calls).map (·.command.id) := mem
  rw [step_calls, List.map_append] at calls
  by_cases now : ((a.processor.step e).state.processed id).any fun r => r.ts = (a.processor.step e).now
  · exact ⟨_, if_pos now⟩
  · rcases List.mem_append.mp calls with before | called
    · obtain ⟨time, written⟩ := noted id before
      exact ⟨time, (if_neg now).trans written⟩
    · cases e with
      | deliver c delivered =>
        by_cases sent : a.processor.forwards c
        · simp only [newCalls, if_pos sent, List.map_cons, List.map_nil, List.mem_singleton] at called
          obtain ⟨r, found, time⟩ := Tended.of_forwards sent delivered
          subst called
          refine absurd ?_ now
          show Option.any _ ((a.processor.onCommand c delivered).state.processed c.id) = true
          rw [found]
          exact decide_eq_true time
        · simp only [newCalls, if_neg sent, List.map_nil, List.not_mem_nil] at called
      | feedback | timeout | advance | applyStatus | setLocation | clearRosTelemetry => cases called

/-- Being caught is not being forwarded a second time. -/
theorem caught_iff (dated : a.Dated) (noted : a.Noted) (e : Event) :
    a.Caught e ↔ ∀ call ∈ a.processor.newCalls e, call.command.id ∉ a.processor.calledIds := by
  cases e with
  | deliver c delivered =>
    have found_iff : c.id ∈ a.processor.calledIds →
        ((∃ time, a.written c.id = some time ∧ a.processor.now - time ≤ dedupTtl) ↔
          a.processor.record? c.id ≠ none) := by
      intro mem
      obtain ⟨time, written⟩ := noted c.id mem
      rw [dated.record_found_iff written]
      simp [written]
    have again : (∀ call ∈ a.processor.newCalls (.deliver c delivered), call.command.id ∉ a.processor.calledIds) ↔
        ¬ (a.processor.forwards c ∧ c.id ∈ a.processor.calledIds) := by
      by_cases sent : a.processor.forwards c <;> simp [newCalls, sent]
    rw [again]
    show (a.processor.verdict c = .ok none → c.id ∈ a.processor.calledIds →
      (∃ time, a.written c.id = some time ∧ a.processor.now - time ≤ dedupTtl) ∨ a.processor.conflicts c) ↔ _
    unfold forwards
    by_cases mem : c.id ∈ a.processor.calledIds
    · rw [found_iff mem]
      tauto
    · tauto
  | feedback | timeout | advance | applyStatus | setLocation | clearRosTelemetry =>
    exact iff_of_true trivial (List.forall_mem_nil _)

/-- The ids stay apart along a run exactly when every delivery is caught. -/
theorem run_nodup (dated : a.Dated) (noted : a.Noted) (events : List Event)
    (distinct : a.processor.calledIds.Nodup) :
    (a.processor.run events).calledIds.Nodup ↔ Runs.Meets step Caught a events := by
  induction events generalizing a with
  | nil => exact iff_of_true distinct trivial
  | cons e events ih =>
    rw [run, Runs.run_cons, Runs.meets_cons, caught_iff dated noted, ← step_nodup e distinct]
    have next := ih (dated.step e) (noted.step e)
    constructor
    · intro apart
      have before : (a.processor.step e).calledIds.Nodup :=
        apart.sublist ((run_calls (a.processor.step e) events).sublist.map _)
      exact ⟨before, (next before).mp apart⟩
    · exact fun ⟨before, met⟩ => (next before).mpr met

end Aged

/-- **`publish_command` is called at most once for each `command_id` exactly in the runs in which
every redelivery of a forwarded command is caught.** -/
theorem publish_command_at_most_once (config : Config) (vehicleId bootId : String) (start : Time)
    (events : List Event) :
    ((initial config vehicleId bootId start).run events).calledIds.Nodup ↔
      Runs.Meets Aged.step Aged.Caught (.initial config vehicleId bootId start) events :=
  Aged.run_nodup (.initial config vehicleId bootId start) (fun _ mem => by cases mem) events List.nodup_nil

/-- A patrol that is driven to its end is driven again when it is redelivered five minutes later,
before its `expires_at`. -/
theorem not_at_most_once_expired_record :
    ¬ (vehicle.run [.deliver (patrol "P") true, .feedback (answer "P" .accepted),
      .feedback (answer "P" .completed), .advance 300000001,
      .deliver (patrol "P") true]).calledIds.Nodup := by
  decide

end Firebot.Bridge.Processor
