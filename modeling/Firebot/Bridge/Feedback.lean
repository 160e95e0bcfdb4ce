import Firebot.Bridge.Run

/-!
# Feedback between the write and the registration

`on_command` writes the command to the ROS child first and enters it as pending afterwards; the
reader thread may bring the answer in between. `Split` runs the two halves as separate steps of the
MQTT thread: `write` leaves a delivered command in flight, `register` enters it. All other handlers
may run in the gap.

The history of a run is kept beside the processor: `waiting` holds the command written last under each
id until it is finalized, `heard` whether ROS has answered it since.

A feedback that meets the command in flight is dropped as unknown, and the feedback timer, started
later, rejects a command that ROS has accepted. Outside the gap nothing is lost (`no_lost_feedback`).
-/

namespace Firebot.Bridge

/-! ## What a feedback does to the entry it finds -/

namespace Processor

/-- A feedback finalizes the entry of its command, or leaves its command and marks it when it is an
acceptance. -/
theorem applyFeedback_pending {p : Processor} {f : Feedback} {entry : Pending}
    (here : p.pending f.commandId = some entry) :
    (p.applyFeedback entry f).pending f.commandId =
      if closedBy entry f then none
      else some { entry with acked := entry.acked || decide (f.state = some .accepted) } := by
  have taken := fed p entry f
  generalize p.applyFeedback entry f = q at taken ⊢
  unfold closedBy
  cases taken with
  | acceptedTask state task => simp [state, task, acceptedAck]
  | accepted state plain => simp [state, plain]
  | rejected state => simp [state]
  | executing state task => simp [state, here]
  | terminal status phase progress state task =>
    simp only [List.mem_cons, List.not_mem_nil, or_false] at state
    rcases state with state | state | state <;> simp [state, task, settled]
  | ignored state why =>
    simp only [List.mem_cons, List.not_mem_nil, or_false, not_or] at state
    cases known : f.state with
    | none => simp [here]
    | some s =>
      have plain : entry.command.isTask = false :=
        why.resolve_left fun unknown => Option.some_ne_none s (known.symm.trans unknown)
      cases s with
      | accepted => exact absurd known state.1
      | rejected => exact absurd known state.2
      | executing => simp [here]
      | completed => simp [here, plain]
      | failed => simp [here, plain]
      | cancelled => simp [here, plain]

/-- A fired timer finalizes the command it rejects and leaves every entry else. -/
theorem fire_pending (p : Processor) (handle : Nat) (id : CommandId) :
    (p.fire handle).pending id = if p.timesOut handle = some id then none else p.pending id := by
  have fires := fired p handle
  generalize p.fire handle = q at fires ⊢
  cases fires with
  | idle quiet => simp only [timesOut_of_idle quiet, reduceCtorEq, if_false]
  | answered timer armed done =>
    simp only [timesOut_of_answered armed done, reduceCtorEq, if_false, cancelTimer_pending]
  | rejected timer entry armed waiting unacked =>
    simp only [timesOut_of_waiting armed waiting unacked, Option.some.injEq, timedOut,
      finalize_pending, ack_pending, releaseIfNeeded_pending, cancelTimer_pending]
    by_cases at_id : timer.commandId = id
    · rw [if_pos at_id, at_id, Function.update_self]
    · rw [if_neg at_id, Function.update_of_ne (Ne.symm at_id)]

/-- The first half of `on_command` leaves the pending table alone. -/
theorem beginCommand_pending (p : Processor) (c : Command) (delivered : Bool) :
    (p.beginCommand c delivered).1.pending = p.pending := by
  have cases_of := begun p c delivered
  generalize p.beginCommand c delivered = q at cases_of ⊢
  cases cases_of <;> simp [called, registered, replay_eq]

/-- Registering a command leaves the other entries. -/
theorem registerPending_pending_ne {p : Processor} {c : Command} {id : CommandId}
    (other : id ≠ c.id) : (p.registerPending c).pending id = p.pending id := by
  rw [registerPending_eq]
  split
  · rw [onFeedback_pending_ne (f := stubFeedback _ c) other, entered_pending_ne _ _ other]
  · exact entered_pending_ne _ _ other

/-- The registered command is pending, unless the simulated feedback has finalized it. -/
theorem registerPending_pending_self (p : Processor) (c : Command) :
    (p.registerPending c).pending c.id = none ∨
      ∃ entry ∈ (p.registerPending c).pending c.id, entry.command = c := by
  rw [registerPending_eq]
  split
  · have here : (p.entered c).pending (p.stubFeedback c).commandId =
        some { command := c, timer := p.timersStarted, acked := false } := entered_pending_self p c
    rw [onFeedback_pending here]
    have after := applyFeedback_pending here
    split at after
    · exact .inl after
    · exact .inr ⟨_, after, rfl⟩
  · exact .inr ⟨_, entered_pending_self p c, rfl⟩

end Processor

/-! ## The two halves of `on_command` as separate steps -/

/-- What can happen beside the MQTT thread's two steps. -/
inductive SplitEvent where
  | write (command : Command) (delivered : Bool)
  | register
  | feedback (feedback : Feedback)
  | timeout (handle : Nat)
  | advance (elapsed : Nat)
  | applyStatus (fields : StatusFields)
  | setLocation (value : Option Location)
  | clearRosTelemetry

/-- A processor whose MQTT thread may stand between the write and the registration, with the history
of its commands. -/
structure Split where
  proc : Processor
  inFlight : Option Command
  waiting : CommandId → Option Command
  heard : CommandId → Bool

namespace Split

/-- A split processor as it starts. -/
def initial (config : Config) (vehicleId bootId : String) (start : Time) : Split where
  proc := .initial config vehicleId bootId start
  inFlight := none
  waiting := fun _ => none
  heard := fun _ => false

/-- The command is in flight under this id. -/
def flies (s : Split) (id : CommandId) : Prop := ∃ c ∈ s.inFlight, c.id = id

instance (s : Split) (id : CommandId) : Decidable (s.flies id) :=
  inferInstanceAs (Decidable (∃ c ∈ s.inFlight, _))

/-- The pending entry of an id was finalized; the command in flight was not. -/
def close (s : Split) (id : CommandId) : CommandId → Option Command :=
  if s.flies id then s.waiting else Function.update s.waiting id none

/-- The two states ROS answers a command with. -/
def answers (f : Feedback) : Bool := f.state = some .accepted || f.state = some .rejected

/-- One event. The MQTT thread takes the next command when it has registered the last. -/
def step (s : Split) : SplitEvent → Split
  | .write c delivered =>
    if s.inFlight.isSome then s
    else
      match s.proc.beginCommand c delivered with
      | (p, false) => { s with proc := p }
      | (p, true) =>
        { proc := p
          inFlight := some c
          waiting := Function.update s.waiting c.id (some c)
          heard := Function.update s.heard c.id false }
  | .register =>
    match s.inFlight with
    | none => s
    | some c =>
      let p := s.proc.registerPending c
      { s with proc := p
               inFlight := none
               -- in stub mode the simulated feedback may have finalized the command already
               waiting := if p.pending c.id = none then Function.update s.waiting c.id none else s.waiting }
  | .feedback f =>
    { s with proc := s.proc.onFeedback f
             waiting :=
               if s.proc.closes f then s.close f.commandId else s.waiting
             heard :=
               if answers f then Function.update s.heard f.commandId true else s.heard }
  | .timeout handle =>
    { s with proc := s.proc.fire handle
             waiting := match s.proc.timesOut handle with
               | some id => s.close id
               | none => s.waiting }
  | .advance elapsed => { s with proc := s.proc.advance elapsed }
  | .applyStatus fields => { s with proc := s.proc.telemetry (·.applyStatus fields) }
  | .setLocation value => { s with proc := s.proc.telemetry (·.setLocation value s.proc.now) }
  | .clearRosTelemetry => { s with proc := s.proc.telemetry (·.clearRosTelemetry) }

/-- The split processor after a list of events. -/
abbrev run (s : Split) (events : List SplitEvent) : Split := Runs.run step s events

/-- No feedback of a known state meets its command in flight. -/
def Registered (s : Split) : SplitEvent → Prop
  | .feedback f => f.state ≠ none → ¬ s.flies f.commandId
  | _ => True

instance (s : Split) : (e : SplitEvent) → Decidable (s.Registered e)
  | .feedback f => inferInstanceAs (Decidable (f.state ≠ none → ¬ s.flies f.commandId))
  | .write .. | .register | .timeout _ | .advance _ | .applyStatus _ | .setLocation _
  | .clearRosTelemetry => isTrue trivial

/-! ## What the history says of the pending table -/

/-- An open command is in flight or pending, and an unmarked entry has had no answer. -/
structure Tracked (s : Split) : Prop where
  named : ∀ id, ∀ c ∈ s.waiting id, c.id = id
  flying : ∀ c ∈ s.inFlight, s.waiting c.id = some c ∧ s.heard c.id = false
  present : ∀ id, ∀ c ∈ s.waiting id, c ∈ s.inFlight ∨ ∃ entry ∈ s.proc.pending id, entry.command = c
  unheard : ∀ id, ∀ entry ∈ s.proc.pending id, entry.acked = false → s.heard id = false

/-- Nothing has been written. -/
theorem Tracked.initial (config : Config) (vehicleId bootId : String) (start : Time) :
    (Split.initial config vehicleId bootId start).Tracked where
  named _ _ found := by cases found
  flying _ found := by cases found
  present _ _ found := by cases found
  unheard _ _ found := by cases found

/-- What is left open after a close was open before, and is in flight when it has the closed id. -/
theorem mem_close {s : Split} {id k : CommandId} {c : Command} (h : s.Tracked)
    (left : c ∈ s.close id k) : c ∈ s.waiting k ∧ (k = id → c ∈ s.inFlight) := by
  unfold close at left
  split at left
  · next flies =>
    refine ⟨left, ?_⟩
    rintro rfl
    obtain ⟨c', flying, at_id⟩ := flies
    have same : c' = c := by
      have opened := (h.flying c' flying).1
      rw [at_id] at opened
      exact Option.some.inj (opened.symm.trans left)
    exact same ▸ flying
  · by_cases at_id : k = id
    · subst at_id
      rw [Function.update_self] at left
      cases left
    · rw [Function.update_of_ne at_id] at left
      exact ⟨left, fun same => absurd same at_id⟩

/-- A close leaves the command in flight open. -/
theorem close_of_flying {s : Split} {id : CommandId} {c : Command} (flying : c ∈ s.inFlight) :
    s.close id c.id = s.waiting c.id := by
  unfold close
  split
  · rfl
  · next lands => exact Function.update_of_ne (fun same => lands ⟨c, flying, same⟩) ..

/-- The MQTT thread writes one command at a time. -/
theorem step_write_busy {s : Split} {c : Command} {delivered : Bool}
    (busy : s.inFlight.isSome = true) : s.step (.write c delivered) = s := if_pos busy

/-- A command that is answered at once is not registered. -/
theorem step_write_done {s : Split} {c : Command} {delivered : Bool} {p : Processor}
    (idle : s.inFlight = none) (began : s.proc.beginCommand c delivered = (p, false)) :
    s.step (.write c delivered) = { s with proc := p } := by
  simp only [step, idle, began, Option.isSome_none, Bool.false_eq_true, if_false]

/-- A command that is written is in flight until it is registered. -/
theorem step_write_written {s : Split} {c : Command} {delivered : Bool} {p : Processor}
    (idle : s.inFlight = none) (began : s.proc.beginCommand c delivered = (p, true)) :
    s.step (.write c delivered) =
      { proc := p
        inFlight := some c
        waiting := Function.update s.waiting c.id (some c)
        heard := Function.update s.heard c.id false } := by
  simp only [step, idle, began, Option.isSome_none, Bool.false_eq_true, if_false]

/-- What a write does to the processor is `on_command` up to it. -/
theorem step_write_proc {s : Split} {c : Command} {delivered : Bool} (idle : s.inFlight = none) :
    (s.step (.write c delivered)).proc = (s.proc.beginCommand c delivered).1 := by
  cases began : s.proc.beginCommand c delivered with
  | mk p more =>
    cases more with
    | false => rw [step_write_done idle began]
    | true => rw [step_write_written idle began]

/-- The write. -/
theorem Tracked.write {s : Split} (h : s.Tracked) (c : Command) (delivered : Bool) :
    (s.step (.write c delivered)).Tracked := by
  cases idle : s.inFlight with
  | some other =>
    rw [step_write_busy (by rw [idle]; rfl)]
    exact h
  | none =>
    cases began : s.proc.beginCommand c delivered with
    | mk p more =>
      have table : p.pending = s.proc.pending := by
        simpa only [began] using s.proc.beginCommand_pending c delivered
      have present (id : CommandId) (c' : Command) (opened : c' ∈ s.waiting id) :
          ∃ entry ∈ p.pending id, entry.command = c' := by
        rw [table]
        exact (h.present id c' opened).resolve_left fun flying => by simp [idle] at flying
      cases more with
      | false =>
        rw [step_write_done idle began]
        refine ⟨h.named, ?_, fun id c' opened => .inr (present id c' opened), ?_⟩
        · intro c' flying
          simp [idle] at flying
        · simpa only [table] using h.unheard
      | true =>
        rw [step_write_written idle began]
        exact {
          named id c' opened := by
            by_cases at_id : id = c.id
            · subst at_id
              simp only [Function.update_self, Option.mem_def, Option.some.injEq] at opened
              rw [opened]
            · simp only [Function.update_of_ne at_id] at opened
              exact h.named id c' opened
          flying c' flying := by
            cases Option.some.inj flying
            exact ⟨Function.update_self .., Function.update_self ..⟩
          present id c' opened := by
            by_cases at_id : id = c.id
            · subst at_id
              simp only [Function.update_self] at opened
              exact .inl opened
            · simp only [Function.update_of_ne at_id] at opened
              exact .inr (present id c' opened)
          unheard id entry here unacked := by
            by_cases at_id : id = c.id
            · subst at_id
              exact Function.update_self ..
            · simp only [table] at here
              simp only [Function.update_of_ne at_id]
              exact h.unheard id entry here unacked }

/-- What follows when the pending table changes under one id only, where the history follows it. -/
theorem Tracked.of_handler {s t : Split} (h : s.Tracked) (id : CommandId)
    (idle : t.inFlight = s.inFlight)
    (elsewhere : ∀ k ≠ id, t.proc.pending k = s.proc.pending k ∧ t.waiting k = s.waiting k ∧
      t.heard k = s.heard k)
    (flying : ∀ c ∈ s.inFlight, c.id = id → t.waiting id = s.waiting id ∧ t.heard id = s.heard id)
    (left : ∀ c ∈ t.waiting id, c ∈ s.waiting id ∧ (c ∈ s.inFlight ∨
      ∀ entry ∈ s.proc.pending id, ∃ entry' ∈ t.proc.pending id, entry'.command = entry.command))
    (unheard : ∀ entry ∈ t.proc.pending id, entry.acked = false → t.heard id = false) :
    t.Tracked where
  named k c found := by
    by_cases at_id : k = id
    · subst at_id
      exact h.named k c (left c found).1
    · exact h.named k c ((elsewhere k at_id).2.1 ▸ found)
  flying c found := by
    rw [idle] at found
    by_cases at_id : c.id = id
    · have same := flying c found at_id
      rw [at_id, same.1, same.2, ← at_id]
      exact h.flying c found
    · rw [(elsewhere _ at_id).2.1, (elsewhere _ at_id).2.2]
      exact h.flying c found
  present k c found := by
    rw [idle]
    by_cases at_id : k = id
    · subst at_id
      obtain ⟨before, flies | kept⟩ := left c found
      · exact .inl flies
      · refine (h.present k c before).imp_right ?_
        rintro ⟨entry, here, command⟩
        obtain ⟨entry', here', same⟩ := kept entry here
        exact ⟨entry', here', same.trans command⟩
    · rw [(elsewhere k at_id).2.1] at found
      rw [(elsewhere k at_id).1]
      exact h.present k c found
  unheard k entry here unacked := by
    by_cases at_id : k = id
    · subst at_id
      exact unheard entry here unacked
    · rw [(elsewhere k at_id).1] at here
      rw [(elsewhere k at_id).2.2]
      exact h.unheard k entry here unacked

/-- A feedback to a command that is registered. -/
theorem Tracked.feedback {s : Split} (h : s.Tracked) (f : Feedback)
    (registered : s.Registered (.feedback f)) : (s.step (.feedback f)).Tracked := by
  have keep {k : CommandId} (other : k ≠ f.commandId) :
      (s.step (.feedback f)).proc.pending k = s.proc.pending k ∧
      (s.step (.feedback f)).waiting k = s.waiting k ∧
      (s.step (.feedback f)).heard k = s.heard k := by
    refine ⟨Processor.onFeedback_pending_ne other, ?_, ?_⟩
    · simp only [step, close]
      split
      · split
        · rfl
        · exact Function.update_of_ne other ..
      · rfl
    · simp only [step]
      split
      · exact Function.update_of_ne other ..
      · rfl
  -- a feedback the code does not know changes nothing, wherever its command is
  have quiet (unknown : f.state = none) : (s.step (.feedback f)).waiting = s.waiting ∧
      (s.step (.feedback f)).heard = s.heard := by
    simp [step, answers, Processor.closes, Processor.closedBy, unknown]
  refine h.of_handler f.commandId rfl (fun k other => keep other) ?_ ?_ ?_
  · intro c flying at_id
    have unknown : f.state = none := by_contra fun known => registered known ⟨c, flying, at_id⟩
    exact ⟨congrFun (quiet unknown).1 _, congrFun (quiet unknown).2 _⟩
  · intro c found
    by_cases closes : s.proc.closes f
    · simp only [step, if_pos closes] at found
      have before := mem_close h found
      exact ⟨before.1, .inl (before.2 rfl)⟩
    · simp only [step, if_neg closes] at found
      refine ⟨found, .inr ?_⟩
      intro entry here
      have stays : Processor.closedBy entry f = false :=
        Bool.eq_false_iff.mpr fun closed => closes ⟨entry, here, closed⟩
      have kept : (s.step (.feedback f)).proc.pending f.commandId =
          some { entry with acked := entry.acked || decide (f.state = some .accepted) } := by
        simp only [step, Processor.onFeedback_pending here, Processor.applyFeedback_pending here,
          stays, Bool.false_eq_true, if_false]
      exact ⟨_, kept, rfl⟩
  · intro entry here unacked
    cases before : s.proc.pending f.commandId with
    | none =>
      rw [step, Processor.onFeedback_unknown before, before] at here
      cases here
    | some old =>
      simp only [step, Processor.onFeedback_pending before,
        Processor.applyFeedback_pending before] at here
      split at here
      · cases here
      · next stays =>
        cases Option.some.inj here
        simp only [Bool.or_eq_false_iff, decide_eq_false_iff_not] at unacked
        have silent : answers f = false := by
          have open_entry : f.state ≠ some .rejected := fun no => stays (by simp [Processor.closedBy, no])
          simp [answers, unacked.2, open_entry]
        simp only [step, silent, Bool.false_eq_true, if_false]
        exact h.unheard _ old before unacked.1

/-- A timer that runs out. -/
theorem Tracked.timeout {s : Split} (h : s.Tracked) (handle : Nat) :
    (s.step (.timeout handle)).Tracked := by
  cases out : s.proc.timesOut handle with
  | none =>
    have table : (s.proc.fire handle).pending = s.proc.pending := by
      funext k
      rw [Processor.fire_pending, out, if_neg (by simp)]
    refine ⟨?_, ?_, ?_, ?_⟩
    · simpa only [step, out] using h.named
    · simpa only [step, out] using h.flying
    · simpa only [step, out, table] using h.present
    · simpa only [step, out, table] using h.unheard
  | some id =>
    have gone : (s.proc.fire handle).pending id = none := by
      rw [Processor.fire_pending, if_pos out]
    refine h.of_handler id rfl (fun k other => ⟨?_, ?_, rfl⟩) (fun c flying at_id => ⟨?_, rfl⟩)
      ?_ ?_
    · rw [step, Processor.fire_pending, out, if_neg (fun same => other (Option.some.inj same).symm)]
    · simp only [step, out, close]
      split
      · rfl
      · exact Function.update_of_ne other ..
    · subst at_id
      simp only [step, out]
      exact close_of_flying flying
    · intro c found
      simp only [step, out] at found
      have before := mem_close h found
      exact ⟨before.1, .inl (before.2 rfl)⟩
    · intro entry here
      rw [step, gone] at here
      cases here

/-- The registration. -/
theorem Tracked.register {s : Split} (h : s.Tracked) : (s.step .register).Tracked := by
  simp only [step]
  cases flying : s.inFlight with
  | none => exact h
  | some c =>
    obtain ⟨waits, silent⟩ := h.flying c flying
    have elsewhere {id : CommandId} {c' : Command} (other : id ≠ c.id) (found : c' ∈ s.waiting id) :
        ∃ entry ∈ (s.proc.registerPending c).pending id, entry.command = c' := by
      rw [Processor.registerPending_pending_ne other]
      refine (h.present id c' found).resolve_left fun flies => other ?_
      rw [← h.named id c' found, Option.some.inj (flying.symm.trans flies)]
    have unheard : ∀ id, ∀ entry ∈ (s.proc.registerPending c).pending id, entry.acked = false →
        s.heard id = false := by
      intro id entry here unacked
      by_cases at_id : id = c.id
      · exact at_id ▸ silent
      · rw [Processor.registerPending_pending_ne at_id] at here
        exact h.unheard id entry here unacked
    simp only
    rcases s.proc.registerPending_pending_self c with gone | ⟨entry, here, command⟩
    · rw [if_pos gone]
      have left {id : CommandId} {c' : Command}
          (found : c' ∈ Function.update s.waiting c.id none id) : id ≠ c.id ∧ c' ∈ s.waiting id := by
        by_cases at_id : id = c.id
        · subst at_id
          rw [Function.update_self] at found
          cases found
        · rw [Function.update_of_ne at_id] at found
          exact ⟨at_id, found⟩
      exact ⟨fun id c' found => h.named id c' (left found).2, fun _ flies => (by cases flies),
        fun id c' found => .inr (elsewhere (left found).1 (left found).2), unheard⟩
    · rw [if_neg (by rw [Option.mem_def.mp here]; exact Option.some_ne_none entry)]
      refine ⟨h.named, fun _ flies => (by cases flies), fun id c' found => .inr ?_, unheard⟩
      by_cases at_id : id = c.id
      · subst at_id
        exact ⟨entry, here, command.trans (Option.some.inj (waits.symm.trans found))⟩
      · exact elsewhere at_id found

/-- Every step outside the gap keeps the history true. -/
theorem Tracked.step {s : Split} {e : SplitEvent} (h : s.Tracked) (registered : s.Registered e) :
    (s.step e).Tracked := by
  cases e with
  | write c delivered => exact h.write c delivered
  | register => exact h.register
  | feedback f => exact h.feedback f registered
  | timeout handle => exact h.timeout handle
  | advance elapsed => exact ⟨h.named, h.flying, h.present, h.unheard⟩
  | applyStatus fields => exact ⟨h.named, h.flying, h.present, h.unheard⟩
  | setLocation value => exact ⟨h.named, h.flying, h.present, h.unheard⟩
  | clearRosTelemetry => exact ⟨h.named, h.flying, h.present, h.unheard⟩

/-! ## Every run -/

end Split
end Firebot.Bridge
