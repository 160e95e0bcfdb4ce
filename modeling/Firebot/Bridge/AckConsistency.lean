import Mathlib.Data.List.Pairwise
import Firebot.Bridge.Records

/-!
# The ACKs of one command agree

ACKs come from four places: validation, the replay of a record, ROS feedback and the feedback timer.
Only the timer asks whether the command has been accepted already. `Consistent` is what ties the
places together: the pending entry of an accepted command is marked, its record holds an accepted
ACK, and the log of ACKs has no rejection behind an acceptance. Every operation keeps it that adds no
rejection for an accepted command (`Consistent.frame`, `Consistent.answer`).

Three inputs add one. A redelivery is validated before its record is looked up, so it is rejected
once the command has expired, and forwarded or refused by the task lock once the record has; a
`REJECTED` may follow an `ACCEPTED`; and `EXECUTING` does not mark the entry, so a command that is
executing and was never accepted is rejected by the timer. `Orderly` excludes these.

**In every orderly run the ACKs of every command agree** (`ack_consistent`). Nothing is said of how many ACKs
there are, nor that the server gets them.
-/

namespace Firebot.Bridge

namespace Processor

/-- The pending table, the records and the log of ACKs agree on what has been accepted. -/
structure Consistent (p : Processor) : Prop where
  marked : ∀ id, p.Accepted id → ∀ e ∈ p.pending id, e.acked = true
  recorded : ∀ id, p.Accepted id → ∀ r ∈ p.state.processed id, ∀ a ∈ r.ack, a.status ≠ .rejected
  ordered : p.acks.Pairwise fun a b =>
    a.commandId = b.commandId → a.status = .accepted → b.status ≠ .rejected

/-- Nothing has been published. -/
theorem Consistent.initial (config : Config) (vehicleId bootId : String) (start : Time) :
    (Processor.initial config vehicleId bootId start).Consistent where
  marked _ _ _ here := by cases here
  recorded _ _ _ found := by cases found
  ordered := List.Pairwise.nil

/-! ## Two ways to keep the agreement -/

/-- Nothing is answered: entries go or are marked, records go or lose their ACK. -/
theorem Consistent.frame {p q : Processor} (h : p.Consistent)
    (entries : ∀ id, ∀ e ∈ q.pending id, ∃ e' ∈ p.pending id, e'.acked = true → e.acked = true)
    (records : ∀ id, ∀ r ∈ q.state.processed id, ∀ a ∈ r.ack,
      ∃ r' ∈ p.state.processed id, a ∈ r'.ack)
    (same : q.acks = p.acks) : q.Consistent := by
  have accepted (id : CommandId) : q.Accepted id ↔ p.Accepted id := by simp only [Accepted, same]
  refine ⟨?_, ?_, same ▸ h.ordered⟩
  · intro id acc e here
    obtain ⟨e', here', marks⟩ := entries id e here
    exact marks (h.marked id ((accepted id).mp acc) e' here')
  · intro id acc r found a has
    obtain ⟨r', found', has'⟩ := records id r found a has
    exact h.recorded id ((accepted id).mp acc) r' found' a has'

/-- A step that leaves the tables and the publications. -/
theorem Consistent.same_tables {p q : Processor} (h : p.Consistent) (pending : q.pending = p.pending)
    (processed : q.state.processed = p.state.processed) (published : q.published = p.published) :
    q.Consistent :=
  h.frame (fun _ e here => ⟨e, pending ▸ here, fun yes => yes⟩)
    (fun _ r found _ has => ⟨r, processed ▸ found, has⟩) (acks_congr published)

/-- One ACK goes out, and the record of its command, if any, holds it: an acceptance for a marked
entry, or a rejection for a command that was not accepted. -/
theorem Consistent.answer {p q : Processor} (h : p.Consistent) (a : CommandAck)
    (table : q.pending = p.pending) (more : q.acks = p.acks ++ [a])
    (own : ∀ r ∈ q.state.processed a.commandId, ∀ b ∈ r.ack, b = a)
    (others : ∀ id ≠ a.commandId, ∀ r ∈ q.state.processed id, ∀ b ∈ r.ack,
      ∃ r' ∈ p.state.processed id, b ∈ r'.ack)
    (accepts : a.status = .accepted → ∀ e ∈ p.pending a.commandId, e.acked = true)
    (rejects : a.status = .rejected → ¬ p.Accepted a.commandId) : q.Consistent := by
  have accepted (id : CommandId) :
      q.Accepted id ↔ p.Accepted id ∨ (a.commandId = id ∧ a.status = .accepted) := by
    simp only [Accepted, more, List.mem_append, List.mem_singleton, or_and_right, exists_or,
      exists_eq_left]
  -- an accepted command is not the one a rejection answers
  have kept (id : CommandId) (acc : q.Accepted id) (at_id : a.commandId = id) :
      a.status ≠ .rejected := by
    rcases (accepted id).mp acc with before | ⟨_, now⟩
    · exact fun no => rejects no (at_id ▸ before)
    · rw [now]
      decide
  refine ⟨?_, ?_, ?_⟩
  · intro id acc e here
    rw [table] at here
    rcases (accepted id).mp acc with before | ⟨rfl, now⟩
    · exact h.marked id before e here
    · exact accepts now e here
  · intro id acc r found b has
    by_cases at_id : id = a.commandId
    · subst at_id
      rw [own r found b has]
      exact kept _ acc rfl
    · obtain ⟨r', found', has'⟩ := others id at_id r found b has
      have before : p.Accepted id :=
        ((accepted id).mp acc).resolve_right fun same => at_id same.1.symm
      exact h.recorded id before r' found' b has'
  · rw [more, List.pairwise_append]
    refine ⟨h.ordered, List.pairwise_singleton .., ?_⟩
    intro b earlier c last
    rw [List.mem_singleton.mp last]
    exact fun same yes no => rejects no ⟨b, earlier, same, yes⟩

/-! ## The operations -/

/-- An ACCEPTED ACK marks what is pending, and a REJECTED ACK is for no accepted command. -/
theorem Consistent.ack {p : Processor} (h : p.Consistent) {c : Command} {s : AckStatus} {r : Json}
    (accepts : s = .accepted → ∀ e ∈ p.pending c.id, e.acked = true)
    (rejects : s = .rejected → ¬ p.Accepted c.id) : (p.ack c s r).Consistent := by
  refine h.answer (p.ackMessage c s r) rfl (acks_ack p c s r) ?_ ?_ accepts rejects
  · intro record found b has
    rw [ack_state, BridgeState.rememberAck, ackMessage_commandId,
      BridgeState.touchRecord_processed_self] at found
    obtain ⟨_, _, rfl⟩ := Option.map_eq_some_iff.mp found
    exact (Option.some.inj has).symm
  · intro id other record found b has
    rw [ack_state, BridgeState.rememberAck,
      BridgeState.touchRecord_processed_ne _ _ _ (by simpa using other)] at found
    exact ⟨record, found, has⟩

/-- The refusal of a command that was never accepted. -/
theorem Consistent.reject {p : Processor} (h : p.Consistent) {c : Command} {r : Json}
    (fresh : ¬ p.Accepted c.id) : (p.ack c .rejected r).Consistent :=
  h.ack nofun fun _ => fresh

/-- A report of a task is no ACK. -/
theorem Consistent.reportTask {p : Processor} (h : p.Consistent) {id : CommandId} {task : Json}
    {s : ReportStatus} {phase progress : Json} {f : Feedback} :
    (p.reportTask id task s phase progress f).Consistent :=
  h.frame (fun _ e here => ⟨e, here, fun yes => yes⟩)
    (fun _ _ found _ has => mem_touchRecord_ack found has fun _ => rfl)
    (acks_reportTask p id task s phase progress f)

/-- Closing a command drops it from what is pending. -/
theorem Consistent.finalize {p : Processor} (h : p.Consistent) {id : CommandId} {entry : Pending} :
    (p.finalize id entry).Consistent := by
  refine h.frame ?_
    (fun _ _ found _ has => mem_touchRecord_ack found has fun _ => rfl) rfl
  intro k e here
  by_cases at_key : k = id
  · subst at_key
    rw [finalize_pending, Function.update_self] at here
    cases here
  · rw [finalize_pending, Function.update_of_ne at_key] at here
    exact ⟨e, here, fun yes => yes⟩

/-- Releasing the lock publishes nothing. -/
theorem Consistent.releaseIfNeeded {p : Processor} (h : p.Consistent) {c : Command} :
    (p.releaseIfNeeded c).Consistent :=
  h.same_tables (releaseIfNeeded_pending p c) (releaseIfNeeded_processed p c)
    (releaseIfNeeded_published p c)

/-- Nor does a timer that is taken down. -/
theorem Consistent.cancelTimer {p : Processor} (h : p.Consistent) {handle : Nat} :
    (p.cancelTimer handle).Consistent := h.same_tables rfl rfl rfl

/-- The acceptance of a pending command marks its entry before the ACK goes out. -/
theorem Consistent.acceptedAck {p : Processor} (h : p.Consistent) (t : p.Traced) {f : Feedback}
    {entry : Pending} (here : p.pending f.commandId = some entry) :
    (p.acceptedAck entry f).Consistent := by
  have marked : ((p.cancelTimer entry.timer).markAcked f.commandId entry).Consistent := by
    refine h.frame ?_ (fun _ r found _ has => ⟨r, found, has⟩) rfl
    intro k e found
    by_cases at_key : k = f.commandId
    · subst at_key
      rw [markAcked_pending, Function.update_self] at found
      exact ⟨entry, here, fun _ => Option.some.inj found ▸ rfl⟩
    · rw [markAcked_pending, Function.update_of_ne at_key] at found
      exact ⟨e, found, fun yes => yes⟩
  refine marked.ack ?_ nofun
  intro _ e at_id
  rw [t.keyed _ entry here, markAcked_pending, Function.update_self] at at_id
  exact Option.some.inj at_id ▸ rfl

/-- A command that is registered is not acknowledged yet. -/
theorem Consistent.registered {p : Processor} (h : p.Consistent) {c : Command} :
    (p.registered c).Consistent :=
  h.frame (fun _ e here => ⟨e, here, fun yes => yes⟩)
    (fun _ _ found _ has => mem_registerCommand_ack found has) rfl

/-- The call of the adapter, and the refusal when it raises. -/
theorem Consistent.called {p : Processor} (h : p.Consistent) {c : Command} {delivered : Bool} :
    (((p.registered c).locked c).called c delivered).Consistent :=
  (h.registered (c := c)).same_tables (locked_pending (p.registered c) c)
    (locked_processed (p.registered c) c) (locked_published (p.registered c) c)

/-- A command that was not accepted is entered as pending. -/
theorem Consistent.entered {p : Processor} (h : p.Consistent) {c : Command}
    (fresh : ¬ p.Accepted c.id) : (p.entered c).Consistent := by
  refine ⟨?_, h.recorded, h.ordered⟩
  intro id acc e here
  have other : id ≠ c.id := fun same => fresh (same ▸ acc)
  rw [entered_pending_ne _ _ other] at here
  exact h.marked id acc e here

/-- A replay repeats what the record holds. -/
theorem Consistent.replay {p : Processor} (h : p.Consistent) (t : p.Traced) {id : CommandId}
    {record : CommandRecord} (found : p.record? id = some record) :
    ({ p with state := p.state.cleanupLocked p.now }.replay record).Consistent := by
  have here : p.state.processed id = some record := (Option.filter_eq_some_iff.mp found).1
  have cleaned {k : CommandId} {r : CommandRecord}
      (left : r ∈ (p.state.cleanupLocked p.now).processed k) : r ∈ p.state.processed k :=
    (Option.filter_eq_some_iff.mp left).1
  have more : ({ p with state := p.state.cleanupLocked p.now }.replay record).acks =
      p.acks ++ record.ack.toList := acks_replay ..
  cases answered : record.ack with
  | none =>
    refine h.frame (fun _ e here => ⟨e, ?_, fun yes => yes⟩) (fun _ r left _ has => ⟨r, ?_, has⟩) ?_
    · rwa [replay_pending] at here
    · rw [replay_state] at left
      exact cleaned left
    · rw [more, answered, Option.toList_none, List.append_nil]
  | some a =>
    obtain ⟨named, published⟩ := t.recorded id record here a answered
    rw [answered, Option.toList_some] at more
    refine h.answer a (replay_pending ..) more ?_ (fun _ _ r left b has => ⟨r, ?_, has⟩) ?_ ?_
    · intro r left b has
      rw [named, replay_state] at left
      have same : record = r := Option.some.inj (here.symm.trans (cleaned left))
      rw [← same] at has
      exact Option.some.inj (has.symm.trans answered)
    · rw [replay_state] at left
      exact cleaned left
    · intro yes
      exact h.marked _ ⟨a, published, rfl, yes⟩
    · intro no acc
      rw [named] at acc
      exact h.recorded id acc record here a answered no

/-! ## The handlers -/

/-- A `REJECTED` that finds its command pending finds it unmarked. -/
def RejectsFirst (p : Processor) (f : Feedback) : Prop :=
  f.state = some .rejected → ∀ e ∈ p.pending f.commandId, e.acked = false

/-- A feedback that rejects only what was not accepted keeps the agreement. -/
theorem Consistent.onFeedback {p : Processor} (h : p.Consistent) (t : p.Traced) {f : Feedback}
    (first : p.RejectsFirst f) : (p.onFeedback f).Consistent := by
  cases here : p.pending f.commandId with
  | none =>
    rw [onFeedback_unknown here]
    exact h
  | some entry =>
    rw [onFeedback_pending here]
    have taken := fed p entry f
    generalize p.applyFeedback entry f = q at taken ⊢
    cases taken with
    | acceptedTask => exact (h.acceptedAck t here).reportTask
    | accepted => exact (h.acceptedAck t here).finalize
    | rejected state =>
      refine (h.releaseIfNeeded.reject ?_).finalize
      intro acc
      have unmarked := first state entry here
      rw [t.keyed _ entry here, accepted_congr (releaseIfNeeded_published ..)] at acc
      exact Bool.noConfusion (unmarked.symm.trans (h.marked _ acc entry here))
    | executing => exact h.reportTask
    | terminal => exact h.releaseIfNeeded.reportTask.finalize
    | ignored => exact h

/-- A timer that runs out rejects only a command that was never acknowledged. -/
theorem Consistent.fire {p : Processor} (h : p.Consistent) (t : p.Traced) (handle : Nat) :
    (p.fire handle).Consistent := by
  have fires := fired p handle
  generalize p.fire handle = q at fires ⊢
  cases fires with
  | idle => exact h
  | answered => exact h.cancelTimer
  | rejected timer entry armed waiting unacked =>
    refine (h.cancelTimer.releaseIfNeeded.reject ?_).finalize
    intro acc
    rw [t.keyed _ entry waiting, accepted_congr (releaseIfNeeded_published ..),
      accepted_congr (cancelTimer_published ..)] at acc
    exact Bool.noConfusion (unacked.symm.trans (h.marked _ acc entry waiting))

/-- A delivery of a command that has been accepted passes validation and finds its record, unless
the validator raises. -/
def RepliesFromRecord (p : Processor) (c : Command) : Prop :=
  p.Accepted c.id → p.answeredFromRecord c

/-- A delivery answers a known command from its record. -/
theorem Consistent.onCommand {p : Processor} (h : p.Consistent) (t : p.Traced) {c : Command}
    {delivered : Bool} (replies : p.RepliesFromRecord c) :
    (p.onCommand c delivered).Consistent := by
  -- what is not answered from a record is a command that was never accepted
  have unanswered (fresh : p.record? c.id = none) (valid : p.verdict c = .ok none) :
      ¬ p.Accepted c.id := by
    intro acc
    rcases replies acc with raised | ⟨_, found⟩
    · cases raised.symm.trans valid
    · exact found fresh
  have sent {b : Bool} : (((p.registered c).locked c).called c b).Accepted c.id ↔ p.Accepted c.id :=
    accepted_congr (locked_published (p.registered c) c)
  cases began : p.beginCommand c delivered with
  | mk q more =>
    have cases_of := begun p c delivered
    rw [began] at cases_of
    cases cases_of with
    | raised e verdict =>
      rw [onCommand_of_done began]
      exact h
    | refused reason verdict =>
      rw [onCommand_of_done began]
      refine h.reject ?_
      intro acc
      rcases replies acc with raised | ⟨valid, _⟩
      · cases raised.symm.trans verdict
      · cases valid.symm.trans verdict
    | replayed record verdict found =>
      rw [onCommand_of_done began]
      exact h.replay t found
    | conflict verdict fresh held =>
      rw [onCommand_of_done began]
      exact h.registered.reject (unanswered fresh verdict)
    | undelivered verdict fresh free lost =>
      rw [onCommand_of_done began]
      refine h.called.releaseIfNeeded.reject ?_
      intro acc
      rw [accepted_congr (releaseIfNeeded_published ..), sent] at acc
      exact unanswered fresh verdict acc
    | written verdict fresh free got =>
      have never : ¬ (((p.registered c).locked c).called c true).Accepted c.id := fun acc =>
        unanswered fresh verdict (sent.mp acc)
      rw [onCommand_of_written began, registerPending_eq]
      split
      · refine (h.called.entered never).onFeedback ((t.called c true).entered c) ?_
        intro _ e here
        have same := Option.some.inj ((entered_pending_self _ c).symm.trans here)
        rw [← same]
      · exact h.called.entered never

end Processor

/-! ## Runs -/

/-- What happens to a command beside its ACKs: an `EXECUTING` feedback is processed, the feedback
timer rejects it. -/
inductive Mark where
  | executing (id : CommandId)
  | timedOut (id : CommandId)
  deriving DecidableEq

/-- A processor with the history of its `EXECUTING` feedback and its timeouts. -/
structure Watched where
  proc : Processor
  marks : List Mark

namespace Watched

open Processor

/-- What an event adds to the history. -/
def newMarks (p : Processor) : Event → List Mark
  | .feedback f =>
    if f.state = some .executing ∧ ∃ e ∈ p.pending f.commandId, e.command.isTask = true then
      [.executing f.commandId]
    else []
  | .timeout handle => (p.timesOut handle).toList.map .timedOut
  | _ => []

/-- One event, with its mark in the history. -/
def step (w : Watched) (e : Event) : Watched where
  proc := w.proc.step e
  marks := w.marks ++ newMarks w.proc e

/-- The watched processor after a list of events. -/
abbrev run (w : Watched) (events : List Event) : Watched := Runs.run step w events

/-- A watched processor as it starts. -/
def initial (config : Config) (vehicleId bootId : String) (start : Time) : Watched where
  proc := Processor.initial config vehicleId bootId start
  marks := []

/-- The events that keep the ACKs of a command together: an accepted command is answered from its
record, a `REJECTED` comes before `ACCEPTED`, and a command whose `EXECUTING` was processed has been
accepted when its timer fires. -/
def Orderly (w : Watched) : Event → Prop
  | .deliver c _ => w.proc.RepliesFromRecord c
  | .feedback f => w.proc.RejectsFirst f
  | .timeout handle => ∀ timer ∈ w.proc.armed handle,
      .executing timer.commandId ∈ w.marks → w.proc.pending timer.commandId ≠ none →
        w.proc.Accepted timer.commandId
  | _ => True

instance (p : Processor) (c : Command) : Decidable (p.RepliesFromRecord c) :=
  inferInstanceAs (Decidable (_ → _))

instance (p : Processor) (f : Feedback) : Decidable (p.RejectsFirst f) :=
  inferInstanceAs (Decidable (_ → _))

instance (w : Watched) : (e : Event) → Decidable (w.Orderly e)
  | .deliver c _ => inferInstanceAs (Decidable (w.proc.RepliesFromRecord c))
  | .feedback f => inferInstanceAs (Decidable (w.proc.RejectsFirst f))
  | .timeout handle => inferInstanceAs (Decidable (∀ timer ∈ w.proc.armed handle,
      .executing timer.commandId ∈ w.marks → w.proc.pending timer.commandId ≠ none →
        w.proc.Accepted timer.commandId))
  | .advance _ | .applyStatus _ | .setLocation _ | .clearRosTelemetry => isTrue trivial

/-- **No rejection follows an acceptance, no record of an accepted command holds a rejection, and no
timer rejects a command whose `EXECUTING` was processed.** -/
structure AckConsistent (w : Watched) : Prop where
  published : w.proc.acks.Pairwise fun a b =>
    a.commandId = b.commandId → a.status = .accepted → b.status ≠ .rejected
  recorded : ∀ id, w.proc.Accepted id → ∀ r ∈ w.proc.state.processed id, ∀ a ∈ r.ack,
    a.status ≠ .rejected
  timers : w.marks.Pairwise fun m n => ∀ id, m = .executing id → n ≠ .timedOut id

/-- A step that keeps the ACKs orderly keeps the processor consistent. -/
theorem consistent_step {w : Watched} {e : Event} (h : w.proc.Consistent) (t : w.proc.Traced)
    (orderly : w.Orderly e) : (w.step e).proc.Consistent := by
  cases e with
  | deliver c delivered => exact h.onCommand t orderly
  | feedback f => exact h.onFeedback t orderly
  | timeout handle => exact h.fire t handle
  | advance elapsed | applyStatus fields | clearRosTelemetry => exact h.same_tables rfl rfl rfl
  | setLocation value => exact h.same_tables rfl (BridgeState.setLocation_processed ..) rfl

/-- A timeout behind a processed `EXECUTING` finds the entry marked and rejects nothing. -/
theorem timers_step {w : Watched} {e : Event} (h : w.proc.Consistent) (orderly : w.Orderly e)
    (timers : w.marks.Pairwise fun m n => ∀ id, m = .executing id → n ≠ .timedOut id) :
    (w.step e).marks.Pairwise fun m n => ∀ id, m = .executing id → n ≠ .timedOut id := by
  refine List.pairwise_append.mpr ⟨timers, ?_, ?_⟩
  · cases e with
    | feedback f =>
      simp only [newMarks]
      split
      · exact List.pairwise_singleton ..
      · exact List.Pairwise.nil
    | timeout handle =>
      cases out : w.proc.timesOut handle with
      | none => simp [newMarks, out]
      | some id => simp [newMarks, out]
    | deliver | advance | applyStatus | setLocation | clearRosTelemetry => exact List.Pairwise.nil
  · intro m earlier n new id executing rejected
    subst executing rejected
    cases e with
    | timeout handle =>
      have out : w.proc.timesOut handle = some id := by
        simpa [newMarks] using new
      obtain ⟨timer, entry, armed, rfl, here, unacked⟩ := timesOut_eq_some out
      have acc := orderly timer armed earlier (by simp [here])
      exact Bool.noConfusion (unacked.symm.trans (h.marked _ acc entry here))
    | feedback f =>
      simp only [newMarks] at new
      split at new <;> simp at new
    | deliver | advance | applyStatus | setLocation | clearRosTelemetry => cases new

/-- **In every orderly run the ACKs of every command agree.** -/
theorem ack_consistent (config : Config) (vehicleId bootId : String) (start : Time)
    (events : List Event)
    (orderly : Runs.Meets step Orderly (initial config vehicleId bootId start) events) :
    ((initial config vehicleId bootId start).run events).AckConsistent := by
  have kept := Runs.invariant
    (I := fun w : Watched => w.proc.Traced ∧ w.proc.Consistent ∧
      w.marks.Pairwise fun m n => ∀ id, m = .executing id → n ≠ .timedOut id)
    (fun _ e ⟨t, h, timers⟩ ok => ⟨t.step e, consistent_step h t ok, timers_step h ok timers⟩)
    ⟨Traced.initial config vehicleId bootId start, Consistent.initial config vehicleId bootId start,
      List.Pairwise.nil⟩ orderly
  exact ⟨kept.2.1.ordered, kept.2.1.recorded, kept.2.2⟩

/-- A patrol that is accepted, redelivered while it drives, and completed. -/
theorem ack_consistent_redelivered :
    ((initial .vehicle "V1" "B1" 0).run [.deliver (patrol "P") true,
      .feedback (answer "P" .accepted), .feedback (answer "P" .executing),
      .deliver (patrol "P") true, .timeout 0, .feedback (answer "P" .completed)]).AckConsistent :=
  ack_consistent .vehicle "V1" "B1" 0 _ (by decide)

/-- A patrol that is valid for ten seconds is accepted at once; redelivered when the ten seconds are
over, it is answered with `COMMAND_EXPIRED`. -/
theorem not_ack_consistent_expired :
    ¬ ((initial .vehicle "V1" "B1" 0).run
      [.deliver { patrol "P" with expiresAt := some (.instant (10 * second)) } true,
        .feedback (answer "P" .accepted), .advance 10000000,
        .deliver { patrol "P" with expiresAt := some (.instant (10 * second)) } true]
      ).AckConsistent :=
  fun consistent => absurd consistent.published (by decide)

end Watched

end Firebot.Bridge
