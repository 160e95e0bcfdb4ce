import Firebot.Bridge.Run

/-!
# What the tables of the processor hold

Two facts hold in every run, whatever is delivered and whatever ROS answers: a pending entry stands
under the id of its command, and the ACK in a record stands under the id of its command and has been
published. They are proved operation by operation (`Traced.frame`, `Traced.ack`) and used wherever an
entry or a record is found by its id.

The second half says what the handlers publish: a new rejection answers the delivered command, the
command a `REJECTED` feedback has found pending, or the command its timer has given up.
-/

namespace Firebot.Bridge

/-- The ACK in a message. -/
def Message.ack? : Message → Option CommandAck
  | .commandAck ack => some ack
  | .taskStatus _ => none

namespace Processor

/-- The ACKs handed to the MQTT client, in order. -/
def acks (p : Processor) : List CommandAck := p.published.filterMap Message.ack?

/-- An accepted ACK has been published for the command. -/
def Accepted (p : Processor) (id : CommandId) : Prop :=
  ∃ a ∈ p.acks, a.commandId = id ∧ a.status = .accepted

/-- A rejected ACK has been published for the command. -/
def Rejected (p : Processor) (id : CommandId) : Prop :=
  ∃ a ∈ p.acks, a.commandId = id ∧ a.status = .rejected

instance (p : Processor) (id : CommandId) : Decidable (p.Accepted id) :=
  inferInstanceAs (Decidable (∃ a ∈ p.acks, _))

instance (p : Processor) (id : CommandId) : Decidable (p.Rejected id) :=
  inferInstanceAs (Decidable (∃ a ∈ p.acks, _))

/-- The ACKs are read off the published messages. -/
theorem acks_congr {p q : Processor} (same : q.published = p.published) : q.acks = p.acks := by
  simp only [acks, same]

/-- And so is what was accepted. -/
theorem accepted_congr {p q : Processor} (same : q.published = p.published) {id : CommandId} :
    q.Accepted id ↔ p.Accepted id := by
  simp only [Accepted, acks_congr same]

/-- An ACK is one more. -/
theorem acks_ack (p : Processor) (c : Command) (s : AckStatus) (r : Json) :
    (p.ack c s r).acks = p.acks ++ [p.ackMessage c s r] := by
  simp only [acks, ack_published, List.filterMap_append, List.filterMap_cons, Message.ack?,
    List.filterMap_nil]

/-- A task status is no ACK. -/
theorem acks_reportTask (p : Processor) (id : CommandId) (task : Json) (s : ReportStatus)
    (phase progress : Json) (f : Feedback) :
    (p.reportTask id task s phase progress f).acks = p.acks := by
  simp only [acks, reportTask_published, List.filterMap_append, List.filterMap_cons, Message.ack?,
    List.filterMap_nil, List.append_nil]

/-- A replay publishes the record's ACK, if it has one. -/
theorem acks_replay (p : Processor) (record : CommandRecord) :
    (p.replay record).acks = p.acks ++ record.ack.toList := by
  rw [replay_eq]
  cases record.ack <;> cases record.taskStatus <;> simp [acks, Message.ack?]

/-! ## Entries and records stand under their ids -/

/-- Entries stand under their command's id; the ACK of a record stands under its command's id and has
been published. -/
structure Traced (p : Processor) : Prop where
  keyed : ∀ id, ∀ e ∈ p.pending id, e.command.id = id
  recorded : ∀ id, ∀ r ∈ p.state.processed id, ∀ a ∈ r.ack, a.commandId = id ∧ a ∈ p.acks

/-- At the start nothing is recorded. -/
theorem Traced.initial (config : Config) (vehicleId bootId : String) (start : Time) :
    (Processor.initial config vehicleId bootId start).Traced where
  keyed _ _ here := by cases here
  recorded _ _ found := by cases found

/-- Entries keep their commands or go, records keep their ACKs or lose them, and no ACK is
unpublished. -/
theorem Traced.frame {p q : Processor} (t : p.Traced)
    (entries : ∀ id, ∀ e ∈ q.pending id, ∃ e' ∈ p.pending id, e.command = e'.command)
    (records : ∀ id, ∀ r ∈ q.state.processed id, ∀ a ∈ r.ack,
      ∃ r' ∈ p.state.processed id, a ∈ r'.ack)
    (more : ∀ a ∈ p.acks, a ∈ q.acks) : q.Traced where
  keyed id e here := by
    obtain ⟨e', here', command⟩ := entries id e here
    exact command ▸ t.keyed id e' here'
  recorded id r found a has := by
    obtain ⟨r', found', has'⟩ := records id r found a has
    exact ⟨(t.recorded id r' found' a has').1, more a (t.recorded id r' found' a has').2⟩

/-- What leaves the tables and the messages alone keeps the trace. -/
theorem Traced.same_tables {p q : Processor} (t : p.Traced) (pending : q.pending = p.pending)
    (processed : q.state.processed = p.state.processed) (published : q.published = p.published) :
    q.Traced :=
  t.frame (fun _ e here => ⟨e, pending ▸ here, rfl⟩) (fun _ r found _ has => ⟨r, processed ▸ found, has⟩)
    fun _ mem => acks_congr published ▸ mem

/-- A record that was only touched keeps the ACK it had. -/
theorem mem_touchRecord_ack {s : BridgeState} {id k : CommandId} {now : Time}
    {change : CommandRecord → CommandRecord} {r : CommandRecord}
    (found : r ∈ (s.touchRecord k now change).processed id) {a : CommandAck} (has : a ∈ r.ack)
    (keeps : ∀ r, (change r).ack = r.ack) : ∃ r' ∈ s.processed id, a ∈ r'.ack := by
  by_cases at_key : id = k
  · subst at_key
    rw [BridgeState.touchRecord_processed_self] at found
    obtain ⟨r', found', rfl⟩ := Option.map_eq_some_iff.mp found
    exact ⟨r', found', keeps r' ▸ has⟩
  · rw [BridgeState.touchRecord_processed_ne _ _ _ at_key] at found
    exact ⟨r, found, has⟩

/-- Registering a command adds no ACK to a record. -/
theorem mem_registerCommand_ack {s : BridgeState} {c : Command} {now : Time} {id : CommandId}
    {r : CommandRecord} (found : r ∈ (s.registerCommand c.id c now).processed id) {a : CommandAck}
    (has : a ∈ r.ack) : ∃ r' ∈ s.processed id, a ∈ r'.ack := by
  by_cases at_key : id = c.id
  · subst at_key
    rw [BridgeState.registerCommand_processed_self] at found
    rw [← Option.some.inj found] at has
    cases has
  · rw [BridgeState.registerCommand_processed_ne _ _ _ at_key] at found
    exact ⟨r, (Option.filter_eq_some_iff.mp found).1, has⟩

/-- An ACK is recorded as it is published. -/
theorem Traced.ack {p : Processor} (t : p.Traced) (c : Command) (s : AckStatus) (r : Json) :
    (p.ack c s r).Traced where
  keyed := t.keyed
  recorded id record found a has := by
    rw [acks_ack, List.mem_append, List.mem_singleton]
    by_cases at_id : id = c.id
    · subst at_id
      rw [ack_state, BridgeState.rememberAck, BridgeState.touchRecord_processed_self] at found
      obtain ⟨_, _, rfl⟩ := Option.map_eq_some_iff.mp found
      have same : p.ackMessage c s r = a := Option.some.inj has
      exact ⟨same ▸ ackMessage_commandId p c s r, .inr same.symm⟩
    · rw [ack_state, BridgeState.rememberAck,
        BridgeState.touchRecord_processed_ne _ _ _ at_id] at found
      exact ⟨(t.recorded id record found a has).1, .inl (t.recorded id record found a has).2⟩

/-- A task status is recorded beside the ACK. -/
theorem Traced.reportTask {p : Processor} (t : p.Traced) (id : CommandId) (task : Json)
    (s : ReportStatus) (phase progress : Json) (f : Feedback) :
    (p.reportTask id task s phase progress f).Traced :=
  t.frame (fun _ e here => ⟨e, here, rfl⟩)
    (fun _ _ found _ has => mem_touchRecord_ack found has fun _ => rfl)
    fun _ mem => acks_reportTask p id task s phase progress f ▸ mem

/-- A command that ends keeps its record. -/
theorem Traced.finalize {p : Processor} (t : p.Traced) (id : CommandId) (entry : Pending) :
    (p.finalize id entry).Traced := by
  refine t.frame ?_
    (fun _ _ found _ has => mem_touchRecord_ack found has fun _ => rfl) fun _ mem => mem
  intro k e here
  by_cases at_key : k = id
  · subst at_key
    rw [finalize_pending, Function.update_self] at here
    cases here
  · rw [finalize_pending, Function.update_of_ne at_key] at here
    exact ⟨e, here, rfl⟩

/-- The lock has no record. -/
theorem Traced.releaseIfNeeded {p : Processor} (t : p.Traced) (c : Command) :
    (p.releaseIfNeeded c).Traced :=
  t.same_tables (releaseIfNeeded_pending p c) (releaseIfNeeded_processed p c)
    (releaseIfNeeded_published p c)

/-- Nor has a timer. -/
theorem Traced.cancelTimer {p : Processor} (t : p.Traced) (handle : Nat) :
    (p.cancelTimer handle).Traced := t.same_tables rfl rfl rfl

/-- The ACK of the vehicle is recorded. -/
theorem Traced.acceptedAck {p : Processor} (t : p.Traced) {f : Feedback} {entry : Pending}
    (here : p.pending f.commandId = some entry) : (p.acceptedAck entry f).Traced := by
  have marked : ((p.cancelTimer entry.timer).markAcked f.commandId entry).Traced := by
    refine t.frame ?_ (fun _ r found _ has => ⟨r, found, has⟩) fun _ mem => mem
    intro k e found
    by_cases at_key : k = f.commandId
    · subst at_key
      rw [markAcked_pending, Function.update_self] at found
      exact ⟨entry, here, Option.some.inj found ▸ rfl⟩
    · rw [markAcked_pending, Function.update_of_ne at_key] at found
      exact ⟨e, found, rfl⟩
  exact marked.ack ..

/-- A command that is registered has no ACK yet. -/
theorem Traced.registered {p : Processor} (t : p.Traced) (c : Command) : (p.registered c).Traced :=
  t.frame (fun _ e here => ⟨e, here, rfl⟩)
    (fun _ _ found _ has => mem_registerCommand_ack found has) fun _ mem => mem

/-- Passing it on publishes nothing. -/
theorem Traced.called {p : Processor} (t : p.Traced) (c : Command) (delivered : Bool) :
    (((p.registered c).locked c).called c delivered).Traced :=
  (t.registered c).same_tables (locked_pending (p.registered c) c)
    (locked_processed (p.registered c) c) (locked_published (p.registered c) c)

theorem Traced.entered {p : Processor} (t : p.Traced) (c : Command) : (p.entered c).Traced where
  keyed id e here := by
    by_cases at_key : id = c.id
    · subst at_key
      rw [entered_pending_self] at here
      exact Option.some.inj here ▸ rfl
    · rw [entered_pending_ne _ _ at_key] at here
      exact t.keyed id e here
  recorded := t.recorded

/-- A replay publishes what is recorded. -/
theorem Traced.replay {p : Processor} (t : p.Traced) (record : CommandRecord) :
    ({ p with state := p.state.cleanupLocked p.now }.replay record).Traced := by
  have cleaned : ({ p with state := p.state.cleanupLocked p.now }).Traced :=
    t.frame (fun _ e here => ⟨e, here, rfl⟩)
      (fun _ r found _ has => ⟨r, (Option.filter_eq_some_iff.mp found).1, has⟩) fun _ mem => mem
  refine cleaned.frame (fun _ e here => ⟨e, ?_, rfl⟩) (fun _ r found _ has => ⟨r, ?_, has⟩) ?_
  · rwa [replay_eq] at here
  · rwa [replay_eq] at found
  · intro a mem
    rw [acks_replay]
    exact List.mem_append_left _ mem

/-! ## The handlers keep them there -/

/-- Feedback keeps the trace. -/
theorem Traced.onFeedback {p : Processor} (t : p.Traced) (f : Feedback) :
    (p.onFeedback f).Traced := by
  cases here : p.pending f.commandId with
  | none =>
    rw [onFeedback_unknown here]
    exact t
  | some entry =>
    rw [onFeedback_pending here]
    have taken := fed p entry f
    generalize p.applyFeedback entry f = q at taken ⊢
    cases taken with
    | acceptedTask => exact (t.acceptedAck here).reportTask ..
    | accepted => exact (t.acceptedAck here).finalize ..
    | rejected => exact ((t.releaseIfNeeded _).ack ..).finalize ..
    | executing => exact t.reportTask ..
    | terminal => exact ((t.releaseIfNeeded _).reportTask ..).finalize ..
    | ignored => exact t

/-- A timer keeps it. -/
theorem Traced.fire {p : Processor} (t : p.Traced) (handle : Nat) : (p.fire handle).Traced := by
  have fires := fired p handle
  generalize p.fire handle = q at fires ⊢
  cases fires with
  | idle => exact t
  | answered => exact t.cancelTimer _
  | rejected => exact (((t.cancelTimer _).releaseIfNeeded _).ack ..).finalize ..

/-- The first half of a delivery keeps it. -/
theorem Traced.beginCommand {p : Processor} (t : p.Traced) (c : Command) (delivered : Bool) :
    (p.beginCommand c delivered).1.Traced := by
  have cases_of := begun p c delivered
  generalize p.beginCommand c delivered = q at cases_of ⊢
  cases cases_of with
  | raised => exact t
  | refused => exact t.ack ..
  | replayed record => exact t.replay record
  | conflict => exact (t.registered c).ack ..
  | undelivered => exact ((t.called c false).releaseIfNeeded c).ack ..
  | written => exact t.called c true

/-- And the second half. -/
theorem Traced.registerPending {p : Processor} (t : p.Traced) (c : Command) :
    (p.registerPending c).Traced := by
  rw [registerPending_eq]
  split
  · exact (t.entered c).onFeedback _
  · exact t.entered c

/-- Every event keeps the trace. -/
theorem Traced.step {p : Processor} (t : p.Traced) (e : Event) : (p.step e).Traced := by
  cases e with
  | deliver c delivered =>
    simp only [Processor.step]
    cases began : p.beginCommand c delivered with
    | mk q more =>
      have first : q.Traced := by
        simpa only [began] using t.beginCommand c delivered
      cases more with
      | false => exact onCommand_of_done began ▸ first
      | true => exact onCommand_of_written began ▸ first.registerPending c
  | feedback f => exact t.onFeedback f
  | timeout handle => exact t.fire handle
  | advance | applyStatus | clearRosTelemetry => exact t.same_tables rfl rfl rfl
  | setLocation value => exact t.same_tables rfl (BridgeState.setLocation_processed ..) rfl

/-! ## What the handlers publish -/

/-- What was rejected, after some more ACKs. -/
theorem rejected_append {p q : Processor} {new : List CommandAck} (more : q.acks = p.acks ++ new)
    {id : CommandId} : q.Rejected id ↔
      p.Rejected id ∨ ∃ a ∈ new, a.commandId = id ∧ a.status = .rejected := by
  simp only [Rejected, more, List.mem_append, or_and_right, exists_or]

/-- A feedback publishes at most one ACK, for the command it finds pending. -/
theorem onFeedback_rejected {p : Processor} (t : p.Traced) {f : Feedback} {id : CommandId}
    (rejected : (p.onFeedback f).Rejected id) : p.Rejected id ∨
      (id = f.commandId ∧ f.state = some .rejected ∧ p.pending id ≠ none) := by
  cases here : p.pending f.commandId with
  | none =>
    rw [onFeedback_unknown here] at rejected
    exact .inl rejected
  | some entry =>
    rw [onFeedback_pending here] at rejected
    have taken := fed p entry f
    generalize p.applyFeedback entry f = q at taken rejected
    have none_new {q : Processor} (same : q.acks = p.acks) (rejected : q.Rejected id) :
        p.Rejected id := by simpa only [Rejected, same] using rejected
    -- an acceptance adds an ACK that is no rejection
    have accepted_new {q : Processor} (more : q.acks = (p.acceptedAck entry f).acks)
        (rejected : q.Rejected id) : p.Rejected id := by
      have grown : q.acks = p.acks ++ [((p.cancelTimer entry.timer).markAcked f.commandId
          entry).ackMessage entry.command .accepted .null] := by
        rw [more, Processor.acceptedAck, acks_ack]
        rfl
      rcases (rejected_append grown).mp rejected with before | ⟨a, mem, _, no⟩
      · exact before
      · rw [List.mem_singleton.mp mem] at no
        cases no
    cases taken with
    | acceptedTask => exact .inl (accepted_new (acks_reportTask ..) rejected)
    | accepted => exact .inl (accepted_new rfl rejected)
    | rejected state =>
      have grown := acks_ack (p.releaseIfNeeded entry.command) entry.command .rejected
        (f.reasonCode.orElse (.str "COMMAND_REJECTED"))
      rw [acks_congr (releaseIfNeeded_published ..)] at grown
      rcases (rejected_append (p := p) grown).mp rejected with before | ⟨a, mem, named, _⟩
      · exact .inl before
      · rw [List.mem_singleton.mp mem, ackMessage_commandId, t.keyed _ entry here] at named
        exact .inr ⟨named.symm, state, named ▸ here ▸ Option.some_ne_none entry⟩
    | executing => exact .inl (none_new (acks_reportTask ..) rejected)
    | terminal =>
      exact .inl (none_new ((acks_reportTask ..).trans (acks_congr (releaseIfNeeded_published ..)))
        rejected)
    | ignored => exact .inl rejected

/-- A timer publishes at most one ACK, the rejection of the command it gives up. -/
theorem fire_rejected {p : Processor} (t : p.Traced) {handle : Nat} {id : CommandId}
    (rejected : (p.fire handle).Rejected id) :
    p.Rejected id ∨ p.timesOut handle = some id := by
  have fires := fired p handle
  generalize p.fire handle = q at fires rejected
  cases fires with
  | idle => exact .inl rejected
  | answered => exact .inl rejected
  | rejected timer entry armed waiting unacked =>
    have grown := acks_ack ((p.cancelTimer handle).releaseIfNeeded entry.command) entry.command
      .rejected (.str "BRIDGE_ADAPTER_NOT_CONNECTED")
    rw [acks_congr (releaseIfNeeded_published ..)] at grown
    rcases (rejected_append (p := p) grown).mp rejected with before | ⟨a, mem, named, _⟩
    · exact .inl before
    · rw [List.mem_singleton.mp mem, ackMessage_commandId, t.keyed _ entry waiting] at named
      exact .inr (named ▸ timesOut_of_waiting armed waiting unacked)

/-- A delivery answered from its record, or on which the validator raised. -/
def answeredFromRecord (p : Processor) (c : Command) : Prop :=
  p.verdict c = .error () ∨ (p.verdict c = .ok none ∧ p.record? c.id ≠ none)

instance (p : Processor) (c : Command) : Decidable (p.answeredFromRecord c) :=
  inferInstanceAs (Decidable (_ ∨ _))

/-- The first half of a delivery rejects the delivered command only, and only where it neither
forwards it nor answers it from its record. -/
theorem beginCommand_rejected {p : Processor} (t : p.Traced) {c : Command} {delivered : Bool}
    {id : CommandId} (rejected : (p.beginCommand c delivered).1.Rejected id) :
    p.Rejected id ∨ (id = c.id ∧ ¬ p.answeredFromRecord c ∧
      (p.beginCommand c delivered).2 = false) := by
  have cases_of := begun p c delivered
  generalize p.beginCommand c delivered = q at cases_of rejected ⊢
  have answered {q : Processor} {s : AckStatus} {r : Json} (same : q.published = p.published)
      (unanswered : ¬ p.answeredFromRecord c) (rejected : (q.ack c s r).Rejected id) :
      p.Rejected id ∨ (id = c.id ∧ ¬ p.answeredFromRecord c ∧ false = false) := by
    have grown := acks_ack q c s r
    rw [acks_congr same] at grown
    rcases (rejected_append (p := p) grown).mp rejected with before | ⟨a, mem, named, _⟩
    · exact .inl before
    · rw [List.mem_singleton.mp mem, ackMessage_commandId] at named
      exact .inr ⟨named.symm, unanswered, rfl⟩
  have fresh_unanswered (valid : p.verdict c = .ok none) (fresh : p.record? c.id = none) :
      ¬ p.answeredFromRecord c := by
    rintro (raised | ⟨_, found⟩)
    · cases raised.symm.trans valid
    · exact found fresh
  cases cases_of with
  | raised => exact .inl rejected
  | refused reason verdict =>
    refine answered rfl ?_ rejected
    rintro (raised | ⟨valid, _⟩)
    · cases raised.symm.trans verdict
    · cases valid.symm.trans verdict
  | replayed record verdict found =>
    have here : p.state.processed c.id = some record := (Option.filter_eq_some_iff.mp found).1
    refine .inl ?_
    have grown := acks_replay { p with state := p.state.cleanupLocked p.now } record
    rcases (rejected_append (p := p) grown).mp rejected with before | ⟨a, mem, ours⟩
    · exact before
    · exact ⟨a, (t.recorded _ record here a (Option.mem_toList.mp mem)).2, ours⟩
  | conflict verdict fresh held => exact answered rfl (fresh_unanswered verdict fresh) rejected
  | undelivered verdict fresh free lost =>
    have same : ((((p.registered c).locked c).called c false).releaseIfNeeded c).published =
        p.published :=
      (releaseIfNeeded_published ..).trans (locked_published (p.registered c) c)
    exact answered same (fresh_unanswered verdict fresh) rejected
  | written verdict fresh free got =>
    refine .inl ?_
    have same := acks_congr (locked_published (p.registered c) c)
    simp only [Rejected] at rejected ⊢
    exact same ▸ rejected

end Processor

end Firebot.Bridge
