import Firebot.Bridge.Run

/-!
# How old the record of a command is

A handler leaves the record of a command, writes it with the time of now, or clears it away once its life is
over (`Tended`). `Aged` keeps beside the processor when each record was written last, which the code keeps in the
record itself and loses with it.

**The record of a command that was written is found exactly up to `dedupTtl` after it was written last**
(`record_found_iff`), whether or not it is still in the table. Nothing is said of a command that has none.
-/

namespace Firebot.Bridge.Processor

/-! ## What a handler does to the records -/

/-- At one time a record is left, or written, or cleared away when its life is over. -/
structure Tended (p q : Processor) : Prop where
  now : q.now = p.now
  record : ∀ id, q.state.processed id = p.state.processed id ∨
    (∃ r, q.state.processed id = some r ∧ r.ts = p.now) ∨
    q.state.processed id = none ∧ ∀ r ∈ p.state.processed id, BridgeState.alive p.now r = false

namespace Tended

variable {p q r : Processor}

/-- A record that is written now lives. -/
theorem alive_of_now {now : Time} {record : CommandRecord} (written : record.ts = now) :
    BridgeState.alive now record = true := by
  rw [BridgeState.alive, written, Int.sub_self]
  decide

/-- A step that touches neither the clock nor the table. -/
theorem same (now : q.now = p.now) (records : q.state.processed = p.state.processed) : Tended p q :=
  ⟨now, fun id => .inl (congrFun records id)⟩

/-- Doing nothing tends the records. -/
theorem refl (p : Processor) : Tended p p := .same rfl rfl

/-- Two steps that tend the records, one after the other. -/
theorem trans (pq : Tended p q) (qr : Tended q r) : Tended p r where
  now := qr.now.trans pq.now
  record id := by
    have later := qr.record id
    rw [pq.now] at later
    rcases later with same | written | ⟨gone, dead⟩
    · rw [same]
      exact pq.record id
    · exact .inr (.inl written)
    · refine .inr (.inr ⟨gone, ?_⟩)
      rcases pq.record id with same | ⟨record, there, now⟩ | ⟨_, dead'⟩
      · rwa [← same]
      · have lives := alive_of_now now
        rw [dead record there] at lives
        cases lives
      · exact dead'

/-- A step that changes one record and stamps it with the present time. -/
theorem of_touch {id : CommandId} {change : CommandRecord → CommandRecord} (now : q.now = p.now)
    (state : q.state = p.state.touchRecord id p.now change) : Tended p q := by
  refine ⟨now, fun other => ?_⟩
  rw [state]
  by_cases here : other = id
  · subst here
    rw [BridgeState.touchRecord_processed_self]
    cases found : p.state.processed other with
    | none => exact .inl rfl
    | some record => exact .inr (.inl ⟨_, rfl, rfl⟩)
  · exact .inl (BridgeState.touchRecord_processed_ne _ _ _ here)

/-- An acknowledgement stamps the record it answers for. -/
theorem ack (p : Processor) (c : Command) (s : AckStatus) (reason : Json) : Tended p (p.ack c s reason) :=
  of_touch rfl (ack_state ..)

/-- A report stamps the record of its task. -/
theorem reportTask (p : Processor) (id : CommandId) (task : Json) (s : ReportStatus) (phase progress : Json)
    (f : Feedback) : Tended p (p.reportTask id task s phase progress f) :=
  of_touch rfl (reportTask_state ..)

/-- Closing a command stamps its record. -/
theorem finalize (p : Processor) (id : CommandId) (entry : Pending) : Tended p (p.finalize id entry) :=
  of_touch rfl (finalize_state ..)

/-- Releasing the task lock is seen in the record of the command that holds it. -/
theorem releaseIfNeeded (p : Processor) (c : Command) : Tended p (p.releaseIfNeeded c) :=
  .same (releaseIfNeeded_now ..) (releaseIfNeeded_processed ..)

/-- The ACK of an accepted command. -/
theorem acceptedAck (p : Processor) (entry : Pending) (f : Feedback) : Tended p (p.acceptedAck entry f) := by
  have marked : Tended p ((p.cancelTimer entry.timer).markAcked f.commandId entry) := .same rfl rfl
  exact marked.trans (ack ..)

/-- A record under another id is left by the registration, or cleared away. -/
theorem registered (p : Processor) (c : Command) : Tended p (p.registered c) := by
  refine ⟨rfl, fun id => ?_⟩
  show (p.state.registerCommand c.id c p.now).processed id = _ ∨ _
  by_cases here : id = c.id
  · subst here
    exact .inr (.inl ⟨_, BridgeState.registerCommand_processed_self .., rfl⟩)
  · have kept := BridgeState.registerCommand_processed_ne p.state c p.now here
    cases found : p.state.processed id with
    | none =>
      rw [found] at kept
      exact .inl kept
    | some record =>
      rw [found] at kept
      cases lives : BridgeState.alive p.now record with
      | true => exact .inl (kept.trans (by simp [lives]))
      | false =>
        refine .inr (.inr ⟨kept.trans (by simp [lives]), ?_⟩)
        intro record' same
        rwa [← Option.some.inj same]

/-- The lookup before a replay clears away as well. -/
theorem replay (p : Processor) (record : CommandRecord) :
    Tended p ({ p with state := p.state.cleanupLocked p.now }.replay record) := by
  refine ⟨by rw [replay_eq], fun id => ?_⟩
  have kept : ({ p with state := p.state.cleanupLocked p.now }.replay record).state.processed id =
      (p.state.processed id).filter (BridgeState.alive p.now) := by rw [replay_state]; rfl
  rw [kept]
  cases p.state.processed id with
  | none => exact .inl rfl
  | some record =>
    cases lives : BridgeState.alive p.now record with
    | true => exact .inl (by simp [lives])
    | false =>
      refine .inr (.inr ⟨by simp [lives], ?_⟩)
      intro record' same
      rwa [← Option.some.inj same]

/-- Registering, locking and calling a command. -/
theorem called (p : Processor) (c : Command) (delivered : Bool) :
    Tended p (((p.registered c).locked c).called c delivered) :=
  (registered p c).trans (.same (locked_now ..) (locked_processed ..))

/-! ## The handlers -/

/-- A feedback of the adapter, with all it sets off. -/
theorem onFeedback (p : Processor) (f : Feedback) : Tended p (p.onFeedback f) := by
  cases here : p.pending f.commandId with
  | none =>
    rw [onFeedback_unknown here]
    exact .refl p
  | some entry =>
    rw [onFeedback_pending here]
    have taken := fed p entry f
    generalize p.applyFeedback entry f = q at taken ⊢
    cases taken with
    | acceptedTask => exact (acceptedAck ..).trans (reportTask ..)
    | accepted => exact (acceptedAck ..).trans (finalize ..)
    | rejected => exact ((releaseIfNeeded ..).trans (ack ..)).trans (finalize ..)
    | executing => exact reportTask ..
    | terminal => exact ((releaseIfNeeded ..).trans (reportTask ..)).trans (finalize ..)
    | ignored => exact .refl p

/-- A timer that runs out. -/
theorem fire (p : Processor) (handle : Nat) : Tended p (p.fire handle) := by
  have fires := fired p handle
  generalize p.fire handle = q at fires ⊢
  have stopped : Tended p (p.cancelTimer handle) := .same rfl rfl
  cases fires with
  | idle => exact .refl p
  | answered => exact stopped
  | rejected => exact ((stopped.trans (releaseIfNeeded ..)).trans (ack ..)).trans (finalize ..)

/-- The start of a command, until the adapter is called. -/
theorem beginCommand (p : Processor) (c : Command) (delivered : Bool) :
    Tended p (p.beginCommand c delivered).1 := by
  have cases_of := begun p c delivered
  generalize p.beginCommand c delivered = q at cases_of ⊢
  cases cases_of with
  | raised => exact .refl p
  | refused => exact ack ..
  | replayed record => exact replay p record
  | conflict => exact (registered p c).trans (ack ..)
  | undelivered => exact ((called p c false).trans (releaseIfNeeded ..)).trans (ack ..)
  | written => exact called p c true

/-- A command on its way to the adapter. -/
theorem registerPending (p : Processor) (c : Command) : Tended p (p.registerPending c) := by
  have entered : Tended p (p.entered c) := .same rfl rfl
  rw [registerPending_eq]
  split
  · exact entered.trans (onFeedback ..)
  · exact entered

/-- A delivery as a whole. -/
theorem onCommand (p : Processor) (c : Command) (delivered : Bool) : Tended p (p.onCommand c delivered) := by
  have begins := beginCommand p c delivered
  cases began : p.beginCommand c delivered with
  | mk q more =>
    rw [began] at begins
    cases more with
    | false => exact onCommand_of_done began ▸ begins
    | true => exact onCommand_of_written began ▸ begins.trans (registerPending q c)

/-- A record that is written now is there at the end of the handler. -/
theorem written_after (tended : Tended p q) {id : CommandId} {record : CommandRecord}
    (there : p.state.processed id = some record) (now : record.ts = p.now) :
    ∃ record', q.state.processed id = some record' ∧ record'.ts = q.now := by
  rw [tended.now]
  rcases tended.record id with same | written | ⟨_, dead⟩
  · exact ⟨record, same.trans there, now⟩
  · exact written
  · have lives := alive_of_now now
    rw [dead record there] at lives
    cases lives

/-- A command that is forwarded has its record written. -/
theorem of_forwards {c : Command} (sent : p.forwards c) (delivered : Bool) :
    ∃ record, (p.onCommand c delivered).state.processed c.id = some record ∧
      record.ts = (p.onCommand c delivered).now := by
  have entered : ∀ got, ∃ record, (((p.registered c).locked c).called c got).state.processed c.id = some record ∧
      record.ts = (((p.registered c).locked c).called c got).now := by
    intro got
    refine ⟨_, (congrFun (locked_processed (p.registered c) c) c.id).trans
      (BridgeState.registerCommand_processed_self ..), ?_⟩
    exact (locked_now (p.registered c) c).symm
  have cases_of := begun p c delivered
  cases began : p.beginCommand c delivered with
  | mk q more =>
    rw [began] at cases_of
    cases cases_of with
    | raised e verdict => cases verdict.symm.trans sent.1
    | refused reason verdict => cases verdict.symm.trans sent.1
    | replayed record verdict found => cases found.symm.trans sent.2.1
    | conflict verdict fresh held => exact absurd held sent.2.2
    | undelivered =>
      obtain ⟨record, there, now⟩ := entered false
      rw [onCommand_of_done began]
      exact ((releaseIfNeeded ..).trans (ack ..)).written_after there now
    | written =>
      obtain ⟨record, there, now⟩ := entered true
      rw [onCommand_of_written began]
      exact (registerPending ..).written_after there now

end Tended

/-- An event that does not move the clock tends the records. -/
theorem step_tended (p : Processor) {e : Event} (still : ∀ elapsed, e ≠ .advance elapsed) : Tended p (p.step e) := by
  cases e with
  | deliver c delivered => exact .onCommand p c delivered
  | feedback f => exact .onFeedback p f
  | timeout handle => exact .fire p handle
  | advance elapsed => exact absurd rfl (still elapsed)
  | applyStatus | clearRosTelemetry => exact .same rfl rfl
  | setLocation value => exact .same rfl (BridgeState.setLocation_processed ..)

/-- A record is left by any event, or written at its time, or cleared away; and the clock does not go back. -/
theorem step_records (p : Processor) (e : Event) : p.now ≤ (p.step e).now ∧
    ∀ id, (p.step e).state.processed id = p.state.processed id ∨
      (∃ r, (p.step e).state.processed id = some r ∧ r.ts = (p.step e).now) ∨
      (p.step e).state.processed id = none ∧ ∀ r ∈ p.state.processed id, BridgeState.alive p.now r = false := by
  by_cases still : ∀ elapsed, e ≠ .advance elapsed
  · have tended := step_tended p still
    refine ⟨Int.le_of_eq tended.now.symm, ?_⟩
    rw [tended.now]
    exact tended.record
  · simp only [ne_eq, not_forall, not_not] at still
    obtain ⟨elapsed, rfl⟩ := still
    exact ⟨Int.le_add_of_nonneg_right (Int.natCast_nonneg _), fun id => .inl rfl⟩

/-! ## When the records were written -/

/-- A processor, and when the record of each command was written last. -/
structure Aged where
  processor : Processor
  written : CommandId → Option Time

namespace Aged

/-- A processor as `main` creates it. -/
def initial (config : Config) (vehicleId bootId : String) (start : Time) : Aged where
  processor := .initial config vehicleId bootId start
  written _ := none

/-- One event. -/
def step (a : Aged) (e : Event) : Aged where
  processor := a.processor.step e
  written id :=
    if ((a.processor.step e).state.processed id).any fun record => record.ts = (a.processor.step e).now then
      some (a.processor.step e).now
    else a.written id

/-- A record in the table was written last at its time, and one that is not there has been cleared away. -/
structure Dated (a : Aged) : Prop where
  kept : ∀ id record, a.processor.state.processed id = some record →
    a.written id = some record.ts ∧ record.ts ≤ a.processor.now
  gone : ∀ id time, a.written id = some time → a.processor.state.processed id = none →
    dedupTtl < a.processor.now - time

variable {a : Aged}

/-- An empty table is dated. -/
theorem Dated.initial (config : Config) (vehicleId bootId : String) (start : Time) :
    (Aged.initial config vehicleId bootId start).Dated where
  kept _ _ found := by cases found
  gone _ _ found := by cases found

/-- A record that was written just now. -/
theorem step_written {e : Event} {id : CommandId} {record : CommandRecord}
    (found : (a.processor.step e).state.processed id = some record)
    (now : record.ts = (a.processor.step e).now) : (a.step e).written id = some (a.processor.step e).now := by
  show (if _ then _ else _) = _
  rw [found]
  exact if_pos (decide_eq_true now)

/-- A record that was not. -/
theorem step_unwritten {e : Event} {id : CommandId}
    (other : ∀ record, (a.processor.step e).state.processed id = some record →
      record.ts ≠ (a.processor.step e).now) : (a.step e).written id = a.written id := by
  refine if_neg ?_
  intro some_now
  obtain ⟨record, found, now⟩ := (Option.any_eq_true _ _).mp some_now
  exact other record found (of_decide_eq_true now)

/-- The times are kept through a step in which a record is left, written or cleared away. -/
theorem Dated.step (dated : a.Dated) (e : Event) : (a.step e).Dated := by
  obtain ⟨later, record⟩ := step_records a.processor e
  constructor
  · intro id r found
    by_cases now : r.ts = (a.processor.step e).now
    · rw [step_written found now, now]
      exact ⟨rfl, Int.le_refl _⟩
    · have unwritten : (a.step e).written id = a.written id := by
        refine step_unwritten fun r' found' => ?_
        cases found.symm.trans found'
        exact now
      rcases record id with same | ⟨r', found', now'⟩ | ⟨gone, _⟩
      · obtain ⟨time, past⟩ := dated.kept id r (same ▸ found)
        exact ⟨unwritten.trans time, Int.le_trans past later⟩
      · cases found.symm.trans found'
        exact absurd now' now
      · cases gone.symm.trans found
  · intro id time written gone
    have gone : (a.processor.step e).state.processed id = none := gone
    have unwritten : (a.step e).written id = a.written id :=
      step_unwritten fun r found => by cases gone.symm.trans found
    rw [unwritten] at written
    refine Int.lt_of_lt_of_le ?_ (Int.sub_le_sub_right later time)
    rcases record id with same | ⟨r, found, _⟩ | ⟨_, dead⟩
    · exact dated.gone id time written (same ▸ gone)
    · cases gone.symm.trans found
    · cases before : a.processor.state.processed id with
      | none => exact dated.gone id time written before
      | some r =>
        obtain ⟨own, _⟩ := dated.kept id r before
        cases written.symm.trans own
        exact Int.not_le.mp (of_decide_eq_false (dead r before))

/-- **The record of a command is found exactly up to `dedupTtl` after it was written last.** -/
theorem Dated.record_found_iff (dated : a.Dated) {id : CommandId} {time : Time}
    (written : a.written id = some time) :
    a.processor.record? id ≠ none ↔ a.processor.now - time ≤ dedupTtl := by
  unfold record?
  cases found : a.processor.state.processed id with
  | none =>
    simp only [Option.filter_none, ne_eq, not_true_eq_false, false_iff]
    exact Int.not_le.mpr (dated.gone id time written found)
  | some r =>
    obtain ⟨own, _⟩ := dated.kept id r found
    cases written.symm.trans own
    simp [Option.filter, BridgeState.alive]

end Aged

end Firebot.Bridge.Processor
