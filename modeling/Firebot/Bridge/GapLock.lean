import Firebot.Bridge.Records
import Firebot.Bridge.Feedback
import Firebot.Bridge.TaskLock

/-!
# The task lock while a command is in flight

Between the write to the ROS child and the registration the task lock is held and no entry owns it.
`Split.book` counts the command in flight as an entry; read so, the lock and the entries agree in the
gap as well (`Split.Locked`), as long as no command is written under the id of a pending entry and
no stub answers in the place of ROS.
-/

namespace Firebot.Bridge

namespace Processor

@[simp] theorem onFeedback_now (p : Processor) (f : Feedback) : (p.onFeedback f).now = p.now := by
  cases here : p.pending f.commandId with
  | none => rw [onFeedback_unknown here]
  | some entry =>
    rw [onFeedback_pending here]
    have taken := fed p entry f
    generalize p.applyFeedback entry f = q at taken ⊢
    cases taken <;> simp [settled, acceptedAck, ack_now, reportTask_now, markAcked_now, finalize_now]

@[simp] theorem fire_now (p : Processor) (handle : Nat) : (p.fire handle).now = p.now := by
  have fires := fired p handle
  generalize p.fire handle = q at fires ⊢
  cases fires <;> simp [timedOut, cancelTimer_now, ack_now, finalize_now]

@[simp] theorem beginCommand_now (p : Processor) (c : Command) (delivered : Bool) :
    (p.beginCommand c delivered).1.now = p.now := by
  have cases_of := begun p c delivered
  generalize p.beginCommand c delivered = q at cases_of ⊢
  cases cases_of <;> simp [called, registered, replay_eq]

@[simp] theorem registerPending_now (p : Processor) (c : Command) :
    (p.registerPending c).now = p.now := by
  rw [registerPending_eq]
  split
  · rw [onFeedback_now]
    rfl
  · rfl

end Processor

namespace Split

open Ownership
open Processor (token)

/-- The lock and the table, with the command in flight counted as an entry. -/
def book (s : Split) : Book CommandId Json :=
  match s.inFlight with
  | none => s.proc.book
  | some c => s.proc.book.put c.id (token c)

/-- Without a command in flight the book is the processor's. -/
theorem book_of_idle {s : Split} (idle : s.inFlight = none) : s.book = s.proc.book := by
  simp only [book, idle]

/-- A command in flight is entered. -/
theorem book_of_flying {s : Split} {c : Command} (flying : s.inFlight = some c) :
    s.book = s.proc.book.put c.id (token c) := by
  simp only [book, flying]

/-- The lock is held exactly for the one task that is pending or in flight, and the command in flight
has no entry yet. -/
structure Locked (s : Split) : Prop where
  sound : s.book.Sound
  traced : s.proc.Traced
  gap : ∀ c ∈ s.inFlight, s.proc.pending c.id = none

/-- The lock is free at the start. -/
theorem Locked.initial (config : Config) (vehicleId bootId : String) (start : Time) :
    (Split.initial config vehicleId bootId start).Locked where
  sound := Processor.book_sound_initial config vehicleId bootId start
  traced := .initial config vehicleId bootId start
  gap _ flying := by cases flying

/-! ## What each step does to the book -/

/-- Closing an entry of the table closes it beside the command in flight. -/
theorem book_close {s t : Split} (h : s.Locked) (idle : t.inFlight = s.inFlight) {id : CommandId}
    (here : s.proc.pending id ≠ none) (closed : t.proc.book = s.proc.book.close id) :
    t.book = s.book.close id := by
  cases flying : s.inFlight with
  | none => rw [book_of_idle (idle.trans flying), book_of_idle flying, closed]
  | some c =>
    have other : id ≠ c.id := by
      rintro rfl
      exact here (h.gap c flying)
    rw [book_of_flying (idle.trans flying), book_of_flying flying, closed, Book.put_close other]

/-- What leaves the processor's book and the flight alone leaves the book. -/
theorem book_stay {s t : Split} (idle : t.inFlight = s.inFlight)
    (same : t.proc.book = s.proc.book) : t.book = s.book := by
  simp only [book, idle, same]

/-- Feedback closes what it closes. -/
theorem book_feedback {s : Split} (h : s.Locked) (f : Feedback) :
    (s.step (.feedback f)).book =
      if s.proc.closes f then s.book.close f.commandId else s.book := by
  have handled := s.proc.onFeedback_book f
  by_cases closes : s.proc.closes f
  · rw [if_pos closes] at handled ⊢
    obtain ⟨entry, here, _⟩ := closes
    exact book_close (t := s.step (.feedback f)) h rfl
      (by rw [here]; exact Option.some_ne_none entry) handled
  · rw [if_neg closes] at handled ⊢
    exact book_stay (t := s.step (.feedback f)) rfl handled

/-- A timer closes the command that it rejects. -/
theorem book_timeout {s : Split} (h : s.Locked) (handle : Nat) :
    (s.step (.timeout handle)).book = match s.proc.timesOut handle with
      | none => s.book
      | some id => s.book.close id := by
  have handled := s.proc.fire_book handle
  cases out : s.proc.timesOut handle with
  | none =>
    rw [out] at handled
    exact book_stay (t := s.step (.timeout handle)) rfl handled
  | some id =>
    obtain ⟨_, entry, _, _, here, _⟩ := Processor.timesOut_eq_some out
    rw [out] at handled
    exact book_close (t := s.step (.timeout handle)) h rfl
      (by rw [here]; exact Option.some_ne_none entry) handled

/-- A command that is not passed on leaves the book. -/
theorem book_write_done {s : Split} {c : Command} {delivered : Bool} (idle : s.inFlight = none)
    (done : (s.proc.beginCommand c delivered).2 = false) :
    (s.step (.write c delivered)).book = s.book := by
  have same := Processor.beginCommand_book_done done
  cases began : s.proc.beginCommand c delivered with
  | mk p more =>
    rw [began] at done same
    subst done
    rw [step_write_done idle began]
    exact book_stay (t := { s with proc := p }) rfl same

/-- A command that is passed on is entered. -/
theorem book_write_written {s : Split} {c : Command} {delivered : Bool} (idle : s.inFlight = none)
    (more : (s.proc.beginCommand c delivered).2 = true) :
    (s.step (.write c delivered)).book = s.book.enter c.id (token c) := by
  have entered := Processor.beginCommand_book_written more
  cases began : s.proc.beginCommand c delivered with
  | mk p written =>
    rw [began] at more entered
    subst more
    rw [step_write_written idle began, book_of_flying rfl, book_of_idle idle]
    exact entered

/-- The entry is made when the call returns. -/
theorem step_register {s : Split} {c : Command} (flying : s.inFlight = some c)
    (real : ¬ (s.proc.config.bridgeStubMode && s.proc.config.stubSimulateFeedback) = true) :
    (s.step .register).proc = s.proc.entered c ∧ (s.step .register).inFlight = none := by
  simp only [step, flying, Processor.registerPending_eq, if_neg real, and_self]

/-- Registration turns the command in flight into an entry. -/
theorem book_register {s : Split}
    (real : ¬ (s.proc.config.bridgeStubMode && s.proc.config.stubSimulateFeedback) = true) :
    (s.step .register).book = s.book := by
  cases flying : s.inFlight with
  | none => simp only [step, flying]
  | some c =>
    obtain ⟨entered, idle⟩ := step_register flying real
    rw [book_of_idle idle, book_of_flying flying, entered, Processor.book_put_entered]

/-! ## The steps keep the lock -/

/-- Feedback keeps the lock. -/
theorem Locked.feedback {s : Split} (h : s.Locked) (f : Feedback) :
    (s.step (.feedback f)).Locked where
  sound := by
    rw [book_feedback h f]
    split
    · exact h.sound.close _
    · exact h.sound
  traced := h.traced.onFeedback f
  gap c flying := by
    have before := h.gap c flying
    by_cases at_id : c.id = f.commandId
    · simp only [step, Processor.onFeedback_unknown (at_id ▸ before), before]
    · simp only [step, Processor.onFeedback_pending_ne at_id, before]

/-- A timer keeps it. -/
theorem Locked.timeout {s : Split} (h : s.Locked) (handle : Nat) :
    (s.step (.timeout handle)).Locked where
  sound := by
    rw [book_timeout h handle]
    split
    · exact h.sound
    · exact h.sound.close _
  traced := h.traced.fire handle
  gap c flying := by
    simp only [step, Processor.fire_pending, h.gap c flying, ite_self]

/-- A delivery keeps it, unless the id is pending. -/
theorem Locked.write {s : Split} (h : s.Locked) (c : Command) (delivered : Bool)
    (unused : s.inFlight = none → s.proc.forwards c → s.proc.pending c.id = none) :
    (s.step (.write c delivered)).Locked := by
  cases flying : s.inFlight with
  | some other =>
    rw [step_write_busy (by rw [flying]; rfl)]
    exact h
  | none =>
    have table := s.proc.beginCommand_pending c delivered
    have traced := h.traced.beginCommand c delivered
    have done : (s.proc.beginCommand c delivered).2 = false → _ := book_write_done flying
    have written : (s.proc.beginCommand c delivered).2 = true → _ := book_write_written flying
    have sent : (s.proc.beginCommand c delivered).2 = true ↔ _ := Processor.beginCommand_written_iff
    cases began : s.proc.beginCommand c delivered with
    | mk p more =>
      rw [began] at table traced done written sent
      cases more with
      | false =>
        have same := done rfl
        rw [step_write_done flying began] at same ⊢
        refine ⟨same ▸ h.sound, traced, ?_⟩
        intro c' flies
        cases flying.symm.trans flies
      | true =>
        have entered := written rfl
        have free := unused flying (sent.mp rfl).1
        rw [step_write_written flying began] at entered ⊢
        refine ⟨?_, traced, ?_⟩
        · rw [entered]
          refine h.sound.enter ?_ ?_
          · intro needs
            rw [book_of_idle flying]
            exact Processor.forwards_free (sent.mp rfl).1 needs
          · intro t owns
            rw [book_of_idle flying] at owns
            obtain ⟨entry, here, _⟩ := Processor.owns_iff.mp owns
            exact Option.some_ne_none entry (here.symm.trans free)
        · intro c' flies
          cases flies
          rw [table]
          exact free

/-- The entry keeps it. -/
theorem Locked.register {s : Split} (h : s.Locked)
    (real : ¬ (s.proc.config.bridgeStubMode && s.proc.config.stubSimulateFeedback) = true) :
    (s.step .register).Locked := by
  have same := book_register real
  cases flying : s.inFlight with
  | none =>
    simp only [step, flying]
    exact h
  | some c =>
    obtain ⟨entered, idle⟩ := step_register flying real
    refine ⟨same ▸ h.sound, entered ▸ h.traced.entered c, ?_⟩
    intro c' flies
    rw [idle] at flies
    cases flies

/-- A change of the state that leaves the lock, the tables and the messages alone keeps the lock. -/
theorem Locked.of_same {s t : Split} (h : s.Locked) (idle : t.inFlight = s.inFlight)
    (lock : t.proc.state.taskLockId = s.proc.state.taskLockId)
    (pending : t.proc.pending = s.proc.pending)
    (processed : t.proc.state.processed = s.proc.state.processed)
    (published : t.proc.published = s.proc.published) : t.Locked where
  sound := by
    have same : t.proc.book = s.proc.book := by simp only [Processor.book, lock, pending]
    rw [book_stay idle same]
    exact h.sound
  traced := h.traced.same_tables pending processed published
  gap c flying := by
    rw [pending]
    exact h.gap c (idle ▸ flying)

/-! ## What the lock says of the entries -/

/-- The book's holder is that of the lock. -/
theorem book_holder (s : Split) : s.book.holder = s.proc.state.taskLockId := by
  unfold book
  split <;> rfl

/-- An entry under an id that owns a token is a task's. -/
theorem Locked.isTask_of_owns {s : Split} (h : s.Locked) {id : CommandId} {entry : Pending}
    (here : s.proc.pending id = some entry) {t : Json} (owns : s.book.Owns id t) :
    entry.command.isTask = true := by
  have table : s.proc.book.Owns id t := by
    cases flying : s.inFlight with
    | none => exact book_of_idle flying ▸ owns
    | some c =>
      have other : id ≠ c.id := by
        rintro rfl
        exact Option.some_ne_none entry (here.symm.trans (h.gap c flying))
      rw [book_of_flying flying] at owns
      exact (Book.Owns.put_ne other).mp owns
  obtain ⟨entry', here', task, _⟩ := Processor.owns_iff.mp table
  exact Option.some.inj (here'.symm.trans here) ▸ task

/-! ## The clock -/

/-- The clock never goes back. -/
theorem now_le_step (s : Split) (e : SplitEvent) : s.proc.now ≤ (s.step e).proc.now := by
  cases e with
  | write c delivered =>
    cases flying : s.inFlight with
    | some other => exact Int.le_of_eq (by rw [step_write_busy (by rw [flying]; rfl)])
    | none =>
      have same := s.proc.beginCommand_now c delivered
      cases began : s.proc.beginCommand c delivered with
      | mk p more =>
        rw [began] at same
        cases more with
        | false => rw [step_write_done flying began]; exact Int.le_of_eq same.symm
        | true => rw [step_write_written flying began]; exact Int.le_of_eq same.symm
  | register =>
    simp only [step]
    split
    · exact Int.le_refl _
    · exact Int.le_of_eq (s.proc.registerPending_now _).symm
  | feedback f => exact Int.le_of_eq (s.proc.onFeedback_now f).symm
  | timeout handle => exact Int.le_of_eq (s.proc.fire_now handle).symm
  | advance elapsed => exact Int.le_add_of_nonneg_right (Int.natCast_nonneg elapsed)
  | applyStatus | setLocation | clearRosTelemetry => exact Int.le_refl _

end Split

end Firebot.Bridge
