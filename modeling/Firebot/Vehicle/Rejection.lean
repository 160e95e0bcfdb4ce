import Mathlib.Data.List.Nodup
import Firebot.Vehicle.Joint

/-!
# A rejected command is not executed

The Bridge takes the silence of ROS for a refusal: when no answer came within the feedback timeout it
publishes a rejection and frees the task lock. The adapter may be silent because it still checks
whether navigation is ready, which it may do for longer than that, and it does not know that it has
been given up. A command rejected in this way drives off.

`Agreed` is what the two components know of each other outside that case: whatever the adapter may
still act on is not rejected and owns its lock, and so does whatever drives. `Agreed.bridge` is the
rule for the steps of the Bridge, `Agreed.move` the rule for those of the adapter.

**In every settled run no rejected command is acted on, and what drives holds the lock**
(`rejected_not_executed`). Nothing is said of how a command that drives is stopped.
-/

namespace Firebot.Vehicle.Joint

open Bridge Ownership
open Processor (token)

/-! ## Who holds what -/

/-- The adapter has not acted on its copy of the command yet. -/
def Ahead (j : Joint) (c : Command) : Prop :=
  c ∈ j.queue ∨ ∃ stage, j.handling = some (c, stage) ∧ stage ≠ .observing

theorem mem_live {j : Joint} {c : Command} : c ∈ j.live ↔
    (c ∈ j.queue ∧ actsOn c = true ∧ expired c j.bridge.proc.now = false) ∨
      ∃ stage, j.handling = some (c, stage) ∧ stage ≠ .observing := by
  simp only [live, List.mem_append, List.mem_filter, Bool.and_eq_true, Bool.not_eq_true',
    List.mem_map, Option.mem_toList, decide_eq_true_eq, Prod.exists,
    exists_and_right, exists_eq_right]

theorem ahead_of_live {j : Joint} {c : Command} (alive : c ∈ j.live) : j.Ahead c :=
  (mem_live.mp alive).imp_left And.left

theorem mem_held {j : Joint} {c : Command} :
    c ∈ j.held ↔ c ∈ j.queue ∨ ∃ stage, j.handling = some (c, stage) := by
  simp only [held, List.mem_append, List.mem_map, Option.mem_toList, Prod.exists,
    exists_and_right, exists_eq_right]

/-- What the Bridge and the adapter know of each other. -/
structure Agreed (j : Joint) : Prop where
  locked : j.bridge.Locked
  distinct : (j.queue.map Command.id).Nodup
  handled : ∀ h ∈ j.handling, ∀ c ∈ j.queue, c.id ≠ h.1.id
  silent : ∀ c, j.Ahead c → ∀ f ∈ j.feedback, f.commandId ≠ c.id
  parked : ∀ c, j.Ahead c → ∀ d ∈ j.driving, d.id ≠ c.id
  checked : ∀ c, j.handling = some (c, .checking) → c.isTask = true
  unrejected : ∀ c ∈ j.live, ¬ j.bridge.proc.Rejected c.id
  owned : ∀ c ∈ j.live, c.isTask = true → j.bridge.book.Owns c.id c.task
  driven : ∀ d ∈ j.driving, j.bridge.book.Owns d.id d.task
  heard : ∀ d ∈ j.driving, ∀ f ∈ j.feedback, f.commandId = d.id →
    f.state = some .accepted ∨ f.state = some .executing
  onTime : ∀ a ∈ j.actions, a.late = false

theorem Agreed.initial (config : Config) (vehicleId bootId : String) (start : Time) :
    (Joint.initial config vehicleId bootId start).Agreed where
  locked := .initial config vehicleId bootId start
  distinct := List.nodup_nil
  handled _ found := by cases found
  silent _ _ _ found := by cases found
  parked _ _ _ found := by cases found
  checked _ found := by cases found
  unrejected _ found := by cases found
  owned _ found := by cases found
  driven _ found := by cases found
  heard _ found := by cases found
  onTime _ found := by cases found

/-- The two together obey. -/
theorem Agreed.obeyed {j : Joint} (h : j.Agreed) : j.Obeyed where
  onTime := h.onTime
  locked drives := by
    obtain ⟨d, driving⟩ := List.exists_mem_of_ne_nil _ drives
    rw [← Split.book_holder, h.locked.sound.held _ _ (h.driven d driving)]
    exact Option.some_ne_none d.task

/-! ## Steps of the Bridge -/

/-- Nothing comes to life when only the Bridge moves. -/
theorem live_bridge {j : Joint} {b : Split} (later : j.bridge.proc.now ≤ b.proc.now) {c : Command}
    (alive : c ∈ live { j with bridge := b }) : c ∈ j.live := by
  rw [mem_live] at alive ⊢
  refine alive.imp_left fun ⟨queued, acts, fresh⟩ => ⟨queued, acts, Bool.eq_false_iff.mpr ?_⟩
  exact fun late => Bool.eq_false_iff.mp fresh (expired_mono later late)

/-- A step of the Bridge that rejects nothing the adapter may still act on and takes no lock away
from it. -/
theorem Agreed.bridge {j : Joint} (h : j.Agreed) {b : Split} (locked : b.Locked)
    (later : j.bridge.proc.now ≤ b.proc.now)
    (unrejected : ∀ c ∈ j.live, b.proc.Rejected c.id → j.bridge.proc.Rejected c.id)
    (owns : ∀ c, c ∈ j.live ∨ c ∈ j.driving → j.bridge.book.Owns c.id c.task →
      b.book.Owns c.id c.task) : Agreed { j with bridge := b } where
  locked := locked
  distinct := h.distinct
  handled := h.handled
  silent := h.silent
  parked := h.parked
  checked := h.checked
  unrejected c alive rejected := by
    have before := live_bridge later alive
    exact h.unrejected c before (unrejected c before rejected)
  owned c alive task := by
    have before := live_bridge later alive
    exact owns c (.inl before) (h.owned c before task)
  driven d driving := owns d (.inr driving) (h.driven d driving)
  heard := h.heard
  onTime := h.onTime

/-- A step of the Bridge that touches neither messages nor locks. -/
theorem Agreed.quiet {j : Joint} (h : j.Agreed) {b : Split} (locked : b.Locked)
    (later : j.bridge.proc.now ≤ b.proc.now) (published : b.proc.published = j.bridge.proc.published)
    (book : b.book = j.bridge.book) : Agreed { j with bridge := b } :=
  h.bridge locked later
    (fun c _ rejected => by simpa only [Processor.Rejected, Processor.acks, published] using rejected)
    fun _ _ owns => book ▸ owns

/-- A feedback that arrives says nothing of a command the adapter has not acted on, and of a driving
one only that it was accepted or is executed. -/
theorem Agreed.feedback {j : Joint} (h : j.Agreed) {f : Feedback} (sent : f ∈ j.feedback) :
    Agreed { j with bridge := j.bridge.step (.feedback f) } := by
  refine h.bridge (h.locked.feedback f) (j.bridge.now_le_step (.feedback f)) ?_ ?_
  · intro c alive rejected
    rcases Processor.onFeedback_rejected h.locked.traced rejected with before | ⟨at_id, _⟩
    · exact before
    · exact absurd at_id.symm (h.silent c (ahead_of_live alive) f sent)
  · intro c active owns
    rw [Split.book_feedback h.locked f]
    split
    · next closes =>
      have other : c.id ≠ f.commandId := by
        rcases active with alive | driving
        · exact (h.silent c (ahead_of_live alive) f sent).symm
        · intro at_id
          obtain ⟨entry, here, closed⟩ := closes
          have task := h.locked.isTask_of_owns (at_id ▸ here) owns
          rcases h.heard c driving f sent at_id.symm with state | state <;>
            simp [Processor.closedBy, state, task] at closed
      exact (Book.Owns.close_ne other).mpr owns
    · exact owns

theorem Agreed.timeout {j : Joint} (h : j.Agreed) (handle : Nat)
    (settled : j.Settled (.timeout handle)) :
    Agreed { j with bridge := j.bridge.step (.timeout handle) } := by
  refine h.bridge (h.locked.timeout handle) (j.bridge.now_le_step (.timeout handle)) ?_ ?_
  · intro c alive rejected
    rcases Processor.fire_rejected h.locked.traced rejected with before | out
    · exact before
    · exact absurd rfl ((settled _ out).1 c alive)
  · intro c active owns
    rw [Split.book_timeout h.locked handle]
    split
    · exact owns
    · next id out =>
      have other : c.id ≠ id := active.elim ((settled id out).1 c) ((settled id out).2 c)
      exact (Book.Owns.close_ne other).mpr owns

theorem Agreed.register {j : Joint} (h : j.Agreed) (real : j.Settled .register) :
    Agreed { j with bridge := j.bridge.step .register } := by
  refine h.quiet (h.locked.register real) (j.bridge.now_le_step .register) ?_
    (Split.book_register real)
  cases flying : j.bridge.inFlight with
  | none => simp only [Split.step, flying]
  | some c =>
    rw [(Split.step_register flying real).1]
    rfl

/-! ## Deliveries -/

/-- A delivery that is not sent to the adapter rejects at most a command it will not act on. -/
theorem Agreed.write_done {j : Joint} (h : j.Agreed) {c : Command} {delivered : Bool}
    (idle : j.bridge.inFlight = none)
    (done : (j.bridge.proc.beginCommand c delivered).2 = false)
    (settled : j.Settled (.write c delivered)) :
    Agreed { j with bridge := j.bridge.step (.write c delivered) } := by
  obtain ⟨unused, given_up⟩ := settled idle
  refine h.bridge
    (h.locked.write c delivered fun _ sent => by_contra fun used => (unused sent).2 (by simp [busy, used]))
    (j.bridge.now_le_step (.write c delivered)) (fun c' alive rejected => ?_) fun _ _ owns => ?_
  · rw [Split.step_write_proc idle] at rejected
    rcases Processor.beginCommand_rejected h.locked.traced rejected with before | ⟨at_id, fresh, _⟩
    · exact before
    · by_cases sent : j.bridge.proc.forwards c
      · refine absurd (.inl ⟨c', ?_, at_id⟩) (unused sent).2
        exact mem_held.mpr ((ahead_of_live alive).imp_right fun ⟨stage, here, _⟩ => ⟨stage, here⟩)
      · exact absurd at_id (given_up sent fresh c' alive)
  · rw [Split.book_write_done idle done]
    exact owns

/-- The delivery has been written to the ROS child and lies in the adapter's queue. -/
def queued (j : Joint) (c : Command) (delivered : Bool) : Joint :=
  { j with bridge := j.bridge.step (.write c delivered), queue := j.queue ++ [c] }

/-- What is ahead after the write was ahead before it under another id, or is the new command. -/
theorem ahead_queued {j : Joint} {c c' : Command} {delivered : Bool}
    (unheld : ∀ d ∈ j.held, d.id ≠ c.id) (new : (j.queued c delivered).Ahead c') :
    (j.Ahead c' ∧ c'.id ≠ c.id) ∨ c' = c := by
  rcases new with queued | ⟨stage, here, acts⟩
  · rcases List.mem_append.mp queued with before | last
    · exact .inl ⟨.inl before, unheld c' (mem_held.mpr (.inl before))⟩
    · exact .inr (List.mem_singleton.mp last)
  · exact .inl ⟨.inr ⟨stage, here, acts⟩, unheld c' (mem_held.mpr (.inr ⟨stage, here⟩))⟩

/-- What is live after the write was live before it under another id, or is the new command. -/
theorem live_queued {j : Joint} {c c' : Command} {delivered : Bool}
    (unheld : ∀ d ∈ j.held, d.id ≠ c.id) (new : c' ∈ (j.queued c delivered).live) :
    (c' ∈ j.live ∧ c'.id ≠ c.id) ∨ c' = c := by
  rcases ahead_queued unheld (ahead_of_live new) with ⟨_, other⟩ | last
  · refine .inl ⟨live_bridge (j.bridge.now_le_step (.write c delivered)) ?_, other⟩
    rw [mem_live] at new ⊢
    refine new.imp_left ?_
    rintro ⟨queued, rest⟩
    rcases List.mem_append.mp queued with before | last
    · exact ⟨before, rest⟩
    · exact absurd (congrArg Command.id (List.mem_singleton.mp last)) other
  · exact .inr last

/-- A delivery that is sent puts a command of its own id into the adapter's queue. -/
theorem Agreed.write_sent {j : Joint} (h : j.Agreed) {c : Command} {delivered : Bool}
    (idle : j.bridge.inFlight = none)
    (more : (j.bridge.proc.beginCommand c delivered).2 = true)
    (settled : j.Settled (.write c delivered)) : (j.queued c delivered).Agreed := by
  obtain ⟨sent, _⟩ := Processor.beginCommand_written_iff.mp more
  obtain ⟨unrejected, idle_id⟩ := (settled idle).1 sent
  simp only [busy, not_or, not_exists, not_and] at idle_id
  obtain ⟨unheld, undriven, unheard, unused⟩ := idle_id
  have locked := h.locked.write c delivered fun _ _ => by_contra unused
  have book := Split.book_write_written idle more
  have same {id : CommandId} (rejected : (j.bridge.step (.write c delivered)).proc.Rejected id) :
      j.bridge.proc.Rejected id := by
    rw [Split.step_write_proc idle] at rejected
    rcases Processor.beginCommand_rejected h.locked.traced rejected with before | ⟨_, _, no⟩
    · exact before
    · exact Bool.noConfusion (more.symm.trans no)
  have owns {d : Command} (other : d.id ≠ c.id) (before : j.bridge.book.Owns d.id d.task) :
      (j.bridge.step (.write c delivered)).book.Owns d.id d.task := by
    rw [book]
    exact (Book.Owns.enter_ne other).mpr before
  exact {
    locked := locked
    distinct := by
      rw [queued, List.map_append, List.map_singleton, ← List.concat_eq_append, List.nodup_concat]
      refine ⟨?_, h.distinct⟩
      intro mem
      obtain ⟨c', queued, at_id⟩ := List.mem_map.mp mem
      exact unheld c' (mem_held.mpr (.inl queued)) at_id
    handled x here c' queued := by
      rcases List.mem_append.mp queued with before | last
      · exact h.handled x here c' before
      · rw [List.mem_singleton.mp last]
        exact Ne.symm (unheld x.1 (mem_held.mpr (.inr ⟨x.2, here⟩)))
    silent c' new f mem := by
      rcases ahead_queued unheld new with ⟨before, _⟩ | rfl
      · exact h.silent c' before f mem
      · exact unheard f mem
    parked c' new d mem := by
      rcases ahead_queued unheld new with ⟨before, _⟩ | rfl
      · exact h.parked c' before d mem
      · exact undriven d mem
    checked := h.checked
    unrejected c' new rejected := by
      rcases live_queued unheld new with ⟨before, _⟩ | rfl
      · exact h.unrejected c' before (same rejected)
      · exact unrejected (same rejected)
    owned c' new task := by
      rcases live_queued unheld new with ⟨before, other⟩ | rfl
      · exact owns other (h.owned c' before task)
      · rw [queued, book]
        exact Book.Owns.enter_self.mpr (by rw [token, if_pos task])
    driven d mem := by
      exact owns (undriven d mem) (h.driven d mem)
    heard := h.heard
    onTime := h.onTime }

theorem Agreed.write {j : Joint} (h : j.Agreed) (c : Command) (delivered : Bool)
    (settled : j.Settled (.write c delivered)) : (j.step (.write c delivered)).Agreed := by
  simp only [step]
  cases flying : j.bridge.inFlight with
  | some other =>
    rw [if_neg (fun sent => by cases flying.symm.trans sent.1),
      Split.step_write_busy (by rw [flying]; rfl)]
    exact h
  | none =>
    cases more : (j.bridge.proc.beginCommand c delivered).2 with
    | false =>
      rw [if_neg (fun sent => Bool.false_ne_true (more.symm.trans sent.2))]
      exact h.write_done flying more settled
    | true =>
      rw [if_pos ⟨flying, more⟩]
      exact h.write_sent flying more settled

/-! ## Moves of the adapter -/

/-- The adapter has less to do than before. -/
theorem Agreed.fewer {j : Joint} (h : j.Agreed) {queue : List Command} (rest : queue.Sublist j.queue)
    {handling : Option (Command × Stage)} (less : ∀ x ∈ handling, x ∈ j.handling) :
    Agreed { j with queue := queue, handling := handling } := by
  have ahead {c : Command} (new : Ahead { j with queue := queue, handling := handling } c) :
      j.Ahead c :=
    new.imp (fun queued => rest.subset queued) fun ⟨stage, here, acts⟩ => ⟨stage, less _ here, acts⟩
  have alive {c : Command} (new : c ∈ live { j with queue := queue, handling := handling }) :
      c ∈ j.live := by
    rw [mem_live] at new ⊢
    exact new.imp (fun ⟨queued, acts⟩ => ⟨rest.subset queued, acts⟩)
      fun ⟨stage, here, acts⟩ => ⟨stage, less _ here, acts⟩
  exact {
    locked := h.locked
    distinct := h.distinct.sublist (rest.map Command.id)
    handled := fun x here c queued => h.handled x (less x here) c (rest.subset queued)
    silent := fun c new => h.silent c (ahead new)
    parked := fun c new => h.parked c (ahead new)
    checked := fun c here => h.checked c (less _ here)
    unrejected := fun c new => h.unrejected c (alive new)
    owned := fun c new => h.owned c (alive new)
    driven := h.driven
    heard := h.heard
    onTime := h.onTime }

/-- A feedback has left the air. -/
theorem Agreed.arrived {j : Joint} (h : j.Agreed) {feedback : List Feedback}
    (fewer : feedback ⊆ j.feedback) : Agreed { j with feedback := feedback } where
  locked := h.locked
  distinct := h.distinct
  handled := h.handled
  silent c ahead f mem := h.silent c ahead f (fewer mem)
  parked := h.parked
  checked := h.checked
  unrejected := h.unrejected
  owned := h.owned
  driven := h.driven
  heard d driving f mem := h.heard d driving f (fewer mem)
  onTime := h.onTime

/-- The adapter may act on the command: nothing has been said of it, nothing drives under its id, no
rejection has been published, and a task owns its lock. -/
structure Cleared (j : Joint) (c : Command) : Prop where
  silent : ∀ f ∈ j.feedback, f.commandId ≠ c.id
  parked : ∀ d ∈ j.driving, d.id ≠ c.id
  unrejected : ¬ j.bridge.proc.Rejected c.id
  owned : c.isTask = true → j.bridge.book.Owns c.id c.task

theorem Agreed.cleared {j : Joint} (h : j.Agreed) {c : Command} (alive : c ∈ j.live) :
    j.Cleared c where
  silent := h.silent c (ahead_of_live alive)
  parked := h.parked c (ahead_of_live alive)
  unrejected := h.unrejected c alive
  owned := h.owned c alive

theorem mem_drives {j : Joint} {c d : Command} {m : Move} (driving : d ∈ j.drives c m) :
    (d ∈ j.driving ∧ ((∃ f ∈ m.feedback, f.state = some .failed) → m.deed = none → d.id ≠ c.id)) ∨
      (d = c ∧ ∃ pose, m.deed = some (.navigate pose)) := by
  unfold drives at driving
  split at driving
  · next pose deed =>
    rcases List.mem_append.mp driving with before | new
    · exact .inl ⟨before, fun _ still => by cases deed.symm.trans still⟩
    · exact .inr ⟨List.mem_singleton.mp new, pose, deed⟩
  · split at driving
    · obtain ⟨before, other⟩ := List.mem_filter.mp driving
      exact .inl ⟨before, fun _ _ => of_decide_eq_true other⟩
    · next quiet => exact .inl ⟨driving, fun failed => absurd failed quiet⟩

/-- What a move of the adapter must keep to: it goes on and acts only with a cleared command, goes on
in silence, starts navigation for tasks and with their acceptance, and reports on what drives only that
it is executed or has failed. -/
structure Keeps (j : Joint) (c : Command) (m : Move) : Prop where
  named : ∀ f ∈ m.feedback, f.commandId = c.id
  cleared : (m.deed ≠ none ∨ ∃ s, m.next = some s ∧ s ≠ .observing) → j.Cleared c
  quiet : ∀ s, m.next = some s → s ≠ .observing →
    m.feedback = none ∧ ∀ pose, m.deed ≠ some (.navigate pose)
  checked : m.next = some .checking → c.isTask = true
  navigates : ∀ pose, m.deed = some (.navigate pose) →
    c.isTask = true ∧ ∀ f ∈ m.feedback, f.state = some .accepted
  watched : (∃ d ∈ j.driving, d.id = c.id) → m.deed = none ∧
    ∀ f ∈ m.feedback, f.state = some .executing ∨ f.state = some .failed

/-- A move that keeps to it keeps the two agreed. -/
theorem Agreed.move {j : Joint} {c : Command} {m : Move} (h : Agreed { j with handling := none })
    (apart : ∀ c' ∈ j.queue, c'.id ≠ c.id) (keeps : j.Keeps c m) : (j.move c m).Agreed := by
  have handling {c' : Command} {s : Stage} (here : (j.move c m).handling = some (c', s)) :
      c' = c ∧ m.next = some s := by
    obtain ⟨s', next, pair⟩ := Option.map_eq_some_iff.mp here
    cases pair
    exact ⟨rfl, next⟩
  have ahead {c' : Command} (new : (j.move c m).Ahead c') :
      c' ∈ j.queue ∨ (c' = c ∧ ∃ s, m.next = some s ∧ s ≠ .observing) :=
    new.imp_right fun ⟨s, here, acts⟩ => ⟨(handling here).1, s, (handling here).2, acts⟩
  have said {f : Feedback} (mem : f ∈ (j.move c m).feedback) : f ∈ j.feedback ∨ f ∈ m.feedback :=
    (List.mem_append.mp mem).imp_right Option.mem_toList.mp
  have alive {c' : Command} (new : c' ∈ (j.move c m).live) :
      c' ∈ live { j with handling := none } ∨ (c' = c ∧ ∃ s, m.next = some s ∧ s ≠ .observing) := by
    rcases mem_live.mp new with queued | ⟨s, here, acts⟩
    · exact .inl (mem_live.mpr (.inl queued))
    · exact .inr ⟨(handling here).1, s, (handling here).2, acts⟩
  exact {
    locked := h.locked
    distinct := h.distinct
    handled := by
      rintro ⟨c₁, s⟩ here c' queued
      rw [(handling here).1]
      exact apart c' queued
    silent := by
      intro c' new f mem
      rcases ahead new with queued | ⟨rfl, s, next, acts⟩
      · rcases said mem with before | sent
        · exact h.silent c' (.inl queued) f before
        · rw [keeps.named f sent]
          exact (apart c' queued).symm
      · rcases said mem with before | sent
        · exact (keeps.cleared (.inr ⟨s, next, acts⟩)).silent f before
        · cases (keeps.quiet s next acts).1.symm.trans sent
    parked := by
      intro c' new d drives
      rcases mem_drives drives with ⟨before, _⟩ | ⟨rfl, pose, deed⟩
      · rcases ahead new with queued | ⟨rfl, on⟩
        · exact h.parked c' (.inl queued) d before
        · exact (keeps.cleared (.inr on)).parked d before
      · rcases ahead new with queued | ⟨_, s, next, acts⟩
        · exact (apart c' queued).symm
        · exact absurd deed ((keeps.quiet s next acts).2 pose)
    checked := by
      intro c' here
      obtain ⟨rfl, next⟩ := handling here
      exact keeps.checked next
    unrejected := by
      intro c' new
      rcases alive new with before | ⟨rfl, on⟩
      · exact h.unrejected c' before
      · exact (keeps.cleared (.inr on)).unrejected
    owned := by
      intro c' new
      rcases alive new with before | ⟨rfl, on⟩
      · exact h.owned c' before
      · exact (keeps.cleared (.inr on)).owned
    driven := by
      intro d drives
      rcases mem_drives drives with ⟨before, _⟩ | ⟨rfl, pose, deed⟩
      · exact h.driven d before
      · exact (keeps.cleared (.inl (by rw [deed]; nofun))).owned (keeps.navigates pose deed).1
    heard := by
      intro d drives f mem at_id
      rcases mem_drives drives with ⟨before, stays⟩ | ⟨rfl, pose, deed⟩
      · rcases said mem with earlier | sent
        · exact h.heard d before f earlier at_id
        · have same : d.id = c.id := at_id.symm.trans (keeps.named f sent)
          obtain ⟨still, states⟩ := keeps.watched ⟨d, before, same⟩
          rcases states f sent with executing | failed
          · exact .inr executing
          · exact absurd same (stays ⟨f, sent, failed⟩ still)
      · rcases said mem with earlier | sent
        · exact absurd at_id
            ((keeps.cleared (.inl (by rw [deed]; nofun))).silent f earlier)
        · exact .inl ((keeps.navigates pose deed).2 f sent)
    onTime := by
      intro a mem
      rcases List.mem_append.mp mem with before | new
      · exact h.onTime a before
      · obtain ⟨deed, done, rfl⟩ := Option.map_eq_some_iff.mp (Option.mem_toList.mp new)
        exact decide_eq_false (keeps.cleared (.inl (by rw [done]; nofun))).unrejected }

theorem Agreed.stage {j : Joint} (h : j.Agreed) {c : Command} {stage : Stage} (ok : Bool)
    (here : j.handling = some (c, stage)) : (j.move c (Vehicle.advance c stage ok)).Agreed := by
  have idle : Agreed { j with handling := none } :=
    h.fewer (List.Sublist.refl _) fun _ left => by cases left
  refine idle.move (h.handled _ here) ?_
  by_cases watching : stage = .observing
  · subst watching
    obtain ⟨next, deed, states⟩ := advance_observing c ok
    exact {
      named := fun f sent => advance_commandId sent
      cleared := by
        rintro (acts | ⟨s, on, _⟩)
        · exact absurd deed acts
        · cases next.symm.trans on
      quiet := fun s on _ => by cases next.symm.trans on
      checked := fun on => by cases next.symm.trans on
      navigates := fun pose drives => by cases deed.symm.trans drives
      watched := fun _ => ⟨deed, states⟩ }
  · have cleared : j.Cleared c := h.cleared (mem_live.mpr (.inr ⟨stage, here, watching⟩))
    exact {
      named := fun f sent => advance_commandId sent
      cleared := fun _ => cleared
      quiet := fun s on acts => ⟨(advance_next on acts).1, fun pose drives => by
        obtain ⟨_, f, sent, _⟩ := advance_navigate drives
        cases (advance_next on acts).1.symm.trans sent⟩
      checked := fun on => absurd rfl (advance_next on (by decide)).2
      navigates := fun pose drives => by
        obtain ⟨rfl, f, sent, accepted⟩ := advance_navigate drives
        exact ⟨h.checked c here, fun f' sent' => Option.some.inj (sent.symm.trans sent') ▸ accepted⟩
      watched := fun ⟨d, driving, at_id⟩ => absurd at_id (cleared.parked d driving) }

theorem Agreed.take {j : Joint} (h : j.Agreed) {c : Command} {rest : List Command}
    (queue : j.queue = c :: rest) :
    (Joint.move { j with queue := rest } c (Vehicle.take c j.bridge.proc.now)).Agreed := by
  have first : c ∈ j.queue := by rw [queue]; exact List.mem_cons_self ..
  have apart : ∀ c' ∈ rest, c'.id ≠ c.id := by
    have distinct := h.distinct
    rw [queue, List.map_cons, List.nodup_cons] at distinct
    exact fun c' mem same => distinct.1 (List.mem_map.mpr ⟨c', mem, same⟩)
  have shorter : rest.Sublist j.queue := by rw [queue]; exact List.sublist_cons_self ..
  have kind {s : Stage} (up : (Vehicle.take c j.bridge.proc.now).next = some s) : j.Cleared c := by
    obtain ⟨kinds, fresh, _⟩ := take_next up
    refine h.cleared (mem_live.mpr (.inl ⟨first, ?_, fresh⟩))
    rcases kinds with kind | kind <;> simp [actsOn, kind]
  have before : Agreed { j with queue := rest, handling := none } :=
    h.fewer shorter fun _ left => by cases left
  refine before.move (j := { j with queue := rest }) apart {
    named := fun f sent => take_commandId sent
    cleared := ?_
    quiet := fun s up _ => ⟨(take_next up).2.2.1, fun pose drives => by
      cases (take_deed c _).symm.trans drives⟩
    checked := fun up => by
      have patrol := (take_next up).2.2.2 rfl
      simp only [Command.isTask, patrol, Cmd.isTask]
    navigates := fun pose drives => by cases (take_deed c _).symm.trans drives
    watched := fun ⟨d, driving, at_id⟩ => absurd at_id (h.parked c (.inl first) d driving) }
  rintro (acts | ⟨s, up, _⟩)
  · exact absurd (take_deed c _) acts
  · obtain ⟨silent, parked, unrejected, owned⟩ := kind up
    exact ⟨silent, parked, unrejected, owned⟩

/-! ## Every run -/

/-- Every settled step keeps the two agreed. -/
theorem Agreed.step (j : Joint) (e : JointEvent) (h : j.Agreed) (settled : j.Settled e) :
    (j.step e).Agreed := by
  cases e with
  | write c delivered => exact h.write c delivered settled
  | register => exact h.register settled
  | arrive index =>
    simp only [Joint.step]
    cases sent : j.feedback[index]? with
    | none => exact h
    | some f =>
      exact (h.feedback (List.mem_of_getElem? sent)).arrived (List.eraseIdx_subset ..)
  | timeout handle => exact h.timeout handle settled
  | advance elapsed =>
    exact h.quiet (h.locked.of_same rfl rfl rfl rfl rfl) (j.bridge.now_le_step (.advance elapsed)) rfl
      rfl
  | applyStatus fields =>
    exact h.quiet (h.locked.of_same rfl rfl rfl rfl rfl) (Int.le_refl _) rfl rfl
  | setLocation value =>
    have lock : (j.bridge.step (.setLocation value)).proc.book = j.bridge.proc.book := by
      simp only [Split.step, Processor.telemetry, Processor.book,
        BridgeState.setLocation_taskLockId]
    exact h.quiet
      (h.locked.of_same rfl (BridgeState.setLocation_taskLockId ..) rfl
        (BridgeState.setLocation_processed ..) rfl)
      (Int.le_refl _) rfl (Split.book_stay rfl lock)
  | clearRosTelemetry =>
    exact h.quiet (h.locked.of_same rfl rfl rfl rfl rfl) (Int.le_refl _) rfl rfl
  | lose index => exact h.fewer (List.eraseIdx_sublist ..) fun _ here => here
  | take =>
    simp only [Joint.step]
    split
    · next queue => exact h.take queue
    · exact h
  | stage ok =>
    simp only [Joint.step]
    split
    · exact h
    · next here => exact h.stage ok here

/-- **In every settled run no rejected command is acted on, and what drives holds the lock.** -/
theorem rejected_not_executed (config : Config) (vehicleId bootId : String) (start : Time)
    (events : List JointEvent)
    (settled : Runs.Meets Joint.step Settled (Joint.initial config vehicleId bootId start) events) :
    ((Joint.initial config vehicleId bootId start).run events).Obeyed :=
  (Runs.invariant Agreed.step (Agreed.initial config vehicleId bootId start) settled).obeyed

/-- A patrol to one waypoint. -/
def patrolTo (id : String) (pose : Pose) : Command :=
  { patrol id with params := some (.object [.dict (.str "POINT") (some pose)]) }

/-- A patrol whose acceptance arrives in time, with a `stop_motion` while it drives. -/
theorem rejected_not_executed_patrol :
    ((Joint.initial .vehicle "V1" "B1" 0).run [.write (patrolTo "P" ⟨1, 2, 0⟩) true, .register,
      .take, .stage true, .arrive 0, .advance 3000000, .timeout 0, .stage true,
      .write (stopMotion "S") true, .register, .take, .arrive 0, .stage true, .stage true,
      .stage true, .arrive 0]).Obeyed :=
  rejected_not_executed .vehicle "V1" "B1" 0 _ (by decide)

/-- The adapter checks for three seconds whether navigation is ready, the feedback timer rejects the
patrol and frees the lock, and then the adapter finds navigation ready and drives. -/
theorem not_rejected_not_executed_slow_check :
    ¬ ((Joint.initial .vehicle "V1" "B1" 0).run [.write (patrolTo "P" ⟨1, 2, 0⟩) true, .register,
      .take, .advance 3000000, .timeout 0, .stage true]).Obeyed :=
  fun obeyed => absurd (obeyed.locked (by decide)) (by decide)

end Firebot.Vehicle.Joint
