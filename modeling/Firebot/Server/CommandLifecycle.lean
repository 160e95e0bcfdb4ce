import Firebot.Lib.Run
import Firebot.Lib.UnitOfWork
import Firebot.Data.Json

/-!
# One command between the dispatcher, the ingress and the worker

Three processes write one row of `commands`: the dispatcher publishes the command from the outbox
table or from the safety stream and notes what became of it, the ingress notes the vehicle's ACK, and
the worker's sweep notes that no ACK came. Each works in a database transaction of its own: it reads
the row, changes its copy, and at the commit writes the columns it has changed (`Row.merge`). The
dispatcher publishes to MQTT and waits for the broker between its read and its commit.

`handle_ack` looks at `ack_at` before it writes, and the sweep at the lifecycle; the dispatcher looks at
neither, and none of them looks again at the commit. **The ACK stands where none is committed between the
read and the commit of another transaction, and no dispatcher that goes through with its attempt has read
the row after it** (`InTime`, `ack_stands`). An outbox attempt that fails may come at any time, since it
leaves the row alone. Nothing is said of runs in which the ACK comes into such a window and the copy of the
row happens to be what the ACK leaves.
-/

namespace Firebot.Server

/-! ## The row -/

/-- `lifecycle_status`, as far as these processes write it. -/
inductive Lifecycle where
  | created
  | queued
  | published
  | publishedUnconfirmed
  | expired
  | ackAccepted
  | ackUnsupported
  | ackRejected
  deriving DecidableEq, Repr

/-- The lifecycles an ACK sets. -/
def Lifecycle.answered : Lifecycle → Bool
  | .ackAccepted | .ackUnsupported | .ackRejected => true
  | _ => false

/-- The columns of `commands` that these processes write. -/
structure Row where
  lifecycleStatus : Lifecycle
  publishedAt : Option Time
  ackAt : Option Time
  ackStatus : Option String
  ackReason : Option String
  terminalAt : Option Time
  deriving DecidableEq

/-- The row after a transaction that loaded one row and left another commits. -/
def Row.merge (loaded left found : Row) : Row where
  lifecycleStatus :=
    UnitOfWork.column loaded.lifecycleStatus left.lifecycleStatus found.lifecycleStatus
  publishedAt := UnitOfWork.column loaded.publishedAt left.publishedAt found.publishedAt
  ackAt := UnitOfWork.column loaded.ackAt left.ackAt found.ackAt
  ackStatus := UnitOfWork.column loaded.ackStatus left.ackStatus found.ackStatus
  ackReason := UnitOfWork.column loaded.ackReason left.ackReason found.ackReason
  terminalAt := UnitOfWork.column loaded.terminalAt left.terminalAt found.terminalAt

/-- How a command is dispatched: through the outbox table, or through the safety stream when the
robot can be reached. -/
inductive Path where
  | outbox
  | safety (deliverable : Bool)
  deriving DecidableEq, Repr

/-- The row as `create_command` or `create_safety_command` writes it. -/
def Row.created : Path → Row
  | .outbox =>
    { lifecycleStatus := .queued, publishedAt := none, ackAt := none, ackStatus := none,
      ackReason := none, terminalAt := none }
  | .safety true =>
    { lifecycleStatus := .created, publishedAt := none, ackAt := none, ackStatus := none,
      ackReason := none, terminalAt := none }
  | .safety false =>
    { lifecycleStatus := .publishedUnconfirmed, publishedAt := none, ackAt := none,
      ackStatus := none, ackReason := some "OFFLINE_NOT_DELIVERED", terminalAt := none }

/-! ## The outbox event -/

/-- `OutboxEvent.status`. -/
inductive OutboxStatus where
  | pending
  | published
  | expired
  deriving DecidableEq, Repr

/-- The columns of the command's outbox event. -/
structure Outbox where
  status : OutboxStatus
  attempts : Nat
  availableAt : Time
  publishedAt : Option Time
  lastError : Option String
  deriving DecidableEq

/-! ## The transactions -/

/-- Who has opened a transaction. -/
inductive Owner where
  | outbox
  | safety
  | ack
  | sweep
  deriving DecidableEq, Repr

/-- How far a transaction has come: before the publish, waiting for the broker, ready to commit. -/
inductive Phase where
  | reading
  | sent
  | ready
  deriving DecidableEq, Repr

/-- An open transaction: the row it has loaded, its own copy, its copy of the outbox event, and
whether it will acknowledge the safety stream's event. -/
structure Tx where
  owner : Owner
  phase : Phase
  loaded : Row
  row : Row
  outbox : Outbox
  acknowledge : Bool
  deriving DecidableEq

/-- A `command_ack` message. -/
structure AckMessage where
  status : String
  reasonCode : Option String
  reason : Option String
  deriving DecidableEq

/-- Python's `a or b` on optional texts. -/
def pyOr (a b : Option String) : Option String := if a = none ∨ a = some "" then b else a

/-! ### The dispatcher -/

/-- `publish_command` has returned. -/
def Tx.published (tx : Tx) (now : Time) : Tx :=
  { tx with
    phase := .ready
    row := { tx.row with lifecycleStatus := .published, publishedAt := some now }
    outbox := { tx.outbox with status := .published, publishedAt := some now,
                               attempts := tx.outbox.attempts + 1 }
    acknowledge := true }

/-- `publish_command` has raised `TimeoutError`. -/
def Tx.expired (tx : Tx) (now : Time) : Tx :=
  { tx with
    phase := .ready
    row := { tx.row with lifecycleStatus := .expired, terminalAt := some now }
    outbox := { tx.outbox with status := .expired, lastError := some "expired" }
    acknowledge := true }

/-- An exception: the name of its type and its text. -/
structure Failure where
  typeName : String
  text : String
  deriving DecidableEq

/-- `publish_command` has raised any other exception. The outbox event is put off; the safety event
stays in the stream and the command keeps the exception's name as its reason. -/
def Tx.failed (tx : Tx) (error : Failure) (now : Time) : Tx :=
  match tx.owner with
  | .outbox =>
    let attempts := tx.outbox.attempts + 1
    { tx with
      phase := .ready
      outbox := { tx.outbox with
                  attempts := attempts
                  lastError := some (error.text.take 500).toString
                  availableAt := now + (min 30 (Nat.pow 2 (min attempts 5)) : Nat) * second } }
  | _ => { tx with phase := .ready, row := { tx.row with ackReason := some error.typeName } }

/-- `publish_command` up to `client.publish`; `invalid` is the exception of `validate_message`, if
any. -/
def Tx.publish (tx : Tx) (invalid : Option Failure) (expiresAt now : Time) : Tx :=
  match invalid with
  | some error => tx.failed error now
  | none => if expiresAt ≤ now then tx.expired now else { tx with phase := .sent }

/-- `publish_command` from `wait_for_publish` on; `error` is the exception it ends in, if any. -/
def Tx.await (tx : Tx) (error : Option Failure) (now : Time) : Tx :=
  match error with
  | none => tx.published now
  | some error => tx.failed error now

/-- An outbox attempt that has not gone through: the event is still to be published. -/
def Tx.PutOff (tx : Tx) : Prop := tx.owner = .outbox ∧ tx.outbox.status = .pending

instance (tx : Tx) : Decidable tx.PutOff := inferInstanceAs (Decidable (_ ∧ _))

/-! ### The ingress and the sweep -/

/-- `handle_ack` on a row without an ACK. -/
def Row.acked (row : Row) (msg : AckMessage) (received : Time) : Row :=
  let row := { row with ackAt := some received, ackStatus := some msg.status,
                        ackReason := pyOr msg.reasonCode msg.reason }
  if msg.status = "accepted" then { row with lifecycleStatus := .ackAccepted }
  else if msg.status = "unsupported" then
    { row with lifecycleStatus := .ackUnsupported, terminalAt := some received }
  else { row with lifecycleStatus := .ackRejected, terminalAt := some received }

/-- What the sweep makes of an overdue row. -/
def Row.timedOut (row : Row) : Row :=
  { row with lifecycleStatus := .publishedUnconfirmed, ackReason := some "ACK_TIMEOUT" }

/-! ## The steps -/

/-- The command, its dispatch, the open transactions and the clock. `answer` is kept for the proofs:
the reason in the row when the ACK was committed. -/
structure World where
  path : Path
  expiresAt : Time
  ackTimeout : Nat
  row : Row
  outbox : Outbox
  streamed : Bool
  acknowledged : Bool
  txs : List Tx
  now : Time
  answer : Option (Option String)
  deriving DecidableEq

namespace World

/-- A command as it is created at time `now`. -/
def initial (path : Path) (expiresAt : Time) (ackTimeout : Nat) (now : Time) : World where
  path := path
  expiresAt := expiresAt
  ackTimeout := ackTimeout
  row := .created path
  outbox := { status := .pending, attempts := 0, availableAt := now, publishedAt := none,
              lastError := none }
  streamed := path = .safety true
  acknowledged := false
  txs := []
  now := now
  answer := none

/-- The owner has a transaction open. -/
def opened (s : World) (owner : Owner) : Bool := s.txs.any (·.owner = owner)

/-- A transaction is opened on the row as it is now. -/
def begin (s : World) (owner : Owner) (phase : Phase) (row : Row) : World :=
  { s with txs := s.txs ++ [{ owner, phase, loaded := s.row, row, outbox := s.outbox,
                              acknowledge := false }] }

/-- An open transaction goes on. -/
def update (s : World) (index : Nat) (tx : Tx) : World := { s with txs := s.txs.set index tx }

/-- The sweep selects the row: published, and longer ago than the ACK timeout. -/
def overdue (s : World) : Bool :=
  s.row.lifecycleStatus = .published && s.row.publishedAt.any (· < s.now - s.ackTimeout)

/-- What can happen. -/
inductive Event where
  | readOutbox
  | readSafety
  | publish (index : Nat) (invalid : Option Failure)
  | await (index : Nat) (error : Option Failure)
  | readAck (msg : AckMessage)
  | readSweep
  | commit (index : Nat)
  | rollback (index : Nat)
  | xack
  | advance (elapsed : Nat)

/-- A transaction commits: the row and the outbox event take its changes. -/
def commit (s : World) (index : Nat) (tx : Tx) : World :=
  let row := tx.loaded.merge tx.row s.row
  { s with
    row
    outbox := if tx.owner = .outbox then tx.outbox else s.outbox
    acknowledged := s.acknowledged || (tx.owner = .safety && tx.acknowledge)
    txs := s.txs.eraseIdx index
    answer := if tx.owner = .ack then some row.ackReason else s.answer }

/-- One event. The outbox event is locked while a dispatcher works on it; the ingress and the worker
have one thread each. -/
def step (s : World) : Event → World
  | .readOutbox =>
    if s.path = .outbox ∧ s.outbox.status = .pending ∧ s.outbox.availableAt ≤ s.now ∧
        s.opened .outbox = false then
      s.begin .outbox .reading s.row
    else s
  | .readSafety => if s.streamed then s.begin .safety .reading s.row else s
  | .publish index invalid =>
    match s.txs[index]? with
    | none => s
    | some tx =>
      if tx.phase = .reading then s.update index (tx.publish invalid s.expiresAt s.now) else s
  | .await index error =>
    match s.txs[index]? with
    | none => s
    | some tx => if tx.phase = .sent then s.update index (tx.await error s.now) else s
  | .readAck msg =>
    if s.opened .ack ∨ s.row.ackAt ≠ none then s else s.begin .ack .ready (s.row.acked msg s.now)
  | .readSweep =>
    if s.opened .sweep = false ∧ s.overdue = true then s.begin .sweep .ready s.row.timedOut else s
  | .commit index =>
    match s.txs[index]? with
    | none => s
    | some tx => if tx.phase = .ready then s.commit index tx else s
  | .rollback index => { s with txs := s.txs.eraseIdx index }
  | .xack => if s.acknowledged then { s with streamed := false } else s
  | .advance elapsed => { s with now := s.now + elapsed }

/-- The state after a list of events. -/
abbrev run (s : World) (events : List Event) : World := Runs.run step s events

/-! ## What a transaction may write -/

/-- A transaction's copy differs from the row it loaded as its owner may make it differ: an ACK turns
a row without one into an answered one, the others leave `ack_at` and set no answered lifecycle, an outbox
attempt that has not gone through leaves the row, and the sweep has selected a row without an ACK. -/
structure Sound (tx : Tx) : Prop where
  unchanged : tx.PutOff → tx.row = tx.loaded
  swept : tx.owner = .sweep → tx.loaded.ackAt = none
  ack : tx.owner = .ack → tx.loaded.ackAt = none ∧ tx.loaded.lifecycleStatus.answered = false ∧
    tx.row.ackAt ≠ none ∧ tx.row.lifecycleStatus.answered = true
  others : tx.owner ≠ .ack → tx.row.ackAt = tx.loaded.ackAt ∧
    (tx.row.lifecycleStatus = tx.loaded.lifecycleStatus ∨
      tx.row.lifecycleStatus.answered = false)

@[simp] theorem Tx.failed_owner (tx : Tx) (error : Failure) (now : Time) :
    (tx.failed error now).owner = tx.owner := by
  unfold Tx.failed
  split <;> rfl

@[simp] theorem Tx.publish_owner (tx : Tx) (invalid : Option Failure) (expiresAt now : Time) :
    (tx.publish invalid expiresAt now).owner = tx.owner := by
  unfold Tx.publish
  split
  · exact Tx.failed_owner ..
  · split <;> rfl

@[simp] theorem Tx.await_owner (tx : Tx) (error : Option Failure) (now : Time) :
    (tx.await error now).owner = tx.owner := by
  unfold Tx.await
  split
  · rfl
  · exact Tx.failed_owner ..

/-- The dispatcher's work on its copy stays sound. -/
theorem Sound.failed {tx : Tx} (h : Sound tx) (error : Failure) (now : Time) :
    Sound (tx.failed error now) := by
  unfold Tx.failed
  split
  · exact ⟨h.unchanged, h.swept, h.ack, h.others⟩
  next other => exact ⟨fun putOff => absurd putOff.1 other, h.swept, h.ack, h.others⟩

/-- A command that is published. -/
theorem Sound.published {tx : Tx} (h : Sound tx) (dispatch : tx.owner ≠ .ack) (now : Time) :
    Sound (tx.published now) where
  unchanged putOff := by cases putOff.2
  swept := h.swept
  ack own := absurd own dispatch
  others _ := ⟨(h.others dispatch).1, .inr rfl⟩

/-- A command that is given up. -/
theorem Sound.expired {tx : Tx} (h : Sound tx) (dispatch : tx.owner ≠ .ack) (now : Time) :
    Sound (tx.expired now) where
  unchanged putOff := by cases putOff.2
  swept := h.swept
  ack own := absurd own dispatch
  others _ := ⟨(h.others dispatch).1, .inr rfl⟩

/-- The attempt to publish, with its three ends. -/
theorem Sound.publish {tx : Tx} (h : Sound tx) (dispatch : tx.owner ≠ .ack)
    (invalid : Option Failure) (expiresAt now : Time) :
    Sound (tx.publish invalid expiresAt now) := by
  unfold Tx.publish
  split
  · exact h.failed _ now
  · split
    · exact h.expired dispatch now
    · exact ⟨h.unchanged, h.swept, h.ack, h.others⟩

/-- The wait for the broker. -/
theorem Sound.await {tx : Tx} (h : Sound tx) (dispatch : tx.owner ≠ .ack) (error : Option Failure)
    (now : Time) : Sound (tx.await error now) := by
  unfold Tx.await
  split
  · exact h.published dispatch now
  · exact h.failed _ now

/-- An ACK stamps the row. -/
theorem Row.acked_ackAt (row : Row) (msg : AckMessage) (received : Time) :
    (row.acked msg received).ackAt = some received := by
  unfold Row.acked
  split
  · rfl
  · split <;> rfl

/-- An ACK leaves the row answered. -/
theorem Row.acked_answered (row : Row) (msg : AckMessage) (received : Time) :
    (row.acked msg received).lifecycleStatus.answered = true := by
  unfold Row.acked
  split
  · rfl
  · split <;> rfl

/-! ## Every run -/

/-- **After the ACK the lifecycle is the one the ACK set, and the reason the one it left.** -/
def AckStands (s : World) : Prop :=
  s.row.ackAt ≠ none →
    s.row.lifecycleStatus ∉ [.published, .publishedUnconfirmed, .expired] ∧
      s.answer = some s.row.ackReason

/-- No ACK is committed between the read and the commit of another transaction, and a dispatcher that goes
through with its attempt has read the row before any ACK. -/
def InTime (s : World) : Event → Prop
  | .commit index => ∀ tx ∈ s.txs[index]?, tx.phase = .ready → tx.owner ≠ .ack → ¬ tx.PutOff →
      s.row.ackAt = tx.loaded.ackAt ∧ (tx.owner ≠ .sweep → tx.loaded.ackAt = none)
  | _ => True

instance (s : World) : (e : Event) → Decidable (s.InTime e)
  | .commit index => inferInstanceAs (Decidable (∀ tx ∈ s.txs[index]?, tx.phase = .ready →
      tx.owner ≠ .ack → ¬ tx.PutOff →
        s.row.ackAt = tx.loaded.ackAt ∧ (tx.owner ≠ .sweep → tx.loaded.ackAt = none)))
  | .readOutbox | .readSafety | .publish .. | .await .. | .readAck _ | .readSweep | .rollback _
  | .xack | .advance _ => isTrue trivial

/-- The open transactions are sound, dispatchers at work are not the ingress, and the row is answered
exactly when it has an ACK. -/
structure Settled (s : World) : Prop where
  txs : ∀ tx ∈ s.txs, Sound tx ∧ (tx.phase ≠ .ready → tx.owner ≠ .ack)
  open_row : s.row.ackAt = none → s.row.lifecycleStatus.answered = false
  acked_row : s.row.ackAt ≠ none →
    s.row.lifecycleStatus.answered = true ∧ s.answer = some s.row.ackReason

/-- A command that has just been created is settled. -/
theorem Settled.initial (path : Path) (expiresAt : Time) (ackTimeout : Nat) (now : Time) :
    (World.initial path expiresAt ackTimeout now).Settled where
  txs _ mem := by cases mem
  open_row _ := by
    cases path with
    | outbox => rfl
    | safety deliverable => cases deliverable <;> rfl
  acked_row acked := by
    refine absurd ?_ acked
    cases path with
    | outbox => rfl
    | safety deliverable => cases deliverable <;> rfl

/-- A settled row is not behind its ACK. -/
theorem Settled.ackStands {s : World} (h : s.Settled) : s.AckStands := by
  intro acked
  obtain ⟨answered, answer⟩ := h.acked_row acked
  refine ⟨?_, answer⟩
  intro behind
  simp only [List.mem_cons, List.not_mem_nil, or_false] at behind
  rcases behind with behind | behind | behind <;> rw [behind] at answered <;> cases answered

/-- A sound transaction is opened. -/
theorem Settled.begin {s : World} (h : s.Settled) {owner : Owner} {phase : Phase} {row : Row}
    (unchanged : owner = .outbox → row = s.row) (swept : owner = .sweep → s.row.ackAt = none)
    (own : owner = .ack → phase = .ready ∧ s.row.ackAt = none ∧ row.ackAt ≠ none ∧
      row.lifecycleStatus.answered = true)
    (others : owner ≠ .ack → row.ackAt = s.row.ackAt ∧
      (row.lifecycleStatus = s.row.lifecycleStatus ∨ row.lifecycleStatus.answered = false)) :
    (s.begin owner phase row).Settled := by
  refine ⟨?_, h.open_row, h.acked_row⟩
  intro tx mem
  rcases List.mem_append.mp mem with before | new
  · exact h.txs tx before
  · rw [List.mem_singleton.mp new]
    refine ⟨⟨fun putOff => unchanged putOff.1, swept, ?_, others⟩, fun working isAck => working (own isAck).1⟩
    intro isAck
    obtain ⟨_, unacked, acked, answered⟩ := own isAck
    exact ⟨unacked, h.open_row unacked, acked, answered⟩

/-- The sweep selects no row that has an ACK. -/
theorem Settled.unacked_of_overdue {s : World} (h : s.Settled) (overdue : s.overdue = true) :
    s.row.ackAt = none := by
  have published : s.row.lifecycleStatus = .published := of_decide_eq_true (Bool.and_eq_true_iff.mp overdue).1
  by_contra acked
  have answered := (h.acked_row acked).1
  rw [published] at answered
  cases answered

/-- A transaction goes on as a sound one. -/
theorem Settled.update {s : World} (h : s.Settled) {index : Nat} {tx : Tx} (sound : Sound tx)
    (dispatch : tx.owner ≠ .ack) : (s.update index tx).Settled := by
  refine ⟨?_, h.open_row, h.acked_row⟩
  intro other mem
  rcases List.mem_or_eq_of_mem_set mem with before | rfl
  · exact h.txs other before
  · exact ⟨sound, fun _ => dispatch⟩

/-- What the commit of an ACK leaves. -/
theorem merge_ack {loaded left found : Row} (unacked : loaded.ackAt = none)
    (unanswered : loaded.lifecycleStatus.answered = false) (acked : left.ackAt ≠ none)
    (answered : left.lifecycleStatus.answered = true) :
    (loaded.merge left found).ackAt ≠ none ∧
      (loaded.merge left found).lifecycleStatus.answered = true := by
  have status : left.lifecycleStatus ≠ loaded.lifecycleStatus := fun same =>
    Bool.noConfusion (unanswered.symm.trans (same ▸ answered))
  simp only [Row.merge, UnitOfWork.column_of_ne status,
    UnitOfWork.column_of_ne (unacked ▸ acked : left.ackAt ≠ loaded.ackAt)]
  exact ⟨acked, answered⟩

/-- A transaction of the dispatcher or of the sweep that commits after the ACK has not changed the row. -/
theorem Settled.unchanged {s : World} (h : s.Settled) {tx : Tx} (mem : tx ∈ s.txs)
    (inTime : ¬ tx.PutOff → s.row.ackAt = tx.loaded.ackAt ∧ (tx.owner ≠ .sweep → tx.loaded.ackAt = none))
    (acked : s.row.ackAt ≠ none) : tx.row = tx.loaded := by
  have sound := (h.txs tx mem).1
  by_cases putOff : tx.PutOff
  · exact sound.unchanged putOff
  · obtain ⟨read, dispatched⟩ := inTime putOff
    refine absurd (read.trans ?_) acked
    by_cases sweep : tx.owner = .sweep
    · exact sound.swept sweep
    · exact dispatched sweep

/-- A commit in time keeps the row settled. -/
theorem Settled.commit {s : World} (h : s.Settled) {index : Nat} {tx : Tx} (mem : tx ∈ s.txs)
    (inTime : tx.owner ≠ .ack → ¬ tx.PutOff →
      s.row.ackAt = tx.loaded.ackAt ∧ (tx.owner ≠ .sweep → tx.loaded.ackAt = none)) :
    (s.commit index tx).Settled := by
  have sound := (h.txs tx mem).1
  have rest : ∀ other ∈ (s.commit index tx).txs,
      Sound other ∧ (other.phase ≠ .ready → other.owner ≠ .ack) :=
    fun other mem => h.txs other (List.mem_of_mem_eraseIdx mem)
  by_cases own : tx.owner = .ack
  · obtain ⟨unacked, unanswered, acked, answered⟩ := sound.ack own
    have merged := @merge_ack _ _ s.row unacked unanswered acked answered
    refine ⟨rest, fun none_acked => absurd none_acked merged.1, fun _ => ⟨merged.2, ?_⟩⟩
    simp only [World.commit, if_pos own]
  · obtain ⟨sameAck, status⟩ := sound.others own
    have ackAt : (s.commit index tx).row.ackAt = s.row.ackAt := by
      simp only [World.commit, Row.merge, sameAck, UnitOfWork.column_self]
    refine ⟨rest, ?_, ?_⟩
    · intro unacked
      rw [ackAt] at unacked
      simp only [World.commit, Row.merge]
      by_cases same : tx.row.lifecycleStatus = tx.loaded.lifecycleStatus
      · rw [UnitOfWork.column_of_eq same]
        exact h.open_row unacked
      · rw [UnitOfWork.column_of_ne same]
        exact status.resolve_left same
    · intro acked
      rw [ackAt] at acked
      have same := h.unchanged mem (inTime own) acked
      simp only [World.commit, Row.merge, same, UnitOfWork.column_self, if_neg own]
      exact h.acked_row acked

/-- Every step in time keeps the row settled. -/
theorem Settled.step {s : World} {e : Event} (h : s.Settled) (inTime : s.InTime e) :
    (s.step e).Settled := by
  have unchanged {owner : Owner} (dispatch : owner ≠ .ack) (no_sweep : owner ≠ .sweep) :
      (s.begin owner .reading s.row).Settled :=
    h.begin (fun _ => rfl) (fun own => absurd own no_sweep) (fun own => absurd own dispatch)
      fun _ => ⟨rfl, .inl rfl⟩
  cases e with
  | readOutbox =>
    simp only [World.step]
    split
    · exact unchanged nofun nofun
    · exact h
  | readSafety =>
    simp only [World.step]
    split
    · exact unchanged nofun nofun
    · exact h
  | publish index invalid =>
    simp only [World.step]
    split
    · exact h
    · next tx found =>
      obtain ⟨sound, working⟩ := h.txs tx (List.mem_of_getElem? found)
      split
      · next reading =>
        have dispatch : tx.owner ≠ .ack := working (by rw [reading]; nofun)
        refine h.update (sound.publish dispatch invalid s.expiresAt s.now) ?_
        rwa [Tx.publish_owner]
      · exact h
  | await index error =>
    simp only [World.step]
    split
    · exact h
    · next tx found =>
      obtain ⟨sound, working⟩ := h.txs tx (List.mem_of_getElem? found)
      split
      · next sent =>
        have dispatch : tx.owner ≠ .ack := working (by rw [sent]; nofun)
        refine h.update (sound.await dispatch error s.now) ?_
        rwa [Tx.await_owner]
      · exact h
  | readAck msg =>
    simp only [World.step]
    split
    · exact h
    · next free =>
      have unacked : s.row.ackAt = none := by_contra fun acked => free (.inr acked)
      refine h.begin nofun nofun (fun _ => ⟨rfl, unacked, ?_, Row.acked_answered ..⟩) fun other =>
        absurd rfl other
      rw [Row.acked_ackAt]
      exact Option.some_ne_none _
  | readSweep =>
    simp only [World.step]
    split
    next selected =>
      exact h.begin nofun (fun _ => h.unacked_of_overdue selected.2) nofun fun _ => ⟨rfl, .inr rfl⟩
    · exact h
  | commit index =>
    simp only [World.step]
    split
    · exact h
    · next tx found =>
      split
      · next ready =>
        exact h.commit (List.mem_of_getElem? found) (inTime tx found ready)
      · exact h
  | rollback index =>
    exact ⟨fun tx mem => h.txs tx (List.mem_of_mem_eraseIdx mem), h.open_row, h.acked_row⟩
  | xack =>
    simp only [World.step]
    split
    · exact ⟨h.txs, h.open_row, h.acked_row⟩
    · exact h
  | advance elapsed => exact ⟨h.txs, h.open_row, h.acked_row⟩

/-- **In every run in which no ACK comes between another transaction's read and commit, and no dispatcher goes
through with an attempt begun after it, the ACK stands.** -/
theorem ack_stands (path : Path) (expiresAt : Time) (ackTimeout : Nat) (now : Time)
    (events : List Event)
    (inTime : Runs.Meets step InTime (initial path expiresAt ackTimeout now) events) :
    ((initial path expiresAt ackTimeout now).run events).AckStands :=
  (Runs.invariant (I := Settled) (fun _ _ h ok => h.step ok)
    (Settled.initial path expiresAt ackTimeout now) inTime).ackStands

/-- An `accepted` ACK. -/
def accepted : AckMessage := { status := "accepted", reasonCode := none, reason := none }

/-- The dispatcher commits before the vehicle answers, and the sweep finds nothing to do. -/
theorem ack_stands_outbox :
    ((initial .outbox 30000000 3000000 0).run [.readOutbox, .publish 0 none, .await 0 none,
      .commit 0, .readAck accepted, .commit 0, .advance 4000000, .readSweep]).AckStands :=
  ack_stands .outbox 30000000 3000000 0 _ (by decide)

/-- The vehicle answers while the dispatcher still waits for the broker: the dispatcher's commit takes
the accepted command back to published. -/
theorem not_ack_stands_late_commit :
    ¬ ((initial .outbox 30000000 3000000 0).run [.readOutbox, .publish 0 none, .readAck accepted,
      .commit 1, .await 0 none, .commit 0]).AckStands :=
  fun stands => absurd (stands (by decide)).1 (by decide)

end World

end Firebot.Server
