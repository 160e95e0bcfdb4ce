import Mathlib.Logic.Function.Basic
import Firebot.Uplink.Report

/-!
# The ingress takes a report

`process` refuses a message that its schema does not allow, counts what comes of a vehicle and a type within a
second, drops what it has seen, and compares the number of the message with the last one that it accepted under
the same key; then the handler runs in a transaction.

**A report that can be sent, with room in its second, a new id and a number above the last of its key, has its
handler run** (`Ingress.process_passes`). What the handler does is not modelled here, only whether its
transaction raises.
-/

namespace Firebot.Uplink

open Bridge

/-- The key `seq:<vehicle>:<boot>:<type>`. -/
abbrev SeqKey := String × String × MsgType

/-- The key `ratelimit:mqtt:<vehicle>:<type>:<second>`. -/
abbrev RateKey := String × MsgType × Int

/-- What becomes of a message. -/
inductive Outcome where
  | refused
  | rateLimited
  | duplicate
  | outOfOrder
  | failed
  | unknownVehicle
  | unknownBoot
  | handled
  deriving DecidableEq, Repr

/-- What the ingress keeps: the Redis keys, the robots with their current boot session, and the
messages whose handler has run. -/
structure Ingress where
  counts : RateKey → Nat
  dedup : Nat → Bool
  pending : Nat → Bool
  lastSeq : SeqKey → Option Nat
  robots : String → Option (Option String)
  handled : List Report

namespace Ingress

/-- The key under which a message's number is compared. -/
def key (h : Report) : SeqKey := (h.vehicleId, h.bootId, h.type)

/-- `redis.setex(dedup_key, ..)` and `redis.delete(pending_key)`. -/
def settle (i : Ingress) (h : Report) : Ingress :=
  { i with dedup := Function.update i.dedup h.messageId true
           pending := Function.update i.pending h.messageId false }

/-- The rest of `process` after the rate limit. `commits` is false when the database transaction raises. A
`command_ack` or a `task_status` establishes no boot session, so `accept_boot_session` answers whether
the message carries the current one. -/
def processCounted (i : Ingress) (h : Report) (commits : Bool) : Ingress × Outcome :=
  if i.dedup h.messageId || i.pending h.messageId then (i, .duplicate)
  else
    let i := { i with pending := Function.update i.pending h.messageId true }
    if (i.lastSeq (key h)).any (h.seq ≤ ·) then (i.settle h, .outOfOrder)
    else if !commits then
      ({ i with pending := Function.update i.pending h.messageId false }, .failed)
    else
      match i.robots h.vehicleId with
      | none => (i.settle h, .unknownVehicle)
      | some boot =>
        if boot = some h.bootId then
          let i := { i with handled := i.handled ++ [h]
                            lastSeq := Function.update i.lastSeq (key h) (some h.seq) }
          (i.settle h, .handled)
        else (i.settle h, .unknownBoot)

/-- The key under which a message is counted. -/
def rateKey (h : Report) (now : Time) : RateKey := (h.vehicleId, h.type, now / second)

/-- `redis.incr`. -/
def count (i : Ingress) (key : RateKey) : Ingress :=
  { i with counts := Function.update i.counts key (i.counts key + 1) }

/-- `process`, for a message on the topic of its vehicle and type. -/
def process (w : Wire) (i : Ingress) (h : Report) (now : Time) (commits : Bool) : Ingress × Outcome :=
  if !w.accepts h then (i, .refused)
  else
    let i := i.count (rateKey h now)
    if w.mqttRateLimitPerSecond < i.counts (rateKey h now) then (i, .rateLimited)
    else i.processCounted h commits

/-- The ingress knows the vehicle and the message carries its current boot session. -/
def current (i : Ingress) (h : Report) : Bool := i.robots h.vehicleId = some (some h.bootId)

/-- The ingress has the message's id, or is working on it. -/
def seen (i : Ingress) (h : Report) : Bool := i.dedup h.messageId || i.pending h.messageId

/-- The number is above the last one accepted under its key. -/
def passes (i : Ingress) (h : Report) : Prop := ∀ n ∈ i.lastSeq (key h), n < h.seq

/-- The handler has run and the number is the last of its key. -/
def accept (i : Ingress) (h : Report) : Ingress :=
  { i with handled := i.handled ++ [h]
           lastSeq := Function.update i.lastSeq (key h) (some h.seq) }

/-- The ways `processCounted` ends. -/
inductive Processed (i : Ingress) (h : Report) (commits : Bool) : Ingress × Outcome → Prop
  | duplicate (known : i.seen h = true) : Processed i h commits (i, .duplicate)
  | outOfOrder (new : i.seen h = false) (late : ¬ i.passes h) :
      Processed i h commits (i.settle h, .outOfOrder)
  | failed (new : i.seen h = false) (passes : i.passes h) (raised : commits = false) :
      Processed i h commits
        ({ i with pending := Function.update i.pending h.messageId false }, .failed)
  | unknownVehicle (new : i.seen h = false) (passes : i.passes h)
      (unknown : i.robots h.vehicleId = none) : Processed i h commits (i.settle h, .unknownVehicle)
  | unknownBoot (new : i.seen h = false) (passes : i.passes h) (other : i.current h = false) :
      Processed i h commits (i.settle h, .unknownBoot)
  | handled (new : i.seen h = false) (passes : i.passes h) (current : i.current h = true)
      (done : commits = true) :
      Processed i h commits ((i.accept h).settle h, .handled)

/-- `processCounted` ends in one of the listed ways. -/
theorem processed (i : Ingress) (h : Report) (commits : Bool) :
    Processed i h commits (i.processCounted h commits) := by
  unfold processCounted
  cases known : i.dedup h.messageId || i.pending h.messageId with
  | true => exact .duplicate known
  | false =>
    simp only [Bool.false_eq_true, if_false]
    cases late : (i.lastSeq (key h)).any (h.seq ≤ ·) with
    | true =>
      have not_passes : ¬ i.passes h := by
        obtain ⟨n, last, le⟩ := Option.any_eq_true _ _ |>.mp late
        exact fun passes => Nat.not_le.mpr (passes n last) (of_decide_eq_true le)
      simp only [if_true, settle, Function.update_idem]
      exact .outOfOrder known not_passes
    | false =>
      have passes : i.passes h := fun n last =>
        Nat.not_le.mp (of_decide_eq_false (Option.any_eq_false _ _ |>.mp late n last))
      simp only [Bool.false_eq_true, if_false, settle, Function.update_idem]
      cases commits with
      | false => exact .failed known passes rfl
      | true =>
        simp only [Bool.not_true, Bool.false_eq_true, if_false]
        cases robot : i.robots h.vehicleId with
        | none => exact .unknownVehicle known passes robot
        | some boot =>
          by_cases here : boot = some h.bootId
          · simp only [if_pos here]
            exact .handled known passes (by simp [current, robot, here]) rfl
          · simp only [if_neg here]
            exact .unknownBoot known passes (by simp [current, robot, here])

theorem update_true {b : Nat → Bool} {m k : Nat} (was : Function.update b m true k = true) :
    b k = true ∨ k = m := by
  by_cases same : k = m
  · exact .inr same
  · rw [Function.update_of_ne same] at was
    exact .inl was

theorem update_false {b : Nat → Bool} (free : ∀ k, b k = false) (m k : Nat) :
    Function.update b m false k = false := by
  by_cases same : k = m
  · subst same
    exact Function.update_self ..
  · rw [Function.update_of_ne same]
    exact free k

/-- What a message leaves behind: its id may become known, its number may become the last of its
key, and no pending key stays. -/
theorem processCounted_keys (i : Ingress) (h : Report) (commits : Bool) (free : ∀ m, i.pending m = false) :
    (∀ m, (i.processCounted h commits).1.dedup m = true → i.dedup m = true ∨ m = h.messageId) ∧
    (∀ k n, (i.processCounted h commits).1.lastSeq k = some n →
      i.lastSeq k = some n ∨ (k = key h ∧ n = h.seq)) ∧
    (∀ m, (i.processCounted h commits).1.pending m = false) := by
  have ends := processed i h commits
  generalize i.processCounted h commits = q at ends ⊢
  cases ends with
  | duplicate => exact ⟨fun _ was => .inl was, fun _ _ was => .inl was, free⟩
  | outOfOrder | unknownVehicle | unknownBoot =>
    exact ⟨fun _ was => update_true was, fun _ _ was => .inl was, update_false free _⟩
  | failed => exact ⟨fun _ was => .inl was, fun _ _ was => .inl was, update_false free _⟩
  | handled =>
    refine ⟨fun _ was => update_true was, ?_, update_false free _⟩
    intro k n was
    by_cases at_key : k = key h
    · subst at_key
      simp only [settle, accept, Function.update_self, Option.some.injEq] at was
      exact .inr ⟨rfl, was.symm⟩
    · simp only [settle, accept, Function.update_of_ne at_key] at was
      exact .inl was

/-- A handler that has run stays run. -/
theorem processCounted_handled (i : Ingress) (h : Report) (commits : Bool) :
    ∀ g ∈ i.handled, g ∈ (i.processCounted h commits).1.handled := by
  intro g mem
  have ends := processed i h commits
  generalize i.processCounted h commits = q at ends ⊢
  cases ends with
  | duplicate | outOfOrder | failed | unknownVehicle | unknownBoot => exact mem
  | handled => exact List.mem_append_left _ mem

/-- A message whose id is new and whose number is above the last of its key passes the sequence check; of the
current boot session, its handler runs, and only a transaction that raises undoes it. -/
theorem processCounted_passes {i : Ingress} {h : Report} {commits : Bool} (new : i.seen h = false)
    (passes : i.passes h) (here : i.current h = true) :
    (i.processCounted h commits).2 = (if commits then .handled else .failed) ∧
      (commits = true → h ∈ (i.processCounted h commits).1.handled) := by
  have ends := processed i h commits
  generalize i.processCounted h commits = q at ends ⊢
  cases ends with
  | duplicate known => exact Bool.noConfusion (new.symm.trans known)
  | outOfOrder _ late => exact absurd passes late
  | failed _ _ raised => exact ⟨by rw [raised]; rfl, fun done => Bool.noConfusion (raised.symm.trans done)⟩
  | unknownVehicle _ _ unknown => simp [current, unknown] at here
  | unknownBoot _ _ other => exact Bool.noConfusion (other.symm.trans here)
  | handled _ _ _ done => exact ⟨by rw [done]; rfl, fun _ => by simp [settle, accept]⟩

/-! ### The first tests -/

/-- What a message leaves behind, whether it is taken or not. -/
theorem process_keys (w : Wire) (i : Ingress) (h : Report) (now : Time) (commits : Bool)
    (free : ∀ m, i.pending m = false) :
    (∀ m, (i.process w h now commits).1.dedup m = true → i.dedup m = true ∨ m = h.messageId) ∧
    (∀ k n, (i.process w h now commits).1.lastSeq k = some n →
      i.lastSeq k = some n ∨ (k = key h ∧ n = h.seq)) ∧
    (∀ m, (i.process w h now commits).1.pending m = false) := by
  unfold process
  dsimp only
  split
  · exact ⟨fun _ was => .inl was, fun _ _ was => .inl was, free⟩
  · split
    · exact ⟨fun _ was => .inl was, fun _ _ was => .inl was, free⟩
    · exact processCounted_keys (i.count (rateKey h now)) h commits free

theorem process_handled (w : Wire) (i : Ingress) (h : Report) (now : Time) (commits : Bool) :
    ∀ g ∈ i.handled, g ∈ (i.process w h now commits).1.handled := by
  unfold process
  dsimp only
  split
  · exact fun _ mem => mem
  · split
    · exact fun _ mem => mem
    · exact processCounted_handled (i.count (rateKey h now)) h commits

/-- The rest of `process` counts nothing. -/
theorem processCounted_counts (i : Ingress) (h : Report) (commits : Bool) :
    (i.processCounted h commits).1.counts = i.counts := by
  have ends := processed i h commits
  generalize i.processCounted h commits = q at ends ⊢
  cases ends <;> rfl

/-- A message is counted once at most, under its key. -/
theorem process_counts (w : Wire) (i : Ingress) (h : Report) (now : Time) (commits : Bool) (k : RateKey) :
    (i.process w h now commits).1.counts k ≤ i.counts k + if k = rateKey h now then 1 else 0 := by
  have counted : (i.count (rateKey h now)).counts k = i.counts k + if k = rateKey h now then 1 else 0 := by
    unfold count
    dsimp only
    split
    next same => rw [same, Function.update_self]
    next other => rw [Function.update_of_ne other, Nat.add_zero]
  unfold process
  dsimp only
  split
  · exact Nat.le_add_right _ _
  · split
    · exact counted.le
    · rw [processCounted_counts]
      exact counted.le

/-- A report that can be sent, with room in its second, a new id and a number above the last of its key, has
its handler run. -/
theorem process_passes {w : Wire} {i : Ingress} {h : Report} {now : Time} {commits : Bool} (sendable : h.Sendable w)
    (room : i.counts (rateKey h now) < w.mqttRateLimitPerSecond) (new : i.seen h = false) (passes : i.passes h)
    (here : i.current h = true) :
    (i.process w h now commits).2 = (if commits then .handled else .failed) ∧
      (commits = true → h ∈ (i.process w h now commits).1.handled) := by
  have accepted := accepts_iff.mpr sendable
  have within : ¬ w.mqttRateLimitPerSecond < (i.count (rateKey h now)).counts (rateKey h now) := by
    unfold count
    dsimp only
    rw [Function.update_self]
    exact Nat.not_lt.mpr room
  unfold process
  simp only [accepted, Bool.not_true, Bool.false_eq_true, if_false, if_neg within]
  exact processCounted_passes (i := i.count (rateKey h now)) new passes here

end Ingress

end Firebot.Uplink
