import Firebot.Ingress.Latest
import Firebot.Lib.Streak
import Firebot.Worker.FrameCounter

/-!
# The evidence behind a confirmed standstill

The worker confirms a standstill after five frames, and takes a frame from the vehicle's document, which
every message of the vehicle changes. `MotionWorld` runs the handlers of the ingress and the worker's
ticks against one STOP operation, and keeps beside them the messages that carried a velocity and which
of them each frame was taken from. The frames are `Evident` when they come from different messages, each
slow and fresh by itself, with no fast one between them.

A frame is not always evident: a battery message alone makes the document look new, a location is hidden behind
the odometry that came before it, and a message that is overwritten before the next tick is not seen at all.
`Faithful` excludes these three. **In every faithful run each frame, and with five frames the standstill, is
evident** (`motion_evidence`). Nothing is said of whether a standstill is ever confirmed.
-/

namespace Firebot.Ingress

open Firebot.Worker

variable {F : Type} [PyFloat F]

/-! ## Slow and fast messages -/

/-- A speed is there and not below its threshold. -/
def reaches (speed : Value F) (threshold : F) : Bool :=
  match toFloat speed with
  | .ok x => !PyFloat.lt (PyFloat.abs x) threshold
  | .error _ => false

/-- A message says that the vehicle moves: its planar or its angular speed reaches the threshold. -/
def fast (own : Latest F) (linearThreshold angularThreshold : F) : Bool :=
  (match own.planar with
    | .ok planar => reaches planar linearThreshold
    | .error _ => false) || reaches own.turning angularThreshold

/-- A message says that the vehicle stands still: both its speeds are below their thresholds. -/
def slow (own : Latest F) (linearThreshold angularThreshold : F) : Bool :=
  match own.planar with
  | .ok planar =>
    match below planar own.turning linearThreshold angularThreshold with
    | .ok still => still
    | .error _ => false
  | .error _ => false

/-- What is below both thresholds reaches neither. -/
theorem not_reaches_of_below {planar turning : Value F} {linearThreshold angularThreshold : F}
    (still : below planar turning linearThreshold angularThreshold = .ok true) :
    reaches planar linearThreshold = false ∧ reaches turning angularThreshold = false := by
  unfold below at still
  split at still
  · cases still
  · cases speed : toFloat planar with
    | error e => simp [speed, bind, Except.bind] at still
    | ok x =>
      simp only [speed, bind, Except.bind] at still
      split at still
      · next slow =>
        cases rate : toFloat turning with
        | error e => simp [rate] at still
        | ok y =>
          simp only [rate, pure, Except.pure, Except.ok.injEq] at still
          simp only [reaches, speed, rate, slow, still, Bool.not_true, and_self]
      · cases still

theorem not_fast_of_slow {own : Latest F} {linearThreshold angularThreshold : F}
    (still : slow own linearThreshold angularThreshold = true) :
    fast own linearThreshold angularThreshold = false := by
  unfold slow at still
  split at still
  · next planar speed =>
    split at still
    · next stands compared =>
      obtain ⟨linear, angular⟩ := not_reaches_of_below (still ▸ compared)
      simp only [fast, speed, linear, angular, Bool.or_self]
    · cases still
  · cases still

/-- A document is seen to stand still exactly when it is slow and fresh. -/
theorem observation_iff {latest : Latest F} {now : Time} {freshnessMs : Int}
    {linearThreshold angularThreshold : F} :
    stationaryObservation latest now freshnessMs linearThreshold angularThreshold =
        .ok (true, true) ↔
      slow latest linearThreshold angularThreshold = true ∧ latest.fresh now freshnessMs = true := by
  constructor
  · intro seen
    have sight : latest.sight now freshnessMs linearThreshold angularThreshold =
        .ok { fresh := true, stationary := true, token := observationToken latest } :=
      Latest.sight_eq_ok.mpr ⟨seen, rfl⟩
    obtain ⟨fresh, _, read⟩ := Latest.of_sight sight
    obtain ⟨planar, speed, compared⟩ := read rfl
    exact ⟨by simp only [slow, speed, compared], fresh.symm⟩
  · rintro ⟨still, fresh⟩
    unfold slow at still
    split at still
    · next planar speed =>
      split at still
      · next stands compared =>
        simp only [stationaryObservation, speed, fresh, compared, still, bind, Except.bind, pure,
          Except.pure, if_true]
      · cases still
    · cases still

/-! ## The run -/

/-- One vehicle's document, one STOP operation for the vehicle, and beside them what each message with
a velocity said by itself and from which of these, and when, each frame was taken. -/
structure MotionWorld (F : Type) where
  latest : Latest F
  velocities : List (Latest F)
  operation : StopOperation F
  counted : List (Nat × Time)

/-- A message is handled, or the worker ticks and finds these commands and tasks. -/
inductive MotionEvent (F : Type) where
  | message (m : Message F)
  | tick (now : Time) (command : String → Option CommandRow) (task : String → Option TaskStatus)

namespace MotionWorld

/-- The document and the messages with a velocity after some messages. -/
def ingest (messages : List (Message F)) : Latest F × List (Latest F) :=
  (messages.foldl (fun latest m => m.merge latest) .empty, messages.filterMap (·.velocity))

/-- A STOP operation is requested after some messages. -/
def requested (before : List (Message F)) (robotId stopCommandId : String) (mission : Mission)
    (ackNow cancelNow verifyNow : Time) : MotionWorld F where
  latest := (ingest before).1
  velocities := (ingest before).2
  operation := stopCurrentOperation robotId stopCommandId mission ackNow cancelNow verifyNow
  counted := []

/-- A tick finds the document of the vehicle. -/
def seen (w : MotionWorld F) (now : Time) (command : String → Option CommandRow)
    (task : String → Option TaskStatus) : Tick F where
  now := now
  command := command
  task := task
  latest _ := w.latest

/-- The frames after a tick: a cleared counter drops them, a higher one adds the last message. -/
def recount (w : MotionWorld F) (now : Time) (op : StopOperation F) : List (Nat × Time) :=
  if op.stationaryFrames = 0 then []
  else if w.operation.stationaryFrames < op.stationaryFrames then
    w.counted ++ [(w.velocities.length - 1, now)]
  else w.counted

/-- One event. A tick that another row of the table makes raise changes nothing, and is no event. -/
def step (w : MotionWorld F) : MotionEvent F → MotionWorld F
  | .message m =>
    { w with latest := m.merge w.latest, velocities := w.velocities ++ m.velocity.toList }
  | .tick now command task =>
    let op := w.operation.tick (w.seen now command task)
    { w with operation := op, counted := w.recount now op }

/-- A world after a list of events. -/
abbrev run (w : MotionWorld F) (events : List (MotionEvent F)) : MotionWorld F :=
  Runs.run step w events

/-- The message says that the vehicle moves, by the operation's thresholds. -/
def Fast (w : MotionWorld F) (own : Latest F) : Prop :=
  fast own w.operation.linearThreshold w.operation.angularThreshold = true

/-- The message says that the vehicle stands still, and is fresh at this time. -/
def Still (w : MotionWorld F) (own : Latest F) (now : Time) : Prop :=
  slow own w.operation.linearThreshold w.operation.angularThreshold = true ∧
    own.fresh now w.operation.telemetryFreshnessMs = true

/-- A confirmed standstill rests on five frames, and each frame on a message of its own: the messages
came one after the other, each was slow and fresh when it was counted, and none from the first to the
last was fast. -/
structure Evident (w : MotionWorld F) : Prop where
  enough : w.operation.motionStopState = .stationaryConfirmed → 5 ≤ w.counted.length
  frames : w.operation.stationaryFrames = w.counted.length
  streak : Marked.Streak w.Still w.Fast w.velocities w.counted

/-- The document speaks for the messages. A tick that counts a frame finds a message with a velocity
that was not counted yet, and sees of the document what it would see of that message alone; and while
frames are counted, only a fast message follows a fast one before a tick has cleared the counter. -/
def Faithful (w : MotionWorld F) : MotionEvent F → Prop
  | .message m => ∀ own ∈ m.velocity, w.operation.watches = true → 0 < w.operation.stationaryFrames →
      w.Fast own ∨ ∀ last ∈ w.velocities.getLast?, ¬ w.Fast last
  | .tick now _ _ => w.operation.counts now w.latest → ∃ own ∈ w.velocities.getLast?,
      (∀ mark ∈ w.counted, mark.1 + 1 < w.velocities.length) ∧
        w.operation.observes now w.latest = w.operation.observes now own

instance (w : MotionWorld F) (own : Latest F) : Decidable (w.Fast own) :=
  inferInstanceAs (Decidable (_ = true))

instance : (w : MotionWorld F) → (e : MotionEvent F) → Decidable (w.Faithful e)
  | _, .message m => inferInstanceAs (Decidable (∀ own ∈ m.velocity, _ → _ → _ ∨ ∀ _ ∈ _, _))
  | _, .tick .. =>
    inferInstanceAs (Decidable (StopOperation.counts _ _ _ → ∃ own ∈ _, (∀ _ ∈ _, _) ∧ _ = _))

/-! ## The invariant -/

open Marked

/-- The frames are evident, and as long as the operation is watched no fast message has gone unseen. -/
structure Held (w : MotionWorld F) : Prop where
  evident : w.Evident
  unbroken : w.operation.watches = true → Unbroken w.Fast w.velocities w.counted

/-- Without frames there is nothing to show. -/
theorem Held.start {w : MotionWorld F} (none : w.counted = [])
    (frames : w.operation.stationaryFrames = 0)
    (unconfirmed : w.operation.motionStopState ≠ .stationaryConfirmed) : w.Held where
  evident := {
    enough := fun confirmed => absurd confirmed unconfirmed
    frames := by rw [frames, none]; rfl
    streak := none ▸ .nil }
  unbroken _ := none ▸ .nil

/-- A message of the vehicle. -/
theorem Held.message {w : MotionWorld F} (h : w.Held) {m : Message F}
    (faithful : w.Faithful (.message m)) : (w.step (.message m)).Held := by
  cases carries : m.velocity with
  | none =>
    simp only [step, carries, Option.toList_none, List.append_nil]
    exact ⟨⟨h.evident.enough, h.evident.frames, h.evident.streak⟩, h.unbroken⟩
  | some own =>
    simp only [step, carries, Option.toList_some]
    refine ⟨⟨h.evident.enough, h.evident.frames, h.evident.streak.concat own⟩, ?_⟩
    intro watched
    rcases Nat.eq_zero_or_pos w.operation.stationaryFrames with zero | running
    · have none : w.counted = [] := List.length_eq_zero_iff.mp (h.evident.frames ▸ zero)
      rw [none]
      exact .nil
    · exact (h.unbroken watched).concat (faithful own carries watched running)

theorem recount_same {w : MotionWorld F} {op : StopOperation F} (now : Time)
    (evident : w.Evident) (same : op.stationaryFrames = w.operation.stationaryFrames) :
    w.recount now op = w.counted := by
  simp only [recount, same, Nat.lt_irrefl, if_false, ite_eq_right_iff]
  intro zero
  exact (List.length_eq_zero_iff.mp (evident.frames ▸ zero)).symm

omit [PyFloat F] in
theorem recount_zero (w : MotionWorld F) {op : StopOperation F} (now : Time)
    (zero : op.stationaryFrames = 0) : w.recount now op = [] := if_pos zero

omit [PyFloat F] in
theorem recount_succ (w : MotionWorld F) {op : StopOperation F} (now : Time)
    (more : op.stationaryFrames = w.operation.stationaryFrames + 1) :
    w.recount now op = w.counted ++ [(w.velocities.length - 1, now)] := by
  rw [recount, if_neg (by omega), if_pos (by omega)]

/-- The thresholds stay, and with them what is fast and what stands still. -/
theorem thresholds_tick (w : MotionWorld F) (now : Time) (command : String → Option CommandRow)
    (task : String → Option TaskStatus) :
    (w.step (.tick now command task)).Fast = w.Fast ∧
      (w.step (.tick now command task)).Still = w.Still := by
  have same := StopOperation.tick_same w.operation (w.seen now command task)
  constructor
  · funext own
    simp only [Fast, step, same.linearThreshold, same.angularThreshold]
  · funext own now
    simp only [Still, step, same.linearThreshold, same.angularThreshold, same.telemetryFreshnessMs]

/-- A frame that is counted in a faithful tick is evident. -/
theorem Held.count {w : MotionWorld F} (h : w.Held) {now : Time}
    {command : String → Option CommandRow} {task : String → Option TaskStatus}
    (faithful : w.Faithful (.tick now command task)) (counting : w.operation.counts now w.latest) :
    Streak w.Still w.Fast w.velocities (w.counted ++ [(w.velocities.length - 1, now)]) := by
  obtain ⟨own, last, new, shows⟩ := faithful counting
  obtain ⟨watched, observed, _⟩ := counting
  obtain ⟨still, fresh⟩ := observation_iff.mp (shows ▸ observed)
  have fine : ¬ w.Fast own := Bool.eq_false_iff.mp (not_fast_of_slow still)
  exact h.evident.streak.mark (h.unbroken watched) last new fine ⟨still, fresh⟩

/-- A tick of the worker. -/
theorem Held.tick {w : MotionWorld F} (h : w.Held) {now : Time}
    {command : String → Option CommandRow} {task : String → Option TaskStatus}
    (faithful : w.Faithful (.tick now command task)) : (w.step (.tick now command task)).Held := by
  obtain ⟨fast, still⟩ := w.thresholds_tick now command task
  have before : (w.operation.tick (w.seen now command task)).watches = true →
      Unbroken w.Fast w.velocities w.counted :=
    fun watched => h.unbroken (StopOperation.watches_of_tick watched)
  have confirmed (stands : (w.operation.tick (w.seen now command task)).motionStopState =
      .stationaryConfirmed) := StopOperation.tick_confirmed stands
  rcases StopOperation.tick_frames w.operation (w.seen now command task) with
    kept | ⟨watched, cleared⟩ | ⟨counting, counted⟩
  · have marks : (w.step (.tick now command task)).counted = w.counted :=
      recount_same now h.evident kept
    refine ⟨⟨?_, ?_, ?_⟩, ?_⟩
    · intro stands
      rw [marks]
      rcases confirmed stands with already | enough
      · exact h.evident.enough already
      · rwa [kept, h.evident.frames] at enough
    · rw [marks, ← h.evident.frames]
      exact kept
    · rw [fast, still, marks]
      exact h.evident.streak
    · rw [fast, marks]
      exact before
  · refine .start (recount_zero w now cleared) cleared ?_
    intro stands
    rcases confirmed stands with already | enough
    · exact (StopOperation.watches_iff.mp watched).2 already
    · rw [cleared] at enough
      exact absurd enough (by decide)
  · have marks : (w.step (.tick now command task)).counted =
        w.counted ++ [(w.velocities.length - 1, now)] := recount_succ w now counted
    have frames : (w.step (.tick now command task)).operation.stationaryFrames =
        (w.step (.tick now command task)).counted.length := by
      rw [marks, List.length_append, ← h.evident.frames]
      exact counted
    refine ⟨⟨?_, frames, ?_⟩, ?_⟩
    · intro stands
      rcases confirmed stands with already | enough
      · exact absurd already (StopOperation.watches_iff.mp counting.1).2
      · exact frames ▸ enough
    · rw [fast, still, marks]
      exact h.count faithful counting
    · intro watched
      rw [fast, marks]
      exact (before watched).mark now

/-- For a tick the condition is exact: a frame that it rules out is not evident. -/
theorem Held.evident_tick_iff {w : MotionWorld F} (h : w.Held) {now : Time}
    {command : String → Option CommandRow} {task : String → Option TaskStatus} :
    (w.step (.tick now command task)).Evident ↔ w.Faithful (.tick now command task) := by
  refine ⟨?_, fun faithful => (h.tick faithful).evident⟩
  intro evident counting
  have more : (w.step (.tick now command task)).operation.stationaryFrames =
      w.operation.stationaryFrames + 1 := StopOperation.tick_of_counts counting
  have marks : (w.step (.tick now command task)).counted =
      w.counted ++ [(w.velocities.length - 1, now)] := recount_succ w now more
  obtain ⟨fast, still⟩ := w.thresholds_tick now command task
  have streak := evident.streak
  rw [fast, still, marks] at streak
  obtain ⟨own, entry, shows⟩ := streak.good _ (List.mem_append_right _ (List.mem_singleton_self _))
  refine ⟨own, last_of_entry entry (Nat.le_refl _), ?_, ?_⟩
  · intro mark mem
    have behind := (List.pairwise_append.mp streak.ascending).2.2 mark mem _
      (List.mem_singleton_self _)
    dsimp only at behind
    omega
  · exact counting.2.1.trans (observation_iff.mpr shows).symm

/-- **In every faithful run each frame, and with five frames the standstill, is evident; and the next tick leaves
it so exactly if it is faithful.** -/
theorem motion_evidence (before : List (Message F)) (robotId stopCommandId : String)
    (mission : Mission) (ackNow cancelNow verifyNow : Time) (events : List (MotionEvent F))
    (faithful : Runs.Meets step Faithful
      (requested before robotId stopCommandId mission ackNow cancelNow verifyNow) events) :
    ((requested before robotId stopCommandId mission ackNow cancelNow verifyNow).run
      events).Evident ∧
    ∀ now command task,
      (((requested before robotId stopCommandId mission ackNow cancelNow verifyNow).run
        events).step (.tick now command task)).Evident ↔
      ((requested before robotId stopCommandId mission ackNow cancelNow verifyNow).run
        events).Faithful (.tick now command task) := by
  have start : (requested before robotId stopCommandId mission ackNow cancelNow verifyNow).Held :=
    .start rfl rfl (show MotionState.waitingAck ≠ .stationaryConfirmed by decide)
  have step (w : MotionWorld F) (e : MotionEvent F) (h : w.Held) (ok : w.Faithful e) :
      (w.step e).Held := by
    cases e with
    | message => exact h.message ok
    | tick => exact h.tick ok
  have held := Runs.invariant step start faithful
  exact ⟨held.evident, fun _ _ _ => held.evident_tick_iff⟩

/-- A tick that finds the stop command accepted. -/
def ticked (now : Time) : MotionEvent ℚ :=
  .tick now (fun _ => some { ackStatus := some .accepted, lifecycleStatus := .ackAccepted }) fun _ => none

/-- Odometry of a standing vehicle, once a second, each read by the worker's next tick. -/
def standing (n : Nat) : List (MotionEvent ℚ) :=
  (List.range n).flatMap fun i =>
    [.message (.odom (i * second) (i * second) (.int 0) (.int 0) (.int 0) (.int 0)), ticked (i * second)]

theorem motion_evidence_odometry :
    ((requested [] "R1" "S1" .idle 0 0 0).run (standing 5)).operation.motionStopState =
        .stationaryConfirmed ∧
      ((requested [] "R1" "S1" .idle 0 0 0).run (standing 5)).Evident :=
  ⟨by decide +kernel, motion_evidence [] "R1" "S1" .idle 0 0 0 (standing 5) (by decide +kernel) |>.1⟩

/-- One odometry message of a standing vehicle, and then only battery messages. -/
def silent : List (MotionEvent ℚ) :=
  standing 1 ++ [1, 2, 3, 4].flatMap fun i =>
    [.message (.battery (i * second) (i * second)), ticked (i * second)]

/-- Battery messages make the document look new: the standstill is confirmed on a single message with
a velocity. -/
theorem not_motion_evidence_silent :
    ((requested [] "R1" "S1" .idle 0 0 0).run silent).operation.motionStopState =
        .stationaryConfirmed ∧
      ((requested [] "R1" "S1" .idle 0 0 0).run silent).velocities.length = 1 ∧
      ¬ ((requested [] "R1" "S1" .idle 0 0 0).run silent).Evident :=
  ⟨by decide +kernel, by decide +kernel,
    fun evident => absurd evident.streak.ascending (by decide +kernel)⟩

end MotionWorld

end Firebot.Ingress
