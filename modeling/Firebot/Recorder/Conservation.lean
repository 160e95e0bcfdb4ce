import Mathlib.Data.List.Count
import Firebot.Recorder.EventRecorder

/-!
# No record is lost

Every accepted record is written, queued, in a task's hand or counted, neither task has been ended by an
exception, and the flag that a report copies is false while the recorder is degraded. A step keeps this exactly
if it is sound: a record that is serialized can be, a file that a record comes to is open and takes its text,
and the two flags are not set across each other by the two tasks. **So the condition is exact, for every run**
(`recorder_conserves_iff`).

A task that alone acts between its two flags finds the first one as it has left it (`Uncrossed`), so that the
flags matter only where `stop` works beside the writer thread. Nothing is said of a record of which a part stays in
a buffer, nor of how long a call of the system takes.
-/

namespace Firebot.Recorder

variable {ρ : Type} [DecidableEq ρ]

/-! ## What is to hold -/

/-- How often a record is written, queued or counted. -/
def EventRecorder.tally (r : EventRecorder ρ) (x : ρ) : Nat :=
  r.written.count x + r.eventQueue.count x + r.telemetryQueue.count x + r.dropped.count x + r.failed.count x

/-- Every record is where it should be, the tasks go on, and the disk is not said to be available while the recorder
is degraded. -/
structure Recorded (s : World ρ) : Prop where
  conserved : ∀ x, s.recorder.accepted.count x =
    s.recorder.tally x + s.writer.work.hand.count x + s.stopper.work.hand.count x
  dropped : s.recorder.dropped.length = s.recorder.eventDropped + s.recorder.telemetryDropped
  failed : s.recorder.failed.length = s.recorder.writeErrors
  writer : s.writer.position ≠ .raised
  stopper : s.stopper.position ≠ .raised
  honest : s.recorder.diskAvailable = true → s.recorder.degraded = false

/-- The task's step meets a record that can be serialized, and a file that is open and takes the text. -/
def Usable (lib : Library ρ) (r : EventRecorder ρ) : Work ρ → Prop
  | .holding _ record => (lib.dumps record).isSome = true
  | .checking kind _ _ => (r.file kind).isOpen = true
  | .writing kind _ line => (r.file kind).isOpen = true ∧ lib.encodes line = true
  | .idle | .reopening _ _ _ | .failing _ | .degrading | .clearing | .recovering => True

/-- A task that is about to set the second flag finds the first one as it has left it. -/
def Uncrossed (r : EventRecorder ρ) : Work ρ → Prop
  | .degrading => r.diskAvailable = false
  | .recovering => r.degraded = false
  | .idle | .holding _ _ | .checking _ _ _ | .reopening _ _ _ | .writing _ _ _ | .failing _ | .clearing => True

/-- The task's step is neither against its record and its file nor against the other task's flags. -/
def Sound (lib : Library ρ) (r : EventRecorder ρ) (work : Work ρ) : Prop := Usable lib r work ∧ Uncrossed r work

/-- One flag is set, and the other one is not yet. -/
def Work.between : Work ρ → Bool
  | .degrading | .recovering => true
  | .idle | .holding _ _ | .checking _ _ _ | .reopening _ _ _ | .writing _ _ _ | .failing _ | .clearing => false

/-- While one task is between the two flags, the other one takes no step with a record. -/
def Apart (s : World ρ) : Event ρ → Prop
  | .go .writer _ => s.stopper.work.between = true → s.writer.work = .idle
  | .go .stopper _ => s.writer.work.between = true → s.stopper.work = .idle
  | .start _ _ | .enqueue _ _ _ | .stop => True

/-! ## Steps of a task -/

section

variable {config : Config} {lib : Library ρ} {r r' : EventRecorder ρ} {t t' : Task ρ} {o : Outcome}

/-- What a step of a task leaves of what is to hold. -/
structure Kept (r r' : EventRecorder ρ) (t t' : Task ρ) : Prop where
  accepted : r'.accepted = r.accepted
  tally : ∀ x, r'.tally x + t'.work.hand.count x = r.tally x + t.work.hand.count x
  dropped : r'.dropped = r.dropped ∧ r'.eventDropped = r.eventDropped ∧ r'.telemetryDropped = r.telemetryDropped
  failed : r'.failed.length + r.writeErrors = r.failed.length + r'.writeErrors
  position : t'.position = .raised → t.position = .raised
  honest : (r.diskAvailable = true → r.degraded = false) → r'.diskAvailable = true → r'.degraded = false

/-- The recorder stays, and the task goes on with the record that it has in hand. -/
theorem Kept.goOn {work : Work ρ} (hand : work.hand = t.work.hand) : Kept r r t (t.goOn work) where
  accepted := rfl
  tally x := by
    show _ + work.hand.count x = _
    rw [hand]
  dropped := ⟨rfl, rfl, rfl⟩
  failed := rfl
  position := id
  honest := id

/-- A file changes. -/
theorem Kept.setFile {kind : Kind} {file : RotatingWriter} {work : Work ρ} (hand : work.hand = t.work.hand) :
    Kept r (r.setFile kind file) t (t.goOn work) := by
  cases kind <;> exact ⟨rfl, (@Kept.goOn _ _ r t work hand).tally, ⟨rfl, rfl, rfl⟩, rfl, id, id⟩

/-- A task changes its place between two records. -/
theorem Kept.move {next : Position} (other : next ≠ .raised) : Kept r r t { t with position := next } :=
  ⟨rfl, fun _ => rfl, ⟨rfl, rfl, rfl⟩, rfl, fun same => absurd same other, id⟩

/-- A report changes nothing that is to hold. -/
theorem Kept.publish {now : Time} {force : Bool} (kept : Kept r r' t t') :
    Kept r (r'.publishHealth config now force) t t' := by
  unfold EventRecorder.publishHealth
  split
  · exact kept
  · exact ⟨kept.accepted, kept.tally, kept.dropped, kept.failed, kept.position, kept.honest⟩

omit [DecidableEq ρ] in
/-- Flags that are not set anew are found as they were left. -/
theorem Uncrossed.of_flags {work : Work ρ} (h : Uncrossed r work)
    (disk : r.diskAvailable = false → r'.diskAvailable = false) (degraded : r.degraded = false → r'.degraded = false) :
    Uncrossed r' work := by
  cases work with
  | degrading => exact disk h
  | recovering => exact degraded h
  | idle | holding | checking | reopening | writing | failing | clearing => trivial

omit [DecidableEq ρ] in
/-- A task outside finds nothing crossed. -/
theorem uncrossed_of_not_between {work : Work ρ} (outside : work.between = false) : Uncrossed r work := by
  cases work with
  | degrading | recovering => cases outside
  | idle | holding | checking | reopening | writing | failing | clearing => trivial

omit [DecidableEq ρ] in
/-- A task that comes between the flags has just left the first one as it should be. -/
theorem write_uncrossed : Uncrossed (write config lib o r t).1 (write config lib o r t).2.work := by
  unfold write
  cases work : t.work with
  | idle =>
    show Uncrossed r t.work
    rw [work]
    trivial
  | holding kind record =>
    dsimp only
    cases lib.dumps record <;> trivial
  | checking kind record line =>
    dsimp only
    split
    · trivial
    · split <;> trivial
  | reopening kind record line =>
    dsimp only
    split <;> trivial
  | writing kind record line =>
    dsimp only
    split
    · trivial
    · split <;> trivial
  | failing record => exact rfl
  | degrading | recovering => trivial
  | clearing =>
    dsimp only
    split
    next healthy => exact Bool.not_eq_true' _ |>.mp healthy
    · split
      · trivial
      · split
        · exact rfl
        · trivial

omit [DecidableEq ρ] in
/-- A report leaves the flags. -/
theorem publishHealth_flags {now : Time} {force : Bool} : (r.publishHealth config now force).degraded = r.degraded ∧
    (r.publishHealth config now force).diskAvailable = r.diskAvailable := by
  unfold EventRecorder.publishHealth
  split <;> exact ⟨rfl, rfl⟩

omit [DecidableEq ρ] in
/-- So does a record that comes in. -/
theorem enqueue_flags {record : ρ} {importance : String} {now : Time} :
    (r.enqueue config record importance now).degraded = r.degraded ∧
      (r.enqueue config record importance now).diskAvailable = r.diskAvailable := by
  unfold EventRecorder.enqueue
  split
  · exact ⟨rfl, rfl⟩
  · split
    · split
      · exact ⟨rfl, rfl⟩
      · exact publishHealth_flags
    · split
      · exact ⟨rfl, rfl⟩
      · split
        · exact ⟨rfl, rfl⟩
        · exact publishHealth_flags

omit [DecidableEq ρ] in
/-- A task without a record sets no flag, and comes between none. -/
theorem go_idle {who : Who} (idle : t.work = .idle) :
    ((go config lib who o r t).1.degraded = r.degraded ∧
      (go config lib who o r t).1.diskAvailable = r.diskAvailable) ∧
      (go config lib who o r t).2.work.between = false := by
  have still : t.work.between = false := by rw [idle]; rfl
  unfold go
  rw [idle]
  cases who with
  | writer =>
    dsimp only
    unfold writerLoop takeEvent takeTelemetry
    split
    · exact ⟨⟨rfl, rfl⟩, still⟩
    · split
      · exact ⟨⟨rfl, rfl⟩, rfl⟩
      · exact ⟨⟨rfl, rfl⟩, still⟩
    · split
      · exact ⟨⟨rfl, rfl⟩, rfl⟩
      · exact ⟨⟨rfl, rfl⟩, still⟩
    · exact ⟨publishHealth_flags, still⟩
    all_goals exact ⟨⟨rfl, rfl⟩, still⟩
  | stopper =>
    dsimp only
    unfold stopLoop takeEvent takeTelemetry
    split
    · split
      · exact ⟨⟨rfl, rfl⟩, rfl⟩
      · exact ⟨⟨rfl, rfl⟩, still⟩
    · split
      · exact ⟨⟨rfl, rfl⟩, rfl⟩
      · exact ⟨⟨rfl, rfl⟩, still⟩
    · exact ⟨⟨rfl, rfl⟩, still⟩
    · exact ⟨publishHealth_flags, still⟩
    all_goals exact ⟨⟨rfl, rfl⟩, still⟩

omit [DecidableEq ρ] in
/-- A task finds what it has just left. -/
theorem go_uncrossed {who : Who} : Uncrossed (go config lib who o r t).1 (go config lib who o r t).2.work := by
  by_cases idle : t.work = .idle
  · exact uncrossed_of_not_between (go_idle idle).2
  · have busy : go config lib who o r t = write config lib o r t := by
      unfold go
      split
      next same => exact absurd same idle
      · rfl
    rw [busy]
    exact write_uncrossed

omit [DecidableEq ρ] in
/-- What a task has left is not crossed by a step of the other one that has no record, or that finds it outside. -/
theorem Uncrossed.go {who : Who} {work : Work ρ} (h : Uncrossed r work)
    (apart : work.between = true → t.work = .idle) : Uncrossed (go config lib who o r t).1 work := by
  cases between : work.between with
  | false => exact uncrossed_of_not_between between
  | true =>
    obtain ⟨⟨degraded, disk⟩, _⟩ := @go_idle ρ config lib r t o who (apart between)
    exact h.of_flags (fun unavailable => disk.trans unavailable) (fun healthy => degraded.trans healthy)

/-! ## Steps of the recorder -/

variable {s : World ρ}

/-- What is to hold, seen from one of the two tasks: `t'` is the other one. -/
structure Holds (r : EventRecorder ρ) (t t' : Task ρ) : Prop where
  conserved : ∀ x, r.accepted.count x = r.tally x + t.work.hand.count x + t'.work.hand.count x
  dropped : r.dropped.length = r.eventDropped + r.telemetryDropped
  failed : r.failed.length = r.writeErrors
  task : t.position ≠ .raised
  other : t'.position ≠ .raised
  honest : r.diskAvailable = true → r.degraded = false

/-- What is to hold, seen from the writer thread. -/
theorem recorded_iff_writer {r : EventRecorder ρ} {t t' : Task ρ} : Recorded ⟨r, t, t'⟩ ↔ Holds r t t' :=
  ⟨fun h => ⟨h.conserved, h.dropped, h.failed, h.writer, h.stopper, h.honest⟩,
    fun h => ⟨h.conserved, h.dropped, h.failed, h.task, h.other, h.honest⟩⟩

/-- A step that keeps its own part keeps the whole. -/
theorem Holds.kept {other : Task ρ} (h : Holds r t other) (kept : Kept r r' t t') : Holds r' t' other where
  conserved x := by
    have before := h.conserved x
    have same := kept.tally x
    rw [kept.accepted]
    omega
  dropped := by
    obtain ⟨dropped, events, telemetry⟩ := kept.dropped
    rw [dropped, events, telemetry]
    exact h.dropped
  failed := by
    have before := h.failed
    have same := kept.failed
    omega
  task raised := h.task (kept.position raised)
  other := h.other
  honest := kept.honest h.honest

/-- A report changes nothing that is to hold. -/
theorem Holds.publish {now : Time} {force : Bool} (h : Holds r t t') : Holds (r.publishHealth config now force) t t' := by
  unfold EventRecorder.publishHealth
  split
  · exact h
  · exact ⟨h.conserved, h.dropped, h.failed, h.task, h.other, h.honest⟩

/-- A record that is accepted goes to a queue or is counted. -/
theorem Holds.enqueue (h : Holds r t t') (record : ρ) (importance : String) (now : Time) :
    Holds (r.enqueue config record importance now) t t' := by
  have balance := h.conserved
  have drops := h.dropped
  unfold EventRecorder.tally at balance
  have droppedEvent : Holds ((r.accept record).dropEvent record) t t' := by
    refine ⟨fun x => ?_, ?_, h.failed, h.task, h.other, h.honest⟩
    · have before := balance x
      simp only [EventRecorder.tally, EventRecorder.accept, EventRecorder.dropEvent, List.count_append]
      omega
    · simp only [EventRecorder.accept, EventRecorder.dropEvent, List.length_append, List.length_singleton]
      omega
  have droppedTelemetry : Holds ((r.accept record).dropTelemetry record) t t' := by
    refine ⟨fun x => ?_, ?_, h.failed, h.task, h.other, h.honest⟩
    · have before := balance x
      simp only [EventRecorder.tally, EventRecorder.accept, EventRecorder.dropTelemetry, List.count_append]
      omega
    · simp only [EventRecorder.accept, EventRecorder.dropTelemetry, List.length_append, List.length_singleton]
      omega
  unfold EventRecorder.enqueue
  split
  · exact h
  · split
    · split
      · refine ⟨fun x => ?_, h.dropped, h.failed, h.task, h.other, h.honest⟩
        have before := balance x
        simp only [EventRecorder.tally, EventRecorder.accept, List.count_append]
        omega
      · exact droppedEvent.publish
    · split
      · exact droppedTelemetry
      · split
        · refine ⟨fun x => ?_, h.dropped, h.failed, h.task, h.other, h.honest⟩
          have before := balance x
          simp only [EventRecorder.tally, EventRecorder.accept, List.count_append]
          omega
        · exact droppedTelemetry.publish

/-- The recorder is started; files that could not be opened leave it without a disk. -/
theorem Holds.start (h : Holds s.recorder s.writer s.stopper) (o o' : Outcome) : Recorded (s.start config o o') := by
  have unready : ∀ {r : EventRecorder ρ}, Holds r s.writer s.stopper → Recorded { s with recorder := r } :=
    fun h => recorded_iff_writer.mpr h
  unfold World.start
  dsimp only
  split
  · exact unready h.publish
  · split
    · refine unready (Holds.publish ?_)
      exact ⟨h.conserved, h.dropped, h.failed, h.task, h.other, by intro available; cases available⟩
    · split
      · refine unready (Holds.publish ?_)
        exact ⟨h.conserved, h.dropped, h.failed, h.task, h.other, by intro available; cases available⟩
      · have opened : Holds { s.recorder with eventsWriter := .opened o, telemetryWriter := .opened o' } s.writer
            s.stopper := ⟨h.conserved, h.dropped, h.failed, h.task, h.other, h.honest⟩
        have started := @Holds.publish _ _ config _ _ _ o'.now true opened
        exact recorded_iff_writer.mpr
          ⟨started.conserved, started.dropped, started.failed, (by intro same; cases same), started.other, started.honest⟩

/-- Neither task finds a flag set against it. -/
def Untouched (s : World ρ) : Prop := Uncrossed s.recorder s.writer.work ∧ Uncrossed s.recorder s.stopper.work

omit [DecidableEq ρ] in
/-- Both flags stay, or the disk is unavailable. -/
theorem Untouched.of_flags {writer stopper : Task ρ} (h : Untouched s)
    (disk : s.recorder.diskAvailable = false → r.diskAvailable = false) (degraded : r.degraded = s.recorder.degraded)
    (same : writer.work = s.writer.work) (same' : stopper.work = s.stopper.work) : Untouched ⟨r, writer, stopper⟩ := by
  have healthy : s.recorder.degraded = false → r.degraded = false := fun healthy => degraded.trans healthy
  exact ⟨by rw [same]; exact h.1.of_flags disk healthy, by rw [same']; exact h.2.of_flags disk healthy⟩

omit [DecidableEq ρ] in
/-- A report touches no flag. -/
theorem Untouched.reported {now : Time} {force : Bool} (h : Untouched ⟨r, t, t'⟩) :
    Untouched ⟨r.publishHealth config now force, t, t'⟩ :=
  h.of_flags (fun unavailable => publishHealth_flags.2.trans unavailable) publishHealth_flags.1 rfl rfl

omit [DecidableEq ρ] in
/-- `start` touches none that a task has left. -/
theorem Untouched.start (h : Untouched s) (o o' : Outcome) : Untouched (s.start config o o') := by
  unfold World.start
  dsimp only
  split
  · exact h.reported
  · split
    · exact Untouched.reported (h.of_flags (fun _ => rfl) rfl rfl rfl)
    · split
      · exact Untouched.reported (h.of_flags (fun _ => rfl) rfl rfl rfl)
      · exact Untouched.reported (h.of_flags id rfl rfl rfl)

omit [DecidableEq ρ] in
/-- Where no task acts between the other one's flags, none is set against it. -/
theorem Untouched.step (h : Untouched s) {event : Event ρ} (apart : Apart s event) :
    Untouched (s.step config lib event) := by
  cases event with
  | start o o' =>
    unfold World.step
    dsimp only
    split
    · exact h.start o o'
    · exact h
  | enqueue record importance now =>
    exact h.of_flags (fun unavailable => enqueue_flags.2.trans unavailable) enqueue_flags.1 rfl rfl
  | stop =>
    unfold World.step
    dsimp only
    split
    · exact h.of_flags id rfl rfl rfl
    · exact h
  | go who o =>
    cases who with
    | writer =>
      show Untouched ⟨(go config lib .writer o s.recorder s.writer).1, _, s.stopper⟩
      exact ⟨go_uncrossed, h.2.go apart⟩
    | stopper =>
      show Untouched ⟨(go config lib .stopper o s.recorder s.stopper).1, s.writer, _⟩
      exact ⟨h.1.go apart, go_uncrossed⟩

end

/-- A record is a number, and every line is an empty object. -/
def someLibrary : Library Nat := ⟨fun _ => some "\x7b\x7d", fun _ => true⟩

/-- A step in which nothing fails, and one in which a call of the system does. -/
def fine : Outcome := ⟨0, false, 0, some 10⟩

def fails : Outcome := { fine with osError := true }

end Firebot.Recorder
