import Mathlib.Data.Rat.Defs
import Firebot.Data.Json
import Firebot.Lib.Run

/-!
# The event recorder

Records are put into two bounded queues, and a writer thread writes them to two files that are rotated.
`stop` drains the queues as well, in the thread that calls it, and closes the files without waiting for the
writer thread. The steps of a task that has taken a record are those of `_write`: the record is serialized, the
file is looked at, closed and opened again where it is to be rotated, written to, and then either the error is
counted and the recorder degrades, or it may recover.

What a step is given says whether a call of the system raises an `OSError`, what the clock reads, and how large a
reopened file and the free space are. What is read of a directory to delete old files is left out. The model
keeps the records that were accepted, that were written, and that were counted as dropped or as errors; a record
of which a part stays in a buffer after an error is one that was counted.
-/

namespace Firebot.Recorder

/-- The two queues and their files. -/
inductive Kind where
  | events
  | telemetry
  deriving DecidableEq

/-- The configuration, as the constructor reads it. -/
structure Config where
  queueSize : Nat
  maxBytes : Int
  maxAgeHours : ℚ
  minFreeBytes : Nat
  hasStatus : Bool

/-- `json.dumps` of a record, `none` where it raises, and whether a text can be written in UTF-8. -/
structure Library (ρ : Type) where
  dumps : ρ → Option String
  encodes : String → Bool

/-- `_RotatingWriter`; a file that is not open is `None`. -/
structure RotatingWriter where
  isOpen : Bool
  openAt : Time
  size : Int

/-- How far `_write` has come with a record. -/
inductive Work (ρ : Type) where
  | idle
  | holding (kind : Kind) (record : ρ)
  | checking (kind : Kind) (record : ρ) (line : String)
  /-- `_rotate` has closed the file. -/
  | reopening (kind : Kind) (record : ρ) (line : String)
  | writing (kind : Kind) (record : ρ) (line : String)
  /-- An `OSError` was caught. -/
  | failing (record : ρ)
  /-- The error was counted. -/
  | degrading
  /-- `write` has returned. -/
  | clearing
  | recovering

/-- The record that a task has in hand. -/
def Work.hand {ρ : Type} : Work ρ → List ρ
  | .holding _ record | .checking _ record _ | .reopening _ record _ | .writing _ record _ | .failing record => [record]
  | .idle | .degrading | .clearing | .recovering => []

/-- Where a task is, between two records. -/
inductive Position where
  | off
  | loop
  | events
  | telemetry
  | health
  | closing
  | finishing
  | ended
  /-- An exception has ended it. -/
  | raised
  deriving DecidableEq

/-- A task: the writer thread, or the call of `stop`. -/
structure Task (ρ : Type) where
  position : Position
  work : Work ρ

/-- What `_publish_health` reports. -/
structure Health where
  eventLoggerReady : Bool
  eventQueueDepth : Nat
  eventDropped : Nat
  telemetryDropped : Nat
  writeErrors : Nat
  diskLogAvailable : Bool
  deriving DecidableEq

/-- The `EventRecorder`, and the records that were accepted, written, dropped and counted as errors. -/
structure EventRecorder (ρ : Type) where
  ready : Bool
  stopSet : Bool
  degraded : Bool
  diskAvailable : Bool
  eventDropped : Nat
  telemetryDropped : Nat
  writeErrors : Nat
  lastHealth : Time
  reported : Option Health
  eventQueue : List ρ
  telemetryQueue : List ρ
  eventsWriter : RotatingWriter
  telemetryWriter : RotatingWriter
  accepted : List ρ
  written : List ρ
  dropped : List ρ
  failed : List ρ

/-- What a step is given. -/
structure Outcome where
  now : Time
  osError : Bool
  size : Int
  free : Option Nat

/-- Who takes a step. -/
inductive Who where
  | writer
  | stopper
  deriving DecidableEq

/-- The recorder with its two tasks. -/
structure World (ρ : Type) where
  recorder : EventRecorder ρ
  writer : Task ρ
  stopper : Task ρ

/-- What can happen. -/
inductive Event (ρ : Type) where
  | start (outcome outcome' : Outcome)
  | enqueue (record : ρ) (importance : String) (now : Time)
  | stop
  | go (who : Who) (outcome : Outcome)

variable {ρ : Type} (config : Config) (lib : Library ρ)

/-! ## The files -/

namespace RotatingWriter

variable (w : RotatingWriter)

/-- `open`, where it does not raise. -/
def opened (outcome : Outcome) : RotatingWriter := ⟨true, outcome.now, outcome.size⟩

/-- `close`. -/
def closed : RotatingWriter := { w with isOpen := false }

/-- `_needs_rotate`. -/
def needsRotate (now : Time) : Bool :=
  max config.maxBytes 1 ≤ w.size ||
    (0 < config.maxAgeHours && config.maxAgeHours * 3600 * second ≤ ((now - w.openAt : Int) : ℚ))

end RotatingWriter

namespace EventRecorder

variable (r : EventRecorder ρ)

/-- The file of a kind. -/
def file : Kind → RotatingWriter
  | .events => r.eventsWriter
  | .telemetry => r.telemetryWriter

/-- The file of a kind is another one. -/
def setFile (kind : Kind) (file : RotatingWriter) : EventRecorder ρ :=
  match kind with
  | .events => { r with eventsWriter := file }
  | .telemetry => { r with telemetryWriter := file }

/-- What a report says. -/
def healthNow : Health where
  eventLoggerReady := r.ready
  eventQueueDepth := r.eventQueue.length + r.telemetryQueue.length
  eventDropped := r.eventDropped
  telemetryDropped := r.telemetryDropped
  writeErrors := r.writeErrors
  diskLogAvailable := r.diskAvailable

/-- `_publish_health`. -/
def publishHealth (now : Time) (force : Bool) : EventRecorder ρ :=
  if !config.hasStatus || (!force && now - r.lastHealth < second) then r
  else { r with lastHealth := now, reported := some r.healthNow }

/-! ## Enqueuing -/

/-- A record is accepted. -/
def accept (record : ρ) : EventRecorder ρ := { r with accepted := r.accepted ++ [record] }

/-- A record is counted as dropped from the events. -/
def dropEvent (record : ρ) : EventRecorder ρ :=
  { r with eventDropped := r.eventDropped + 1, dropped := r.dropped ++ [record] }

/-- A record is counted as dropped from the telemetry. -/
def dropTelemetry (record : ρ) : EventRecorder ρ :=
  { r with telemetryDropped := r.telemetryDropped + 1, dropped := r.dropped ++ [record] }

/-- `enqueue`. -/
def enqueue (record : ρ) (importance : String) (now : Time) : EventRecorder ρ :=
  if !r.ready then r
  else if importance = "critical" ∨ importance = "important" then
    if r.eventQueue.length < max config.queueSize 1 then
      { r.accept record with eventQueue := r.eventQueue ++ [record] }
    else ((r.accept record).dropEvent record).publishHealth config now true
  else if r.degraded then (r.accept record).dropTelemetry record
  else if r.telemetryQueue.length < max config.queueSize 1 then
    { r.accept record with telemetryQueue := r.telemetryQueue ++ [record] }
  else ((r.accept record).dropTelemetry record).publishHealth config now true

end EventRecorder

/-! ## A record is written -/

/-- A task ends with an exception. -/
def Task.raise : Task ρ := ⟨.raised, .idle⟩

/-- A task goes on with its record. -/
def Task.goOn (t : Task ρ) (work : Work ρ) : Task ρ := { t with work := work }

/-- The next step of `_write`. -/
def write (o : Outcome) (r : EventRecorder ρ) (t : Task ρ) : EventRecorder ρ × Task ρ :=
  match t.work with
  | .idle => (r, t)
  | .holding kind record =>
    match lib.dumps record with
    | some line => (r, t.goOn (.checking kind record (line ++ "\n")))
    | none => (r, .raise)
  | .checking kind record line =>
    -- `write` returns where the file is not open, and the record is gone
    if !(r.file kind).isOpen then (r, t.goOn .clearing)
    else if (r.file kind).needsRotate config o.now then
      (r.setFile kind (r.file kind).closed, t.goOn (.reopening kind record line))
    else (r, t.goOn (.writing kind record line))
  | .reopening kind record line =>
    if o.osError then (r, t.goOn (.failing record))
    else (r.setFile kind (.opened o), t.goOn (.writing kind record line))
  | .writing kind record line =>
    -- a file that the other task has closed, and a text that has no UTF-8, raise no `OSError`
    if !(r.file kind).isOpen || !lib.encodes line then (r, .raise)
    else if o.osError then (r, t.goOn (.failing record))
    else
      ({ r.setFile kind { r.file kind with size := (r.file kind).size + line.length } with
          written := r.written ++ [record] }, t.goOn .clearing)
  | .failing record =>
    ({ r with writeErrors := r.writeErrors + 1, diskAvailable := false, failed := r.failed ++ [record] },
      t.goOn .degrading)
  | .degrading => ({ r with degraded := true }, t.goOn .idle)
  | .clearing =>
    if !r.degraded then (r, t.goOn .recovering)
    else
      match o.free with
      | none => (r, t.goOn .idle)
      | some free =>
        if 6 * config.minFreeBytes ≤ 5 * free then ({ r with degraded := false }, t.goOn .recovering)
        else (r, t.goOn .idle)
  | .recovering => ({ r with diskAvailable := true }, t.goOn .idle)

/-! ## The tasks -/

/-- The next record of the events is taken, or else the task goes on elsewhere. -/
def takeEvent (r : EventRecorder ρ) (t : Task ρ) (next : Position) : EventRecorder ρ × Task ρ :=
  match r.eventQueue with
  | record :: rest => ({ r with eventQueue := rest }, t.goOn (.holding .events record))
  | [] => (r, { t with position := next })

/-- The next record of the telemetry is taken, and the task goes on at `after`, or else at `next`. -/
def takeTelemetry (r : EventRecorder ρ) (t : Task ρ) (after next : Position) : EventRecorder ρ × Task ρ :=
  match r.telemetryQueue with
  | record :: rest => ({ r with telemetryQueue := rest }, ⟨after, .holding .telemetry record⟩)
  | [] => (r, { t with position := next })

/-- The next step of `_writer_loop`, between two records. -/
def writerLoop (o : Outcome) (r : EventRecorder ρ) (t : Task ρ) : EventRecorder ρ × Task ρ :=
  match t.position with
  | .loop => (r, { t with position := if r.stopSet then .ended else .events })
  | .events => takeEvent r t .telemetry
  | .telemetry => takeTelemetry r t .health .health
  | .health => (r.publishHealth config o.now false, { t with position := .loop })
  | .off | .closing | .finishing | .ended | .raised => (r, t)

/-- The next step of `stop`, between two records. -/
def stopLoop (o : Outcome) (r : EventRecorder ρ) (t : Task ρ) : EventRecorder ρ × Task ρ :=
  match t.position with
  | .events => takeEvent r t .telemetry
  | .telemetry => takeTelemetry r t .telemetry .closing
  | .closing =>
    ({ r with eventsWriter := r.eventsWriter.closed, telemetryWriter := r.telemetryWriter.closed },
      { t with position := .finishing })
  | .finishing => ({ r with ready := false }.publishHealth config o.now true, { t with position := .ended })
  | .off | .loop | .health | .ended | .raised => (r, t)

/-- The next step of a task. -/
def go (who : Who) (o : Outcome) (r : EventRecorder ρ) (t : Task ρ) : EventRecorder ρ × Task ρ :=
  match t.work with
  | .idle =>
    match who with
    | .writer => writerLoop config o r t
    | .stopper => stopLoop config o r t
  | _ => write config lib o r t

namespace World

variable (s : World ρ)

/-- A recorder that has been constructed; `ready` says whether the directory could be made. -/
def initial (ready : Bool) : World ρ where
  recorder := {
    ready, stopSet := false, degraded := false, diskAvailable := true, eventDropped := 0, telemetryDropped := 0
    writeErrors := 0, lastHealth := 0, reported := none, eventQueue := [], telemetryQueue := []
    eventsWriter := ⟨false, 0, 0⟩, telemetryWriter := ⟨false, 0, 0⟩
    accepted := [], written := [], dropped := [], failed := [] }
  writer := ⟨.off, .idle⟩
  stopper := ⟨.off, .idle⟩

/-- `start`; the two outcomes are those of the two files. -/
def start (o o' : Outcome) : World ρ :=
  let r := s.recorder
  if !r.ready then { s with recorder := r.publishHealth config o.now true }
  else if o.osError then
    { s with recorder := { r with ready := false, diskAvailable := false }.publishHealth config o.now true }
  else if o'.osError then
    { s with
      recorder := { r with eventsWriter := .opened o, ready := false, diskAvailable := false }.publishHealth config
        o'.now true }
  else
    { s with
      recorder := { r with eventsWriter := .opened o, telemetryWriter := .opened o' }.publishHealth config o'.now true
      writer := { s.writer with position := .loop } }

/-- What happens; the recorder is started once and stopped once. -/
def step : Event ρ → World ρ
  | .start o o' =>
    match s.writer.position with
    | .off => s.start config o o'
    | _ => s
  | .enqueue record importance now => { s with recorder := s.recorder.enqueue config record importance now }
  | .stop =>
    match s.stopper.position with
    | .off => { s with recorder := { s.recorder with stopSet := true }, stopper := { s.stopper with position := .events } }
    | _ => s
  | .go .writer o =>
    let (r, t) := go config lib .writer o s.recorder s.writer
    { s with recorder := r, writer := t }
  | .go .stopper o =>
    let (r, t) := go config lib .stopper o s.recorder s.stopper
    { s with recorder := r, stopper := t }

end World

end Firebot.Recorder
