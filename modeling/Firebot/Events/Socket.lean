import Mathlib.Data.Prod.Lex
import Firebot.Lib.Run
import Firebot.Lib.TrimmedLog

/-!
# The event socket

`monitor_socket` replays the event stream to a browser, from a position on. Redis trims the stream as it
grows. The socket looks at the oldest entry once, when it is opened, and then goes by its cursor: what is
trimmed while it is open it does not notice, nor what had been before if the position is `0-0` or nothing is
left of the stream.

The look is enough for what had been trimmed before (`connect_tells`), and the cursor for what has been read.
**So the ids that a socket delivers are without a gap as long as no trim takes an entry that it has yet to
read, and it is not opened at `0-0`, or on an emptied stream, after such an entry is gone**
(`socket_gapless`). A run is without a gap exactly if no `xread` misses an entry (`gapless_iff`); nothing is
said of how fast a reader has to be for that.
-/

namespace Firebot.Events

open TrimmedLog (after moved)

/-- The id of an entry, as `stream_tuple` reads it. -/
abbrev StreamId := ℕ ×ₗ ℕ

/-- The id with these numbers. -/
def streamId (time sequence : ℕ) : StreamId := toLex (time, sequence)

/-- `0-0`. -/
def zero : StreamId := streamId 0 0

/-- The entries that one `xread` returns at most. -/
def readCount : Nat := 100

/-- What has become of the connection: the client may have been told to load a snapshot again. -/
inductive Connection where
  | idle
  | resync
  | reading (start cursor : StreamId) (delivered : List StreamId)
  | closed (start : StreamId) (delivered : List StreamId)

/-- The stream and a connection. -/
structure Monitor where
  stream : TrimmedLog StreamId
  connection : Connection

/-- What can happen. A turn of the loop reads, and sends until the client is gone, if it goes: the sends touch
nothing that others see. -/
inductive Event where
  | append (id : StreamId)
  | trim (count : Nat)
  | connect (start : StreamId)
  | turn (sent : Nat)
  | fail

namespace Monitor

variable (m : Monitor)

/-- The beginning of `monitor_socket`, once the ticket has been accepted. -/
def connect (start : StreamId) : Connection :=
  match m.stream.retained.head? with
  | none => .reading start start []
  | some first => if start ≠ zero ∧ start < first then .resync else .reading start start []

/-- A turn of the loop, in which the client takes this many entries. -/
def turn (start cursor : StreamId) (delivered : List StreamId) (sent : Nat) : Connection :=
  let rows := m.stream.read cursor readCount
  if sent < rows.length then .closed start (delivered ++ rows.take sent)
  else .reading start (moved cursor rows) (delivered ++ rows)

/-- One event. -/
def step : Event → Monitor
  | .append id => { m with stream := m.stream.append id }
  | .trim count => { m with stream := m.stream.trim count }
  | .connect start =>
    match m.connection with
    | .idle => { m with connection := m.connect start }
    | _ => m
  | .turn sent =>
    match m.connection with
    | .reading start cursor delivered => { m with connection := m.turn start cursor delivered sent }
    | _ => m
  | .fail =>
    match m.connection with
    | .reading start _ delivered => { m with connection := .closed start delivered }
    | _ => m

/-- The ids delivered are the first of those appended after the start. -/
def Gapless : Prop :=
  match m.connection with
  | .idle | .resync => True
  | .reading start _ delivered | .closed start delivered => delivered <+: after start m.stream.ids

/-- An `xread` that finds entries to deliver misses none before them. -/
def Misses (m : Monitor) : Event → Prop
  | .turn sent =>
    match m.connection with
    | .reading _ cursor _ =>
      0 < sent ∧ m.stream.read cursor readCount ≠ [] ∧ ∃ id ∈ m.stream.lost, cursor < id
    | _ => False
  | _ => False

/-- The reader is ahead of the trimming: a trim takes only entries that an open socket has read, and a socket
that is opened at `0-0`, or on an emptied stream, finds nothing trimmed after its position. -/
def Ahead (m : Monitor) : Event → Prop
  | .connect start => m.connection = .idle → (start = zero ∨ m.stream.retained = []) →
      ∀ id ∈ m.stream.lost, id ≤ start
  | .trim count =>
    match m.connection with
    | .reading _ cursor _ => ∀ id ∈ m.stream.retained.take count, id ≤ cursor
    | .idle | .resync | .closed .. => True
  | .append _ | .turn _ | .fail => True

/-- Everything up to the cursor has been delivered. -/
def Complete : Prop :=
  match m.connection with
  | .idle | .resync => True
  | .reading start cursor delivered => m.stream.ReadUpTo start cursor delivered
  | .closed start delivered => delivered <+: after start m.stream.ids

/-- Nothing has been trimmed after the cursor. -/
def Kept : Prop :=
  match m.connection with
  | .reading _ cursor _ => ∀ id ∈ m.stream.lost, id ≤ cursor
  | .idle | .resync | .closed .. => True

/-! ## One event -/

variable {m : Monitor} {start cursor : StreamId} {delivered : List StreamId}

theorem Complete.gapless (complete : m.Complete) : m.Gapless := by
  unfold Complete at complete
  unfold Gapless
  cases connection : m.connection with
  | idle | resync => trivial
  | reading start cursor delivered =>
    rw [connection] at complete
    exact complete.gapless
  | closed start delivered =>
    rw [connection] at complete
    exact complete

theorem complete_connect (m : Monitor) (start : StreamId) :
    Complete { m with connection := m.connect start } := by
  unfold Monitor.connect
  split
  · exact .begin m.stream start
  · split
    · trivial
    · exact .begin m.stream start

/-- A turn leaves no gap exactly if nothing has been trimmed that it should have read. -/
theorem turn_gapless (reader : m.stream.ReadUpTo start cursor delivered) (sent : Nat) :
    (Gapless { m with connection := m.turn start cursor delivered sent } ↔
      ¬ (0 < sent ∧ m.stream.read cursor readCount ≠ [] ∧ ∃ id ∈ m.stream.lost, cursor < id)) ∧
    (Gapless { m with connection := m.turn start cursor delivered sent } →
      Complete { m with connection := m.turn start cursor delivered sent }) := by
  have kept_iff : (∀ id ∈ m.stream.lost, id ≤ cursor) ↔ ¬ ∃ id ∈ m.stream.lost, cursor < id := by
    simp only [not_exists, not_and, not_lt]
  unfold Monitor.turn
  by_cases nothing : m.stream.read cursor readCount = []
  · simp only [nothing, List.length_nil, Nat.not_lt_zero, if_false, TrimmedLog.moved_nil, List.append_nil]
    exact ⟨iff_of_true reader.gapless fun missed => missed.2.1 rfl, fun _ => reader⟩
  · dsimp only
    split
    next gone =>
      have taken : (m.stream.read cursor readCount).take sent = m.stream.read cursor sent := by
        have few : sent ≤ readCount := le_trans gone.le (List.length_take_le ..)
        unfold TrimmedLog.read
        rw [List.take_take, min_eq_left few]
      refine ⟨?_, id⟩
      show delivered ++ (m.stream.read cursor readCount).take sent <+: after start m.stream.ids ↔ _
      rcases Nat.eq_zero_or_pos sent with rfl | positive
      · rw [List.take_zero, List.append_nil]
        exact iff_of_true reader.gapless fun missed => absurd missed.1 (lt_irrefl _)
      · have some : m.stream.read cursor sent ≠ [] := by
          intro none_sent
          rw [← taken, List.take_eq_nil_iff] at none_sent
          rcases none_sent with zero_sent | none_read
          · exact absurd zero_sent positive.ne'
          · exact nothing none_read
        rw [taken, TrimmedLog.read_prefix_iff reader.complete some, kept_iff]
        simp only [positive, nothing, ne_eq, not_false_eq_true, true_and]
    next all_sent =>
      have positive : 0 < sent :=
        lt_of_lt_of_le (List.length_pos_of_ne_nil nothing) (not_lt.mp all_sent)
      have gapless_iff := TrimmedLog.read_prefix_iff reader.complete nothing
      refine ⟨?_, fun gapless => reader.read (gapless_iff.mp gapless) readCount⟩
      show delivered ++ m.stream.read cursor readCount <+: after start m.stream.ids ↔ _
      rw [gapless_iff, kept_iff]
      simp only [positive, nothing, ne_eq, not_false_eq_true, true_and]

/-- An event leaves no gap exactly if it does not miss an entry. -/
theorem Complete.step (complete : m.Complete) (e : Event) :
    ((m.step e).Gapless ↔ ¬ m.Misses e) ∧ ((m.step e).Gapless → (m.step e).Complete) := by
  have keeps : ¬ m.Misses e → (m.step e).Complete →
      ((m.step e).Gapless ↔ ¬ m.Misses e) ∧ ((m.step e).Gapless → (m.step e).Complete) :=
    fun sound after => ⟨iff_of_true after.gapless sound, fun _ => after⟩
  obtain ⟨stream, connection⟩ := m
  cases e with
  | append id =>
    refine keeps (fun missed => missed) ?_
    cases connection with
    | idle | resync => trivial
    | reading start cursor delivered => exact complete.append id
    | closed start delivered => exact TrimmedLog.prefix_append id complete
  | trim count =>
    refine keeps (fun missed => missed) ?_
    cases connection with
    | idle | resync => trivial
    | reading start cursor delivered => exact complete.trim count
    | closed start delivered => exact complete
  | connect start =>
    refine keeps (fun missed => missed) ?_
    cases connection with
    | idle => exact complete_connect ⟨stream, .idle⟩ start
    | resync | reading | closed => exact complete
  | turn sent =>
    cases connection with
    | idle | resync | closed => exact keeps (fun missed => missed) complete
    | reading start cursor delivered => exact turn_gapless complete sent
  | fail =>
    refine keeps (fun missed => missed) ?_
    cases connection with
    | idle | resync | closed => exact complete
    | reading start cursor delivered => exact complete.gapless

/-! ## Runs -/

theorem states_gapless_iff (complete : m.Complete) (events : List Event) :
    (∀ before after, events = before ++ after → (Runs.run Monitor.step m before).Gapless) ↔
      Runs.Meets Monitor.step (fun m e => ¬ m.Misses e) m events := by
  constructor
  · intro gapless
    induction events generalizing m with
    | nil => trivial
    | cons e events ih =>
      have next : (m.step e).Gapless := gapless [e] events rfl
      obtain ⟨sound, completes⟩ := complete.step e
      refine ⟨sound.mp next, ih (completes next) ?_⟩
      intro before after split
      exact gapless (e :: before) after (by rw [split]; rfl)
  · intro met before after split
    refine (Runs.states_of_meets (I := Complete) ?_ complete met before after split).gapless
    intro m e complete sound
    obtain ⟨gapless, completes⟩ := complete.step e
    exact completes (gapless.mpr sound)

/-- **The look at the oldest entry**: a socket that is opened after an entry behind its position has been trimmed
tells the client so, unless the position is `0-0` or nothing is left of the stream. -/
theorem connect_tells {id : StreamId} (gone : id ∈ m.stream.lost) (later : start < id)
    (position : start ≠ zero) (left : m.stream.retained ≠ []) : m.connect start = .resync := by
  obtain ⟨first, rest, front⟩ := List.exists_cons_of_ne_nil left
  have there : first ∈ m.stream.retained := by
    rw [front]
    exact List.mem_cons_self
  unfold Monitor.connect
  rw [front, List.head?_cons]
  exact if_pos ⟨position, later.trans (TrimmedLog.lost_lt there gone)⟩

/-- While the reader is ahead, nothing is trimmed after its cursor. -/
theorem Kept.step (kept : m.Kept) {e : Event} (ahead : m.Ahead e) : (m.step e).Kept := by
  obtain ⟨stream, connection⟩ := m
  cases e with
  | append id =>
    cases connection with
    | idle | resync | closed => trivial
    | reading start cursor delivered =>
      show ∀ other ∈ (stream.append id).lost, other ≤ cursor
      rw [stream.lost_append]
      exact kept
  | trim count =>
    cases connection with
    | idle | resync | closed => trivial
    | reading start cursor delivered =>
      show ∀ other ∈ (stream.trim count).lost, other ≤ cursor
      rw [stream.lost_trim]
      exact fun other gone => (List.mem_append.mp gone).elim (kept other) (ahead other)
  | connect start =>
    cases connection with
    | resync | reading | closed => exact kept
    | idle =>
      unfold Kept
      split
      next start' cursor delivered opened =>
        -- the position of a socket that reads is its cursor
        have opened : Monitor.connect ⟨stream, .idle⟩ start = .reading start' cursor delivered := opened
        obtain rfl : start = cursor := by
          unfold Monitor.connect at opened
          repeat' split at opened
          all_goals cases opened
          all_goals rfl
        intro id gone
        by_contra later
        have told := connect_tells (m := ⟨stream, .idle⟩) gone (not_le.mp later)
        by_cases open_end : start = zero ∨ stream.retained = []
        · exact later (ahead rfl open_end id gone)
        · rw [not_or] at open_end
          rw [told open_end.1 open_end.2] at opened
          cases opened
      all_goals trivial
  | turn sent =>
    cases connection with
    | idle | resync | closed => trivial
    | reading start cursor delivered =>
      show Kept ⟨stream, Monitor.turn ⟨stream, _⟩ start cursor delivered sent⟩
      unfold Monitor.turn
      dsimp only
      split
      · trivial
      · exact TrimmedLog.lost_le_moved kept readCount
  | fail => cases connection <;> trivial

/-- Where nothing has been trimmed after the cursor, no turn misses an entry. -/
theorem Kept.misses_nothing (kept : m.Kept) (e : Event) : ¬ m.Misses e := by
  intro misses
  unfold Misses at misses
  split at misses
  · split at misses
    next start cursor delivered connection =>
      unfold Kept at kept
      rw [connection] at kept
      obtain ⟨_, _, id, gone, later⟩ := misses
      exact absurd (kept id gone) (not_le.mpr later)
    · exact misses
  · exact misses

/-- What a connection has delivered is without a gap in every state of a run exactly if no turn misses an
entry. -/
theorem gapless_iff (stream : TrimmedLog StreamId) (events : List Event) :
    (∀ before after, events = before ++ after →
      (Runs.run Monitor.step ⟨stream, .idle⟩ before).Gapless) ↔
      Runs.Meets Monitor.step (fun m e => ¬ m.Misses e) ⟨stream, .idle⟩ events :=
  states_gapless_iff (m := ⟨stream, .idle⟩) trivial events

/-- **While the reader is ahead of the trimming, what a connection has delivered is without a gap in every state
of a run, or the client has been told.** -/
theorem socket_gapless (stream : TrimmedLog StreamId) (events : List Event)
    (ahead : Runs.Meets Monitor.step Ahead ⟨stream, .idle⟩ events) (before after : List Event)
    (split : events = before ++ after) : (Runs.run Monitor.step ⟨stream, .idle⟩ before).Gapless := by
  have met : Runs.Meets Monitor.step (fun m e => ¬ m.Misses e) ⟨stream, .idle⟩ events :=
    Runs.meets_of_invariant (I := Kept) (fun _ _ kept ok => kept.step ok) (fun _ e kept => kept.misses_nothing e)
      trivial ahead
  exact (gapless_iff stream events).mpr met before after split

/-- A stream of one entry. -/
def oneEntry : TrimmedLog StreamId where
  ids := [streamId 1 0]
  trimmed := 0
  ascending := List.pairwise_singleton _ _
  inside := Nat.zero_le _

/-- The connection is opened at the entry; one follows and is read, both are trimmed, and another follows. -/
def quickReader : List Event :=
  [.connect (streamId 1 0), .append (streamId 2 0), .turn 1, .trim 2, .append (streamId 3 0), .turn 1]

/-- A socket that has read the entries before they are trimmed goes on without a gap. -/
theorem socket_gapless_quickReader : (Runs.run Monitor.step ⟨oneEntry, .idle⟩ quickReader).Gapless := by
  refine socket_gapless oneEntry quickReader ?_ quickReader [] (List.append_nil _).symm
  refine ⟨fun _ _ => List.forall_mem_nil _, trivial, trivial, ?_, trivial, trivial, trivial⟩
  show ∀ id ∈ [streamId 1 0, streamId 2 0], id ≤ streamId 2 0
  decide

/-- The connection is opened at the entry; two follow, and the first of them is trimmed before the next
turn. -/
def slowReader : List Event :=
  [.connect (streamId 1 0), .append (streamId 2 0), .append (streamId 3 0), .trim 2, .turn 1]

/-- An entry that is trimmed before it is read disappears without a word. -/
theorem trimmed_unread :
    ¬ ∀ (stream : TrimmedLog StreamId) (events before after : List Event), events = before ++ after →
      (Runs.run Monitor.step ⟨stream, .idle⟩ before).Gapless := by
  intro claim
  have gapless := claim oneEntry slowReader slowReader [] (List.append_nil _).symm
  have missed : ¬ [streamId 3 0] <+: [streamId 2 0, streamId 3 0] := by decide
  exact missed gapless

end Monitor

end Firebot.Events
