import Mathlib.Data.List.Nodup
import Mathlib.Logic.Function.Basic
import Firebot.Dispatcher.Publish
import Firebot.Lib.Run

/-!
# The stream of safety commands

`safety_loop` of the command dispatcher goes through the stream in cycles: it claims up to ten entries that
were delivered a second ago or more and never acknowledged, hands them to `process_safety_events`, and then
reads up to ten new ones. An entry whose text is no JSON ends the whole cycle; whatever else goes wrong with an
entry stays with it, and an entry that fails validation is never acknowledged.

The stream is a list of pending entries and one of unread ones, in the order of their ids. `xautoclaim` looks at
the first hundred pending entries, ten for each that it may claim.
-/

namespace Firebot.Dispatcher

open MqttIngress Server

/-! ## The stream -/

/-- An entry: its id and the text of its field `command`, where it has one. -/
structure Entry where
  id : Nat
  command : Option String
  deriving DecidableEq

/-- An entry that was delivered and not acknowledged. -/
structure Pending where
  entry : Entry
  deliveredAt : Time

/-- `firebot:safety_commands` with the group `dispatchers`; ids are unique. -/
structure Stream where
  pending : List Pending
  unread : List Entry
  distinct : (pending.map (·.entry.id) ++ unread.map (·.id)).Nodup

namespace Stream

variable (s : Stream)

/-- `xack`. -/
def ack (id : Nat) : Stream where
  pending := s.pending.filter fun p => p.entry.id ≠ id
  unread := s.unread
  distinct := s.distinct.sublist ((List.filter_sublist.map _).append_right _)

/-- The entries with these ids are delivered again. -/
def deliver (ids : List Nat) (now : Time) : Stream where
  pending := s.pending.map fun p => if p.entry.id ∈ ids then { p with deliveredAt := now } else p
  unread := s.unread
  distinct := by
    rw [List.map_map]
    have same : ((fun p : Pending => p.entry.id) ∘
        fun p => if p.entry.id ∈ ids then { p with deliveredAt := now } else p) = fun p => p.entry.id := by
      funext p
      dsimp only [Function.comp]
      split <;> rfl
    rw [same]
    exact s.distinct

/-- `xreadgroup` with `>`: the first unread entries become pending. -/
def read (count : Nat) (now : Time) : Stream where
  pending := s.pending ++ (s.unread.take count).map fun entry => { entry, deliveredAt := now }
  unread := s.unread.drop count
  distinct := by
    rw [List.map_append, List.map_map, List.append_assoc]
    have together : (s.unread.take count).map (·.id) ++ (s.unread.drop count).map (·.id) = s.unread.map (·.id) := by
      rw [← List.map_append, List.take_append_drop]
    exact together ▸ s.distinct

/-- `xadd`. -/
def add (entry : Entry) : Stream :=
  if fresh : entry.id ∉ s.pending.map (·.entry.id) ++ s.unread.map (·.id) then
    { pending := s.pending
      unread := s.unread ++ [entry]
      distinct := by
        rw [List.map_append, ← List.append_assoc]
        exact s.distinct.append (List.nodup_singleton _)
          (List.disjoint_singleton.mpr fresh) }
  else s

end Stream

/-! ## The cycles -/

/-- What the handling of an entry is given: the time of the expiry check and that of the new row, how the
publish ends, and whether the transaction commits. -/
structure Answer where
  now : Time
  storedAt : Time
  broker : Option Failure
  commits : Bool

/-- What a cycle is given. -/
structure Cycle where
  claimedAt : Time
  readAt : Time
  answer : Nat → Answer

/-- An entry that was handled: how its publish ended, `none` where it was not come to, whether the entry was
acknowledged, and the command's row after the transaction. -/
structure Handled where
  entry : Entry
  payload : JsonTree
  publication : Option Publication
  acknowledged : Bool
  row : Option Row

/-- The stream and the commands. -/
structure Desk where
  stream : Stream
  commands : String → Option Row

/-- What has become of a list of entries; `raised` says that one of them has ended the cycle. -/
structure Processed where
  desk : Desk
  handled : List Handled
  raised : Bool

section

variable (lib : Library)

/-- `json.loads(fields["command"])`. -/
def Entry.payload (e : Entry) : Option JsonTree := e.command.bind lib.loads

/-- `payload["command_id"]`, as the database compares it with a column. -/
def commandId (payload : JsonTree) : Except Raised (Option String) :=
  match payload with
  | .obj _ =>
    match payload.get "command_id" with
    | none => .error .keyError
    | some value => lib.env.bind value
  | _ => .error .typeError

/-- `acknowledge`, before the transaction commits. -/
def Publication.acknowledges : Publication → Bool
  | .published | .expired => true
  | .failed _ _ => false

/-- What a publish makes of the command's row. -/
def Publication.applied (publication : Publication) (storedAt : Time) (row : Row) : Row :=
  match publication with
  | .published => { row with lifecycleStatus := .published, publishedAt := some storedAt }
  | .expired => { row with lifecycleStatus := .expired, terminalAt := some storedAt }
  | .failed error _ => { row with ackReason := some error.typeName }

/-- The commands with one of them changed. -/
def changed (commands : String → Option Row) (key : Option String) (f : Row → Row) : String → Option Row :=
  match key with
  | none => commands
  | some id => Function.update commands id ((commands id).map f)

/-- The body of the loop in `process_safety_events`, once the payload is decoded. -/
def Desk.handle (w : Desk) (e : Entry) (payload : JsonTree) (a : Answer) : Desk × Handled :=
  match commandId lib payload with
  | .error _ => (w, { entry := e, payload, publication := none, acknowledged := false, row := none })
  | .ok key =>
    let publication := publishCommand lib payload a.now a.broker
    if a.commits then
      let commands := changed w.commands key (publication.applied a.storedAt)
      let stream := if publication.acknowledges then w.stream.ack e.id else w.stream
      ({ stream, commands },
        { entry := e, payload, publication := some publication, acknowledged := publication.acknowledges
          row := key.bind commands })
    else
      (w, { entry := e, payload, publication := some publication, acknowledged := false, row := key.bind w.commands })

/-- `process_safety_events`. -/
def Desk.processSafetyEvents (answer : Nat → Answer) (w : Desk) : List Entry → Processed
  | [] => { desk := w, handled := [], raised := false }
  | e :: events =>
    match e.payload lib with
    | none => { desk := w, handled := [], raised := true }
    | some payload =>
      let (w, handled) := w.handle lib e payload (answer e.id)
      let rest := processSafetyEvents answer w events
      { rest with handled := handled :: rest.handled }

/-- The entry is due for another try. -/
def Cycle.due (c : Cycle) (p : Pending) : Bool := second ≤ c.claimedAt - p.deliveredAt

/-- What `xautoclaim` with `count=10` claims. -/
def Stream.claimed (s : Stream) (c : Cycle) : List Pending := ((s.pending.take 100).filter c.due).take 10

/-- A pass of `safety_loop`. -/
def Desk.safetyCycle (w : Desk) (c : Cycle) : Processed :=
  let claimed := (w.stream.claimed c).map (·.entry)
  let first :=
    { w with stream := w.stream.deliver (claimed.map Entry.id) c.claimedAt }.processSafetyEvents lib c.answer claimed
  if first.raised then first
  else
    let events := first.desk.stream.unread.take 10
    let second :=
      { first.desk with stream := first.desk.stream.read 10 c.readAt }.processSafetyEvents lib c.answer events
    { second with handled := first.handled ++ second.handled }

/-- What can happen: a command is added to the stream, others change the commands, and a pass of the loop. -/
inductive SafetyEvent where
  | add (entry : Entry)
  | others (commands : String → Option Row)
  | cycle (c : Cycle)

/-- What an event makes of the stream and the commands. -/
def Desk.step (w : Desk) : SafetyEvent → Desk
  | .add entry => { w with stream := w.stream.add entry }
  | .others commands => { w with commands }
  | .cycle c => (w.safetyCycle lib c).desk

/-! ## What is to hold -/

/-- The entry is a command that can be looked up, validated and compared with the clock; every other one is
bad. -/
def Entry.sound (e : Entry) : Bool :=
  match e.payload lib with
  | none => false
  | some payload =>
    (commandId lib payload).toBool && (validateMessage lib.env payload).toBool && (expiresAt lib payload).toBool

/-- The text of the entry is JSON. -/
def Entry.wellFormed (e : Entry) : Bool := (e.payload lib).isSome

/-- The entries that a cycle comes to: of those it claims, and then of the new ones, those before the first that
is malformed. -/
def Desk.reached (w : Desk) (c : Cycle) : List Entry :=
  let claimed := (w.stream.claimed c).map (·.entry)
  claimed.takeWhile (·.wellFormed lib) ++
    if claimed.all (·.wellFormed lib) then (w.stream.unread.take 10).takeWhile (·.wellFormed lib) else []

end

/-! ## Handling an entry -/

section

variable {lib : Library} {w : Desk} {e : Entry} {payload : JsonTree} {a : Answer}

end

end Firebot.Dispatcher
