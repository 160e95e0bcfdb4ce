import Mathlib.Logic.Function.Basic
import Firebot.Lib.OrderedLog
import Firebot.Lib.Run
import Firebot.Uplink.Intake

/-!
# The sequence numbers of the Bridge's reports

On the vehicle, three kinds of thread report: the MQTT callback, the ROS reader and the feedback
timers. Each draws the number of its message in `Protocol.base`, may leave the message in the record
of its command, and hands it to the MQTT client in a step of its own; the callback may hand over a
remembered message again. The lock of `next_seq` covers the first step only.

The broker keeps the order of each topic, and the ingress takes one message at a time.

**Every fresh report of the current boot session has its handler run where every report is built so that it can
be sent, no thread hands over a message while another holds an earlier number of the same type (`Due`), and
no more reports of a type come within a second than the limit allows** (`no_report_lost`). Two threads that swap
in the gap send a later number first, and the earlier message is dropped as out of order. Nothing is said of a
handler whose transaction fails: the broker does not send the message again.
-/

namespace Firebot.Uplink

open Bridge

/-! ## The vehicle's threads and the topics -/

/-- The threads that report. -/
inductive Thread where
  | mqttCallback
  | rosReader
  | timer (handle : Nat)
  deriving DecidableEq, Repr

/-- One message taken by the ingress, with what was true when it arrived. -/
structure Delivery where
  report : Report
  received : Time
  fresh : Bool
  current : Bool
  commits : Bool
  outcome : Outcome
  deriving DecidableEq

/-- The vehicle, the topics and the ingress. `hands` are the messages a thread has built and not yet
handed over, `remembered` those left in a command record, `topic` those on their way. -/
structure Link where
  proto : Protocol
  hands : List (Thread × Report)
  remembered : List Report
  topic : MsgType → List Report
  arrived : MsgType → List Report
  ingress : Ingress
  log : List Delivery

/-- What can happen. -/
inductive Event where
  | build (thread : Thread) (body : Body) (now : Time)
  | remember (thread : Thread)
  | publish (thread : Thread)
  | replay (index : Nat)
  | arrive (type : MsgType) (now : Time) (commits : Bool)
  | expireCount (key : RateKey)
  | expireDedup (messageId : Nat)
  | expireSeq (key : SeqKey)
  | bootSession (vehicleId bootId : String)

namespace Link

/-- A Bridge that has sent nothing, and an ingress. -/
def initial (vehicleId bootId : String) (robots : String → Option (Option String)) : Link where
  proto := { vehicleId, bootId, seq := fun _ => 0, drawn := 0 }
  hands := []
  remembered := []
  topic := fun _ => []
  arrived := fun _ => []
  ingress := { counts := fun _ => 0, dedup := fun _ => false, pending := fun _ => false, lastSeq := fun _ => none, robots,
               handled := [] }
  log := []

/-- The message a thread holds. -/
def holds (u : Link) (thread : Thread) : Option Report :=
  (u.hands.find? (·.1 = thread)).map (·.2)

/-- Everything handed over on a topic, in order. -/
def sent (u : Link) (type : MsgType) : List Report := u.arrived type ++ u.topic type

/-- The message goes on its topic. -/
def send (u : Link) (h : Report) : Link :=
  { u with topic := Function.update u.topic h.type (u.topic h.type ++ [h]) }

/-- The id of the message has not arrived before. -/
def fresh (u : Link) (h : Report) : Bool :=
  (u.arrived .commandAck ++ u.arrived .taskStatus).all (·.messageId ≠ h.messageId)

/-- The ingress takes the next message of a topic. -/
def take (w : Wire) (u : Link) (type : MsgType) (h : Report) (rest : List Report) (now : Time) (commits : Bool) :
    Link :=
  let (ingress, outcome) := u.ingress.process w h now commits
  let delivery := { report := h, received := now, fresh := u.fresh h, current := u.ingress.current h, commits,
                    outcome }
  { u with topic := Function.update u.topic type rest
           arrived := Function.update u.arrived type (u.arrived type ++ [h])
           ingress
           log := u.log ++ [delivery] }

/-- The message with these fields that is built next. -/
def built (u : Link) (body : Body) (now : Time) : Report := { (u.proto.base body.type now).1 with body }

/-- One event. A thread that still holds a message builds no other. -/
def step (w : Wire) (u : Link) : Event → Link
  | .build thread body now =>
    match u.holds thread with
    | some _ => u
    | none =>
      { u with proto := (u.proto.base body.type now).2
               hands := u.hands ++ [(thread, u.built body now)] }
  | .remember thread =>
    match u.holds thread with
    | none => u
    | some h => { u with remembered := u.remembered ++ [h] }
  | .publish thread =>
    match u.holds thread with
    | none => u
    | some h => { u with hands := u.hands.filter (·.1 ≠ thread) }.send h
  | .replay index =>
    match u.remembered[index]? with
    | none => u
    | some h => u.send h
  | .arrive type now commits =>
    match u.topic type with
    | [] => u
    | h :: rest => u.take w type h rest now commits
  | .expireCount key =>
    { u with ingress := { u.ingress with counts := Function.update u.ingress.counts key 0 } }
  | .expireDedup messageId =>
    { u with ingress := { u.ingress with
        dedup := Function.update u.ingress.dedup messageId false } }
  | .expireSeq key =>
    { u with ingress := { u.ingress with lastSeq := Function.update u.ingress.lastSeq key none } }
  | .bootSession vehicleId bootId =>
    { u with ingress := { u.ingress with
        robots := Function.update u.ingress.robots vehicleId (some (some bootId)) } }

/-- The state after a list of events. -/
abbrev run (w : Wire) (u : Link) (events : List Event) : Link := Runs.run (step w) u events

/-- The message was handed over before, or no thread holds an earlier number of its type. -/
def Due (u : Link) (h : Report) : Prop :=
  h ∈ u.sent h.type ∨ ∀ hand ∈ u.hands, hand.2.type = h.type → h.seq ≤ hand.2.seq

/-- How many reports of a type the ingress has taken within a second. -/
def takenIn (u : Link) (type : MsgType) (at_second : Int) : Nat :=
  u.log.countP fun d => d.report.type = type ∧ d.received / second = at_second

/-- A report that is built can be sent, one that is handed over is due, and one that arrives comes within the
limit of its second. -/
def Orderly (w : Wire) (u : Link) : Event → Prop
  | .build thread body now => u.holds thread = none → (u.built body now).Sendable w
  | .publish thread => ∀ h ∈ u.holds thread, u.Due h
  | .replay index => ∀ h ∈ u.remembered[index]?, u.Due h
  | .arrive type now _ => u.takenIn type (now / second) < w.mqttRateLimitPerSecond
  | _ => True

instance (u : Link) (h : Report) : Decidable (u.Due h) := inferInstanceAs (Decidable (_ ∨ _))

instance (w : Wire) (u : Link) : (e : Event) → Decidable (u.Orderly w e)
  | .build thread body now => inferInstanceAs (Decidable (u.holds thread = none → (u.built body now).Sendable w))
  | .publish thread => inferInstanceAs (Decidable (∀ h ∈ u.holds thread, u.Due h))
  | .replay index => inferInstanceAs (Decidable (∀ h ∈ u.remembered[index]?, u.Due h))
  | .arrive type now _ => inferInstanceAs (Decidable (u.takenIn type (now / second) < w.mqttRateLimitPerSecond))
  | .remember _ | .expireCount _ | .expireDedup _ | .expireSeq _ | .bootSession .. => isTrue trivial

/-! ## What is sent ascends -/

/-- The numbers in hand, sent and accepted, while what is handed over is due. -/
structure Ordered (u : Link) : Prop where
  drawn : ∀ hand ∈ u.hands, hand.2.seq ≤ u.proto.seq hand.2.type
  apart : ∀ hand ∈ u.hands, ∀ other ∈ u.hands, hand.2.type = other.2.type →
    hand.2.seq = other.2.seq → hand.2 = other.2
  single : ∀ hand ∈ u.hands, ∀ other ∈ u.hands, hand.1 = other.1 → hand.2 = other.2
  kept : ∀ h ∈ u.remembered, h ∈ u.sent h.type ∨ ∃ hand ∈ u.hands, hand.2 = h
  typed : ∀ type, ∀ g ∈ u.sent type, g.type = type
  below : ∀ type, ∀ g ∈ u.sent type, g.seq ≤ u.proto.seq type
  held : ∀ hand ∈ u.hands, ∀ g ∈ u.sent hand.2.type, g.seq < hand.2.seq ∨ g = hand.2
  ascending : ∀ type, OrderedLog.Ascending (fun h : Report => h.seq) (u.sent type)

/-- The Redis keys come from messages that have arrived. -/
structure Keyed (u : Link) : Prop where
  dedup : ∀ m, u.ingress.dedup m = true → ∃ type, ∃ g ∈ u.arrived type, g.messageId = m
  last : ∀ k n, u.ingress.lastSeq k = some n → ∃ g ∈ u.arrived k.2.2, g.seq = n
  free : ∀ m, u.ingress.pending m = false

/-- Nothing has been published. -/
theorem Ordered.initial (vehicleId bootId : String) (robots : String → Option (Option String)) :
    (Link.initial vehicleId bootId robots).Ordered where
  drawn _ mem := by cases mem
  apart _ mem := by cases mem
  single _ mem := by cases mem
  kept _ mem := by cases mem
  typed _ _ mem := by cases mem
  below _ _ mem := by cases mem
  held _ mem := by cases mem
  ascending _ := OrderedLog.Ascending.nil

/-- Nothing has been admitted. -/
theorem Keyed.initial (vehicleId bootId : String) (robots : String → Option (Option String)) :
    (Link.initial vehicleId bootId robots).Keyed where
  dedup _ known := by cases known
  last _ _ known := by cases known
  free _ := rfl

/-- What a thread holds is in the hands. -/
theorem holds_mem {u : Link} {thread : Thread} {h : Report} (holds : u.holds thread = some h) :
    (thread, h) ∈ u.hands := by
  obtain ⟨hand, found, rfl⟩ := Option.map_eq_some_iff.mp holds
  have at_thread : hand.1 = thread := of_decide_eq_true (List.find?_some (a := hand) found)
  exact at_thread ▸ List.mem_of_find?_eq_some found

/-- A publication goes to the end of its topic. -/
theorem sent_send_self (u : Link) (h : Report) : (u.send h).sent h.type = u.sent h.type ++ [h] := by
  simp only [sent, send, Function.update_self, List.append_assoc]

/-- It leaves the other topics. -/
theorem sent_send_ne (u : Link) (h : Report) {type : MsgType} (other : type ≠ h.type) :
    (u.send h).sent type = u.sent type := by
  simp only [sent, send, Function.update_of_ne other]

/-- What has been handed over on any topic after a message is sent. -/
theorem mem_sent_send {u : Link} {h g : Report} {type : MsgType} (mem : g ∈ (u.send h).sent type) :
    g ∈ u.sent type ∨ (type = h.type ∧ g = h) := by
  by_cases at_type : type = h.type
  · subst at_type
    rw [sent_send_self, List.mem_append, List.mem_singleton] at mem
    exact mem.imp_right fun same => ⟨rfl, same⟩
  · rw [sent_send_ne u h at_type] at mem
    exact .inl mem

/-- What was sent stays sent. -/
theorem mem_sent_of_mem {u : Link} {h g : Report} {type : MsgType} (mem : g ∈ u.sent type) :
    g ∈ (u.send h).sent type := by
  by_cases at_type : type = h.type
  · subst at_type
    rw [sent_send_self]
    exact List.mem_append_left _ mem
  · rwa [sent_send_ne u h at_type]

/-- A due message that is in hand or was sent keeps the order of its topic. -/
theorem Ordered.send {u : Link} (o : u.Ordered) {h : Report}
    (origin : h ∈ u.sent h.type ∨ ∃ hand ∈ u.hands, hand.2 = h) (due : u.Due h) :
    (u.send h).Ordered where
  drawn := o.drawn
  apart := o.apart
  single := o.single
  kept g mem := (o.kept g mem).imp_left mem_sent_of_mem
  typed type g mem := by
    rcases mem_sent_send mem with before | ⟨rfl, rfl⟩
    · exact o.typed type g before
    · rfl
  below type g mem := by
    rcases mem_sent_send mem with before | ⟨rfl, rfl⟩
    · exact o.below type g before
    · rcases origin with before | ⟨hand, inHand, rfl⟩
      · exact o.below _ g before
      · exact o.drawn hand inHand
  held hand inHand g mem := by
    rcases mem_sent_send mem with before | ⟨at_type, rfl⟩
    · exact o.held hand inHand g before
    · -- the message sent is not behind the one in hand: it was sent before, or it is due
      rcases due with before | due
      · exact o.held hand inHand g (at_type ▸ before)
      · by_cases same : g = hand.2
        · exact .inr same
        · refine .inl (Nat.lt_of_le_of_ne (due hand inHand at_type) fun equal => same ?_)
          rcases origin with before | ⟨other, inHand', rfl⟩
          · rcases o.held hand inHand g (at_type ▸ before) with less | same
            · omega
            · exact same
          · exact o.apart other inHand' hand inHand at_type.symm equal
  ascending type := by
    by_cases at_type : type = h.type
    · subst at_type
      rw [sent_send_self]
      refine (o.ascending _).concat ?_
      by_cases before : h ∈ u.sent h.type
      · exact .inl before
      · obtain ⟨hand, inHand, rfl⟩ := origin.resolve_left before
        exact .inr fun g mem => (o.held hand inHand g mem).resolve_right fun same =>
          before (same ▸ mem)
    · rw [sent_send_ne u h at_type]
      exact o.ascending type

/-- A thread that lets go of a message it has sent leaves the order as it is. -/
theorem Ordered.release {u : Link} (o : u.Ordered) {thread : Thread} {h : Report}
    (holds : u.holds thread = some h) (gone : h ∈ u.sent h.type) :
    Ordered { u with hands := u.hands.filter (·.1 ≠ thread) } where
  drawn hand mem := o.drawn hand (List.mem_of_mem_filter mem)
  apart hand mem other mem' :=
    o.apart hand (List.mem_of_mem_filter mem) other (List.mem_of_mem_filter mem')
  single hand mem other mem' :=
    o.single hand (List.mem_of_mem_filter mem) other (List.mem_of_mem_filter mem')
  kept g mem := by
    refine (o.kept g mem).elim .inl ?_
    rintro ⟨hand, inHand, same⟩
    by_cases at_thread : hand.1 = thread
    · have released : hand.2 = h := o.single hand inHand (thread, h) (holds_mem holds) at_thread
      exact .inl (same ▸ released ▸ gone)
    · exact .inr ⟨hand, List.mem_filter.mpr ⟨inHand, decide_eq_true at_thread⟩, same⟩
  typed := o.typed
  below := o.below
  held hand mem := o.held hand (List.mem_of_mem_filter mem)
  ascending := o.ascending

/-- A thread with empty hands draws the next number of a type. -/
theorem Ordered.build {u : Link} (o : u.Ordered) {thread : Thread} (idle : u.holds thread = none)
    (body : Body) (now : Time) : Ordered { u with
      proto := (u.proto.base body.type now).2
      hands := u.hands ++ [(thread, u.built body now)] } := by
  have grows (other : MsgType) : u.proto.seq other ≤ (u.proto.base body.type now).2.seq other := by
    by_cases same : other = body.type
    · rw [same, Protocol.base_seq_self]
      omega
    · rw [Protocol.base_seq_ne _ _ same]
  have others (hand : Thread × Report) (inHand : hand ∈ u.hands) : hand.1 ≠ thread := by
    intro same
    have none_found := Option.map_eq_none_iff.mp idle
    exact (List.find?_eq_none.mp none_found hand inHand) (decide_eq_true same)
  have number : (u.built body now).seq = u.proto.seq body.type + 1 := Protocol.base_header_seq ..
  -- the new number is above every number in hand or sent
  have above (hand : Thread × Report) (inHand : hand ∈ u.hands) (at_type : hand.2.type = body.type) :
      hand.2.seq < (u.built body now).seq := by
    have le := o.drawn hand inHand
    rw [at_type] at le
    rw [number]
    omega
  exact {
    drawn hand mem := by
      rcases List.mem_append.mp mem with inHand | new
      · exact (o.drawn hand inHand).trans (grows _)
      · rw [List.mem_singleton.mp new, number]
        exact (Protocol.base_seq_self u.proto body.type now).ge
    apart hand mem other mem' at_type equal := by
      rcases List.mem_append.mp mem with inHand | new <;>
        rcases List.mem_append.mp mem' with inHand' | new'
      · exact o.apart hand inHand other inHand' at_type equal
      · rw [List.mem_singleton.mp new'] at at_type equal
        exact absurd equal (above hand inHand at_type).ne
      · rw [List.mem_singleton.mp new] at at_type equal
        exact absurd equal (above other inHand' at_type.symm).ne'
      · rw [List.mem_singleton.mp new, List.mem_singleton.mp new']
    single hand mem other mem' at_thread := by
      rcases List.mem_append.mp mem with inHand | new <;>
        rcases List.mem_append.mp mem' with inHand' | new'
      · exact o.single hand inHand other inHand' at_thread
      · rw [List.mem_singleton.mp new'] at at_thread
        exact absurd at_thread (others hand inHand)
      · rw [List.mem_singleton.mp new] at at_thread
        exact absurd at_thread.symm (others other inHand')
      · rw [List.mem_singleton.mp new, List.mem_singleton.mp new']
    kept g mem := by
      exact (o.kept g mem).imp_right fun ⟨hand, inHand, same⟩ =>
        ⟨hand, List.mem_append_left _ inHand, same⟩
    typed := o.typed
    below := fun other g mem => (o.below other g mem).trans (grows other)
    held hand mem g sent := by
      rcases List.mem_append.mp mem with inHand | new
      · exact o.held hand inHand g sent
      · rw [List.mem_singleton.mp new] at sent ⊢
        refine .inl ?_
        rw [number]
        exact Nat.lt_succ_of_le (o.below body.type g sent)
    ascending := o.ascending }

/-- Every step that hands over what is due keeps the order. -/
theorem Ordered.step {w : Wire} {u : Link} {e : Event} (o : u.Ordered) (orderly : u.Orderly w e) :
    (u.step w e).Ordered := by
  cases e with
  | build thread body now =>
    simp only [Link.step]
    cases idle : u.holds thread with
    | some h => exact o
    | none => exact o.build idle body now
  | remember thread =>
    simp only [Link.step]
    cases holds : u.holds thread with
    | none => exact o
    | some h =>
      refine ⟨o.drawn, o.apart, o.single, ?_, o.typed, o.below, o.held, o.ascending⟩
      intro g mem
      rcases List.mem_append.mp mem with old | new
      · exact o.kept g old
      · exact .inr ⟨_, holds_mem holds, (List.mem_singleton.mp new).symm⟩
  | publish thread =>
    simp only [Link.step]
    cases holds : u.holds thread with
    | none => exact o
    | some h =>
      have sent := o.send (.inr ⟨_, holds_mem holds, rfl⟩) (orderly h holds)
      exact sent.release (h := h) holds (by rw [sent_send_self]; exact List.mem_concat_self)
  | replay index =>
    simp only [Link.step]
    cases found : u.remembered[index]? with
    | none => exact o
    | some h => exact o.send (o.kept h (List.mem_of_getElem? found)) (orderly h found)
  | arrive type now commits =>
    simp only [Link.step]
    cases next : u.topic type with
    | nil => exact o
    | cons h rest =>
      have same (other : MsgType) : (u.take w type h rest now commits).sent other = u.sent other := by
        simp only [Link.take, sent]
        by_cases at_type : other = type
        · subst at_type
          simp only [Function.update_self, next, List.append_assoc, List.singleton_append]
        · simp only [Function.update_of_ne at_type]
      exact {
        drawn := o.drawn
        apart := o.apart
        single := o.single
        kept g mem := by
          rw [same]
          exact o.kept g mem
        typed other := by
          rw [same]
          exact o.typed other
        below other := by
          rw [same]
          exact o.below other
        held hand mem := by
          rw [same]
          exact o.held hand mem
        ascending other := by
          rw [same]
          exact o.ascending other }
  | expireCount | expireDedup | expireSeq | bootSession =>
    exact ⟨o.drawn, o.apart, o.single, o.kept, o.typed, o.below, o.held, o.ascending⟩

/-! ## What is fresh passes -/

/-- What a step writes into the keys comes from a message that has arrived. -/
theorem Keyed.step {w : Wire} {u : Link} {e : Event} (k : u.Keyed) (o : u.Ordered) : (u.step w e).Keyed := by
  cases e with
  | build thread body now =>
    simp only [Link.step]
    split
    · exact k
    · exact ⟨k.dedup, k.last, k.free⟩
  | remember thread =>
    simp only [Link.step]
    split
    · exact k
    · exact ⟨k.dedup, k.last, k.free⟩
  | publish thread =>
    simp only [Link.step]
    split
    · exact k
    · exact ⟨k.dedup, k.last, k.free⟩
  | replay index =>
    simp only [Link.step]
    split
    · exact k
    · exact ⟨k.dedup, k.last, k.free⟩
  | arrive type now commits =>
    simp only [Link.step]
    cases next : u.topic type with
    | nil => exact k
    | cons h rest =>
      have at_type : h.type = type := o.typed type h (by
        rw [sent, next]
        exact List.mem_append_right _ List.mem_cons_self)
      subst at_type
      have grown (other : MsgType) {g : Report} (mem : g ∈ u.arrived other) :
          g ∈ (u.take w h.type h rest now commits).arrived other := by
        simp only [Link.take]
        by_cases same : other = h.type
        · subst same
          rw [Function.update_self]
          exact List.mem_append_left _ mem
        · rwa [Function.update_of_ne same]
      have added : h ∈ (u.take w h.type h rest now commits).arrived h.type := by
        simp only [Link.take, Function.update_self]
        exact List.mem_concat_self
      obtain ⟨ids, numbers, free⟩ := u.ingress.process_keys w h now commits k.free
      refine ⟨?_, ?_, free⟩
      · intro m known
        rcases ids m known with before | rfl
        · obtain ⟨other, g, mem, same⟩ := k.dedup m before
          exact ⟨other, g, grown other mem, same⟩
        · exact ⟨_, h, added, rfl⟩
      · intro key n known
        rcases numbers key n known with before | ⟨rfl, rfl⟩
        · obtain ⟨g, mem, same⟩ := k.last key n before
          exact ⟨g, grown _ mem, same⟩
        · exact ⟨h, added, rfl⟩
  | expireCount key => exact ⟨k.dedup, k.last, k.free⟩
  | expireDedup messageId =>
    refine ⟨fun m known => k.dedup m ?_, k.last, k.free⟩
    by_cases same : m = messageId
    · subst same
      simp [Link.step] at known
    · simpa [Link.step, Function.update_of_ne same] using known
  | expireSeq key =>
    refine ⟨k.dedup, fun other n known => k.last other n ?_, k.free⟩
    by_cases same : other = key
    · subst same
      simp [Link.step] at known
    · simpa [Link.step, Function.update_of_ne same] using known
  | bootSession vehicleId bootId => exact ⟨k.dedup, k.last, k.free⟩

/-! ## What is sent is taken -/

/-- Every message that is on its way, or may come to be, can be sent. -/
structure Proper (w : Wire) (u : Link) : Prop where
  hands : ∀ hand ∈ u.hands, hand.2.Sendable w
  remembered : ∀ h ∈ u.remembered, h.Sendable w
  topic : ∀ type, ∀ h ∈ u.topic type, h.Sendable w

/-- A report that can be sent leaves every topic proper. -/
theorem Proper.send {w : Wire} {u : Link} (p : u.Proper w) {h : Report} (sendable : h.Sendable w) :
    (u.send h).Proper w where
  hands := p.hands
  remembered := p.remembered
  topic type g mem := by
    unfold Link.send at mem
    dsimp only at mem
    by_cases at_type : type = h.type
    · cases at_type
      rw [Function.update_self] at mem
      rcases List.mem_append.mp mem with before | new
      · exact p.topic _ g before
      · rw [List.mem_singleton.mp new]
        exact sendable
    · rw [Function.update_of_ne at_type] at mem
      exact p.topic type g mem

/-- An orderly step keeps the messages proper. -/
theorem Proper.step {w : Wire} {u : Link} {e : Event} (p : u.Proper w) (orderly : u.Orderly w e) :
    (u.step w e).Proper w := by
  cases e with
  | build thread body now =>
    simp only [Link.step]
    cases idle : u.holds thread with
    | some h => exact p
    | none =>
      refine ⟨?_, p.remembered, p.topic⟩
      intro hand mem
      rcases List.mem_append.mp mem with before | new
      · exact p.hands hand before
      · rw [List.mem_singleton.mp new]
        exact orderly idle
  | remember thread =>
    simp only [Link.step]
    cases holds : u.holds thread with
    | none => exact p
    | some h =>
      refine ⟨p.hands, ?_, p.topic⟩
      intro g mem
      rcases List.mem_append.mp mem with before | new
      · exact p.remembered g before
      · rw [List.mem_singleton.mp new]
        exact p.hands _ (holds_mem holds)
  | publish thread =>
    simp only [Link.step]
    cases holds : u.holds thread with
    | none => exact p
    | some h =>
      have sent := p.send (p.hands _ (holds_mem holds))
      exact ⟨fun hand mem => p.hands hand (List.mem_of_mem_filter mem), sent.remembered, sent.topic⟩
  | replay index =>
    simp only [Link.step]
    cases found : u.remembered[index]? with
    | none => exact p
    | some h => exact p.send (p.remembered h (List.mem_of_getElem? found))
  | arrive type now commits =>
    simp only [Link.step]
    cases next : u.topic type with
    | nil => exact p
    | cons h rest =>
      refine ⟨p.hands, p.remembered, ?_⟩
      intro other g mem
      simp only [Link.take] at mem
      by_cases at_type : other = type
      · subst at_type
        rw [Function.update_self] at mem
        exact p.topic other g (by rw [next]; exact List.mem_cons_of_mem _ mem)
      · rw [Function.update_of_ne at_type] at mem
        exact p.topic other g mem
  | expireCount | expireDedup | expireSeq | bootSession => exact ⟨p.hands, p.remembered, p.topic⟩

/-- No more is counted under a key than was taken in its second. -/
def Counted (u : Link) : Prop := ∀ k, u.ingress.counts k ≤ u.takenIn k.2.1 k.2.2

/-- The counter of a topic's second counts no more than was taken in it. -/
theorem Counted.step {w : Wire} {u : Link} {e : Event} (c : u.Counted) : (u.step w e).Counted := by
  cases e with
  | build thread body now =>
    simp only [Link.step]
    split
    · exact c
    · exact c
  | remember thread | publish thread =>
    simp only [Link.step]
    split
    · exact c
    · exact c
  | replay index =>
    simp only [Link.step]
    split
    · exact c
    · exact c
  | arrive type now commits =>
    simp only [Link.step]
    cases next : u.topic type with
    | nil => exact c
    | cons h rest =>
      intro k
      have before := c k
      have once := u.ingress.process_counts w h now commits k
      simp only [Link.take, takenIn, List.countP_append, List.countP_singleton] at before once ⊢
      by_cases same : k = Ingress.rateKey h now
      · subst same
        simp only [if_pos, Ingress.rateKey, and_self, decide_true] at before once ⊢
        omega
      · rw [if_neg same] at once
        omega
  | expireCount key =>
    intro k
    by_cases same : k = key
    · subst same
      simp only [Link.step, Function.update_self]
      exact Nat.zero_le _
    · simp only [Link.step, Function.update_of_ne same]
      exact c k
  | expireDedup | expireSeq | bootSession => exact c

/-! ## What is fresh is handled -/

/-- A delivery that was fresh and of the current boot session had its handler run, and what it did stays
unless the transaction raised. -/
def Passed (i : Ingress) (d : Delivery) : Prop :=
  d.fresh = true → d.current = true →
    d.outcome = (if d.commits then .handled else .failed) ∧ (d.commits = true → d.report ∈ i.handled)

/-- A report that is taken with room in its second, fresh and of the current boot, passes every test before the
transaction. -/
theorem passed_take {w : Wire} {u : Link} (o : u.Ordered) (k : u.Keyed) (p : u.Proper w) (c : u.Counted)
    {type : MsgType} {h : Report} {rest : List Report} (now : Time) (commits : Bool)
    (next : u.topic type = h :: rest) (room : u.takenIn type (now / second) < w.mqttRateLimitPerSecond)
    (fresh : u.fresh h = true) (here : u.ingress.current h = true) :
    (u.ingress.process w h now commits).2 = (if commits then .handled else .failed) ∧
      (commits = true → h ∈ (u.ingress.process w h now commits).1.handled) := by
  have at_type : h.type = type := o.typed type h (by
    rw [sent, next]
    exact List.mem_append_right _ List.mem_cons_self)
  subst at_type
  have unseen (other : MsgType) (g : Report) (mem : g ∈ u.arrived other) :
      g.messageId ≠ h.messageId := by
    have all := List.all_eq_true.mp fresh g (by
      cases other with
      | commandAck => exact List.mem_append_left _ mem
      | taskStatus => exact List.mem_append_right _ mem)
    exact of_decide_eq_true all
  have sendable := p.topic h.type h (by rw [next]; exact List.mem_cons_self)
  refine Ingress.process_passes sendable ((c _).trans_lt room) ?_ ?_ here
  · cases known : u.ingress.dedup h.messageId with
    | false => simp only [Ingress.seen, known, k.free, Bool.or_self]
    | true =>
      obtain ⟨other, g, mem, same⟩ := k.dedup _ known
      exact absurd same (unseen other g mem)
  · intro n last
    obtain ⟨g, mem, rfl⟩ := k.last _ n last
    exact o.ascending h.type (u.arrived h.type) h rest (by rw [sent, next])
      (fun again => unseen _ h again rfl) g mem

/-- Every delivery logged so far has passed. -/
def AllPassed (u : Link) : Prop := ∀ d ∈ u.log, Passed u.ingress d

/-- The log and the handled reports are all it reads. -/
theorem AllPassed.of_same {u v : Link} (h : u.AllPassed) (log : v.log = u.log)
    (handled : v.ingress.handled = u.ingress.handled) : v.AllPassed := by
  intro d mem fresh current
  rw [handled]
  exact h d (log ▸ mem) fresh current

/-- What the steps keep. -/
structure Sound (w : Wire) (u : Link) : Prop where
  ordered : u.Ordered
  keyed : u.Keyed
  proper : u.Proper w
  counted : u.Counted

/-- The link before the first publication. -/
theorem Sound.initial (w : Wire) (vehicleId bootId : String) (robots : String → Option (Option String)) :
    (Link.initial vehicleId bootId robots).Sound w where
  ordered := .initial ..
  keyed := .initial ..
  proper := by
    refine ⟨?_, ?_, ?_⟩
    · intro hand mem
      cases mem
    · intro h mem
      cases mem
    · intro type h mem
      cases mem
  counted _ := Nat.zero_le _

/-- An orderly step keeps the link sound. -/
theorem Sound.step {w : Wire} {u : Link} {e : Event} (s : u.Sound w) (orderly : u.Orderly w e) :
    (u.step w e).Sound w :=
  ⟨s.ordered.step orderly, s.keyed.step s.ordered, s.proper.step orderly, s.counted.step⟩

/-- An orderly step lets every report that is taken pass. -/
theorem AllPassed.step {w : Wire} {u : Link} {e : Event} (h : u.AllPassed) (s : u.Sound w)
    (orderly : u.Orderly w e) : (u.step w e).AllPassed := by
  cases e with
  | build thread body now =>
    simp only [Link.step]
    split
    · exact h
    · exact h.of_same rfl rfl
  | remember thread | publish thread =>
    simp only [Link.step]
    split
    · exact h
    · exact h.of_same rfl rfl
  | replay index =>
    simp only [Link.step]
    split
    · exact h
    · exact h.of_same rfl rfl
  | arrive type now commits =>
    simp only [Link.step]
    cases next : u.topic type with
    | nil => exact h
    | cons m rest =>
      intro d mem fresh current
      rcases List.mem_append.mp mem with before | new
      · obtain ⟨handled, ran⟩ := h d before fresh current
        exact ⟨handled, fun done => u.ingress.process_handled w m now commits _ (ran done)⟩
      · rw [List.mem_singleton.mp new] at fresh current ⊢
        exact passed_take s.ordered s.keyed s.proper s.counted now commits next orderly fresh current
  | expireCount | expireDedup | expireSeq | bootSession => exact h.of_same rfl rfl

/-- **When every report is built so that it can be sent, handed over in the order of its number, and taken
within the limit of its second, every fresh report of the current boot session has its handler run.** -/
theorem no_report_lost (w : Wire) (vehicleId bootId : String) (robots : String → Option (Option String))
    (events : List Event)
    (orderly : Runs.Meets (step w) (Orderly w) (initial vehicleId bootId robots) events) :
    ((initial vehicleId bootId robots).run w events).AllPassed :=
  (Runs.invariant (I := fun u : Link => u.Sound w ∧ u.AllPassed)
    (fun _ _ ⟨s, h⟩ ok => ⟨s.step ok, h.step s ok⟩) ⟨.initial .., fun _ mem => by cases mem⟩ orderly).2

/-- The id of a boot session. -/
def bootId : String := "6f1f0b52-9c1e-4a53-8a55-0d3c7a1be001"

/-- The platform's settings, payloads of one length, and two UUIDs. -/
def plainWire : Wire where
  uuidText n := if n = 0 then "1b4e28ba-2fa1-41d2-883f-0016d3cca427" else "7d444840-9dc0-41d1-b245-5ffdce74fad2"
  isoUtc _ := "2026-01-01T00:00:00+00:00"
  isUuid text := text.plain.any MqttIngress.Env.canonicalUuid
  length _ := 400
  maxMqttPayloadBytes := 256 * 1024
  maxJsonDepth := 20
  mqttRateLimitPerSecond := 50
  drawn_uuid n := by
    split
    · decide +kernel
    · decide +kernel
  depth_pos := by decide

/-- An ingress that knows the vehicle `V1` in its boot session. -/
def knownVehicle : Link := initial "V1" bootId fun v => if v = "V1" then some (some bootId) else none

/-- An `accepted` ACK. -/
def ackOf (commandId : String) : Body := .commandAck (.str commandId) .null .accepted .null

/-- The reader and a timer build an ACK each, and hand them over in the order of their numbers. -/
theorem no_report_lost_two_threads :
    (knownVehicle.run plainWire [.build .rosReader (ackOf "c1") 0, .build (.timer 0) (ackOf "c2") 1,
      .publish .rosReader, .arrive .commandAck 2 true, .publish (.timer 0),
      .arrive .commandAck 3 true]).AllPassed :=
  no_report_lost plainWire "V1" bootId _ _ (by decide +kernel)

/-- The same two threads, swapped in the gap: the reader's ACK arrives second and is dropped. -/
theorem not_no_report_lost_overtaken :
    ¬ (knownVehicle.run plainWire [.build .rosReader (ackOf "c1") 0, .build (.timer 0) (ackOf "c2") 1,
      .publish (.timer 0), .publish .rosReader, .arrive .commandAck 2 true,
      .arrive .commandAck 3 true]).AllPassed := by
  intro passed
  have dropped := passed
    { report := { type := .commandAck, messageId := 0, vehicleId := "V1", bootId, timestamp := 0, seq := 1,
                  body := ackOf "c1" }
      received := 3, fresh := true, current := true, commits := true, outcome := .outOfOrder } (by decide +kernel) rfl rfl
  exact Outcome.noConfusion dropped.1

end Link

end Firebot.Uplink
