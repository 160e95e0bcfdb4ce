import Firebot.Platform.Actions

/-!
# Events of vehicles

The ingress and the worker append events to the stream after their commits. Most of a vehicle's events carry the
whole document of its latest values (`isFull`); that its boot or its capabilities have changed, or that a message
has declared it online or offline, is said in a few fields of its own, none of which is a projected one
(`emitted_plain`).
-/

namespace Firebot.Monitor

open Firebot.Robots Firebot.MqttIngress Firebot.Platform Firebot.Worker

/-- The fields of the pose and of the emergency stop. -/
def projected : List JsonText := ["x", "y", "theta", "position", "estop_active"]

/-- The event carries the whole document. -/
def isFull (e : MqttIngress.Event) : Bool :=
  if e.1 = "vehicle.rebooted" ∨ e.1 = "vehicle.capabilities" then false
  else if e.1 = "vehicle.online" ∨ e.1 = "vehicle.stale" ∨ e.1 = "vehicle.offline" then
    (e.2.get "online_state").isSome
  else true

/-- The events that an action appends to the stream. -/
def emitted (env : Env) (s : State) (a : Action) : List MqttIngress.Event :=
  (act env s a).stream.drop s.stream.length

/-- The event carries the whole document, or none of the projected fields. -/
def Plain (e : MqttIngress.Event) : Prop := isFull e = true ∨ ∀ name ∈ projected, e.2.get name = none

/-- An event with these fields only carries none of the projected ones. -/
theorem plain_of_fields {type : String} {fields : List (JsonText × JsonTree)}
    (apart : ∀ name ∈ fields.map Prod.fst, name ∉ projected) : Plain (type, .obj fields) := by
  right
  intro name among
  apply List.lookup_eq_none_iff.mpr
  intro field mem
  apply bne_iff_ne.mpr
  intro same
  subst same
  exact apart field.1 (List.mem_map_of_mem mem) among

/-- A document with its online state is a full event of that state. -/
theorem isFull_state (state : OnlineState) {doc : JsonTree} (marked : (doc.get "online_state").isSome = true) :
    isFull (stateEvent state, doc) = true := by
  cases state <;> simp [isFull, stateEvent, marked]

/-! ## Transactions -/

/-- What a transaction has queued in addition is plain. -/
structure Queues (w w' : Work) : Prop where
  plain : ∀ e ∈ w'.events, e ∈ w.events ∨ Plain e

section

variable {env : Env} {m : Moment} {r : Redis} {kind : SourceKind} {msg : JsonTree} {source : Time}
  {w w' w'' : Work}

/-- No event is queued. -/
theorem Queues.of_same (same : w'.events = w.events) : Queues w w' := by
  constructor
  intro e mem
  rw [same] at mem
  exact .inl mem

/-- Two steps, one after the other. -/
theorem Queues.trans (h : Queues w w') (h' : Queues w' w'') : Queues w w'' := by
  constructor
  intro e mem
  rcases h'.plain e mem with before | plain
  · exact h.plain e before
  · exact .inr plain

/-- What is queued depends on the events the step starts with, and not on the rest of the work. -/
theorem Queues.of_start (h : Queues w' w'') (same : w'.events = w.events) : Queues w w'' := by
  constructor
  intro e mem
  rw [← same]
  exact h.plain e mem

/-- Nor on the rest of the work it ends with. -/
theorem Queues.of_end (h : Queues w w') (same : w''.events = w'.events) : Queues w w'' := by
  constructor
  intro e mem
  rw [same] at mem
  exact h.plain e mem

/-- A plain event is queued at the end. -/
theorem Queues.event (h : Queues w w') {type : String} {payload : JsonTree} (plain : Plain (type, payload)) :
    Queues w (w'.queueEvent type payload) := by
  constructor
  intro e mem
  rcases List.mem_append.mp mem with before | new
  · exact h.plain e before
  · cases List.mem_singleton.mp new
    exact .inr plain

/-- A step that queues one plain event. -/
theorem Queues.of_event {e : MqttIngress.Event} (same : w'.events = w.events ++ [e]) (plain : Plain e) :
    Queues w w' := by
  constructor
  intro e' mem
  rw [same] at mem
  rcases List.mem_append.mp mem with before | new
  · exact .inl before
  · cases List.mem_singleton.mp new
    exact .inr plain

/-- Accepting a boot tells that the vehicle has been rebooted, at most. -/
theorem acceptBootSession_queues (type : String) (boot : JsonTree) (bound : String) (w : Work) :
    Queues w (w.acceptBootSession m r type boot bound).1 := by
  have invalidated : ∀ old (w : Work), Queues w (w.invalidateOldBootLeases m r old boot) := by
    intro old w
    unfold Work.invalidateOldBootLeases
    split
    · exact .of_same rfl
    · apply Queues.event _ (plain_of_fields (by simp [projected]))
      split
      · exact .of_same rfl
      · exact .of_same rfl
  have ended : Queues w (w.endCurrent m r boot) := by
    unfold Work.endCurrent
    split
    · exact .of_same rfl
    · split
      · exact .of_same rfl
      · exact (invalidated _ _).of_start rfl
  unfold Work.acceptBootSession
  dsimp only
  split
  · exact .of_same rfl
  · split
    · exact .of_same rfl
    · split
      · exact .of_same rfl
      · unfold Work.establish
        dsimp only
        split
        · exact ended.of_end rfl
        · exact ended.of_end rfl

/-- A change of the online state queues its full event. -/
theorem updateOnline_queues (state : OnlineState) (boot reason : JsonTree) (w : Work) :
    Queues w (updateOnline m r state boot reason w) := by
  unfold updateOnline
  dsimp only
  split
  · exact .of_same rfl
  · apply Queues.of_event rfl
    apply plain_of_fields
    simp [projected]

/-- Presence queues the online state, where it has changed. -/
theorem presence_queues (w : Work) : Queues w (presence m r kind msg source w) := by
  unfold presence
  dsimp only
  split
  · have updated := updateOnline_queues (m := m) (r := r) .offline (msg.getD "boot_id") (msg.getD "reason")
      ((touchFieldChannel m source (channelName kind msg) kind w).channel (channelName kind msg)
        fun channel => { channel with support := .notConnected })
    exact ⟨updated.plain⟩
  · split
    · have updated := updateOnline_queues (m := m) (r := r) .online (msg.getD "boot_id") .null
        (touchFieldChannel m source (channelName kind msg) kind w)
      exact ⟨updated.plain⟩
    · exact .of_same rfl

/-- The handlers tell of the document, of the capabilities, or of no vehicle. -/
theorem handle_queues (h : handle env m r kind msg source w = .ok w') : Queues w w' := by
  unfold handle at h
  split at h
  · obtain ⟨battery, _, h⟩ := Except.bind_eq_ok.mp h
    cases h
    exact .of_event rfl (.inl rfl)
  · cases h
    unfold handleStatus
    dsimp only
    split
    · exact .of_event rfl (.inl rfl)
    · exact .of_event rfl (.inl rfl)
  · cases h
    unfold handleSensor
    dsimp only
    split
    · exact .of_event rfl (.inl rfl)
    · exact .of_event rfl (.inl rfl)
  · cases h
    unfold handleAlarm
    split
    · exact .of_same rfl
    · exact .of_same rfl
    · exact .of_event rfl (.inl rfl)
    · exact .of_event rfl (.inl rfl)
  · cases h
    apply Queues.of_event rfl
    apply plain_of_fields
    simp [projected]
  · cases h
    unfold handleAck
    dsimp only
    split
    · exact .of_same rfl
    · split
      · exact .of_same rfl
      · exact .of_event rfl (.inl rfl)
  · unfold handleTaskStatus at h
    dsimp only at h
    split at h
    · cases h
      exact .of_same rfl
    · split at h
      · cases h
        exact .of_same rfl
      · obtain ⟨status, _, h⟩ := Except.bind_eq_ok.mp h
        cases h
        constructor
        intro e mem
        rcases List.mem_append.mp mem with before | reported
        · exact .inl before
        · right
          left
          unfold reportEvents at reported
          split at reported
          · cases reported
          · rcases List.mem_append.mp reported with fire | task
            · split at fire
              · cases List.mem_singleton.mp fire
                rfl
              · cases fire
            · cases List.mem_singleton.mp task
              rfl
  · cases h
    exact .of_same rfl

/-- **The transaction of a message** queues plain events. -/
theorem messageWork_queues (h : messageWork env m r kind msg source w = .ok w') : Queues w w' := by
  have adopted : Queues w (adopt env m kind w) := by
    unfold adopt
    split
    · dsimp only
      split
      · exact .of_same rfl
      · exact .of_same rfl
    · exact .of_same rfl
  exact (adopted.trans (presence_queues _)).trans (handle_queues h)

/-- Stamping channels queues nothing. -/
theorem channels_events (names : List String) (f : Channel → Channel) (w : Work) :
    (names.foldl (fun w name => w.channel name f) w).events = w.events := by
  induction names generalizing w with
  | nil => rfl
  | cons name names ih => exact ih _

/-- The kind of an internal message tells that the vehicle has been rebooted, at most. -/
theorem compatBody_queues {c : CompatMessage} {compat : CompatKind} {latest latest' : JsonTree}
    (h : compatBody env m c r compat latest w = .ok (w', latest')) : Queues w w' := by
  cases compat with
  | availability =>
    obtain ⟨_, text, boot, bound, _, _, _, _, same, _⟩ := compatBody_availability h
    subst same
    have accepted := acceptBootSession_queues (m := m) (r := r) "availability" boot bound
      (w.profile fun profile => { profile with availabilityState := (env.lower text).plain })
    exact ⟨accepted.plain⟩
  | map =>
    obtain ⟨site, _, h⟩ := Except.bind_eq_ok.mp h
    obtain ⟨code, _, h⟩ := Except.bind_eq_ok.mp h
    obtain ⟨version, _, h⟩ := Except.bind_eq_ok.mp h
    obtain ⟨checksum, _, h⟩ := Except.bind_eq_ok.mp h
    obtain ⟨bound, _, h⟩ := Except.bind_eq_ok.mp h
    cases h
    exact .of_same rfl
  | status =>
    obtain ⟨value, _, h⟩ := Except.bind_eq_ok.mp h
    obtain ⟨mode, _, h⟩ := Except.bind_eq_ok.mp h
    cases h
    exact .of_same rfl
  | battery =>
    obtain ⟨value, _, h⟩ := Except.bind_eq_ok.mp h
    obtain ⟨battery, _, h⟩ := Except.bind_eq_ok.mp h
    cases h
    exact .of_same rfl
  | odom =>
    cases h
    exact .of_same rfl
  | navStatus =>
    obtain ⟨status, _, h⟩ := Except.bind_eq_ok.mp h
    cases h
    exact .of_same rfl
  | navResult =>
    obtain ⟨status, _, h⟩ := Except.bind_eq_ok.mp h
    cases h
    exact .of_same rfl

/-- **The transaction of an internal message** queues plain events. -/
theorem compatWork_queues {c : CompatMessage} {compat : CompatKind}
    (h : compatWork env m c r compat w = .ok w') : Queues w w' := by
  unfold compatWork at h
  obtain ⟨key, keyed, h⟩ := Except.bind_eq_ok.mp h
  obtain ⟨⟨w₁, latest⟩, body, h⟩ := Except.bind_eq_ok.mp h
  cases h
  have channels : ∀ w : Work, (compatChannels m c compat w).events = w.events := by
    intro w
    unfold compatChannels
    rw [channels_events, channels_events]
    rfl
  apply Queues.event
  · have handled : Queues (compatRows env m c compat w) w₁ := compatBody_queues body
    have queued : Queues w (w₁.queue (.setLatest key (stamped env m c latest))) := ⟨handled.plain⟩
    exact queued.of_end (channels _)
  · left
    cases compat <;> rfl

/-- **The worker's look at a robot** queues plain events. -/
theorem reconcileRobot_queues (settings : Settings) (now : Time) (w : Work) :
    Queues w (reconcileRobot settings r now w) := by
  have write : ∀ state, Queues w (writeState r state w) := by
    intro state
    unfold writeState
    split
    · exact .of_same rfl
    · apply Queues.of_event rfl
      left
      apply isFull_state
      unfold presenceDoc
      rw [JsonTree.get_set_self (isObject_latestOr ..)]
      rfl
  have expire : ∀ state (w : Work), Queues w (expireLease r now state w) := by
    intro state w
    unfold expireLease
    split
    · exact .of_same rfl
    · exact .of_same rfl
  unfold reconcileRobot
  split
  · exact write _
  · exact (write _).trans (expire _ _)
  · exact (write _).trans (expire _ _)

end

/-! ## Actions -/

/-- What has been appended to the stream is plain. -/
def Appends (s s' : State) : Prop := ∃ events, s'.stream = s.stream ++ events ∧ ∀ e ∈ events, Plain e

section

variable {env : Env} {s s' s'' : State} {w : Work}

/-- Nothing is written to the stream. -/
theorem Appends.of_same (same : s'.stream = s.stream) : Appends s s' := by
  refine ⟨[], ?_, ?_⟩
  · rw [same, List.append_nil]
  · intro e mem
    cases mem

/-- Two deliveries, one after the other. -/
theorem Appends.trans (h : Appends s s') (h' : Appends s' s'') : Appends s s'' := by
  obtain ⟨first, same, plain⟩ := h
  obtain ⟨second, same', plain'⟩ := h'
  refine ⟨first ++ second, ?_, ?_⟩
  · rw [same', same, List.append_assoc]
  · intro e mem
    rcases List.mem_append.mp mem with early | late
    · exact plain e early
    · exact plain' e late

/-- A transaction that began with nothing queued. -/
theorem Appends.commit {v : String} {vehicle : Vehicle} (h : Queues (s.begin v vehicle) w) :
    Appends s (s.commit w) := by
  refine ⟨w.events.filter fun event => event.2.encodes, rfl, ?_⟩
  intro e mem
  rcases h.plain e (List.mem_filter.mp mem).1 with before | plain
  · cases before
  · exact plain

/-- The fast path of odometry appends its one event. -/
theorem Appends.fastPath {m : Moment} {c : CompatMessage} (path : FastPath env m c s s') : Appends s s' := by
  cases path with
  | mk keyed made shown =>
    rename_i key latest events
    refine ⟨events, rfl, ?_⟩
    intro e mem
    rcases shown with none | odom
    · subst none
      cases mem
    · subst odom
      cases List.mem_singleton.mp mem
      exact .inl rfl

/-- A call of the ingress appends what its transaction has queued. -/
theorem deliver_appends (env : Env) (s : State) (c : Call) : Appends s (deliver env s c) := by
  have ways := processed env c.moment c.topic c.payload s
  unfold deliver
  cases result : process env c.moment c.topic c.payload s with
  | mk s' o =>
    rw [result] at ways
    cases ways with
    | quiet facts _ => exact .of_same facts.stream
    | ordinary call =>
      rename_i msg vehicle source w₀ w
      have accepted := acceptBootSession_queues (m := c.moment) (r := s.redis.reserve msg)
        (textOf msg "type") (msg.getD "boot_id") (textOf msg "boot_id")
        (s.begin (textOf msg "vehicle_id") vehicle)
      rw [call.accepted] at accepted
      obtain ⟨events, same, plain⟩ := Appends.commit (accepted.trans (messageWork_queues call.worked))
      exact ⟨events, same, plain⟩
    | fast _ _ _ path => exact .fastPath path
    | compat call =>
      rename_i kind message s₁ v vehicle w
      have committed := Appends.commit (compatWork_queues call.worked)
      rcases call.start with ⟨_, same⟩ | ⟨_, path⟩
      · rw [same] at committed ⊢
        exact committed
      · exact (Appends.fastPath path).trans committed

/-- A tick of the worker appends the events of its sweep. -/
theorem tick_appends (settings : Settings) (now : Time) (commits : Bool) (s : State) :
    Appends s (tick settings now commits s) := by
  unfold tick
  split
  · refine ⟨_, rfl, ?_⟩
    intro e mem
    have plain : ∀ (rows : List (String × Vehicle)) (t : Reconciliation),
        (∀ e ∈ t.events, Plain e) → ∀ e ∈ (rows.foldl (Reconciliation.next settings s now) t).events, Plain e := by
      intro rows
      induction rows with
      | nil =>
        intro t before
        exact before
      | cons row rows ih =>
        intro t before
        apply ih
        intro e mem
        rcases (reconcileRobot_queues settings now _).plain e mem with queued | plain
        · exact before e queued
        · exact plain
    apply plain s.vehicles.rows ⟨s.vehicles, s.control, [], []⟩ _ e (List.mem_filter.mp mem).1
    intro e none
    cases none
  · exact .of_same rfl

/-- **Every event that is emitted** carries the whole document, or none of the projected fields. -/
theorem emitted_plain (env : Env) (s : State) (a : Action) : ∀ e ∈ emitted env s a, Plain e := by
  have appends : Appends s (act env s a) := by
    cases a with
    | message c => exact deliver_appends env s c
    | tick now commits => exact tick_appends env.settings now commits s
    | expire gone => exact .of_same rfl
  obtain ⟨events, same, plain⟩ := appends
  unfold emitted
  rw [same, List.drop_left]
  exact plain

end

end Firebot.Monitor
