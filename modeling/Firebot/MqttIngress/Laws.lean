import Firebot.Lib.Except
import Firebot.MqttIngress.Process

/-!
# What a call can do

`Processed` lists the ways `process` ends. A call that is not handled leaves everything but the marks as it
was (`SameFacts`), except that odometry may have written the document of latest values; a call that is
handled commits one transaction.
-/

namespace Firebot.MqttIngress

/-! ## Queued operations -/

namespace Redis

/-- What is queued for after a commit changes no mark. -/
structure SameMarks (r r' : Redis) : Prop where
  dedup : r'.dedup = r.dedup
  pending : r'.pending = r.pending
  lastSeq : r'.lastSeq = r.lastSeq

/-- The queued writes leave the marks of the numbers and ids. -/
theorem perform_marks (r : Redis) (operations : List Operation) :
    SameMarks r (r.perform operations) := by
  induction operations generalizing r with
  | nil => exact ⟨rfl, rfl, rfl⟩
  | cons operation rest ih =>
    cases operation with
    | setLatest vehicleId doc =>
      unfold perform
      cases Latest.of doc with
      | none => exact ⟨rfl, rfl, rfl⟩
      | some latest =>
        obtain ⟨dedup, pending, lastSeq⟩ :=
          ih { r with latest := Function.update r.latest vehicleId (some latest) }
        exact ⟨dedup, pending, lastSeq⟩
    | setHeartbeat vehicleId received =>
      obtain ⟨dedup, pending, lastSeq⟩ :=
        ih { r with heartbeat := Function.update r.heartbeat vehicleId (some received) }
      exact ⟨dedup, pending, lastSeq⟩
    | deleteHeartbeat vehicleId =>
      obtain ⟨dedup, pending, lastSeq⟩ :=
        ih { r with heartbeat := Function.update r.heartbeat vehicleId none }
      exact ⟨dedup, pending, lastSeq⟩
    | deleteLease robotId =>
      obtain ⟨dedup, pending, lastSeq⟩ :=
        ih { r with lease := Function.update r.lease robotId none }
      exact ⟨dedup, pending, lastSeq⟩

/-- The document that an operation writes for a vehicle. -/
def written (vehicleId : String) : Operation → Option JsonTree
  | .setLatest v doc => if v = vehicleId then some doc else none
  | .setHeartbeat .. | .deleteHeartbeat _ | .deleteLease _ => none

/-- Only a `setLatest` of the vehicle writes its document. -/
theorem written_eq_some {v : String} {operation : Operation} {doc : JsonTree} :
    written v operation = some doc ↔ operation = .setLatest v doc := by
  cases operation with
  | setLatest u doc' =>
    show (if u = v then some doc' else none) = some doc ↔ _
    constructor
    · intro writes
      split at writes
      next same =>
        cases writes
        rw [same]
      · cases writes
    · rintro ⟨⟩
      exact if_pos rfl
  | setHeartbeat u received => simp [written]
  | deleteHeartbeat u => simp [written]
  | deleteLease robotId => simp [written]

end Redis

/-- The document that is kept is the one that was written. -/
theorem Latest.of_doc {doc : JsonTree} {latest : Latest} (made : Latest.of doc = some latest) :
    latest.doc = doc := by
  unfold Latest.of at made
  split at made
  · cases made
    rfl
  · cases made

/-- What is written is the document. -/
theorem writable_doc {env : Env} {doc : JsonTree} {latest : Latest}
    (made : writable env doc = .ok latest) : latest.doc = doc := by
  unfold writable at made
  split at made
  · cases made
  · split at made
    next of_doc =>
      cases made
      exact Latest.of_doc of_doc
    · cases made

namespace Redis

/-- After the queue, the document of a vehicle is as before or one of those queued for it. -/
theorem perform_latest (r : Redis) (operations : List Operation) (vehicleId : String) :
    (r.perform operations).latest vehicleId = r.latest vehicleId ∨
      ∃ latest, (r.perform operations).latest vehicleId = some latest ∧
        latest.doc ∈ operations.filterMap (written vehicleId) := by
  induction operations generalizing r with
  | nil => exact .inl rfl
  | cons operation rest ih =>
    have later : ∀ r' : Redis, r'.latest vehicleId = r.latest vehicleId →
        (r'.perform rest).latest vehicleId = r.latest vehicleId ∨
          ∃ latest, (r'.perform rest).latest vehicleId = some latest ∧
            latest.doc ∈ (operation :: rest).filterMap (written vehicleId) := by
      intro r' same
      rcases ih r' with kept | ⟨latest, set, mem⟩
      · exact .inl (kept.trans same)
      · refine .inr ⟨latest, set, ?_⟩
        rw [List.filterMap_cons]
        split
        · exact mem
        · exact List.mem_cons_of_mem _ mem
    cases operation with
    | setLatest v doc =>
      unfold perform
      cases made : Latest.of doc with
      | none => exact .inl rfl
      | some latest =>
        dsimp only
        by_cases own : v = vehicleId
        · subst own
          have doc_eq := Latest.of_doc made
          rcases ih { r with latest := Function.update r.latest v (some latest) } with
            kept | ⟨other, set, mem⟩
          · refine .inr ⟨latest, ?_, ?_⟩
            · rw [kept]
              exact Function.update_self ..
            · simp [written, doc_eq]
          · refine .inr ⟨other, set, ?_⟩
            simp only [List.filterMap_cons, written, if_true]
            exact List.mem_cons_of_mem _ mem
        · refine later { r with latest := Function.update r.latest v (some latest) } ?_
          exact Function.update_of_ne (Ne.symm own) ..
    | setHeartbeat v received => exact later _ rfl
    | deleteHeartbeat v => exact later _ rfl
    | deleteLease robotId => exact later _ rfl

/-- Without a document for a vehicle in the queue, its document is as before. -/
theorem perform_latest_kept (r : Redis) {operations : List Operation} {vehicleId : String}
    (unwritten : operations.filterMap (written vehicleId) = []) :
    (r.perform operations).latest vehicleId = r.latest vehicleId := by
  rcases r.perform_latest operations vehicleId with kept | ⟨latest, _, mem⟩
  · exact kept
  · rw [unwritten] at mem
    cases mem

/-- The only document in the queue is written, if it can be. -/
theorem perform_latest_set (r : Redis) {operations : List Operation} {vehicleId : String}
    {latest : Latest} (one : operations.filterMap (written vehicleId) = [latest.doc])
    (others : ∀ v, v ≠ vehicleId → operations.filterMap (written v) = []) :
    (r.perform operations).latest vehicleId = some latest := by
  induction operations generalizing r with
  | nil => cases one
  | cons operation rest ih =>
    cases operation with
    | setLatest v doc =>
      by_cases own : v = vehicleId
      · subst own
        rw [List.filterMap_cons_some (b := doc) (by simp [written])] at one
        obtain ⟨rfl, unwritten⟩ := List.cons.inj one
        have made : Latest.of latest.doc = some latest := by
          unfold Latest.of
          rw [dif_pos ⟨latest.isObject, latest.encodes⟩]
        unfold perform
        rw [made]
        dsimp only
        rw [perform_latest_kept _ unwritten]
        exact Function.update_self ..
      · have queued := others v own
        rw [List.filterMap_cons_some (b := doc) (by simp [written])] at queued
        cases queued
    | setHeartbeat v received => exact ih _ one others
    | deleteHeartbeat v => exact ih _ one others
    | deleteLease robotId => exact ih _ one others

end Redis

/-! ## The ways a call ends -/

/-- Everything but the marks is the same. -/
structure SameFacts (s s' : State) : Prop where
  vehicles : s'.vehicles = s.vehicles
  control : s'.control = s.control
  business : s'.business = s.business
  stream : s'.stream = s.stream
  latest : s'.redis.latest = s.redis.latest
  heartbeat : s'.redis.heartbeat = s.redis.heartbeat
  lease : s'.redis.lease = s.redis.lease

/-- A state has the facts of itself. -/
theorem SameFacts.refl (s : State) : SameFacts s s := ⟨rfl, rfl, rfl, rfl, rfl, rfl, rfl⟩

namespace Redis

variable (r : Redis) (msg : JsonTree)

attribute [local simp] settle release markLast

@[simp] theorem markSeen_latest : (r.markSeen msg).latest = r.latest := by
  unfold markSeen
  split <;> rfl

@[simp] theorem markSeen_heartbeat : (r.markSeen msg).heartbeat = r.heartbeat := by
  unfold markSeen
  split <;> rfl

@[simp] theorem markSeen_lease : (r.markSeen msg).lease = r.lease := by
  unfold markSeen
  split <;> rfl

@[simp] theorem markSeen_pending : (r.markSeen msg).pending = r.pending := by
  unfold markSeen
  split <;> rfl

@[simp] theorem markSeen_lastSeq : (r.markSeen msg).lastSeq = r.lastSeq := by
  unfold markSeen
  split <;> rfl

@[simp] theorem settle_latest (o : Outcome) : (r.settle msg o).latest = r.latest := by
  cases o <;> simp

@[simp] theorem settle_heartbeat (o : Outcome) : (r.settle msg o).heartbeat = r.heartbeat := by
  cases o <;> simp

@[simp] theorem settle_lease (o : Outcome) : (r.settle msg o).lease = r.lease := by
  cases o <;> simp

/-- A message that is settled is no longer on its way. -/
@[simp] theorem settle_pending (o : Outcome) :
    (r.settle msg o).pending = Function.update r.pending (textOf msg "message_id") false := by
  cases o <;> simp

end Redis

/-- Marks are no facts. -/
theorem SameFacts.settle (s : State) (msg : JsonTree) (o : Outcome) :
    SameFacts s (s.marks fun r => r.settle msg o) :=
  ⟨rfl, rfl, rfl, rfl, s.redis.settle_latest msg o, s.redis.settle_heartbeat msg o,
    s.redis.settle_lease msg o⟩

/-- The state after the fast path of an odometry message. -/
inductive FastPath (env : Env) (m : Moment) (c : CompatMessage) (s : State) : State → Prop
  | mk {key : String} {latest : Latest} {events : List Event}
      (keyed : latestKey env c.vehicleId = .ok key)
      (made : writable env (odomLatest env m c s.redis key) = .ok latest)
      (shown : events = [] ∨ events = [("vehicle.odom", odomLatest env m c s.redis key)]) :
      FastPath env m c s { s.putLatest key latest with stream := s.stream ++ events }

/-- What the fast path leaves, where it has written. -/
theorem odomFast_spec (env : Env) (m : Moment) (c : CompatMessage) (s : State) :
    (∃ e, odomFast env m c s = (s, some e)) ∨ FastPath env m c s (odomFast env m c s).1 := by
  unfold odomFast
  cases keyed : latestKey env c.vehicleId with
  | error e => exact .inl ⟨e, rfl⟩
  | ok key =>
    dsimp only
    cases made : writable env (odomLatest env m c s.redis key) with
    | error e => exact .inl ⟨e, rfl⟩
    | ok latest =>
      right
      have silent : FastPath env m c s (s.putLatest key latest) := by
        have path := FastPath.mk keyed made (.inl rfl)
        rw [List.append_nil] at path
        exact path
      dsimp only
      split
      · split
        · exact silent
        · exact FastPath.mk keyed made (.inr rfl)
      · exact silent

/-- A message of a vehicle gets through all the checks before its transaction. -/
structure Checked (env : Env) (m : Moment) (topic : Topic) (payload : Payload) (s : State)
    (msg : JsonTree) (source : Time) : Prop where
  fits : payload.length ≤ env.settings.maxMqttPayloadBytes
  route : compatKind topic = none
  read : inspect env payload = .ok (.message msg)
  typed : textOf msg "type" = lastLevel topic
  allowed : m.rateAllowed = true
  new : s.redis.seen msg = false
  inOrder : s.redis.late msg = .ok false
  parsed : env.parseTime (msg.getD "timestamp") = .ok source

/-- Its transaction is committed. -/
structure Committed (env : Env) (m : Moment) (topic : Topic) (payload : Payload) (s : State)
    (msg : JsonTree) (vehicle : Vehicle) (source : Time) (w₀ w : Work) : Prop
    extends Checked env m topic payload s msg source where
  found : s.vehicles.lookup (textOf msg "vehicle_id") = some vehicle
  accepted : (s.begin (textOf msg "vehicle_id") vehicle).acceptBootSession m
    (s.redis.reserve msg) (textOf msg "type") (msg.getD "boot_id") (textOf msg "boot_id") =
      (w₀, true)
  worked : messageWork env m (s.redis.reserve msg) (sourceKind topic) msg source w₀ = .ok w
  commits : m.commits = true

/-- An internal message is read, and its transaction is committed, after the fast path if it is odometry. -/
structure CompatCommitted (env : Env) (m : Moment) (topic : Topic) (payload : Payload) (s : State)
    (kind : CompatKind) (c : CompatMessage) (s₁ : State) (v : String) (vehicle : Vehicle)
    (w : Work) : Prop where
  fits : payload.length ≤ env.settings.maxMqttPayloadBytes
  route : compatKind topic = some kind
  read : readCompat env payload = .ok c
  start : kind ≠ .odom ∧ s₁ = s ∨ kind = .odom ∧ FastPath env m c s s₁
  bound : env.bind c.vehicleId = .ok (some v)
  found : s₁.vehicles.lookup v = some vehicle
  worked : compatWork env m c s₁.redis kind (s₁.begin v vehicle) = .ok w
  commits : m.commits = true

/-- The ways `process` ends. -/
inductive Processed (env : Env) (m : Moment) (topic : Topic) (payload : Payload) (s : State) :
    State × Outcome → Prop
  | quiet {s' : State} {o : Outcome} (facts : SameFacts s s') (unhandled : o ≠ .handled) :
      Processed env m topic payload s (s', o)
  | ordinary {msg : JsonTree} {vehicle : Vehicle} {source : Time} {w₀ w : Work}
      (call : Committed env m topic payload s msg vehicle source w₀ w) :
      Processed env m topic payload s
        (((s.marks fun r => r.reserve msg).commit w).marks fun r => r.settle msg .handled, .handled)
  | fast {c : CompatMessage} {s' : State} {o : Outcome}
      (fits : payload.length ≤ env.settings.maxMqttPayloadBytes)
      (route : compatKind topic = some .odom)
      (read : readCompat env payload = .ok c)
      (path : FastPath env m c s s') :
      Processed env m topic payload s (s', o)
  | compat {kind : CompatKind} {c : CompatMessage} {s₁ : State} {v : String} {vehicle : Vehicle}
      {w : Work} (call : CompatCommitted env m topic payload s kind c s₁ v vehicle w) :
      Processed env m topic payload s (s₁.commit w, .handled)

section

variable {env : Env} {m : Moment} {topic : Topic} {payload : Payload} {s : State}

/-- A transaction about an internal message leaves the state, or commits. -/
theorem compatTransaction_spec (env : Env) (m : Moment) (kind : CompatKind) (c : CompatMessage) (s : State) :
    (∃ o, o ≠ .handled ∧ compatTransaction env m c kind s = (s, o)) ∨
      ∃ v vehicle w, env.bind c.vehicleId = .ok (some v) ∧ s.vehicles.lookup v = some vehicle ∧
        compatWork env m c s.redis kind (s.begin v vehicle) = .ok w ∧ m.commits = true ∧
        compatTransaction env m c kind s = (s.commit w, .handled) := by
  unfold compatTransaction
  cases bound : env.bind c.vehicleId with
  | error e => exact .inl ⟨_, by simp, rfl⟩
  | ok value =>
    cases value with
    | none => exact .inl ⟨_, by simp, rfl⟩
    | some v =>
      cases found : s.vehicles.lookup v with
      | none => exact .inl ⟨.unknownVehicle, by simp, by simp [found]⟩
      | some vehicle =>
        cases worked : compatWork env m c s.redis kind (s.begin v vehicle) with
        | error e => exact .inl ⟨.escaped e, by simp, by simp [found, worked]⟩
        | ok w =>
          cases commits : m.commits with
          | false => exact .inl ⟨.escaped .databaseError, by simp, by simp [found, worked]⟩
          | true => exact .inr ⟨v, vehicle, w, rfl, found, worked, rfl, by simp [found, worked]⟩

/-- An internal message ends in one of the listed ways. -/
theorem processed_compat {kind : CompatKind}
    (fits : payload.length ≤ env.settings.maxMqttPayloadBytes)
    (route : compatKind topic = some kind) :
    Processed env m topic payload s (processInternalCompat env m kind payload s) := by
  unfold processInternalCompat
  cases read : readCompat env payload with
  | error e =>
    refine .quiet (.refl s) ?_
    show (if _ then _ else _) ≠ Outcome.handled
    split <;> simp
  | ok c =>
    dsimp only
    by_cases odometry : kind = .odom
    · subst odometry
      rw [if_pos rfl]
      cases ran : odomFast env m c s with
      | mk s₁ error =>
        have spec := odomFast_spec env m c s
        rw [ran] at spec
        cases error with
        | some e =>
          rcases spec with ⟨e', same⟩ | path
          · cases same
            exact .quiet (.refl s) (by simp)
          · exact .fast fits route read path
        | none =>
          have path : FastPath env m c s s₁ := by
            rcases spec with ⟨e', same⟩ | path
            · cases same
            · exact path
          dsimp only
          split
          · rcases compatTransaction_spec env m .odom c s₁ with
              ⟨o, unhandled, same⟩ | ⟨v, vehicle, w, bound, found, worked, commits, same⟩
            · rw [same]
              exact .fast fits route read path
            · rw [same]
              exact .compat ⟨fits, route, read, .inr ⟨rfl, path⟩, bound, found, worked, commits⟩
          · exact .fast fits route read path
    · rw [if_neg odometry]
      rcases compatTransaction_spec env m kind c s with
        ⟨o, unhandled, same⟩ | ⟨v, vehicle, w, bound, found, worked, commits, same⟩
      · rw [same]
        exact .quiet (.refl s) unhandled
      · rw [same]
        exact .compat ⟨fits, route, read, .inl ⟨odometry, rfl⟩, bound, found, worked, commits⟩

/-- The transaction of a message leaves the state, or commits. -/
theorem transact_spec (env : Env) (m : Moment) (kind : Robots.SourceKind) (msg : JsonTree) (source : Time) (s : State) :
    (∃ o, o.rejects = true ∧ transact env m kind msg source s = (s, o)) ∨
      ∃ vehicle w₀ w, s.vehicles.lookup (textOf msg "vehicle_id") = some vehicle ∧
        (s.begin (textOf msg "vehicle_id") vehicle).acceptBootSession m s.redis
          (textOf msg "type") (msg.getD "boot_id") (textOf msg "boot_id") = (w₀, true) ∧
        messageWork env m s.redis kind msg source w₀ = .ok w ∧ m.commits = true ∧
        transact env m kind msg source s = (s.commit w, .handled) := by
  unfold transact
  cases found : s.vehicles.lookup (textOf msg "vehicle_id") with
  | none => exact .inl ⟨_, rfl, rfl⟩
  | some vehicle =>
    dsimp only
    cases accepted : (s.begin (textOf msg "vehicle_id") vehicle).acceptBootSession m s.redis
        (textOf msg "type") (msg.getD "boot_id") (textOf msg "boot_id") with
    | mk w₀ answer =>
      cases answer with
      | false => exact .inl ⟨_, rfl, rfl⟩
      | true =>
        dsimp only
        cases worked : messageWork env m s.redis kind msg source w₀ with
        | error e => exact .inl ⟨_, rfl, rfl⟩
        | ok w =>
          cases commits : m.commits with
          | false => exact .inl ⟨.failed, rfl, by simp⟩
          | true => exact .inr ⟨vehicle, w₀, w, rfl, accepted, worked, rfl, by simp⟩

/-- A message whose id has been reserved keeps the facts, or is handled. -/
theorem processReserved_facts (env : Env) (m : Moment) (topic : Topic) (msg : JsonTree) (s : State) :
    (SameFacts s (processReserved env m topic msg s).1 ∧
        (processReserved env m topic msg s).2 ≠ .handled) ∨
      ∃ vehicle source w₀ w, s.redis.late msg = .ok false ∧
        env.parseTime (msg.getD "timestamp") = .ok source ∧
        s.vehicles.lookup (textOf msg "vehicle_id") = some vehicle ∧
        (s.begin (textOf msg "vehicle_id") vehicle).acceptBootSession m s.redis
          (textOf msg "type") (msg.getD "boot_id") (textOf msg "boot_id") = (w₀, true) ∧
        messageWork env m s.redis (sourceKind topic) msg source w₀ = .ok w ∧ m.commits = true ∧
        processReserved env m topic msg s =
          ((s.commit w).marks fun r => r.settle msg .handled, .handled) := by
  unfold processReserved
  split
  · exact .inl ⟨.refl s, by simp⟩
  · cases late : s.redis.late msg with
    | error e => exact .inl ⟨.refl s, by simp⟩
    | ok answer =>
      cases answer with
      | true => exact .inl ⟨.settle s msg .outOfOrder, by simp⟩
      | false =>
        dsimp only
        cases parsed : env.parseTime (msg.getD "timestamp") with
        | error e => exact .inl ⟨.refl s, by simp⟩
        | ok source =>
          dsimp only
          rcases transact_spec env m (sourceKind topic) msg source s with
            ⟨o, rejects, same⟩ | ⟨vehicle, w₀, w, found, accepted, worked, commits, same⟩
          · rw [same]
            exact .inl ⟨.settle s msg o, by rintro rfl; cases rejects⟩
          · rw [same]
            exact .inr ⟨vehicle, source, w₀, w, rfl, rfl, found, accepted, worked, commits, rfl⟩

/-- `process` ends in one of the listed ways. -/
theorem processed (env : Env) (m : Moment) (topic : Topic) (payload : Payload) (s : State) :
    Processed env m topic payload s (process env m topic payload s) := by
  unfold process
  split
  · exact .quiet (.refl s) (by simp)
  next small =>
    have fits : payload.length ≤ env.settings.maxMqttPayloadBytes := not_lt.mp small
    cases route : compatKind topic with
    | some kind => exact processed_compat fits route
    | none =>
      dsimp only
      cases read : inspect env payload with
      | error e =>
        refine .quiet (.refl s) ?_
        show (if _ then _ else _) ≠ Outcome.handled
        split <;> simp
      | ok inspection =>
        cases inspection with
        | tooDeep => exact .quiet (.refl s) (by simp)
        | video => exact .quiet (.refl s) (by simp)
        | message msg =>
          show Processed env m topic payload s (processMessage env m topic msg s)
          unfold processMessage
          split
          · exact .quiet (.refl s) (by simp)
          next typed =>
            split
            · exact .quiet (.refl s) (by simp)
            next allowed =>
              split
              · exact .quiet (.refl s) (by simp)
              next new =>
                rcases processReserved_facts env m topic msg (s.marks fun r => r.reserve msg) with
                  ⟨facts, unhandled⟩ | ⟨vehicle, source, w₀, w, inOrder, parsed, found, accepted,
                    worked, commits, same⟩
                · obtain ⟨vehicles, control, business, stream, latest, heartbeat, lease⟩ := facts
                  exact .quiet ⟨vehicles, control, business, stream, latest, heartbeat, lease⟩
                    unhandled
                · rw [same]
                  exact .ordinary ⟨⟨fits, route, read, not_not.mp typed, by simpa using allowed,
                    by simpa using new, inOrder, parsed⟩, found, accepted, worked, commits⟩

end

end Firebot.MqttIngress
