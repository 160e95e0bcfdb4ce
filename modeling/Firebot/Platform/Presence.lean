import Firebot.Platform.Actions

/-!
# A vehicle that has declared itself offline

Two writers set the online state: the ingress when a message declares it, and the worker every second, from the
age of the last message alone. A declaration of absence counts as a message, so the robot is young when it
has just been declared offline.

`Offline` is what the declaration should leave: the row and the document say OFFLINE. `Steady` lists the
steps that keep it so: ticks at which the robot is old enough, and internal announcements of presence only
from a boot that is accepted.

**A vehicle that has declared itself offline stays so, in the table and in Redis, until it says that it is
there, in every run of steady steps** (`offline_persists`). Nothing is said of what the vehicle does while it is
offline.
-/

namespace Firebot.Platform

open Firebot.Robots Firebot.MqttIngress Firebot.Worker

/-! ## Presence declared -/

/-- The row and the document of a vehicle say that it is offline. -/
structure Offline (s : State) (v : String) : Prop where
  row : ∃ vehicle, s.vehicles.lookup v = some vehicle ∧ vehicle.robot.onlineState = .offline
  latest : ∃ latest, s.redis.latest v = some latest ∧
    latest.doc.get "online_state" = some (.str "OFFLINE")

/-- A call accepts a declaration that a vehicle is offline. -/
inductive Declares (env : Env) (s : State) (c : Call) (v : String) : Prop
  | ordinary {msg : JsonTree} (committed : committedBy env s c = some msg)
      (own : textOf msg "vehicle_id" = v) (offline : declaresOffline msg = true)
  | internal {a : Announcement} (said : announcement env c.topic c.payload = some a)
      (handled : outcome env s c = .handled) (row : a.row = v) (key : a.key = v)
      (offline : declaredState a.state = .offline)

/-- An action accepts a message that says the vehicle is there. -/
inductive Revives (env : Env) (v : String) (s : State) : Action → Prop
  | ordinary {c : Call} {msg : JsonTree} (committed : committedBy env s c = some msg)
      (own : textOf msg "vehicle_id" = v) (online : declaresOnline msg = true) :
      Revives env v s (.message c)
  | internal {c : Call} {a : Announcement} {vehicle : Vehicle}
      (said : announcement env c.topic c.payload = some a) (row : a.row = v)
      (online : declaredState a.state = .online) (found : s.vehicles.lookup v = some vehicle)
      (accepted : vehicle.acceptsBoot a.offer.type a.offer.boot a.offer.bound = true)
      (commits : c.moment.commits = true) : Revives env v s (.message c)

/-- A step that leaves a declared absence alone: an internal announcement of presence is about another vehicle
or comes from a boot that is accepted, and a tick finds the robot old enough. -/
def Steady (env : Env) (v : String) (s : State) : Action → Prop
  | .message c =>
    ∀ a vehicle, announcement env c.topic c.payload = some a → declaredState a.state = .online →
      c.moment.commits = true → s.vehicles.lookup a.row = some vehicle → a.row = v ∨ a.key = v →
        a.row = v ∧ vehicle.acceptsBoot a.offer.type a.offer.boot a.offer.bound = true
  | .tick now commits =>
    commits = true → ∀ vehicle seen, s.vehicles.lookup v = some vehicle →
      vehicle.robot.lastSeenAt = some seen → offlineSeconds env.settings vehicle * second ≤ now - seen
  | .expire _ => True

section

variable {env : Env} {s s' : State} {v : String} {w : Work} {c : Call}

/-! ## What keeps a vehicle offline -/

theorem Offline.of_same (h : Offline s v) (vehicles : s'.vehicles = s.vehicles)
    (latest : s'.redis.latest = s.redis.latest) : Offline s' v := by
  obtain ⟨row, doc⟩ := h
  rw [← vehicles] at row
  rw [← latest] at doc
  exact ⟨row, doc⟩

/-- A transaction keeps a vehicle offline if its row and its documents do. -/
theorem Offline.commit (h : Offline s v)
    (row : w.vehicleId = v → w.vehicle.robot.onlineState = .offline)
    (docs : ∀ doc ∈ w.operations.filterMap (Redis.written v),
      doc.get "online_state" = some (.str "OFFLINE")) : Offline (s.commit w) v where
  row := by
    show ∃ vehicle, AList.lookup v (s.vehicles.insert w.vehicleId w.vehicle) = some vehicle ∧ _
    by_cases own : w.vehicleId = v
    · subst own
      exact ⟨w.vehicle, AList.lookup_insert _, row rfl⟩
    · rw [AList.lookup_insert_ne (Ne.symm own)]
      exact h.row
  latest := by
    show ∃ latest, (s.redis.perform w.operations).latest v = some latest ∧ _
    rcases s.redis.perform_latest w.operations v with kept | ⟨latest, set, mem⟩
    · rw [kept]
      exact h.latest
    · exact ⟨latest, set, docs latest.doc mem⟩

/-- The state of the document that a transaction starts from. -/
theorem Offline.latestOr_get (h : Offline s v) {r : Redis} (same : r.latest = s.redis.latest)
    (fresh : List (JsonText × JsonTree)) :
    (r.latestOr v fresh).get "online_state" = some (.str "OFFLINE") := by
  obtain ⟨latest, found, online⟩ := h.latest
  unfold Redis.latestOr
  rw [same, found]
  exact online

/-! ### Ordinary messages -/

/-- A transaction that does not say the vehicle is there keeps it offline. -/
theorem Offline.messageWork (h : Offline s v) {m : Moment} {r : Redis} {kind : SourceKind}
    {msg : JsonTree} {source : Time} {vehicle : Vehicle} {w₀ : Work}
    (latest : r.latest = s.redis.latest)
    (found : s.vehicles.lookup (textOf msg "vehicle_id") = some vehicle)
    (accepted : (s.begin (textOf msg "vehicle_id") vehicle).acceptBootSession m r
      (textOf msg "type") (msg.getD "boot_id") (textOf msg "boot_id") = (w₀, true))
    (worked : messageWork env m r kind msg source w₀ = .ok w)
    (silent : textOf msg "vehicle_id" = v → ¬ declaresOnline msg = true) :
    Offline (s.commit w) v := by
  have booted := acceptBootSession_presence (m := m) (r := r) (textOf msg "type")
    (msg.getD "boot_id") (textOf msg "boot_id") (s.begin (textOf msg "vehicle_id") vehicle)
  have unwritten := acceptBootSession_written (m := m) (r := r) v (textOf msg "type")
    (msg.getD "boot_id") (textOf msg "boot_id") (s.begin (textOf msg "vehicle_id") vehicle)
  rw [accepted] at booted unwritten
  have own : w₀.vehicleId = textOf msg "vehicle_id" := booted.vehicleId
  have handled : Work.SamePresence (presented env m r kind msg source w₀) w :=
    (handle_spec worked).presence
  have present := (presented_boot env m r kind msg source w₀).vehicleId
  -- the row that the handler finds is offline, and the handler leaves it so
  have row : w₀.vehicleId = v →
      (presented env m r kind msg source w₀).vehicle.robot.onlineState = .offline := by
    intro same
    cases presented_spec env m r kind msg source w₀ with
    | offline _ state _ => exact state
    | online declared _ _ => exact absurd declared (silent (own.symm.trans same))
    | silent _ _ kept _ =>
      obtain ⟨vehicle', found', offline⟩ := h.row
      rw [own] at same
      rw [same, found'] at found
      cases found
      exact kept.onlineState.trans (booted.onlineState.trans offline)
  refine h.commit (fun same => ?_) fun doc mem => ?_
  · rw [handled.vehicleId, present] at same
    exact handled.onlineState.trans (row same)
  · obtain ⟨same, docs⟩ := messageWork_docs worked unwritten mem
    rcases docs with ⟨_, rfl⟩ | ⟨online, _⟩ | queued
    · exact presenceDoc_get r .offline w₀
    · exact absurd online (silent (own.symm.trans same))
    · rcases handlerDocs_online queued with carried | left
      · rw [row same] at carried
        exact carried
      · rw [left, present, same]
        exact h.latestOr_get latest _

/-! ### Internal messages -/

/-- The fast path of odometry keeps a vehicle offline. -/
theorem Offline.fastPath (h : Offline s v) {m : Moment} {message : CompatMessage}
    (path : FastPath env m message s s') : Offline s' v := by
  cases path with
  | mk keyed made shown =>
    rename_i key latest events
    refine ⟨h.row, ?_⟩
    show ∃ other, Function.update s.redis.latest key (some latest) v = some other ∧ _
    by_cases own : v = key
    · subst own
      refine ⟨latest, Function.update_self .., ?_⟩
      rw [writable_doc made]
      refine (JsonTree.get_update_of_notMem (by simp [odomFields, odomSpeeds]) _).trans ?_
      exact h.latestOr_get rfl _
    · rw [Function.update_of_ne own]
      exact h.latest

/-- A transaction about an internal message keeps a vehicle offline, unless it announces its presence. -/
theorem Offline.compatWork (h : Offline s v) {m : Moment} {message : CompatMessage}
    {compat : CompatKind} {row : String} {vehicle : Vehicle}
    (bound : env.bind message.vehicleId = .ok (some row))
    (found : s.vehicles.lookup row = some vehicle)
    (worked : compatWork env m message s.redis compat (s.begin row vehicle) = .ok w)
    (silent : ∀ a, compat = .availability → announce env message = some a → a.row = row →
      declaredState a.state = .online → a.row ≠ v ∧ a.key ≠ v) : Offline (s.commit w) v := by
  obtain ⟨key, w₁, doc, keyed, body, boot, present, operations⟩ := compatWork_spec worked
  obtain ⟨_, start, fresh⟩ := compatRows_keeps env m message compat (s.begin row vehicle)
  have before : key = v → (compatStart s.redis message key vehicle.id).get "online_state" =
      some (.str "OFFLINE") := by
    rintro rfl
    rw [compatStart_get]
    exact h.latestOr_get rfl _
  have docs : w₁.operations.filterMap (Redis.written v) = [] →
      (key = v → doc.get "online_state" = some (.str "OFFLINE")) →
      ∀ d ∈ w.operations.filterMap (Redis.written v), d.get "online_state" = some (.str "OFFLINE") := by
    intro unwritten own d mem
    rw [operations, List.filterMap_append, unwritten, List.nil_append] at mem
    obtain ⟨operation, among, writes⟩ := List.mem_filterMap.mp mem
    cases List.mem_singleton.mp among
    obtain ⟨same, rfl⟩ := Operation.setLatest.inj (Redis.written_eq_some.mp writes)
    rw [stamped_get]
    exact own same
  by_cases availability : compat = .availability
  · subst availability
    obtain ⟨a, announced, rfl, rfl, _, rfl, rfl⟩ := announce_of_body bound keyed body
    obtain ⟨id, state, unwritten⟩ := availabilityRows_spec m s.redis a.state a.offer.boot a.offer.bound
      (compatRows env m message .availability (s.begin a.row vehicle)) v
    cases declared : declaredState a.state with
    | online =>
      obtain ⟨other, elsewhere⟩ := silent a rfl announced rfl declared
      refine h.commit (fun same => ?_) (docs unwritten fun same => absurd same elsewhere)
      rw [present.vehicleId, id] at same
      exact absurd same other
    | offline =>
      rw [declared] at state
      refine h.commit (fun _ => present.onlineState.trans state) (docs unwritten fun _ => ?_)
      rw [declared]
      exact JsonTree.get_set_self (by simp [compatStart, isObject_latestOr]) "online_state" _
    | stale =>
      unfold declaredState at declared
      split at declared <;> cases declared
  · obtain ⟨_, kept, queued⟩ := compatBody_keeps availability body
    refine h.commit (fun same => ?_) (docs ?_ fun same => ?_)
    · rw [present.vehicleId, kept.vehicleId, start.vehicleId] at same
      subst same
      obtain ⟨vehicle', found', offline⟩ := h.row
      have both : some vehicle' = some vehicle := found'.symm.trans found
      cases both
      exact present.onlineState.trans (kept.onlineState.trans (start.onlineState.trans offline))
    · rw [queued, fresh]
      rfl
    · rw [compatBody_get body (by cases compat <;> simp_all [CompatKind.fields])]
      exact before same

/-! ## Runs -/

/-- A call that revives nobody and is steady keeps a vehicle offline. -/
theorem Offline.deliver (h : Offline s v) (quiet : ¬ Revives env v s (.message c))
    (steady : Steady env v s (.message c)) : Offline (deliver env s c) v := by
  unfold MqttIngress.deliver
  have ways := processed env c.moment c.topic c.payload s
  cases result : process env c.moment c.topic c.payload s with
  | mk s' o =>
    rw [result] at ways
    cases ways with
    | quiet facts _ => exact h.of_same facts.vehicles facts.latest
    | ordinary call =>
      rename_i msg vehicle source w₀ w
      have committed : committedBy env s c = some msg := by
        unfold committedBy outcome
        rw [call.route, call.read, result]
        rfl
      have silent : textOf msg "vehicle_id" = v → ¬ declaresOnline msg = true := by
        intro own online
        exact quiet (.ordinary committed own online)
      have marked : Offline (s.marks fun r => r.reserve msg) v := h.of_same rfl rfl
      exact (marked.messageWork rfl call.found call.accepted call.worked silent).of_same rfl
        (Redis.settle_latest ..)
    | fast _ _ _ path => exact h.fastPath path
    | compat call =>
      rename_i kind message s₁ row vehicle w
      have first : Offline s₁ v := by
        rcases call.start with ⟨_, rfl⟩ | ⟨_, path⟩
        · exact h
        · exact h.fastPath path
      refine first.compatWork call.bound call.found call.worked
        fun a availability announced own online => ?_
      subst availability
      have said := call.announcement_of announced
      have same := call.start_of_availability
      subst same own
      by_cases about : a.row = v ∨ a.key = v
      · obtain ⟨own, accepts⟩ := steady a vehicle said online call.commits call.found about
        exact absurd (.internal said own online (own ▸ call.found) accepts call.commits) quiet
      · exact not_or.mp about

/-- So does every action. -/
theorem Offline.act {a : Action} (h : Offline s v) (quiet : ¬ Revives env v s a)
    (steady : Steady env v s a) : Offline (act env s a) v := by
  cases a with
  | message c => exact h.deliver quiet steady
  | tick now commits =>
    obtain ⟨vehicle, found, offline⟩ := h.row
    have old : commits = true → derivedState env.settings vehicle now = .offline := by
      intro committed
      unfold derivedState
      cases seen : vehicle.robot.lastSeenAt with
      | none => rfl
      | some t => exact if_pos (steady committed vehicle t found seen)
    obtain ⟨kept, latest⟩ := tick_offline found offline old
    refine ⟨⟨vehicle, kept, offline⟩, ?_⟩
    show ∃ l, (tick env.settings now commits s).redis.latest v = some l ∧ _
    rw [latest]
    exact h.latest
  | expire gone => exact h.of_same rfl rfl

/-- A transaction whose row is offline and whose one document says so. -/
theorem Offline.of_commit (own : w.vehicleId = v) (row : w.vehicle.robot.onlineState = .offline)
    {latest : Latest} (one : w.operations.filterMap (Redis.written v) = [latest.doc])
    (others : ∀ u, u ≠ v → w.operations.filterMap (Redis.written u) = [])
    (marked : latest.doc.get "online_state" = some (.str "OFFLINE")) : Offline (s.commit w) v where
  row := by
    subst own
    exact ⟨w.vehicle, AList.lookup_insert _, row⟩
  latest := ⟨latest, s.redis.perform_latest_set one others, marked⟩

/-- A transaction about an accepted declaration of absence. -/
theorem Offline.of_message {m : Moment} {r : Redis} {kind : SourceKind} {msg : JsonTree}
    {source : Time} {vehicle : Vehicle} {w₀ : Work}
    (accepted : (s.begin v vehicle).acceptBootSession m r (textOf msg "type")
      (msg.getD "boot_id") (textOf msg "boot_id") = (w₀, true))
    (worked : MqttIngress.messageWork env m r kind msg source w₀ = .ok w)
    (offline : declaresOffline msg = true) : Offline (s.commit w) v := by
  have booted := acceptBootSession_presence (m := m) (r := r) (textOf msg "type")
    (msg.getD "boot_id") (textOf msg "boot_id") (s.begin v vehicle)
  have unwritten := fun u => acceptBootSession_written (m := m) (r := r) u (textOf msg "type")
    (msg.getD "boot_id") (textOf msg "boot_id") (s.begin v vehicle)
  rw [accepted] at booted unwritten
  have own : w₀.vehicleId = v := booted.vehicleId
  have handled : Handles (presented env m r kind msg source w₀) w _ := handle_spec worked
  have availability : textOf msg "type" = "availability" := by
    unfold declaresOffline at offline
    simp_all
  have nothing : handlerDocs env m r kind msg source (presented env m r kind msg source w₀) = [] := by
    unfold handlerDocs
    rw [availability]
    rfl
  obtain ⟨row, operations⟩ := presented_offline env m r kind source w₀ offline
  have queued : w.operations = w₀.operations ++
      [.setLatest v (presenceDoc r .offline w₀), .deleteHeartbeat v] := by
    rw [handled.operations, nothing, operations, own]
    exact List.append_nil _
  have encodes : (presenceDoc r .offline w₀).encodes = true := by
    refine JsonTree.encodes_set (encodes_latestOr r ?_) rfl rfl
    exact JsonTree.encodes_obj.mpr (by simp [Work.identity, JsonTree.encodes, JsonText.plain])
  have object : (presenceDoc r .offline w₀).isObject = true :=
    (JsonTree.isObject_set ..).trans (isObject_latestOr ..)
  have one : w.operations.filterMap (Redis.written v) =
      [(Latest.mk (presenceDoc r .offline w₀) object encodes).doc] := by
    rw [queued, List.filterMap_append, unwritten]
    simp [Redis.written, State.begin]
  have others : ∀ u, u ≠ v → w.operations.filterMap (Redis.written u) = [] := by
    intro u ne
    rw [queued, List.filterMap_append, unwritten]
    simp [Redis.written, State.begin, Ne.symm ne]
  have same : w.vehicleId = v :=
    handled.boot.vehicleId.trans ((presented_boot env m r kind msg source w₀).vehicleId.trans own)
  exact Offline.of_commit same (handled.presence.onlineState.trans row) one others
    (presenceDoc_get r .offline w₀)

/-- A transaction about an internal announcement of absence. -/
theorem Offline.of_announcement {m : Moment} {message : CompatMessage} {u : String}
    {vehicle : Vehicle} {a : Announcement} (bound : env.bind message.vehicleId = .ok (some u))
    (worked : MqttIngress.compatWork env m message s.redis .availability (s.begin u vehicle) = .ok w)
    (said : announce env message = some a) (row : a.row = v) (key : a.key = v)
    (offline : declaredState a.state = .offline) : Offline (s.commit w) v := by
  obtain ⟨k, w₁, doc, keyed, body, boot, present, operations⟩ := compatWork_spec worked
  obtain ⟨_, start, fresh⟩ := compatRows_keeps env m message .availability (s.begin u vehicle)
  obtain ⟨a', announced, rfl, rfl, _, rfl, rfl⟩ := announce_of_body bound keyed body
  rw [announced] at said
  cases said
  subst row
  obtain ⟨id, state, _⟩ := availabilityRows_spec m s.redis a.state a.offer.boot a.offer.bound
    (compatRows env m message .availability (s.begin a.row vehicle)) a.row
  have unwritten : ∀ u, (availabilityRows m s.redis a.state a.offer.boot a.offer.bound (compatRows env m message
      .availability (s.begin a.row vehicle))).operations.filterMap (Redis.written u) = [] := by
    intro u
    rw [(availabilityRows_spec m s.redis a.state a.offer.boot a.offer.bound _ u).2.2, fresh]
    rfl
  rw [offline] at operations state
  have fits : (stamped env m message ((compatStart s.redis message a.key vehicle.id).set
      "online_state" (.str OnlineState.offline.text))).encodes = true := by
    refine JsonTree.encodes_set (JsonTree.encodes_set (JsonTree.encodes_set ?_ rfl rfl) rfl rfl) rfl rfl
    refine JsonTree.encodes_erase (encodes_latestOr s.redis (JsonTree.encodes_obj.mpr ?_)) _
    have sent := env.bind_encodes _ _ bound
    simp [JsonText.plain, sent, JsonTree.encodes]
  have object : (stamped env m message ((compatStart s.redis message a.key vehicle.id).set
      "online_state" (.str OnlineState.offline.text))).isObject = true := by
    simp [stamped, compatStart, isObject_latestOr]
  have one : w.operations.filterMap (Redis.written a.row) = [(Latest.mk _ object fits).doc] := by
    rw [operations, List.filterMap_append, unwritten]
    simp [Redis.written, key, State.begin]
  have others : ∀ u, u ≠ a.row → w.operations.filterMap (Redis.written u) = [] := by
    intro u ne
    rw [operations, List.filterMap_append, unwritten]
    simp [Redis.written, key, Ne.symm ne]
  refine Offline.of_commit (present.vehicleId.trans (id.trans start.vehicleId))
    (present.onlineState.trans state) one others ?_
  rw [stamped_get]
  exact JsonTree.get_set_self (by simp [compatStart, isObject_latestOr]) "online_state" _

/-- A declaration that is accepted leaves the vehicle offline. -/
theorem Declares.offline (declares : Declares env s c v) : Offline (deliver env s c) v := by
  unfold MqttIngress.deliver
  have ways := processed env c.moment c.topic c.payload s
  cases result : process env c.moment c.topic c.payload s with
  | mk s' o =>
    rw [result] at ways
    cases declares with
    | ordinary committed own offline =>
      rename_i msg
      unfold committedBy outcome at committed
      rw [result] at committed
      split at committed
      next route read =>
        cases ways with
        | quiet _ unhandled =>
          have handled : o = .handled := by
            cases o <;> first | rfl | cases committed
          exact absurd handled unhandled
        | fast _ odometry _ _ =>
          rw [route] at odometry
          cases odometry
        | compat call =>
          have internal := call.route
          rw [route] at internal
          cases internal
        | ordinary call =>
          rename_i vehicle source w₀ w
          cases committed
          cases read.symm.trans call.read
          subst own
          have marked := Offline.of_message (s := s.marks fun r => r.reserve msg) call.accepted
            call.worked offline
          exact marked.of_same rfl (Redis.settle_latest ..)
      · cases committed
    | internal said handled row key offline =>
      rename_i a
      obtain ⟨message, route, read, announced⟩ := announcement_eq_some said
      unfold outcome at handled
      rw [result] at handled
      cases ways with
      | quiet _ unhandled => exact absurd handled unhandled
      | ordinary call =>
        have none := call.route
        rw [route] at none
        cases none
      | fast _ odometry _ _ =>
        rw [route] at odometry
        cases odometry
      | compat call =>
        rename_i kind message' s₁ u vehicle w
        cases route.symm.trans call.route
        cases read.symm.trans call.read
        have same := call.start_of_availability
        subst same
        exact Offline.of_announcement call.bound call.worked announced row key offline

end

/-- A vehicle that has declared itself offline stays so, in the table and in Redis, until it says that it is
there, in every run of steady steps. -/
theorem offline_persists (env : Env) (s : State) (c : Call) (v : String) (actions : List Action)
    (declares : Declares env s c v)
    (quiet : Runs.Meets (act env) (fun s a => ¬ Revives env v s a) (deliver env s c) actions)
    (steady : Runs.Meets (act env) (Steady env v) (deliver env s c) actions) :
    Offline (Runs.run (act env) (deliver env s c) actions) v := by
  have kept : ∀ s a, Offline s v → ¬ Revives env v s a ∧ Steady env v s a →
      Offline (act env s a) v := by
    intro s a offline met
    exact offline.act met.1 met.2
  exact Runs.invariant kept declares.offline (Runs.meets_and_iff.mpr ⟨quiet, steady⟩)

/-! ### A lost connection -/

theorem tick_not_revives {env : Env} {v : String} {s : State} {now : Time} {commits : Bool} :
    ¬ Revives env v s (.tick now commits) := by
  rintro ⟨⟩

set_option maxRecDepth 4000 in
theorem lost_declares : Declares lostEnv lostState lostCall "R1" := by
  have declares : (committedBy lostEnv lostState lostCall).any
      (fun msg => textOf msg "vehicle_id" = "R1" && declaresOffline msg) = true := by
    decide +kernel
  obtain ⟨msg, committed, holds⟩ := (Option.any_eq_true _ _).mp declares
  obtain ⟨own, offline⟩ := Bool.and_eq_true_iff.mp holds
  exact .ordinary committed (of_decide_eq_true own) offline

set_option maxRecDepth 4000 in
/-- A tick ten seconds after the connection was lost. -/
theorem offline_persists_old : Offline (Runs.run (act lostEnv) (deliver lostEnv lostState lostCall)
    [.tick (lostAt + 10 * second) true]) "R1" := by
  have old : ((deliver lostEnv lostState lostCall).vehicles.lookup "R1").all
      (fun vehicle => vehicle.robot.lastSeenAt.all fun seen =>
        offlineSeconds lostEnv.settings vehicle * second ≤ lostAt + 10 * second - seen) = true := by
    decide +kernel
  refine offline_persists lostEnv lostState lostCall "R1" _ lost_declares
    ⟨tick_not_revives, trivial⟩ ⟨?_, trivial⟩
  intro _ vehicle seen found known
  rw [found, Option.all_some, known, Option.all_some] at old
  exact of_decide_eq_true old

set_option maxRecDepth 4000 in
/-- One second after its connection was lost, the worker makes a vehicle ONLINE again. -/
theorem tick_revives : ¬ ∀ (env : Env) (s : State) (c : Call) (v : String) (actions : List Action),
    Declares env s c v →
      Runs.Meets (act env) (fun s a => ¬ Revives env v s a) (deliver env s c) actions →
        Offline (Runs.run (act env) (deliver env s c) actions) v := by
  intro claim
  obtain ⟨⟨vehicle, found, stays⟩, _⟩ := claim lostEnv lostState lostCall "R1"
    [.tick (lostAt + second) true] lost_declares ⟨tick_not_revives, trivial⟩
  have turned : ((Runs.run (act lostEnv) (deliver lostEnv lostState lostCall)
      [.tick (lostAt + second) true]).vehicles.lookup "R1").map (·.robot.onlineState) =
        some .online := by
    decide +kernel
  rw [found, Option.map_some, stays] at turned
  cases turned

end Firebot.Platform
