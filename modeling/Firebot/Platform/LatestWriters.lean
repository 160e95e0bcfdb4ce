import Firebot.Lib.Patch
import Firebot.Platform.Actions

/-!
# The writers of a vehicle's document

The ingress and the worker keep one document of latest values for each vehicle. A handler reads the whole
document, sets or removes its own fields and queues the whole document, which is written after the commit; the
fast path of odometry writes at once. What an operation does to the fields is its `JsonPatch`: it depends on
the message and on the rows that the transaction has read, and not on the document.
-/

namespace Firebot.Platform

open Firebot.Robots Firebot.MqttIngress Firebot.Worker

/-! ## Patches of JSON objects -/

/-- The fields of a new document, the fields that are removed, and the fields that are set. -/
structure JsonPatch where
  fresh : List (JsonText × JsonTree)
  erased : List JsonText
  fields : List (JsonText × JsonTree)

namespace JsonPatch

variable (p : JsonPatch)

/-- The document that the patch makes. -/
def doc (t : JsonTree) : JsonTree := (p.erased.foldl (fun t name => t.erase name) t).update p.fields

/-- What the patch does to the fields. -/
def toPatch : Patches.Patch JsonText JsonTree where
  fresh := (JsonTree.obj p.fresh).get
  own name :=
    match ((JsonTree.obj []).update p.fields).get name with
    | some value => some (some value)
    | none => if name ∈ p.erased then some none else none

theorem isObject_eraseAll (names : List JsonText) (t : JsonTree) :
    (names.foldl (fun t name => t.erase name) t).isObject = t.isObject := by
  induction names generalizing t with
  | nil => rfl
  | cons name names ih => exact (ih _).trans (JsonTree.isObject_erase ..)

theorem get_eraseAll (names : List JsonText) (t : JsonTree) (name : JsonText) :
    (names.foldl (fun t name => t.erase name) t).get name =
      if name ∈ names then none else t.get name := by
  induction names generalizing t with
  | nil => rfl
  | cons first names ih =>
    rw [List.foldl_cons, ih]
    by_cases later : name ∈ names
    · rw [if_pos later, if_pos (List.mem_cons_of_mem _ later)]
    · rw [if_neg later]
      by_cases same : name = first
      · subst same
        rw [JsonTree.get_erase_self, if_pos List.mem_cons_self]
      · rw [JsonTree.get_erase_of_ne same, if_neg]
        intro mem
        rcases List.mem_cons.mp mem with rfl | mem
        · exact same rfl
        · exact later mem

/-- The document has the fields of the patch, and the others as they were. -/
theorem get_doc {t : JsonTree} (object : t.isObject = true) (name : JsonText) :
    (p.doc t).get name = (p.toPatch.own name).getD (t.get name) := by
  unfold doc
  rw [JsonTree.get_update ((isObject_eraseAll ..).trans object), get_eraseAll]
  unfold toPatch
  dsimp only
  cases ((JsonTree.obj []).update p.fields).get name with
  | some value => rfl
  | none =>
    dsimp only
    split <;> rfl

variable {p}

end JsonPatch

/-! ## The operations -/

/-- The rows and the keys of Redis that a transaction has read, the document apart. -/
structure Reads where
  rows : State
  vehicle : Vehicle

/-- The transaction as it begins. -/
def Reads.work (reads : Reads) (v : String) : Work := reads.rows.begin v reads.vehicle

/-- Redis with a document of the vehicle. -/
def Reads.seeing (reads : Reads) (v : String) (latest : Option Latest) : Redis :=
  { reads.rows.redis with latest := Function.update reads.rows.redis.latest v latest }

/-- What reads the document and writes it back: the transaction of a message, the transaction of an internal
message, the fast path of odometry, and the worker's look at a robot. -/
inductive LatestOp where
  | message (env : Env) (m : Moment) (kind : SourceKind) (msg : JsonTree) (source : Time) (reads : Reads)
  | compat (env : Env) (m : Moment) (c : CompatMessage) (kind : CompatKind) (reads : Reads)
  | odom (env : Env) (m : Moment) (c : CompatMessage)
  | reconcile (settings : Settings) (now : Time) (reads : Reads)

/-- The transaction of a message, once its boot has been accepted. -/
def messageWork? (env : Env) (m : Moment) (r : Redis) (kind : SourceKind) (msg : JsonTree) (source : Time)
    (w : Work) : Option Work :=
  match w.acceptBootSession m r (textOf msg "type") (msg.getD "boot_id") (textOf msg "boot_id") with
  | (_, false) => none
  | (w, true) => (messageWork env m r kind msg source w).toOption

/-- The document that the fast path writes. -/
def odomDoc (env : Env) (m : Moment) (c : CompatMessage) (r : Redis) (v : String) : Option Latest :=
  if (latestKey env c.vehicleId).toOption = some v then (writable env (odomLatest env m c r v)).toOption
  else none

/-- The first document of the vehicle in a queue, if it can be written. -/
def queuedDoc (v : String) (w : Work) : Option Latest :=
  ((w.operations.filterMap (Redis.written v)).head?).bind Latest.of

namespace LatestOp

variable (v : String)

/-- The document that an operation writes after it has read another. -/
def writes : LatestOp → Option Latest → Option Latest
  | message env m kind msg source reads, latest =>
    (messageWork? env m (reads.seeing v latest) kind msg source (reads.work v)).bind (queuedDoc v)
  | compat env m c kind reads, latest =>
    (compatWork env m c (reads.seeing v latest) kind (reads.work v)).toOption.bind (queuedDoc v)
  | odom env m c, latest =>
    odomDoc env m c { State.empty.redis with latest := fun _ => latest } v
  | reconcile settings now reads, latest =>
    queuedDoc v (reconcileRobot settings (reads.seeing v latest) now (reads.work v))

end LatestOp

/-! ## What they do to the fields -/

/-- The mark of an online state. -/
def markPatch (w : Work) (state : OnlineState) : JsonPatch where
  fresh := w.identity
  erased := []
  fields := [("online_state", .str state.text)]

/-- A location: `verified` says that the map of the message is verified. -/
def locationPatch (env : Env) (m : Moment) (kind : SourceKind) (msg : JsonTree) (source : Time)
    (verified : Bool) (w : Work) : JsonPatch where
  fresh := []
  erased := (if kind = .rosCompat then ["estop_active"] else []) ++
    if kind ≠ .rosCompat || verified then [] else ["position", "x", "y", "theta"]
  fields := locationFields env m msg source (kind ≠ .rosCompat || verified) w

/-- The row that the handler of a message finds, where the message says nothing about presence. -/
def silentWork (env : Env) (m : Moment) (kind : SourceKind) (msg : JsonTree) (source : Time) (w : Work) :
    Work :=
  touchFieldChannel m source (channelName kind msg) kind (adopt env m kind w)

/-- The transaction of a message. -/
def messagePatch (env : Env) (m : Moment) (kind : SourceKind) (msg : JsonTree) (source : Time) (w : Work) :
    JsonPatch :=
  if declaresOffline msg then markPatch w .offline
  else if declaresOnline msg then markPatch w .online
  else
    match textOf msg "type" with
    | "location" =>
      let w := silentWork env m kind msg source w
      locationPatch env m kind msg source (w.vehicle.profile.any (·.mapContractVerified)) w
    | "status" => { fresh := w.identity, erased := [], fields := statusFields msg }
    | "sensor" => { fresh := w.identity, erased := [], fields := sensorFields env m msg }
    | _ => { fresh := [], erased := [], fields := [] }

/-- The fields that the kind of an internal message sets. -/
def compatUpdates (env : Env) (c : CompatMessage) (kind : CompatKind) (w : Work) :
    Except MqttIngress.Raised (List (JsonText × JsonTree)) :=
  match kind with
  | .availability => do
    let state ← Env.field c.msg "state"
    let text ← env.text state
    return [("online_state", .str (declaredState (env.lower text)).text)]
  | .map => do
    let code ← Env.field c.msg "map_code"
    let version ← Env.field c.msg "map_version"
    let checksum ← Env.field c.msg "map_checksum"
    let bound ← env.bind code
    return [("map_contract_verified", .bool (mapVerified env w.vehicle.robot.siteId bound version checksum))]
  | .status => do
    let value ← Env.field c.msg "mode"
    let mode ← env.text value
    return [("mode", .str mode), ("ros_control_mode", c.msg.getD "ros_control_mode")]
  | .battery => do
    let value ← Env.field c.msg "battery"
    let battery ← env.float value
    return [("battery", battery), ("battery_diagnostics", (c.msg.get "diagnostics").getD (.obj []))]
  | .odom => .ok (odomSpeeds c)
  | .navStatus | .navResult => .ok []

/-- The stamps of an internal message. -/
def compatStamps (env : Env) (m : Moment) (c : CompatMessage) : List (JsonText × JsonTree) :=
  [("server_received_at", .str (env.isoformat m.received)), ("source_timestamp", .str (env.isoformat c.source))]

/-- The transaction of an internal message. -/
def compatPatch (env : Env) (m : Moment) (c : CompatMessage) (kind : CompatKind) (w : Work) : JsonPatch where
  fresh := [("vehicle_id", c.vehicleId), ("robot_id", .str w.vehicle.id)]
  erased := ["estop_active"]
  fields := (compatUpdates env c kind w).toOption.getD [] ++ compatStamps env m c

/-- The fast path of odometry. -/
def odomPatch (env : Env) (m : Moment) (c : CompatMessage) : JsonPatch where
  fresh := [("vehicle_id", c.vehicleId)]
  erased := []
  fields := odomFields env m c

/-- What an operation does to the fields of the document. -/
def LatestOp.patch (v : String) : LatestOp → JsonPatch
  | message env m kind msg source reads =>
    messagePatch env m kind msg source ((reads.work v).acceptBootSession m reads.rows.redis
      (textOf msg "type") (msg.getD "boot_id") (textOf msg "boot_id")).1
  | compat env m c kind reads => compatPatch env m c kind (reads.work v)
  | odom env m c => odomPatch env m c
  | reconcile settings now reads =>
    markPatch (reads.work v) (derivedState settings reads.vehicle now)

/-! ## The handlers are their patches -/

section

variable {env : Env} {m : Moment} {r : Redis} {kind : SourceKind} {msg : JsonTree} {source : Time}
  {w w' : Work} {v : String}

theorem written_setLatest (doc : JsonTree) : Redis.written v (.setLatest v doc) = some doc := by
  simp [Redis.written]

/-- A message that declares the vehicle offline or online has no other handler. -/
theorem handlerDocs_of_declares (declares : declaresOffline msg = true ∨ declaresOnline msg = true) :
    handlerDocs env m r kind msg source w = [] := by
  have type : textOf msg "type" = "availability" ∨ textOf msg "type" = "heartbeat" := by
    rcases declares with offline | online
    · unfold declaresOffline at offline
      simp only [Bool.and_eq_true, decide_eq_true_eq] at offline
      exact .inl offline.1
    · unfold declaresOnline at online
      simp only [Bool.or_eq_true, Bool.and_eq_true, decide_eq_true_eq] at online
      rcases online with heartbeat | ⟨availability, -⟩
      · exact .inr heartbeat
      · exact .inl availability
  unfold handlerDocs
  split
  next location => simp [location] at type
  next status => simp [status] at type
  next sensor => simp [sensor] at type
  · rfl

/-- The document of a message that says nothing about presence. -/
theorem handlerDocs_silent (own : w.vehicleId = v) (here : ¬ declaresOffline msg = true)
    (silent : ¬ declaresOnline msg = true) :
    handlerDocs env m r kind msg source (presented env m r kind msg source w) = [] ∨
      handlerDocs env m r kind msg source (presented env m r kind msg source w) =
        [(messagePatch env m kind msg source w).doc
          (r.latestOr v (messagePatch env m kind msg source w).fresh)] := by
  have found : presented env m r kind msg source w = silentWork env m kind msg source w := by
    unfold presented presence
    rw [if_neg here, if_neg silent]
    rfl
  have boot := presented_boot env m r kind msg source w
  have vehicleId : (silentWork env m kind msg source w).vehicleId = v := by
    rw [← found, boot.vehicleId, own]
  have identity : (silentWork env m kind msg source w).identity = w.identity := by
    unfold Work.identity
    rw [← found, boot.vehicleId, boot.id]
  unfold messagePatch handlerDocs
  rw [if_neg here, if_neg silent, found]
  generalize textOf msg "type" = type
  split
  · right
    dsimp only
    unfold locationLatest locationPatch JsonPatch.doc
    rw [vehicleId]
    generalize (silentWork env m kind msg source w).vehicle.profile.any (·.mapContractVerified) = verified
    cases kind <;> cases verified <;> rfl
  · right
    dsimp only
    rw [vehicleId, identity]
    rfl
  · right
    dsimp only
    rw [vehicleId, identity]
    rfl
  · exact .inl rfl

/-- **The transaction of a message** queues no document of the vehicle, or the one that its patch makes. -/
theorem messageWork_latest (h : messageWork env m r kind msg source w = .ok w') (own : w.vehicleId = v)
    (unwritten : w.operations.filterMap (Redis.written v) = []) :
    w'.operations.filterMap (Redis.written v) = [] ∨
      w'.operations.filterMap (Redis.written v) = [(messagePatch env m kind msg source w).doc
        (r.latestOr v (messagePatch env m kind msg source w).fresh)] := by
  obtain ⟨-, -, operations⟩ := handle_spec h
  have vehicleId : (presented env m r kind msg source w).vehicleId = v :=
    (presented_boot env m r kind msg source w).vehicleId.trans own
  have queued : ∀ docs : List JsonTree,
      (docs.map (Operation.setLatest v)).filterMap (Redis.written v) = docs := by
    intro docs
    induction docs with
    | nil => rfl
    | cons doc docs ih =>
      rw [List.map_cons, List.filterMap_cons_some (written_setLatest doc), ih]
  change w'.operations = (presented env m r kind msg source w).operations ++
    (handlerDocs env m r kind msg source (presented env m r kind msg source w)).map
      (.setLatest (presented env m r kind msg source w).vehicleId) at operations
  rw [vehicleId] at operations
  rw [operations, List.filterMap_append, queued]
  have mark : ∀ {state : OnlineState} {other : Operation}, Redis.written v other = none →
      (presented env m r kind msg source w).operations =
        w.operations ++ [.setLatest w.vehicleId (presenceDoc r state w), other] →
      (presented env m r kind msg source w).operations.filterMap (Redis.written v) =
        [(markPatch w state).doc (r.latestOr v (markPatch w state).fresh)] := by
    intro state other silent queue
    rw [queue, List.filterMap_append, unwritten, own, List.nil_append,
      List.filterMap_cons_some (written_setLatest _), List.filterMap_cons_none silent]
    unfold presenceDoc
    rw [own]
    rfl
  cases presented_spec env m r kind msg source w with
  | offline declared _ queue =>
    right
    rw [handlerDocs_of_declares (.inl declared), List.append_nil, mark rfl queue]
    unfold messagePatch
    rw [if_pos declared]
  | online declared _ queue =>
    right
    rw [handlerDocs_of_declares (.inr declared), List.append_nil, mark rfl queue]
    unfold messagePatch
    rw [if_neg (not_declaresOffline declared), if_pos declared]
  | silent here quiet _ queue =>
    rw [queue, unwritten, List.nil_append]
    exact handlerDocs_silent own here quiet

/-! ### Internal messages -/

variable {c : CompatMessage} {compat : CompatKind} {latest latest' : JsonTree}

/-- The kind of an internal message sets its fields. -/
theorem compatBody_update (h : compatBody env m c r compat latest w = .ok (w', latest')) :
    latest' = latest.update ((compatUpdates env c compat w).toOption.getD []) := by
  cases compat with
  | availability =>
    obtain ⟨state, found, h⟩ := Except.bind_eq_ok.mp h
    obtain ⟨text, read, h⟩ := Except.bind_eq_ok.mp h
    obtain ⟨boot, present, h⟩ := Except.bind_eq_ok.mp h
    obtain ⟨bound, bind, h⟩ := Except.bind_eq_ok.mp h
    cases bound with
    | none => cases h
    | some b =>
      cases h
      simp only [compatUpdates, found]
      show _ = latest.update ((((env.text state) >>= _ : Except MqttIngress.Raised _)).toOption.getD [])
      rw [read]
      rfl
  | map =>
    obtain ⟨site, _, h⟩ := Except.bind_eq_ok.mp h
    obtain ⟨code, is_code, h⟩ := Except.bind_eq_ok.mp h
    obtain ⟨version, is_version, h⟩ := Except.bind_eq_ok.mp h
    obtain ⟨checksum, is_checksum, h⟩ := Except.bind_eq_ok.mp h
    obtain ⟨bound, bind, h⟩ := Except.bind_eq_ok.mp h
    cases h
    simp only [compatUpdates, is_code, is_version, is_checksum]
    show _ = latest.update ((((env.bind code) >>= _ : Except MqttIngress.Raised _)).toOption.getD [])
    rw [bind]
    rfl
  | status =>
    obtain ⟨value, found, h⟩ := Except.bind_eq_ok.mp h
    obtain ⟨mode, read, h⟩ := Except.bind_eq_ok.mp h
    cases h
    simp only [compatUpdates, found]
    show _ = latest.update ((((env.text value) >>= _ : Except MqttIngress.Raised _)).toOption.getD [])
    rw [read]
    rfl
  | battery =>
    obtain ⟨value, found, h⟩ := Except.bind_eq_ok.mp h
    obtain ⟨battery, read, h⟩ := Except.bind_eq_ok.mp h
    cases h
    simp only [compatUpdates, found]
    show _ = latest.update ((((env.float value) >>= _ : Except MqttIngress.Raised _)).toOption.getD [])
    rw [read]
    rfl
  | odom =>
    cases h
    rfl
  | navStatus =>
    obtain ⟨status, _, h⟩ := Except.bind_eq_ok.mp h
    cases h
    rfl
  | navResult =>
    obtain ⟨status, _, h⟩ := Except.bind_eq_ok.mp h
    cases h
    rfl

/-- The kind of an internal message queues no document. -/
theorem compatBody_written (h : compatBody env m c r compat latest w = .ok (w', latest')) (v : String) :
    w'.operations.filterMap (Redis.written v) = w.operations.filterMap (Redis.written v) := by
  by_cases availability : compat = .availability
  · subst availability
    obtain ⟨_, _, _, _, _, _, _, _, rfl, _⟩ := compatBody_availability h
    exact (availabilityRows_spec ..).2.2
  · rw [(compatBody_keeps availability h).2.2]

/-- **The transaction of an internal message** queues the document that its patch makes, under its key. -/
theorem compatWork_latest (h : compatWork env m c r compat w = .ok w')
    (unwritten : w.operations.filterMap (Redis.written v) = []) :
    w'.operations.filterMap (Redis.written v) = [] ∨
      w'.operations.filterMap (Redis.written v) =
        [(compatPatch env m c compat w).doc (r.latestOr v (compatPatch env m c compat w).fresh)] := by
  obtain ⟨key, w₁, latest, -, body, -, -, operations⟩ := compatWork_spec h
  have before : w₁.operations.filterMap (Redis.written v) = [] := by
    rw [compatBody_written body, (compatRows_keeps env m c compat w).2.2, unwritten]
  rw [operations, List.filterMap_append, before, List.nil_append]
  by_cases same : key = v
  · subst same
    right
    rw [List.filterMap_cons_some (written_setLatest _), compatBody_update body]
    unfold stamped compatPatch JsonPatch.doc compatStart
    dsimp only
    rw [JsonTree.update_append]
    rfl
  · left
    exact List.filterMap_cons_none (by simp [Redis.written, same])

/-! ### The worker -/

/-- **The worker's look at a robot** queues no document, or the one with the derived mark. -/
theorem reconcileRobot_latest {settings : Settings} {now : Time} (own : w.vehicleId = v)
    (unwritten : w.operations.filterMap (Redis.written v) = []) :
    (reconcileRobot settings r now w).operations.filterMap (Redis.written v) = [] ∨
      (reconcileRobot settings r now w).operations.filterMap (Redis.written v) =
        [(markPatch w (derivedState settings w.vehicle now)).doc (r.latestOr v w.identity)] := by
  have write : ∀ state, (writeState r state w).operations.filterMap (Redis.written v) = [] ∨
      (writeState r state w).operations.filterMap (Redis.written v) =
        [(markPatch w state).doc (r.latestOr v w.identity)] := by
    intro state
    unfold writeState
    split
    · exact .inl unwritten
    · right
      show (w.operations ++ [Operation.setLatest w.vehicleId (presenceDoc r state w)]).filterMap _ = _
      unfold presenceDoc
      rw [List.filterMap_append, unwritten, own, List.nil_append,
        List.filterMap_cons_some (written_setLatest _)]
      rfl
  unfold reconcileRobot
  cases derivedState settings w.vehicle now with
  | online => exact write .online
  | stale =>
    dsimp only
    rw [(expireLease_keeps ..).2]
    exact write .stale
  | offline =>
    dsimp only
    rw [(expireLease_keeps ..).2]
    exact write .offline

/-! ### As writers -/

/-- The document that a patch makes of the one in Redis. -/
theorem JsonPatch.get_latestOr (p : JsonPatch) (r : Redis) (v : String) :
    (p.doc (r.latestOr v p.fresh)).get = p.toPatch.apply ((r.latest v).map fun latest => latest.doc.get) := by
  ext1 name
  unfold Redis.latestOr Patches.Patch.apply Patches.Patch.start
  cases r.latest v with
  | none => exact p.get_doc rfl name
  | some latest => exact p.get_doc latest.isObject name

/-- What is written of a queue that a patch has made. -/
theorem queuedDoc_get {p : JsonPatch} {latest : Latest} (h : queuedDoc v w = some latest)
    (queue : w.operations.filterMap (Redis.written v) = [] ∨
      w.operations.filterMap (Redis.written v) = [p.doc (r.latestOr v p.fresh)]) :
    latest.doc.get = p.toPatch.apply ((r.latest v).map fun latest => latest.doc.get) := by
  unfold queuedDoc at h
  rcases queue with queue | queue
  · rw [queue] at h
    cases h
  · rw [queue] at h
    rw [Latest.of_doc h, JsonPatch.get_latestOr]

end

namespace LatestOp

variable {v : String}

/-- **An operation writes what its patch makes** of the document that it has read. -/
theorem writes_get (op : LatestOp) (latest : Option Latest) (latest' : Latest)
    (h : op.writes v latest = some latest') :
    latest'.doc.get = (op.patch v).toPatch.apply (latest.map fun latest => latest.doc.get) := by
  have seen : ∀ reads : Reads, (reads.seeing v latest).latest v = latest :=
    fun reads => Function.update_self ..
  cases op with
  | message env m kind msg source reads =>
    obtain ⟨w, worked, queued⟩ := Option.bind_eq_some_iff.mp h
    unfold messageWork? at worked
    split at worked
    · cases worked
    next w₀ accepted =>
      have made := Except.toOption_eq_some.mp worked
      have same : w₀ = ((reads.work v).acceptBootSession m reads.rows.redis (textOf msg "type")
          (msg.getD "boot_id") (textOf msg "boot_id")).1 :=
        -- of Redis it looks at the lease alone
        (congrArg Prod.fst accepted).symm
      subst same
      have written := queuedDoc_get queued (messageWork_latest made
        (acceptBootSession_presence (textOf msg "type") (msg.getD "boot_id") (textOf msg "boot_id")
          (reads.work v)).vehicleId
        (acceptBootSession_written v (textOf msg "type") (msg.getD "boot_id") (textOf msg "boot_id")
          (reads.work v)))
      rw [seen] at written
      exact written
  | compat env m c kind reads =>
    obtain ⟨w, worked, queued⟩ := Option.bind_eq_some_iff.mp h
    have written := queuedDoc_get queued (compatWork_latest (Except.toOption_eq_some.mp worked) rfl)
    rw [seen] at written
    exact written
  | odom env m c =>
    change odomDoc env m c _ v = some latest' at h
    unfold odomDoc at h
    split at h
    · rw [writable_doc (Except.toOption_eq_some.mp h)]
      exact (odomPatch env m c).get_latestOr _ v
    · cases h
  | reconcile settings now reads =>
    have written := queuedDoc_get (p := markPatch (reads.work v) (derivedState settings reads.vehicle now))
      h (reconcileRobot_latest rfl rfl)
    rw [seen] at written
    exact written

/-! ### Without interruption -/

theorem seeing_self (s : State) (vehicle : Vehicle) (v : String) :
    (Reads.mk s vehicle).seeing v (s.redis.latest v) = s.redis := by
  unfold Reads.seeing
  rw [Function.update_eq_self]

/-- The document of a queue is stored, where it is the only one. -/
theorem queuedDoc_performed {w : Work} {latest : Latest} (r : Redis) (h : queuedDoc v w = some latest)
    (one : (w.operations.filterMap (Redis.written v)).length ≤ 1)
    (others : ∀ u, u ≠ v → w.operations.filterMap (Redis.written u) = []) :
    (r.perform w.operations).latest v = some latest := by
  apply Redis.perform_latest_set r _ others
  unfold queuedDoc at h
  generalize w.operations.filterMap (Redis.written v) = docs at h one
  cases docs with
  | nil => cases h
  | cons doc rest =>
    rw [List.eq_nil_of_length_eq_zero (Nat.le_zero.mp (Nat.le_of_succ_le_succ one)), Latest.of_doc h]

/-- A transaction that nothing interrupts stores what its operation writes. -/
theorem transact_latest {env : Env} {m : Moment} {kind : SourceKind} {msg : JsonTree} {source : Time}
    {s : State} {vehicle : Vehicle} {latest : Latest} (own : textOf msg "vehicle_id" = v)
    (found : s.vehicles.lookup v = some vehicle) (commits : m.commits = true)
    (h : (message env m kind msg source ⟨s, vehicle⟩).writes v (s.redis.latest v) = some latest) :
    (transact env m kind msg source s).1.redis.latest v = some latest := by
  obtain ⟨w, worked, queued⟩ := Option.bind_eq_some_iff.mp h
  rw [seeing_self] at worked
  unfold messageWork? at worked
  unfold transact
  rw [own, found]
  dsimp only
  split at worked
  · cases worked
  next w₀ accepted =>
    have made := Except.toOption_eq_some.mp worked
    have accepted' : (s.begin v vehicle).acceptBootSession m s.redis (textOf msg "type")
        (msg.getD "boot_id") (textOf msg "boot_id") = (w₀, true) := accepted
    have unwritten : ∀ u, w₀.operations.filterMap (Redis.written u) = [] := by
      intro u
      have silent := acceptBootSession_written (m := m) (r := s.redis) u (textOf msg "type")
        (msg.getD "boot_id") (textOf msg "boot_id") (s.begin v vehicle)
      rwa [accepted'] at silent
    have vehicleId : w₀.vehicleId = v := by
      have presence := (acceptBootSession_presence (m := m) (r := s.redis) (textOf msg "type")
        (msg.getD "boot_id") (textOf msg "boot_id") (s.begin v vehicle)).vehicleId
      rwa [accepted'] at presence
    rw [accepted']
    dsimp only
    rw [made]
    dsimp only
    rw [if_pos commits]
    apply queuedDoc_performed s.redis queued
    · rcases messageWork_latest made vehicleId (unwritten v) with none | one
      · rw [none]
        exact Nat.zero_le 1
      · rw [one]
        exact le_refl 1
    · intro u other
      apply List.eq_nil_iff_forall_not_mem.mpr
      intro doc mem
      exact other ((messageWork_docs made (unwritten u) mem).1.symm.trans vehicleId)

/-- So does the fast path of odometry. -/
theorem odomFast_latest {env : Env} {m : Moment} {c : CompatMessage} {s : State} {latest : Latest}
    (h : (odom env m c).writes v (s.redis.latest v) = some latest) :
    (odomFast env m c s).1.redis.latest v = some latest := by
  change odomDoc env m c _ v = some latest at h
  unfold odomDoc at h
  split at h
  next keyed =>
    have made : writable env (odomLatest env m c s.redis v) = .ok latest := Except.toOption_eq_some.mp h
    unfold odomFast
    rw [Except.toOption_eq_some.mp keyed]
    dsimp only
    rw [made]
    dsimp only
    split
    · split
      · exact Function.update_self ..
      · exact Function.update_self ..
    · exact Function.update_self ..
  · cases h

/-- What the operations of messages and of odometry write is what the handlers store, where nothing interrupts
them. -/
structure Stored (v : String) : Prop where
  transact : ∀ {env : Env} {m : Moment} {kind : SourceKind} {msg : JsonTree} {source : Time} {s : State}
    {vehicle : Vehicle} {latest : Latest}, textOf msg "vehicle_id" = v → s.vehicles.lookup v = some vehicle →
    m.commits = true → (message env m kind msg source ⟨s, vehicle⟩).writes v (s.redis.latest v) = some latest →
    (MqttIngress.transact env m kind msg source s).1.redis.latest v = some latest
  odomFast : ∀ {env : Env} {m : Moment} {c : CompatMessage} {s : State} {latest : Latest},
    (odom env m c).writes v (s.redis.latest v) = some latest →
    (MqttIngress.odomFast env m c s).1.redis.latest v = some latest

theorem stored (v : String) : Stored v := ⟨transact_latest, odomFast_latest⟩

/-- An operation as a writer of the vehicle's document. -/
def writer (v : String) (op : LatestOp) : Patches.Writer fun latest : Latest => latest.doc.get where
  writes := op.writes v
  patch := (op.patch v).toPatch
  spec := op.writes_get

end LatestOp

end Firebot.Platform
