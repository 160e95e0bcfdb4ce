import Firebot.MqttIngress.Laws

/-!
# What the steps of a transaction leave

A transaction goes through the steps of one call: the boot session, the read-only profile, the presence, the
handler. `SameBoot` and `SamePresence` say which of them leave the boot sessions and the online state alone;
the documents they queue are given in closed form (`handlerDoc`, `presenceDoc`, `compatDoc`).
-/

namespace Firebot.MqttIngress

open Firebot.Robots

/-! ## What is left alone -/

namespace Work

/-- The robot, its boot and its control sessions are the same. -/
structure SameBoot (w w' : Work) : Prop where
  vehicleId : w'.vehicleId = w.vehicleId
  id : w'.vehicle.id = w.vehicle.id
  bootId : w'.vehicle.robot.bootId = w.vehicle.robot.bootId
  sessions : w'.vehicle.sessions = w.vehicle.sessions
  control : w'.control = w.control

/-- The robot and its online state are the same. -/
structure SamePresence (w w' : Work) : Prop where
  vehicleId : w'.vehicleId = w.vehicleId
  id : w'.vehicle.id = w.vehicle.id
  onlineState : w'.vehicle.robot.onlineState = w.vehicle.robot.onlineState
  lastSeenAt : w'.vehicle.robot.lastSeenAt = w.vehicle.robot.lastSeenAt

variable {w w' w'' : Work}

theorem SameBoot.refl (w : Work) : SameBoot w w := ⟨rfl, rfl, rfl, rfl, rfl⟩

theorem SameBoot.trans (h : SameBoot w w') (h' : SameBoot w' w'') : SameBoot w w'' :=
  ⟨h'.vehicleId.trans h.vehicleId, h'.id.trans h.id, h'.bootId.trans h.bootId,
    h'.sessions.trans h.sessions, h'.control.trans h.control⟩

theorem SamePresence.refl (w : Work) : SamePresence w w := ⟨rfl, rfl, rfl, rfl⟩

theorem SamePresence.trans (h : SamePresence w w') (h' : SamePresence w' w'') : SamePresence w w'' :=
  ⟨h'.vehicleId.trans h.vehicleId, h'.id.trans h.id, h'.onlineState.trans h.onlineState,
    h'.lastSeenAt.trans h.lastSeenAt⟩

end Work

open Work

section

variable {env : Env} {m : Moment} {r : Redis} {kind : SourceKind} {msg : JsonTree} {source : Time}
  {w w' : Work}

/-! ## Boot sessions -/

/-- Revoking the lease of the old boot leaves the robot's rows alone. -/
theorem invalidateOldBootLeases_vehicle (old : String) (boot : JsonTree) (w : Work) :
    (w.invalidateOldBootLeases m r old boot).vehicle = w.vehicle ∧
      (w.invalidateOldBootLeases m r old boot).vehicleId = w.vehicleId := by
  unfold invalidateOldBootLeases
  split
  · exact ⟨rfl, rfl⟩
  · dsimp only
    split <;> exact ⟨rfl, rfl⟩

/-- It queues no document. -/
theorem invalidateOldBootLeases_written (v old : String) (boot : JsonTree) (w : Work) :
    (w.invalidateOldBootLeases m r old boot).operations.filterMap (Redis.written v) =
      w.operations.filterMap (Redis.written v) := by
  unfold invalidateOldBootLeases
  split
  · rfl
  · dsimp only
    split
    · show (w.operations ++ [Operation.deleteLease w.vehicle.id]).filterMap _ = _
      rw [List.filterMap_append]
      exact List.append_nil _
    · rfl

/-- The end of the current boot leaves the robot's row alone. -/
theorem endCurrent_robot (boot : JsonTree) (w : Work) :
    (w.endCurrent m r boot).vehicle.robot = w.vehicle.robot ∧
      (w.endCurrent m r boot).vehicle.id = w.vehicle.id ∧
      (w.endCurrent m r boot).vehicleId = w.vehicleId := by
  unfold endCurrent
  split
  · exact ⟨rfl, rfl, rfl⟩
  · split
    · exact ⟨rfl, rfl, rfl⟩
    · rw [(invalidateOldBootLeases_vehicle _ _ _).1, (invalidateOldBootLeases_vehicle _ _ _).2]
      exact ⟨rfl, rfl, rfl⟩

/-- The end of a session queues no document. -/
theorem endCurrent_written (v : String) (boot : JsonTree) (w : Work) :
    (w.endCurrent m r boot).operations.filterMap (Redis.written v) =
      w.operations.filterMap (Redis.written v) := by
  unfold endCurrent
  split
  · rfl
  · split
    · rfl
    · exact invalidateOldBootLeases_written v _ boot _

/-- Accepting a boot changes no online state. -/
theorem acceptBootSession_presence (type : String) (boot : JsonTree) (bound : String) (w : Work) :
    SamePresence w (w.acceptBootSession m r type boot bound).1 := by
  unfold acceptBootSession
  dsimp only
  split
  · exact ⟨rfl, rfl, rfl, rfl⟩
  · split
    · exact .refl w
    · split
      · exact .refl w
      · obtain ⟨robot, id, vehicleId⟩ := endCurrent_robot (m := m) (r := r) boot w
        have state := congrArg Robot.onlineState robot
        have seen := congrArg Robot.lastSeenAt robot
        unfold establish
        dsimp only
        split <;> exact ⟨vehicleId, id, state, seen⟩

/-- It queues no document. -/
theorem acceptBootSession_written (v type : String) (boot : JsonTree) (bound : String) (w : Work) :
    (w.acceptBootSession m r type boot bound).1.operations.filterMap (Redis.written v) =
      w.operations.filterMap (Redis.written v) := by
  unfold acceptBootSession
  dsimp only
  split
  · rfl
  · split
    · rfl
    · split
      · rfl
      · unfold establish
        dsimp only
        split
        · exact endCurrent_written v boot w
        · exact endCurrent_written v boot w

/-! ## The profile and the presence -/

/-- The read-only profile leaves boot and online state alone and queues nothing. -/
theorem adopt_keeps (env : Env) (m : Moment) (kind : SourceKind) (w : Work) :
    SameBoot w (adopt env m kind w) ∧ SamePresence w (adopt env m kind w) ∧
      (adopt env m kind w).operations = w.operations := by
  unfold adopt
  split
  · dsimp only
    split <;> exact ⟨⟨rfl, rfl, rfl, rfl, rfl⟩, ⟨rfl, rfl, rfl, rfl⟩, rfl⟩
  · exact ⟨.refl w, .refl w, rfl⟩

/-- The document that the new online state is written into. -/
def presenceDoc (r : Redis) (state : OnlineState) (w : Work) : JsonTree :=
  (r.latestOr w.vehicleId w.identity).set "online_state" (.str state.text)

/-- `update_online` leaves the boot alone, sets the state and queues the document. -/
theorem updateOnline_spec (m : Moment) (r : Redis) (state : OnlineState) (boot reason : JsonTree)
    (w : Work) :
    SameBoot w (updateOnline m r state boot reason w) ∧
      (updateOnline m r state boot reason w).vehicle.robot.onlineState = state ∧
      (updateOnline m r state boot reason w).operations =
        w.operations ++ [.setLatest w.vehicleId (presenceDoc r state w)] := by
  unfold updateOnline
  dsimp only
  split <;> exact ⟨⟨rfl, rfl, rfl, rfl, rfl⟩, rfl, rfl⟩

/-- The presence leaves the boot alone. -/
theorem presence_boot (m : Moment) (r : Redis) (kind : SourceKind) (msg : JsonTree) (source : Time)
    (w : Work) : SameBoot w (presence m r kind msg source w) := by
  unfold presence
  dsimp only
  split
  · obtain ⟨vehicleId, id, bootId, sessions, control⟩ := (updateOnline_spec m r .offline
      (msg.getD "boot_id") (msg.getD "reason")
      ((touchFieldChannel m source (channelName kind msg) kind w).channel (channelName kind msg)
        fun channel => { channel with support := .notConnected })).1
    exact ⟨vehicleId, id, bootId, sessions, control⟩
  · split
    · obtain ⟨vehicleId, id, bootId, sessions, control⟩ := (updateOnline_spec m r .online
        (msg.getD "boot_id") .null (touchFieldChannel m source (channelName kind msg) kind w)).1
      exact ⟨vehicleId, id, bootId, sessions, control⟩
    · exact ⟨rfl, rfl, rfl, rfl, rfl⟩

/-- A declaration of absence. -/
theorem presence_offline (m : Moment) (r : Redis) (kind : SourceKind) (source : Time) (w : Work)
    (offline : declaresOffline msg = true) :
    (presence m r kind msg source w).vehicle.robot.onlineState = .offline ∧
      (presence m r kind msg source w).operations =
        w.operations ++ [.setLatest w.vehicleId (presenceDoc r .offline w),
          .deleteHeartbeat w.vehicleId] := by
  unfold presence
  rw [if_pos offline]
  obtain ⟨boot, state, operations⟩ := updateOnline_spec m r .offline (msg.getD "boot_id")
    (msg.getD "reason") ((touchFieldChannel m source (channelName kind msg) kind w).channel
      (channelName kind msg) fun channel => { channel with support := .notConnected })
  refine ⟨state, (congrArg (· ++ [Operation.deleteHeartbeat _]) operations).trans ?_⟩
  rw [boot.vehicleId, List.append_assoc]
  rfl

/-- No message declares both. -/
theorem not_declaresOffline (present : declaresOnline msg = true) : ¬ declaresOffline msg = true := by
  intro offline
  unfold declaresOnline at present
  rw [offline] at present
  unfold declaresOffline at offline
  simp_all

/-- A message that says the vehicle is there. -/
theorem presence_online (m : Moment) (r : Redis) (kind : SourceKind) (source : Time) (w : Work)
    (present : declaresOnline msg = true) :
    (presence m r kind msg source w).vehicle.robot.onlineState = .online ∧
      (presence m r kind msg source w).operations =
        w.operations ++ [.setLatest w.vehicleId (presenceDoc r .online w),
          .setHeartbeat w.vehicleId m.received] := by
  unfold presence
  rw [if_neg (not_declaresOffline present), if_pos present]
  obtain ⟨boot, state, operations⟩ := updateOnline_spec m r .online (msg.getD "boot_id") .null
    (touchFieldChannel m source (channelName kind msg) kind w)
  refine ⟨state, (congrArg (· ++ [Operation.setHeartbeat _ _]) operations).trans ?_⟩
  rw [boot.vehicleId, List.append_assoc]
  rfl

/-- Any other message. -/
theorem presence_silent (m : Moment) (r : Redis) (kind : SourceKind) (source : Time) (w : Work)
    (here : ¬ declaresOffline msg = true) (silent : ¬ declaresOnline msg = true) :
    SamePresence w (presence m r kind msg source w) ∧
      (presence m r kind msg source w).operations = w.operations := by
  unfold presence
  rw [if_neg here, if_neg silent]
  exact ⟨⟨rfl, rfl, rfl, rfl⟩, rfl⟩

/-! ## The handlers -/

/-- A handler leaves boot and online state alone, and queues these documents. -/
structure Handles (w w' : Work) (docs : List JsonTree) : Prop where
  boot : SameBoot w w'
  presence : SamePresence w w'
  operations : w'.operations = w.operations ++ docs.map (.setLatest w.vehicleId)

/-- A location queues the one document that it makes. -/
theorem handleLocation_spec {estopUnknown mapVerified : Bool}
    (h : handleLocation env m r msg source estopUnknown mapVerified w = .ok w') :
    Handles w w' [locationLatest env m r msg source estopUnknown mapVerified w] := by
  unfold handleLocation at h
  obtain ⟨battery, _, h⟩ := Except.bind_eq_ok.mp h
  cases h
  exact ⟨⟨rfl, rfl, rfl, rfl, rfl⟩, ⟨rfl, rfl, rfl, rfl⟩, rfl⟩

/-- So does a status. -/
theorem handleStatus_spec (env : Env) (m : Moment) (r : Redis) (msg : JsonTree) (source : Time)
    (kind : SourceKind) (w : Work) :
    Handles w (handleStatus env m r msg source kind w)
      [(r.latestOr w.vehicleId w.identity).update (statusFields msg)] := by
  unfold handleStatus
  dsimp only
  split <;> exact ⟨⟨rfl, rfl, rfl, rfl, rfl⟩, ⟨rfl, rfl, rfl, rfl⟩, rfl⟩

/-- So do sensor values. -/
theorem handleSensor_spec (env : Env) (m : Moment) (r : Redis) (msg : JsonTree) (source : Time)
    (kind : SourceKind) (w : Work) :
    Handles w (handleSensor env m r msg source kind w)
      [(r.latestOr w.vehicleId w.identity).update (sensorFields env m msg)] := by
  unfold handleSensor
  dsimp only
  split <;> exact ⟨⟨rfl, rfl, rfl, rfl, rfl⟩, ⟨rfl, rfl, rfl, rfl⟩, rfl⟩

/-- An alarm queues no document. -/
theorem handleAlarm_spec (env : Env) (m : Moment) (msg : JsonTree) (w : Work) :
    Handles w (handleAlarm env m msg w) [] := by
  unfold handleAlarm
  split <;> exact ⟨⟨rfl, rfl, rfl, rfl, rfl⟩, ⟨rfl, rfl, rfl, rfl⟩, (List.append_nil _).symm⟩

/-- An ACK queues none. -/
theorem handleAck_spec (env : Env) (m : Moment) (msg : JsonTree) (w : Work) :
    Handles w (handleAck env m msg w) [] := by
  have same : Handles w w [] := ⟨.refl w, .refl w, (List.append_nil _).symm⟩
  unfold handleAck
  dsimp only
  split
  · exact same
  · split
    · exact same
    · exact ⟨⟨rfl, rfl, rfl, rfl, rfl⟩, ⟨rfl, rfl, rfl, rfl⟩, (List.append_nil _).symm⟩

/-- A task status queues none. -/
theorem handleTaskStatus_spec (h : handleTaskStatus env m msg w = .ok w') : Handles w w' [] := by
  have same : Handles w w [] := ⟨.refl w, .refl w, (List.append_nil _).symm⟩
  unfold handleTaskStatus at h
  dsimp only at h
  split at h
  · cases h
    exact same
  · split at h
    · cases h
      exact same
    · obtain ⟨status, _, h⟩ := Except.bind_eq_ok.mp h
      cases h
      exact ⟨⟨rfl, rfl, rfl, rfl, rfl⟩, ⟨rfl, rfl, rfl, rfl⟩, (List.append_nil _).symm⟩

/-- The document that the handler of a message queues. -/
def handlerDocs (env : Env) (m : Moment) (r : Redis) (kind : SourceKind) (msg : JsonTree)
    (source : Time) (w : Work) : List JsonTree :=
  match textOf msg "type" with
  | "location" =>
    let verified := w.vehicle.profile.any (·.mapContractVerified)
    [locationLatest env m r msg source (kind = .rosCompat) (kind ≠ .rosCompat || verified) w]
  | "status" => [(r.latestOr w.vehicleId w.identity).update (statusFields msg)]
  | "sensor" => [(r.latestOr w.vehicleId w.identity).update (sensorFields env m msg)]
  | _ => []

/-- The handler of a message. -/
theorem handle_spec (h : handle env m r kind msg source w = .ok w') :
    Handles w w' (handlerDocs env m r kind msg source w) := by
  unfold handle at h
  unfold handlerDocs
  split at h
  next type => simp only [type]; exact handleLocation_spec h
  next type => cases h; simp only [type]; exact handleStatus_spec ..
  next type => cases h; simp only [type]; exact handleSensor_spec ..
  next type => cases h; simp only [type]; exact handleAlarm_spec ..
  next type =>
    cases h
    simp only [type]
    exact ⟨⟨rfl, rfl, rfl, rfl, rfl⟩, ⟨rfl, rfl, rfl, rfl⟩, (List.append_nil _).symm⟩
  next type => cases h; simp only [type]; exact handleAck_spec ..
  next type => simp only [type]; exact handleTaskStatus_spec h
  next notLocation notStatus notSensor _ _ _ _ =>
    cases h
    split
    · contradiction
    · contradiction
    · contradiction
    · exact ⟨.refl w, .refl w, (List.append_nil _).symm⟩

/-- The document that a handler starts from is an object. -/
theorem isObject_latestOr (r : Redis) (v : String) (fresh : List (JsonText × JsonTree)) :
    (r.latestOr v fresh).isObject = true := by
  unfold Redis.latestOr
  split
  next latest _ => exact latest.isObject
  · rfl

/-- The document of a presence says the state. -/
theorem presenceDoc_get (r : Redis) (state : OnlineState) (w : Work) :
    (presenceDoc r state w).get "online_state" = some (.str state.text) :=
  JsonTree.get_set_self (isObject_latestOr ..) "online_state" _

/-- The document that a handler starts from can be written if its new fields can. -/
theorem encodes_latestOr (r : Redis) {key : String} {fresh : List (JsonText × JsonTree)}
    (encodes : (JsonTree.obj fresh).encodes = true) : (r.latestOr key fresh).encodes = true := by
  unfold Redis.latestOr
  split
  next latest _ => exact latest.encodes
  · exact encodes

theorem optionalKey_names {name : String} {o : Option JsonTree} {x : JsonText}
    (mem : x ∈ (optionalKey name o).map Prod.fst) : x = name := by
  cases o with
  | none => cases mem
  | some value => exact List.mem_singleton.mp mem

/-- A location carries the online state of the row. -/
theorem locationLatest_online (env : Env) (m : Moment) (r : Redis) (msg : JsonTree) (source : Time)
    (estopUnknown mapVerified : Bool) (w : Work) :
    (locationLatest env m r msg source estopUnknown mapVerified w).get "online_state" =
      some (.str w.vehicle.robot.onlineState.text) := by
  unfold locationLatest locationFields
  dsimp only
  rw [JsonTree.update_append, JsonTree.update_append, JsonTree.get_update_of_notMem (by simp),
    JsonTree.get_update_of_notMem (by unfold poseProjection; cases mapVerified <;> simp)]
  refine JsonTree.get_set_self ?_ "online_state" _
  rw [JsonTree.isObject_set, JsonTree.isObject_set]
  cases mapVerified <;> cases estopUnknown <;> simp [isObject_latestOr]

/-- A handler writes the online state of the row, or leaves the one of the document. -/
theorem handlerDocs_online {doc : JsonTree} (mem : doc ∈ handlerDocs env m r kind msg source w) :
    doc.get "online_state" = some (.str w.vehicle.robot.onlineState.text) ∨
      doc.get "online_state" = (r.latestOr w.vehicleId w.identity).get "online_state" := by
  unfold handlerDocs at mem
  split at mem
  · cases List.mem_singleton.mp mem
    exact .inl (locationLatest_online ..)
  · cases List.mem_singleton.mp mem
    refine .inr (JsonTree.get_update_of_notMem ?_ _)
    unfold statusFields
    simp only [List.map_append, List.mem_append, not_or]
    refine ⟨⟨⟨?_, ?_⟩, ?_⟩, ?_⟩ <;>
      · intro named
        exact absurd (optionalKey_names named) (by decide)
  · cases List.mem_singleton.mp mem
    refine .inr (JsonTree.get_update_of_notMem ?_ _)
    unfold sensorFields
    simp only [List.map_append, List.mem_append, not_or]
    refine ⟨⟨⟨⟨?_, ?_⟩, ?_⟩, ?_⟩, ?_⟩
    · intro named
      exact absurd (optionalKey_names named) (by decide)
    all_goals
      split
      · exact List.not_mem_nil
      · simp
  · cases mem

/-! ## The transaction of a message -/

/-- The row that the handler finds. -/
def presented (env : Env) (m : Moment) (r : Redis) (kind : SourceKind) (msg : JsonTree)
    (source : Time) (w : Work) : Work :=
  presence m r kind msg source (adopt env m kind w)

/-- What a message says of the presence leaves the boot alone. -/
theorem presented_boot (env : Env) (m : Moment) (r : Redis) (kind : SourceKind) (msg : JsonTree)
    (source : Time) (w : Work) : SameBoot w (presented env m r kind msg source w) :=
  (adopt_keeps env m kind w).1.trans (presence_boot m r kind msg source _)

/-- The state of the row that the handler finds, and the operations queued by then. -/
inductive Presented (m : Moment) (r : Redis) (msg : JsonTree) (w w' : Work) : Prop
  | offline (declared : declaresOffline msg = true)
      (state : w'.vehicle.robot.onlineState = .offline)
      (operations : w'.operations = w.operations ++
        [.setLatest w.vehicleId (presenceDoc r .offline w), .deleteHeartbeat w.vehicleId])
  | online (declared : declaresOnline msg = true) (state : w'.vehicle.robot.onlineState = .online)
      (operations : w'.operations = w.operations ++
        [.setLatest w.vehicleId (presenceDoc r .online w), .setHeartbeat w.vehicleId m.received])
  | silent (here : ¬ declaresOffline msg = true) (silent : ¬ declaresOnline msg = true)
      (same : SamePresence w w') (operations : w'.operations = w.operations)

/-- What a message does to the presence, by what it declares. -/
theorem presented_spec (env : Env) (m : Moment) (r : Redis) (kind : SourceKind) (msg : JsonTree)
    (source : Time) (w : Work) : Presented m r msg w (presented env m r kind msg source w) := by
  obtain ⟨boot, same, queued⟩ := adopt_keeps env m kind w
  have doc : ∀ state, presenceDoc r state (adopt env m kind w) = presenceDoc r state w := by
    intro state
    unfold presenceDoc identity
    rw [boot.vehicleId, boot.id]
  unfold presented
  by_cases offline : declaresOffline msg = true
  · obtain ⟨state, operations⟩ := presence_offline m r kind source (adopt env m kind w) offline
    rw [queued, doc, boot.vehicleId] at operations
    exact .offline offline state operations
  · by_cases online : declaresOnline msg = true
    · obtain ⟨state, operations⟩ := presence_online m r kind source (adopt env m kind w) online
      rw [queued, doc, boot.vehicleId] at operations
      exact .online online state operations
    · obtain ⟨kept, operations⟩ := presence_silent m r kind source (adopt env m kind w) offline online
      exact .silent offline online (same.trans kept) (operations.trans queued)

/-- A declared end marks the robot, its document and its heartbeat. -/
theorem presented_offline (env : Env) (m : Moment) (r : Redis) (kind : SourceKind) (source : Time)
    (w : Work) (declared : declaresOffline msg = true) :
    (presented env m r kind msg source w).vehicle.robot.onlineState = .offline ∧
      (presented env m r kind msg source w).operations = w.operations ++
        [.setLatest w.vehicleId (presenceDoc r .offline w), .deleteHeartbeat w.vehicleId] := by
  cases presented_spec env m r kind msg source w with
  | offline _ state operations => exact ⟨state, operations⟩
  | online online _ _ => exact absurd declared (not_declaresOffline online)
  | silent here _ _ _ => exact absurd declared here

/-- The documents that a message queues: the one with the online state, and its handler's. -/
theorem messageWork_docs (h : messageWork env m r kind msg source w = .ok w') {v : String}
    (unwritten : w.operations.filterMap (Redis.written v) = []) {doc : JsonTree}
    (mem : doc ∈ w'.operations.filterMap (Redis.written v)) :
    w.vehicleId = v ∧
      (declaresOffline msg = true ∧ doc = presenceDoc r .offline w ∨
        declaresOnline msg = true ∧ doc = presenceDoc r .online w ∨
        doc ∈ handlerDocs env m r kind msg source (presented env m r kind msg source w)) := by
  obtain ⟨_, _, operations⟩ := handle_spec h
  have own := (presented_boot env m r kind msg source w).vehicleId
  have queued : doc ∈ (presented env m r kind msg source w).operations.filterMap (Redis.written v) ∨
      w.vehicleId = v ∧
        doc ∈ handlerDocs env m r kind msg source (presented env m r kind msg source w) := by
    obtain ⟨operation, among, writes⟩ := List.mem_filterMap.mp mem
    rw [operations] at among
    rcases List.mem_append.mp among with before | among
    · exact .inl (List.mem_filterMap.mpr ⟨operation, before, writes⟩)
    · obtain ⟨doc', handled, rfl⟩ := List.mem_map.mp among
      obtain ⟨same, rfl⟩ := Operation.setLatest.inj (Redis.written_eq_some.mp writes)
      exact .inr ⟨own.symm.trans same, handled⟩
  rcases queued with before | ⟨same, handled⟩
  · have writes : ∀ {state : OnlineState} {other : Operation}, Redis.written v other = none →
        (presented env m r kind msg source w).operations = w.operations ++
          [.setLatest w.vehicleId (presenceDoc r state w), other] →
        w.vehicleId = v ∧ doc = presenceDoc r state w := by
      intro state other silent ops
      rw [ops, List.filterMap_append, unwritten, List.nil_append] at before
      obtain ⟨operation, among, writes⟩ := List.mem_filterMap.mp before
      rcases List.mem_cons.mp among with rfl | among
      · obtain ⟨same, rfl⟩ := Operation.setLatest.inj (Redis.written_eq_some.mp writes)
        exact ⟨same, rfl⟩
      · cases List.mem_singleton.mp among
        rw [silent] at writes
        cases writes
    cases presented_spec env m r kind msg source w with
    | offline declared _ ops =>
      obtain ⟨same, is_doc⟩ := writes rfl ops
      exact ⟨same, .inl ⟨declared, is_doc⟩⟩
    | online declared _ ops =>
      obtain ⟨same, is_doc⟩ := writes rfl ops
      exact ⟨same, .inr (.inl ⟨declared, is_doc⟩)⟩
    | silent _ _ _ ops =>
      rw [ops, unwritten] at before
      cases before
  · exact ⟨same, .inr (.inr handled)⟩

/-! ## Internal messages -/

variable {c : CompatMessage} {compat : CompatKind} {latest latest' : JsonTree}

/-- The document of an internal message with its stamps. -/
def stamped (env : Env) (m : Moment) (c : CompatMessage) (latest : JsonTree) : JsonTree :=
  (latest.set "server_received_at" (.str (env.isoformat m.received))).set "source_timestamp"
    (.str (env.isoformat c.source))

/-- The document that an internal message starts from. -/
def compatStart (r : Redis) (c : CompatMessage) (key id : String) : JsonTree :=
  (r.latestOr key [("vehicle_id", c.vehicleId), ("robot_id", .str id)]).erase "estop_active"

/-- The rows of every internal message leave boot and online state alone. -/
theorem compatRows_keeps (env : Env) (m : Moment) (c : CompatMessage) (compat : CompatKind)
    (w : Work) : SameBoot w (compatRows env m c compat w) ∧
      SamePresence w (compatRows env m c compat w) ∧
      (compatRows env m c compat w).operations = w.operations :=
  ⟨⟨rfl, rfl, rfl, rfl, rfl⟩, ⟨rfl, rfl, rfl, rfl⟩, rfl⟩

/-- A channel is no row of boot or online state. -/
theorem channel_keeps (name : String) (f : Channel → Channel) (w : Work) :
    SameBoot w (w.channel name f) ∧ SamePresence w (w.channel name f) ∧
      (w.channel name f).operations = w.operations :=
  ⟨⟨rfl, rfl, rfl, rfl, rfl⟩, ⟨rfl, rfl, rfl, rfl⟩, rfl⟩

/-- The channels leave the boot, the presence and the queue alone. -/
theorem channels_keep (names : List String) (f : Channel → Channel) (w : Work) :
    SameBoot w (names.foldl (fun w name => w.channel name f) w) ∧
      SamePresence w (names.foldl (fun w name => w.channel name f) w) ∧
      (names.foldl (fun w name => w.channel name f) w).operations = w.operations := by
  induction names generalizing w with
  | nil => exact ⟨.refl w, .refl w, rfl⟩
  | cons name names ih =>
    obtain ⟨boot, presence, operations⟩ := channel_keeps name f w
    obtain ⟨boot', presence', operations'⟩ := ih (w.channel name f)
    exact ⟨boot.trans boot', presence.trans presence', operations'.trans operations⟩

/-- So do those of an internal message. -/
theorem compatChannels_keep (m : Moment) (c : CompatMessage) (compat : CompatKind) (w : Work) :
    SameBoot w (compatChannels m c compat w) ∧ SamePresence w (compatChannels m c compat w) ∧
      (compatChannels m c compat w).operations = w.operations := by
  unfold compatChannels
  dsimp only
  obtain ⟨b₁, p₁, o₁⟩ := channel_keeps compat.channel (compatChannel m c compat) w
  obtain ⟨b₂, p₂, o₂⟩ := channels_keep ["estop", "roof_rgb", "roof_thermal", "bottom_ir_video"]
    (missingChannel .unsupported) (w.channel compat.channel (compatChannel m c compat))
  obtain ⟨b₃, p₃, o₃⟩ := channels_keep ["smoke", "top_ir", "bottom_ir"]
    (missingChannel .notConnected) (["estop", "roof_rgb", "roof_thermal", "bottom_ir_video"].foldl
      (fun w name => w.channel name (missingChannel .unsupported))
      (w.channel compat.channel (compatChannel m c compat)))
  exact ⟨(b₁.trans b₂).trans b₃, (p₁.trans p₂).trans p₃, o₃.trans (o₂.trans o₁)⟩

/-- The transaction of an internal message: what its kind does, then one document and its channels. -/
theorem compatWork_spec (h : compatWork env m c r compat w = .ok w') :
    ∃ key w₁ latest, latestKey env c.vehicleId = .ok key ∧
      compatBody env m c r compat (compatStart r c key w.vehicle.id) (compatRows env m c compat w) =
        .ok (w₁, latest) ∧
      SameBoot w₁ w' ∧ SamePresence w₁ w' ∧
      w'.operations = w₁.operations ++ [.setLatest key (stamped env m c latest)] := by
  unfold compatWork at h
  obtain ⟨key, keyed, h⟩ := Except.bind_eq_ok.mp h
  obtain ⟨⟨w₁, latest⟩, body, h⟩ := Except.bind_eq_ok.mp h
  cases h
  obtain ⟨boot, presence, operations⟩ := compatChannels_keep m c compat
    (w₁.queue (.setLatest key (stamped env m c latest)))
  exact ⟨key, w₁, latest, keyed, body,
    ⟨boot.vehicleId, boot.id, boot.bootId, boot.sessions, boot.control⟩,
    ⟨presence.vehicleId, presence.id, presence.onlineState, presence.lastSeenAt⟩, operations⟩

/-- What a kind of message writes into the document. -/
def CompatKind.fields : CompatKind → List JsonText
  | .availability => ["online_state"]
  | .map => ["map_contract_verified"]
  | .status => ["mode", "ros_control_mode"]
  | .battery => ["battery", "battery_diagnostics"]
  | .odom => ["linear", "angular", "linear_x", "linear_y", "angular_z", "planar_speed",
      "linear_speed", "angular_speed"]
  | .navStatus | .navResult => []

/-- A message of any kind but availability leaves boot and online state alone and queues nothing. -/
theorem compatBody_keeps (other : compat ≠ .availability)
    (h : compatBody env m c r compat latest w = .ok (w', latest')) :
    SameBoot w w' ∧ SamePresence w w' ∧ w'.operations = w.operations := by
  have same : SameBoot w w ∧ SamePresence w w ∧ w.operations = w.operations :=
    ⟨.refl w, .refl w, rfl⟩
  cases compat with
  | availability => exact absurd rfl other
  | map =>
    obtain ⟨site, _, h⟩ := Except.bind_eq_ok.mp h
    obtain ⟨code, _, h⟩ := Except.bind_eq_ok.mp h
    obtain ⟨version, _, h⟩ := Except.bind_eq_ok.mp h
    obtain ⟨checksum, _, h⟩ := Except.bind_eq_ok.mp h
    obtain ⟨bound, _, h⟩ := Except.bind_eq_ok.mp h
    cases h
    exact ⟨⟨rfl, rfl, rfl, rfl, rfl⟩, ⟨rfl, rfl, rfl, rfl⟩, rfl⟩
  | status =>
    obtain ⟨value, _, h⟩ := Except.bind_eq_ok.mp h
    obtain ⟨mode, _, h⟩ := Except.bind_eq_ok.mp h
    cases h
    exact ⟨⟨rfl, rfl, rfl, rfl, rfl⟩, ⟨rfl, rfl, rfl, rfl⟩, rfl⟩
  | battery =>
    obtain ⟨value, _, h⟩ := Except.bind_eq_ok.mp h
    obtain ⟨battery, _, h⟩ := Except.bind_eq_ok.mp h
    cases h
    exact ⟨⟨rfl, rfl, rfl, rfl, rfl⟩, ⟨rfl, rfl, rfl, rfl⟩, rfl⟩
  | odom =>
    cases h
    exact same
  | navStatus =>
    obtain ⟨status, _, h⟩ := Except.bind_eq_ok.mp h
    cases h
    exact ⟨⟨rfl, rfl, rfl, rfl, rfl⟩, ⟨rfl, rfl, rfl, rfl⟩, rfl⟩
  | navResult =>
    obtain ⟨status, _, h⟩ := Except.bind_eq_ok.mp h
    cases h
    exact ⟨⟨rfl, rfl, rfl, rfl, rfl⟩, ⟨rfl, rfl, rfl, rfl⟩, rfl⟩

/-- An availability message: the boot is offered, and the declared state is set whatever the answer. -/
theorem compatBody_availability
    (h : compatBody env m c r .availability latest w = .ok (w', latest')) :
    ∃ state text boot bound, c.msg.get "state" = some state ∧ env.text state = .ok text ∧
      c.msg.get "bridge_boot_id" = some boot ∧ env.bind boot = .ok (some bound) ∧
      w' = availabilityRows m r (env.lower text) boot bound w ∧
      latest' = latest.set "online_state" (.str (declaredState (env.lower text)).text) := by
  obtain ⟨state, found, h⟩ := Except.bind_eq_ok.mp h
  obtain ⟨text, read, h⟩ := Except.bind_eq_ok.mp h
  obtain ⟨boot, present, h⟩ := Except.bind_eq_ok.mp h
  obtain ⟨bound, bind, h⟩ := Except.bind_eq_ok.mp h
  have get_of_field : ∀ {name value}, Env.field c.msg name = .ok value → c.msg.get name = some value := by
    intro name value same
    unfold Env.field at same
    split at same
    · next found => cases same; exact found
    · cases same
  cases bound with
  | none => cases h
  | some b =>
    cases h
    exact ⟨state, text, boot, b, get_of_field found, read, get_of_field present, bind, rfl, rfl⟩

/-- A field of the document that a kind does not write. -/
theorem compatBody_get (h : compatBody env m c r compat latest w = .ok (w', latest'))
    {name : JsonText} (untouched : name ∉ compat.fields) : latest'.get name = latest.get name := by
  cases compat with
  | availability =>
    obtain ⟨_, _, _, _, _, _, _, _, _, rfl⟩ := compatBody_availability h
    exact JsonTree.get_set_of_ne (by simpa [CompatKind.fields] using untouched) ..
  | map =>
    obtain ⟨site, _, h⟩ := Except.bind_eq_ok.mp h
    obtain ⟨code, _, h⟩ := Except.bind_eq_ok.mp h
    obtain ⟨version, _, h⟩ := Except.bind_eq_ok.mp h
    obtain ⟨checksum, _, h⟩ := Except.bind_eq_ok.mp h
    obtain ⟨bound, _, h⟩ := Except.bind_eq_ok.mp h
    cases h
    exact JsonTree.get_set_of_ne (by simpa [CompatKind.fields] using untouched) ..
  | status =>
    obtain ⟨value, _, h⟩ := Except.bind_eq_ok.mp h
    obtain ⟨mode, _, h⟩ := Except.bind_eq_ok.mp h
    cases h
    simp only [CompatKind.fields, List.mem_cons, List.not_mem_nil, or_false, not_or] at untouched
    rw [JsonTree.get_set_of_ne untouched.2, JsonTree.get_set_of_ne untouched.1]
  | battery =>
    obtain ⟨value, _, h⟩ := Except.bind_eq_ok.mp h
    obtain ⟨battery, _, h⟩ := Except.bind_eq_ok.mp h
    cases h
    simp only [CompatKind.fields, List.mem_cons, List.not_mem_nil, or_false, not_or] at untouched
    rw [JsonTree.get_set_of_ne untouched.2, JsonTree.get_set_of_ne untouched.1]
  | odom =>
    cases h
    exact JsonTree.get_update_of_notMem (by simpa [CompatKind.fields, odomSpeeds] using untouched) _
  | navStatus =>
    obtain ⟨status, _, h⟩ := Except.bind_eq_ok.mp h
    cases h
    rfl
  | navResult =>
    obtain ⟨status, _, h⟩ := Except.bind_eq_ok.mp h
    cases h
    rfl

/-- An internal message starts from the online state of the document. -/
theorem compatStart_get (r : Redis) (message : CompatMessage) (key id : String) :
    (compatStart r message key id).get "online_state" = (r.latestOr key
      [("vehicle_id", message.vehicleId), ("robot_id", .str id)]).get "online_state" :=
  JsonTree.get_erase_of_ne (by decide) _

/-- The stamps leave the online state alone. -/
theorem stamped_get (env : Env) (m : Moment) (message : CompatMessage) (doc : JsonTree) :
    (stamped env m message doc).get "online_state" = doc.get "online_state" := by
  unfold stamped
  rw [JsonTree.get_set_of_ne (by decide), JsonTree.get_set_of_ne (by decide)]

end

/-! ## Announcements of the compatibility layer -/

/-- A boot that a message offers; `bound` is what the database takes its id for. -/
structure Offer where
  type : String
  boot : JsonTree
  bound : String
  bound_eq : ∀ b, boot.isText b = true → bound = b

/-- The boot that a message of a vehicle offers. -/
def Offer.ofMessage (msg : JsonTree) : Offer where
  type := textOf msg "type"
  boot := msg.getD "boot_id"
  bound := textOf msg "boot_id"
  bound_eq := by
    intro b same
    unfold textOf
    rw [JsonTree.isText_iff.mp same]
    rfl

/-- The boot that an internal availability message offers. -/
def Offer.ofBridge (env : Env) (boot : JsonTree) : Option Offer :=
  match taken : env.bind boot with
  | .ok (some bound) => some
    { type := "availability"
      boot := boot
      bound := bound
      bound_eq := by
        intro b same
        rw [JsonTree.isText_iff.mp same] at taken
        exact Option.some.inj (env.bind_text b _ taken) }
  | _ => none

/-- What an internal availability message says, and about which row and which document. -/
structure Announcement where
  row : String
  key : String
  state : JsonText
  offer : Offer

/-- The announcement that a message makes. -/
def announce (env : Env) (c : CompatMessage) : Option Announcement := do
  let row ← (env.bind c.vehicleId).toOption.join
  let key ← (latestKey env c.vehicleId).toOption
  let state ← c.msg.get "state"
  let text ← (env.text state).toOption
  let boot ← c.msg.get "bridge_boot_id"
  let offer ← Offer.ofBridge env boot
  return { row := row, key := key, state := env.lower text, offer := offer }

/-- The announcement that a call hands over. -/
def announcement (env : Env) (topic : Topic) (payload : Payload) : Option Announcement :=
  if env.settings.maxMqttPayloadBytes < payload.length then none
  else
    match compatKind topic, readCompat env payload with
    | some .availability, .ok message => announce env message
    | _, _ => none

section

variable {env : Env} {m : Moment} {topic : Topic} {payload : Payload} {s s₁ : State}
  {c : CompatMessage} {v : String} {vehicle : Vehicle} {w : Work} {a : Announcement}

/-- Only an availability announces. -/
theorem announcement_eq_some (said : announcement env topic payload = some a) :
    ∃ c, compatKind topic = some .availability ∧ readCompat env payload = .ok c ∧
      announce env c = some a := by
  unfold announcement at said
  split at said
  · cases said
  · split at said
    next c route read => exact ⟨c, route, read, said⟩
    · cases said

namespace CompatCommitted

variable (call : CompatCommitted env m topic payload s .availability c s₁ v vehicle w)

include call

theorem announcement_of (announced : announce env c = some a) :
    announcement env topic payload = some a := by
  unfold announcement
  rw [if_neg (not_lt.mpr call.fits), call.route, call.read]
  exact announced

/-- An availability has no fast path. -/
theorem start_of_availability : s₁ = s := by
  rcases call.start with ⟨_, same⟩ | ⟨odometry, _⟩
  · exact same
  · cases odometry

end CompatCommitted

/-- What an internal availability message says is its announcement. -/
theorem announce_of_body {r : Redis} {doc doc' : JsonTree} {w' : Work} {row key : String} (bound : env.bind c.vehicleId = .ok (some row))
    (keyed : latestKey env c.vehicleId = .ok key)
    (body : compatBody env m c r .availability doc w = .ok (w', doc')) :
    ∃ a, announce env c = some a ∧ a.row = row ∧ a.key = key ∧ a.offer.type = "availability" ∧
      w' = availabilityRows m r a.state a.offer.boot a.offer.bound w ∧
      doc' = doc.set "online_state" (.str (declaredState a.state).text) := by
  obtain ⟨state, text, boot, b, said, read, present, taken, rfl, rfl⟩ :=
    compatBody_availability body
  have offered : ∃ o, Offer.ofBridge env boot = some o ∧ o.type = "availability" ∧ o.boot = boot ∧
      o.bound = b := by
    unfold Offer.ofBridge
    split
    next bound' taken' =>
      cases taken.symm.trans taken'
      exact ⟨_, rfl, rfl, rfl, rfl⟩
    next other => exact absurd taken (other b)
  obtain ⟨o, offered, type, rfl, rfl⟩ := offered
  refine ⟨⟨row, key, env.lower text, o⟩, ?_, rfl, rfl, type, rfl, rfl⟩
  unfold announce
  rw [bound, keyed, said]
  simp [Except.toOption, read, present, offered]

/-- The online state and the documents after an internal availability message. -/
theorem availabilityRows_spec (m : Moment) (r : Redis) (state : JsonText) (boot : JsonTree)
    (bound : String) (w : Work) (v : String) :
    (availabilityRows m r state boot bound w).vehicleId = w.vehicleId ∧
      (availabilityRows m r state boot bound w).vehicle.robot.onlineState = declaredState state ∧
      (availabilityRows m r state boot bound w).operations.filterMap (Redis.written v) =
        w.operations.filterMap (Redis.written v) := by
  unfold availabilityRows
  refine ⟨(acceptBootSession_presence ..).vehicleId, rfl, ?_⟩
  exact acceptBootSession_written v "availability" boot bound _

end

end Firebot.MqttIngress
