import Firebot.MqttIngress.Order
import Firebot.MqttIngress.Totality
import Firebot.MqttIngress.Works

/-!
# What a call does to the business tables

Tasks, commands and fire events are touched by three handlers only: those of an alarm, an acknowledgement and
a report about a task. `Reached` lists what a committed message of a vehicle leaves of them; every other call,
an internal message included, leaves them as they were.
-/

namespace Firebot.MqttIngress

open Firebot.Robots (SourceKind)
open Firebot.Tasks (Database Reported)

section

variable {env : Env} {m : Moment} {r : Redis} {kind : SourceKind} {msg : JsonTree} {source : Time}
  {w w' : Work}

/-! ## The steps of a transaction -/

/-- The boot sessions are no business rows. -/
theorem acceptBootSession_business (type : String) (boot : JsonTree) (bound : String) (w : Work) :
    (w.acceptBootSession m r type boot bound).1.business = w.business := by
  have ended : (w.endCurrent m r boot).business = w.business := by
    unfold Work.endCurrent Work.invalidateOldBootLeases
    split
    · rfl
    · split
      · rfl
      · split
        · rfl
        · dsimp only
          split <;> rfl
  unfold Work.acceptBootSession
  dsimp only
  split
  · unfold Work.touchSession
    split <;> rfl
  · split
    · rfl
    · split
      · rfl
      · unfold Work.establish
        dsimp only
        split <;> exact ended

/-- Adopting a vehicle writes its profile and its assignment. -/
theorem adopt_business (env : Env) (m : Moment) (kind : SourceKind) (w : Work) :
    (adopt env m kind w).business = w.business := by
  unfold adopt
  split
  · dsimp only
    split <;> rfl
  · rfl

/-- The online state is a column of the vehicle. -/
theorem updateOnline_business (state : Robots.OnlineState) (boot reason : JsonTree) (w : Work) :
    (updateOnline m r state boot reason w).business = w.business := by
  unfold updateOnline
  dsimp only
  split <;> rfl

/-- Presence is settled before the handlers, and they find the business rows as they were. -/
theorem presence_business (m : Moment) (r : Redis) (kind : SourceKind) (msg : JsonTree) (source : Time)
    (w : Work) : (presence m r kind msg source w).business = w.business := by
  unfold presence
  dsimp only
  split
  · exact updateOnline_business ..
  · split
    · exact updateOnline_business ..
    · rfl

/-- So does all that precedes the handlers. -/
theorem presented_business (env : Env) (m : Moment) (r : Redis) (kind : SourceKind) (msg : JsonTree)
    (source : Time) (w : Work) : (presented env m r kind msg source w).business = w.business :=
  (presence_business ..).trans (adopt_business ..)

/-! ## The handlers -/

/-- What a message of a robot leaves of the business tables. -/
inductive Reached (env : Env) (m : Moment) (msg : JsonTree) (robotId : String) (db : Database) :
    Database → Prop
  | same : Reached env m msg robotId db db
  | alarm (w : Work) (type : textOf msg "type" = "alarm") (business : w.business = db)
      (id : w.vehicle.id = robotId) : Reached env m msg robotId db (handleAlarm env m msg w).business
  | ack (commandId : String) (type : textOf msg "type" = "command_ack") :
      Reached env m msg robotId db (db.handleAck robotId commandId (ackMessage msg) m.received)
  | report (status : Reported) (type : textOf msg "type" = "task_status")
      (read : reportedOf (textOf msg "status") = .ok status) :
      Reached env m msg robotId db (db.handleTaskStatus robotId (taskStatus msg status) m.received)

/-- An ACK reaches the command it names. -/
theorem handleAck_reached (type : textOf msg "type" = "command_ack") (w : Work) :
    Reached env m msg w.vehicle.id w.business (handleAck env m msg w).business := by
  unfold handleAck
  dsimp only
  split
  · exact .same
  · split
    · exact .same
    · exact .ack _ type

/-- A report reaches the task it names, and the command and the fire through it. -/
theorem handleTaskStatus_reached (type : textOf msg "type" = "task_status")
    (h : handleTaskStatus env m msg w = .ok w') :
    Reached env m msg w.vehicle.id w.business w'.business := by
  unfold handleTaskStatus at h
  dsimp only at h
  split at h
  · cases h
    exact .same
  · split at h
    · cases h
      exact .same
    · obtain ⟨status, read, h⟩ := Except.bind_eq_ok.mp h
      cases h
      exact .report status type read

/-- A report is written into the tables whatever it finds there. -/
theorem handleTaskStatus_business {status : Reported} (h : handleTaskStatus env m msg w = .ok w')
    (read : reportedOf (textOf msg "status") = .ok status) :
    w'.business = w.business.handleTaskStatus w.vehicle.id (taskStatus msg status) m.received := by
  unfold handleTaskStatus at h
  unfold Database.handleTaskStatus
  dsimp only [taskStatus] at h ⊢
  cases found : w.business.tasks.lookup ((plainText (msg.getD "task_id")).getD "") with
  | none =>
    rw [found] at h
    cases h
    rfl
  | some task =>
    rw [found] at h
    dsimp only at h ⊢
    split at h
    next foreign =>
      cases h
      rw [if_pos foreign]
    next own =>
      obtain ⟨status', read', h⟩ := Except.bind_eq_ok.mp h
      cases Except.ok.inj (read.symm.trans read')
      cases h
      unfold Database.handleTaskStatus
      dsimp only [taskStatus]
      rw [found]

/-- An alarm is seen again of an event of its id, or of a recent one like it. -/
theorem alarmFate_again {fireId : String} {fire : Tasks.Fire}
    (fate : alarmFate env m msg w = .again fireId fire) :
    w.business.fires.lookup fireId = some fire ∧
      (fire.robotId = some w.vehicle.id ∧ fire.sourceEventId = plainText (msg.getD "event_id") ∨
        ∃ slotId, (plainText (msg.getD "parking_slot_code")).bind env.slots = some slotId ∧
          fire.fingerprint = env.sha256 (w.vehicle.id ++ ":" ++ slotId ++ ":" ++
            (plainText (msg.getD "fire_type")).getD "")) := by
  unfold alarmFate at fate
  dsimp only at fate
  split at fate
  · cases fate
  · split at fate
    · cases fate
    next slotId known =>
      split at fate
      next rest listed =>
        cases fate
        have mem := listed.symm ▸ List.mem_cons_self (a := (fireId, fire)) (l := rest)
        rcases List.mem_append.mp mem with byEvent | recent
        · obtain ⟨found, same⟩ := Table.mem_select.mp byEvent
          exact ⟨found, .inl (by simpa using same)⟩
        · obtain ⟨found, same⟩ := Table.mem_select.mp recent
          refine ⟨found, .inr ⟨slotId, known, ?_⟩⟩
          simpa using (Bool.and_eq_true_iff.mp same).1
      · cases fate

/-- An alarm leaves the tasks. -/
theorem handleAlarm_tasks (w : Work) : (handleAlarm env m msg w).business.tasks = w.business.tasks := by
  unfold handleAlarm
  split <;> rfl

/-- What an alarm leaves depends on the tables and on the robot. -/
theorem handleAlarm_business {w₁ w₂ : Work} (business : w₁.business = w₂.business)
    (id : w₁.vehicle.id = w₂.vehicle.id) :
    (handleAlarm env m msg w₁).business = (handleAlarm env m msg w₂).business := by
  have fate : alarmFate env m msg w₁ = alarmFate env m msg w₂ := by
    unfold alarmFate
    rw [business, id]
  unfold handleAlarm
  rw [fate]
  split
  · exact business
  · exact business
  · show Database.mk _ _ _ _ _ = Database.mk _ _ _ _ _
    rw [business]
  · show Database.mk _ _ _ _ _ = Database.mk _ _ _ _ _
    rw [business, id]

/-- The handler of a message reaches the business rows by its own type alone. -/
theorem handle_reached (h : handle env m r kind msg source w = .ok w') :
    Reached env m msg w.vehicle.id w.business w'.business := by
  unfold handle at h
  split at h
  · obtain ⟨battery, _, h⟩ := Except.bind_eq_ok.mp h
    cases h
    exact .same
  · cases h
    unfold handleStatus
    dsimp only
    split <;> exact .same
  · cases h
    unfold handleSensor
    dsimp only
    split <;> exact .same
  next type =>
    cases h
    exact .alarm w type rfl rfl
  · cases h
    exact .same
  next type =>
    cases h
    exact handleAck_reached type w
  next type => exact handleTaskStatus_reached type h
  · cases h
    exact .same

end

/-! ## Internal messages -/

section

variable {env : Env} {m : Moment} {r : Redis} {kind : CompatKind} {c : CompatMessage} {w w' : Work}
  {latest latest' : JsonTree}

/-- The messages of the old topics have no business. -/
theorem compatBody_business (h : compatBody env m c r kind latest w = .ok (w', latest')) :
    w'.business = w.business := by
  cases kind with
  | availability =>
    obtain ⟨state, text, boot, bound, _, _, _, _, rfl, _⟩ := compatBody_availability h
    exact acceptBootSession_business ..
  | map =>
    obtain ⟨site, _, h⟩ := Except.bind_eq_ok.mp h
    obtain ⟨code, _, h⟩ := Except.bind_eq_ok.mp h
    obtain ⟨version, _, h⟩ := Except.bind_eq_ok.mp h
    obtain ⟨checksum, _, h⟩ := Except.bind_eq_ok.mp h
    obtain ⟨bound, _, h⟩ := Except.bind_eq_ok.mp h
    cases h
    rfl
  | status =>
    obtain ⟨value, _, h⟩ := Except.bind_eq_ok.mp h
    obtain ⟨mode, _, h⟩ := Except.bind_eq_ok.mp h
    cases h
    rfl
  | battery =>
    obtain ⟨value, _, h⟩ := Except.bind_eq_ok.mp h
    obtain ⟨battery, _, h⟩ := Except.bind_eq_ok.mp h
    cases h
    rfl
  | odom =>
    cases h
    rfl
  | navStatus | navResult =>
    obtain ⟨status, _, h⟩ := Except.bind_eq_ok.mp h
    cases h
    rfl

/-- Stamping a channel leaves them. -/
theorem channel_business (name : String) (f : Channel → Channel) (w : Work) :
    (w.channel name f).business = w.business := rfl

/-- Stamping several leaves them. -/
theorem channels_business (names : List String) (f : Channel → Channel) (w : Work) :
    (names.foldl (fun w name => w.channel name f) w).business = w.business := by
  induction names generalizing w with
  | nil => rfl
  | cons name names ih => exact (ih (w.channel name f)).trans (channel_business name f w)

/-- Queueing a write to the store leaves them. -/
theorem queue_business (operation : Operation) (w : Work) :
    (w.queue operation).business = w.business := rfl

/-- Queueing an event leaves them. -/
theorem queueEvent_business (type : String) (payload : JsonTree) (w : Work) :
    (w.queueEvent type payload).business = w.business := rfl

/-- The channels of an old topic leave them. -/
theorem compatChannels_business (m : Moment) (c : CompatMessage) (kind : CompatKind) (w : Work) :
    (compatChannels m c kind w).business = w.business := by
  unfold compatChannels
  dsimp only
  rw [channels_business, channels_business, channel_business]

/-- The whole work on a message of the old topics. -/
theorem compatWork_business (h : compatWork env m c r kind w = .ok w') : w'.business = w.business := by
  unfold compatWork at h
  obtain ⟨key, _, h⟩ := Except.bind_eq_ok.mp h
  obtain ⟨⟨w₁, latest⟩, body, h⟩ := Except.bind_eq_ok.mp h
  have rows : (compatRows env m c kind w).business = w.business := rfl
  have before := (compatBody_business body).trans rows
  have same := Except.ok.inj h
  rw [← same, queueEvent_business, compatChannels_business, queue_business, before]

end

/-! ## A call -/

section

variable {env : Env} {s : State} {c : Call}

section

variable {m : Moment} {topic : Topic} {payload : Payload} {msg : JsonTree} {vehicle : Vehicle}
  {source : Time} {w₀ w : Work}

/-- The handler of a committed message starts from the business tables of the state. -/
theorem Committed.handled (call : Committed env m topic payload s msg vehicle source w₀ w) :
    ∃ w₁, handle env m (s.redis.reserve msg) (sourceKind topic) msg source w₁ = .ok w ∧
      w₁.business = s.business ∧ w₁.vehicle.id = vehicle.id := by
  have begun : w₀ = ((s.begin (textOf msg "vehicle_id") vehicle).acceptBootSession m
      (s.redis.reserve msg) (textOf msg "type") (msg.getD "boot_id") (textOf msg "boot_id")).1 := by
    rw [call.accepted]
  refine ⟨presented env m (s.redis.reserve msg) (sourceKind topic) msg source w₀, call.worked, ?_, ?_⟩
  · rw [presented_business, begun]
    exact acceptBootSession_business ..
  · rw [(presented_boot ..).id, begun]
    exact (acceptBootSession_presence ..).id

/-- What a committed message leaves of the business tables. -/
theorem Committed.reached (call : Committed env m topic payload s msg vehicle source w₀ w) :
    Reached env m msg vehicle.id s.business w.business := by
  obtain ⟨w₁, handled, business, id⟩ := call.handled
  have reached := handle_reached handled
  rwa [business, id] at reached

/-- What a committed report leaves. -/
theorem Committed.report {status : Reported}
    (call : Committed env m topic payload s msg vehicle source w₀ w)
    (type : textOf msg "type" = "task_status") (read : reportedOf (textOf msg "status") = .ok status) :
    w.business = s.business.handleTaskStatus vehicle.id (taskStatus msg status) m.received := by
  obtain ⟨w₁, handled, business, id⟩ := call.handled
  unfold handle at handled
  rw [type] at handled
  rw [← business, ← id]
  exact handleTaskStatus_business handled read

/-- What a committed alarm leaves. -/
theorem Committed.alarm (call : Committed env m topic payload s msg vehicle source w₀ w)
    (type : textOf msg "type" = "alarm") :
    w.business = (handleAlarm env m msg (s.begin (textOf msg "vehicle_id") vehicle)).business := by
  obtain ⟨w₁, handled, business, id⟩ := call.handled
  unfold handle at handled
  rw [type] at handled
  cases handled
  exact handleAlarm_business business id

/-- A committed message ends the call with its work; a command, which has no boot id, is not one. -/
theorem Committed.process (call : Committed env m topic payload s msg vehicle source w₀ w)
    (type : textOf msg "type" ≠ "command") :
    process env m topic payload s =
      (((s.marks fun r => r.reserve msg).commit w).marks fun r => r.settle msg .handled, .handled) := by
  have transacted : transact env m (sourceKind topic) msg source (s.marks fun r => r.reserve msg) =
      ((s.marks fun r => r.reserve msg).commit w, .handled) := by
    unfold transact
    rw [show (s.marks fun r => r.reserve msg).vehicles.lookup (textOf msg "vehicle_id") = some vehicle
      from call.found]
    dsimp only
    rw [show ((s.marks fun r => r.reserve msg).begin (textOf msg "vehicle_id") vehicle).acceptBootSession m
      (s.marks fun r => r.reserve msg).redis (textOf msg "type") (msg.getD "boot_id") (textOf msg "boot_id") =
        (w₀, true) from call.accepted]
    dsimp only
    rw [show messageWork env m (s.marks fun r => r.reserve msg).redis (sourceKind topic) msg source w₀ =
      .ok w from call.worked]
    dsimp only
    rw [if_pos call.commits]
  have reserved : processReserved env m topic msg (s.marks fun r => r.reserve msg) =
      (((s.marks fun r => r.reserve msg).commit w).marks fun r => r.settle msg .handled, .handled) := by
    obtain ⟨version, valid⟩ := (inspect_message call.read).2
    have boot : ¬ (msg.get "boot_id").isNone = true :=
      fun absent => type ((boot_id_isNone valid).mp absent)
    unfold processReserved
    rw [if_neg boot, show (s.marks fun r => r.reserve msg).redis.late msg = .ok false from call.inOrder]
    dsimp only
    rw [call.parsed]
    dsimp only
    rw [transacted]
  unfold Firebot.MqttIngress.process
  rw [if_neg (not_lt.mpr call.fits), call.route]
  dsimp only
  rw [call.read]
  dsimp only
  unfold processMessage
  rw [if_neg (not_not.mpr call.typed), call.allowed, call.new]
  exact reserved

end

/-- A call that commits a message ends with its work. -/
theorem Committed.deliver_business {msg : JsonTree} {vehicle : Vehicle} {source : Time} {w₀ w : Work}
    (call : Committed env c.moment c.topic c.payload s msg vehicle source w₀ w)
    (type : textOf msg "type" ≠ "command") : (deliver env s c).business = w.business := by
  unfold deliver
  rw [call.process type]
  rfl

/-- What a call commits is a committed message. -/
theorem committed_of_committedBy {msg : JsonTree} (commits : committedBy env s c = some msg) :
    ∃ vehicle source w₀ w, Committed env c.moment c.topic c.payload s msg vehicle source w₀ w := by
  unfold committedBy outcome at commits
  split at commits
  next msg' route read =>
    have ends := processed env c.moment c.topic c.payload s
    generalize process env c.moment c.topic c.payload s = result at commits ends
    cases ends with
    | quiet _ unhandled =>
      unfold Outcome.commits at commits
      split at commits
      next handled => exact absurd handled unhandled
      · cases commits
    | ordinary call =>
      cases Inspection.message.inj (Except.ok.inj (call.read.symm.trans read))
      cases commits
      exact ⟨_, _, _, _, call⟩
    | fast _ fast => cases route.symm.trans fast
    | compat call => cases route.symm.trans call.route
  · cases commits

/-- A call leaves the business tables, or commits a message of a vehicle. -/
theorem deliver_business (env : Env) (s : State) (c : Call) :
    (deliver env s c).business = s.business ∨
      ∃ msg vehicle source w₀ w,
        Committed env c.moment c.topic c.payload s msg vehicle source w₀ w ∧
          (deliver env s c).business = w.business := by
  have ends := processed env c.moment c.topic c.payload s
  unfold deliver
  generalize process env c.moment c.topic c.payload s = result at ends
  cases ends with
  | quiet facts _ => exact .inl facts.business
  | ordinary call => exact .inr ⟨_, _, _, _, _, call, rfl⟩
  | fast _ _ _ path =>
    obtain ⟨_, _, _⟩ := path
    exact .inl rfl
  | compat call =>
    refine .inl ((compatWork_business call.worked).trans ?_)
    rcases call.start with ⟨_, same⟩ | ⟨_, path⟩
    · rw [same]
      rfl
    · obtain ⟨_, _, _⟩ := path
      rfl

end

end Firebot.MqttIngress
