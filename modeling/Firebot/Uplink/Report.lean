import Firebot.Bridge.Protocol
import Firebot.MqttIngress.Process

/-!
# The reports of the Bridge, and what the ingress takes of them

A report is a `command_ack` or a `task_status`: the header that `Protocol.base` makes, and the fields that
`_ack` or `_report_task` adds. Some of these come from the command or from a feedback of ROS as they are, and
nothing on the vehicle checks them.

`process` looks at a message before it compares any number: it refuses one that is too long, nested too
deeply or a video, and one that its schema does not allow. **A report is taken exactly if its fields are
what the schema asks for** (`accepts_iff`); a reason code, for one, has to be one of a list. Nothing is said of
how a message is written as a text: the length of that text is given (`Wire.length`).
-/

namespace Firebot.Uplink

open Bridge Protocol JsonSchema

/-! ## Reports -/

/-- The fields that `_ack` and `_report_task` add. -/
inductive Body where
  | commandAck (commandId taskId : JsonTree) (status : AckStatus) (reasonCode : JsonTree)
  | taskStatus (taskId : JsonTree) (status : ReportStatus) (phase progress failureCode failureMessage : JsonTree)
  deriving DecidableEq

/-- A report, whose header is of the body's type. -/
structure Report extends Header where
  body : Body
  deriving DecidableEq

/-- The type of the message that has these fields. -/
def Body.type : Body → MsgType
  | .commandAck .. => .commandAck
  | .taskStatus .. => .taskStatus

/-- The text of a type. -/
def typeText : MsgType → String
  | .commandAck => "command_ack"
  | .taskStatus => "task_status"

/-- The text of an ACK's status. -/
def ackText : AckStatus → String
  | .accepted => "accepted"
  | .rejected => "rejected"

/-- The text of a task's status. -/
def statusText : ReportStatus → String
  | .accepted => "accepted"
  | .executing => "executing"
  | .completed => "completed"
  | .failed => "failed"
  | .cancelled => "cancelled"

/-- The fields as they are sent. -/
def Body.fields : Body → List (JsonText × JsonTree)
  | .commandAck commandId taskId status reasonCode =>
    [("command_id", commandId), ("task_id", taskId), ("status", .str (ackText status)),
      ("reason_code", reasonCode), ("reason", .null)]
  | .taskStatus taskId status phase progress failureCode failureMessage =>
    [("task_id", taskId), ("status", .str (statusText status)), ("phase", phase), ("progress", progress),
      ("failure_code", failureCode), ("failure_message", failureMessage)]

/-! ## On the way -/

/-- What the two ends make of a message: the texts of a UUID that was drawn and of a time, the checker of the
format `uuid`, the length of the payload of a message, and the ingress's settings. -/
structure Wire where
  uuidText : Nat → String
  isoUtc : Time → String
  isUuid : JsonText → Bool
  length : JsonTree → Nat
  maxMqttPayloadBytes : Nat
  maxJsonDepth : Nat
  mqttRateLimitPerSecond : Nat
  /-- `UUID()` reads what `str(uuid4())` writes. -/
  drawn_uuid : ∀ n, isUuid (uuidText n) = true
  depth_pos : 0 < maxJsonDepth

namespace Wire

variable (w : Wire)

/-- The fields that `Protocol.base` makes. -/
def base (r : Report) : List (JsonText × JsonTree) :=
  [("schema_version", .str "1.3"), ("message_id", .str (w.uuidText r.messageId)),
    ("type", .str (typeText r.body.type)), ("vehicle_id", .str r.vehicleId), ("boot_id", .str r.bootId),
    ("timestamp", .str (w.isoUtc r.timestamp)), ("seq", .int r.seq)]

/-- The message of a report; no field is both in the header and in the body. -/
def message (r : Report) : JsonTree := .obj (w.base r ++ r.body.fields)

/-- `process` up to the rate limit, on the topic of the message's type. -/
def accepts (r : Report) : Bool :=
  w.length (w.message r) ≤ w.maxMqttPayloadBytes && (w.message r).depth 0 ≤ w.maxJsonDepth &&
    !MqttIngress.containsVideo (w.message r) && (messageSchema w.isUuid .v13).valid (w.message r)

end Wire

/-! ## What the schema asks for -/

/-- A text that is not empty. -/
def named : JsonTree → Bool
  | .str s => 0 < s.length
  | _ => false

/-- A text, or none. -/
def textOrNull : JsonTree → Bool
  | .str _ | .null => true
  | _ => false

/-- A percentage; NaN passes every comparison of the validator. -/
def percentage : JsonTree → Bool
  | .int n => 0 ≤ n && n ≤ 100
  | .real q => 0 ≤ q && q ≤ 100
  | .nan => true
  | _ => false

/-- A reason code of the list, or none. -/
def listedReason (value : JsonTree) : Bool := value.isNull || (reasonCodes .v13).any value.isText

/-- The fields are as the schema asks for. -/
def Body.fits : Body → Bool
  | .commandAck commandId taskId _ reasonCode => named commandId && textOrNull taskId && listedReason reasonCode
  | .taskStatus taskId _ phase progress failureCode failureMessage =>
    named taskId && named phase && percentage progress && textOrNull failureCode && textOrNull failureMessage

/-- A report that can be sent: of a vehicle and a boot session with proper ids, with fields as the schema asks
for, of which none is a video, and not too long. -/
structure Report.Sendable (w : Wire) (r : Report) : Prop where
  vehicle : vehicleIdPattern r.vehicleId = true
  boot : w.isUuid r.bootId = true
  fits : r.body.fits = true
  still : MqttIngress.containsVideo (w.message r) = false
  short : w.length (w.message r) ≤ w.maxMqttPayloadBytes

instance (w : Wire) (r : Report) : Decidable (r.Sendable w) :=
  decidable_of_iff (vehicleIdPattern r.vehicleId = true ∧ w.isUuid r.bootId = true ∧ r.body.fits = true ∧
      MqttIngress.containsVideo (w.message r) = false ∧ w.length (w.message r) ≤ w.maxMqttPayloadBytes)
    ⟨fun ⟨vehicle, boot, fits, still, short⟩ => ⟨vehicle, boot, fits, still, short⟩,
      fun h => ⟨h.vehicle, h.boot, h.fits, h.still, h.short⟩⟩

/-- The schema of an id takes the texts that are not empty. -/
theorem valid_named {t : JsonTree} : nonEmpty.valid t = true ↔ named t = true := by
  cases t <;> simp [nonEmpty, valid, validAll, JsonKind.holds, ofText, named, Nat.one_le_iff_ne_zero,
    Nat.pos_iff_ne_zero]

/-- A text that may be null. -/
theorem valid_textOrNull {t : JsonTree} : nullableText.valid t = true ↔ textOrNull t = true := by
  cases t <;> simp [nullableText, valid, JsonKind.holds, textOrNull]

/-- A progress takes the numbers from 0 to 100. -/
theorem valid_percentage {t : JsonTree} : (between 0 100).valid t = true ↔ percentage t = true := by
  cases t with
  | int n =>
    simp only [between, valid, validAll, JsonKind.holds, notBelow, notAbove, percentage, List.any_cons, List.any_nil,
      Bool.or_false, Bool.and_true, Bool.true_and, Bool.and_eq_true, decide_eq_true_eq]
    norm_cast
  | _ => simp [between, valid, validAll, JsonKind.holds, notBelow, notAbove, percentage]

variable {w : Wire} {r : Report}

/-- The schema of the report's type is the one that counts. -/
theorem valid_message_iff : (messageSchema w.isUuid .v13).valid (w.message r) = true ↔
    (match r.body.type with
      | .commandAck => commandAck w.isUuid .v13
      | .taskStatus => taskStatus w.isUuid .v13).valid (w.message r) = true := by
  have tag : (w.message r).get "type" = some (.str (typeText r.body.type)) := rfl
  cases type : r.body.type with
  | commandAck =>
    rw [type] at tag
    have listed : ("command_ack", commandAck w.isUuid .v13) ∈ alternatives w.isUuid .v13 := by simp [alternatives]
    exact ⟨fun valid => valid_alternative valid listed tag, valid_of_alternative listed⟩
  | taskStatus =>
    rw [type] at tag
    have listed : ("task_status", taskStatus w.isUuid .v13) ∈ alternatives w.isUuid .v13 := by simp [alternatives]
    exact ⟨fun valid => valid_alternative valid listed tag, valid_of_alternative listed⟩

/-- What the schema asks for of a header. -/
theorem valid_vehicleBase : (vehicleBase w.isUuid .v13).valid (w.message r) = true ↔
    vehicleIdPattern r.vehicleId = true ∧ w.isUuid r.bootId = true := by
  have version : (w.message r).get "schema_version" = some (.str "1.3") := rfl
  have id : (w.message r).get "message_id" = some (.str (w.uuidText r.messageId)) := rfl
  have type : (w.message r).get "type" = some (.str (typeText r.body.type)) := rfl
  have vehicle : (w.message r).get "vehicle_id" = some (.str r.vehicleId) := rfl
  have boot : (w.message r).get "boot_id" = some (.str r.bootId) := rfl
  have time : (w.message r).get "timestamp" = some (.str (w.isoUtc r.timestamp)) := rfl
  have seq : (w.message r).get "seq" = some (.int r.seq) := rfl
  have object : (w.message r).isObject = true := rfl
  simp only [vehicleBase, valid_object, object, List.mem_cons, List.not_mem_nil, or_false, forall_eq_or_imp, forall_eq,
    version, id, type, vehicle, boot, time, seq, Option.isSome_some, Option.some.injEq, forall_eq']
  have counted : notBelow 0 (.int r.seq) = true := by
    simp only [notBelow, decide_eq_true_eq]
    exact_mod_cast Int.natCast_nonneg r.seq
  simp [valid, validAll, JsonTree.isText, JsonTree.asText, SchemaVersion.text, uuidText, text, dateTime, natural,
    JsonKind.holds, ofText, w.drawn_uuid, counted]

/-- A message of a vehicle has the fields of every message, and its own. -/
theorem valid_vehicleMessage {t : JsonTree} {type : String} {names : List String}
    {properties : List (String × JsonSchema)} :
    (vehicleMessage w.isUuid .v13 type names properties []).valid t = true ↔
      (vehicleBase w.isUuid .v13).valid t = true ∧
        (JsonSchema.object names (("type", const type) :: properties)).valid t = true := by
  simp only [vehicleMessage, valid_allOf, List.mem_cons, List.not_mem_nil, or_false, forall_eq_or_imp, forall_eq]

/-- A reason code takes the codes of the list, and null. -/
theorem valid_listedReason {t : JsonTree} :
    (allOf [kinds [.string, .null], enum true (reasonCodes .v13)]).valid t = true ↔ listedReason t = true := by
  cases t <;> simp [valid, validAll, JsonKind.holds, listedReason, JsonTree.isNull, JsonTree.isText, JsonTree.asText]

/-- What it asks for of an ACK. -/
theorem valid_commandAck {header : Header} {commandId taskId reasonCode : JsonTree} {status : AckStatus} {t : JsonTree}
    (is : t = w.message ⟨header, .commandAck commandId taskId status reasonCode⟩) :
    (commandAck w.isUuid .v13).valid t = true ↔ (vehicleBase w.isUuid .v13).valid t = true ∧
      (Body.commandAck commandId taskId status reasonCode).fits = true := by
  have object : t.isObject = true := by rw [is]; rfl
  have type : t.get "type" = some (.str "command_ack") := by rw [is]; rfl
  have command : t.get "command_id" = some commandId := by rw [is]; rfl
  have task : t.get "task_id" = some taskId := by rw [is]; rfl
  have state : t.get "status" = some (.str (ackText status)) := by rw [is]; rfl
  have code : t.get "reason_code" = some reasonCode := by rw [is]; rfl
  have reason : t.get "reason" = some .null := by rw [is]; rfl
  have typed : (const "command_ack").valid (.str "command_ack") = true := valid_const.mpr rfl
  have known : (enum false ["accepted", "rejected", "unsupported"]).valid (.str (ackText status)) = true := by
    cases status <;> simp [valid, ackText, JsonTree.isText, JsonTree.asText]
  have none_given : textOrNull .null = true := rfl
  unfold commandAck
  rw [valid_vehicleMessage]
  simp only [valid_object, object, List.mem_cons, List.not_mem_nil, or_false, forall_eq_or_imp, forall_eq, type,
    command, task, state, code, reason, Option.isSome_some, Option.some.injEq, forall_eq', valid_named,
    valid_textOrNull, valid_listedReason, typed, known, none_given, true_and, and_true, Body.fits, Bool.and_eq_true,
    and_assoc]

/-- What it asks for of a task status. -/
theorem valid_taskStatus {header : Header} {taskId phase progress failureCode failureMessage : JsonTree}
    {status : ReportStatus} {t : JsonTree}
    (is : t = w.message ⟨header, .taskStatus taskId status phase progress failureCode failureMessage⟩) :
    (taskStatus w.isUuid .v13).valid t = true ↔ (vehicleBase w.isUuid .v13).valid t = true ∧
      (Body.taskStatus taskId status phase progress failureCode failureMessage).fits = true := by
  have object : t.isObject = true := by rw [is]; rfl
  have type : t.get "type" = some (.str "task_status") := by rw [is]; rfl
  have task : t.get "task_id" = some taskId := by rw [is]; rfl
  have state : t.get "status" = some (.str (statusText status)) := by rw [is]; rfl
  have at_phase : t.get "phase" = some phase := by rw [is]; rfl
  have so_far : t.get "progress" = some progress := by rw [is]; rfl
  have code : t.get "failure_code" = some failureCode := by rw [is]; rfl
  have words : t.get "failure_message" = some failureMessage := by rw [is]; rfl
  have typed : (const "task_status").valid (.str "task_status") = true := valid_const.mpr rfl
  have known : (enum false ["accepted", "executing", "completed", "failed", "cancelled"]).valid
      (.str (statusText status)) = true := by
    cases status <;> simp [valid, statusText, JsonTree.isText, JsonTree.asText]
  -- the progress fields of version 1.3 are never sent
  have absent : ∀ name ∈ ["checkpoint_index", "checkpoint_total", "current_slot_code", "next_slot_code",
      "waypoint_index", "waypoint_total", "target_waypoint_index", "last_completed_waypoint_index"],
      t.get (.chars name) = none := by
    rw [is]
    simp only [List.mem_cons, List.not_mem_nil, or_false, forall_eq_or_imp, forall_eq]
    exact ⟨rfl, rfl, rfl, rfl, rfl, rfl, rfl, rfl⟩
  simp only [List.mem_cons, List.not_mem_nil, or_false, forall_eq_or_imp, forall_eq] at absent
  unfold taskStatus
  rw [valid_vehicleMessage]
  simp only [valid_object, object, List.cons_append, List.nil_append, List.mem_cons, List.not_mem_nil, or_false,
    forall_eq_or_imp, forall_eq, type, task, state, at_phase, so_far, code, words, absent, Option.isSome_some,
    Option.some.injEq, forall_eq', reduceCtorEq, IsEmpty.forall_iff, implies_true, valid_named, valid_textOrNull,
    valid_percentage, typed, known, true_and, and_true, Body.fits, Bool.and_eq_true, and_assoc]

/-- **The schema allows a report exactly if its ids are proper and its fields fit.** -/
theorem valid_iff : (messageSchema w.isUuid .v13).valid (w.message r) = true ↔
    vehicleIdPattern r.vehicleId = true ∧ w.isUuid r.bootId = true ∧ r.body.fits = true := by
  rw [valid_message_iff, ← and_assoc, ← valid_vehicleBase]
  obtain ⟨header, body⟩ := r
  cases body with
  | commandAck => exact valid_commandAck rfl
  | taskStatus => exact valid_taskStatus rfl

/-- A text is no deeper than where it stands. -/
theorem depth_of_named {t : JsonTree} (h : named t = true) (d : Nat) : t.depth d = d := by
  cases t with
  | str => rfl
  | _ => cases h

/-- A text that may be null is no deeper. -/
theorem depth_of_textOrNull {t : JsonTree} (h : textOrNull t = true) (d : Nat) : t.depth d = d := by
  cases t with
  | str | null => rfl
  | _ => cases h

/-- A number is no deeper. -/
theorem depth_of_percentage {t : JsonTree} (h : percentage t = true) (d : Nat) : t.depth d = d := by
  cases t with
  | int | real | nan => rfl
  | _ => cases h

/-- A reason code is no deeper. -/
theorem depth_of_listedReason {t : JsonTree} (h : listedReason t = true) (d : Nat) : t.depth d = d := by
  cases t with
  | arr | obj => simp [listedReason, JsonTree.isNull, JsonTree.isText, JsonTree.asText] at h
  | _ => rfl

/-- No field of a message that fits is a container. -/
theorem depth_message (fits : r.body.fits = true) : (w.message r).depth 0 ≤ 1 := by
  refine JsonTree.depthFields_le (Nat.zero_le 1) ?_
  intro field mem
  refine Nat.le_of_eq ?_
  rcases List.mem_append.mp mem with header | own
  · simp only [Wire.base, List.mem_cons, List.not_mem_nil, or_false] at header
    rcases header with rfl | rfl | rfl | rfl | rfl | rfl | rfl <;> rfl
  · obtain ⟨_, body⟩ := r
    cases body with
    | commandAck =>
      simp only [Body.fits, Bool.and_eq_true] at fits
      obtain ⟨⟨command, task⟩, reason⟩ := fits
      simp only [Body.fields, List.mem_cons, List.not_mem_nil, or_false] at own
      rcases own with rfl | rfl | rfl | rfl | rfl
      · exact depth_of_named command 1
      · exact depth_of_textOrNull task 1
      · rfl
      · exact depth_of_listedReason reason 1
      · rfl
    | taskStatus =>
      simp only [Body.fits, Bool.and_eq_true] at fits
      obtain ⟨⟨⟨⟨task, phase⟩, progress⟩, code⟩, message⟩ := fits
      simp only [Body.fields, List.mem_cons, List.not_mem_nil, or_false] at own
      rcases own with rfl | rfl | rfl | rfl | rfl | rfl
      · exact depth_of_named task 1
      · rfl
      · exact depth_of_named phase 1
      · exact depth_of_percentage progress 1
      · exact depth_of_textOrNull code 1
      · exact depth_of_textOrNull message 1

/-- **The ingress takes a report exactly if it can be sent.** -/
theorem accepts_iff : w.accepts r = true ↔ r.Sendable w := by
  unfold Wire.accepts
  simp only [Bool.and_eq_true, decide_eq_true_eq, Bool.not_eq_true', valid_iff]
  constructor
  · rintro ⟨⟨⟨short, _⟩, still⟩, vehicle, boot, fits⟩
    exact ⟨vehicle, boot, fits, still, short⟩
  · intro h
    refine ⟨⟨⟨h.short, ?_⟩, h.still⟩, h.vehicle, h.boot, h.fits⟩
    exact (depth_message h.fits).trans w.depth_pos

end Firebot.Uplink
