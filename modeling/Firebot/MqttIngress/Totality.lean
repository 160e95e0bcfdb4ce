import Firebot.MqttIngress.Laws

/-!
# When `process` returns

`process` runs in the callback of the MQTT client's network loop. A call is in order (`InOrder`) when it
raises nothing, leaves the database and the documents of latest values alone if it rejects its message, and
leaves no id reserved.

What can go wrong lies outside the two `try` blocks: a payload that is no object, an exception of parsing that
is not caught, a last number that was stored as a float, a time stamp that cannot be read, a command on the
topic of its type, and everything that is raised about an internal message once it has been parsed. `Survives`
says that none of it happens. **A call is in order exactly if it survives** (`inOrder_iff`). Nothing is said of
the client's loop after an exception.
-/

namespace Firebot.MqttIngress

/-- What a call should leave: no exception, nothing of a message that it rejects, no id that stays reserved. -/
structure InOrder (s s' : State) (o : Outcome) : Prop where
  returns : ∀ e, o ≠ .escaped e
  vehicles : o.rejects = true → s'.vehicles = s.vehicles
  control : o.rejects = true → s'.control = s.control
  business : o.rejects = true → s'.business = s.business
  latest : o.rejects = true → s'.redis.latest = s.redis.latest
  pending : ∀ id, s'.redis.pending id = true → s.redis.pending id = true

/-! ## The condition -/

/-- A field is there and meets a condition. -/
def Has (msg : JsonTree) (name : String) (P : JsonTree → Prop) : Prop :=
  ∃ value, msg.get name = some value ∧ P value

section

variable (env : Env) (m : Moment)

/-- Parsing an internal message raises nothing but what is caught. -/
def CompatLegible (payload : Payload) : Prop :=
  (env.loads payload).RaisesOnly Raised.rejectsCompat ∧
    ∀ msg, env.loads payload = .ok msg →
      msg.isObject = true ∧
        ((msg.getD "internal_contract").isText "ros-compat-v1" = true →
          (msg.get "vehicle_id").isSome = true →
            ∀ value, msg.get "timestamp" = some value →
              (env.parseTime value).RaisesOnly Raised.rejectsCompat)

/-- The fields that an internal message of a kind has to have. -/
def CompatFields (msg : JsonTree) : CompatKind → Prop
  | .availability =>
    Has msg "state" (fun value => (env.text value).Passes) ∧
      Has msg "bridge_boot_id" (fun value => ∃ bound, env.bind value = .ok (some bound))
  | .map =>
    (msg.get "site_code").isSome ∧ Has msg "map_code" (fun value => (env.bind value).Passes) ∧
      (msg.get "map_version").isSome ∧ (msg.get "map_checksum").isSome
  | .status => Has msg "mode" fun value => (env.text value).Passes
  | .battery => Has msg "battery" fun value => (env.float value).Passes
  | .odom => True
  | .navStatus | .navResult => (env.text ((msg.get "status").getD (.str "UNKNOWN"))).Passes

/-- The robot that a vehicle id names is known. -/
def Known (s : State) (vehicleId : Option String) : Prop :=
  ∃ v, vehicleId = some v ∧ (s.vehicles.lookup v).isSome = true

/-- The transaction about an internal message raises nothing. -/
def CompatSurvives (kind : CompatKind) (c : CompatMessage) (s : State) : Prop :=
  ∃ vehicleId, env.bind c.vehicleId = .ok vehicleId ∧
    (Known s vehicleId →
      (latestKey env c.vehicleId).Passes ∧ CompatFields env c.msg kind ∧ m.commits = true)

/-- Odometry can be written, and is about a robot that is known or changes nothing. -/
def OdomSurvives (c : CompatMessage) (s : State) : Prop :=
  ∃ key latest, latestKey env c.vehicleId = .ok key ∧
    writable env (odomLatest env m c s.redis key) = .ok latest ∧
    (m.wsGate = true → (odomLatest env m c s.redis key).depth 1 ≤ env.encoderStack) ∧
    (m.metadataGate = true → ∃ vehicleId, env.bind c.vehicleId = .ok vehicleId ∧
      (Known s vehicleId → m.commits = true) ∧
      (¬ Known s vehicleId → s.redis.latest key = some latest))

/-- Parsing and validating a message raises nothing but what is caught. -/
def Legible (payload : Payload) : Prop :=
  (env.loads payload).RaisesOnly Raised.rejects ∧
    ∀ msg, env.loads payload = .ok msg →
      msg.depth 0 ≤ env.stack ∧
        (msg.depth 0 ≤ env.settings.maxJsonDepth → containsVideo msg = false →
          msg.isObject = true ∧ (claimedVersion env msg).RaisesOnly Raised.rejects)

/-- A message that gets past the marks is no command, is compared with an integer, and has a time stamp that
can be read. -/
def Comparable (topic : Topic) (msg : JsonTree) (s : State) : Prop :=
  textOf msg "type" = lastLevel topic → m.rateAllowed = true → s.redis.seen msg = false →
    textOf msg "type" ≠ "command" ∧
      (textOf msg "type" ≠ "availability" → ∀ last, s.redis.lastSeq (seqKey msg) = some last →
        ∃ n, last = .int n) ∧
      (s.redis.late msg = .ok false → (env.parseTime (msg.getD "timestamp")).Passes)

/-- Nothing escapes the call, and it leaves nothing behind. -/
def Survives (topic : Topic) (payload : Payload) (s : State) : Prop :=
  payload.length ≤ env.settings.maxMqttPayloadBytes →
    match compatKind topic with
    | some kind =>
      CompatLegible env payload ∧ ∀ c, readCompat env payload = .ok c →
        if kind = .odom then OdomSurvives env m c s else CompatSurvives env m kind c s
    | none =>
      Legible env payload ∧ ∀ msg, inspect env payload = .ok (.message msg) →
        Comparable env m topic msg s

end

/-! ## Parsing -/

section

variable {env : Env} {m : Moment}

theorem field_eq_ok {msg : JsonTree} {name : String} {value : JsonTree} :
    Env.field msg name = .ok value ↔ msg.get name = some value := by
  unfold Env.field
  cases msg.get name <;> simp

/-- A required field and what is done with it pass exactly if the field is there and that does. -/
theorem field_bind_passes {α : Type} {msg : JsonTree} {name : String}
    {f : JsonTree → Except Raised α} :
    (Env.field msg name >>= f).Passes ↔ Has msg name fun value => (f value).Passes := by
  simp only [Except.passes_bind, field_eq_ok, Has]

/-- A step whose continuation always passes. -/
theorem bind_passes_of {α β : Type} {x : Except Raised α} {f : α → Except Raised β}
    (always : ∀ a, (f a).Passes) : (x >>= f).Passes ↔ x.Passes := by
  rw [Except.passes_bind]
  constructor
  · rintro ⟨a, same, _⟩
    exact ⟨a, same⟩
  · rintro ⟨a, same⟩
    exact ⟨a, same, always a⟩

/-- What is done to the rows passes exactly if the message has the fields of its kind. -/
theorem compatBody_passes {c : CompatMessage} {r : Redis} {kind : CompatKind} {latest : JsonTree}
    {w : Work} : (compatBody env m c r kind latest w).Passes ↔ CompatFields env c.msg kind := by
  cases kind with
  | availability =>
    show (compatAvailability env m c r latest w).Passes ↔ _
    unfold compatAvailability CompatFields
    constructor
    · intro passes
      obtain ⟨state, found, rest⟩ := field_bind_passes.mp passes
      obtain ⟨text, read, rest⟩ := Except.passes_bind.mp rest
      obtain ⟨boot, present, rest⟩ := field_bind_passes.mp rest
      obtain ⟨bound, bind, rest⟩ := Except.passes_bind.mp rest
      cases bound with
      | none => exact absurd rest (Except.not_passes_error _)
      | some b => exact ⟨⟨state, found, text, read⟩, boot, present, b, bind⟩
    · rintro ⟨⟨state, found, text, read⟩, boot, present, b, bind⟩
      refine field_bind_passes.mpr ⟨state, found, Except.passes_bind.mpr ⟨text, read, ?_⟩⟩
      refine field_bind_passes.mpr ⟨boot, present, Except.passes_bind.mpr ⟨some b, bind, ?_⟩⟩
      exact ⟨_, rfl⟩
  | map =>
    show (compatMap env c latest w).Passes ↔ _
    unfold compatMap CompatFields
    constructor
    · intro passes
      obtain ⟨site, hs, rest⟩ := field_bind_passes.mp passes
      obtain ⟨code, hc, rest⟩ := field_bind_passes.mp rest
      obtain ⟨version, hv, rest⟩ := field_bind_passes.mp rest
      obtain ⟨checksum, hk, rest⟩ := field_bind_passes.mp rest
      obtain ⟨bound, bind, _⟩ := Except.passes_bind.mp rest
      exact ⟨by simp [hs], ⟨code, hc, bound, bind⟩, by simp [hv], by simp [hk]⟩
    · rintro ⟨hs, ⟨code, hc, bound, bind⟩, hv, hk⟩
      obtain ⟨site, hs⟩ := Option.isSome_iff_exists.mp hs
      obtain ⟨version, hv⟩ := Option.isSome_iff_exists.mp hv
      obtain ⟨checksum, hk⟩ := Option.isSome_iff_exists.mp hk
      refine field_bind_passes.mpr ⟨site, hs, field_bind_passes.mpr ⟨code, hc, ?_⟩⟩
      refine field_bind_passes.mpr ⟨version, hv, field_bind_passes.mpr ⟨checksum, hk, ?_⟩⟩
      exact Except.passes_bind.mpr ⟨bound, bind, _, rfl⟩
  | status =>
    show (compatStatus env c latest w).Passes ↔ _
    unfold compatStatus CompatFields
    rw [field_bind_passes]
    exact exists_congr fun value => and_congr_right fun _ => bind_passes_of fun mode => ⟨_, rfl⟩
  | battery =>
    show (compatBattery env c latest w).Passes ↔ _
    unfold compatBattery CompatFields
    rw [field_bind_passes]
    exact exists_congr fun value => and_congr_right fun _ => bind_passes_of fun x => ⟨_, rfl⟩
  | odom => exact ⟨fun _ => trivial, fun _ => ⟨_, rfl⟩⟩
  | navStatus => exact bind_passes_of fun status => ⟨_, rfl⟩
  | navResult => exact bind_passes_of fun status => ⟨_, rfl⟩

/-- The transaction about a known robot passes exactly if the document has a key and the message its
fields. -/
theorem compatWork_passes {c : CompatMessage} {r : Redis} {kind : CompatKind} {w : Work} :
    (compatWork env m c r kind w).Passes ↔
      (latestKey env c.vehicleId).Passes ∧ CompatFields env c.msg kind := by
  unfold compatWork
  rw [Except.passes_bind]
  constructor
  · rintro ⟨key, keyed, rest⟩
    exact ⟨⟨key, keyed⟩, compatBody_passes.mp ((bind_passes_of fun x => ⟨_, rfl⟩).mp rest)⟩
  · rintro ⟨⟨key, keyed⟩, fields⟩
    exact ⟨key, keyed, (bind_passes_of fun x => ⟨_, rfl⟩).mpr (compatBody_passes.mpr fields)⟩

/-- Reading a field raises what is caught, and so does what follows exactly if it does on the field. -/
theorem field_bind_raises {α : Type} {msg : JsonTree} {name : String}
    {f : JsonTree → Except Raised α} {p : Raised → Bool} (caught : p .keyError = true) :
    (Env.field msg name >>= f).RaisesOnly p ↔
      ∀ value, msg.get name = some value → (f value).RaisesOnly p := by
  rw [Except.raisesOnly_bind]
  simp only [field_eq_ok]
  refine and_iff_right ?_
  unfold Env.field
  cases msg.get name with
  | none => exact Except.raisesOnly_error.mpr caught
  | some value => exact Except.raisesOnly_ok value p

/-- Parsing an internal message raises what is caught exactly if the message is legible. -/
theorem readCompat_raises {payload : Payload} :
    (readCompat env payload).RaisesOnly Raised.rejectsCompat ↔ CompatLegible env payload := by
  unfold readCompat CompatLegible
  rw [Except.raisesOnly_bind]
  refine and_congr_right fun _ => forall_congr' fun msg => imp_congr_right fun _ => ?_
  cases msg.isObject with
  | false =>
    constructor
    · intro only
      exact absurd (only .attributeError rfl) (by decide)
    · intro legible
      exact absurd legible.1 (by decide)
  | true =>
    cases (msg.getD "internal_contract").isText "ros-compat-v1" with
    | false =>
      refine ⟨fun _ => ⟨rfl, fun contract => by cases contract⟩, fun _ => ?_⟩
      exact Except.raisesOnly_error.mpr rfl
    | true =>
      show (Env.field msg "vehicle_id" >>= _).RaisesOnly _ ↔ _
      rw [field_bind_raises rfl]
      simp only [field_bind_raises (p := Raised.rejectsCompat) rfl, Option.isSome_iff_exists]
      have last : ∀ vehicleId value : JsonTree, (do
          let source ← env.parseTime value
          return ({ msg := msg, vehicleId := vehicleId, source := source } : CompatMessage) :
            Except Raised CompatMessage).RaisesOnly Raised.rejectsCompat ↔
          (env.parseTime value).RaisesOnly Raised.rejectsCompat := by
        intro vehicleId value
        rw [Except.raisesOnly_bind]
        exact and_iff_left fun source _ => Except.raisesOnly_ok _ _
      simp only [last]
      constructor
      · rintro only
        exact ⟨trivial, fun _ ⟨vehicleId, found⟩ => only vehicleId found⟩
      · rintro ⟨_, only⟩ vehicleId found
        exact only trivial ⟨vehicleId, found⟩

/-- Validation raises what is caught exactly if the message is an object and its version can be read. -/
theorem validateMessage_raises {msg : JsonTree} :
    (validateMessage env msg).RaisesOnly Raised.rejects ↔
      msg.isObject = true ∧ (claimedVersion env msg).RaisesOnly Raised.rejects := by
  unfold validateMessage
  cases msg.isObject with
  | false =>
    constructor
    · intro only
      exact absurd (only .attributeError rfl) (by decide)
    · intro legible
      exact absurd legible.1 (by decide)
  | true =>
    show (claimedVersion env msg >>= _).RaisesOnly _ ↔ _
    rw [Except.raisesOnly_bind, and_iff_right rfl]
    refine and_iff_left fun version _ => ?_
    cases versionOf version with
    | none => exact Except.raisesOnly_error.mpr rfl
    | some version =>
      show (if _ then _ else _ : Except Raised Unit).RaisesOnly _
      split
      · exact Except.raisesOnly_ok _ _
      · exact Except.raisesOnly_error.mpr rfl

/-- Parsing a message raises what is caught exactly if the message is legible. -/
theorem inspect_raises {payload : Payload} :
    (inspect env payload).RaisesOnly Raised.rejects ↔ Legible env payload := by
  unfold inspect Legible
  rw [Except.raisesOnly_bind]
  refine and_congr_right fun _ => forall_congr' fun msg => imp_congr_right fun _ => ?_
  unfold jsonDepth
  by_cases deep : env.stack < msg.depth 0
  · rw [if_pos deep, Except.error_bind, Except.raisesOnly_error]
    constructor
    · intro caught
      cases caught
    · intro legible
      omega
  · rw [if_neg deep, Except.ok_bind, and_iff_right (by omega)]
    split
    · refine ⟨fun _ shallow => by omega, fun _ => Except.raisesOnly_ok _ _⟩
    · rw [imp_iff_right (by omega)]
      cases containsVideo msg with
      | true =>
        refine ⟨fun _ seen => absurd seen (by decide), fun _ => Except.raisesOnly_ok _ _⟩
      | false =>
        rw [imp_iff_right rfl, ← validateMessage_raises]
        show (validateMessage env msg >>= _).RaisesOnly _ ↔ _
        rw [Except.raisesOnly_bind]
        exact and_iff_left fun _ _ => Except.raisesOnly_ok _ _

/-! ## What validation leaves -/

/-- A message that gets past the inspection is valid. -/
theorem inspect_message {payload : Payload} {msg : JsonTree}
    (h : inspect env payload = .ok (.message msg)) :
    env.loads payload = .ok msg ∧
      ∃ version, (Protocol.messageSchema env.isUuid version).valid msg = true := by
  unfold inspect at h
  obtain ⟨tree, loaded, h⟩ := Except.bind_eq_ok.mp h
  obtain ⟨depth, _, h⟩ := Except.bind_eq_ok.mp h
  split at h
  · cases h
  · split at h
    · cases h
    · obtain ⟨_, validated, h⟩ := Except.bind_eq_ok.mp h
      cases h
      refine ⟨loaded, ?_⟩
      unfold validateMessage at validated
      split at validated
      · cases validated
      · obtain ⟨text, _, validated⟩ := Except.bind_eq_ok.mp validated
        cases known : versionOf text with
        | none =>
          rw [known] at validated
          cases validated
        | some version =>
          rw [known] at validated
          dsimp only at validated
          split at validated
          next valid => exact ⟨version, valid⟩
          · cases validated

/-- Of the valid messages only a command has no boot id. -/
theorem boot_id_isNone {version : Protocol.SchemaVersion} {msg : JsonTree}
    (valid : (Protocol.messageSchema env.isUuid version).valid msg = true) :
    (msg.get "boot_id").isNone = true ↔ textOf msg "type" = "command" := by
  rcases Protocol.valid_command_or_base valid with ⟨named, command⟩ | ⟨other, base⟩
  · have closed := JsonSchema.valid_allOf.mp command
      (.closed ((Protocol.commandProperties env.isUuid version).map Prod.fst)) (by simp)
    have absent : msg.get "boot_id" = none :=
      JsonSchema.get_eq_none_of_closed closed (by simp [Protocol.commandProperties])
    simp [absent, textOf, plainText, JsonTree.getD, named, JsonTree.asText, JsonText.plain]
  · obtain ⟨boot, found, _⟩ := JsonSchema.exists_field base "boot_id"
      (Protocol.uuidText env.isUuid) (by simp) (by simp)
    obtain ⟨type, named, text⟩ := JsonSchema.exists_field base "type" Protocol.text (by simp)
      (by simp)
    obtain ⟨s, rfl⟩ := JsonSchema.valid_string.mp text
    have different : textOf msg "type" ≠ "command" := by
      intro same
      refine other ?_
      rw [named]
      cases s with
      | chars s =>
        simp [textOf, plainText, JsonTree.getD, named, JsonTree.asText, JsonText.plain] at same
        rw [same]
      | surrogates ps =>
        simp [textOf, plainText, JsonTree.getD, named, JsonTree.asText, JsonText.plain] at same
    simp [found, different]

/-! ## The transactions -/

@[simp] theorem commit_pending (s : State) (w : Work) :
    (s.commit w).redis.pending = s.redis.pending :=
  (s.redis.perform_marks w.operations).pending

/-- The transaction about an internal message returns exactly if it survives. -/
theorem compatTransaction_returns {kind : CompatKind} {c : CompatMessage} {s : State} :
    (∀ e, (compatTransaction env m c kind s).2 ≠ .escaped e) ↔ CompatSurvives env m kind c s := by
  unfold compatTransaction CompatSurvives
  cases bound : env.bind c.vehicleId with
  | error e =>
    constructor
    · intro returns
      exact absurd rfl (returns e)
    · rintro ⟨_, same, _⟩
      cases same
  | ok value =>
    simp only [Except.ok.injEq, exists_eq_left']
    cases known : value.bind fun v => (s.vehicles.lookup v).map fun vehicle => (v, vehicle) with
    | none =>
      refine ⟨fun _ => ?_, fun _ e => by simp⟩
      rintro ⟨v, rfl, some_row⟩
      obtain ⟨vehicle, found⟩ := Option.isSome_iff_exists.mp some_row
      simp [found] at known
    | some entry =>
      obtain ⟨v, vehicle⟩ := entry
      have robot : Known s value := by
        obtain ⟨v', rfl, row⟩ := Option.bind_eq_some_iff.mp known
        obtain ⟨vehicle', found, same⟩ := Option.map_eq_some_iff.mp row
        cases same
        exact ⟨v, rfl, by simp [found]⟩
      rw [imp_iff_right robot, ← and_assoc, ← compatWork_passes (m := m) (r := s.redis)
        (w := s.begin v vehicle)]
      cases worked : compatWork env m c s.redis kind (s.begin v vehicle) with
      | error e =>
        constructor
        · intro returns
          exact absurd (by simp [worked]) (returns e)
        · rintro ⟨passes, _⟩
          exact absurd passes (Except.not_passes_error e)
      | ok w =>
        rw [and_iff_right (Except.passes_ok w)]
        cases m.commits with
        | true => simp [worked]
        | false =>
          refine ⟨fun returns => ?_, fun absurd => by cases absurd⟩
          exact absurd (by simp [worked]) (returns .databaseError)

/-- A transaction about an internal message leaves the marks, and the rest where the message is not
handled. -/
theorem compatTransaction_keeps (env : Env) (m : Moment) (kind : CompatKind) (c : CompatMessage) (s : State) :
    ((compatTransaction env m c kind s).2.rejects = true → (compatTransaction env m c kind s).1 = s) ∧
      (compatTransaction env m c kind s).1.redis.pending = s.redis.pending := by
  rcases compatTransaction_spec env m kind c s with
    ⟨o, _, same⟩ | ⟨v, vehicle, w, _, _, _, _, same⟩
  · rw [same]
    exact ⟨fun _ => rfl, rfl⟩
  · rw [same]
    exact ⟨fun rejects => absurd rejects Bool.false_ne_true, commit_pending s w⟩

/-- An internal message other than odometry. -/
theorem inOrder_compatTransaction {kind : CompatKind} {c : CompatMessage} {s : State} :
    InOrder s (compatTransaction env m c kind s).1 (compatTransaction env m c kind s).2 ↔
      CompatSurvives env m kind c s := by
  obtain ⟨kept, pending⟩ := compatTransaction_keeps env m kind c s
  rw [← compatTransaction_returns]
  constructor
  · exact InOrder.returns
  · intro returns
    exact {
      returns := returns
      vehicles := fun rejects => by rw [kept rejects]
      control := fun rejects => by rw [kept rejects]
      business := fun rejects => by rw [kept rejects]
      latest := fun rejects => by rw [kept rejects]
      pending := fun id left => by rwa [pending] at left }

/-- The fast path touches no row. -/
theorem FastPath.vehicles {c : CompatMessage} {s s' : State} (path : FastPath env m c s s') :
    s'.vehicles = s.vehicles := by
  cases path
  rfl

/-- The transaction rejects a message exactly if its robot is not known. -/
theorem compatTransaction_rejects {kind : CompatKind} {c : CompatMessage} {s : State} :
    (compatTransaction env m c kind s).2.rejects = true ↔
      ∃ vehicleId, env.bind c.vehicleId = .ok vehicleId ∧ ¬ Known s vehicleId := by
  unfold compatTransaction
  cases bound : env.bind c.vehicleId with
  | error e => simp [Outcome.rejects]
  | ok value =>
    simp only [Except.ok.injEq, exists_eq_left']
    cases known : value.bind fun v => (s.vehicles.lookup v).map fun vehicle => (v, vehicle) with
    | none =>
      refine ⟨fun _ => ?_, fun _ => rfl⟩
      rintro ⟨v, rfl, some_row⟩
      obtain ⟨vehicle, found⟩ := Option.isSome_iff_exists.mp some_row
      simp [found] at known
    | some entry =>
      obtain ⟨v, rfl, row⟩ := Option.bind_eq_some_iff.mp known
      obtain ⟨vehicle, found, rfl⟩ := Option.map_eq_some_iff.mp row
      have robot : Known s (some v) := ⟨v, rfl, by simp [found]⟩
      rw [iff_false_right (not_not.mpr robot)]
      dsimp only
      cases compatWork env m c s.redis kind (s.begin v vehicle) with
      | error e => simp [Outcome.rejects]
      | ok w =>
        dsimp only
        split <;> simp [Outcome.rejects]

/-- The end of an odometry message whose document has been written. -/
theorem inOrder_afterFast {c : CompatMessage} {s : State} {key : String} {latest : Latest}
    {stream : List Event} (keyed : latestKey env c.vehicleId = .ok key) :
    let s₁ : State := { s.putLatest key latest with stream := stream }
    let ended := if m.metadataGate then compatTransaction env m c .odom s₁ else (s₁, .handled)
    InOrder s ended.1 ended.2 ↔
      (m.metadataGate = true → ∃ vehicleId, env.bind c.vehicleId = .ok vehicleId ∧
        (Known s vehicleId → m.commits = true) ∧
        (¬ Known s vehicleId → s.redis.latest key = some latest)) := by
  intro s₁ ended
  cases gate : m.metadataGate with
  | false =>
    have handled : ended = (s₁, .handled) := if_neg (by simp [gate])
    rw [handled]
    refine ⟨fun _ opened => absurd opened Bool.false_ne_true, fun _ => ?_⟩
    exact {
      returns := fun e => by simp
      vehicles := fun _ => rfl
      control := fun _ => rfl
      business := fun _ => rfl
      latest := fun rejects => absurd rejects Bool.false_ne_true
      pending := fun _ left => left }
  | true =>
    have transacted : ended = compatTransaction env m c .odom s₁ := if_pos gate
    rw [transacted, imp_iff_right rfl]
    obtain ⟨kept, pending⟩ := compatTransaction_keeps env m .odom c s₁
    have written : s₁.redis.latest = Function.update s.redis.latest key (some latest) := rfl
    constructor
    · intro h
      obtain ⟨vehicleId, bound, survives⟩ := compatTransaction_returns.mp h.returns
      refine ⟨vehicleId, bound, fun known => (survives known).2.2, fun unknown => ?_⟩
      have rejected : (compatTransaction env m c .odom s₁).2.rejects = true :=
        compatTransaction_rejects.mpr ⟨vehicleId, bound, unknown⟩
      have same := h.latest rejected
      rw [kept rejected, written] at same
      rw [← same, Function.update_self]
    · rintro ⟨vehicleId, bound, commits, unchanged⟩
      exact {
        returns := compatTransaction_returns.mpr
          ⟨vehicleId, bound, fun known => ⟨⟨key, keyed⟩, trivial, commits known⟩⟩
        vehicles := fun rejects => by rw [kept rejects]; rfl
        control := fun rejects => by rw [kept rejects]; rfl
        business := fun rejects => by rw [kept rejects]; rfl
        latest := fun rejects => by
          obtain ⟨other, bound', unknown⟩ := compatTransaction_rejects.mp rejects
          rw [bound] at bound'
          cases bound'
          rw [kept rejects, written, ← unchanged unknown, Function.update_eq_self]
        pending := fun id left => by rwa [pending] at left }

/-- An odometry message. -/
theorem inOrder_odom {payload : Payload} {c : CompatMessage} {s : State}
    (read : readCompat env payload = .ok c) :
    InOrder s (processInternalCompat env m .odom payload s).1
        (processInternalCompat env m .odom payload s).2 ↔ OdomSurvives env m c s := by
  unfold processInternalCompat OdomSurvives
  rw [read]
  simp only [if_true]
  unfold odomFast
  cases keyed : latestKey env c.vehicleId with
  | error e =>
    refine ⟨fun h => absurd rfl (h.returns e), ?_⟩
    rintro ⟨_, _, same, _⟩
    cases same
  | ok key =>
    simp only [Except.ok.injEq, exists_and_left, exists_eq_left']
    cases made : writable env (odomLatest env m c s.redis key) with
    | error e =>
      refine ⟨fun h => absurd rfl (h.returns e), ?_⟩
      rintro ⟨_, same, _⟩
      cases same
    | ok latest =>
      simp only [Except.ok.injEq, exists_eq_left']
      cases gate : m.wsGate with
      | false =>
        rw [and_iff_right (fun opened => absurd opened Bool.false_ne_true)]
        exact inOrder_afterFast keyed
      | true =>
        rw [imp_iff_right rfl, if_pos rfl]
        by_cases deep : env.encoderStack < (odomLatest env m c s.redis key).depth 1
        · rw [if_pos deep]
          refine ⟨fun h => absurd rfl (h.returns .recursionError), fun ⟨shallow, _⟩ => ?_⟩
          omega
        · rw [if_neg deep, and_iff_right (by omega)]
          exact inOrder_afterFast keyed

/-- The last number can be compared exactly if it is an integer, where it is looked at. -/
theorem late_passes {r : Redis} {msg : JsonTree} :
    (r.late msg).Passes ↔ (textOf msg "type" ≠ "availability" →
      ∀ last, r.lastSeq (seqKey msg) = some last → ∃ n, last = .int n) := by
  unfold Redis.late
  by_cases availability : textOf msg "type" = "availability"
  · rw [if_pos availability]
    exact ⟨fun _ other => absurd availability other, fun _ => ⟨_, rfl⟩⟩
  · rw [if_neg availability, imp_iff_right availability]
    cases r.lastSeq (seqKey msg) with
    | none =>
      refine ⟨fun _ last same => ?_, fun _ => ⟨_, rfl⟩⟩
      cases same
    | some last =>
      have compared : (do
          let n ← storedInt last
          return atMost n (msg.getD "seq") : Except Raised Bool).Passes ↔ (storedInt last).Passes :=
        bind_passes_of fun n => ⟨_, rfl⟩
      rw [compared]
      simp only [Option.some.injEq, forall_eq']
      cases last with
      | int n => exact ⟨fun _ => ⟨n, rfl⟩, fun _ => ⟨n, rfl⟩⟩
      | _ =>
        refine ⟨fun passes => absurd passes (Except.not_passes_error _), ?_⟩
        rintro ⟨n, same⟩
        cases same

/-- A transaction returns; it keeps the reserved ids, and everything where it rejects the message. -/
theorem transact_keeps (env : Env) (m : Moment) (kind : Robots.SourceKind) (msg : JsonTree) (source : Time) (s : State) :
    (∀ e, (transact env m kind msg source s).2 ≠ .escaped e) ∧
      ((transact env m kind msg source s).2.rejects = true →
        (transact env m kind msg source s).1 = s) ∧
      (transact env m kind msg source s).1.redis.pending = s.redis.pending := by
  rcases transact_spec env m kind msg source s with
    ⟨o, rejects, same⟩ | ⟨_, _, w, _, _, _, _, same⟩
  · rw [same]
    refine ⟨fun e escaped => ?_, fun _ => rfl, rfl⟩
    rw [show o = .escaped e from escaped] at rejects
    cases rejects
  · rw [same]
    exact ⟨fun e => by simp, fun rejects => absurd rejects Bool.false_ne_true, commit_pending s w⟩

/-- The reservation of a call that ends is taken back. -/
theorem pending_of_settled {r r' : Redis} {msg : JsonTree} {o : Outcome}
    (same : r'.pending = (r.reserve msg).pending) {id : String}
    (left : (r'.settle msg o).pending id = true) : r.pending id = true := by
  rw [Redis.settle_pending] at left
  by_cases own : id = textOf msg "message_id"
  · subst own
    rw [Function.update_self] at left
    cases left
  · rw [Function.update_of_ne own, same] at left
    have reserved : (r.reserve msg).pending id = r.pending id := Function.update_of_ne own ..
    rwa [reserved] at left

/-- An ordinary message whose id has been reserved. -/
theorem inOrder_processReserved {topic : Topic} {msg : JsonTree} {s : State}
    {version : Protocol.SchemaVersion}
    (valid : (Protocol.messageSchema env.isUuid version).valid msg = true) :
    InOrder s (processReserved env m topic msg (s.marks fun r => r.reserve msg)).1
        (processReserved env m topic msg (s.marks fun r => r.reserve msg)).2 ↔
      textOf msg "type" ≠ "command" ∧ (s.redis.late msg).Passes ∧
        (s.redis.late msg = .ok false → (env.parseTime (msg.getD "timestamp")).Passes) := by
  have late_same : ((s.marks fun r => r.reserve msg).redis).late msg = s.redis.late msg := rfl
  unfold processReserved
  rw [late_same]
  by_cases command : textOf msg "type" = "command"
  · rw [if_pos ((boot_id_isNone valid).mpr command)]
    exact ⟨fun h => absurd rfl (h.returns .keyError), fun h => absurd command h.1⟩
  · rw [if_neg (fun none => command ((boot_id_isNone valid).mp none)), and_iff_right command]
    cases s.redis.late msg with
    | error e =>
      exact ⟨fun h => absurd rfl (h.returns e), fun h => absurd h.1 (Except.not_passes_error e)⟩
    | ok answer =>
      rw [and_iff_right (Except.passes_ok answer)]
      cases answer with
      | true =>
        refine ⟨fun _ same => ?_, fun _ => ?_⟩
        · cases same
        · exact {
            returns := fun e => by simp
            vehicles := fun _ => rfl
            control := fun _ => rfl
            business := fun _ => rfl
            latest := fun _ => (s.redis.reserve msg).settle_latest msg .outOfOrder
            pending := fun id left => pending_of_settled (o := .outOfOrder) rfl left }
      | false =>
        rw [imp_iff_right rfl]
        dsimp only
        cases env.parseTime (msg.getD "timestamp") with
        | error e =>
          exact ⟨fun h => absurd rfl (h.returns e), fun h => absurd h (Except.not_passes_error e)⟩
        | ok source =>
          obtain ⟨returns, kept, pending⟩ := transact_keeps env m (sourceKind topic)
            msg source (s.marks fun r => r.reserve msg)
          refine ⟨fun _ => Except.passes_ok source, fun _ => ?_⟩
          dsimp only
          exact {
            returns := returns
            vehicles := fun rejects => show State.vehicles _ = _ by rw [kept rejects]; rfl
            control := fun rejects => show State.control _ = _ by rw [kept rejects]; rfl
            business := fun rejects => show State.business _ = _ by rw [kept rejects]; rfl
            latest := fun rejects => by
              show (Redis.settle _ msg _).latest = _
              rw [Redis.settle_latest, kept rejects]
              rfl
            pending := fun id left => pending_of_settled pending left }

/-- A call that changes nothing and returns. -/
theorem inOrder_same {s : State} {o : Outcome} (returns : ∀ e, o ≠ .escaped e) : InOrder s s o :=
  ⟨returns, fun _ => rfl, fun _ => rfl, fun _ => rfl, fun _ => rfl, fun _ left => left⟩

/-- An ordinary message. -/
theorem inOrder_processMessage {topic : Topic} {msg : JsonTree} {s : State}
    {version : Protocol.SchemaVersion}
    (valid : (Protocol.messageSchema env.isUuid version).valid msg = true) :
    InOrder s (processMessage env m topic msg s).1 (processMessage env m topic msg s).2 ↔
      Comparable env m topic msg s := by
  unfold processMessage Comparable
  rw [← late_passes]
  by_cases typed : textOf msg "type" = lastLevel topic
  · rw [if_neg (not_not.mpr typed), imp_iff_right typed]
    cases allowed : m.rateAllowed with
    | false =>
      refine ⟨fun _ absurd_ => absurd absurd_ Bool.false_ne_true, fun _ => ?_⟩
      exact inOrder_same fun e => by simp
    | true =>
      rw [imp_iff_right rfl]
      cases new : s.redis.seen msg with
      | true =>
        refine ⟨fun _ absurd_ => absurd absurd_.symm Bool.false_ne_true, fun _ => ?_⟩
        exact inOrder_same fun e => by simp
      | false =>
        rw [imp_iff_right rfl]
        exact inOrder_processReserved valid
  · rw [if_pos typed]
    exact ⟨fun _ same => absurd same typed, fun _ => inOrder_same fun e => by simp⟩

end

/-- A call is in order exactly if nothing of what is not caught comes up. -/
theorem inOrder_iff (env : Env) (m : Moment) (topic : Topic) (payload : Payload) (s : State) :
    InOrder s (process env m topic payload s).1 (process env m topic payload s).2 ↔
      Survives env m topic payload s := by
  unfold process Survives
  by_cases large : env.settings.maxMqttPayloadBytes < payload.length
  · rw [if_pos large]
    exact ⟨fun _ fits => by omega, fun _ => inOrder_same fun e => by simp⟩
  · rw [if_neg large, imp_iff_right (by omega)]
    cases compatKind topic with
    | some kind =>
      dsimp only
      rw [← readCompat_raises]
      cases read : readCompat env payload with
      | error e =>
        rw [Except.raisesOnly_error]
        unfold processInternalCompat
        rw [read]
        dsimp only
        cases caught : e.rejectsCompat with
        | true =>
          refine ⟨fun _ => ⟨rfl, fun c same => ?_⟩, fun _ => inOrder_same (by simp)⟩
          cases same
        | false => exact ⟨fun h => absurd rfl (h.returns e), fun h => absurd h.1 Bool.false_ne_true⟩
      | ok c =>
        rw [and_iff_right (Except.raisesOnly_ok c _)]
        simp only [Except.ok.injEq, forall_eq']
        by_cases odometry : kind = .odom
        · subst odometry
          rw [if_pos rfl]
          exact inOrder_odom read
        · rw [if_neg odometry, ← inOrder_compatTransaction]
          unfold processInternalCompat
          rw [read]
          dsimp only
          rw [if_neg odometry]
    | none =>
      dsimp only
      rw [← inspect_raises]
      cases read : inspect env payload with
      | error e =>
        rw [Except.raisesOnly_error]
        dsimp only
        cases caught : e.rejects with
        | true =>
          refine ⟨fun _ => ⟨rfl, fun msg same => ?_⟩, fun _ => inOrder_same (by simp)⟩
          cases same
        | false => exact ⟨fun h => absurd rfl (h.returns e), fun h => absurd h.1 Bool.false_ne_true⟩
      | ok inspection =>
        rw [and_iff_right (Except.raisesOnly_ok _ _)]
        cases inspection with
        | tooDeep =>
          refine ⟨fun _ msg same => ?_, fun _ => inOrder_same (by simp)⟩
          cases same
        | video =>
          refine ⟨fun _ msg same => ?_, fun _ => inOrder_same (by simp)⟩
          cases same
        | message msg =>
          simp only [Except.ok.injEq, Inspection.message.injEq, forall_eq']
          obtain ⟨_, version, valid⟩ := inspect_message read
          exact inOrder_processMessage valid

/-- A payload that is a JSON array ends the network loop. -/
theorem array_escapes : ¬ ∀ (env : Env) (m : Moment) (topic : Topic) (payload : Payload) (s : State),
    payload.length ≤ env.settings.maxMqttPayloadBytes →
      InOrder s (process env m topic payload s).1 (process env m topic payload s).2 := by
  intro claim
  let env := Env.knowing [("[]", .arr [])] []
  have fits : (Env.bytes "[]").length ≤ env.settings.maxMqttPayloadBytes := by decide
  have h := claim env (.plain 0) ["robot", "R1", "location"] (Env.bytes "[]") State.empty fits
  exact h.returns .attributeError (by decide)

end Firebot.MqttIngress
