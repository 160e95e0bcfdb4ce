import Mathlib.Algebra.Order.Ring.Cast
import Mathlib.Algebra.Order.Ring.Rat
import Firebot.Lib.Run
import Firebot.MqttIngress.Totality

/-!
# The order of the messages that are committed

A call is handed the next message of the broker. `committed` lists the messages whose transaction has been
committed, in the order of the calls.

Two marks in Redis keep the order: the ids that have been seen, and the last number of each vehicle, boot and
type. Both are set after the commit, and a call that fails sets neither. An availability message is exempt from
both: its id and its number are fixed before the vehicle connects, and the broker may publish it at any
time.

**What is committed has increasing numbers for each vehicle, boot and type and no id twice, availability
messages apart, and a call that fails leaves nothing** (`committed_in_order`). Nothing is said of messages that
are dropped.
-/

namespace Firebot.MqttIngress

/-- A call of `process`. -/
structure Call where
  moment : Moment
  topic : Topic
  payload : Payload

/-- What a call that ends so has committed of its message. -/
def Outcome.commits (msg : JsonTree) : Outcome → Option JsonTree
  | .handled => some msg
  | _ => none

section

variable (env : Env)

/-- The state after a call. -/
def deliver (s : State) (c : Call) : State := (process env c.moment c.topic c.payload s).1

/-- How a call ends. -/
def outcome (s : State) (c : Call) : Outcome := (process env c.moment c.topic c.payload s).2

/-- The message of a vehicle that a call commits. -/
def committedBy (s : State) (c : Call) : Option JsonTree :=
  match compatKind c.topic, inspect env c.payload with
  | none, .ok (.message msg) => (outcome env s c).commits msg
  | _, _ => none

/-- The messages that a list of calls commits, in order. -/
def committed : State → List Call → List JsonTree
  | _, [] => []
  | s, c :: calls => (committedBy env s c).toList ++ committed (deliver env s c) calls

end

/-- The value of a number. -/
def seqValue : JsonTree → ℚ
  | .int n => n
  | .real q => q
  | _ => 0

/-! ## What a call does to the marks -/

/-- The marks after a call, and the message it commits. -/
inductive MarksAfter (env : Env) (r r' : Redis) : Option JsonTree → Prop
  | same (dedup : r'.dedup = r.dedup) (lastSeq : r'.lastSeq = r.lastSeq) : MarksAfter env r r' none
  | seen {msg : JsonTree} (dedup : r'.dedup = (r.markSeen msg).dedup)
      (lastSeq : r'.lastSeq = r.lastSeq) : MarksAfter env r r' none
  | committed {msg : JsonTree} {version : Protocol.SchemaVersion}
      (valid : (Protocol.vehicleBase env.isUuid version).valid msg = true)
      (new : r.seen msg = false) (inOrder : r.late msg = .ok false)
      (dedup : r'.dedup = (r.markSeen msg).dedup) (lastSeq : r'.lastSeq = (r.markLast msg).lastSeq) :
      MarksAfter env r r' (some msg)

section

variable {env : Env} {s : State}

/-- The marks after an internal message. -/
theorem processInternalCompat_marks (env : Env) (m : Moment) (kind : CompatKind) (payload : Payload) (s : State) :
    (processInternalCompat env m kind payload s).1.redis.dedup = s.redis.dedup ∧
      (processInternalCompat env m kind payload s).1.redis.lastSeq = s.redis.lastSeq := by
  have transaction : ∀ (c : CompatMessage) (s : State),
      (compatTransaction env m c kind s).1.redis.dedup = s.redis.dedup ∧
        (compatTransaction env m c kind s).1.redis.lastSeq = s.redis.lastSeq := by
    intro c s
    rcases compatTransaction_spec env m kind c s with
      ⟨o, _, same⟩ | ⟨_, _, w, _, _, _, _, same⟩
    · rw [same]
      exact ⟨rfl, rfl⟩
    · rw [same]
      exact ⟨(s.redis.perform_marks w.operations).dedup, (s.redis.perform_marks w.operations).lastSeq⟩
  unfold processInternalCompat
  cases readCompat env payload with
  | error e => exact ⟨rfl, rfl⟩
  | ok c =>
    dsimp only
    by_cases odometry : kind = .odom
    · subst odometry
      rw [if_pos rfl]
      have fast : (odomFast env m c s).1.redis.dedup = s.redis.dedup ∧
          (odomFast env m c s).1.redis.lastSeq = s.redis.lastSeq := by
        rcases odomFast_spec env m c s with ⟨e, same⟩ | path
        · rw [same]
          exact ⟨rfl, rfl⟩
        · generalize (odomFast env m c s).1 = s' at path ⊢
          cases path
          exact ⟨rfl, rfl⟩
      cases ran : odomFast env m c s with
      | mk s₁ error =>
        rw [ran] at fast
        cases error with
        | some e => exact fast
        | none =>
          dsimp only
          split
          · obtain ⟨dedup, lastSeq⟩ := transaction c s₁
            exact ⟨dedup.trans fast.1, lastSeq.trans fast.2⟩
          · exact fast
    · rw [if_neg odometry]
      exact transaction c s

/-- The mark of a message is set alike whether its id is reserved or not. -/
theorem markSeen_dedup (r : Redis) {r' : Redis} (same : r'.dedup = r.dedup) (msg : JsonTree) :
    (r'.markSeen msg).dedup = (r.markSeen msg).dedup := by
  unfold Redis.markSeen
  split
  · exact same
  · show Function.update r'.dedup _ _ = Function.update r.dedup _ _
    rw [same]

/-- A message that is dropped is marked, and its reservation taken back. -/
theorem dropped_dedup (r : Redis) (msg : JsonTree) :
    (((r.reserve msg).markSeen msg).release msg).dedup = (r.markSeen msg).dedup := by
  have reserved : (r.reserve msg).dedup = r.dedup := rfl
  exact markSeen_dedup r reserved msg

/-- A valid message with a boot id is one of a vehicle. -/
theorem base_of_boot {version : Protocol.SchemaVersion} {msg : JsonTree}
    (valid : (Protocol.messageSchema env.isUuid version).valid msg = true)
    (boot : ¬ (msg.get "boot_id").isNone = true) :
    (Protocol.vehicleBase env.isUuid version).valid msg = true := by
  rcases Protocol.valid_command_or_base valid with ⟨named, _⟩ | ⟨_, base⟩
  · refine absurd ((boot_id_isNone valid).mpr ?_) boot
    simp [textOf, plainText, JsonTree.getD, named, JsonTree.asText, JsonText.plain]
  · exact base

/-- The marks after an ordinary message. -/
theorem processMessage_marks {m : Moment} {topic : Topic} {msg : JsonTree}
    {version : Protocol.SchemaVersion}
    (valid : (Protocol.messageSchema env.isUuid version).valid msg = true) :
    MarksAfter env s.redis (processMessage env m topic msg s).1.redis
      ((processMessage env m topic msg s).2.commits msg) := by
  unfold processMessage
  split
  · exact .same rfl rfl
  · split
    · exact .same rfl rfl
    · cases new : s.redis.seen msg with
      | true => exact .same rfl rfl
      | false =>
        simp only [Bool.false_eq_true, if_false]
        unfold processReserved
        split
        · exact .same rfl rfl
        next boot =>
          cases inOrder : (s.marks fun r => r.reserve msg).redis.late msg with
          | error e => exact .same rfl rfl
          | ok late =>
            cases late with
            | true =>
              exact .seen (dropped_dedup s.redis msg) (Redis.markSeen_lastSeq _ _)
            | false =>
              dsimp only
              cases env.parseTime (msg.getD "timestamp") with
              | error e => exact .same rfl rfl
              | ok source =>
                dsimp only
                rcases transact_spec env m (sourceKind topic) msg source
                    (s.marks fun r => r.reserve msg) with
                  ⟨o, rejects, same⟩ | ⟨_, _, w, _, _, _, _, same⟩
                · rw [same]
                  have uncommitted : o.commits msg = none := by
                    cases o with
                    | handled => cases rejects
                    | _ => rfl
                  show MarksAfter env s.redis (Redis.settle _ msg o) (o.commits msg)
                  rw [uncommitted]
                  cases o with
                  | failed => exact .same rfl rfl
                  | handled => cases rejects
                  | _ => exact .seen (dropped_dedup s.redis msg) (Redis.markSeen_lastSeq _ _)
                · rw [same]
                  obtain ⟨dedup, _, lastSeq⟩ := (s.redis.reserve msg).perform_marks w.operations
                  refine .committed (base_of_boot valid boot) new inOrder (markSeen_dedup s.redis dedup msg) ?_
                  show Function.update (Redis.markSeen _ msg).lastSeq _ _ = Function.update _ _ _
                  rw [Redis.markSeen_lastSeq]
                  exact congrArg (Function.update · _ _) lastSeq

/-- The marks after a call. -/
theorem deliver_marks (env : Env) (s : State) (c : Call) :
    MarksAfter env s.redis (deliver env s c).redis (committedBy env s c) := by
  unfold deliver committedBy outcome process
  split
  · cases compatKind c.topic with
    | some kind => exact .same rfl rfl
    | none => cases inspect env c.payload with
      | error e => exact .same rfl rfl
      | ok inspection => cases inspection <;> exact .same rfl rfl
  · cases compatKind c.topic with
    | some kind =>
      obtain ⟨dedup, lastSeq⟩ := processInternalCompat_marks env c.moment kind c.payload s
      exact .same dedup lastSeq
    | none =>
      cases read : inspect env c.payload with
      | error e => exact .same rfl rfl
      | ok inspection =>
        cases inspection with
        | tooDeep => exact .same rfl rfl
        | video => exact .same rfl rfl
        | message msg =>
          obtain ⟨_, version, valid⟩ := inspect_message read
          exact processMessage_marks valid

/-! ## What a run commits -/

/-- An id that has been seen stays seen. -/
theorem dedup_deliver {id : String} (c : Call) (seen : s.redis.dedup id = true) :
    (deliver env s c).redis.dedup id = true := by
  have marked : ∀ msg, (s.redis.markSeen msg).dedup id = true := by
    intro msg
    unfold Redis.markSeen
    split
    · exact seen
    · by_cases own : id = textOf msg "message_id"
      · subst own
        exact Function.update_self ..
      · exact (Function.update_of_ne own ..).trans seen
  have marks := deliver_marks env s c
  generalize committedBy env s c = by_call at marks
  cases marks with
  | same dedup _ => rw [dedup, seen]
  | seen dedup _ => rw [dedup, marked]
  | committed _ _ _ dedup _ => rw [dedup, marked]

/-- A message whose id has been seen is not committed, unless it is an availability message. -/
theorem new_of_committed {calls : List Call} {msg : JsonTree} (mem : msg ∈ committed env s calls)
    (type : textOf msg "type" ≠ "availability") :
    s.redis.dedup (textOf msg "message_id") = false := by
  by_contra known
  rw [Bool.not_eq_false] at known
  induction calls generalizing s with
  | nil => cases mem
  | cons c calls ih =>
    rcases List.mem_append.mp mem with now | later
    · have marks := deliver_marks env s c
      generalize committedBy env s c = by_call at now marks
      cases marks with
      | same => cases now
      | seen => cases now
      | committed _ new =>
        cases List.mem_singleton.mp now
        simp [Redis.seen, known, type] at new
    · exact ih later (dedup_deliver c known)

/-- A number that is not at most an integer is above it. -/
theorem lt_seqValue {version : Protocol.SchemaVersion} {msg : JsonTree} {n : Int}
    (valid : (Protocol.vehicleBase env.isUuid version).valid msg = true)
    (above : atMost n (msg.getD "seq") = false) : (n : ℚ) < seqValue (msg.getD "seq") := by
  obtain ⟨value, found, natural⟩ := JsonSchema.exists_field valid "seq" Protocol.natural (by simp)
    (by simp)
  have integer := JsonSchema.valid_allOf.mp natural (.kinds [.integer]) (by simp)
  have same : msg.getD "seq" = value := by simp [JsonTree.getD, found]
  rw [same] at above ⊢
  cases value with
  | int k =>
    have lt : n < k := by simpa [atMost] using above
    exact Int.cast_lt.mpr lt
  | real q =>
    have lt : (n : ℚ) < q := by simpa [atMost] using above
    exact lt
  | _ => simp [JsonSchema.valid, JsonKind.holds] at integer

/-- The last number of a key, where there is one, is below. -/
def Below (r : Redis) (key : SeqKey) (value : ℚ) : Prop :=
  ∀ last, r.lastSeq key = some last → ∃ n, last = .int n ∧ (n : ℚ) < value

/-- What is above the last number after a call was above it before. -/
theorem below_of_deliver {key : SeqKey} {value : ℚ} (c : Call) (type : key.2.2 ≠ "availability")
    (below : Below (deliver env s c).redis key value) : Below s.redis key value := by
  have marks := deliver_marks env s c
  generalize committedBy env s c = by_call at marks
  intro last found
  cases marks with
  | same _ lastSeq => exact below last (by rw [lastSeq, found])
  | seen _ lastSeq => exact below last (by rw [lastSeq, found])
  | @committed msg _ valid _ inOrder _ lastSeq =>
    by_cases own : key = seqKey msg
    · subst own
      obtain ⟨n, integer, lt⟩ := below (msg.getD "seq") (by
        rw [lastSeq]
        exact Function.update_self ..)
      unfold Redis.late at inOrder
      rw [if_neg (show ¬ textOf msg "type" = "availability" from type), found] at inOrder
      obtain ⟨k, stored, compared⟩ := Except.bind_eq_ok.mp inOrder
      cases last with
      | int k' =>
        cases stored
        refine ⟨k, rfl, ?_⟩
        have step := lt_seqValue valid (Except.ok.inj compared)
        rw [integer] at step
        exact step.trans lt
      | _ => cases stored
    · refine below last ?_
      rw [lastSeq]
      exact (Function.update_of_ne own ..).trans found

/-- A message that a run commits is above the last number of its key at the start. -/
theorem below_of_committed {calls : List Call} {msg : JsonTree} (mem : msg ∈ committed env s calls)
    (type : textOf msg "type" ≠ "availability") :
    Below s.redis (seqKey msg) (seqValue (msg.getD "seq")) := by
  induction calls generalizing s with
  | nil => cases mem
  | cons c calls ih =>
    rcases List.mem_append.mp mem with now | later
    · have marks := deliver_marks env s c
      generalize committedBy env s c = by_call at now marks
      intro last found
      cases marks with
      | same => cases now
      | seen => cases now
      | committed valid _ inOrder =>
        cases List.mem_singleton.mp now
        unfold Redis.late at inOrder
        rw [if_neg type, found] at inOrder
        obtain ⟨k, stored, compared⟩ := Except.bind_eq_ok.mp inOrder
        cases last with
        | int k' =>
          cases stored
          exact ⟨k, rfl, lt_seqValue valid (Except.ok.inj compared)⟩
        | _ => cases stored
    · exact below_of_deliver c type (ih later)

/-- The committed messages of a vehicle, boot and type other than availability have increasing numbers. -/
theorem committed_increasing (env : Env) (s : State) (calls : List Call) :
    (committed env s calls).Pairwise fun a b => seqKey a = seqKey b →
      textOf a "type" ≠ "availability" → seqValue (a.getD "seq") < seqValue (b.getD "seq") := by
  induction calls generalizing s with
  | nil => exact List.Pairwise.nil
  | cons c calls ih =>
    refine List.pairwise_append.mpr ⟨?_, ih (deliver env s c), ?_⟩
    · cases committedBy env s c with
      | none => exact List.Pairwise.nil
      | some msg => exact List.pairwise_singleton ..
    · intro a now b later key type
      have marks := deliver_marks env s c
      generalize committedBy env s c = by_call at now marks
      cases marks with
      | same => cases now
      | seen => cases now
      | committed valid _ _ _ lastSeq =>
        cases List.mem_singleton.mp now
        have type_b : textOf b "type" ≠ "availability" := by
          rwa [← show textOf a "type" = textOf b "type" from congrArg (·.2.2) key]
        obtain ⟨n, integer, lt⟩ := below_of_committed later type_b (a.getD "seq") (by
          rw [lastSeq, ← key]
          exact Function.update_self ..)
        rw [integer]
        exact lt

/-- No two committed messages of types other than availability have one id. -/
theorem committed_once (env : Env) (s : State) (calls : List Call) :
    (committed env s calls).Pairwise fun a b => textOf a "type" ≠ "availability" →
      textOf b "type" ≠ "availability" → textOf a "message_id" ≠ textOf b "message_id" := by
  induction calls generalizing s with
  | nil => exact List.Pairwise.nil
  | cons c calls ih =>
    refine List.pairwise_append.mpr ⟨?_, ih (deliver env s c), ?_⟩
    · cases committedBy env s c with
      | none => exact List.Pairwise.nil
      | some msg => exact List.pairwise_singleton ..
    · intro a now b later type_a type_b same
      have marks := deliver_marks env s c
      generalize committedBy env s c = by_call at now marks
      cases marks with
      | same => cases now
      | seen => cases now
      | committed _ _ _ dedup =>
        cases List.mem_singleton.mp now
        have new := new_of_committed later type_b
        rw [dedup, ← same, Redis.markSeen, if_neg type_a] at new
        have set : Function.update s.redis.dedup (textOf a "message_id") true
            (textOf a "message_id") = true := Function.update_self ..
        exact Bool.false_ne_true (new.symm.trans set)

end

/-! ## A call that fails -/

section

variable {env : Env} {m : Moment} {s : State}

/-- No internal message fails: what its transaction raises escapes. -/
theorem processInternalCompat_ne_failed (kind : CompatKind) (payload : Payload) :
    (processInternalCompat env m kind payload s).2 ≠ .failed := by
  have transaction : ∀ (c : CompatMessage) (s : State),
      (compatTransaction env m c kind s).2 ≠ .failed := by
    intro c s
    unfold compatTransaction
    cases env.bind c.vehicleId with
    | error e => simp
    | ok value =>
      dsimp only
      split
      · simp
      · split
        · simp
        · split <;> simp
  unfold processInternalCompat
  cases readCompat env payload with
  | error e =>
    show (if _ then _ else _) ≠ Outcome.failed
    split <;> simp
  | ok c =>
    dsimp only
    split
    next odometry =>
      subst odometry
      cases odomFast env m c s with
      | mk s₁ error =>
        cases error with
        | some e => simp
        | none =>
          dsimp only
          split
          · exact transaction c s₁
          · simp
    · exact transaction c s

/-- Reserving an id that is not known and taking it back changes nothing. -/
theorem release_reserve {r : Redis} {msg : JsonTree} (new : r.seen msg = false) :
    (r.reserve msg).release msg = r := by
  have free : r.pending (textOf msg "message_id") = false := by
    unfold Redis.seen at new
    exact (Bool.or_eq_false_iff.mp new).2
  have pending : Function.update (Function.update r.pending (textOf msg "message_id") true)
      (textOf msg "message_id") false = r.pending := by
    rw [Function.update_idem, ← free, Function.update_eq_self]
  unfold Redis.reserve Redis.release
  rw [pending]

/-- A message whose transaction fails only loses its reservation. -/
theorem processReserved_failed {topic : Topic} {msg : JsonTree}
    (failed : (processReserved env m topic msg s).2 = .failed) :
    (processReserved env m topic msg s).1 = s.marks fun r => r.release msg := by
  unfold processReserved at failed ⊢
  split at failed
  · cases failed
  next boot =>
    rw [if_neg boot]
    cases late : s.redis.late msg with
    | error e =>
      rw [late] at failed
      cases failed
    | ok answer =>
      rw [late] at failed
      cases answer with
      | true => cases failed
      | false =>
        dsimp only at failed ⊢
        cases parsed : env.parseTime (msg.getD "timestamp") with
        | error e =>
          rw [parsed] at failed
          cases failed
        | ok source =>
          rw [parsed] at failed
          dsimp only at failed ⊢
          rcases transact_spec env m (sourceKind topic) msg source s with
            ⟨o, _, same⟩ | ⟨_, _, w, _, _, _, _, same⟩
          · rw [same] at failed ⊢
            have ended : o = .failed := failed
            subst ended
            rfl
          · rw [same] at failed
            cases failed

/-- A message that fails leaves everything as it was. -/
theorem processMessage_failed {topic : Topic} {msg : JsonTree}
    (failed : (processMessage env m topic msg s).2 = .failed) :
    (processMessage env m topic msg s).1 = s := by
  unfold processMessage at failed ⊢
  split at failed
  · cases failed
  next typed =>
    rw [if_neg typed]
    split at failed
    · cases failed
    next allowed =>
      rw [if_neg allowed]
      cases new : s.redis.seen msg with
      | true =>
        rw [new] at failed
        cases failed
      | false =>
        rw [new] at failed
        have released := processReserved_failed failed
        rw [if_neg Bool.false_ne_true, released]
        show { s with redis := (s.redis.reserve msg).release msg } = s
        rw [release_reserve new]

/-- A call that fails leaves everything as it was. -/
theorem process_failed {topic : Topic} {payload : Payload}
    (failed : (process env m topic payload s).2 = .failed) :
    (process env m topic payload s).1 = s := by
  unfold process at failed ⊢
  split at failed
  · cases failed
  next fits =>
    rw [if_neg fits]
    cases route : compatKind topic with
    | some kind =>
      rw [route] at failed
      exact absurd failed (processInternalCompat_ne_failed kind payload)
    | none =>
      rw [route] at failed
      dsimp only at failed ⊢
      cases read : inspect env payload with
      | error e => rfl
      | ok inspection =>
        rw [read] at failed
        cases inspection with
        | tooDeep => rfl
        | video => rfl
        | message msg => exact processMessage_failed failed

end

/-- The order of what is committed: increasing numbers for each vehicle, boot and type and no id twice,
availability messages apart, and nothing left of a call that fails. -/
theorem committed_in_order (env : Env) (s : State) (calls : List Call) :
    ((committed env s calls).Pairwise fun a b => seqKey a = seqKey b →
      textOf a "type" ≠ "availability" → seqValue (a.getD "seq") < seqValue (b.getD "seq")) ∧
    ((committed env s calls).Pairwise fun a b => textOf a "type" ≠ "availability" →
      textOf b "type" ≠ "availability" → textOf a "message_id" ≠ textOf b "message_id") ∧
    ∀ before c after, calls = before ++ c :: after →
      outcome env (Runs.run (deliver env) s before) c = .failed →
        deliver env (Runs.run (deliver env) s before) c = Runs.run (deliver env) s before :=
  ⟨committed_increasing env s calls, committed_once env s calls, fun _ _ _ _ => process_failed⟩

/-- An availability message, as the broker publishes it when the connection of a vehicle is lost. -/
def lostText : String :=
  "\x7b\"schema_version\": \"1.3\", \"message_id\": \"00000000-0000-4000-8000-000000000001\", " ++
  "\"type\": \"availability\", \"vehicle_id\": \"R1\", " ++
  "\"boot_id\": \"00000000-0000-4000-8000-00000000000a\", " ++
  "\"timestamp\": \"2026-01-01T00:00:00+00:00\", \"seq\": 0, \"state\": \"offline\"\x7d"

/-- The message, decoded. -/
def lostMessage : JsonTree :=
  .obj [("schema_version", .str "1.3"),
    ("message_id", .str "00000000-0000-4000-8000-000000000001"),
    ("type", .str "availability"), ("vehicle_id", .str "R1"),
    ("boot_id", .str "00000000-0000-4000-8000-00000000000a"),
    ("timestamp", .str "2026-01-01T00:00:00+00:00"), ("seq", .int 0), ("state", .str "offline")]

/-- The time at which the broker publishes the last will of a vehicle. -/
def lostAt : Time := 1767225600000000

/-- Python, as far as the last will goes. -/
def lostEnv : Env := Env.knowing [(lostText, lostMessage)] [("2026-01-01T00:00:00+00:00", lostAt)]

/-- A state in which the vehicle is known. -/
def lostState : State := State.ofVehicles [("R1", .initial "r1" "site")]

/-- The last will. -/
def lostCall : Call where
  moment := .plain lostAt
  topic := ["robot", "R1", "availability"]
  payload := Env.bytes lostText

set_option maxRecDepth 4000 in
/-- An availability message that the broker publishes twice is committed twice. -/
theorem availability_committed_twice : ¬ ∀ (env : Env) (s : State) (calls : List Call),
    (committed env s calls).Pairwise fun a b => textOf a "message_id" ≠ textOf b "message_id" := by
  intro claim
  have pairwise := claim lostEnv lostState [lostCall, lostCall]
  have ids : (committed lostEnv lostState [lostCall, lostCall]).map (textOf · "message_id") =
      ["00000000-0000-4000-8000-000000000001", "00000000-0000-4000-8000-000000000001"] := by
    decide +kernel
  have distinct := List.pairwise_map.mpr pairwise
  rw [ids] at distinct
  exact absurd distinct (by decide)

end Firebot.MqttIngress
