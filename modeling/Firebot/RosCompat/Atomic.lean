import Mathlib.Data.List.Pairwise
import Firebot.Lib.Except
import Firebot.Lib.Run
import Firebot.RosCompat.Adapter

/-!
# What a refused message leaves behind

`normalize` remembers the number and the time of a message before it reads the contents, so a message whose
envelope is fine and whose contents are not is refused with its number used up. `WellFormed` says, suffix by
suffix, which contents are read without an error; `Clean` says of a call that it does not come to the
contents, or that they are well formed. These are exactly the calls that keep everything when they are refused.

The order of what is accepted needs no such condition, since what is remembered only grows.

**In a run every refused message leaves the adapter as it was, and what is accepted of a boot and a suffix is in
order, exactly if every call is clean** (`atomic_and_ordered_iff`). Nothing is said of a message that is
accepted and then lost.
-/

namespace Firebot.RosCompat

variable (lib : Library) (settings : Settings)

/-! ## What is to hold -/

/-- What the adapter remembers is as before. -/
structure Kept (a a' : Adapter) : Prop where
  lastSequences : a'.lastSequences = a.lastSequences
  lastSourceTimes : a'.lastSourceTimes = a.lastSourceTimes
  latest : a'.latest = a.latest
  mapIdentity : a'.mapIdentity = a.mapIdentity

/-- A message that was accepted: its boot and suffix, its number and its time. -/
structure Accepted where
  key : JsonText × String
  seq : Nat
  sourceTime : Time

/-- Of two messages with the same boot and suffix the later one has a greater number and no earlier time. -/
def InOrder (m m' : Accepted) : Prop := m.key = m'.key → m.seq < m'.seq ∧ m.sourceTime ≤ m'.sourceTime

/-- The adapter after a call. -/
def Adapter.step (a : Adapter) (call : Call) : Adapter := (a.normalize lib settings call).1

/-- The message of a call that returns. -/
def Adapter.acceptedOf (a : Adapter) (call : Call) : Option Accepted :=
  match a.opened lib settings call, (a.normalize lib settings call).2 with
  | .ok (_, _, envelope), .ok _ => some ⟨(envelope.bootId, call.suffix), envelope.seq, envelope.sourceTime⟩
  | _, _ => none

/-- The messages accepted in a run, in order. -/
def Adapter.accepted (a : Adapter) : List Call → List Accepted
  | [] => []
  | call :: calls => (a.acceptedOf lib settings call).toList ++ Adapter.accepted (a.step lib settings call) calls

/-! ## Well-formed contents -/

/-- `str(value)` is the text. -/
def Reads (value : JsonTree) (text : JsonText) : Prop := lib.str value = .ok text

/-- `str(value)` does not raise. -/
def Writes (value : JsonTree) : Prop := (lib.str value).Passes

/-- `float(value)` does not raise. -/
def IsFloat (value : JsonTree) : Prop := (float lib.floatOf value).Passes

/-- The fields of `position`. -/
def positionOf (payload : Payload) : Payload :=
  match field payload "position" with
  | some (.obj position) => position
  | _ => []

/-- The contents are read without an error. -/
def WellFormed (verified : Bool) (payload : Payload) : String → Prop
  | "map" => ∀ name ∈ ["site_code", "map_code", "map_version", "map_checksum"],
      (firstOf payload .null [name]).truthy = true ∧ Writes lib (firstOf payload .null [name])
  | "availability" => ∃ text, Reads lib (firstOf payload (.str "") ["state"]) text ∧
      (lib.lower text = "online" ∨ lib.lower text = "offline")
  | "pose" => (∀ position, field payload "position" = some position → position.isObject = true) ∧
      IsFloat lib (firstOf payload (firstOf (positionOf payload) .null ["x"]) ["x"]) ∧
      IsFloat lib (firstOf payload (firstOf (positionOf payload) .null ["y"]) ["y"]) ∧
      IsFloat lib (firstOf payload (firstOf (positionOf payload) .null ["theta"]) ["yaw", "theta"]) ∧
      Reads lib (firstOf payload (.str "map") ["frame_id"]) "map" ∧
      (verified = true → Writes lib (firstOf payload (.str "VALID_SOURCE") ["localization_status"]))
  | "odom" => IsFloat lib (firstOf payload .null ["vx", "linear_x", "linear_speed"]) ∧
      IsFloat lib (firstOf payload (.real 0) ["vy", "linear_y"]) ∧
      IsFloat lib (firstOf payload .null ["wz", "angular_z", "angular_speed"])
  | "battery" => IsFloat lib (firstOf payload .null ["battery_percentage", "percentage", "battery"])
  | "status" => ∃ text, Reads lib (givenMode payload) text ∧
      (lib.isdigit (lib.upper text) = true → ∃ digits, (lib.upper text).plain = some digits ∧
        (pyInt digits.toList).isSome = true)
  | "heartbeat" => IsFloat lib (firstOf payload (.int 0) ["uptime_sec", "uptime_seconds"])
  | "nav_status" | "nav_result" => Writes lib (firstOf payload (.str "UNKNOWN") ["status", "state"])
  | _ => True

/-- The call does not come to the contents, or they are well formed. -/
def Clean (a : Adapter) (call : Call) : Prop :=
  ∀ externalId payload envelope, a.opened lib settings call = .ok (externalId, payload, envelope) →
    WellFormed lib a.mapVerified payload call.suffix

/-! ## The contents -/

section

variable {lib : Library} {settings : Settings} {a : Adapter} {payload : Payload} {externalId messageId : JsonText}
variable {sourceTime : Time}

/-- What an exception of the ingress becomes passes where that does. -/
theorem passes_raise {α : Type} {x : Except MqttIngress.Raised α} : (raise x).Passes ↔ x.Passes := by
  cases x with
  | ok y => exact iff_of_true (Except.passes_ok _) (Except.passes_ok _)
  | error e => exact iff_of_false (Except.not_passes_error _) (Except.not_passes_error _)

/-- And gives the same value. -/
theorem raise_eq_ok {α : Type} {x : Except MqttIngress.Raised α} {y : α} : raise x = .ok y ↔ x = .ok y := by
  cases x with
  | ok z => simp [raise]
  | error e => simp [raise]

/-- `str` gives a text exactly where the value reads as it. -/
theorem strOf_eq_ok {value : JsonTree} {text : JsonText} : strOf lib value = .ok text ↔ Reads lib value text := raise_eq_ok

/-- `str` passes exactly where the value can be written. -/
theorem passes_strOf {value : JsonTree} : (strOf lib value).Passes ↔ Writes lib value := passes_raise

/-- `float` passes exactly where the value is one. -/
theorem passes_floatOf {value : JsonTree} : (floatOf lib value).Passes ↔ IsFloat lib value := passes_raise

/-- A missing value is no float. -/
theorem IsFloat.not_null {value : JsonTree} (h : IsFloat lib value) : value.isNull = false := by
  cases value with
  | null => exact absurd h (Except.not_passes_error _)
  | _ => rfl

/-- A check passes exactly if its condition is false and what follows passes. -/
theorem passes_guard {α : Type} {c : Prop} [Decidable c] {e : Failure} {y : PUnit → Except Failure α}
    {x : Except Failure α} : (if c then (throw e : Except Failure PUnit) >>= y else x).Passes ↔ ¬ c ∧ x.Passes := by
  by_cases h : c
  · rw [if_pos h]
    exact iff_of_false (Except.not_passes_error _) fun both => both.1 h
  · rw [if_neg h]
    exact (and_iff_right h).symm

theorem passes_pure {α : Type} (x : α) : (pure x : Except Failure α).Passes ↔ True := iff_true_intro (Except.passes_ok x)

/-- A computation whose value the rest does not need. -/
theorem passes_and {α : Type} {x : Except Failure α} {p : Prop} : (∃ y, x = .ok y ∧ p) ↔ x.Passes ∧ p :=
  exists_and_right

variable {verified : Bool}

/-- A map passes exactly if it is well formed. -/
theorem readMap_passes : (readMap lib payload).Passes ↔ WellFormed lib verified payload "map" := by
  unfold readMap mapField
  simp only [passes_guard, Except.passes_bind, passes_pure, passes_and, passes_strOf]
  simp only [and_true]
  show _ ↔ ∀ name ∈ ["site_code", "map_code", "map_version", "map_checksum"], _
  rw [forall₂_and, List.any_eq_true]
  refine and_congr ?_ ?_
  · simp only [not_exists, not_and, Bool.not_eq_true', Bool.not_eq_false]
  · simp only [List.forall_mem_cons, List.not_mem_nil, false_implies, implies_true, and_true]

/-- So does an availability. -/
theorem readState_passes : (readState lib payload).Passes ↔ WellFormed lib verified payload "availability" := by
  unfold readState
  simp only [Except.passes_bind, strOf_eq_ok, passes_guard, passes_pure, and_true]
  show (∃ text, _ ∧ _) ↔ ∃ text, _ ∧ _
  refine exists_congr fun text => and_congr_right fun _ => ?_
  rw [not_and_or, not_not, not_not]

/-- `position` is read of an object, and of a payload without it. -/
theorem positionField_eq_ok {name : String} {value : JsonTree} :
    positionField payload name = .ok value ↔
      (∀ position, field payload "position" = some position → position.isObject = true) ∧
        firstOf (positionOf payload) .null [name] = value := by
  unfold positionField positionOf
  cases found : field payload "position" with
  | none => simp [firstOf, field]
  | some position => cases position <;> simp [JsonTree.isObject]

/-- A pose passes exactly if its position is an object or missing and its coordinates are floats. -/
theorem readPose_passes : (readPose lib payload).Passes ↔
    (∀ position, field payload "position" = some position → position.isObject = true) ∧
      IsFloat lib (firstOf payload (firstOf (positionOf payload) .null ["x"]) ["x"]) ∧
      IsFloat lib (firstOf payload (firstOf (positionOf payload) .null ["y"]) ["y"]) ∧
      IsFloat lib (firstOf payload (firstOf (positionOf payload) .null ["theta"]) ["yaw", "theta"]) := by
  unfold readPose
  simp only [Except.passes_bind, positionField_eq_ok, passes_guard, passes_pure, passes_and, passes_floatOf]
  simp only [and_true]
  constructor
  · rintro ⟨x, ⟨object, rfl⟩, y, ⟨_, rfl⟩, theta, ⟨_, rfl⟩, _, floats⟩
    exact ⟨object, floats⟩
  · rintro ⟨object, floats⟩
    refine ⟨_, ⟨object, rfl⟩, _, ⟨object, rfl⟩, _, ⟨object, rfl⟩, ?_, floats⟩
    rw [floats.1.not_null, floats.2.1.not_null, floats.2.2.not_null]
    simp

/-- A frame passes exactly if it reads as the map. -/
theorem readFrame_passes :
    (readFrame lib payload).Passes ↔ Reads lib (firstOf payload (.str "map") ["frame_id"]) "map" := by
  unfold readFrame
  simp only [Except.passes_bind, strOf_eq_ok, passes_guard, passes_pure, and_true, not_not]
  constructor
  · rintro ⟨frame, read, rfl⟩
    exact read
  · intro read
    exact ⟨_, read, rfl⟩

/-- A localization is written only where the map is verified. -/
theorem readLocalization_passes : (readLocalization lib verified payload).Passes ↔
    (verified = true → Writes lib (firstOf payload (.str "VALID_SOURCE") ["localization_status"])) := by
  unfold readLocalization
  cases verified with
  | false => simp [Except.passes_ok]
  | true => simp [passes_strOf]

/-- Odometry passes exactly if it is well formed. -/
theorem readOdom_passes : (readOdom lib payload).Passes ↔ WellFormed lib verified payload "odom" := by
  unfold readOdom
  simp only [Except.passes_bind, passes_guard, passes_pure, passes_and, passes_floatOf]
  simp only [and_true]
  show _ ↔ _ ∧ _ ∧ _
  refine and_iff_right_of_imp ?_
  intro floats
  rw [floats.1.not_null, floats.2.2.not_null]
  simp

/-- So does a battery. -/
theorem readBattery_passes : (readBattery lib payload).Passes ↔ WellFormed lib verified payload "battery" := by
  unfold readBattery
  simp only [Except.passes_bind, passes_guard, passes_pure, passes_and, passes_floatOf]
  simp only [and_true]
  refine and_iff_right_of_imp ?_
  intro float
  rw [float.not_null]
  simp

/-- So does a mode. -/
theorem readMode_passes : (readMode lib payload).Passes ↔ WellFormed lib verified payload "status" := by
  unfold readMode
  simp only [Except.passes_bind, strOf_eq_ok]
  show (∃ text, _ ∧ _) ↔ ∃ text, _ ∧ _
  refine exists_congr fun text => and_congr_right fun _ => ?_
  by_cases digits : lib.isdigit (lib.upper text) = true
  · rw [if_pos digits]
    cases plain : (lib.upper text).plain with
    | none => simp [digits, Except.Passes, throw, throwThe, MonadExceptOf.throw]
    | some chars =>
      cases int : pyInt chars.toList with
      | none => simp [digits, int, Except.Passes, throw, throwThe, MonadExceptOf.throw]
      | some mode => simp [digits, int, passes_pure]
  · rw [if_neg digits]
    refine iff_of_true ?_ fun yes => absurd yes digits
    split
    · exact Except.passes_ok _
    · split
      · exact Except.passes_ok _
      · exact Except.passes_ok _

/-- So does a heartbeat. -/
theorem readUptime_passes : (readUptime lib payload).Passes ↔ WellFormed lib verified payload "heartbeat" := by
  unfold readUptime
  simp only [Except.passes_bind, passes_pure, passes_and, passes_floatOf]
  exact iff_of_eq (and_true _)

/-- A pose is published exactly if it is well formed. -/
theorem normalizePose_passes : (a.normalizePose lib settings payload sourceTime messageId).2.Passes ↔
    WellFormed lib a.mapVerified payload "pose" := by
  show _ ↔ _ ∧ _ ∧ _ ∧ _ ∧ _ ∧ _
  rw [← readFrame_passes, ← readLocalization_passes]
  have pose := @readPose_passes lib payload
  unfold Adapter.normalizePose
  cases read : readPose lib payload with
  | error e =>
    rw [read] at pose
    refine iff_of_false (Except.not_passes_error _) fun well => ?_
    exact Except.not_passes_error _ (pose.mpr ⟨well.1, well.2.1, well.2.2.1, well.2.2.2.1⟩)
  | ok floats =>
    rw [read] at pose
    obtain ⟨object, x, y, theta⟩ := pose.mp (Except.passes_ok _)
    cases readFrame lib payload with
    | error e => exact iff_of_false (Except.not_passes_error _) fun well => Except.not_passes_error _ well.2.2.2.2.1
    | ok frame =>
      dsimp only
      split
      · rename_i e failed
        have local_ : readLocalization lib a.mapVerified payload = .error e := failed
        rw [local_]
        exact iff_of_false (Except.not_passes_error _) fun well => Except.not_passes_error _ well.2.2.2.2.2
      · rename_i localization read
        have local_ : readLocalization lib a.mapVerified payload = .ok localization := read
        rw [local_]
        exact iff_of_true (Except.passes_ok _) ⟨object, x, y, theta, Except.passes_ok _, Except.passes_ok _⟩

/-- The contents are read exactly if they are well formed. -/
theorem normalizeContents_passes {suffix : String} :
    (a.normalizeContents lib settings externalId payload sourceTime messageId suffix).2.Passes ↔
      WellFormed lib a.mapVerified payload suffix := by
  unfold Adapter.normalizeContents
  split
  · rw [← readMap_passes]
    unfold Adapter.normalizeMap
    cases readMap lib payload <;> simp [Except.Passes]
  · rw [← readState_passes]
    unfold Adapter.normalizeAvailability
    cases readState lib payload <;> simp [Except.Passes]
  · exact normalizePose_passes
  · rw [← readOdom_passes]
    unfold Adapter.normalizeOdom
    cases readOdom lib payload <;> simp [Except.Passes]
  · rw [← readBattery_passes]
    unfold Adapter.normalizeBattery
    cases readBattery lib payload <;> simp [Except.Passes]
  · rw [← readMode_passes]
    unfold Adapter.normalizeStatus
    cases readMode lib payload <;> simp [Except.Passes]
  · rw [← readUptime_passes]
    unfold Adapter.normalizeHeartbeat
    cases readUptime lib payload <;> simp [Except.Passes]
  · show _ ↔ Writes lib _
    rw [← passes_strOf]
    unfold Adapter.normalizeNavigation readStatus
    cases strOf lib (firstOf payload (.str "UNKNOWN") ["status", "state"]) <;> simp [Except.Passes]
  · show _ ↔ Writes lib _
    rw [← passes_strOf]
    unfold Adapter.normalizeNavigation readStatus
    cases strOf lib (firstOf payload (.str "UNKNOWN") ["status", "state"]) <;> simp [Except.Passes]
  · rename_i map availability pose odom battery status heartbeat nav_status nav_result
    refine iff_of_true (Except.passes_ok _) ?_
    unfold WellFormed
    split <;> first | contradiction | trivial

/-- The contents change nothing of what is remembered of the order. -/
structure SameOrder (a a' : Adapter) : Prop where
  lastSequences : a'.lastSequences = a.lastSequences
  lastSourceTimes : a'.lastSourceTimes = a.lastSourceTimes

/-- A message publishes after what it stores. -/
theorem normalizeContents_order {suffix : String} :
    SameOrder a (a.normalizeContents lib settings externalId payload sourceTime messageId suffix).1 := by
  unfold Adapter.normalizeContents
  split
  · unfold Adapter.normalizeMap
    split <;> exact ⟨rfl, rfl⟩
  · unfold Adapter.normalizeAvailability
    split <;> exact ⟨rfl, rfl⟩
  · unfold Adapter.normalizePose
    split
    · exact ⟨rfl, rfl⟩
    · dsimp only
      split
      · exact ⟨rfl, rfl⟩
      · split
        · exact ⟨rfl, rfl⟩
        · split <;> exact ⟨rfl, rfl⟩
  · unfold Adapter.normalizeOdom
    split <;> exact ⟨rfl, rfl⟩
  · unfold Adapter.normalizeBattery
    split <;> exact ⟨rfl, rfl⟩
  · unfold Adapter.normalizeStatus
    split <;> exact ⟨rfl, rfl⟩
  · unfold Adapter.normalizeHeartbeat
    split <;> exact ⟨rfl, rfl⟩
  · unfold Adapter.normalizeNavigation
    split <;> exact ⟨rfl, rfl⟩
  · unfold Adapter.normalizeNavigation
    split <;> exact ⟨rfl, rfl⟩
  · exact ⟨rfl, rfl⟩

/-! ## A call -/

/-- A call that does not come to the contents keeps everything, and one that does has a new number and no earlier
time, which it remembers. -/
theorem normalize_cases (a : Adapter) (call : Call) :
    ((∃ e, (a.normalize lib settings call).2 = .error e) ∧ (∃ e, a.opened lib settings call = .error e) ∧
        Kept a (a.normalize lib settings call).1) ∨
      ∃ externalId payload envelope, a.opened lib settings call = .ok (externalId, payload, envelope) ∧
        a.checkOrder call.suffix envelope = .ok () ∧
        SameOrder (a.remember call.suffix envelope) (a.normalize lib settings call).1 ∧
        ((a.normalize lib settings call).2.Passes ↔ WellFormed lib a.mapVerified payload call.suffix) := by
  have drawn : Kept a (a.draw call) := by
    unfold Adapter.draw
    split <;> exact ⟨rfl, rfl, rfl, rfl⟩
  unfold Adapter.normalize
  cases external : a.externalIdOf lib call with
  | error e =>
    refine .inl ⟨⟨e, rfl⟩, ⟨e, ?_⟩, ⟨rfl, rfl, rfl, rfl⟩⟩
    unfold Adapter.opened
    rw [external]
    rfl
  | ok externalId =>
    cases opened : a.opened lib settings call with
    | error e => exact .inl ⟨⟨e, rfl⟩, ⟨e, rfl⟩, drawn⟩
    | ok read =>
      obtain ⟨externalId', payload, envelope⟩ := read
      refine .inr ⟨externalId', payload, envelope, rfl, ?_, ?_, ?_⟩
      · unfold Adapter.opened at opened
        obtain ⟨_, _, opened⟩ := Except.bind_eq_ok.mp opened
        obtain ⟨_, _, opened⟩ := Except.bind_eq_ok.mp opened
        obtain ⟨envelope', _, opened⟩ := Except.bind_eq_ok.mp opened
        obtain ⟨_, order, opened⟩ := Except.bind_eq_ok.mp opened
        cases opened
        exact order
      · have order := @normalizeContents_order lib settings ((a.draw call).remember call.suffix envelope) payload externalId'
          call.messageId envelope.sourceTime call.suffix
        refine ⟨order.lastSequences.trans ?_, order.lastSourceTimes.trans ?_⟩
        · unfold Adapter.remember
          dsimp only
          rw [drawn.lastSequences]
        · unfold Adapter.remember
          dsimp only
          rw [drawn.lastSourceTimes]
      · refine normalizeContents_passes.trans ?_
        have verified : ((a.draw call).remember call.suffix envelope).mapVerified = a.mapVerified := by
          unfold Adapter.mapVerified Adapter.mapFacts Adapter.remember
          dsimp only
          rw [drawn.mapIdentity]
        rw [verified]

/-- What is in order has a new number and no earlier time. -/
theorem checkOrder_eq_ok {suffix : String} {envelope : Envelope} : a.checkOrder suffix envelope = .ok () ↔
    (∀ last, a.lastSequences (envelope.bootId, suffix) = some last → last < envelope.seq) ∧
      ∀ last, a.lastSourceTimes (envelope.bootId, suffix) = some last → last ≤ envelope.sourceTime := by
  unfold Adapter.checkOrder
  dsimp only
  split
  · rename_i late
    refine iff_of_false (by simp) fun order => ?_
    obtain ⟨last, found, le⟩ := (Option.any_eq_true _ _).mp late
    exact absurd (order.1 last found) (not_lt_of_ge (of_decide_eq_true le))
  · rename_i fresh
    have newer : ∀ last, a.lastSequences (envelope.bootId, suffix) = some last → last < envelope.seq := by
      intro last found
      by_contra old
      exact fresh ((Option.any_eq_true _ _).mpr ⟨last, found, decide_eq_true (not_lt.mp old)⟩)
    split
    · rename_i early
      refine iff_of_false (by simp) fun order => ?_
      obtain ⟨last, found, lt⟩ := (Option.any_eq_true _ _).mp early
      exact absurd (order.2 last found) (Int.not_le_of_gt (of_decide_eq_true lt))
    · rename_i later
      refine iff_of_true rfl ⟨newer, fun last found => ?_⟩
      by_contra early
      exact later ((Option.any_eq_true _ _).mpr ⟨last, found, decide_eq_true (Int.not_le.mp early)⟩)

/-- A call keeps everything when it is refused exactly if it is clean: an envelope that has passed is remembered. -/
theorem kept_iff_clean (a : Adapter) (call : Call) :
    (∀ failure, (a.normalize lib settings call).2 = .error failure → Kept a (a.normalize lib settings call).1) ↔
      Clean lib settings a call := by
  rcases normalize_cases a call with ⟨_, ⟨e, failed⟩, kept⟩ | ⟨externalId, payload, envelope, opened, order, same, passes⟩
  · refine iff_of_true (fun _ _ => kept) ?_
    intro externalId payload envelope opened
    rw [failed] at opened
    cases opened
  · have clean : Clean lib settings a call ↔ WellFormed lib a.mapVerified payload call.suffix := by
      constructor
      · intro clean
        exact clean externalId payload envelope opened
      · intro well externalId' payload' envelope' opened'
        rw [opened] at opened'
        cases opened'
        exact well
    rw [clean, ← passes]
    constructor
    · intro keeps
      cases result : (a.normalize lib settings call).2 with
      | ok messages => exact Except.passes_ok _
      | error failure =>
        have before := (keeps failure result).lastSequences
        have now : (a.normalize lib settings call).1.lastSequences (envelope.bootId, call.suffix) = some envelope.seq := by
          rw [same.lastSequences]
          exact Function.update_self ..
        rw [before] at now
        exact absurd ((checkOrder_eq_ok.mp order).1 _ now) (lt_irrefl _)
    · rintro ⟨messages, returned⟩ failure failed
      rw [returned] at failed
      cases failed

/-! ## The order -/

/-- The adapter remembers a number and a time at least as great. -/
def Remembers (a : Adapter) (m : Accepted) : Prop :=
  ∃ seq sourceTime, a.lastSequences m.key = some seq ∧ m.seq ≤ seq ∧
    a.lastSourceTimes m.key = some sourceTime ∧ m.sourceTime ≤ sourceTime

/-- What is remembered stays so. -/
theorem Remembers.step {m : Accepted} (remembers : Remembers a m) (call : Call) :
    Remembers (a.step lib settings call) m := by
  obtain ⟨seq, sourceTime, number, le, time, le'⟩ := remembers
  unfold Adapter.step Remembers
  rcases @normalize_cases lib settings a call with ⟨_, _, kept⟩ | ⟨_, _, envelope, _, order, same, _⟩
  · rw [kept.lastSequences, kept.lastSourceTimes]
    exact ⟨seq, sourceTime, number, le, time, le'⟩
  · rw [same.lastSequences, same.lastSourceTimes]
    unfold Adapter.remember
    dsimp only
    obtain ⟨newer, later⟩ := checkOrder_eq_ok.mp order
    by_cases own : m.key = (envelope.bootId, call.suffix)
    · rw [own] at number time ⊢
      rw [Function.update_self, Function.update_self]
      exact ⟨_, _, rfl, le.trans (newer seq number).le, rfl, Int.le_trans le' (later sourceTime time)⟩
    · rw [Function.update_of_ne own, Function.update_of_ne own]
      exact ⟨seq, sourceTime, number, le, time, le'⟩

/-- An accepted message is after all that is remembered, and remembered itself. -/
theorem acceptedOf_spec {call : Call} {m : Accepted} (h : a.acceptedOf lib settings call = some m) :
    (∀ old, Remembers a old → InOrder old m) ∧ Remembers (a.step lib settings call) m := by
  unfold Adapter.acceptedOf at h
  rcases @normalize_cases lib settings a call with ⟨_, ⟨e, failed⟩, _⟩ | ⟨_, _, envelope, opened, order, same, _⟩
  · rw [failed] at h
    cases h
  · rw [opened] at h
    cases result : (a.normalize lib settings call).2 with
    | error failure =>
      rw [result] at h
      cases h
    | ok messages =>
      rw [result] at h
      cases h
      obtain ⟨newer, later⟩ := checkOrder_eq_ok.mp order
      constructor
      · intro old remembers same
        obtain ⟨seq, sourceTime, number, le, time, le'⟩ := remembers
        rw [same] at number time
        exact ⟨le.trans_lt (newer seq number), Int.le_trans le' (later sourceTime time)⟩
      · refine ⟨envelope.seq, envelope.sourceTime, ?_, le_rfl, ?_, Int.le_refl _⟩
        · show (a.normalize lib settings call).1.lastSequences _ = _
          rw [same.lastSequences]
          exact Function.update_self ..
        · show (a.normalize lib settings call).1.lastSourceTimes _ = _
          rw [same.lastSourceTimes]
          exact Function.update_self ..

/-- Everything that a run accepts is after what was remembered before it. -/
theorem accepted_after (calls : List Call) {old : Accepted} (remembers : Remembers a old) :
    ∀ m ∈ a.accepted lib settings calls, InOrder old m := by
  induction calls generalizing a with
  | nil => exact fun _ none => absurd none List.not_mem_nil
  | cons call calls ih =>
    intro m mem
    rcases List.mem_append.mp mem with now | then_
    · exact (acceptedOf_spec (Option.mem_toList.mp now)).1 old remembers
    · exact ih (remembers.step call) m then_

/-- The accepted messages are in order, pair by pair. -/
theorem accepted_pairwise (a : Adapter) (calls : List Call) : (a.accepted lib settings calls).Pairwise InOrder := by
  induction calls generalizing a with
  | nil => exact List.Pairwise.nil
  | cons call calls ih =>
    refine List.pairwise_append.mpr ⟨?_, ih _, ?_⟩
    · cases a.acceptedOf lib settings call with
      | none => exact List.Pairwise.nil
      | some m => exact List.pairwise_singleton _ _
    · intro m now m' then_
      exact accepted_after calls (acceptedOf_spec (Option.mem_toList.mp now)).2 m' then_

end

/-- In a run every refused message leaves the adapter as it was, and what is accepted of a boot and a suffix is in
order, exactly if no message whose envelope passes has contents that are not well formed. -/
theorem atomic_and_ordered_iff (lib : Library) (settings : Settings) (a : Adapter) (calls : List Call) :
    ((∀ before call after, calls = before ++ call :: after →
        ∀ failure, ((Runs.run (Adapter.step lib settings) a before).normalize lib settings call).2 = .error failure →
          Kept (Runs.run (Adapter.step lib settings) a before)
            ((Runs.run (Adapter.step lib settings) a before).normalize lib settings call).1) ∧
      (a.accepted lib settings calls).Pairwise InOrder) ↔
    Runs.Meets (Adapter.step lib settings) (Clean lib settings) a calls := by
  rw [Runs.meets_iff, and_iff_left (accepted_pairwise a calls)]
  constructor
  · intro keeps before call after split
    exact (kept_iff_clean _ call).mp (keeps before call after split)
  · intro clean before call after split
    exact (kept_iff_clean _ call).mpr (clean before call after split)

/-- A library for texts, one id and one time. -/
def someLibrary : Library where
  str
    | .str text => .ok text
    | _ => .error .typeError
  lower := id
  upper := id
  isdigit _ := false
  floatOf _ := none
  hypot x _ := x
  isUuid text := text = "6f1c6a0e-1d2b-4c3d-8e4f-5a6b7c8d9e0f"
  fromtimestamp _ := .error .valueError
  fromisoformat text := if text = "1970-01-01T00:00:00Z" then some ⟨true, .ok 0⟩ else none
  isoformat _ := "1970-01-01T00:00:00+00:00"

/-- The defaults of the settings. -/
def someSettings : Settings where
  internalId := "R001"
  heartbeatMaxAgeSeconds := 8
  poseMaxAgeSeconds := 2
  maxFutureSkewSeconds := 2

/-- An adapter that has seen nothing. -/
def someAdapter : Adapter where
  bootId := "6f1c6a0e-1d2b-4c3d-8e4f-5a6b7c8d9e0f"
  externalIdForNormalize := "firerobot-01"
  seq := 0
  latest := .obj []
  lastSequences := fun _ => none
  lastSourceTimes := fun _ => none
  mapIdentity := none

/-- An availability with its first number. -/
def someAvailability (state : String) : Call where
  suffix := "availability"
  payload := [("compat_schema_version", .str "1.1"), ("external_id", .str "firerobot-01"),
    ("bridge_boot_id", .str "6f1c6a0e-1d2b-4c3d-8e4f-5a6b7c8d9e0f"), ("seq", .int 1), ("ts", .str "1970-01-01T00:00:00Z"),
    ("state", .str state)]
  externalId := some "firerobot-01"
  received := some 0
  now := 0
  messageId := "m"

/-- What a call is refused with. -/
def refusal (a : Adapter) (call : Call) : Option Failure :=
  match (a.normalize someLibrary someSettings call).2 with
  | .error failure => some failure
  | .ok _ => none

/-- A call with a refusal fails with it. -/
theorem refusal_eq_some {a : Adapter} {call : Call} {failure : Failure} (h : refusal a call = some failure) :
    (a.normalize someLibrary someSettings call).2 = .error failure := by
  unfold refusal at h
  split at h
  · rename_i failure' same
    cases h
    exact same
  · cases h

/-- A refused availability uses its number up, and the corrected one is refused for it. -/
theorem busy_remembered :
    ¬ (∀ failure, (someAdapter.normalize someLibrary someSettings (someAvailability "busy")).2 = .error failure →
      Kept someAdapter (someAdapter.normalize someLibrary someSettings (someAvailability "busy")).1) ∧
    refusal someAdapter (someAvailability "online") = none ∧
    refusal (someAdapter.step someLibrary someSettings (someAvailability "busy")) (someAvailability "online") =
      some (.rejected "duplicate or out-of-order seq") := by
  refine ⟨?_, by decide +kernel, by decide +kernel⟩
  intro keeps
  have refused : refusal someAdapter (someAvailability "busy") =
      some (.rejected "availability state must be online/offline") := by decide +kernel
  have kept := (keeps _ (refusal_eq_some refused)).lastSequences
  have remembered : (someAdapter.step someLibrary someSettings (someAvailability "busy")).lastSequences
      ("6f1c6a0e-1d2b-4c3d-8e4f-5a6b7c8d9e0f", "availability") = some 1 := by decide +kernel
  have unseen : (someAdapter.step someLibrary someSettings (someAvailability "busy")).lastSequences
      ("6f1c6a0e-1d2b-4c3d-8e4f-5a6b7c8d9e0f", "availability") = none := congrFun kept _
  rw [remembered] at unseen
  cases unseen

end Firebot.RosCompat
