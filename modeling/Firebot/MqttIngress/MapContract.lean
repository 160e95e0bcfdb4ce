import Firebot.MqttIngress.Totality
import Firebot.MqttIngress.Works
import Firebot.Lib.Run

/-!
# The map contract of a robot behind the compatibility layer

`process_internal_compat` compares a reported map with the active one and stores the answer in
`map_contract_verified`. The calls are those about one robot and any others, in any order; the active versions
do not change. Beside the state stands what the last report of the robot's map has shown, and `Faithful` says
that the flag is that.

A report keeps the flag faithful. Every other message that reaches the transaction resets it (`Resets`). **The
flag is what the last report of the map has shown, in every state of a run, exactly if no message of another
kind is stored while it is set** (`map_contract_iff`). Nothing is said of an active version that is changed
without a report.
-/

namespace Firebot.MqttIngress

open Firebot.Robots

/-- A call of `process_internal_compat`. -/
structure CompatCall where
  moment : Moment
  kind : CompatKind
  payload : Payload

/-- `map_contract_verified` of a robot; it is false where there is no profile. -/
def verified (v : String) (s : State) : Bool :=
  (s.vehicles.lookup v).any fun vehicle => vehicle.profile.any (·.mapContractVerified)

section

variable (env : Env)

/-- The message is about the robot. -/
def about (v : String) (c : CompatMessage) : Bool :=
  match env.bind c.vehicleId with
  | .ok (some bound) => bound = v
  | _ => false

/-- The message reaches the transaction about the robot, and that is committed. -/
def commits (v : String) (s : State) (call : CompatCall) : Bool :=
  match readCompat env call.payload with
  | .ok c =>
    about env v c && (call.kind ≠ .odom || call.moment.metadataGate) &&
      (processInternalCompat env call.moment call.kind call.payload s).2 = .handled
  | .error _ => false

/-- The map of the site that a message names has an active version, and the message reports its version and its
checksum. -/
def matchesActive (siteId : String) (c : CompatMessage) : Bool :=
  match c.msg.get "map_code", c.msg.get "map_version", c.msg.get "map_checksum" with
  | some code, some (.str (.chars version)), some (.str (.chars checksum)) =>
    match env.bind code with
    | .ok (some name) => (env.maps siteId name).any fun row => row.active = some (version, checksum)
    | _ => false
  | _, _, _ => false

/-- What a call reports of the robot's map. -/
def report (v : String) (s : State) (call : CompatCall) : Option Bool :=
  if call.kind = .map && commits env v s call then
    match readCompat env call.payload, s.vehicles.lookup v with
    | .ok c, some vehicle => some (matchesActive env vehicle.robot.siteId c)
    | _, _ => none
  else none

/-- The state, and what the last report of the robot's map has shown. -/
structure Watched where
  state : State
  last : Option Bool

/-- One call. -/
def Watched.step (v : String) (x : Watched) (call : CompatCall) : Watched where
  state := (processInternalCompat env call.moment call.kind call.payload x.state).1
  last := (report env v x.state call).or x.last

/-- The flag is set exactly where there was a report, and the last one matched. -/
def Watched.Faithful (v : String) (x : Watched) : Prop := verified v x.state = true ↔ x.last = some true

/-- A message of another kind is stored while the flag is set. -/
def Resets (v : String) (x : Watched) (call : CompatCall) : Prop :=
  call.kind ≠ .map ∧ verified v x.state = true ∧ commits env v x.state call = true

end

/-! ## The transaction -/

section

variable {env : Env} {m : Moment} {r : Redis} {c : CompatMessage} {kind : CompatKind} {w w' : Work}

/-- The flag in a transaction. -/
def Work.verified (w : Work) : Bool := w.vehicle.profile.any (·.mapContractVerified)

/-- Ending the boot session leaves the profile. -/
theorem endCurrent_profile (boot : JsonTree) (w : Work) :
    (w.endCurrent m r boot).vehicle.profile = w.vehicle.profile := by
  unfold Work.endCurrent
  split
  · rfl
  · split
    · rfl
    · rw [(invalidateOldBootLeases_vehicle _ _ _).1]
      rfl

/-- Accepting a boot leaves the profile alone. -/
theorem acceptBootSession_profile (type : String) (boot : JsonTree) (bound : String) (w : Work) :
    (w.acceptBootSession m r type boot bound).1.vehicle.profile = w.vehicle.profile := by
  unfold Work.acceptBootSession
  dsimp only
  split
  · rfl
  · split
    · rfl
    · split
      · rfl
      · unfold Work.establish
        dsimp only
        split <;> exact endCurrent_profile boot w

/-- What a message does to the rows stays within the vehicle. -/
theorem compatBody_vehicleId {latest latest' : JsonTree}
    (h : compatBody env m c r kind latest w = .ok (w', latest')) : w'.vehicleId = w.vehicleId := by
  by_cases availability : kind = .availability
  · subst availability
    obtain ⟨state, _, boot, bound, _, _, _, _, rfl, _⟩ := compatBody_availability h
    exact (acceptBootSession_presence "availability" boot bound _).vehicleId
  · exact (compatBody_keeps availability h).1.vehicleId

/-- Stamping channels leaves the profile. -/
theorem channels_profile (names : List String) (f : Channel → Channel) (w : Work) :
    (names.foldl (fun w name => w.channel name f) w).vehicle.profile = w.vehicle.profile := by
  induction names generalizing w with
  | nil => rfl
  | cons name names ih => exact ih (w.channel name f)

/-- The channels of an internal message leave the profile. -/
theorem compatChannels_profile (w : Work) : (compatChannels m c kind w).vehicle.profile = w.vehicle.profile := by
  unfold compatChannels
  dsimp only
  rw [channels_profile, channels_profile]
  rfl

/-- The rows of every message: the flag survives only in a report of the map. -/
theorem compatRows_verified (w : Work) :
    (compatRows env m c kind w).verified = if kind = .map then w.verified else false := by
  show (if kind = .map then (w.vehicle.profile.getD .initial).mapContractVerified else false) = _
  split
  · unfold Work.verified
    cases w.vehicle.profile <;> rfl
  · rfl

/-- A change of the profile that leaves the flag alone. -/
theorem verified_profile {f : Integration → Integration}
    (kept : ∀ profile, (f profile).mapContractVerified = profile.mapContractVerified) (w : Work) :
    (w.profile f).verified = w.verified := by
  show (f (w.vehicle.profile.getD .initial)).mapContractVerified = _
  rw [kept]
  unfold Work.verified
  cases w.vehicle.profile <;> rfl

@[simp] theorem verified_queue (operation : Operation) (w : Work) : (w.queue operation).verified = w.verified := rfl

@[simp] theorem verified_queueEvent (type : String) (payload : JsonTree) (w : Work) :
    (w.queueEvent type payload).verified = w.verified := rfl

@[simp] theorem vehicleId_queue (operation : Operation) (w : Work) : (w.queue operation).vehicleId = w.vehicleId := rfl

@[simp] theorem vehicleId_queueEvent (type : String) (payload : JsonTree) (w : Work) :
    (w.queueEvent type payload).vehicleId = w.vehicleId := rfl

@[simp] theorem vehicleId_compatChannels (w : Work) : (compatChannels m c kind w).vehicleId = w.vehicleId :=
  (compatChannels_keep m c kind w).1.vehicleId

@[simp] theorem compatChannels_verified (w : Work) : (compatChannels m c kind w).verified = w.verified := by
  unfold Work.verified
  rw [compatChannels_profile]

/-- What `compat_map` finds is whether the report gives the active version and its checksum. -/
theorem mapVerified_eq_matchesActive {siteId : String} {code version checksum : JsonTree} {bound : Option String}
    (named : c.msg.get "map_code" = some code) (versioned : c.msg.get "map_version" = some version)
    (summed : c.msg.get "map_checksum" = some checksum) (stored : env.bind code = .ok bound) :
    mapVerified env siteId bound version checksum = matchesActive env siteId c := by
  apply Bool.eq_iff_iff.mpr
  unfold mapVerified matchesActive
  rw [named, versioned, summed, Option.any_eq_true]
  constructor
  · rintro ⟨⟨activeVersion, activeChecksum⟩, active, same⟩
    obtain ⟨sameVersion, sameChecksum⟩ := Bool.and_eq_true_iff.mp same
    obtain ⟨row, found, current⟩ := Option.bind_eq_some_iff.mp active
    obtain ⟨name, rfl, there⟩ := Option.bind_eq_some_iff.mp found
    rw [JsonTree.isText_iff.mp sameVersion, JsonTree.isText_iff.mp sameChecksum]
    dsimp only
    rw [stored]
    dsimp only
    rw [there]
    exact decide_eq_true current
  · split
    next code' version' checksum' code_eq version_eq checksum_eq =>
      cases code_eq
      cases version_eq
      cases checksum_eq
      rw [stored]
      split
      next name bound_eq =>
        cases bound_eq
        intro any
        obtain ⟨row, found, active⟩ := (Option.any_eq_true _ _).mp any
        refine ⟨(version', checksum'), ?_, ?_⟩
        · rw [Option.bind_some, found]
          exact of_decide_eq_true active
        · exact Bool.and_eq_true_iff.mpr ⟨JsonTree.isText_iff.mpr rfl, JsonTree.isText_iff.mpr rfl⟩
      · intro impossible
        cases impossible
    · intro impossible
      cases impossible

/-- What the kind of a message does to the flag. -/
theorem compatBody_verified {latest latest' : JsonTree} (h : compatBody env m c r kind latest w = .ok (w', latest')) :
    w'.verified = if kind = .map then matchesActive env w.vehicle.robot.siteId c else w.verified := by
  cases kind with
  | availability =>
    obtain ⟨state, _, boot, bound, _, _, _, _, rfl, _⟩ := compatBody_availability h
    show ((Work.acceptBootSession m r "availability" boot bound _).1.vehicle.profile.any _) = _
    rw [acceptBootSession_profile]
    exact verified_profile (fun _ => rfl) w
  | map =>
    obtain ⟨site, _, h⟩ := Except.bind_eq_ok.mp h
    obtain ⟨code, named, h⟩ := Except.bind_eq_ok.mp h
    obtain ⟨version, versioned, h⟩ := Except.bind_eq_ok.mp h
    obtain ⟨checksum, summed, h⟩ := Except.bind_eq_ok.mp h
    obtain ⟨bound, stored, h⟩ := Except.bind_eq_ok.mp h
    cases h
    rw [if_pos rfl, ← mapVerified_eq_matchesActive (field_eq_ok.mp named) (field_eq_ok.mp versioned)
      (field_eq_ok.mp summed) stored]
    rfl
  | status =>
    obtain ⟨value, _, h⟩ := Except.bind_eq_ok.mp h
    obtain ⟨mode, _, h⟩ := Except.bind_eq_ok.mp h
    cases h
    exact verified_profile (fun _ => rfl) _
  | battery =>
    obtain ⟨value, _, h⟩ := Except.bind_eq_ok.mp h
    obtain ⟨battery, _, h⟩ := Except.bind_eq_ok.mp h
    cases h
    rfl
  | odom =>
    cases h
    rfl
  | navStatus | navResult =>
    obtain ⟨status, _, h⟩ := Except.bind_eq_ok.mp h
    cases h
    rfl

/-- The flag after the whole transaction. -/
theorem compatWork_verified (h : compatWork env m c r kind w = .ok w') :
    w'.vehicleId = w.vehicleId ∧
      w'.verified = if kind = .map then matchesActive env w.vehicle.robot.siteId c else false := by
  unfold compatWork at h
  obtain ⟨key, keyed, h⟩ := Except.bind_eq_ok.mp h
  obtain ⟨⟨w₁, latest⟩, body, h⟩ := Except.bind_eq_ok.mp h
  cases h
  refine ⟨?_, ?_⟩
  · rw [vehicleId_queueEvent, vehicleId_compatChannels, vehicleId_queue, compatBody_vehicleId body]
    rfl
  · rw [verified_queueEvent, compatChannels_verified, verified_queue, compatBody_verified body,
      compatRows_verified]
    split <;> rfl

end

/-- The transaction about the message's robot is committed. -/
structure Stored (env : Env) (call : CompatCall) (s : State) (v : String) (vehicle : Vehicle) (c : CompatMessage)
    (s₁ : State) (w : Work) : Prop where
  read : readCompat env call.payload = .ok c
  vehicles : s₁.vehicles = s.vehicles
  bound : env.bind c.vehicleId = .ok (some v)
  found : s.vehicles.lookup v = some vehicle
  worked : compatWork env call.moment c s₁.redis call.kind (s₁.begin v vehicle) = .ok w
  ran : processInternalCompat env call.moment call.kind call.payload s = (s₁.commit w, .handled)
  gate : call.kind = .odom → call.moment.metadataGate = true

/-- No transaction is committed, and the robots' rows stay. -/
def Unstored (env : Env) (call : CompatCall) (s : State) : Prop :=
  (processInternalCompat env call.moment call.kind call.payload s).1.vehicles = s.vehicles ∧
    ∀ v, commits env v s call = false

section

variable {env : Env} {s : State} {call : CompatCall}

/-- A call that is not handled, and writes no vehicle, stores nothing. -/
theorem unstored_of_ne_handled (same : (processInternalCompat env call.moment call.kind call.payload s).1.vehicles =
      s.vehicles)
    (unhandled : (processInternalCompat env call.moment call.kind call.payload s).2 ≠ .handled) :
    Unstored env call s := by
  refine ⟨same, fun v => ?_⟩
  unfold commits
  split
  · simp [unhandled]
  · rfl

/-- The transaction of a message, after the fast path if it is odometry. -/
theorem transaction_cases {c : CompatMessage} {s₁ : State} (read : readCompat env call.payload = .ok c)
    (same : s₁.vehicles = s.vehicles)
    (ran : processInternalCompat env call.moment call.kind call.payload s =
      compatTransaction env call.moment c call.kind s₁)
    (gate : call.kind = .odom → call.moment.metadataGate = true) :
    Unstored env call s ∨ ∃ v vehicle c s₁ w, Stored env call s v vehicle c s₁ w := by
  rcases compatTransaction_spec env call.moment call.kind c s₁ with
    ⟨o, unhandled, left⟩ | ⟨v, vehicle, w, bound, found, worked, _, committed⟩
  · left
    apply unstored_of_ne_handled
    · rw [ran, left]
      exact same
    · rw [ran, left]
      exact unhandled
  · right
    rw [same] at found
    exact ⟨v, vehicle, c, s₁, w, read, same, bound, found, worked, ran.trans committed, gate⟩

/-- A call is stored, with the work that it has done, or it is not. -/
theorem processInternalCompat_cases (env : Env) (s : State) (call : CompatCall) :
    Unstored env call s ∨ ∃ v vehicle c s₁ w, Stored env call s v vehicle c s₁ w := by
  cases read : readCompat env call.payload with
  | error e =>
    left
    have ran : processInternalCompat env call.moment call.kind call.payload s =
        (s, if e.rejectsCompat then .invalid else .escaped e) := by
      unfold processInternalCompat
      rw [read]
    apply unstored_of_ne_handled
    · rw [ran]
    · rw [ran]
      dsimp only
      split <;> simp
  | ok c =>
    by_cases odometry : call.kind = .odom
    · have spec := odomFast_spec env call.moment c s
      have kept : (odomFast env call.moment c s).1.vehicles = s.vehicles := by
        rcases spec with ⟨e, same⟩ | path
        · rw [same]
        · exact path.vehicles
      cases fast : odomFast env call.moment c s with
      | mk s₁ error =>
        rw [fast] at kept
        cases error with
        | some e =>
          have ran : processInternalCompat env call.moment call.kind call.payload s = (s₁, .escaped e) := by
            unfold processInternalCompat
            simp [read, odometry, fast]
          left
          apply unstored_of_ne_handled
          · rw [ran]
            exact kept
          · rw [ran]
            simp
        | none =>
          have ran : processInternalCompat env call.moment call.kind call.payload s =
              if call.moment.metadataGate then compatTransaction env call.moment c call.kind s₁ else (s₁, .handled) := by
            unfold processInternalCompat
            simp [read, odometry, fast]
          cases gate : call.moment.metadataGate with
          | true =>
            apply transaction_cases read kept _ (fun _ => gate)
            rw [ran]
            exact if_pos gate
          | false =>
            left
            rw [gate] at ran
            refine ⟨?_, fun v => ?_⟩
            · rw [ran]
              exact kept
            · unfold commits
              rw [read]
              simp [odometry, gate]
    · apply transaction_cases read rfl _ (fun here => absurd here odometry)
      unfold processInternalCompat
      rw [read]
      exact if_neg odometry

end

/-! ## The flag and the reports -/

section

variable {env : Env} {v : String} {x : Watched} {call : CompatCall}

/-- A call leaves the flag, or the transaction about the robot is committed and sets it. -/
theorem verified_step (env : Env) (v : String) (s : State) (call : CompatCall) :
    (commits env v s call = false ∧
      verified v (processInternalCompat env call.moment call.kind call.payload s).1 = verified v s) ∨
    ∃ vehicle c, commits env v s call = true ∧ readCompat env call.payload = .ok c ∧
      s.vehicles.lookup v = some vehicle ∧
      verified v (processInternalCompat env call.moment call.kind call.payload s).1 =
        if call.kind = .map then matchesActive env vehicle.robot.siteId c else false := by
  rcases processInternalCompat_cases env s call with ⟨same, none⟩ | ⟨v', vehicle, c, s₁, w, stored⟩
  · refine .inl ⟨none v, ?_⟩
    unfold verified
    rw [same]
  · obtain ⟨vehicleId, flag⟩ := compatWork_verified stored.worked
    have rows : (processInternalCompat env call.moment call.kind call.payload s).1.vehicles =
        s.vehicles.insert v' w.vehicle := by
      rw [stored.ran]
      show s₁.vehicles.insert w.vehicleId w.vehicle = _
      rw [stored.vehicles, vehicleId]
      rfl
    by_cases own : v' = v
    · subst own
      refine .inr ⟨vehicle, c, ?_, stored.read, stored.found, ?_⟩
      · unfold commits about
        rw [stored.read, stored.ran]
        dsimp only
        rw [stored.bound]
        by_cases odometry : call.kind = .odom
        · simp [odometry, stored.gate odometry]
        · simp [odometry]
      · unfold verified
        rw [rows, AList.lookup_insert]
        exact flag
    · refine .inl ⟨?_, ?_⟩
      · unfold commits about
        rw [stored.read]
        dsimp only
        rw [stored.bound]
        simp [own]
      · unfold verified
        rw [rows, AList.lookup_insert_ne (Ne.symm own)]

/-- A faithful flag stays so exactly if the call does not reset it. -/
theorem faithful_step (faithful : x.Faithful v) : (x.step env v call).Faithful v ↔ ¬ Resets env v x call := by
  have iff := faithful
  unfold Watched.Faithful at iff ⊢
  unfold Watched.step Resets report
  dsimp only
  rcases verified_step env v x.state call with ⟨unstored, same⟩ | ⟨vehicle, c, stored, read, found, flag⟩
  · rw [unstored, same, Bool.and_false]
    simp [iff]
  · rw [stored, flag, Bool.and_true, read, found]
    by_cases map : call.kind = .map
    · simp [map]
    · simp [map, iff]

end

/-- **From a state in which the robot's map is not verified, the flag is what the last report of the map has
shown, in every state of a run, exactly if no message of another kind is stored while it is set.** -/
theorem map_contract_iff (env : Env) (v : String) (s : State) (unverified : verified v s = false)
    (calls : List CompatCall) :
    (∀ before after, calls = before ++ after →
      (Runs.run (Watched.step env v) ⟨s, none⟩ before).Faithful v) ↔
      Runs.Meets (Watched.step env v) (fun x call => ¬ Resets env v x call) ⟨s, none⟩ calls := by
  have start : (⟨s, none⟩ : Watched).Faithful v := by
    unfold Watched.Faithful
    rw [unverified]
    simp
  exact Runs.states_iff (fun _ _ faithful => faithful_step faithful) start calls

/-! ## A report and a status -/

/-- A message of the robot `R1`, with these fields of its own. -/
def compatOf (fields : List (JsonText × JsonTree)) : JsonTree :=
  .obj (("internal_contract", .str "ros-compat-v1") :: ("vehicle_id", .str "R1") :: ("timestamp", .str "t0") ::
    fields)

/-- A database with one map, and what reads the two messages. -/
def oneMap : Env :=
  { Env.knowing
      [("map", compatOf [("site_code", .str "S"), ("map_code", .str "M"), ("map_version", .str "1"),
          ("map_checksum", .str "abc")]),
        ("status", compatOf [("mode", .str "IDLE")])]
      [("t0", 0)] with
    maps := fun _ code => if code = "M" then some ⟨"m1", some ("1", "abc")⟩ else none }

/-- The robot, without a profile. -/
def oneRobot : State := .ofVehicles [("R1", .initial "r1" "s1")]

/-- The report of the active map. -/
def mapReported : CompatCall := ⟨.plain 0, .map, Env.bytes "map"⟩

/-- A message that says nothing of the map. -/
def statusSent : CompatCall := ⟨.plain 0, .status, Env.bytes "status"⟩

/-- The status takes the verification away that the report has earned. -/
theorem status_resets :
    ¬ (Runs.run (Watched.step oneMap "R1") ⟨oneRobot, none⟩ [mapReported, statusSent]).Faithful "R1" := by
  unfold Watched.Faithful
  decide +kernel

/-- A status and then the report. -/
theorem report_verifies :
    (Runs.run (Watched.step oneMap "R1") ⟨oneRobot, none⟩ [statusSent, mapReported]).Faithful "R1" := by
  apply (map_contract_iff oneMap "R1" oneRobot (by decide +kernel) [statusSent, mapReported]).mpr _ _ [] rfl
  refine ⟨?_, ?_, trivial⟩ <;> (unfold Resets; decide +kernel)

end Firebot.MqttIngress
