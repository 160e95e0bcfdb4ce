import Firebot.MqttIngress.Sessions
import Firebot.MqttIngress.Totality
import Firebot.Platform.Actions

/-!
# Boots along a run

Every action leaves the boots of a robot or is one offer to them (`boots_act`), so the invariants of `Boots` hold
along runs. A message of a boot that is over is refused on the ordinary topics. On the internal ones the answer
is not looked at, and odometry does not even ask: such a message takes effect (`Orderly.current` excludes it).

**The boots of a robot stay in order in every run of orderly steps, and once a boot has been superseded,
messages that carry it change nothing but marks** (`boot_sessions`). Nothing is said of a vehicle that uses one
boot id twice.
-/

namespace Firebot.Platform

open Firebot.MqttIngress Firebot.Worker Firebot.Robots

/-! ## The boots of a robot in a state -/

/-- The boots of the robot of a vehicle. -/
def bootsOf (s : State) (v : String) : Option Boots := (s.vehicles.lookup v).map Vehicle.boots

/-- The robot's current boot. -/
def currentBoot (s : State) (v : String) : Option String := (bootsOf s v).bind Boots.current

/-- A call hands over a message about a vehicle that carries a boot. -/
inductive Carries (env : Env) (c : Call) (v boot : String) : Prop
  | ordinary {msg : JsonTree} (route : compatKind c.topic = none)
      (read : inspect env c.payload = .ok (.message msg))
      (own : textOf msg "vehicle_id" = v) (carried : textOf msg "boot_id" = boot)
  | internal {kind : CompatKind} {message : CompatMessage}
      (route : compatKind c.topic = some kind) (read : readCompat env c.payload = .ok message)
      (about : env.bind message.vehicleId = .ok (some v) ∨
        latestKey env message.vehicleId = .ok v)
      (carried : (message.msg.getD "bridge_boot_id").isText boot = true)

/-- An internal message reaches the document of latest values, or the rows of a robot. -/
def TakesEffect (env : Env) (m : Moment) (s : State) (kind : CompatKind) (message : CompatMessage) :
    Prop :=
  if kind = .odom then
    ∃ key latest, latestKey env message.vehicleId = .ok key ∧
      writable env (odomLatest env m message s.redis key) = .ok latest
  else
    (latestKey env message.vehicleId).Passes ∧ CompatFields env message.msg kind ∧
      m.commits = true ∧ ∃ row, env.bind message.vehicleId = .ok (some row) ∧
        (s.vehicles.lookup row).isSome = true

/-- A call that leaves the boots in order: a boot that it supersedes has an id and a session, and an internal
message that takes effect carries no boot that is over. -/
structure Orderly (env : Env) (v : String) (s : State) (c : Call) : Prop where
  ordinary : ∀ msg source boots, Checked env c.moment c.topic c.payload s msg source →
    textOf msg "vehicle_id" = v → c.moment.commits = true → bootsOf s v = some boots →
      boots.begins (.ofMessage msg) = true → boots.Recorded
  announced : ∀ a boots, announcement env c.topic c.payload = some a → a.row = v →
    c.moment.commits = true → bootsOf s v = some boots → boots.begins a.offer = true → boots.Recorded
  current : ∀ kind message boot boots, c.payload.length ≤ env.settings.maxMqttPayloadBytes →
    compatKind c.topic = some kind → readCompat env c.payload = .ok message →
      TakesEffect env c.moment s kind message → Carries env c v boot → bootsOf s v = some boots →
        ¬ boots.Over boot

/-- A step that leaves the boots in order. -/
def OrderlyStep (env : Env) (v : String) (s : State) : Action → Prop
  | .message c => Orderly env v s c
  | .tick .. | .expire _ => True

section

variable {env : Env} {s s' : State} {v : String} {c : Call}

theorem bootsOf_of_same (vehicles : s'.vehicles = s.vehicles) : bootsOf s' v = bootsOf s v := by
  unfold bootsOf
  rw [vehicles]

/-- The boots after a transaction. -/
theorem bootsOf_commit {w : Work} :
    bootsOf (s.commit w) v = if w.vehicleId = v then some w.vehicle.boots else bootsOf s v := by
  unfold bootsOf State.commit
  dsimp only
  split
  next own => rw [← own, AList.lookup_insert, Option.map_some]
  next other => rw [AList.lookup_insert_ne (Ne.symm other)]

/-! ## What a step does to the boots -/

/-- The boots are the same, or one offer further, and a boot that it supersedes was recorded. -/
inductive BootStep (before after : Option Boots) : Prop
  | same (same : after = before)
  | offer {boots : Boots} {received : Time} {o : Offer} (was : before = some boots)
      (becomes : after = some (boots.accept received o))
      (recorded : boots.begins o = true → boots.Recorded)

/-- A call is at most one offer to the boots of a robot. -/
theorem boots_deliver (orderly : Orderly env v s c) :
    BootStep (bootsOf s v) (bootsOf (deliver env s c) v) := by
  unfold MqttIngress.deliver
  have ways := processed env c.moment c.topic c.payload s
  cases result : process env c.moment c.topic c.payload s with
  | mk s' o =>
    rw [result] at ways
    cases ways with
    | quiet facts _ => exact .same (bootsOf_of_same facts.vehicles)
    | ordinary call =>
      rename_i msg vehicle source w₀ w
      obtain ⟨id, boots⟩ := call.boots_eq
      have after : bootsOf (((s.marks fun r => r.reserve msg).commit w).marks fun r =>
          r.settle msg .handled) v = if w.vehicleId = v then some w.vehicle.boots else bootsOf s v :=
        bootsOf_commit
      by_cases own : textOf msg "vehicle_id" = v
      · rw [if_pos (id.trans own), boots] at after
        have was : bootsOf s v = some vehicle.boots := by
          unfold bootsOf
          rw [← own, call.found, Option.map_some]
        exact .offer was after fun begins =>
          orderly.ordinary msg source _ call.toChecked own call.commits was begins
      · rw [if_neg (id ▸ own)] at after
        exact .same after
    | fast _ _ _ path =>
      cases path
      exact .same rfl
    | compat call =>
      rename_i kind message s₁ row vehicle w
      obtain ⟨id, kept⟩ := call.boots_eq
      have first : s₁.vehicles = s.vehicles := by
        rcases call.start with ⟨_, rfl⟩ | ⟨_, path⟩
        · rfl
        · cases path
          rfl
      have after : bootsOf (s₁.commit w) v =
          if w.vehicleId = v then some w.vehicle.boots else bootsOf s v := by
        rw [← bootsOf_of_same (v := v) first]
        exact bootsOf_commit
      by_cases own : row = v
      · rw [if_pos (id.trans own)] at after
        have was : bootsOf s v = some vehicle.boots := by
          unfold bootsOf
          rw [← own, ← first, call.found, Option.map_some]
        rcases kept with same | ⟨a, announced, row', boots⟩
        · rw [same, ← was] at after
          exact .same after
        · rw [boots] at after
          exact .offer was after fun begins =>
            orderly.announced a _ announced (row'.trans own) call.commits was begins
      · rw [if_neg (id ▸ own)] at after
        exact .same after

/-- Reconciling a robot leaves its boots. -/
theorem reconcileRobot_boots (settings : Settings) (r : Redis) (now : Time) (w : Work) :
    (reconcileRobot settings r now w).vehicle.boots = w.vehicle.boots := by
  have write : ∀ state, (writeState r state w).vehicle.boots = w.vehicle.boots := by
    intro state
    unfold writeState
    split <;> rfl
  unfold reconcileRobot
  split
  · exact write _
  · rw [(expireLease_keeps _ _ _ _ w.vehicleId).1, write]
  · rw [(expireLease_keeps _ _ _ _ w.vehicleId).1, write]

theorem fold_boots (settings : Settings) (now : Time) (rows : List (String × Vehicle))
    (t : Reconciliation)
    (rowsOf : ∀ row ∈ rows, (t.vehicles.lookup row.1).map Vehicle.boots = some row.2.boots) :
    ((rows.foldl (Reconciliation.next settings s now) t).vehicles.lookup v).map Vehicle.boots =
      (t.vehicles.lookup v).map Vehicle.boots := by
  induction rows generalizing t with
  | nil => rfl
  | cons row rows ih =>
    have boots := reconcileRobot_boots settings s.redis now
      { vehicleId := row.1, vehicle := row.2, control := t.control, business := s.business
        operations := t.operations, events := t.events }
    have kept : ∀ u, ((Reconciliation.next settings s now t row).vehicles.lookup u).map
        Vehicle.boots = (t.vehicles.lookup u).map Vehicle.boots := by
      intro u
      show (AList.lookup u (t.vehicles.insert row.1 _)).map Vehicle.boots = _
      by_cases own : u = row.1
      · rw [own, AList.lookup_insert, Option.map_some, rowsOf row List.mem_cons_self]
        exact congrArg some boots
      · rw [AList.lookup_insert_ne own]
    refine (ih _ fun other mem => ?_).trans (kept v)
    rw [kept]
    exact rowsOf other (List.mem_cons_of_mem _ mem)

/-- So does a tick. -/
theorem bootsOf_tick (settings : Settings) (now : Time) (commits : Bool) (s : State) :
    bootsOf (tick settings now commits s) v = bootsOf s v := by
  unfold tick bootsOf
  split
  · refine fold_boots settings now s.vehicles.rows _ fun row mem => ?_
    rw [Table.mem_rows.mp mem, Option.map_some]
  · rfl

/-- An action is at most one offer to the boots of a robot. -/
theorem boots_act {a : Action} (orderly : OrderlyStep env v s a) :
    BootStep (bootsOf s v) (bootsOf (act env s a) v) := by
  cases a with
  | message c => exact boots_deliver orderly
  | tick now commits => exact .same (bootsOf_tick env.settings now commits s)
  | expire gone => exact .same rfl

/-! ## Messages of a boot that is over -/

/-- The boot of a robot is over. -/
def IsOver (s : State) (v boot : String) : Prop := ∃ boots, bootsOf s v = some boots ∧ boots.Over boot

/-- A message of a boot that is over changes nothing but marks. -/
theorem IsOver.refused {boot : String} (ended : IsOver s v boot) (orderly : Orderly env v s c)
    (carries : Carries env c v boot) : SameFacts s (deliver env s c) := by
  obtain ⟨boots, was, ended⟩ := ended
  unfold MqttIngress.deliver
  have ways := processed env c.moment c.topic c.payload s
  cases result : process env c.moment c.topic c.payload s with
  | mk s' o =>
    rw [result] at ways
    cases ways with
    | quiet facts _ => exact facts
    | ordinary call =>
      rename_i msg vehicle source w₀ w
      cases carries with
      | internal route _ _ _ => cases route.symm.trans call.route
      | ordinary _ read own carried =>
        cases read.symm.trans call.read
        have row : vehicle.boots = boots := by
          unfold bootsOf at was
          rw [← own, call.found] at was
          exact Option.some.inj was
        subst row
        have refused : vehicle.acceptsBoot (textOf msg "type") (msg.getD "boot_id") boot = false :=
          ended.refused fun b same => carried ▸ (Offer.ofMessage msg).bound_eq b same
        have answer := acceptBootSession_answer c.moment (s.redis.reserve msg) (textOf msg "type")
          (msg.getD "boot_id") (textOf msg "boot_id") (s.begin (textOf msg "vehicle_id") vehicle)
        rw [call.accepted, carried] at answer
        cases answer.trans refused
    | fast fits route read path =>
      rename_i message
      have takes : TakesEffect env c.moment s .odom message := by
        cases path with
        | mk keyed made _ => exact ⟨_, _, keyed, made⟩
      exact absurd ended (orderly.current .odom message boot boots fits route read takes carries was)
    | compat call =>
      rename_i kind message s₁ row vehicle w
      have takes : TakesEffect env c.moment s kind message := by
        unfold TakesEffect
        rcases call.start with ⟨other, rfl⟩ | ⟨odometry, path⟩
        · rw [if_neg other]
          obtain ⟨keyed, fields⟩ := compatWork_passes.mp ⟨w, call.worked⟩
          exact ⟨keyed, fields, call.commits, row, call.bound, by rw [call.found]; rfl⟩
        · rw [if_pos odometry]
          cases path with
          | mk keyed made _ => exact ⟨_, _, keyed, made⟩
      exact absurd ended
        (orderly.current kind message boot boots call.fits call.route call.read takes carries was)

/-! ## Runs -/

theorem IsOver.step {boot : String} {a : Action} (ended : IsOver s v boot)
    (orderly : OrderlyStep env v s a) : IsOver (act env s a) v boot := by
  obtain ⟨boots, was, ended⟩ := ended
  cases boots_act orderly with
  | same same => exact ⟨boots, same.trans was, ended⟩
  | offer was' becomes _ =>
    cases was.symm.trans was'
    exact ⟨_, becomes, ended.accept⟩

/-- A boot that a step supersedes is over. -/
theorem isOver_of_superseded {boot : String} {a : Action} (orderly : OrderlyStep env v s a)
    (was : currentBoot s v = some boot) (other : currentBoot (act env s a) v ≠ some boot) :
    IsOver (act env s a) v boot := by
  unfold currentBoot at was other
  cases boots_act orderly with
  | same same => exact absurd (same ▸ was) other
  | offer before becomes recorded =>
    rw [becomes] at other
    rw [before] at was
    exact ⟨_, becomes, Boots.over_of_superseded recorded was other⟩

/-- Of every robot at most the session of its current boot is open. -/
def SessionsInOrder (s : State) (v : String) : Prop :=
  ∀ boots, bootsOf s v = some boots → boots.OneOpen

theorem SessionsInOrder.step {a : Action} (h : SessionsInOrder s v)
    (orderly : OrderlyStep env v s a) : SessionsInOrder (act env s a) v := by
  intro boots found
  cases boots_act orderly with
  | same same => exact h boots (same ▸ found)
  | offer was becomes recorded =>
    cases found.symm.trans becomes
    exact (h _ was).accept recorded

/-- From a state in which at most the session of the current boot is open, the boots of a robot stay in order in
every run of orderly steps, and once a boot has been superseded, messages that carry it change nothing but
marks. -/
theorem boot_sessions (env : Env) (s : State) (v : String) (actions : List Action)
    (start : SessionsInOrder s v) (met : Runs.Meets (act env) (OrderlyStep env v) s actions) :
    SessionsInOrder (Runs.run (act env) s actions) v ∧
      ∀ before e middle c after boot, actions = before ++ e :: (middle ++ .message c :: after) →
        currentBoot (Runs.run (act env) s before) v = some boot →
        currentBoot (Runs.run (act env) s (before ++ [e])) v ≠ some boot → Carries env c v boot →
          SameFacts (Runs.run (act env) s (before ++ e :: middle))
            (Runs.run (act env) s (before ++ e :: middle ++ [.message c])) := by
  have ordered : ∀ s a, SessionsInOrder s v → OrderlyStep env v s a →
      SessionsInOrder (act env s a) v := by
    intro s a order orderly
    exact order.step orderly
  refine ⟨Runs.invariant ordered start met, ?_⟩
  intro before e middle c after boot split was other carries
  rw [split, Runs.meets_append, Runs.meets_cons, Runs.meets_append, Runs.meets_cons] at met
  obtain ⟨_, stepped, through, arrives, _⟩ := met
  rw [Runs.run_append] at other
  have ended := isOver_of_superseded stepped was other
  have stays : ∀ s a, IsOver s v boot → OrderlyStep env v s a → IsOver (act env s a) v boot := by
    intro s a ended orderly
    exact ended.step orderly
  have still := Runs.invariant stays ended through
  rw [Runs.run_append s (before ++ e :: middle), Runs.run_append s before, Runs.run_cons]
  exact still.refused arrives carries

end

/-! ### Odometry of the boot before -/

/-- A session that is open. -/
def openSession : Session := .opened lostAt

/-- The vehicle of the last will, before a reboot. -/
def bootedState : State :=
  let vehicle := Vehicle.initial "r1" "site"
  let current := { vehicle.robot with bootId := some "00000000-0000-4000-8000-00000000000b" }
  let sessions := AList.insert "00000000-0000-4000-8000-00000000000b" openSession ∅
  .ofVehicles [("R1", { vehicle with robot := current, sessions := sessions })]

/-- Odometry, as the compatibility layer hands it on. -/
def odomText : String :=
  "\x7b\"internal_contract\": \"ros-compat-v1\", \"vehicle_id\": \"R1\", " ++
  "\"timestamp\": \"2026-01-01T00:00:00+00:00\", \"seq\": 7, " ++
  "\"bridge_boot_id\": \"00000000-0000-4000-8000-00000000000b\", \"planar_speed\": 1, " ++
  "\"linear_x\": 1, \"linear_y\": 0, \"angular_z\": 0\x7d"

/-- The odometry, decoded. -/
def odomMessage : JsonTree :=
  .obj [("internal_contract", .str "ros-compat-v1"), ("vehicle_id", .str "R1"),
    ("timestamp", .str "2026-01-01T00:00:00+00:00"), ("seq", .int 7),
    ("bridge_boot_id", .str "00000000-0000-4000-8000-00000000000b"), ("planar_speed", .int 1),
    ("linear_x", .int 1), ("linear_y", .int 0), ("angular_z", .int 0)]

/-- Python, as far as the two messages go. -/
def rebootEnv : Env :=
  Env.knowing [(lostText, lostMessage), (odomText, odomMessage)]
    [("2026-01-01T00:00:00+00:00", lostAt)]

/-- The odometry arrives. -/
def odomCall : Call where
  moment := .plain lostAt
  topic := ["_platform", "compat", "R1", "compat_odom"]
  payload := Env.bytes odomText

theorem bootedState_inOrder : SessionsInOrder bootedState "R1" := by
  rintro boots ⟨⟩ boot session found _
  rcases Table.of_lookup_insert (t := ∅) found with ⟨rfl, _⟩ | ⟨_, none⟩
  · rfl
  · cases none

/-- The vehicle reboots: its session before is recorded, and the message is no internal one. -/
theorem lost_orderly : OrderlyStep lostEnv "R1" bootedState (.message lostCall) where
  ordinary := by
    rintro msg source boots _ _ _ ⟨⟩ _ old ⟨⟩
    exact ⟨by decide, by decide⟩
  announced := by
    rintro a boots _ _ _ ⟨⟩ _ old ⟨⟩
    exact ⟨by decide, by decide⟩
  current := by
    intro kind message boot boots _ route
    exact absurd route (by simp [show compatKind lostCall.topic = none by decide])

/-- The sessions after the reboot. -/
theorem boot_sessions_reboot :
    SessionsInOrder (Runs.run (act lostEnv) bootedState [.message lostCall]) "R1" :=
  (boot_sessions lostEnv bootedState "R1" [.message lostCall] bootedState_inOrder
    ⟨lost_orderly, trivial⟩).1

set_option maxRecDepth 8000 in
/-- Odometry that carries the boot before the reboot is written into the document of the vehicle. -/
theorem stale_odometry : ¬ ∀ (env : Env) (s : State) (v : String) (actions : List Action),
    SessionsInOrder s v →
      SessionsInOrder (Runs.run (act env) s actions) v ∧
        ∀ before e middle c after boot, actions = before ++ e :: (middle ++ .message c :: after) →
          currentBoot (Runs.run (act env) s before) v = some boot →
          currentBoot (Runs.run (act env) s (before ++ [e])) v ≠ some boot → Carries env c v boot →
            SameFacts (Runs.run (act env) s (before ++ e :: middle))
              (Runs.run (act env) s (before ++ e :: middle ++ [.message c])) := by
  intro claim
  have read : (readCompat rebootEnv odomCall.payload).toOption.any (fun message =>
      (latestKey rebootEnv message.vehicleId).toOption = some "R1" &&
        (message.msg.getD "bridge_boot_id").isText "00000000-0000-4000-8000-00000000000b") = true := by
    decide +kernel
  have carries : Carries rebootEnv odomCall "R1" "00000000-0000-4000-8000-00000000000b" := by
    cases h : readCompat rebootEnv odomCall.payload with
    | error e => rw [h] at read; cases read
    | ok message =>
      rw [h] at read
      obtain ⟨keyed, carried⟩ := Bool.and_eq_true_iff.mp read
      cases key : latestKey rebootEnv message.vehicleId with
      | error e => rw [key] at keyed; cases keyed
      | ok v =>
        rw [key] at keyed
        have own : v = "R1" := by simpa [Except.toOption] using keyed
        have route : compatKind odomCall.topic = some .odom := by decide
        exact .internal route h (.inr (own ▸ key)) carried
  -- the reboot, and what the odometry leaves in the document
  have seen : (currentBoot (act rebootEnv bootedState (.message lostCall)) "R1" !=
        some "00000000-0000-4000-8000-00000000000b" &&
      (((act rebootEnv bootedState (.message lostCall)).redis.latest "R1").bind
        (·.doc.get "bridge_boot_id")).isNone &&
      (((act rebootEnv (act rebootEnv bootedState (.message lostCall)) (.message odomCall)
        ).redis.latest "R1").bind (·.doc.get "bridge_boot_id")).isSome) = true := by
    decide +kernel
  obtain ⟨first, written⟩ := Bool.and_eq_true_iff.mp seen
  obtain ⟨superseded, unwritten⟩ := Bool.and_eq_true_iff.mp first
  have same := (claim rebootEnv bootedState "R1" [.message lostCall, .message odomCall]
    bootedState_inOrder).2 [] (.message lostCall) [] odomCall []
      "00000000-0000-4000-8000-00000000000b" rfl rfl (bne_iff_ne.mp superseded) carries
  have latest : (act rebootEnv (act rebootEnv bootedState (.message lostCall)) (.message odomCall)
      ).redis.latest "R1" = (act rebootEnv bootedState (.message lostCall)).redis.latest "R1" :=
    congrFun same.latest "R1"
  rw [latest, Option.isNone_iff_eq_none.mp unwritten] at written
  cases written

end Firebot.Platform
