import Mathlib.Algebra.Order.Ring.Unbundled.Rat
import Firebot.Commands.Admission
import Firebot.Lib.Run
import Firebot.Manual.Model

/-!
# Manual pulses

Each manual request carries a number. `manual` reads the last number of the lease from Redis, compares,
stores its own, renews the lease and publishes the pulse, and these are separate steps: requests in flight
may all have read the same number, and the key has a time to live of its own.

**Where no request under a lease reads the last number while another is between its reading and its publishing,
and where one that finds no number has a greater one than was published, the pulses of every lease are in order**
(`pulses_ordered`). What the key holds between the requests is found by an invariant (`Driven`). Nothing is said of
requests that overlap and happen to publish in order.
-/

namespace Firebot.Manual

open Firebot.Commands Firebot.Robots

/-! ## The request -/

/-- The body of a manual request, as it is validated. -/
structure ManualCommand where
  leaseId : String
  controlSessionId : String
  seq : Nat
  linear : ℚ
  angular : ℚ
  linear_bounds : -2 / 5 ≤ linear ∧ linear ≤ 2 / 5
  angular_bounds : -1 ≤ angular ∧ angular ≤ 1

/-- The bounds of a motion profile. -/
structure Limits where
  forward : ℚ
  reverse : ℚ
  angular : ℚ

/-- The bounds of the robot's profile, where it has been verified. -/
def limitsOf (profile : Option MotionProfile) : Except Raised Limits :=
  let missing : Except Raised Limits := .error
    (.platform "MANUAL_MOTION_PROFILE_NOT_VERIFIED" "真实运动参数与 500ms watchdog 尚未验证")
  match profile with
  | none => missing
  | some profile =>
    match profile.maxManualForwardMps, profile.maxManualAngularRadps with
    | some forward, some angular =>
      if profile.manualWatchdogVerified then
        .ok
          { forward := forward
            reverse := if profile.reverseAllowed then profile.maxManualReverseMps.getD 0 else 0
            angular := angular }
      else missing
    | _, _ => missing

/-- `clamped_linear`. -/
def Limits.clampLinear (limits : Limits) (linear : ℚ) : ℚ := min limits.forward (max (-limits.reverse) linear)

/-- `clamped_angular`. -/
def Limits.clampAngular (limits : Limits) (angular : ℚ) : ℚ :=
  max (-limits.angular) (min limits.angular angular)

/-- The checks of `manual` before it asks Redis: the robot may be driven, and within bounds. -/
def checkManual (sight : Sight) (profile : Option MotionProfile) : Except Raised Limits := do
  assertRobotCanExecute sight .manualControl
  limitsOf profile

/-- The lease is the one the request is made under. -/
def leaseValid (userId : String) (body : ManualCommand) (lease : Option Lease) : Bool :=
  lease.any fun lease => lease.leaseId = body.leaseId && lease.userId = userId &&
    lease.controlSessionId = body.controlSessionId

/-- A pulse, as it is published. -/
structure Pulse where
  robotId : String
  targetBootId : Option String
  operatorId : String
  leaseId : String
  controlSessionId : String
  seq : Nat
  linearX : ℚ
  angularZ : ℚ
  issuedAt : Time
  expiresAt : Time

/-! ## Requests in flight -/

/-- What a request has done last. -/
inductive PulsePhase where
  | begun
  | leased
  | read (last : Int)
  | passed
  | stored
  | renewed
  deriving DecidableEq, Repr

/-- A request is between its reading of the last number and its publishing. -/
def PulsePhase.underWay : PulsePhase → Bool
  | .read _ | .passed | .stored | .renewed => true
  | .begun | .leased => false

/-- A manual request that has passed the checks, with the robot as it has loaded it. -/
structure Driving where
  robotId : String
  robot : Robot
  userId : String
  body : ManualCommand
  limits : Limits
  phase : PulsePhase
  issuedAt : Time

/-- The pulse of a request. -/
def Driving.pulse (x : Driving) : Pulse where
  robotId := x.robotId
  targetBootId := x.robot.bootId
  operatorId := x.userId
  leaseId := x.body.leaseId
  controlSessionId := x.body.controlSessionId
  seq := x.body.seq
  linearX := x.limits.clampLinear x.body.linear
  angularZ := x.limits.clampAngular x.body.angular
  issuedAt := x.issuedAt
  expiresAt := x.issuedAt + second / 2

/-- The two kinds of keys, the requests in flight, and what has been published to
`firebot:manual_commands`. -/
structure Cockpit where
  leases : Leases
  lastSeq : String → Option Nat
  requests : List Driving
  channel : List Pulse

namespace Cockpit

/-- Before any lease. -/
def initial : Cockpit where
  leases := fun _ => none
  lastSeq := fun _ => none
  requests := []
  channel := []

/-- What can happen: leases are set, deleted, and end; the key of a last number ends; a request arrives and
takes its steps, or is given up. -/
inductive Event where
  | setLease (lease : Lease) (deadline : Time)
  | delete (robotId : String)
  | expire (now : Time)
  | forget (leaseId : String)
  | arrive (robotId userId : String) (body : ManualCommand) (sight : Sight)
      (profile : Option MotionProfile)
  | lease (index : Nat)
  | read (index : Nat)
  | compare (index : Nat) (now : Time)
  | store (index : Nat)
  | renew (index : Nat) (deadline : Time)
  | publish (index : Nat)
  | abort (index : Nat)

section

variable (k : Cockpit) (index : Nat) (x : Driving)

/-- A request is over. -/
def close : Cockpit := { k with requests := k.requests.eraseIdx index }

/-- A request goes on. -/
def put (phase : PulsePhase) : Cockpit :=
  { k with requests := k.requests.set index { x with phase := phase } }

/-- The next step of a request, where it is this one. -/
def advance (e : Event) : Cockpit :=
  match e, x.phase with
  | .lease _, .begun =>
    if leaseValid x.userId x.body (k.leases.activeLease x.robotId) then k.put index x .leased
    else k.close index
  | .read _, .leased => k.put index x (.read (((k.lastSeq x.body.leaseId).map Int.ofNat).getD (-1)))
  | .compare _ now, .read last =>
    if (x.body.seq : Int) ≤ last then k.close index
    else
      match checkBoot x.robot .manualControl with
      | .error _ => k.close index
      | .ok () => k.put index { x with issuedAt := now } .passed
  | .store _, .passed =>
    { k.put index x .stored with lastSeq := Function.update k.lastSeq x.body.leaseId (some x.body.seq) }
  | .renew _ deadline, .stored => { k.put index x .renewed with leases := k.leases.renew x.robotId deadline }
  | .publish _, .renewed => { k.close index with channel := k.channel ++ [x.pulse] }
  | _, _ => k

end

/-- The request that takes a step. -/
def Event.request : Event → Option Nat
  | .lease index | .read index | .compare index _ | .store index | .renew index _
  | .publish index => some index
  | _ => none

/-- One event. -/
def step (k : Cockpit) (e : Event) : Cockpit :=
  match e with
  | .setLease lease deadline =>
    if (k.leases.activeLease lease.robotId).isSome then k
    else { k with leases := k.leases.set lease.robotId { lease := lease, deadline := deadline } }
  | .delete robotId => { k with leases := k.leases.delete robotId }
  | .expire now => { k with leases := k.leases.expire now }
  | .forget leaseId => { k with lastSeq := Function.update k.lastSeq leaseId none }
  | .arrive robotId userId body sight profile =>
    match checkManual sight profile with
    | .error _ => k
    | .ok limits =>
      { k with
        requests := k.requests ++
          [{ robotId, robot := sight.robot, userId, body, limits, phase := .begun, issuedAt := 0 }] }
  | .abort index => k.close index
  | e =>
    match e.request.bind fun index => (k.requests[index]?).map fun x => (index, x) with
    | none => k
    | some (index, x) => k.advance index x e

/-- The state after a list of events. -/
abbrev run (k : Cockpit) (events : List Event) : Cockpit := Runs.run step k events

/-! ## The law -/

/-- The numbers of the pulses that have been published under a lease. -/
def published (k : Cockpit) (leaseId : String) : List Nat :=
  (k.channel.filter fun p => p.leaseId = leaseId).map Pulse.seq

/-- **The numbers of the pulses of a lease ascend in the order in which they are published.** -/
def Ordered (k : Cockpit) : Prop := ∀ leaseId, (k.published leaseId).Pairwise (· < ·)

/-- When a request reads the last number, no other request under the lease is between its reading and its
publishing; and if the number has gone with its key, the request's is greater than those of the pulses that have
been published. -/
def InTurn (k : Cockpit) : Event → Prop
  | .read index => ∀ x, k.requests[index]? = some x → x.phase = .leased →
      (∀ y ∈ k.requests, y.body.leaseId = x.body.leaseId → y.phase.underWay = false) ∧
      (k.lastSeq x.body.leaseId = none → ∀ p ∈ k.channel, p.leaseId = x.body.leaseId → p.seq < x.body.seq)
  | _ => True

/-! ## The invariant -/

/-- Of the requests under a lease, one at most is between its reading and its publishing. -/
def Alone (requests : List Driving) : Prop :=
  ∀ (i j : Nat) (x y : Driving), requests[i]? = some x → requests[j]? = some y → x.body.leaseId = y.body.leaseId →
    x.phase.underWay = true → y.phase.underWay = true → i = j

/-- The number of a request is greater than those published under its lease. -/
def Above (channel : List Pulse) (x : Driving) : Prop :=
  ∀ p ∈ channel, p.leaseId = x.body.leaseId → p.seq < x.body.seq

/-- What a request under way knows: what it has read is not behind what was published, or its own number is
greater anyway; once it has passed, its number is; and what it has stored is there, unless the key is gone. -/
def Knows (channel : List Pulse) (lastSeq : String → Option Nat) (x : Driving) : Prop :=
  match x.phase with
  | .begun | .leased => True
  | .read last => last < x.body.seq → Above channel x
  | .passed => Above channel x
  | .stored | .renewed => Above channel x ∧ ∀ n ∈ lastSeq x.body.leaseId, n = x.body.seq

/-- The pulses are in order, and the key, where it is there, is not behind them. -/
structure Driven (k : Cockpit) : Prop where
  ordered : Ordered k
  alone : Alone k.requests
  held : ∀ p ∈ k.channel, ∀ n ∈ k.lastSeq p.leaseId, p.seq ≤ n
  knows : ∀ x ∈ k.requests, Knows k.channel k.lastSeq x

section

variable {k : Cockpit} {index : Nat} {x : Driving} {channel : List Pulse} {lastSeq lastSeq' : String → Option Nat}

/-! ### The requests -/

theorem Alone.eraseIdx {requests : List Driving} (h : Alone requests) (index : Nat) :
    Alone (requests.eraseIdx index) := by
  intro i j x y first second lease going going'
  rw [List.getElem?_eraseIdx] at first second
  split at first <;> split at second
  · exact h i j x y first second lease going going'
  · have := h i (j + 1) x y first second lease going going'
    omega
  · have := h (i + 1) j x y first second lease going going'
    omega
  · have := h (i + 1) (j + 1) x y first second lease going going'
    omega

/-- One request goes on; it begins to be under way only if no other is. -/
theorem Alone.set {requests : List Driving} (h : Alone requests) {y : Driving} (open_ : requests[index]? = some x)
    (lease : y.body.leaseId = x.body.leaseId)
    (begins : y.phase.underWay = true → x.phase.underWay = true ∨
      ∀ z ∈ requests, z.body.leaseId = x.body.leaseId → z.phase.underWay = false) :
    Alone (requests.set index y) := by
  -- another request of the lease that is under way excludes that this one is
  have excludes (i : Nat) (z : Driving) (other : i ≠ index) (there : requests[i]? = some z)
      (same : z.body.leaseId = y.body.leaseId) (going : z.phase.underWay = true) : y.phase.underWay ≠ true := by
    intro mine
    rcases begins mine with before | none_other
    · exact other (h i index z x there open_ (same.trans lease) going before)
    · rw [none_other z (List.mem_of_getElem? there) (same.trans lease)] at going
      cases going
  intro i j z z' first second same going going'
  rw [List.getElem?_set] at first second
  split at first <;> split at second
  next here here' => exact here.symm.trans here'
  next here other =>
    split at first
    · cases first
      exact absurd going (excludes j z' (Ne.symm other) second same.symm going')
    · cases first
  next other here =>
    split at second
    · cases second
      exact absurd going' (excludes i z (Ne.symm other) first same going)
    · cases second
  next => exact h i j z z' first second same going going'

theorem Alone.arrive {requests : List Driving} (h : Alone requests) (begun : x.phase = .begun) :
    Alone (requests ++ [x]) := by
  have idle : x.phase.underWay = false := by rw [begun]; rfl
  intro i j y z first second lease going going'
  rw [List.getElem?_append] at first second
  split at first <;> split at second
  · exact h i j y z first second lease going going'
  · rw [List.mem_singleton.mp (List.mem_of_getElem? second), idle] at going'
    cases going'
  · rw [List.mem_singleton.mp (List.mem_of_getElem? first), idle] at going
    cases going
  · rw [List.mem_singleton.mp (List.mem_of_getElem? first), idle] at going
    cases going

/-- The other requests are of other leases, or not under way. -/
theorem Alone.others {requests : List Driving} (h : Alone requests) (open_ : requests[index]? = some x)
    (going : x.phase.underWay = true) {y : Driving} (mem : y ∈ requests.eraseIdx index) :
    y.body.leaseId ≠ x.body.leaseId ∨ y.phase.underWay = false := by
  obtain ⟨j, there⟩ := List.mem_iff_getElem?.mp mem
  rw [List.getElem?_eraseIdx] at there
  by_contra both
  obtain ⟨same, going'⟩ := not_or.mp both
  have same := of_not_not same
  have going' := eq_true_of_ne_false going'
  split at there
  · have := h j index y x there open_ same going' going
    omega
  · have := h (j + 1) index y x there open_ same going' going
    omega

/-- After one request has gone on, the others are those there were. -/
theorem mem_erase_of_set {requests : List Driving} {y z : Driving} (mem : z ∈ requests.set index y) :
    z = y ∨ z ∈ requests.eraseIdx index := by
  obtain ⟨j, there⟩ := List.mem_iff_getElem?.mp mem
  rw [List.getElem?_set] at there
  split at there
  · split at there
    · exact .inl (Option.some.inj there).symm
    · cases there
  next other =>
    refine .inr (List.mem_iff_getElem?.mpr ?_)
    by_cases before : j < index
    · exact ⟨j, by rw [List.getElem?_eraseIdx, if_pos before]; exact there⟩
    · refine ⟨j - 1, ?_⟩
      rw [List.getElem?_eraseIdx, if_neg (by omega), show j - 1 + 1 = j by omega]
      exact there

/-! ### What they know -/

/-- The keys of other leases do not matter, nor does it if this one's goes. -/
theorem Knows.of_keys (h : Knows channel lastSeq x)
    (same : x.phase.underWay = true → ∀ n ∈ lastSeq' x.body.leaseId, n ∈ lastSeq x.body.leaseId) :
    Knows channel lastSeq' x := by
  unfold Knows at h ⊢
  cases phase : x.phase with
  | begun | leased => trivial
  | read | passed =>
    rw [phase] at h
    exact h
  | stored | renewed =>
    rw [phase] at h
    exact ⟨h.1, fun n there => h.2 n (same (by rw [phase]; rfl) n there)⟩

/-- A pulse of another lease does not matter. -/
theorem Knows.of_publish (h : Knows channel lastSeq x) {p : Pulse}
    (other : x.body.leaseId ≠ p.leaseId ∨ x.phase.underWay = false) : Knows (channel ++ [p]) lastSeq x := by
  have above : x.phase.underWay = true → Above channel x → Above (channel ++ [p]) x := by
    intro going before q mem lease
    rcases List.mem_append.mp mem with old | new
    · exact before q old lease
    · cases List.mem_singleton.mp new
      rcases other with other | idle
      · exact absurd lease.symm other
      · cases going.symm.trans idle
  unfold Knows at h ⊢
  cases phase : x.phase with
  | begun | leased => trivial
  | read last =>
    rw [phase] at h above
    exact fun greater => above rfl (h greater)
  | passed =>
    rw [phase] at h above
    exact above rfl h
  | stored | renewed =>
    rw [phase] at h above
    exact ⟨above rfl h.1, h.2⟩

/-- A request that is closed. -/
theorem Driven.close (h : k.Driven) (index : Nat) : (k.close index).Driven where
  ordered := h.ordered
  alone := h.alone.eraseIdx index
  held := h.held
  knows x mem := h.knows x (List.mem_of_mem_eraseIdx mem)

/-- A request goes on, with what it knows. -/
theorem Driven.put (h : k.Driven) (open_ : k.requests[index]? = some x) {y : Driving}
    (lease : y.body.leaseId = x.body.leaseId)
    (begins : y.phase.underWay = true → x.phase.underWay = true ∨
      ∀ z ∈ k.requests, z.body.leaseId = x.body.leaseId → z.phase.underWay = false)
    (knows : Knows k.channel k.lastSeq y) : Driven { k with requests := k.requests.set index y } where
  ordered := h.ordered
  alone := h.alone.set open_ lease begins
  held := h.held
  knows z mem := by
    rcases List.mem_or_eq_of_mem_set mem with before | rfl
    · exact h.knows z before
    · exact knows

/-- The leases and their ends do not matter. -/
theorem Driven.of_leases (h : k.Driven) (leases : Leases) : Driven { k with leases } :=
  ⟨h.ordered, h.alone, h.held, h.knows⟩

/-! ## The steps of a request -/

/-- What a request has read is not behind what was published. -/
theorem Driven.read (h : k.Driven) (open_ : k.requests[index]? = some x)
    (alone : ∀ y ∈ k.requests, y.body.leaseId = x.body.leaseId → y.phase.underWay = false)
    (above : k.lastSeq x.body.leaseId = none → Above k.channel x) :
    (k.put index x (.read (((k.lastSeq x.body.leaseId).map Int.ofNat).getD (-1)))).Driven := by
  refine h.put (y := { x with phase := _ }) open_ rfl (fun _ => .inr alone) ?_
  intro greater p mem lease
  cases there : k.lastSeq x.body.leaseId with
  | none => exact above there p mem lease
  | some n =>
    rw [there] at greater
    have held := h.held p mem n (by rw [lease]; exact there)
    have less : (n : Int) < x.body.seq := greater
    show p.seq < x.body.seq
    omega

/-- The number is stored. -/
theorem Driven.store (h : k.Driven) (open_ : k.requests[index]? = some x) (passed : x.phase = .passed) :
    Driven { k.put index x .stored with
      lastSeq := Function.update k.lastSeq x.body.leaseId (some x.body.seq) } := by
  have knows := h.knows x (List.mem_of_getElem? open_)
  have above : Above k.channel x := by
    unfold Knows at knows
    rw [passed] at knows
    exact knows
  have going : x.phase.underWay = true := by rw [passed]; rfl
  refine ⟨h.ordered, h.alone.set (y := { x with phase := .stored }) open_ rfl fun _ => .inl going, ?_, ?_⟩
  · intro p mem n there
    dsimp only [put] at mem there
    by_cases lease : p.leaseId = x.body.leaseId
    · rw [lease, Function.update_self] at there
      cases there
      exact Nat.le_of_lt (above p mem lease)
    · rw [Function.update_of_ne lease] at there
      exact h.held p mem n there
  · intro y mem
    rcases mem_erase_of_set mem with rfl | other
    · refine ⟨above, ?_⟩
      intro n there
      dsimp only at there
      rw [Function.update_self] at there
      cases there
      rfl
    · refine (h.knows y (List.mem_of_mem_eraseIdx other)).of_keys ?_
      intro going' n there
      dsimp only at there
      rcases h.alone.others open_ going other with lease | idle
      · rwa [Function.update_of_ne lease] at there
      · cases going'.symm.trans idle

/-- A pulse above the others keeps the order. -/
theorem Ordered.publish (h : k.Ordered) (above : Above k.channel x) :
    Ordered { k.close index with channel := k.channel ++ [x.pulse] } := by
  intro leaseId
  unfold published
  rw [List.filter_append, List.map_append]
  by_cases own : x.body.leaseId = leaseId
  · have new : [x.pulse].filter (fun p => p.leaseId = leaseId) = [x.pulse] := by
      simp [Driving.pulse, own]
    rw [new]
    refine List.pairwise_append.mpr ⟨h leaseId, List.pairwise_singleton _ _, ?_⟩
    intro n inside m last
    obtain ⟨p, mem, rfl⟩ := List.mem_map.mp inside
    obtain ⟨there, same⟩ := List.mem_filter.mp mem
    rw [List.map_singleton, List.mem_singleton] at last
    subst last
    exact above p there ((of_decide_eq_true same).trans own.symm)
  · have new : [x.pulse].filter (fun p => p.leaseId = leaseId) = [] := by
      simp [Driving.pulse, own]
    rw [new, List.map_nil, List.append_nil]
    exact h leaseId

theorem Driven.publish (h : k.Driven) (open_ : k.requests[index]? = some x) (renewed : x.phase = .renewed) :
    Driven { k.close index with channel := k.channel ++ [x.pulse] } := by
  have knows := h.knows x (List.mem_of_getElem? open_)
  have going : x.phase.underWay = true := by rw [renewed]; rfl
  obtain ⟨above, stored⟩ : Above k.channel x ∧ ∀ n ∈ k.lastSeq x.body.leaseId, n = x.body.seq := by
    unfold Knows at knows
    rw [renewed] at knows
    exact knows
  refine ⟨h.ordered.publish above, h.alone.eraseIdx index, ?_, ?_⟩
  · intro p mem n there
    rcases List.mem_append.mp mem with before | new
    · exact h.held p before n there
    · cases List.mem_singleton.mp new
      exact (stored n there).ge
  · intro y mem
    exact (h.knows y (List.mem_of_mem_eraseIdx mem)).of_publish (h.alone.others open_ going mem)

/-- The step of a request. -/
theorem Driven.advance (h : k.Driven) (open_ : k.requests[index]? = some x) {e : Event}
    (request : e.request = some index) (inTurn : k.InTurn e) : (k.advance index x e).Driven := by
  have knows := h.knows x (List.mem_of_getElem? open_)
  unfold Cockpit.advance
  split
  · split
    · exact h.put (y := { x with phase := .leased }) open_ rfl Bool.noConfusion trivial
    · exact h.close index
  next phase =>
    cases request
    obtain ⟨alone, above⟩ := inTurn x open_ phase
    exact h.read open_ alone above
  next now last phase =>
    split
    · exact h.close index
    next greater =>
      split
      · exact h.close index
      · refine h.put (y := { x with issuedAt := now, phase := .passed }) open_ rfl (fun _ => .inl (by rw [phase]; rfl)) ?_
        unfold Knows at knows
        rw [phase] at knows
        exact knows (not_le.mp greater)
  next phase => exact h.store open_ phase
  next deadline phase =>
    have put := h.put (y := { x with phase := .renewed }) open_ rfl (fun _ => .inl (by rw [phase]; rfl)) (by
      unfold Knows at knows ⊢
      rw [phase] at knows
      exact knows)
    exact put.of_leases _
  next phase => exact h.publish open_ phase
  · exact h

theorem Driven.step (h : k.Driven) {e : Event} (inTurn : k.InTurn e) : (k.step e).Driven := by
  have requests : ∀ e : Event, k.InTurn e →
      Driven (match e.request.bind fun index => (k.requests[index]?).map fun x => (index, x) with
        | none => k
        | some (index, x) => k.advance index x e) := by
    intro e inTurn
    split
    · exact h
    next index x found =>
      obtain ⟨i, request, located⟩ := Option.bind_eq_some_iff.mp found
      obtain ⟨y, open_, same⟩ := Option.map_eq_some_iff.mp located
      cases same
      exact h.advance open_ request inTurn
  cases e with
  | setLease lease deadline =>
    simp only [Cockpit.step]
    split
    · exact h
    · exact h.of_leases _
  | delete robotId => exact h.of_leases _
  | expire now => exact h.of_leases _
  | forget leaseId =>
    -- a key that is gone holds nothing that anybody could be behind
    have there {lease : String} {n : Nat} (held : n ∈ Function.update k.lastSeq leaseId none lease) :
        n ∈ k.lastSeq lease := by
      by_cases same : lease = leaseId
      · rw [same, Function.update_self] at held
        cases held
      · rwa [Function.update_of_ne same] at held
    exact ⟨h.ordered, h.alone, fun p mem n held => h.held p mem n (there held),
      fun x mem => (h.knows x mem).of_keys fun _ n held => there held⟩
  | arrive robotId userId body sight profile =>
    simp only [Cockpit.step]
    split
    · exact h
    · refine ⟨h.ordered, h.alone.arrive rfl, h.held, ?_⟩
      intro y mem
      rcases List.mem_append.mp mem with before | new
      · exact h.knows y before
      · rw [List.mem_singleton.mp new]
        trivial
  | abort index => exact h.close index
  | lease index => exact requests (.lease index) inTurn
  | read index => exact requests (.read index) inTurn
  | compare index now => exact requests (.compare index now) inTurn
  | store index => exact requests (.store index) inTurn
  | renew index deadline => exact requests (.renew index deadline) inTurn
  | publish index => exact requests (.publish index) inTurn

theorem Driven.initial : Driven .initial where
  ordered _ := List.Pairwise.nil
  alone _ _ _ _ there := by cases there
  held p mem := by cases mem
  knows x mem := by cases mem

end

/-- **The pulses of every lease are in order, at any time of a run whose requests under a lease follow one
another, with a greater number each where the last one is gone.** -/
theorem pulses_ordered (events : List Event) (inTurn : Runs.Meets step InTurn .initial events)
    (before after : List Event) (split : events = before ++ after) : Ordered (run .initial before) :=
  (Runs.states_of_meets (I := Driven) (fun _ _ h ok => h.step ok) Driven.initial inTurn before after
    split).ordered

/-- The profile of a slow robot. -/
def slow : MotionProfile where
  maxManualForwardMps := some (3 / 10)
  maxManualReverseMps := none
  maxManualAngularRadps := some 1
  manualWatchdogVerified := true
  reverseAllowed := false
  reversePrecisionVerified := false

/-- What the checks see of a robot that may be driven. -/
def drivable : Sight where
  robot :=
    { siteId := "S1", enabled := true, onlineState := .online, lastSeenAt := some 0
      currentMapId := none, currentMapVersion := none, currentMode := "IDLE", currentTaskId := none
      battery := .int 90, estopActive := some false, bootId := some "boot" }
  profiles := some
    { integration := some { Integration.initial with
        sourceKind := .mock, controlContractVerified := true, ackContractVerified := true }
      capability := some
        { protocolVersion := "1.3.0", supportedCommands := ["manual_control", "stop_motion"]
          sensors := [], media := [], receivedAt := 0 }
      motion := some slow }
  lease := some true
  activeTask := some none

/-- The body of a request under the lease `L1`: ahead, or to a stop. -/
def body (seq : Nat) (ahead : Bool) : ManualCommand where
  leaseId := "L1"
  controlSessionId := "session"
  seq := seq
  linear := if ahead then 1 / 5 else 0
  angular := 0
  linear_bounds := by cases ahead <;> decide +kernel
  angular_bounds := by decide

/-- A request of alice. -/
abbrev request (seq : Nat) (ahead : Bool) : Event :=
  .arrive "R1" "alice" (body seq ahead) drivable (some slow)

/-- A request drives ahead, and a second one, made when the first is through, stops: the pulses are in
order. -/
theorem pulses_ordered_stop :
    Ordered (run .initial
      [ .setLease (leaseOf "L1" "alice") (5 * second), request 1 true, .lease 0, .read 0, .compare 0 second,
        .store 0, .renew 0 (6 * second), .publish 0, request 2 false, .lease 0, .read 0,
        .compare 0 second, .store 0, .renew 0 (6 * second), .publish 0 ]) := by
  refine pulses_ordered _ ?_ _ [] rfl
  refine ⟨trivial, trivial, trivial, ?_, trivial, trivial, trivial, trivial, trivial, trivial, ?_, trivial, trivial,
    trivial, trivial, trivial⟩
  · intro x open_ phase
    cases open_
    constructor
    · intro y mem _
      rw [List.mem_singleton.mp mem]
      rfl
    · intro _ p mem
      cases mem
  · intro x open_ phase
    cases open_
    constructor
    · intro y mem _
      rw [List.mem_singleton.mp mem]
      rfl
    · intro gone
      cases gone

/-- Two requests are in flight: both have read the last number before either stores its own. The later one
publishes its stop, and the pulse ahead follows it. -/
theorem drive_follows_stop :
    ¬ Ordered (run .initial
      [ .setLease (leaseOf "L1" "alice") (5 * second), request 1 true, request 2 false, .lease 0, .lease 1,
        .read 0, .read 1, .compare 0 second, .compare 1 second, .store 1, .renew 1 (6 * second), .publish 1,
        .store 0, .renew 0 (6 * second), .publish 0 ]) := by
  intro ordered
  have numbers : [2, 1].Pairwise (· < ·) := ordered "L1"
  exact absurd numbers (by decide)

end Cockpit

end Firebot.Manual
