import Firebot.Lib.Run
import Firebot.Lib.Watch
import Firebot.Manual.Model

/-!
# Who ends a lease

A lease is ended by its holder, by an administrator, by an emergency stop, by the reboot of the robot, by the
worker that finds the robot gone, by the clean-up after its holder, and by its own time to live. Everybody
but the last reads the lease, closes its session in the database, and deletes the robot's key; an acquisition
whose commit fails deletes the key as well. The key is deleted whatever it holds by then.

`since` lists, for each operation under way, the leases that its robot has been given since it read its own.
**Where a robot is given no lease between the reading of an operation and its deletion of the key, every lease
goes by its own end** (`lease_ends_own`). Nothing is said of runs in which a lease given in between has gone
again by the deletion, which then removes nothing.
-/

namespace Firebot.Manual

open Firebot.MqttIngress (ControlState)

/-! ## The operations -/

/-- Who ends a lease: the acquisition of it that fails, or one of the others. -/
inductive Ender where
  | acquisition
  | release (userId : String)
  | forceRelease
  | emergencyStop
  | reboot
  | reconciliation (reason : String)
  | cleanup (userId reason : String)
  deriving DecidableEq, Repr

namespace Ender

/-- The one who has read this lease goes on to end it. -/
def ends (ender : Ender) (lease : Lease) : Bool :=
  match ender with
  | .release userId | .cleanup userId _ => lease.userId = userId
  | .acquisition | .forceRelease | .emergencyStop | .reboot | .reconciliation _ => true

/-- What it makes of the lease's session. -/
def close (ender : Ender) (now : Time) (lastSeq : Int) (session : Session) : Session :=
  match ender with
  | .acquisition => session
  | .release _ => session.endLease .released "USER_RELEASE" now lastSeq
  | .forceRelease => session.endLease .forceReleased "ADMIN_FORCE_RELEASE" now lastSeq
  | .emergencyStop => session.endLease .forceReleased "EMERGENCY_STOP" now lastSeq
  | .reboot => session.ended .forceReleased "ROBOT_REBOOT" now
  | .reconciliation reason => session.ended .expired reason now
  | .cleanup _ reason => session.ended .forceReleased reason now

/-- It deletes the key before it commits. -/
def early : Ender → Bool
  | .cleanup .. => true
  | .acquisition | .release _ | .forceRelease | .emergencyStop | .reboot | .reconciliation _ => false

end Ender

/-- What is left to do: the commit, or the deletion of the key. -/
inductive EndingPhase where
  | commits
  | deletes
  deriving DecidableEq, Repr

/-- An operation that has read a lease, or set it. -/
structure Ending where
  ender : Ender
  robotId : String
  lease : Lease
  phase : EndingPhase
  since : List String

/-- A robot has been given a lease. -/
def Ending.given (x : Ending) (lease : Lease) : Ending :=
  if x.robotId = lease.robotId then { x with since := lease.leaseId :: x.since } else x

/-- The sessions, the leases in Redis, every lease id that has been drawn, and the operations under way. -/
structure Desk where
  sessions : Table String Session
  leases : Leases
  issued : List String
  endings : List Ending

namespace Desk

/-- Before any lease. -/
def initial : Desk where
  sessions := ∅
  leases := fun _ => none
  issued := []
  endings := []

/-- What can happen.

`acquire` sets the key of a robot that has none; an `acquire_lease` that is refused is no event. `read` begins
one of the other operations. `commit` is its database transaction, which may fail; `delete` its
`redis.delete`, which `drop` stands for where it is not carried out. -/
inductive Event where
  | acquire (lease : Lease) (deadline : Time)
  | read (ender : Ender) (robotId : String)
  | commit (index : Nat) (commits : Bool) (now : Time) (lastSeq : Int)
  | delete (index : Nat)
  | drop (index : Nat)
  | renew (robotId : String) (deadline : Time)
  | expire (now : Time)

section

variable (d : Desk) (index : Nat)

/-- The lease with this id is the robot's. -/
def Leased (robotId leaseId : String) : Prop :=
  (d.leases.activeLease robotId).map Lease.leaseId = some leaseId

/-- An operation is over. -/
def close : Desk := { d with endings := d.endings.eraseIdx index }

/-- The key is set, under a new lease id. -/
def acquire (lease : Lease) (deadline : Time) : Desk :=
  if lease.leaseId ∈ d.issued ∨ (d.leases.activeLease lease.robotId).isSome = true then d
  else
    { d with
      leases := d.leases.set lease.robotId { lease := lease, deadline := deadline }
      issued := lease.leaseId :: d.issued
      endings := (d.endings.map (·.given lease)) ++
        [{ ender := .acquisition, robotId := lease.robotId, lease := lease, phase := .commits
           since := [] }] }

/-- The robot's lease is read, and nothing is done without one, or with one that is not to be ended. -/
def read (ender : Ender) (robotId : String) : Desk :=
  match d.leases.activeLease robotId with
  | none => d
  | some lease =>
    if ender = .acquisition ∨ ender.ends lease = false then d
    else
      { d with
        endings := d.endings ++
          [{ ender := ender, robotId := robotId, lease := lease
             phase := if ender.early then .deletes else .commits, since := [] }] }

/-- The database part. A lease whose row is committed is acquired; one whose row is not is to be deleted. Of
the others, what is committed goes on to delete the key, where that has not been done. -/
def commitEnding (x : Ending) (commits : Bool) (now : Time) (lastSeq : Int) : Desk :=
  if x.phase ≠ .commits then d
  else if x.ender = .acquisition then
    if commits then
      { d.close index with sessions := d.sessions.insert x.lease.leaseId (x.lease.session now) }
    else { d with endings := d.endings.set index { x with phase := .deletes } }
  else if commits then
    let closed := Table.modify x.lease.leaseId (x.ender.close now lastSeq) d.sessions
    if x.ender.early then { d.close index with sessions := closed }
    else { d with sessions := closed, endings := d.endings.set index { x with phase := .deletes } }
  else d.close index

/-- The key of the robot is deleted. -/
def deleteEnding (x : Ending) : Desk :=
  if x.phase ≠ .deletes then d
  else
    { d with
      leases := d.leases.delete x.robotId
      endings :=
        if x.ender.early then d.endings.set index { x with phase := .commits }
        else d.endings.eraseIdx index }

end

/-- One event. -/
def step (d : Desk) : Event → Desk
  | .acquire lease deadline => d.acquire lease deadline
  | .read ender robotId => d.read ender robotId
  | .commit index commits now lastSeq =>
    match d.endings[index]? with
    | none => d
    | some x => d.commitEnding index x commits now lastSeq
  | .delete index =>
    match d.endings[index]? with
    | none => d
    | some x => d.deleteEnding index x
  | .drop index => d.close index
  | .renew robotId deadline => { d with leases := d.leases.renew robotId deadline }
  | .expire now => { d with leases := d.leases.expire now }

/-- The state after a list of events. -/
abbrev run (d : Desk) (events : List Event) : Desk := Runs.run step d events

/-! ## The law -/

/-- The event ends the robot's lease: an operation that has read it deletes it, or its time to live is over. -/
def Ends (d : Desk) (robotId : String) (lease : Lease) : Event → Prop
  | .delete index => ∃ x, d.endings[index]? = some x ∧ x.robotId = robotId ∧ x.lease.leaseId = lease.leaseId
  | .expire now => ∃ held, d.leases robotId = some held ∧ held.deadline ≤ now
  | _ => False

/-- **A lease goes by its own end.** -/
def Own (d : Desk) (e : Event) : Prop :=
  ∀ robotId lease, d.leases.activeLease robotId = some lease →
    (d.step e).leases.activeLease robotId ≠ some lease → d.Ends robotId lease e

/-- No lease is given to the robot between the reading of an operation and its deletion of the key. -/
def Undisturbed (d : Desk) : Event → Prop
  | .delete index => ∀ x, d.endings[index]? = some x → x.phase = .deletes → x.since = []
  | _ => True

/-! ## What the operations know -/

/-- Every operation lists the other leases that its robot may have by now. -/
def Tracked (d : Desk) : Prop :=
  ∀ x ∈ d.endings, Watch.Covers (fun leaseId => d.Leased x.robotId leaseId ∧ leaseId ≠ x.lease.leaseId) x.since

section

variable {d : Desk} {index : Nat}

theorem leased_iff {robotId leaseId : String} : d.Leased robotId leaseId ↔
    ∃ lease, d.leases.activeLease robotId = some lease ∧ lease.leaseId = leaseId :=
  Option.map_eq_some_iff

/-- Only leases go, and operations stay what they are or end. -/
theorem Tracked.shrink (h : d.Tracked) {sessions : Table String Session} {leases : Leases}
    {endings : List Ending}
    (kept : ∀ robotId lease, leases.activeLease robotId = some lease →
      d.leases.activeLease robotId = some lease)
    (of : ∀ x ∈ endings, ∃ y ∈ d.endings, x.robotId = y.robotId ∧ x.lease = y.lease ∧
      x.since = y.since) :
    Tracked { d with sessions := sessions, leases := leases, endings := endings } := by
  intro x mem
  obtain ⟨y, mem', robot, lease, since⟩ := of x mem
  rw [robot, lease, since]
  refine (h y mem').mono ?_
  rintro leaseId ⟨leased, other⟩
  obtain ⟨found, there, same⟩ := leased_iff.mp leased
  exact ⟨leased_iff.mpr ⟨found, kept _ _ there, same⟩, other⟩

/-- An operation that is over, or in another phase, is one of those there were. -/
theorem of_eraseIdx {x : Ending} (mem : x ∈ d.endings.eraseIdx index) :
    ∃ y ∈ d.endings, x.robotId = y.robotId ∧ x.lease = y.lease ∧ x.since = y.since :=
  ⟨x, List.mem_of_mem_eraseIdx mem, rfl, rfl, rfl⟩

theorem of_set {x y : Ending} {phase : EndingPhase} (open_ : d.endings[index]? = some y)
    (mem : x ∈ d.endings.set index { y with phase := phase }) :
    ∃ y ∈ d.endings, x.robotId = y.robotId ∧ x.lease = y.lease ∧ x.since = y.since := by
  rcases List.mem_or_eq_of_mem_set mem with before | rfl
  · exact ⟨x, before, rfl, rfl, rfl⟩
  · exact ⟨y, List.mem_of_getElem? open_, rfl, rfl, rfl⟩

/-- An operation that begins with the robot's lease has nothing to list. -/
theorem covers_own {x : Ending} (there : d.leases.activeLease x.robotId = some x.lease) :
    Watch.Covers (fun leaseId => d.Leased x.robotId leaseId ∧ leaseId ≠ x.lease.leaseId) [] := by
  refine Watch.covers_nil ?_
  rintro leaseId ⟨leased, other⟩
  obtain ⟨found, found_there, rfl⟩ := leased_iff.mp leased
  rw [there] at found_there
  cases found_there
  exact other rfl

theorem Tracked.acquire (h : d.Tracked) (lease : Lease) (deadline : Time) :
    (d.acquire lease deadline).Tracked := by
  unfold Desk.acquire
  split
  · exact h
  · intro x mem
    rcases List.mem_append.mp mem with old | new
    · obtain ⟨y, mem', rfl⟩ := List.mem_map.mp old
      unfold Ending.given
      by_cases same : y.robotId = lease.robotId
      · rw [if_pos same]
        refine (h y mem').note ?_
        rintro leaseId ⟨leased, other⟩
        obtain ⟨found, there, rfl⟩ := leased_iff.mp leased
        dsimp only at there
        rw [same, Leases.activeLease_set_self] at there
        cases there
        exact .inl rfl
      · rw [if_neg same]
        refine (h y mem').mono ?_
        rintro leaseId ⟨leased, other⟩
        obtain ⟨found, there, rfl⟩ := leased_iff.mp leased
        dsimp only at there
        rw [Leases.activeLease_set_of_ne same] at there
        exact ⟨leased_iff.mpr ⟨found, there, rfl⟩, other⟩
    · rw [List.mem_singleton.mp new]
      exact covers_own (Leases.activeLease_set_self ..)

theorem Tracked.read (h : d.Tracked) (ender : Ender) (robotId : String) :
    (d.read ender robotId).Tracked := by
  unfold Desk.read
  split
  · exact h
  next lease there =>
    split
    · exact h
    · intro x mem
      rcases List.mem_append.mp mem with old | new
      · exact h x old
      · rw [List.mem_singleton.mp new]
        exact covers_own there

theorem Tracked.step (h : d.Tracked) (e : Event) : (d.step e).Tracked := by
  cases e with
  | acquire lease deadline => exact h.acquire lease deadline
  | read ender robotId => exact h.read ender robotId
  | commit index commits now lastSeq =>
    simp only [Desk.step]
    split
    · exact h
    next x open_ =>
      unfold Desk.commitEnding
      split
      · exact h
      · split
        · split
          · exact h.shrink (fun _ _ there => there) fun _ => of_eraseIdx
          · exact h.shrink (fun _ _ there => there) fun _ => of_set open_
        · split
          · dsimp only
            split
            · exact h.shrink (fun _ _ there => there) fun _ => of_eraseIdx
            · exact h.shrink (fun _ _ there => there) fun _ => of_set open_
          · exact h.shrink (fun _ _ there => there) fun _ => of_eraseIdx
  | delete index =>
    simp only [Desk.step]
    split
    · exact h
    next x open_ =>
      unfold Desk.deleteEnding
      split
      · exact h
      · refine h.shrink (fun _ _ => Leases.of_activeLease_delete) ?_
        intro y mem
        split at mem
        · exact of_set open_ mem
        · exact of_eraseIdx mem
  | drop index => exact h.shrink (fun _ _ there => there) fun _ => of_eraseIdx
  | renew robotId deadline =>
    refine h.shrink ?_ fun x mem => ⟨x, mem, rfl, rfl, rfl⟩
    intro other lease there
    rwa [Leases.activeLease_renew] at there
  | expire now =>
    exact h.shrink (fun _ _ => Leases.of_activeLease_expire) fun x mem => ⟨x, mem, rfl, rfl, rfl⟩

/-! ## What a step removes -/

/-- A lease is given to a robot that has none. -/
theorem acquire_keeps {robotId : String} {held lease : Lease} {deadline : Time}
    (there : d.leases.activeLease robotId = some held) :
    (d.acquire lease deadline).leases.activeLease robotId = some held := by
  unfold Desk.acquire
  split
  · exact there
  next free =>
    have other : robotId ≠ lease.robotId := by
      intro same
      exact free (.inr (by rw [← same, there]; rfl))
    exact (Leases.activeLease_set_of_ne other _).trans there

theorem read_leases (d : Desk) (ender : Ender) (robotId : String) : (d.read ender robotId).leases = d.leases := by
  unfold Desk.read
  split
  · rfl
  · split <;> rfl

theorem commitEnding_leases (d : Desk) (index : Nat) (x : Ending) (commits : Bool) (now : Time) (lastSeq : Int) :
    (d.commitEnding index x commits now lastSeq).leases = d.leases := by
  unfold Desk.commitEnding Desk.close
  split
  · rfl
  · split
    · split <;> rfl
    · split
      · dsimp only
        split <;> rfl
      · rfl

/-- A deletion removes the robot's lease, which is the one that was read if none has been given since. -/
theorem Tracked.delete_own (h : d.Tracked) {x : Ending} (open_ : d.endings[index]? = some x)
    (alone : x.phase = .deletes → x.since = []) {robotId : String} {lease : Lease}
    (there : d.leases.activeLease robotId = some lease)
    (gone : (d.deleteEnding index x).leases.activeLease robotId ≠ some lease) :
    x.robotId = robotId ∧ x.lease.leaseId = lease.leaseId := by
  unfold Desk.deleteEnding at gone
  split at gone
  · exact absurd there gone
  next deletes =>
    have deletes : x.phase = .deletes := of_not_not deletes
    have own : x.robotId = robotId := by
      by_contra other
      exact gone ((Leases.activeLease_delete_of_ne (Ne.symm other)).trans there)
    refine ⟨own, ?_⟩
    by_contra other
    have listed := h x (List.mem_of_getElem? open_) lease.leaseId
      ⟨leased_iff.mpr ⟨lease, own ▸ there, rfl⟩, Ne.symm other⟩
    rw [alone deletes] at listed
    cases listed

/-- A lease that an expiry removes was at its end. -/
theorem expire_own {robotId : String} {lease : Lease} {now : Time}
    (there : d.leases.activeLease robotId = some lease)
    (gone : (d.leases.expire now).activeLease robotId ≠ some lease) :
    ∃ held, d.leases robotId = some held ∧ held.deadline ≤ now := by
  obtain ⟨held, stored, rfl⟩ := Option.map_eq_some_iff.mp there
  refine ⟨held, stored, ?_⟩
  by_contra lives
  refine gone ?_
  unfold Leases.activeLease Leases.expire
  rw [stored, Option.filter_some, if_pos (decide_eq_true (Int.not_le.mp lives)), Option.map_some]

/-- What a step removes, it ends. -/
theorem Tracked.own (h : d.Tracked) {e : Event} (undisturbed : d.Undisturbed e) : d.Own e := by
  intro robotId lease there gone
  cases e with
  | acquire => exact absurd (acquire_keeps there) gone
  | read ender other =>
    rw [show (d.step (.read ender other)).leases = d.leases from read_leases ..] at gone
    exact absurd there gone
  | commit index commits now lastSeq =>
    simp only [Desk.step] at gone
    split at gone
    · exact absurd there gone
    · rw [commitEnding_leases] at gone
      exact absurd there gone
  | delete index =>
    simp only [Desk.step] at gone
    split at gone
    · exact absurd there gone
    next x open_ => exact ⟨x, open_, h.delete_own open_ (undisturbed x open_) there gone⟩
  | drop index => exact absurd there gone
  | renew other deadline => exact absurd ((Leases.activeLease_renew ..).trans there) gone
  | expire now => exact expire_own there gone

end

/-- **Where no lease is given to a robot between the reading of an operation and its deletion of the key, every
lease goes by its own end.** -/
theorem lease_ends_own (events : List Event) (undisturbed : Runs.Meets step Undisturbed .initial events) :
    Runs.Meets step Own .initial events := by
  have tracked : ∀ before, Tracked (run .initial before) := fun before =>
    Runs.run_of_step (fun _ e h => h.step e) _ before fun x mem => by cases mem
  rw [Runs.meets_iff] at undisturbed ⊢
  intro before e after split
  exact (tracked before).own (undisturbed before e after split)

/-- An operator gives her lease back, another takes the next and an administrator ends it: each deletion removes
the lease that was read. -/
theorem lease_ends_own_release :
    Runs.Meets step Own .initial
      [ .acquire (leaseOf "L1" "alice") (5 * second), .commit 0 true 0 0,
        .read (.release "alice") "R1", .commit 0 true second 3, .delete 0,
        .acquire (leaseOf "L2" "bob") (10 * second), .commit 0 true (2 * second) 0,
        .read .forceRelease "R1", .commit 0 true (3 * second) 7, .delete 0 ] := by
  refine lease_ends_own _ ?_
  refine ⟨trivial, trivial, trivial, trivial, ?_, trivial, trivial, trivial, trivial, ?_, trivial⟩
  · intro x open_ deletes
    cases open_
    rfl
  · intro x open_ deletes
    cases open_
    rfl

/-- An administrator reads the lease of one operator and closes its session; the lease ends by itself and
another operator takes the next; the administrator's deletion hits the new lease. -/
theorem late_release :
    ¬ Runs.Meets step Own .initial
      [ .acquire (leaseOf "L1" "alice") (5 * second), .commit 0 true 0 0,
        .read .forceRelease "R1", .commit 0 true (4 * second) 7, .expire (5 * second),
        .acquire (leaseOf "L2" "bob") (10 * second), .commit 1 true (5 * second) 0, .delete 0 ] := by
  rintro ⟨_, _, _, _, _, _, _, own, _⟩
  obtain ⟨x, open_, _, same⟩ := own "R1" (leaseOf "L2" "bob") rfl (by decide)
  cases open_
  exact absurd same (by decide)

end Desk

end Firebot.Manual
