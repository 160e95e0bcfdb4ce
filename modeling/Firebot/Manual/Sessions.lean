import Firebot.Manual.Ends

/-!
# Sessions and leases

The worker's tick expires the sessions whose time is over, unless their robot has a lease. It does not ask
whose lease that is. A lease that is acquired after the last one has ended by itself, and before a tick has
seen it, keeps the session of the last one open.

An operation is one step here: what falls into its gaps is the subject of `Manual.Ends`.

**After every tick of a run the sessions agree with the leases, where leases are only acquired for robots that
have no session held** (`ticks_agree`). Between the ticks they need not agree, and nothing is said of that.
-/

namespace Firebot.Manual

open Firebot.MqttIngress (ControlState)

/-- The sessions in the database and the leases in Redis. -/
structure Ledger where
  sessions : Table String Session
  leases : Leases

namespace Ledger

/-- Before any lease. -/
def initial : Ledger where
  sessions := ∅
  leases := fun _ => none

/-- What can happen: a lease is acquired, unless its commit fails; it is ended; a pulse renews it; keys come
to the end of their time to live; the worker ticks, and finds some robots `gone`, each for a reason. -/
inductive Event where
  | acquire (lease : Lease) (now deadline : Time) (commits : Bool)
  | endLease (ender : Ender) (robotId : String) (now : Time) (lastSeq : Int)
  | pulse (robotId leaseId : String) (deadline : Time)
  | expire (now : Time)
  | tick (now : Time) (gone : List (String × String))

section

variable (g : Ledger)

/-- The lease is set, and its row inserted. -/
def acquires (lease : Lease) (commits : Bool) : Bool :=
  commits && (g.leases.activeLease lease.robotId).isNone && (g.sessions.lookup lease.leaseId).isNone

/-- `acquire_lease`, after its checks. -/
def acquire (lease : Lease) (now deadline : Time) (commits : Bool) : Ledger :=
  if g.acquires lease commits then
    { sessions := g.sessions.insert lease.leaseId (lease.session now)
      leases := g.leases.set lease.robotId { lease := lease, deadline := deadline } }
  else g

/-- `release_lease`, `force_release_lease` and the others that end a lease. -/
def endLease (ender : Ender) (robotId : String) (now : Time) (lastSeq : Int) : Ledger :=
  match g.leases.activeLease robotId with
  | none => g
  | some lease =>
    if ender.ends lease then
      { sessions := Table.modify lease.leaseId (ender.close now lastSeq) g.sessions
        leases := g.leases.delete robotId }
    else g

/-- The pulse of a lease renews its key. -/
def pulse (robotId leaseId : String) (deadline : Time) : Ledger :=
  if (g.leases.activeLease robotId).any (·.leaseId = leaseId) then
    { g with leases := g.leases.renew robotId deadline }
  else g

/-- `reconcile_robot_states` ends the session of a robot that is gone; the key is deleted after the
commit. -/
def loseRobot (now : Time) (sessions : Table String Session) (row : String × String) :
    Table String Session :=
  match g.leases.activeLease row.1 with
  | some lease => Table.modify lease.leaseId (·.ended .expired row.2 now) sessions
  | none => sessions

/-- `expire_sessions_and_commands`, its sessions: those that the database has as held. -/
def expireSession (now : Time) (leaseId : String) (session : Session) : Session :=
  if (g.sessions.lookup leaseId).any (fun stored => stored.state = .held && stored.expiresAt < now) &&
      (g.leases.activeLease session.robotId).isNone then
    { session with state := .expired, endedAt := some now, endReason := some "LEASE_TTL" }
  else session

/-- The worker's tick. -/
def tick (now : Time) (gone : List (String × String)) : Ledger where
  sessions := Table.update (g.expireSession now) (gone.foldl (g.loseRobot now) g.sessions)
  leases := gone.foldl (fun leases row => leases.delete row.1) g.leases

end

/-- One event. -/
def step (g : Ledger) : Event → Ledger
  | .acquire lease now deadline commits => g.acquire lease now deadline commits
  | .endLease ender robotId now lastSeq => g.endLease ender robotId now lastSeq
  | .pulse robotId leaseId deadline => g.pulse robotId leaseId deadline
  | .expire now => { g with leases := g.leases.expire now }
  | .tick now gone => g.tick now gone

/-! ## The law -/

/-- The session is held, and its time is over. -/
def Overdue (g : Ledger) (now : Time) (leaseId : String) (session : Session) : Prop :=
  g.sessions.lookup leaseId = some session ∧ session.state = .held ∧ session.expiresAt < now

/-- **A session that is held past its time has the lease of its robot**, and so a robot has one such session
at most. -/
structure Agrees (g : Ledger) (now : Time) : Prop where
  own : ∀ leaseId session, g.Overdue now leaseId session →
    ∃ lease, g.leases.activeLease session.robotId = some lease ∧ lease.leaseId = leaseId
  single : ∀ a b sa sb, g.Overdue now a sa → g.Overdue now b sb → sa.robotId = sb.robotId → a = b

/-- Every tick leaves the sessions in agreement with the leases. -/
def TickAgrees (g : Ledger) : Event → Prop
  | .tick now gone => (g.tick now gone).Agrees now
  | _ => True

/-- A lease is acquired for a robot none of whose sessions is held. -/
def Vacant (g : Ledger) : Event → Prop
  | .acquire lease _ _ commits => g.acquires lease commits = true →
      ∀ row ∈ g.sessions.rows, row.2.robotId = lease.robotId → row.2.state ≠ .held
  | _ => True

/-! ## The invariant -/

/-- While a robot has a lease, no session of it is held but that lease's. -/
def Single (g : Ledger) : Prop :=
  ∀ robotId lease, g.leases.activeLease robotId = some lease → ∀ leaseId session,
    g.sessions.lookup leaseId = some session → session.robotId = robotId → session.state = .held →
      leaseId = lease.leaseId

/-- Sessions end, and stay with their robot. -/
def Ends (f : Session → Session) : Prop :=
  ∀ session, (f session).robotId = session.robotId ∧ (f session).expiresAt = session.expiresAt ∧
    ((f session).state = .held → session.state = .held)

theorem ends_ended (state : ControlState) (other : state ≠ .held) (reason : String) (now : Time) :
    Ends (·.ended state reason now) := by
  intro session
  dsimp only
  unfold Session.ended
  split
  · exact ⟨rfl, rfl, fun held => absurd held other⟩
  · exact ⟨rfl, rfl, fun held => held⟩

theorem ends_close (ender : Ender) (now : Time) (lastSeq : Int) : Ends (ender.close now lastSeq) := by
  have api : ∀ state reason, state ≠ ControlState.held →
      Ends (·.endLease state reason now lastSeq) := by
    intro state reason other session
    have ended := ends_ended state other reason now session
    dsimp only at ended ⊢
    unfold Session.endLease
    split
    · exact ended
    · exact ⟨rfl, rfl, fun held => held⟩
  cases ender with
  | acquisition => exact fun _ => ⟨rfl, rfl, fun held => held⟩
  | release userId => exact api _ _ (by decide)
  | forceRelease => exact api _ _ (by decide)
  | emergencyStop => exact api _ _ (by decide)
  | reboot => exact ends_ended _ (by decide) _ now
  | reconciliation reason => exact ends_ended _ (by decide) _ now
  | cleanup userId reason => exact ends_ended _ (by decide) _ now

section

variable {g : Ledger} {now : Time}

/-- Leases go, and sessions end. -/
theorem Single.shrink (h : g.Single) {sessions : Table String Session} {leases : Leases}
    (kept : ∀ robotId lease, leases.activeLease robotId = some lease →
      g.leases.activeLease robotId = some lease)
    (ends : ∀ leaseId session, sessions.lookup leaseId = some session → session.state = .held →
      ∃ before, g.sessions.lookup leaseId = some before ∧ before.robotId = session.robotId ∧
        before.state = .held) :
    Single { sessions := sessions, leases := leases } := by
  intro robotId lease there leaseId session found own held
  obtain ⟨before, was, robot, wasHeld⟩ := ends leaseId session found held
  exact h robotId lease (kept robotId lease there) leaseId before was (robot.trans own) wasHeld

/-- A session after one has been changed that only ends. -/
theorem of_modify {f : Session → Session} (ends : Ends f) {changed leaseId : String}
    {sessions : Table String Session} {session : Session}
    (found : (Table.modify changed f sessions).lookup leaseId = some session) :
    ∃ before, sessions.lookup leaseId = some before ∧ before.robotId = session.robotId ∧
      before.expiresAt = session.expiresAt ∧ (session.state = .held → before.state = .held) := by
  obtain ⟨before, was, ⟨_, rfl⟩ | ⟨_, rfl⟩⟩ := Table.of_lookup_modify found
  · obtain ⟨robot, expiresAt, held⟩ := ends before
    exact ⟨before, was, robot.symm, expiresAt.symm, held⟩
  · exact ⟨session, was, rfl, rfl, fun held => held⟩

/-- A session that is held once the robots that are gone have lost theirs was held, and has no lease of such
a robot. -/
theorem of_loseRobots {gone : List (String × String)} {sessions : Table String Session}
    {leaseId : String} {session : Session}
    (found : (gone.foldl (g.loseRobot now) sessions).lookup leaseId = some session)
    (held : session.state = .held) :
    (∃ before, sessions.lookup leaseId = some before ∧ before.robotId = session.robotId ∧
      before.expiresAt = session.expiresAt ∧ before.state = .held) ∧
      ∀ row ∈ gone, ∀ lease, g.leases.activeLease row.1 = some lease → lease.leaseId ≠ leaseId := by
  induction gone generalizing sessions with
  | nil => exact ⟨⟨session, found, rfl, rfl, held⟩, fun row mem => by cases mem⟩
  | cons row gone ih =>
    obtain ⟨⟨mid, foundMid, robot, expiresAt, heldMid⟩, others⟩ := ih found
    unfold loseRobot at foundMid
    cases there : g.leases.activeLease row.1 with
    | none =>
      rw [there] at foundMid
      refine ⟨⟨mid, foundMid, robot, expiresAt, heldMid⟩, ?_⟩
      intro other mem lease leased
      rcases List.mem_cons.mp mem with rfl | later
      · rw [there] at leased
        cases leased
      · exact others other later lease leased
    | some lost =>
      rw [there] at foundMid
      obtain ⟨before, was, robot', expiresAt', held'⟩ :=
        of_modify (ends_ended .expired (by decide) row.2 now) foundMid
      refine ⟨⟨before, was, robot'.trans robot, expiresAt'.trans expiresAt, held' heldMid⟩, ?_⟩
      intro other mem lease leased
      rcases List.mem_cons.mp mem with rfl | later
      · cases Option.some.inj (there.symm.trans leased)
        rintro rfl
        -- the session of a lost lease is not held any more
        rw [Table.lookup_modify_self, was, Option.map_some] at foundMid
        cases foundMid
        unfold Session.ended at heldMid
        split at heldMid
        · cases heldMid
        next free => exact free heldMid
      · exact others other later lease leased

/-- A lease that is there after robots have lost theirs was there, and is not one of theirs. -/
theorem of_deleteAll {gone : List (String × String)} {leases : Leases} {robotId : String}
    {lease : Lease}
    (there : (gone.foldl (fun leases row => leases.delete row.1) leases).activeLease robotId =
      some lease) : leases.activeLease robotId = some lease := by
  induction gone generalizing leases with
  | nil => exact there
  | cons row gone ih => exact Leases.of_activeLease_delete (ih there)

/-- A robot that is not gone keeps its lease. -/
theorem activeLease_deleteAll {gone : List (String × String)} {robotId : String} (leases : Leases)
    (other : ∀ row ∈ gone, row.1 ≠ robotId) :
    (gone.foldl (fun leases row => leases.delete row.1) leases).activeLease robotId =
      leases.activeLease robotId := by
  induction gone generalizing leases with
  | nil => rfl
  | cons row gone ih =>
    have rest := ih (leases.delete row.1) fun r mem => other r (List.mem_cons_of_mem _ mem)
    exact rest.trans (Leases.activeLease_delete_of_ne (other row List.mem_cons_self).symm)

/-- A session that is held after a tick was held, is not of a lease that a robot has lost, and was not
overdue unless its robot had a lease. -/
theorem of_tick {gone : List (String × String)} {leaseId : String} {session : Session}
    (found : (g.tick now gone).sessions.lookup leaseId = some session)
    (held : session.state = .held) :
    ∃ before, g.sessions.lookup leaseId = some before ∧ before.robotId = session.robotId ∧
      before.state = .held ∧
      (∀ row ∈ gone, ∀ lease, g.leases.activeLease row.1 = some lease → lease.leaseId ≠ leaseId) ∧
      (session.expiresAt < now → g.leases.activeLease session.robotId ≠ none) := by
  change (Table.update _ _).lookup leaseId = _ at found
  rw [Table.lookup_update] at found
  obtain ⟨mid, foundMid, rfl⟩ := Option.map_eq_some_iff.mp found
  unfold expireSession at held ⊢
  split at held
  · cases held
  next spared =>
    rw [if_neg spared]
    obtain ⟨⟨before, was, robot, expiresAt, wasHeld⟩, others⟩ := of_loseRobots foundMid held
    refine ⟨before, was, robot, wasHeld, others, ?_⟩
    intro late free
    refine spared ?_
    simp [was, wasHeld, free, expiresAt, late]

theorem Single.tick (h : g.Single) (now : Time) (gone : List (String × String)) :
    (g.tick now gone).Single := by
  refine h.shrink (fun _ _ => of_deleteAll) ?_
  intro leaseId session found held
  obtain ⟨before, was, robot, wasHeld, _⟩ := of_tick found held
  exact ⟨before, was, robot, wasHeld⟩

/-- **A tick leaves the sessions in agreement with the leases** where a robot with a lease has no other
session held. -/
theorem Single.agrees (h : g.Single) (now : Time) (gone : List (String × String)) :
    (g.tick now gone).Agrees now := by
  have own : ∀ leaseId session, (g.tick now gone).Overdue now leaseId session →
      ∃ lease, (g.tick now gone).leases.activeLease session.robotId = some lease ∧
        lease.leaseId = leaseId := by
    rintro leaseId session ⟨found, held, late⟩
    obtain ⟨before, was, robot, wasHeld, others, leased⟩ := of_tick found held
    obtain ⟨lease, there⟩ := Option.ne_none_iff_exists'.mp (leased late)
    have same := h session.robotId lease there leaseId before was robot wasHeld
    refine ⟨lease, ?_, same.symm⟩
    have keeps : ∀ row ∈ gone, row.1 ≠ session.robotId := by
      intro row mem robots
      exact others row mem lease (robots ▸ there) same.symm
    exact (activeLease_deleteAll g.leases keeps).trans there
  refine ⟨own, ?_⟩
  intro a b sa sb overdueA overdueB robots
  obtain ⟨leaseA, thereA, rfl⟩ := own a sa overdueA
  obtain ⟨leaseB, thereB, rfl⟩ := own b sb overdueB
  rw [robots, thereB] at thereA
  cases thereA
  rfl

theorem Single.acquire (h : g.Single) {lease : Lease} {deadline : Time} {commits : Bool}
    (vacant : g.Vacant (.acquire lease now deadline commits)) :
    (g.acquire lease now deadline commits).Single := by
  unfold Ledger.acquire
  split
  next acquires =>
    intro robotId found there leaseId session foundSession own held
    change (g.leases.set lease.robotId _).activeLease robotId = _ at there
    rcases Table.of_lookup_insert foundSession with ⟨rfl, rfl⟩ | ⟨_, before⟩
    · have same : lease.robotId = robotId := own
      subst same
      rw [Leases.activeLease_set_self] at there
      exact congrArg Lease.leaseId (Option.some.inj there)
    · by_cases same : robotId = lease.robotId
      · subst same
        exact absurd held (vacant acquires (leaseId, session) (Table.mem_rows.mpr before) own)
      · rw [Leases.activeLease_set_of_ne same] at there
        exact h robotId found there leaseId session before own held
  · exact h

theorem Single.step (h : g.Single) {e : Event} (vacant : g.Vacant e) : (g.step e).Single := by
  have same : ∀ leaseId session, g.sessions.lookup leaseId = some session → session.state = .held →
      ∃ before, g.sessions.lookup leaseId = some before ∧ before.robotId = session.robotId ∧
        before.state = .held := fun _ session found held => ⟨session, found, rfl, held⟩
  cases e with
  | acquire lease now deadline commits => exact h.acquire vacant
  | endLease ender robotId now lastSeq =>
    simp only [Ledger.step, Ledger.endLease]
    split
    · exact h
    next lease there =>
      split
      · refine h.shrink (fun _ _ => Leases.of_activeLease_delete) ?_
        intro leaseId session found held
        obtain ⟨before, was, robot, _, wasHeld⟩ := of_modify (ends_close ender now lastSeq) found
        exact ⟨before, was, robot, wasHeld held⟩
      · exact h
  | pulse robotId leaseId deadline =>
    simp only [Ledger.step, Ledger.pulse]
    split
    · refine h.shrink ?_ same
      intro other lease there
      rwa [Leases.activeLease_renew] at there
    · exact h
  | expire now => exact h.shrink (fun _ _ => Leases.of_activeLease_expire) same
  | tick now gone => exact h.tick now gone

end

/-- **After every tick of a run the sessions agree with the leases**, where leases are only acquired for
robots that have no session held. -/
theorem ticks_agree (events : List Event) (vacant : Runs.Meets step Vacant .initial events) :
    Runs.Meets step TickAgrees .initial events := by
  have agrees : ∀ g e, Single g → g.TickAgrees e := by
    intro g e h
    cases e with
    | tick now gone => exact h.agrees now gone
    | acquire lease now deadline commits => trivial
    | endLease ender robotId now lastSeq => trivial
    | pulse robotId leaseId deadline => trivial
    | expire now => trivial
  have start : Single .initial := by
    intro robotId lease there
    cases there
  exact Runs.meets_of_invariant (I := Single) (fun _ _ h ok => h.step ok) agrees start vacant

/-- One operator drives past the time that the session's row names, releases the lease, and another takes the
next: both ticks find the sessions in agreement. -/
theorem ticks_agree_handover :
    Runs.Meets step TickAgrees .initial
      [ .acquire (leaseOf "L1" "alice") 0 (5 * second) true, .pulse "R1" "L1" (8 * second),
        .expire (6 * second), .tick (6 * second) [],
        .endLease (.release "alice") "R1" (7 * second) 3,
        .acquire (leaseOf "L2" "bob") (7 * second) (12 * second) true, .tick (8 * second) [] ] := by
  refine ticks_agree _ ⟨?_, trivial, trivial, trivial, trivial, ?_, trivial, trivial⟩
  · intro _
    decide
  · intro _
    decide

/-- The lease of one operator ends by itself and another takes the next before the worker ticks: the tick
leaves the first session open. -/
theorem kept_open :
    ¬ Runs.Meets step TickAgrees .initial
      [ .acquire (leaseOf "L1" "alice") 0 (5 * second) true, .expire (5 * second),
        .acquire { leaseOf "L2" "bob" with expiresAt := 10 * second } (5 * second) (10 * second) true,
        .tick (6 * second) [] ] := by
  rintro ⟨_, _, _, agrees, _⟩
  obtain ⟨lease, there, same⟩ :=
    agrees.own "L1" ((leaseOf "L1" "alice").session 0) ⟨rfl, rfl, by decide⟩
  cases there
  exact absurd same (by decide)

end Ledger

end Firebot.Manual
