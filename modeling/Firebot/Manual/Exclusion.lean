import Firebot.Commands.Requests
import Firebot.Lib.Watch
import Firebot.Manual.Model
import Firebot.Tasks.Activity

/-!
# Manual control and tasks

`acquire_lease` looks for an active task of the robot and then sets the lease in Redis. A request that
creates a task looks for the lease and then commits the task. Each looks into the other's store before it
acts in its own, and nothing is locked in between: `since` keeps what has come to the other store after the
look.

The scheduler commits a task whose command has been refused, also where the lease has refused it, and a
report may revive a task that has ended; neither asks for the lease.

**A robot with a manual lease has no active task, at any time, exactly in the interleavings in which leases and
tasks are set apart** (`exclusive_iff`). Nothing is said of what the vehicle itself does with a pulse and a task
that meet.
-/

namespace Firebot.Manual

open Firebot.Tasks
open Firebot.Requests (Path)

/-! ## Requests under way -/

/-- How far an `acquire_lease` has come: nothing looked at; admitted; the lease set. -/
inductive TakingPhase where
  | begun
  | admitted
  | leased
  deriving DecidableEq, Repr

/-- An `acquire_lease` under way; `since` are the tasks that have become active after its look. -/
structure Taking where
  lease : Lease
  phase : TakingPhase
  since : List String

/-- How far a transaction that creates a task has come: nothing looked at; past the scheduler's first
look; past the look for a lease; past the look for an active task; refused, but the scheduler's. -/
inductive MakingPhase where
  | begun
  | gated
  | unleased
  | admitted
  | stranded
  deriving DecidableEq, Repr

/-- The transaction has looked for a lease, or has been refused. -/
def MakingPhase.looked : MakingPhase → Bool
  | .unleased | .admitted | .stranded => true
  | .begun | .gated => false

/-- A transaction that creates a task; `since` are the leases that refused it or have been set after its
look. -/
structure Making where
  path : Path
  c : Creation
  phase : MakingPhase
  since : List String

/-- The committed tables, the leases in Redis, and the requests under way. -/
structure World where
  db : Database
  leases : Leases
  takings : List Taking
  makings : List Making

namespace World

/-- Before any request. -/
def initial : World where
  db := .empty
  leases := fun _ => none
  takings := []
  makings := []

/-- What can happen.

An `acquire_lease` arrives, looks for an active task (and may be refused for another reason), sets the key,
and commits or fails to. A pulse renews the key of its robot, whoever ends a lease deletes it, and it goes
away at the end of its time to live. A request for a task begins, takes the scheduler's first look, looks
for a lease, looks for an active task, commits or is given up. `task` is any other step of the tasks. -/
inductive Event where
  | acquire (lease : Lease)
  | checkTasks (index : Nat) (refused : Bool)
  | setLease (index : Nat) (deadline : Time)
  | commitLease (index : Nat) (commits : Bool)
  | renew (robotId : String) (deadline : Time)
  | release (robotId : String)
  | expire (now : Time)
  | start (path : Path) (c : Creation)
  | gate (index : Nat)
  | lookLease (index : Nat) (refused : Bool)
  | lookTask (index : Nat) (refused : Bool)
  | commit (index : Nat) (now : Time)
  | abort (index : Nat)
  | task (e : Tasks.Event)

section

variable (w : World) (index : Nat)

/-- The lease with this id is the robot's. -/
def Leased (robotId leaseId : String) : Prop :=
  (w.leases.activeLease robotId).map Lease.leaseId = some leaseId

/-- An `acquire_lease` is over. -/
def closeTaking : World := { w with takings := w.takings.eraseIdx index }

/-- A request for a task is over. -/
def closeMaking : World := { w with makings := w.makings.eraseIdx index }

/-- `assert_robot_can_execute(…, "manual_control")`. -/
def admitTaking (t : Taking) (refused : Bool) : World :=
  if t.phase ≠ .begun then w
  else if refused || !(w.db.active t.lease.robotId).isEmpty then w.closeTaking index
  else { w with takings := w.takings.set index { t with phase := .admitted, since := [] } }

/-- The lease is set, unless the robot has one. -/
def setTaking (t : Taking) (deadline : Time) : World :=
  if t.phase ≠ .admitted then w
  else if (w.leases.activeLease t.lease.robotId).isSome then w.closeTaking index
  else
    { w with
      leases := w.leases.set t.lease.robotId { lease := t.lease, deadline := deadline }
      takings := w.takings.set index { t with phase := .leased }
      makings := w.makings.map fun m => { m with since := t.lease.leaseId :: m.since } }

/-- The row of the lease is committed; where that fails, the key is deleted. -/
def commitTaking (t : Taking) (commits : Bool) : World :=
  if t.phase ≠ .leased then w
  else if commits then w.closeTaking index
  else { w.closeTaking index with leases := w.leases.delete t.lease.robotId }

/-- The scheduler's first look. -/
def gateMaking (m : Making) : World :=
  if m.path = .scheduler ∧ m.phase = .begun then
    if (w.db.active m.c.robotId).isEmpty then
      { w with makings := w.makings.set index { m with phase := .gated } }
    else w.closeMaking index
  else w

/-- A request of the API that is refused is rolled back; the scheduler goes on with the task it has
inserted. -/
def resolve (m : Making) (refused : Bool) (next : MakingPhase) : World :=
  if refused then
    match m.path with
    | .api => w.closeMaking index
    | .scheduler => { w with makings := w.makings.set index { m with phase := .stranded } }
  else { w with makings := w.makings.set index { m with phase := next } }

/-- The look for a lease. -/
def lookLeaseMaking (m : Making) (refused : Bool) : World :=
  let held := (w.leases.activeLease m.c.robotId).map Lease.leaseId
  if m.path = .api ∧ m.phase = .begun ∨ m.path = .scheduler ∧ m.phase = .gated then
    w.resolve index { m with since := held.toList } (refused || held.isSome) .unleased
  else w

/-- The look for an active task. -/
def lookTaskMaking (m : Making) (refused : Bool) : World :=
  if m.phase = .unleased then
    w.resolve index m (refused || w.db.activeConflict m.c.robotId m.c.type.cmd) .admitted
  else w

/-- The tables with the rows of a transaction; the ids must be new. -/
def committed (db : Database) (m : Making) (now : Time) : Option Database :=
  match m.phase with
  | .admitted => if db.fresh m.c.taskId m.c.commandId then some (db.create m.c now) else none
  | .stranded => if db.tasks.lookup m.c.taskId = none then some (db.strand m.c now) else none
  | .begun | .gated | .unleased => none

/-- Tasks have become active. -/
def note (id : String) : List Taking := w.takings.map fun t => { t with since := id :: t.since }

/-- A transaction commits. -/
def commitMaking (m : Making) (now : Time) : World :=
  match committed w.db m now with
  | some db => { w.closeMaking index with db := db, takings := w.note m.c.taskId }
  | none => if m.phase = .admitted ∨ m.phase = .stranded then w.closeMaking index else w

/-- A step of the tasks that creates none. -/
def stepTask (e : Tasks.Event) : World :=
  if e.creates then w
  else
    { w with
      db := w.db.step e
      takings :=
        match e with
        | .taskStatus _ msg _ => w.note msg.taskId
        | _ => w.takings }

end

/-- One event. -/
def step (w : World) : Event → World
  | .acquire lease =>
    { w with takings := w.takings ++ [{ lease := lease, phase := .begun, since := [] }] }
  | .checkTasks index refused =>
    match w.takings[index]? with
    | none => w
    | some t => w.admitTaking index t refused
  | .setLease index deadline =>
    match w.takings[index]? with
    | none => w
    | some t => w.setTaking index t deadline
  | .commitLease index commits =>
    match w.takings[index]? with
    | none => w
    | some t => w.commitTaking index t commits
  | .renew robotId deadline => { w with leases := w.leases.renew robotId deadline }
  | .release robotId => { w with leases := w.leases.delete robotId }
  | .expire now => { w with leases := w.leases.expire now }
  | .start path c => { w with makings := w.makings ++ [{ path, c, phase := .begun, since := [] }] }
  | .gate index =>
    match w.makings[index]? with
    | none => w
    | some m => w.gateMaking index m
  | .lookLease index refused =>
    match w.makings[index]? with
    | none => w
    | some m => w.lookLeaseMaking index m refused
  | .lookTask index refused =>
    match w.makings[index]? with
    | none => w
    | some m => w.lookTaskMaking index m refused
  | .commit index now =>
    match w.makings[index]? with
    | none => w
    | some m => w.commitMaking index m now
  | .abort index => w.closeMaking index
  | .task e => w.stepTask e

/-- The state after a list of events. -/
abbrev run (w : World) (events : List Event) : World := Runs.run step w events

end World

/-! ## The law -/

/-- **A robot with a manual lease has no active task.** -/
def Exclusive (w : World) : Prop :=
  ∀ robotId leaseId id, w.Leased robotId leaseId → ¬ Active w.db robotId id

namespace World

/-- Each acts on a look that still holds: a lease is set while no task that has become active since the look
is active, a task is committed while no lease that has been set since the look is there (or that refused
it), and no report revives a task of a robot that has a lease. -/
def Apart (w : World) : Event → Prop
  | .setLease index _ => ∀ t, w.takings[index]? = some t → t.phase = .admitted →
      w.leases.activeLease t.lease.robotId = none →
      ∀ id ∈ t.since, ¬ Active w.db t.lease.robotId id
  | .commit index now => ∀ m, w.makings[index]? = some m → (committed w.db m now).isSome = true →
      ∀ leaseId ∈ m.since, ¬ w.Leased m.c.robotId leaseId
  | .task (.taskStatus robotId msg _) => Revives w.db robotId msg →
      w.leases.activeLease robotId = none
  | _ => True

/-! ## What the looks keep -/

/-- The law, and every look lists what has come since. -/
structure Looked (w : World) : Prop where
  exclusive : Exclusive w
  takings : ∀ t ∈ w.takings, t.phase = .admitted →
    Watch.Covers (Active w.db t.lease.robotId) t.since
  makings : ∀ m ∈ w.makings, m.phase.looked = true → Watch.Covers (w.Leased m.c.robotId) m.since

section

variable {w : World} {index : Nat}

/-- A robot is leased under an id when its active lease bears it. -/
theorem leased_iff {robotId leaseId : String} : w.Leased robotId leaseId ↔
    ∃ lease, w.leases.activeLease robotId = some lease ∧ lease.leaseId = leaseId :=
  Option.map_eq_some_iff

/-- Only leases go. -/
theorem Looked.unlease (h : w.Looked) {leases : Leases}
    (kept : ∀ robotId lease, leases.activeLease robotId = some lease →
      w.leases.activeLease robotId = some lease) : Looked { w with leases := leases } := by
  have before : ∀ robotId leaseId, Leased { w with leases := leases } robotId leaseId →
      w.Leased robotId leaseId := by
    intro robotId leaseId leased
    obtain ⟨lease, there, same⟩ := leased_iff.mp leased
    exact leased_iff.mpr ⟨lease, kept robotId lease there, same⟩
  constructor
  · intro robotId leaseId id leased
    exact h.exclusive robotId leaseId id (before robotId leaseId leased)
  · exact h.takings
  · intro m mem looked
    exact (h.makings m mem looked).mono (before m.c.robotId)

/-- Giving an acquisition up keeps what the others have looked at. -/
theorem Looked.closeTaking (h : w.Looked) (index : Nat) : (w.closeTaking index).Looked where
  exclusive := h.exclusive
  takings t mem := h.takings t (List.mem_of_mem_eraseIdx mem)
  makings := h.makings

/-- So does giving a task up. -/
theorem Looked.closeMaking (h : w.Looked) (index : Nat) : (w.closeMaking index).Looked where
  exclusive := h.exclusive
  takings := h.takings
  makings m mem := h.makings m (List.mem_of_mem_eraseIdx mem)

/-- An acquisition may move on when its look is covered since it was made. -/
theorem Looked.putTaking (h : w.Looked) (index : Nat) {t : Taking}
    (covers : t.phase = .admitted → Watch.Covers (Active w.db t.lease.robotId) t.since) :
    Looked { w with takings := w.takings.set index t } where
  exclusive := h.exclusive
  takings other mem := by
    rcases List.mem_or_eq_of_mem_set mem with before | rfl
    · exact h.takings other before
    · exact covers
  makings := h.makings

/-- So may the making of a task. -/
theorem Looked.putMaking (h : w.Looked) (index : Nat) {m : Making}
    (covers : m.phase.looked = true → Watch.Covers (w.Leased m.c.robotId) m.since) :
    Looked { w with makings := w.makings.set index m } where
  exclusive := h.exclusive
  takings := h.takings
  makings other mem := by
    rcases List.mem_or_eq_of_mem_set mem with before | rfl
    · exact h.makings other before
    · exact covers

/-! ## The requests for a lease -/

/-- The first look of an acquisition: for the tasks that are there. -/
theorem Looked.admitTaking (h : w.Looked) (index : Nat) (t : Taking) (refused : Bool) :
    (w.admitTaking index t refused).Looked := by
  unfold World.admitTaking
  split
  · exact h
  · split
    · exact h.closeTaking index
    next free =>
      simp only [Bool.or_eq_true, Bool.not_eq_true', not_or, Bool.not_eq_false] at free
      refine h.putTaking index ?_
      intro _
      exact Watch.covers_nil (active_isEmpty.mp free.2)

/-- The key is set with no task made since the look, in a run without the window. -/
theorem Looked.setTaking (h : w.Looked) {t : Taking} (open_ : w.takings[index]? = some t)
    {deadline : Time} (apart : w.Apart (.setLease index deadline)) :
    (w.setTaking index t deadline).Looked := by
  unfold World.setTaking
  split
  · exact h
  next admitted =>
    rw [not_not] at admitted
    split
    · exact h.closeTaking index
    next free =>
      rw [Bool.not_eq_true, Option.isSome_eq_false_iff, Option.isNone_iff_eq_none] at free
      have idle : ∀ id, ¬ Active w.db t.lease.robotId id :=
        (h.takings t (List.mem_of_getElem? open_) admitted).nothing (apart t open_ admitted free)
      -- what is leased now: the new lease, and what was
      have came : ∀ robotId leaseId,
          ((w.leases.set t.lease.robotId ⟨t.lease, deadline⟩).activeLease robotId).map
            Lease.leaseId = some leaseId →
          robotId = t.lease.robotId ∧ leaseId = t.lease.leaseId ∨ w.Leased robotId leaseId := by
        intro robotId leaseId leased
        by_cases same : robotId = t.lease.robotId
        · subst same
          rw [Leases.activeLease_set_self] at leased
          exact .inl ⟨rfl, (Option.some.inj leased).symm⟩
        · rw [Leases.activeLease_set_of_ne same] at leased
          exact .inr leased
      constructor
      · intro robotId leaseId id leased
        rcases came robotId leaseId leased with ⟨rfl, _⟩ | before
        · exact idle id
        · exact h.exclusive robotId leaseId id before
      · intro other mem phase
        rcases List.mem_or_eq_of_mem_set mem with before | rfl
        · exact h.takings other before phase
        · cases phase
      · intro m mem looked
        obtain ⟨old, oldMem, rfl⟩ := List.mem_map.mp mem
        refine (h.makings old oldMem looked).note ?_
        intro leaseId leased
        rcases came old.c.robotId leaseId leased with ⟨_, same⟩ | before
        · exact .inl same
        · exact .inr before

/-- The row of the lease is committed. -/
theorem Looked.commitTaking (h : w.Looked) (index : Nat) (t : Taking) (commits : Bool) :
    (w.commitTaking index t commits).Looked := by
  unfold World.commitTaking
  split
  · exact h
  · split
    · exact h.closeTaking index
    · exact (h.closeTaking index).unlease fun _ _ => Leases.of_activeLease_delete

/-! ## The requests for a task -/

/-- The gates before a task is made do not look at leases. -/
theorem Looked.gateMaking (h : w.Looked) (index : Nat) (m : Making) :
    (w.gateMaking index m).Looked := by
  unfold World.gateMaking
  split
  · split
    · exact h.putMaking index fun looked => by cases looked
    · exact h.closeMaking index
  · exact h

/-- A look that refuses closes the request, and one that does not opens its window. -/
theorem Looked.resolve (h : w.Looked) (index : Nat) {m : Making} (refused : Bool)
    (next : MakingPhase) (covers : Watch.Covers (w.Leased m.c.robotId) m.since) :
    (w.resolve index m refused next).Looked := by
  unfold World.resolve
  split
  · split
    · exact h.closeMaking index
    · exact h.putMaking index fun _ => covers
  · exact h.putMaking index fun _ => covers

/-- The look for a lease opens the window of a task. -/
theorem Looked.lookLeaseMaking (h : w.Looked) (index : Nat) (m : Making) (refused : Bool) :
    (w.lookLeaseMaking index m refused).Looked := by
  unfold World.lookLeaseMaking
  split
  · refine h.resolve index _ _ ?_
    intro leaseId leased
    exact Option.mem_toList.mpr leased
  · exact h

/-- The look for another task keeps it open. -/
theorem Looked.lookTaskMaking (h : w.Looked) {m : Making} (open_ : w.makings[index]? = some m)
    (refused : Bool) : (w.lookTaskMaking index m refused).Looked := by
  unfold World.lookTaskMaking
  split
  next unleased =>
    refine h.resolve index _ _ (h.makings m (List.mem_of_getElem? open_) ?_)
    rw [unleased]
    rfl
  · exact h

/-- What a commit adds: its own task, under a new id, active. -/
theorem active_committed {db db' : Database} {m : Making} {now : Time}
    (done : committed db m now = some db') (robotId id : String) :
    Active db' robotId id ↔ robotId = m.c.robotId ∧ id = m.c.taskId ∨ Active db robotId id := by
  have inserted : ∃ task : Task, task.robotId = m.c.robotId ∧ task.status.active = true ∧
      db.tasks.lookup m.c.taskId = none ∧ db'.tasks = db.tasks.insert m.c.taskId task := by
    unfold committed at done
    split at done
    · split at done
      next fresh =>
        cases done
        exact ⟨_, rfl, rfl, fresh.1, rfl⟩
      · cases done
    · split at done
      next unused =>
        cases done
        exact ⟨_, rfl, rfl, unused, rfl⟩
      · cases done
    all_goals cases done
  obtain ⟨task, robot, active, unused, tables⟩ := inserted
  unfold Active
  rw [tables, ← robot]
  constructor
  · rintro ⟨row, found, own, rowActive⟩
    rcases Table.of_lookup_insert found with ⟨rfl, rfl⟩ | ⟨_, before⟩
    · exact .inl ⟨own.symm, rfl⟩
    · exact .inr ⟨row, before, own, rowActive⟩
  · rintro (⟨rfl, rfl⟩ | ⟨row, found, own, rowActive⟩)
    · exact ⟨task, AList.lookup_insert _, rfl, active⟩
    · exact ⟨row, Table.lookup_insert_of_found _ unused found, own, rowActive⟩

/-- A transaction that commits has looked for a lease, or has been refused. -/
theorem looked_of_committed {db db' : Database} {m : Making} {now : Time}
    (done : committed db m now = some db') : m.phase.looked = true := by
  unfold committed at done
  cases phase : m.phase with
  | begun => simp [phase] at done
  | gated => simp [phase] at done
  | unleased => rfl
  | admitted => rfl
  | stranded => rfl

/-- The task is committed with no lease set since the look, in a run without the window. -/
theorem Looked.commitMaking (h : w.Looked) {m : Making} {now : Time}
    (open_ : w.makings[index]? = some m) (apart : w.Apart (.commit index now)) :
    (w.commitMaking index m now).Looked := by
  unfold World.commitMaking
  cases done : committed w.db m now with
  | none =>
    dsimp only
    split
    · exact h.closeMaking index
    · exact h
  | some db =>
    have free : ∀ leaseId, ¬ w.Leased m.c.robotId leaseId :=
      (h.makings m (List.mem_of_getElem? open_) (looked_of_committed done)).nothing
        (apart m open_ (by rw [done]; rfl))
    constructor
    · intro robotId leaseId id leased active
      rcases (active_committed done robotId id).mp active with ⟨rfl, _⟩ | before
      · exact free leaseId leased
      · exact h.exclusive robotId leaseId id leased before
    · intro t mem phase
      obtain ⟨old, oldMem, rfl⟩ := List.mem_map.mp mem
      refine (h.takings old oldMem phase).note ?_
      intro id active
      rcases (active_committed done old.lease.robotId id).mp active with ⟨_, same⟩ | before
      · exact .inl same
      · exact .inr before
    · intro other mem
      exact h.makings other (List.mem_of_mem_eraseIdx mem)

/-! ## The other steps of the tasks -/

/-- An event of the tasks keeps the looks, where it revives no task of a leased robot. -/
theorem Looked.stepTask (h : w.Looked) {e : Tasks.Event} (apart : w.Apart (.task e)) :
    (w.stepTask e).Looked := by
  unfold World.stepTask
  split
  · exact h
  next quiet =>
    rw [Bool.not_eq_true] at quiet
    constructor
    · intro robotId leaseId id leased active
      rcases active_of_step quiet active with before | ⟨msg, received, rfl, _, revives⟩
      · exact h.exclusive robotId leaseId id leased before
      · obtain ⟨lease, there, _⟩ := leased_iff.mp leased
        have gone : w.leases.activeLease robotId = none := apart revives
        have held : w.leases.activeLease robotId = some lease := there
        rw [gone] at held
        cases held
    · intro t mem phase
      have old : ∃ old ∈ w.takings, t.lease = old.lease ∧ old.phase = .admitted ∧
          (∀ id ∈ old.since, id ∈ t.since) ∧
          ∀ robotId msg received, e = .taskStatus robotId msg received → msg.taskId ∈ t.since := by
        dsimp only at mem
        split at mem
        next robotId msg received =>
          obtain ⟨old, oldMem, rfl⟩ := List.mem_map.mp mem
          refine ⟨old, oldMem, rfl, phase, fun id => List.mem_cons_of_mem _, ?_⟩
          rintro _ _ _ ⟨⟩
          exact List.mem_cons_self
        next other =>
          exact ⟨t, mem, rfl, phase, fun id inside => inside,
            fun robotId msg received same => absurd same (other robotId msg received)⟩
      obtain ⟨old, oldMem, lease, admitted, kept, noted⟩ := old
      intro id active
      rw [lease] at active
      rcases active_of_step quiet active with before | ⟨msg, received, same, rfl, _⟩
      · exact kept id (h.takings old oldMem admitted id before)
      · exact noted _ msg received same
    · exact h.makings

/-! ## The law over interleavings -/

/-- One step outside the window keeps every look covered. -/
theorem Looked.step (h : w.Looked) {e : Event} (apart : w.Apart e) : (w.step e).Looked := by
  cases e with
  | acquire lease =>
    refine ⟨h.exclusive, ?_, h.makings⟩
    intro t mem phase
    rcases List.mem_append.mp mem with before | new
    · exact h.takings t before phase
    · rw [List.mem_singleton.mp new] at phase
      cases phase
  | checkTasks index refused =>
    simp only [World.step]
    split
    · exact h
    · exact h.admitTaking index _ refused
  | setLease index deadline =>
    simp only [World.step]
    split
    · exact h
    next t open_ => exact h.setTaking open_ apart
  | commitLease index commits =>
    simp only [World.step]
    split
    · exact h
    · exact h.commitTaking index _ commits
  | renew robotId deadline =>
    refine h.unlease ?_
    intro other lease there
    rwa [Leases.activeLease_renew] at there
  | release robotId => exact h.unlease fun _ _ => Leases.of_activeLease_delete
  | expire now => exact h.unlease fun _ _ => Leases.of_activeLease_expire
  | start path c =>
    refine ⟨h.exclusive, h.takings, ?_⟩
    intro m mem looked
    rcases List.mem_append.mp mem with before | new
    · exact h.makings m before looked
    · rw [List.mem_singleton.mp new] at looked
      cases looked
  | gate index =>
    simp only [World.step]
    split
    · exact h
    · exact h.gateMaking index _
  | lookLease index refused =>
    simp only [World.step]
    split
    · exact h
    · exact h.lookLeaseMaking index _ refused
  | lookTask index refused =>
    simp only [World.step]
    split
    · exact h
    next m open_ => exact h.lookTaskMaking open_ refused
  | commit index now =>
    simp only [World.step]
    split
    · exact h
    next m open_ => exact h.commitMaking open_ apart
  | abort index => exact h.closeMaking index
  | task e => exact h.stepTask apart

/-- A step into a state that obeys the law has acted on a look that still held. -/
theorem apart_of_exclusive {e : Event} (exclusive : Exclusive (w.step e)) : w.Apart e := by
  cases e with
  | setLease index deadline =>
    intro t open_ admitted free id _ active
    refine exclusive t.lease.robotId t.lease.leaseId id ?_ ?_
    · simp [World.step, open_, World.setTaking, admitted, free, Leased]
    · simpa [World.step, open_, World.setTaking, admitted, free] using active
  | commit index now =>
    intro m open_ isCommitted leaseId _ leased
    obtain ⟨db, done⟩ := Option.isSome_iff_exists.mp isCommitted
    refine exclusive m.c.robotId leaseId m.c.taskId ?_ ?_
    · simp only [World.step, open_, World.commitMaking, done]
      exact leased
    · simp only [World.step, open_, World.commitMaking, done]
      exact (active_committed done _ _).mpr (.inl ⟨rfl, rfl⟩)
  | task e =>
    cases e with
    | taskStatus robotId msg received =>
      intro revives
      rw [Option.eq_none_iff_forall_ne_some]
      intro lease there
      refine exclusive robotId lease.leaseId msg.taskId ?_ (revives.active received)
      exact leased_iff.mpr ⟨lease, there, rfl⟩
    | create c now => trivial
    | strand c now => trivial
    | cancel taskId commandId now expiresAt => trivial
    | dispatch commandId invalid broker now => trivial
    | ack robotId commandId msg received => trivial
    | tick check timeout now => trivial
  | acquire lease => trivial
  | checkTasks index refused => trivial
  | commitLease index commits => trivial
  | renew robotId deadline => trivial
  | release robotId => trivial
  | expire now => trivial
  | start path c => trivial
  | gate index => trivial
  | lookLease index refused => trivial
  | lookTask index refused => trivial
  | abort index => trivial

end

/-- **A robot with a manual lease has no active task, at any time, exactly in the interleavings in which
leases and tasks are set apart.** -/
theorem exclusive_iff (events : List Event) :
    (∀ before after, events = before ++ after → Exclusive (run .initial before)) ↔
      Runs.Meets step Apart .initial events := by
  constructor
  · exact Runs.meets_of_states fun _ _ => apart_of_exclusive
  · intro met before after split
    have start : Looked .initial := by
      constructor
      · rintro robotId leaseId id _ ⟨task, found, _⟩
        cases found
      · intro t mem
        cases mem
      · intro m mem
        cases mem
    exact (Runs.states_of_meets (fun _ _ h apart => h.step apart) start met before after
      split).exclusive

/-- A patrol is requested and finds no lease; the operator finds no task and takes the lease; the patrol is
committed. -/
theorem driven_by_both :
    ¬ ∀ before after,
      [ Event.start .api (patrolCreation "T1" "C1" (30 * second)), .lookLease 0 false,
        .acquire (leaseOf "L1" "alice"), .checkTasks 0 false, .setLease 0 (5 * second),
        .commitLease 0 true, .lookTask 0 false, .commit 0 0 ] = before ++ after →
      Exclusive (run .initial before) := by
  intro always
  have exclusive := always _ [] (List.append_nil _).symm
  exact exclusive "R1" "L1" "T1" rfl ⟨_, rfl, rfl, rfl⟩

end World

end Firebot.Manual
