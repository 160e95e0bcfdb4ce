import Firebot.Tasks.World

/-!
# Requests that create tasks, interleaved

Every request that creates a task runs in a transaction of its own: it inserts the task, looks for
another active task of the robot among the committed ones, and commits. The scheduler looks twice, once
before it inserts and once more when it creates the command; a task whose command is refused at the
second look is committed all the same.

Nothing is locked between the look and the commit. Two requests that look before either commits both
find the robot free. `since` keeps, for each request, the tasks committed after its first look.

**A robot has one active task at most, at any time, exactly in the interleavings in which every request commits
alone** (`one_active_iff`). Nothing is said of which of two requests wins.
-/

namespace Firebot.Requests

open Firebot.Tasks

/-! ## The transactions -/

/-- Who creates the task: a request to the API, or the scheduler. -/
inductive Path where
  | api
  | scheduler
  deriving DecidableEq, Repr

/-- How far a transaction has come: nothing looked at yet; the scheduler's task inserted; the command
admitted; the scheduler's command refused. -/
inductive Phase where
  | begun
  | inserted
  | admitted
  | stranded
  deriving DecidableEq, Repr

/-- An open transaction. -/
structure Tx where
  path : Path
  c : Creation
  phase : Phase
  since : List String

/-- The committed tables and the open transactions. -/
structure World where
  db : Database
  txs : List Tx

namespace World

/-- Before any request. -/
def initial : World where
  db := .empty
  txs := []

/-- What can happen: a request begins, takes the scheduler's first look, takes the look of
`assert_robot_can_execute` (which may refuse for another reason), commits or is given up; and a
committed task ends. -/
inductive Event where
  | start (path : Path) (c : Creation)
  | gate (index : Nat)
  | check (index : Nat) (refused : Bool)
  | commit (index : Nat) (now : Time)
  | abort (index : Nat)
  | finish (taskId : String) (status : TaskState)

/-- The robot of the task has an active task that forbids it. -/
def conflict (w : World) (tx : Tx) : Bool := w.db.activeConflict tx.c.robotId tx.c.type.cmd

/-- A transaction is closed. -/
def close (w : World) (index : Nat) : World := { w with txs := w.txs.eraseIdx index }

/-- A transaction goes on. -/
def update (w : World) (index : Nat) (tx : Tx) : World := { w with txs := w.txs.set index tx }

/-- The first look of the scheduler: any active task of the robot keeps it from building its own. -/
def gateTx (w : World) (index : Nat) (tx : Tx) : World :=
  if (w.db.active tx.c.robotId).isEmpty then
    w.update index { tx with phase := .inserted, since := [] }
  else w.close index

/-- The look of `assert_robot_can_execute`. A refused request of the API is rolled back; the scheduler
swallows the refusal and goes on with the task it has inserted. -/
def checkTx (w : World) (index : Nat) (tx : Tx) (refused : Bool) : World :=
  match tx.path, tx.phase with
  | .api, .begun =>
    if refused || w.conflict tx then w.close index
    else w.update index { tx with phase := .admitted, since := [] }
  | .scheduler, .inserted =>
    w.update index { tx with phase := if refused || w.conflict tx then .stranded else .admitted }
  | _, _ => w

/-- The tables with the rows of a transaction; the ids must be new. -/
def committed (db : Database) (tx : Tx) (now : Time) : Option Database :=
  match tx.phase with
  | .admitted => if db.fresh tx.c.taskId tx.c.commandId then some (db.create tx.c now) else none
  | .stranded => if db.tasks.lookup tx.c.taskId = none then some (db.strand tx.c now) else none
  | .begun | .inserted => none

/-- A transaction commits: its task is one that the others have not looked at. -/
def commitTx (w : World) (index : Nat) (tx : Tx) (now : Time) : World :=
  match committed w.db tx now with
  | some db =>
    { db, txs := (w.close index).txs.map fun other =>
        { other with since := tx.c.taskId :: other.since } }
  | none => if tx.phase = .begun ∨ tx.phase = .inserted then w else w.close index

/-- One event. -/
def step (w : World) : Event → World
  | .start path c => { w with txs := w.txs ++ [{ path, c, phase := .begun, since := [] }] }
  | .gate index =>
    match w.txs[index]? with
    | none => w
    | some tx => if tx.path = .scheduler ∧ tx.phase = .begun then w.gateTx index tx else w
  | .check index refused =>
    match w.txs[index]? with
    | none => w
    | some tx => w.checkTx index tx refused
  | .commit index now =>
    match w.txs[index]? with
    | none => w
    | some tx => w.commitTx index tx now
  | .abort index => w.close index
  | .finish taskId status =>
    if status.terminal then
      { w with db := { w.db with
          tasks := Table.modify taskId (fun task => { task with status := status }) w.db.tasks } }
    else w

/-- The state after a list of events. -/
abbrev run (w : World) (events : List Event) : World := Runs.run step w events

end World

/-! ## The law -/

/-- A task of the kinds that exclude each other, active. -/
def Counts (db : Database) (robotId id : String) : Prop :=
  ∃ task, db.tasks.lookup id = some task ∧ task.robotId = robotId ∧ task.type ≠ .returnDock ∧
    task.status.active = true

/-- **A robot has one active task at most**: of the patrols, extinguishing runs and navigations. -/
def OneActive (db : Database) : Prop :=
  ∀ robotId a b, Counts db robotId a → Counts db robotId b → a = b

/-! ## What a step does to the active tasks -/

/-- A robot without an active task has none that counts. -/
theorem counts_of_active {db : Database} {robotId id : String} (counts : Counts db robotId id)
    (free : (db.active robotId).isEmpty = true) : False := by
  obtain ⟨task, found, own, _, active⟩ := counts
  have mem : (id, task) ∈ db.active robotId := by
    refine Table.mem_select.mpr ⟨found, ?_⟩
    simp [own, active]
  rw [List.isEmpty_iff.mp free] at mem
  cases mem

/-- A robot without a conflict for a task of the kinds that exclude each other has no active one. -/
theorem free_of_conflict {db : Database} {robotId : String} {type : TaskType}
    (counted : type ≠ .returnDock) (none_found : db.activeConflict robotId type.cmd = false) :
    (db.active robotId).isEmpty = true := by
  unfold Database.activeConflict at none_found
  cases found : db.active robotId with
  | nil => rfl
  | cons r rows =>
    rw [found] at none_found
    cases type with
    | patrol => cases none_found
    | extinguish => cases none_found
    | returnDock => exact absurd rfl counted
    | navigateToPreset => cases none_found

/-- What a commit adds: its own task, under a new id, active. -/
theorem counts_committed {db db' : Database} {tx : Tx} {now : Time}
    (done : World.committed db tx now = some db') :
    db.tasks.lookup tx.c.taskId = none ∧ ∀ robotId id, Counts db' robotId id ↔
      (id = tx.c.taskId ∧ tx.c.robotId = robotId ∧ tx.c.type ≠ .returnDock) ∨
        Counts db robotId id := by
  have inserted : ∃ task : Task, task.robotId = tx.c.robotId ∧ task.type = tx.c.type ∧
      task.status.active = true ∧ db.tasks.lookup tx.c.taskId = none ∧
      db'.tasks = db.tasks.insert tx.c.taskId task := by
    unfold World.committed at done
    split at done
    · split at done
      · next fresh =>
        cases done
        exact ⟨_, rfl, rfl, rfl, fresh.1, rfl⟩
      · cases done
    · split at done
      · next unused =>
        cases done
        exact ⟨_, rfl, rfl, rfl, unused, rfl⟩
      · cases done
    · cases done
    · cases done
  obtain ⟨task, robot, type, active, unused, tables⟩ := inserted
  refine ⟨unused, ?_⟩
  intro robotId id
  unfold Counts
  rw [tables, ← robot, ← type]
  constructor
  · rintro ⟨row, found, own, counted, rowActive⟩
    rcases Table.of_lookup_insert found with ⟨rfl, rfl⟩ | ⟨_, before⟩
    · exact .inl ⟨rfl, own, counted⟩
    · exact .inr ⟨row, before, own, counted, rowActive⟩
  · rintro (⟨rfl, own, counted⟩ | ⟨row, found, own, counted, rowActive⟩)
    · exact ⟨task, AList.lookup_insert _, own, counted, active⟩
    · exact ⟨row, Table.lookup_insert_of_found _ unused found, own, counted, rowActive⟩

/-- A task that ends counts no longer. -/
theorem counts_finish {db : Database} {taskId robotId id : String} {status : TaskState}
    (ended : status.terminal = true)
    (counts : Counts { db with
      tasks := Table.modify taskId (fun task => { task with status := status }) db.tasks }
      robotId id) : Counts db robotId id := by
  obtain ⟨row, found, own, counted, active⟩ := counts
  obtain ⟨before, foundBefore, ⟨_, rfl⟩ | ⟨_, rfl⟩⟩ := Table.of_lookup_modify found
  · rw [TaskState.not_active.mpr ended] at active
    cases active
  · exact ⟨row, foundBefore, own, counted, active⟩

/-! ## The law over interleavings -/

namespace World

/-- A commit finds no active task of its robot that was committed after the request's first look. -/
def Alone (w : World) : Event → Prop
  | .commit index now => ∀ tx, w.txs[index]? = some tx → (committed w.db tx now).isSome = true →
      tx.c.type ≠ .returnDock → ∀ id ∈ tx.since, ¬ Counts w.db tx.c.robotId id
  | .start .. | .gate _ | .check .. | .abort _ | .finish .. => True

/-- The robots have one active task at most, and a request that has looked has only those before it that
were committed since. -/
structure Looked (w : World) : Prop where
  one : OneActive w.db
  ahead : ∀ tx ∈ w.txs, tx.phase ≠ .begun → tx.c.type ≠ .returnDock → ∀ id,
    Counts w.db tx.c.robotId id → id ∈ tx.since

/-- A request that is over leaves the looks of the others. -/
theorem Looked.close {w : World} (h : w.Looked) (index : Nat) : (w.close index).Looked where
  one := h.one
  ahead tx mem := h.ahead tx (List.mem_of_mem_eraseIdx mem)

/-- A request moves on, with a look that is covered. -/
theorem Looked.update {w : World} (h : w.Looked) (index : Nat) {tx : Tx}
    (ahead : tx.phase ≠ .begun → tx.c.type ≠ .returnDock → ∀ id,
      Counts w.db tx.c.robotId id → id ∈ tx.since) : (w.update index tx).Looked where
  one := h.one
  ahead other mem := by
    rcases List.mem_or_eq_of_mem_set mem with before | rfl
    · exact h.ahead other before
    · exact ahead

/-- The look of a request: nothing has been committed since. -/
theorem Looked.checkTx {w : World} (h : w.Looked) {index : Nat} {tx : Tx}
    (open_ : w.txs[index]? = some tx) (refused : Bool) : (w.checkTx index tx refused).Looked := by
  unfold World.checkTx
  split
  · split
    · exact h.close index
    · next free =>
      refine h.update index ?_
      intro _ counted id counts
      simp only [Bool.or_eq_true, not_or, Bool.not_eq_true] at free
      exact (counts_of_active counts (free_of_conflict counted free.2)).elim
  · next inserted =>
    refine h.update index ?_
    intro _
    exact h.ahead tx (List.mem_of_getElem? open_) (by rw [inserted]; decide)
  · exact h

/-- A commit is added to what the others have not seen. -/
theorem Looked.commitTx {w : World} (h : w.Looked) {index : Nat} {tx : Tx} {now : Time}
    (open_ : w.txs[index]? = some tx) (alone : w.Alone (.commit index now)) :
    (w.commitTx index tx now).Looked := by
  unfold World.commitTx
  cases done : committed w.db tx now with
  | none =>
    dsimp only
    split
    · exact h
    · exact h.close index
  | some db =>
    obtain ⟨unused, counts⟩ := counts_committed done
    have looked : tx.phase ≠ .begun := by
      intro begun
      simp [committed, begun] at done
    have nothing : tx.c.type ≠ .returnDock → ∀ id, ¬ Counts w.db tx.c.robotId id := by
      intro counted id before
      have since := h.ahead tx (List.mem_of_getElem? open_) looked counted id before
      exact alone tx open_ (by rw [done]; rfl) counted id since before
    constructor
    · intro robotId a b countsA countsB
      rcases (counts robotId a).mp countsA with ⟨rfl, own, counted⟩ | beforeA <;>
        rcases (counts robotId b).mp countsB with ⟨rfl, own', counted'⟩ | beforeB
      · rfl
      · exact absurd (own ▸ beforeB) (nothing counted b)
      · exact absurd (own' ▸ beforeA) (nothing counted' a)
      · exact h.one robotId a b beforeA beforeB
    · intro other mem phase counted id countsId
      obtain ⟨old, oldMem, rfl⟩ := List.mem_map.mp mem
      rcases (counts old.c.robotId id).mp countsId with ⟨rfl, _⟩ | before
      · exact List.mem_cons_self
      · exact List.mem_cons_of_mem _
          (h.ahead old (List.mem_of_mem_eraseIdx oldMem) phase counted id before)

/-- One step in which a commit comes alone. -/
theorem Looked.step {w : World} {e : Event} (h : w.Looked) (alone : w.Alone e) :
    (w.step e).Looked := by
  cases e with
  | start path c =>
    refine ⟨h.one, ?_⟩
    intro tx mem phase
    rcases List.mem_append.mp mem with before | new
    · exact h.ahead tx before phase
    · rw [List.mem_singleton.mp new] at phase
      exact absurd rfl phase
  | gate index =>
    simp only [World.step]
    split
    · exact h
    · split
      · unfold gateTx
        split
        · next free => exact h.update index fun _ _ id counts => (counts_of_active counts free).elim
        · exact h.close index
      · exact h
  | check index refused =>
    simp only [World.step]
    split
    · exact h
    · next tx open_ => exact h.checkTx open_ refused
  | commit index now =>
    simp only [World.step]
    split
    · exact h
    · next tx open_ => exact h.commitTx open_ alone
  | abort index => exact h.close index
  | finish taskId status =>
    simp only [World.step]
    split
    · next ended =>
      constructor
      · intro robotId a b countsA countsB
        exact h.one robotId a b (counts_finish ended countsA) (counts_finish ended countsB)
      · intro tx mem phase counted id counts
        exact h.ahead tx mem phase counted id (counts_finish ended counts)
    · exact h

/-- A commit that leaves one active task was alone. -/
theorem alone_of_oneActive {w : World} {e : Event} (one : OneActive (w.step e).db) : w.Alone e := by
  cases e with
  | commit index now =>
    intro tx open_ committed_ counted id _ before
    obtain ⟨db, done⟩ := Option.isSome_iff_exists.mp committed_
    obtain ⟨unused, counts⟩ := counts_committed done
    have after : (w.step (.commit index now)).db = db := by
      simp only [World.step, open_, World.commitTx, done]
    rw [after] at one
    have same := one tx.c.robotId id tx.c.taskId ((counts _ _).mpr (.inr before))
      ((counts _ _).mpr (.inl ⟨rfl, rfl, counted⟩))
    obtain ⟨task, found, _⟩ := before
    rw [same, unused] at found
    cases found
  | start path c => trivial
  | gate index => trivial
  | check index refused => trivial
  | abort index => trivial
  | finish taskId status => trivial

/-- **A robot has one active task at most, at any time, exactly in the interleavings in which every
request commits alone.** -/
theorem one_active_iff (events : List Event) :
    (∀ before after, events = before ++ after → OneActive (run .initial before).db) ↔
      Runs.Meets step Alone .initial events := by
  constructor
  · exact Runs.meets_of_states (P := fun w : World => OneActive w.db)
      fun _ _ one => alone_of_oneActive one
  · intro met before after split
    have start : Looked .initial := by
      refine ⟨?_, fun tx mem => by cases mem⟩
      rintro robotId a b ⟨task, found, _⟩
      cases found
    exact (Runs.states_of_meets (fun _ _ h alone => h.step alone) start met before after split).one

/-- Two patrols are requested; each looks before the other commits, and both are created. -/
theorem two_patrols :
    ¬ ∀ before after,
      [ Event.start .api (patrolCreation "T1" "C1" (30 * second)),
        .start .api (patrolCreation "T2" "C2" (30 * second)), .check 0 false, .check 1 false,
        .commit 0 0, .commit 0 0 ] = before ++ after →
      OneActive (run .initial before).db := by
  intro always
  have one := always _ [] (List.append_nil _).symm
  have same := one "R1" "T1" "T2" ⟨_, rfl, rfl, by decide, rfl⟩ ⟨_, rfl, rfl, by decide, rfl⟩
  exact absurd same (by decide)

end World

end Firebot.Requests
