import Firebot.Api.ReleaseCourse
import Firebot.Api.Sound

/-!
# The queue of safety commands

A payload in the stream is taken at once by the dispatcher, which looks its command up in the database. So it
must not be put there before the transaction with its `Command` row has committed, and a transaction that
aborts must leave no payload and no deleted lease behind.

The requests keep to it. A release does not: inside its transaction it deletes the leases and puts the stops
into the stream, and the transaction may still abort. **The law holds in every state of a run whose releases
meet no robot but those that are away, and are not broken off once they have deleted a lease**
(`enqueued_after_commit`). Nothing is said of a release that has met another robot and goes no further.
-/

namespace Firebot.Api.World

open Firebot.Robots (Robot)

/-! ## The law -/

/-- The transaction of a process has committed. -/
def Commits (w : World) (pid : Nat) : Prop := ∃ rows, (pid, rows) ∈ w.commits

/-- The transaction of a process has committed the command of a payload. -/
def Inserted (w : World) (pid : Nat) (payload : Payload) : Prop :=
  ∃ rows command, (pid, rows) ∈ w.commits ∧ Row.command payload.commandId command ∈ rows

/-- **Every payload in the stream is of a command that has been committed, and a process that has ended
without a commit has put nothing there and has deleted no lease.** -/
structure EnqueuedAfterCommit (w : World) : Prop where
  committed : ∀ pid payload, (pid, payload) ∈ w.stream → w.Inserted pid payload
  aborted : ∀ (pid : Nat) (x : Running), w.running[pid]? = some x → x.process.ended = true →
    ¬ w.Commits pid → (∀ payload, (pid, payload) ∉ w.stream) ∧ ∀ robotId, (pid, robotId) ∉ w.deletions

/-- Every robot that a release reads is away, and a release that has deleted a lease is not killed, nor does a
call of it fail, before its commit. -/
def Harmless (w : World) : Event → Prop
  | .go pid env => ∀ x c next, w.running[pid]? = some x → x.stage = .releasing → x.process = .call c next →
      c.meetsRobot (w.reply env c) = false ∧
      (c.fails (w.reply env c) = true → w.applied env c = false ∧ ∀ robotId, (pid, robotId) ∉ w.deletions)
  | .kill pid => ∀ x, w.running[pid]? = some x → x.stage = .releasing →
      ∀ robotId, (pid, robotId) ∉ w.deletions
  | .arrive .. | .release .. => True

/-! ## What the invariant says of the law -/

section

variable {w : World} {pid : Nat} {x : Running}

/-- A process that says it has committed has. -/
theorem Sound.commits_of_rows (h : w.Sound) (found : w.running[pid]? = some x)
    (rows : x.stage.rows?.isSome = true) : w.Commits pid := by
  obtain ⟨all, same⟩ := Option.isSome_iff_exists.mp rows
  exact (h.staged pid x all found same).1

/-- A request has committed what it has put into the stream. -/
theorem Sound.inserted (h : w.Sound) (found : w.running[pid]? = some x) (request : x.stage.caller.isSome = true)
    {payload : Payload} (mem : (pid, payload) ∈ w.stream) : w.Inserted pid payload := by
  obtain ⟨y, there, queued⟩ := h.stream pid payload mem
  rw [found] at there
  cases there
  obtain ⟨all, command, same, inside⟩ := queued request
  obtain ⟨rows, logged, row⟩ := (h.staged pid x all found same).2 _ inside
  exact ⟨rows, command, logged, row⟩

/-- A request that has deleted a lease has committed. -/
theorem Sound.commits_of_deletion (h : w.Sound) (found : w.running[pid]? = some x)
    (request : x.stage.caller.isSome = true) {robotId : String} (mem : (pid, robotId) ∈ w.deletions) :
    w.Commits pid := by
  obtain ⟨y, there, after⟩ := h.deletions pid robotId mem
  rw [found] at there
  cases there
  exact h.commits_of_rows found (after request)

theorem Inserted.commits {payload : Payload} (h : w.Inserted pid payload) : w.Commits pid := by
  obtain ⟨rows, _, mem, _⟩ := h
  exact ⟨rows, mem⟩

/-- What is left to show of a state is about the releases. -/
theorem Sound.lawful (h : w.Sound)
    (stream : ∀ (pid : Nat) (x : Running) payload, w.running[pid]? = some x → x.stage.caller = none →
      (pid, payload) ∈ w.stream → w.Inserted pid payload)
    (deletions : ∀ (pid : Nat) (x : Running) robotId, w.running[pid]? = some x → x.stage = .releasing →
      x.process.ended = true → (pid, robotId) ∉ w.deletions) : EnqueuedAfterCommit w := by
  have committed : ∀ pid payload, (pid, payload) ∈ w.stream → w.Inserted pid payload := by
    intro pid payload mem
    obtain ⟨x, found, _⟩ := h.stream pid payload mem
    cases request : x.stage.caller with
    | some _ => exact h.inserted found (by rw [request]; rfl) mem
    | none => exact stream pid x payload found request mem
  refine ⟨committed, fun pid x found ended uncommitted => ?_⟩
  refine ⟨fun payload mem => uncommitted (committed pid payload mem).commits, fun robotId mem => ?_⟩
  cases request : x.stage.caller with
  | some _ => exact uncommitted (h.commits_of_deletion found (by rw [request]; rfl) mem)
  | none =>
    cases stage : x.stage with
    | releasing => exact deletions pid x robotId found stage ended mem
    | released rows =>
      exact uncommitted (h.commits_of_rows found (by rw [stage]; rfl))
    | entering | replayed | working | committed | answered =>
      rw [stage] at request
      cases request

end

/-! ## Releases on their course -/

/-- A release that has not committed is on its course, or is over and has deleted nothing; and no release has
sent anything. -/
structure Calm (w : World) : Prop where
  course : ∀ (pid : Nat) (x : Running), w.running[pid]? = some x → x.stage = .releasing →
    x.process.Keeps courses Ends .going ∨ x.process.ended = true ∧ ∀ robotId, (pid, robotId) ∉ w.deletions
  silent : ∀ (pid : Nat) (x : Running) payload, w.running[pid]? = some x → x.stage.caller = none →
    (pid, payload) ∉ w.stream

section

variable {w : World} {pid : Nat} {env : Env} {x : Running} {c : Call} {next : Ans c → Script Unit}
  (requestHash : JsonTree → String)

theorem Calm.initial : Calm .initial where
  course _ _ found := by cases found
  silent _ _ _ found := by cases found

/-- The law holds where the releases are on their course. -/
theorem Calm.lawful (h : w.Calm) (sound : w.Sound) : EnqueuedAfterCommit w := by
  refine sound.lawful (fun pid x payload found request mem => absurd mem (h.silent pid x payload found request)) ?_
  intro pid x robotId found stage ended mem
  rcases h.course pid x found stage with going | ⟨_, none_deleted⟩
  · cases process : x.process with
    | ret a =>
      rw [process] at going
      exact going rfl
    | raise e =>
      rw [process] at going
      exact going rfl
    | call c next =>
      rw [process] at ended
      cases ended
  · exact none_deleted robotId mem

/-- A process begins; a release begins on its course. -/
theorem Calm.begin (h : w.Calm) (sound : w.Sound) {y : Running}
    (course : y.stage = .releasing → y.process.Keeps courses Ends .going) :
    Calm { w with running := w.running ++ [y] } where
  course pid x found stage := by
    rcases getElem?_append found with there | ⟨_, rfl⟩
    · exact h.course pid x there stage
    · exact .inl (course stage)
  silent pid x payload found request mem := by
    obtain ⟨z, there, _⟩ := sound.stream pid payload mem
    have old : (w.running ++ [y])[pid]? = some z := by
      rw [List.getElem?_append_left (List.getElem?_eq_some_iff.mp there).1]
      exact there
    dsimp only at found
    rw [old] at found
    cases found
    exact h.silent pid x payload there request mem

/-- A process that is allowed no call is over. -/
theorem ended_of_failed {p : Script Unit} (keeps : p.Keeps courses Ends .failed) : p.ended = true := by
  cases p with
  | ret | raise => rfl
  | call c next => exact keeps.1.elim

/-- A release after a call: on its course still, over, or committed. -/
theorem course_after (keeps : x.process.Keeps courses Ends .going) (process : x.process = .call c next)
    (stage : x.stage = .releasing) (away : c.meetsRobot (w.reply env c) = false)
    (whole : c.fails (w.reply env c) = true → w.applied env c = false ∧ ∀ robotId, (pid, robotId) ∉ w.deletions)
    (stays : x.stage.next c (w.reply env c) = .releasing) :
    (next (w.reply env c)).Keeps courses Ends .going ∨ (next (w.reply env c)).ended = true ∧
      ∀ robotId, (pid, robotId) ∉ (w.call pid env c).deletions := by
  rw [process] at keeps
  have rest := keeps.2 (w.reply env c)
  cases fails : c.fails (w.reply env c) with
  | true =>
    obtain ⟨unapplied, none_deleted⟩ := whole fails
    have failed : Course.next .going c (w.reply env c) = .failed := by
      simp only [Course.next, fails, if_true]
    have unchanged : w.call pid env c = w := by
      unfold call
      rw [if_neg (by rw [unapplied]; exact Bool.false_ne_true)]
    rw [unchanged]
    exact .inr ⟨ended_of_failed (failed ▸ rest), none_deleted⟩
  | false =>
    have going : Course.next .going c (w.reply env c) = .going := by
      simp only [Course.next, fails, away, Bool.false_eq_true, if_false]
      cases c with
      | commit rows =>
        -- a commit that takes effect ends the stage
        rw [stage] at stays
        have applied : Fate.applied (w.reply env (.commit rows)) = true := by
          simpa [Call.fails] using fails
        simp [Stage.next, applied] at stays
      | _ => rfl
    exact .inl (going ▸ rest)

/-- One call of a process. -/
theorem Calm.go (h : w.Calm) (sound : w.Sound) (found : w.running[pid]? = some x)
    (process : x.process = .call c next)
    (harmless : x.stage = .releasing → c.meetsRobot (w.reply env c) = false ∧
      (c.fails (w.reply env c) = true → w.applied env c = false ∧ ∀ robotId, (pid, robotId) ∉ w.deletions)) :
    Calm { w.call pid env c with running := w.running.set pid (after w env x c next) } := by
  have allowed := (sound.follows pid x found).1
  rw [process] at allowed
  have grows := next_grows allowed.1 (w.reply env c)
  have releasing : x.stage.caller = none → x.stage = .releasing := by
    intro request
    cases stage : x.stage with
    | releasing => rfl
    | released rows => rw [stage] at allowed; exact allowed.1.elim
    | entering | replayed | working | committed | answered => rw [stage] at request; cases request
  -- a release that makes a call is on its course
  have keeps : x.stage = .releasing → x.process.Keeps courses Ends .going := by
    intro stage
    rcases h.course pid x found stage with going | ⟨ended, _⟩
    · exact going
    · rw [process] at ended
      cases ended
  constructor
  · intro other z there stage
    rcases getElem?_after there with ⟨rfl, rfl⟩ | ⟨ne, there⟩
    · have before : x.stage = .releasing := by
        refine releasing ?_
        rw [← grows.caller, show x.stage.next c (w.reply env c) = .releasing from stage]
        rfl
      exact course_after (keeps before) process before (harmless before).1 (harmless before).2 stage
    · refine (h.course other z there stage).imp_right fun ⟨ended, none_deleted⟩ => ⟨ended, fun robotId mem => ?_⟩
      rcases mem_deletions_call mem with old | same
      · exact none_deleted robotId old
      · exact ne same
  · intro other z payload there request mem
    rcases getElem?_after there with ⟨rfl, rfl⟩ | ⟨ne, there⟩
    · have request : x.stage.caller = none := grows.caller ▸ request
      rcases mem_stream_call mem with old | ⟨_, rfl, _⟩
      · exact h.silent other x payload found request old
      · have going := keeps (releasing request)
        rw [process] at going
        exact going.1
    · rcases mem_stream_call mem with old | ⟨same, _⟩
      · exact h.silent other z payload there request old
      · exact ne same

theorem Calm.step (h : w.Calm) (sound : w.Sound) {e : Event} (harmless : w.Harmless e) :
    (w.step requestHash e).Calm := by
  cases e with
  | arrive actorId key request => exact h.begin sound nofun
  | release userId reason => exact h.begin sound fun _ => release_course userId reason
  | kill pid =>
    simp only [World.step]
    split
    · exact h
    next x found =>
      constructor
      · intro other z there stage
        rcases getElem?_after there with ⟨rfl, rfl⟩ | ⟨_, there⟩
        · exact .inr ⟨rfl, harmless x found stage⟩
        · exact h.course other z there stage
      · intro other z payload there request
        rcases getElem?_after there with ⟨rfl, rfl⟩ | ⟨_, there⟩
        · exact h.silent other x payload found request
        · exact h.silent other z payload there request
  | go pid env =>
    simp only [World.step]
    split
    · exact h
    next x found =>
      unfold World.go
      split
      · exact h
      · exact h
      next c next process => exact h.go sound found process fun stage => harmless x c next found stage process

/-- **The law holds in every state of a run whose releases meet no robot that is not away, and are not broken off
once they have deleted a lease.** -/
theorem enqueued_after_commit (events : List Event)
    (harmless : Runs.Meets (step requestHash) Harmless .initial events) (before after : List Event)
    (split : events = before ++ after) : EnqueuedAfterCommit (run requestHash .initial before) := by
  have kept := Runs.states_of_meets (I := fun w => Sound w ∧ Calm w)
    (fun w e h ok => ⟨h.1.step requestHash e, h.2.step requestHash h.1 ok⟩) ⟨.initial, .initial⟩ harmless before after
    split
  exact kept.2.lawful kept.1

end

/-- What a release of alice's reads, who holds the lease of one robot. -/
def aliceGone (robot : Robot) : Env
  | .read .leaseKeys => .ok ["R1"]
  | .read (.lease _) => .ok (some (Manual.leaseOf "L1" "alice"))
  | .read (.session _) => .ok none
  | .read (.robotById _) => .ok (some robot)
  | .read .now => .ok 0
  | .read .uuid => .ok "C1"
  | .read _ => .error .other
  | .lookup _ => .error .other
  | .flush | .commit _ | .enqueue _ | .deleteLease _ | .appendEvent _ => .done
  | .respond _ => ()

/-- The next call of a process does not fail, and reads no robot but one that is away. -/
def smooth (w : World) (pid : Nat) (env : Env) : Bool :=
  match w.running[pid]? with
  | none => true
  | some x =>
    match x.process with
    | .ret _ | .raise _ => true
    | .call c _ => !c.meetsRobot (w.reply env c) && !c.fails (w.reply env c)

theorem harmless_of_smooth {w : World} {pid : Nat} {env : Env} (h : w.smooth pid env = true) :
    w.Harmless (.go pid env) := by
  intro x c next found _ process
  simp only [smooth, found, process, Bool.and_eq_true, Bool.not_eq_true'] at h
  exact ⟨h.1, fun fails => absurd (h.2.symm.trans fails) Bool.false_ne_true⟩

/-- Alice's socket closes while she holds the lease of a robot that is offline: the lease is deleted and the
stop is recorded, and the law holds at the end. -/
theorem enqueued_after_commit_offline :
    EnqueuedAfterCommit (run (fun _ => "") .initial
      (.release "alice" "WEBSOCKET_DISCONNECT" ::
        List.replicate 10 (Event.go 0 (aliceGone { Scheduler.readyRobot with onlineState := .offline })))) := by
  refine enqueued_after_commit (fun _ => "") _ ?_ _ [] (List.append_nil _).symm
  refine ⟨trivial, ?_⟩
  refine ⟨harmless_of_smooth rfl, harmless_of_smooth rfl, harmless_of_smooth rfl, harmless_of_smooth rfl, ?_⟩
  refine ⟨harmless_of_smooth rfl, harmless_of_smooth rfl, harmless_of_smooth rfl, harmless_of_smooth rfl, ?_⟩
  exact ⟨harmless_of_smooth rfl, harmless_of_smooth rfl, trivial⟩

/-- Alice's socket closes while she holds the lease of a robot that is online: the stop of her robot is in the
stream before its command is committed. -/
theorem queued_before_commit :
    ¬ ∀ before after,
      .release "alice" "WEBSOCKET_DISCONNECT" :: List.replicate 10 (Event.go 0 (aliceGone Scheduler.readyRobot)) =
          before ++ after →
        EnqueuedAfterCommit (run (fun _ => "") .initial before) := by
  intro always
  have law := always _ [] (List.append_nil _).symm
  obtain ⟨rows, _, mem, _⟩ := law.committed 0 _ List.mem_cons_self
  cases mem

end Firebot.Api.World
