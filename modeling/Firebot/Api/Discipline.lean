import Firebot.Api.World

/-!
# Every process keeps the discipline

A request looks its key up before it does anything that others can see, commits its rows with the record of
its scope, and only then deletes leases, sends its safety command and announces its change. A release does
what it does before its commit.
-/

namespace Firebot.Api

open Firebot.Robots (Robot)
open Firebot.Tasks (Command)
open Script

/-- The order that a process keeps, with any result. -/
abbrev Follows {α : Type} (stage : Stage) (fits : Stage → Except Thrown α → Prop) (p : Script α) : Prop :=
  p.Keeps discipline fits stage

section

variable {α β : Type} {stage : Stage} {fits : Stage → Except Thrown α → Prop}

/-- Where quiet calls are allowed they leave the stage. -/
theorem next_of_quiet {c : Call} (quiet : c.quiet) (answer : Ans c) : stage.next c answer = stage := by
  cases c <;> first | exact quiet.elim | rfl

/-- A request that has not looked its key up may make quiet calls. -/
theorem quiet_entering (actorId key : String) (c : Call) (quiet : c.quiet) :
    (Stage.entering actorId key).allows c := by
  cases c <;> first | exact quiet.elim | trivial

/-- One at work may make quiet calls. -/
theorem quiet_working (scope : Scope) (c : Call) (quiet : c.quiet) : (Stage.working scope).allows c := by
  cases c <;> first | exact quiet.elim | trivial

/-- One that releases leases may make quiet calls. -/
theorem quiet_releasing (c : Call) (quiet : c.quiet) : Stage.releasing.allows c := by
  cases c <;> first | exact quiet.elim | trivial

/-- A quiet script follows the discipline and stays at its stage. -/
theorem follows_quiet (allowed : ∀ c : Call, c.quiet → stage.allows c) {p : Script α}
    (quiet : p.Only Call.quiet) : Follows stage (fun t _ => t = stage) p :=
  Process.keeps_of_only allowed (fun _ answer quiet => next_of_quiet quiet answer) quiet

/-- A quiet part, and what follows it. -/
theorem follows_quiet_bind {fits : Stage → Except Thrown β → Prop}
    (allowed : ∀ c : Call, c.quiet → stage.allows c) {p : Script α} (quiet : p.Only Call.quiet)
    {f : α → Script β} (rest : ∀ a, Follows stage fits (f a))
    (raises : ∀ e, fits stage (.error e)) : Follows stage fits (p >>= f) := by
  refine Process.keeps_bind ((follows_quiet allowed quiet).mono ?_)
  rintro t (e | a) rfl
  · exact raises e
  · exact rest a

/-- A refusal, and what follows when it does not refuse. -/
theorem follows_refuse_bind {fits : Stage → Except Thrown β → Prop} {condition : Bool} {e : Thrown}
    {f : Unit → Script β} (rest : condition = false → Follows stage fits (f ()))
    (raises : ∀ e, fits stage (.error e)) : Follows stage fits (refuse condition e >>= f) := by
  cases condition with
  | true => exact raises e
  | false => exact rest rfl

end

/-! ## After the commit -/

section

variable {scope : Scope} {rows : List Row} {response : Response}

/-- The deletions of leases that a commit has queued. -/
theorem afterCommit_follows (leases : List String) :
    Follows (.committed scope rows response) (fun t _ => t = .committed scope rows response)
      (afterCommit leases) := by
  induction leases with
  | nil => rfl
  | cons robotId rest ih =>
    refine ⟨trivial, fun fate => ?_⟩
    exact follows_refuse_bind (fun _ => ih) fun _ => rfl

/-- Announcing a committed answer makes no further commit. -/
theorem announce_follows (work : Work) :
    Follows (.committed scope rows response) (fun t _ => t = .committed scope rows response)
      work.announce := by
  unfold Work.announce
  split
  · rfl
  · exact ⟨trivial, fun fate => by cases fate <;> rfl⟩

/-- The rows of a delivery that could not be queued. -/
theorem changes_allowed (d : Delivery) : ∀ row ∈ d.changes scope, row.creates = false ∧
    (row.scope? = none ∨ ∃ response, row = .setResponse scope response) := by
  intro row mem
  rcases List.mem_cons.mp mem with rfl | later
  · exact ⟨rfl, .inl rfl⟩
  · obtain ⟨unqueued, _, rfl⟩ := Option.map_eq_some_iff.mp (Option.mem_toList.mp later)
    exact ⟨rfl, .inr ⟨unqueued, rfl⟩⟩

/-- The answer stored with a delivery is the one returned, with its mark when the queue was not reached. -/
theorem stored_changes (d : Delivery) : stored response (d.changes scope) = d.unqueued.getD response := by
  unfold Delivery.changes
  cases d.unqueued <;> rfl

/-- The response that is returned is the stored one. -/
theorem send_follows {work : Work} (delivers : ∀ d, work.delivery = some d →
      ∃ command, Row.command d.payload.commandId command ∈ rows) :
    Follows (.committed scope rows work.response)
      (fun t r => ∀ sent, r = .ok sent → ∃ rows, t = .committed scope rows sent) (work.send scope) := by
  unfold Work.send
  split
  · intro sent same
    cases same
    exact ⟨rows, rfl⟩
  next d delivery =>
    refine Process.keeps_tryCatch ⟨delivers d delivery, fun fate => ?_⟩
    refine follows_refuse_bind (fun _ => ?_) fun e => ?_
    · intro sent same
      cases same
      exact ⟨rows, rfl⟩
    · refine ⟨changes_allowed d, fun fate => ?_⟩
      refine follows_refuse_bind (fun done => ?_) fun e sent same => by cases same
      intro sent same
      cases same
      cases fate with
      | done => exact ⟨rows ++ d.changes scope, by rw [← stored_changes]; rfl⟩
      | failed => cases done
      | lost => cases done

end

/-! ## Requests -/

section

variable (requestHash : JsonTree → String) (actorId key : String)

/-- What a request has returned, it may send. -/
def Returns (stage : Stage) (r : Except Thrown Response) : Prop :=
  ∀ response, r = .ok response → stage.allows (.respond response)

/-- An exception may end a request at any stage. -/
theorem returns_error (stage : Stage) (e : Thrown) : Returns stage (.error e) :=
  fun _ same => by cases same

/-- The commit of a request and what follows it. -/
theorem committed_follows (entry : Entry) (scope : Scope) (work : Work) :
    Follows (.working scope) Returns (do
      commit (work.rows ++ [.record scope (entry.record requestHash work.response)])
      tryCatch (afterCommit work.leases) fun _ => pure ()
      let response ← work.send scope
      work.announce
      return response) := by
  refine ⟨⟨work.rows, _, rfl, work.unrecorded⟩, fun fate => ?_⟩
  refine follows_refuse_bind (fun done => ?_) fun e => returns_error _ e
  cases fate with
  | failed => cases done
  | lost => cases done
  | done =>
    let rows := work.rows ++ [.record scope (entry.record requestHash work.response)]
    have committed : Stage.next (.working scope) (.commit rows) Fate.done =
        .committed scope rows work.response := by
      simp [rows, Stage.next, lastRecord, Fate.applied, Entry.record]
    change Follows (Stage.next (.working scope) (.commit rows) Fate.done) _ _
    rw [committed]
    have hooks : Follows (.committed scope rows work.response)
        (fun t r => t = .committed scope rows work.response ∧ r = .ok ())
        (tryCatch (afterCommit work.leases) fun _ => pure ()) := by
      refine Process.keeps_tryCatch ((afterCommit_follows work.leases).mono ?_)
      rintro t (e | a) rfl
      · exact ⟨rfl, rfl⟩
      · exact ⟨rfl, rfl⟩
    refine Process.keeps_bind (hooks.mono ?_)
    rintro t r ⟨rfl, rfl⟩
    have delivers : ∀ d, work.delivery = some d →
        ∃ command, Row.command d.payload.commandId command ∈ rows := by
      intro d delivery
      obtain ⟨command, mem⟩ := work.delivers d delivery
      exact ⟨command, List.mem_append_left _ mem⟩
    refine Process.keeps_bind ((send_follows delivers).mono ?_)
    rintro t (e | response) returned
    · exact returns_error t e
    · obtain ⟨later, rfl⟩ := returned response rfl
      refine Process.keeps_bind ((announce_follows work).mono ?_)
      rintro t (e | a) rfl
      · exact returns_error _ e
      · intro response same
        cases same
        rfl

/-- The stage after the lookup. -/
theorem lookup_follows (scope : Scope) (body : JsonTree) :
    Follows (.entering scope.actorId scope.key) (fun t r => match r with
      | .ok none => t = .working scope
      | .ok (some record) => t = .replayed scope record.response
      | .error _ => True) (lookup requestHash scope body) := by
  refine ⟨⟨rfl, rfl⟩, fun answer => ?_⟩
  cases answer with
  | error e => trivial
  | ok row =>
    refine follows_refuse_bind (fun _ => ?_) fun e => trivial
    cases row with
    | none => rfl
    | some record => rfl

/-- A request that has returned may send what it returned. -/
theorem entry_follows (entry : Entry) :
    Follows (.entering actorId key) Returns (entry.serve requestHash actorId key) := by
  refine Process.keeps_bind ((lookup_follows requestHash
    { actorId, endpoint := entry.endpoint, key } entry.body).mono ?_)
  rintro t (e | row) looked
  · exact returns_error t e
  · cases row with
    | some record =>
      subst looked
      intro response same
      cases same
      rfl
    | none =>
      subst looked
      refine follows_quiet_bind (quiet_working _) entry.quiet (fun work => ?_)
        fun e => returns_error _ e
      exact committed_follows requestHash entry _ work

/-- **Every request keeps the order.** -/
theorem request_follows (request : Request) :
    Follows (.entering actorId key) (fun _ _ => True) (request.serve requestHash actorId key) := by
  refine follows_quiet_bind (quiet_entering actorId key) (request.enter_quiet actorId) (fun entry => ?_)
    fun _ => trivial
  refine Process.keeps_bind ((entry_follows requestHash actorId key entry).mono ?_)
  rintro t (e | response) returned
  · trivial
  · exact ⟨returned response rfl, fun _ => trivial⟩

end

/-! ## Releases -/

/-- The loop goes on, with rows that touch no record. -/
def Releases (stage : Stage) (r : Except Thrown (List Row)) : Prop :=
  stage = .releasing ∧ ∀ rows, r = .ok rows → ∀ row ∈ rows, row.scope? = none

/-- It may end a release as well. -/
theorem releases_error (e : Thrown) : Releases .releasing (.error e) := ⟨rfl, fun _ same => by cases same⟩

/-- The rows of a lease taken away hold no recorded answer. -/
theorem forceReleased_unrecorded (leaseId reason : String) (session : Option Manual.Session) (now : Time) :
    ∀ row ∈ forceReleased leaseId reason session now, row.scope? = none := by
  intro row mem
  obtain ⟨_, _, rfl⟩ := Option.map_eq_some_iff.mp (Option.mem_toList.mp mem)
  rfl

/-- The stop after a release. -/
theorem stopReleased_follows (userId robotId : String) (robot : Robot) :
    Follows .releasing Releases (stopReleased userId robotId robot) := by
  refine follows_quiet_bind quiet_releasing (payload_quiet _) (fun payload => ?_) releases_error
  refine follows_quiet_bind quiet_releasing only_flush (fun _ => ?_) releases_error
  have plain : ∀ (command : Command) (rows : List Row),
      Except.ok [ Row.command payload.commandId command,
        Row.audit "STOP_MOTION_ON_WS_DISCONNECT" payload.commandId ] = (.ok rows : Except Thrown _) →
      ∀ row ∈ rows, row.scope? = none := by
    intro command rows same
    cases same
    simp [Row.scope?]
  dsimp only
  split
  · refine ⟨trivial, fun fate => ?_⟩
    exact follows_refuse_bind (fun _ => ⟨rfl, plain _⟩) releases_error
  · exact ⟨rfl, plain _⟩

/-- Releasing one lease. -/
theorem releaseLease_follows (userId reason robotId : String) :
    Follows .releasing Releases (releaseLease userId reason robotId) := by
  refine follows_quiet_bind quiet_releasing (only_read _) (fun raw => ?_) releases_error
  split
  · exact ⟨rfl, fun rows same => by cases same; simp⟩
  next lease _ =>
    refine ⟨trivial, fun fate => follows_refuse_bind (fun _ => ?_) releases_error⟩
    refine follows_quiet_bind quiet_releasing (only_read _) (fun session => ?_) releases_error
    refine follows_quiet_bind quiet_releasing (only_read _) (fun now => ?_) releases_error
    refine follows_quiet_bind quiet_releasing (only_read _) (fun robot => ?_) releases_error
    have closed := forceReleased_unrecorded lease.leaseId reason session now
    split
    · exact ⟨rfl, fun rows same => by cases same; exact closed⟩
    next robot =>
      refine Process.keeps_bind ((stopReleased_follows userId lease.robotId robot).mono ?_)
      rintro t (e | rows) ⟨rfl, plain⟩
      · exact releases_error e
      · refine ⟨rfl, fun all same => ?_⟩
        cases same
        exact List.forall_mem_append.mpr ⟨closed, plain rows rfl⟩

/-- Releasing the leases of several robots. -/
theorem releaseLeases_follows (userId reason : String) (robotIds : List String) :
    Follows .releasing Releases (releaseLeases userId reason robotIds) := by
  induction robotIds with
  | nil => exact ⟨rfl, fun rows same => by cases same; simp⟩
  | cons robotId rest ih =>
    refine Process.keeps_bind ((releaseLease_follows userId reason robotId).mono ?_)
    rintro t (e | rows) ⟨rfl, plain⟩
    · exact releases_error e
    · refine Process.keeps_bind (ih.mono ?_)
      rintro t (e | more) ⟨rfl, later⟩
      · exact releases_error e
      · refine ⟨rfl, fun all same => ?_⟩
        cases same
        exact List.forall_mem_append.mpr ⟨plain rows rfl, later more rfl⟩

/-- **Every release keeps the order.** -/
theorem release_follows (userId reason : String) :
    Follows .releasing (fun _ _ => True) (releaseUserLeases userId reason) := by
  refine follows_quiet_bind quiet_releasing (only_read _) (fun keys => ?_) fun _ => trivial
  refine Process.keeps_bind ((releaseLeases_follows userId reason keys).mono ?_)
  rintro t (e | rows) ⟨rfl, plain⟩
  · trivial
  · exact ⟨plain rows rfl, fun fate => by cases fate <;> trivial⟩

end Firebot.Api
