import Firebot.Api.SafetyQueue

/-!
# One winner

Requests with one `Idempotency-Key` may all look it up before any of them commits, and then all of them work.
The record of the key is committed with the rows of the work, and a second one violates
`uq_idempotency_scope`; what cannot be taken back is done after the commit.

**In every run, of the requests with one key one commits at most, and the others leave nothing behind**
(`one_winner`). Nothing is said of what a client learns whose request has crashed after its commit.
-/

namespace Firebot.Api.World

/-- Of the requests with one actor, endpoint and key, one has committed at most; and a request that has not
committed has put nothing into the stream, deleted no lease and announced no event. -/
structure OneWinner (w : World) : Prop where
  winner : ∀ (a b : Nat) (x y : Running) (actorId key endpoint : String) (request request' : Request),
    w.running[a]? = some x → w.running[b]? = some y →
    x.origin = .request actorId key request → y.origin = .request actorId key request' →
    x.stage.scope?.map Scope.endpoint = some endpoint →
    y.stage.scope?.map Scope.endpoint = some endpoint → w.Commits a → w.Commits b → a = b
  losers : ∀ (pid : Nat) (x : Running) (actorId key : String) (request : Request),
    w.running[pid]? = some x → x.origin = .request actorId key request → ¬ w.Commits pid →
      (∀ payload, (pid, payload) ∉ w.stream) ∧ (∀ robotId, (pid, robotId) ∉ w.deletions) ∧
        ∀ type, (pid, type) ∉ w.events

section

variable {w : World} {pid : Nat} {x : Running}

/-- A request that has committed owns its scope. -/
theorem Sound.owns (h : w.Sound) (found : w.running[pid]? = some x) {s : Scope}
    (scope : x.stage.scope? = some s) (commits : w.Commits pid) : x.stage.owns = some s := by
  obtain ⟨rows, mem⟩ := commits
  obtain ⟨y, there, all, same, _⟩ := h.commits pid rows mem
  rw [found] at there
  cases there
  cases stage : x.stage with
  | committed | answered =>
    rw [stage] at scope
    exact scope
  | released =>
    rw [stage] at scope
    cases scope
  | entering | replayed | working | releasing =>
    rw [stage] at same
    cases same

/-- An event is announced after the commit. -/
theorem Sound.commits_of_event (h : w.Sound) (found : w.running[pid]? = some x)
    (request : x.stage.caller.isSome = true) {type : String} (mem : (pid, type) ∈ w.events) :
    w.Commits pid := by
  obtain ⟨y, there, after⟩ := h.events pid type mem
  rw [found] at there
  cases there
  exact h.commits_of_rows found (after request)

/-- The scope of a request is of its actor, its endpoint and its key. -/
theorem Sound.scope (h : w.Sound) (found : w.running[pid]? = some x) {actorId key endpoint : String}
    {request : Request} (origin : x.origin = .request actorId key request)
    (looked : x.stage.scope?.map Scope.endpoint = some endpoint) :
    x.stage.scope? = some { actorId, endpoint, key } := by
  obtain ⟨s, scope, rfl⟩ := Option.map_eq_some_iff.mp looked
  have caller := (h.follows pid x found).2
  rw [origin] at caller
  rw [scope]
  cases stage : x.stage with
  | replayed | working | committed | answered =>
    rw [stage] at scope caller
    cases scope
    cases caller
    rfl
  | entering | releasing | released =>
    rw [stage] at scope
    cases scope

theorem Sound.oneWinner (h : w.Sound) : w.OneWinner where
  winner a b x y actorId key endpoint request request' left right origin origin' looked looked' commits
      commits' :=
    h.unique a b x y { actorId, endpoint, key } left right
      (h.owns left (h.scope left origin looked) commits)
      (h.owns right (h.scope right origin' looked') commits')
  losers pid x actorId key request found origin uncommitted := by
    have caller : x.stage.caller.isSome = true := by
      rw [(h.follows pid x found).2, origin]
      rfl
    refine ⟨fun payload mem => ?_, fun robotId mem => ?_, fun type mem => ?_⟩
    · exact uncommitted (h.inserted found caller mem).commits
    · exact uncommitted (h.commits_of_deletion found caller mem)
    · exact uncommitted (h.commits_of_event found caller mem)

end

/-- **In every run, of the requests with one key one commits at most, and the others leave nothing behind.** -/
theorem one_winner (requestHash : JsonTree → String) (events : List Event) :
    OneWinner (run requestHash .initial events) :=
  (Sound.run requestHash events).oneWinner

end Firebot.Api.World
