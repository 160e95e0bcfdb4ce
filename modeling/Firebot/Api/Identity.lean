import Firebot.Api.Sound

/-!
# Under what a request is stored

A request that is repeated is the same by its actor, its key and its body. The endpoint and the body under
which it looks its key up are its own as well: some endpoints name the robot that has been found, and
`alarm_create_task` puts the slot of the alarm into the body; all else is the request's own, at the lookup and
in the record that it stores.
-/

namespace Firebot.Api

open Script

/-! ## One request -/

/-- The endpoint of a request, where it does not name the robot that is found. -/
def Request.endpoint? : Request → Option String
  | .patrol _ => some "/tasks/patrol"
  | .patrolPlan _ => some "/tasks/patrol-plan"
  | .returnDock .. => some "/tasks/return-dock"
  | .extinguish _ | .alarmCreateTask .. => some "/tasks/extinguish"
  | .cancelTask taskId => some ("/tasks/" ++ taskId ++ "/cancel")
  | .manualAlarm _ => some "/alarms/manual"
  | .stopMotion _ | .emergencyStop _ | .resetEstop _ | .returnDockCommand .. | .stopOperation _
  | .navigatePreset .. => none

/-- The body of a request, where it does not have the slot of an alarm. -/
def Request.body? : Request → Option JsonTree
  | .stopMotion _ | .emergencyStop _ | .resetEstop _ | .stopOperation _ => some (.obj [])
  | .returnDockCommand _ params => some (.obj [("params", .obj params)])
  | .navigatePreset _ presetId => some (.obj [("navigation_preset_id", .str presetId)])
  | .patrol input | .extinguish input => some input.modelDump
  | .patrolPlan input => some input.modelDump
  | .returnDock robotRef parameters =>
    some (.obj [("robot_id", .str robotRef), ("parameters", .obj parameters)])
  | .cancelTask taskId => some (.obj [("task_id", .str taskId)])
  | .manualAlarm input => some input.modelDump
  | .alarmCreateTask .. => none

/-- An endpoint that a request can be called under. -/
def Request.Under (request : Request) (endpoint : String) : Prop :=
  ∀ own, request.endpoint? = some own → endpoint = own

/-- A hash that a request can be stored with. -/
def Request.Hashes (request : Request) (requestHash : JsonTree → String) (hash : String) : Prop :=
  ∀ own, request.body? = some own → hash = requestHash own

/-- What a request comes to is its own. -/
theorem Request.enter_ensures (actorId : String) (request : Request) :
    (request.enter actorId).Ensures fun entry =>
      request.Under entry.endpoint ∧ ∀ own, request.body? = some own → entry.body = own := by
  cases request with
  | stopMotion | emergencyStop =>
    refine Process.ensures_bind (fun _ => ?_) _
    refine Process.ensures_bind (fun _ => ?_) _
    refine Process.ensures_bind (fun _ => ?_) _
    exact ⟨nofun, fun _ own => Option.some.inj own⟩
  | resetEstop =>
    refine Process.ensures_bind (fun _ => ?_) _
    refine Process.ensures_bind (fun _ => ?_) _
    refine Process.ensures_bind (fun _ => ?_) _
    refine Process.ensures_bind (fun _ => ?_) _
    exact ⟨nofun, fun _ own => Option.some.inj own⟩
  | returnDockCommand | stopOperation | navigatePreset =>
    refine Process.ensures_bind (fun _ => ?_) _
    refine Process.ensures_bind (fun _ => ?_) _
    exact ⟨nofun, fun _ own => Option.some.inj own⟩
  | patrol | patrolPlan | returnDock | extinguish | cancelTask | manualAlarm =>
    refine Process.ensures_bind (fun _ => ?_) _
    exact ⟨fun _ own => Option.some.inj own, fun _ own => Option.some.inj own⟩
  | alarmCreateTask =>
    refine Process.ensures_bind (fun _ => ?_) _
    refine Process.ensures_bind (fun _ => ?_) _
    refine Process.ensures_bind (fun _ => ?_) _
    refine Process.ensures_bind (fun _ => ?_) _
    exact ⟨fun _ own => Option.some.inj own, nofun⟩

section

variable (requestHash : JsonTree → String)

/-- The calls that a request can make, by the endpoint it looks up and the hash it stores. -/
def Request.calls (request : Request) : Call → Prop
  | .lookup scope => request.Under scope.endpoint
  | .commit rows => ∀ scope record, Row.record scope record ∈ rows →
      request.Hashes requestHash record.requestHash
  | .read _ | .flush | .enqueue _ | .deleteLease _ | .appendEvent _ | .respond _ => True

variable {request : Request}

theorem calls_of_quiet {c : Call} (quiet : c.quiet) : request.calls requestHash c := by
  cases c <;> first | exact quiet.elim | trivial

/-- Rows without a record can be committed. -/
theorem calls_commit {rows : List Row}
    (plain : ∀ row ∈ rows, ∀ scope record, row ≠ .record scope record) :
    (commit rows).Only (request.calls requestHash) :=
  Process.only_bind (Process.only_ask.mpr fun scope record mem => (plain _ mem scope record rfl).elim)
    fun _ => only_refuse _ _

theorem lookup_calls {scope : Scope} (under : request.Under scope.endpoint) (body : JsonTree) :
    (lookup requestHash scope body).Only (request.calls requestHash) :=
  Process.only_bind (Process.only_ask.mpr under) fun _ =>
    Process.only_bind (only_check _) fun _ => Process.only_bind (only_refuse _ _) fun _ => trivial

theorem afterCommit_calls (leases : List String) :
    (afterCommit leases).Only (request.calls requestHash) := by
  induction leases with
  | nil => trivial
  | cons robotId rest ih =>
    refine Process.only_bind ?_ fun _ => ih
    exact Process.only_bind (Process.only_ask.mpr trivial) fun _ => only_refuse _ _

theorem send_calls (work : Work) (scope : Scope) :
    (work.send scope).Only (request.calls requestHash) := by
  unfold Work.send
  split
  · trivial
  next d _ =>
    refine Process.only_tryCatch ?_ fun _ => ?_
    · refine Process.only_bind ?_ fun _ => trivial
      exact Process.only_bind (Process.only_ask.mpr trivial) fun _ => only_refuse _ _
    · refine Process.only_bind (calls_commit requestHash ?_) fun _ => trivial
      intro row mem other record same
      subst same
      rcases List.mem_cons.mp mem with same | later
      · cases same
      · obtain ⟨_, _, same⟩ := Option.map_eq_some_iff.mp (Option.mem_toList.mp later)
        cases same

theorem announce_calls (work : Work) : work.announce.Only (request.calls requestHash) := by
  unfold Work.announce
  split
  · trivial
  · exact Process.only_bind (Process.only_ask.mpr trivial) fun _ => only_refuse _ _

theorem Entry.serve_calls {entry : Entry} (under : request.Under entry.endpoint)
    (body : ∀ own, request.body? = some own → entry.body = own) (actorId key : String) :
    (entry.serve requestHash actorId key).Only (request.calls requestHash) := by
  refine Process.only_bind (lookup_calls requestHash under _) fun record => ?_
  split
  · trivial
  · refine Process.only_bind (entry.quiet.mono fun c => calls_of_quiet requestHash) fun work => ?_
    refine Process.only_bind (Process.only_bind (Process.only_ask.mpr ?_) fun _ => only_refuse _ _)
      fun _ => ?_
    · intro scope record mem own same
      rcases List.mem_append.mp mem with plain | last
      · cases work.unrecorded _ plain
      · cases List.mem_singleton.mp last
        exact congrArg requestHash (body own same)
    · refine Process.only_bind
        (Process.only_tryCatch (afterCommit_calls requestHash _) fun _ => trivial) fun _ => ?_
      refine Process.only_bind (send_calls requestHash work _) fun _ => ?_
      exact Process.only_bind (announce_calls requestHash work) fun _ => trivial

/-- A request looks up its own endpoint, and stores the hash of its own body. -/
theorem Request.serve_calls (actorId key : String) :
    (request.serve requestHash actorId key).Only (request.calls requestHash) :=
  Process.only_bind_of_ensures ((request.enter_quiet actorId).mono fun _ => calls_of_quiet requestHash)
    (request.enter_ensures actorId) fun _ own =>
      Process.only_bind (Entry.serve_calls requestHash own.1 own.2 actorId key) fun _ =>
        ⟨trivial, fun _ => trivial⟩

end

/-! ## Every run -/

namespace World

section

variable (requestHash : JsonTree → String)

/-- What a request has looked up and stored is its own. -/
def Own (w : World) (x : Running) : Prop :=
  ∀ actorId key request, x.origin = .request actorId key request →
    x.process.Only (request.calls requestHash) ∧
    (∀ s, x.stage.scope? = some s → request.Under s.endpoint) ∧
    ∀ s record, x.stage.owns = some s → w.records s = some record →
      request.Hashes requestHash record.requestHash

/-- What every request has looked up and stored is its own. -/
def Owns (w : World) : Prop :=
  ∀ (pid : Nat) (x : Running), w.running[pid]? = some x → w.Own requestHash x

variable {requestHash} {w : World} {pid : Nat} {env : Env} {x : Running} {c : Call}
  {next : Ans c → Script Unit}

/-- The scope of a request is the one that it has looked up. -/
theorem scope_next {request : Request} (calls : request.calls requestHash c)
    (under : ∀ s, x.stage.scope? = some s → request.Under s.endpoint) {s : Scope}
    (scope : (x.stage.next c (w.reply env c)).scope? = some s) : request.Under s.endpoint := by
  cases c with
  | read | flush | enqueue | deleteLease | appendEvent => exact under s scope
  | lookup looked =>
    cases stage : x.stage with
    | entering actorId key =>
      rw [stage] at scope
      simp only [Stage.next] at scope
      split at scope
      · cases scope
      · cases scope
        exact calls
      · cases scope
        exact calls
    | replayed | working | committed | answered | releasing | released =>
      rw [stage] at scope
      exact under s (stage ▸ scope)
  | commit rows =>
    refine under s ?_
    cases stage : x.stage with
    | working | committed | releasing =>
      rw [stage] at scope
      simp only [Stage.next] at scope
      split at scope <;> exact scope
    | entering | replayed | answered | released =>
      rw [stage] at scope
      exact scope
  | respond response =>
    refine under s ?_
    cases stage : x.stage with
    | entering | replayed | working | committed | answered | releasing | released =>
      rw [stage] at scope
      exact scope

/-- The hash of a record is the one that it was stored with. -/
theorem hash_call (sound : w.Sound) (found : w.running[pid]? = some x) (allowed : x.stage.allows c)
    {request : Request} (calls : request.calls requestHash c)
    (hashes : ∀ s record, x.stage.owns = some s → w.records s = some record →
      request.Hashes requestHash record.requestHash) {s : Scope} {record : Record}
    (owns : (after w env x c next).stage.owns = some s)
    (there : (w.call pid env c).records s = some record) : request.Hashes requestHash record.requestHash := by
  rcases call_cases w pid env c with same | ⟨applied, same⟩
  · rw [same] at there
    rcases owns_after allowed owns with before | free
    · exact hashes s record before there
    · rw [free] at there
      cases there
  · rw [same] at there
    rcases effect_records w pid c with kept | ⟨rows, rfl, written⟩
    · rw [kept] at there
      rcases owns_after allowed owns with before | free
      · exact hashes s record before there
      · rw [free] at there
        cases there
    · rw [written] at there
      have fate : Fate.applied (w.reply env (.commit rows)) = true := applied
      change (x.stage.next (.commit rows) (w.reply env (.commit rows))).owns = some s at owns
      cases stage : x.stage with
      | working scope =>
        rw [stage] at allowed owns
        obtain ⟨before, first, rfl, _⟩ := allowed
        have last : lastRecord (before ++ [.record scope first]) = some first := by
          simp [lastRecord]
        simp only [Stage.next, fate, last] at owns
        cases owns
        have own := calls s first (List.mem_append_right _ (List.mem_singleton.mpr rfl))
        rw [List.foldl_append] at there
        have same : [Row.record s first].foldl writeRecord (before.foldl writeRecord w.records) s =
            some first := Function.update_self ..
        rw [same] at there
        cases there
        exact own
      | committed scope all stored =>
        rw [stage] at allowed owns
        simp only [Stage.next, fate, if_true] at owns
        cases owns
        obtain ⟨first, before, _⟩ := sound.owned pid x s found (by rw [stage]; rfl)
        obtain ⟨later, same, _, hash⟩ :=
          foldl_writeRecord_changes (fun row mem => (allowed row mem).2) before
        rw [same] at there
        cases there
        rw [hash]
        exact hashes s first (by rw [stage]; rfl) before
      | releasing =>
        rw [stage] at owns
        simp only [Stage.next, fate, if_true] at owns
        cases owns
      | entering | replayed | answered | released =>
        rw [stage] at allowed
        exact allowed.elim

theorem Owns.call (h : w.Owns requestHash) (sound : w.Sound) (found : w.running[pid]? = some x)
    (process : x.process = .call c next) :
    Owns requestHash { w.call pid env c with running := w.running.set pid (after w env x c next) } := by
  have allowed := (sound.follows pid x found).1
  rw [process] at allowed
  intro other z there actorId key request origin
  rcases getElem?_after there with ⟨rfl, rfl⟩ | ⟨ne, there⟩
  · obtain ⟨calls, under, hashes⟩ := h other x found actorId key request origin
    rw [process] at calls
    exact ⟨calls.2 _, fun s => scope_next calls.1 under,
      fun s record owns there => hash_call sound found allowed.1 calls.1 hashes owns there⟩
  · obtain ⟨calls, under, hashes⟩ := h other z there actorId key request origin
    refine ⟨calls, under, fun s record owns stored => hashes s record owns ?_⟩
    rw [← sound.records_after found allowed.1 there ne owns]
    exact stored

theorem Owns.step (h : w.Owns requestHash) (sound : w.Sound) (e : Event) :
    (w.step requestHash e).Owns requestHash := by
  cases e with
  | arrive actorId key request =>
    intro pid x there
    rcases getElem?_append there with there | ⟨_, rfl⟩
    · exact h pid x there
    · intro _ _ _ same
      cases same
      refine ⟨request.serve_calls requestHash actorId key, fun s scope => ?_, fun s record owns => ?_⟩
      · cases scope
      · cases owns
  | release userId reason =>
    intro pid x there
    rcases getElem?_append there with there | ⟨_, rfl⟩
    · exact h pid x there
    · intro _ _ _ same
      cases same
  | kill pid =>
    simp only [World.step]
    split
    · exact h
    next x found =>
      intro other z there actorId key request origin
      rcases getElem?_after there with ⟨rfl, rfl⟩ | ⟨_, there⟩
      · exact ⟨trivial, (h other x found actorId key request origin).2⟩
      · exact h other z there actorId key request origin
  | go pid env =>
    simp only [World.step]
    split
    · exact h
    next x found =>
      unfold go
      split
      · exact h
      · exact h
      next c next process => exact h.call sound found process

/-- **In every run, what a request has looked up and stored is its own.** -/
theorem Owns.run (events : List Event) : (run requestHash .initial events).Owns requestHash := by
  have both : (World.run requestHash .initial events).Sound ∧
      (World.run requestHash .initial events).Owns requestHash :=
    Runs.run_of_step (I := fun w => Sound w ∧ Owns requestHash w)
      (fun _ e h => ⟨h.1.step requestHash e, h.2.step h.1 e⟩) _ events
      ⟨.initial, fun _ _ there => by cases there⟩
  exact both.2

end

end World

end Firebot.Api
