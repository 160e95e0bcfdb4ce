import Firebot.Api.Identity

/-!
# Repeating a request

A request that is repeated with its key is to be answered with the stored response, whatever has happened in
between. It is, if it comes to the lookup: an endpoint that makes checks of its own before refuses the
repeated request where they no longer pass, and `alarm_create_task` refuses it because the first has
succeeded.

`serve` runs one request to its end; what it reads is answered by `env`, call by call, and may have changed in
any way since.

**The repetition of a request that has succeeded returns the stored response and does nothing else exactly if it
passes what its endpoint checks before the lookup** (`replay_iff`). Nothing is said of a repetition that comes
while the first request is still under way; that is `OneWinner`.
-/

namespace Firebot.Api

open Firebot.Commands (Profiles assertRobotCanExecute)
open Firebot.Robots (Robot)
open Firebot.Tasks (Cmd Fire FireState)
open Script

namespace World

/-! ## One request to its end -/

/-- What answers a process that runs alone. -/
def alone (pid : Nat) (env : Nat → Env) (s : World × Stage) (n : Nat) (c : Call) :
    Ans c × World × Stage :=
  (s.1.reply (env n) c, s.1.call pid (env n) c, s.2.next c (s.1.reply (env n) c))

/-- A process runs to its end: its result, the number of its calls, the world and its stage. -/
def serve (w : World) (pid : Nat) (env : Nat → Env) (n : Nat) (stage : Stage) {α : Type} (p : Script α) :
    Except Thrown α × Nat × World × Stage :=
  p.exec (alone pid env) n (w, stage)

/-- What a quiet process comes to: nobody but the environment answers it. -/
def outcome (env : Nat → Env) {α : Type} (n : Nat) (p : Script α) : Except Thrown α × Nat × Unit :=
  p.exec (fun _ n c => (env n c, ())) n ()

/-- The server answers a quiet script from its environment alone and stays as it was. -/
theorem serve_quiet {α : Type} {p : Script α} (quiet : p.Only Call.quiet) (w : World) (pid : Nat)
    (env : Nat → Env) (n : Nat) (stage : Stage) :
    w.serve pid env n stage p = ((outcome env n p).1, (outcome env n p).2.1, w, stage) := by
  induction p generalizing n with
  | ret a => rfl
  | raise e => rfl
  | call c next ih =>
    have answered : alone pid env (w, stage) n c = (env n c, w, stage) := by
      unfold alone
      rw [next_of_quiet quiet.1]
      cases c with
      | read | flush => rfl
      | lookup | commit | enqueue | deleteLease | appendEvent | respond => exact quiet.1.elim
    unfold serve Process.exec
    rw [answered]
    exact ih (env n c) (quiet.2 _) (n + 1)

/-- Serving two scripts in a row. -/
theorem serve_bind (w : World) (pid : Nat) (env : Nat → Env) (n : Nat) (stage : Stage) {α β : Type}
    (p : Script α) (f : α → Script β) :
    w.serve pid env n stage (p >>= f) =
      match w.serve pid env n stage p with
      | (.ok a, m, w', stage') => w'.serve pid env m stage' (f a)
      | (.error e, m, w', stage') => (.error e, m, w', stage') := by
  unfold serve
  rw [Process.exec_bind]
  rcases p.exec (alone pid env) n (w, stage) with ⟨_ | _, _, _, _⟩ <;> rfl

/-- What a call does does not depend on who is under way. -/
theorem call_running (w : World) (running : List Running) (pid : Nat) (env : Env) (c : Call) :
    ({ w with running := running } : World).call pid env c =
      { w.call pid env c with running := running } := by
  have applied : ({ w with running := running } : World).applied env c = w.applied env c := by
    cases c <;> rfl
  unfold call
  rw [applied]
  split
  · cases c <;> rfl
  · rfl

/-- Putting a request back where it stands. -/
theorem set_self {running : List Running} {pid : Nat} {x : Running} (found : running[pid]? = some x) :
    running.set pid x = running := by
  obtain ⟨bound, rfl⟩ := List.getElem?_eq_some_iff.mp found
  exact List.set_getElem_self bound

/-- A request that is served alone is a run of the world: its calls, one after the other. -/
theorem serve_run (requestHash : JsonTree → String) (w : World) (pid : Nat) (env : Nat → Env) (n : Nat)
    (running : List Running) (origin : Origin) (stage : Stage) (p : Script Unit)
    (found : running[pid]? = some { origin, stage, process := p }) :
    ∃ k rest, rest.ended = true ∧
      run requestHash { w with running := running } ((List.range' n k).map fun n => .go pid (env n)) =
        { (w.serve pid env n stage p).2.2.1 with
          running := running.set pid
            { origin, stage := (w.serve pid env n stage p).2.2.2, process := rest } } := by
  induction p generalizing w n running stage with
  | ret a =>
    exact ⟨0, .ret a, rfl, congrArg (fun running => { w with running := running }) (set_self found).symm⟩
  | raise e =>
    exact ⟨0, .raise e, rfl, congrArg (fun running => { w with running := running }) (set_self found).symm⟩
  | call c next ih =>
    let x : Running := { origin, stage, process := .call c next }
    have bound := (List.getElem?_eq_some_iff.mp found).1
    obtain ⟨k, rest, ended, ran⟩ := ih (w.reply (env n) c) (w.call pid (env n) c) (n + 1)
      (running.set pid (after w (env n) x c next)) (stage.next c (w.reply (env n) c))
      (List.getElem?_set_self bound)
    refine ⟨k + 1, rest, ended, ?_⟩
    rw [List.range'_succ, List.map_cons, run, Runs.run_cons]
    have step : World.step requestHash { w with running := running } (.go pid (env n)) =
        { w.call pid (env n) c with running := running.set pid (after w (env n) x c next) } := by
      simp only [World.step, found, World.go, call_running]
      rfl
    rw [step]
    refine ran.trans ?_
    rw [List.set_set]
    rfl

/-- What `serve` makes of a request is a run of the world: the request arrives, and takes its steps alone. -/
def Served (requestHash : JsonTree → String) (w : World) (actorId key : String) (request : Request)
    (env : Nat → Env) : Prop :=
  let served := w.serve w.running.length env 0 (.entering actorId key)
    (request.serve requestHash actorId key)
  ∃ k rest, rest.ended = true ∧
    run requestHash w (.arrive actorId key request ::
      (List.range' 0 k).map fun n => .go w.running.length (env n)) =
    { served.2.2.1 with
      running := w.running ++
        [{ origin := .request actorId key request, stage := served.2.2.2, process := rest }] }

/-- A request that arrives and is run to its end is served as `World.serve` says. -/
theorem arrive_run (requestHash : JsonTree → String) (w : World) (actorId key : String) (request : Request)
    (env : Nat → Env) : Served requestHash w actorId key request env := by
  unfold Served
  intro served
  let x : Running :=
    { origin := .request actorId key request, stage := .entering actorId key
      process := request.serve requestHash actorId key }
  obtain ⟨k, rest, ended, ran⟩ := serve_run requestHash w w.running.length env 0 (w.running ++ [x]) x.origin
    x.stage x.process List.getElem?_concat_length
  refine ⟨k, rest, ended, ran.trans ?_⟩
  rw [List.set_append_right _ _ (Nat.le_refl _), Nat.sub_self]
  rfl

/-! ## The lookup -/

/-- The stage after a lookup that has found nothing. -/
def Works : Stage → Bool
  | .working _ | .committed .. | .answered .. => true
  | .entering .. | .replayed .. | .releasing | .released _ => false

/-- Once at work, a request stays at work until it answers. -/
theorem works_next {stage : Stage} (works : Works stage = true) (c : Call) (answer : Ans c) :
    Works (stage.next c answer) = true := by
  cases stage with
  | entering | replayed | releasing | released => cases works
  | working scope =>
    cases c with
    | commit rows =>
      simp only [Stage.next]
      split <;> rfl
    | read | lookup | flush | enqueue | deleteLease | appendEvent | respond => rfl
  | committed scope rows response =>
    cases c with
    | commit changes =>
      simp only [Stage.next]
      split <;> rfl
    | read | lookup | flush | enqueue | deleteLease | appendEvent | respond => rfl
  | answered scope rows response =>
    cases c <;> rfl

/-- Serving a script of a working request leaves it at work. -/
theorem serve_works (w : World) (pid : Nat) (env : Nat → Env) (n : Nat) {stage : Stage}
    (works : Works stage = true) {α : Type} (p : Script α) :
    Works (w.serve pid env n stage p).2.2.2 = true := by
  induction p generalizing w n stage with
  | ret a => exact works
  | raise e => exact works
  | call c next ih => exact ih _ _ (n + 1) (works_next works c _)

variable (requestHash : JsonTree → String)

/-- The lookup answers from the record of its scope, and is the one way into the work. -/
theorem serve_lookup (w : World) (pid : Nat) (env : Nat → Env) (n : Nat) (actorId key : String)
    (scope : Scope) (body : JsonTree) :
    w.serve pid env n (.entering actorId key) (lookup requestHash scope body) =
      match env n (.lookup scope), w.records scope with
      | .error e, _ => (.error e, n + 1, w, .entering actorId key)
      | .ok _, none => (.ok none, n + 1, w, .working scope)
      | .ok _, some record =>
        (if record.requestHash = requestHash body then .ok (some record)
          else .error (platformError "IDEMPOTENCY_KEY_CONFLICT" "相同 Idempotency-Key 对应不同请求内容"),
          n + 1, w, .replayed scope record.response) := by
  unfold lookup
  rw [serve_bind]
  have asked : w.serve pid env n (.entering actorId key) (Process.ask (Call.lookup scope)) =
      (.ok ((env n (.lookup scope)).map fun _ => w.records scope), n + 1, w,
        Stage.next (.entering actorId key) (.lookup scope)
          ((env n (.lookup scope)).map fun _ => w.records scope)) := rfl
  rw [asked]
  rcases env n (.lookup scope) with e | row
  · rfl
  · rcases w.records scope with _ | record
    · rfl
    · change serve w pid env (n + 1) _ (refuse _ _ >>= _) = _
      by_cases same : record.requestHash = requestHash body
      · simp [same, refuse]
        rfl
      · simp [same, refuse]
        rfl

/-! ## The law -/

/-- A request has succeeded: it has stored its response under a scope, and has returned it. -/
def Succeeded (w : World) (actorId key : String) (request : Request) (s : Scope) (response : Response) :
    Prop :=
  ∃ (pid : Nat) (x : Running) (rows : List Row), w.running[pid]? = some x ∧ x.origin = .request actorId key request ∧
    x.stage = .answered s rows response

/-- **Once a request has succeeded, its repetition returns the response that is stored, and does nothing
else.** -/
def Idempotent (w : World) (actorId key : String) (request : Request) (env : Nat → Env) : Prop :=
  ∀ s response, w.Succeeded actorId key request s response →
    ∃ n, w.serve w.running.length env 0 (.entering actorId key) (request.serve requestHash actorId key) =
      (.ok (), n, { w with responses := w.responses ++ [(w.running.length, response)] },
        .replayed s response)

/-! ## What is checked before the lookup -/

section

variable (env : Nat → Env)

/-- `require_permission` passes. -/
def Permits (actorId permission : String) : Prop :=
  env 0 (.read (.permitted actorId permission)) = .ok true

/-- `find_robot` finds the robot, and with it the endpoint that is looked up. -/
def Finds (ref : String) (robotId : String) (robot : Robot) : Prop :=
  env 1 (.read (.robot ref)) = .ok (some (robotId, robot))

/-- `assert_robot_can_execute` passes. -/
def Executes (n : Nat) (robotId : String) (robot : Robot) (cmd : Cmd) : Prop :=
  ∃ sight, env n (.read (.sight robotId cmd none)) = .ok sight ∧
    assertRobotCanExecute { sight with robot := robot } cmd = .ok ()

/-- The database answers the lookup. -/
def Answers (n : Nat) (s : Scope) : Prop := ∃ row, env n (.lookup s) = .ok row

variable (actorId : String) (w : World) (s : Scope)

/-- What has to hold for a request to come to the record of a scope: it is permitted, it finds the robot whose
name the endpoint has, and what else its endpoint checks before the lookup passes. -/
def Passes : Request → Prop
  | .stopMotion robotRef => Permits env actorId "robot.control.stop" ∧
      ∃ robotId robot, Finds env robotRef robotId robot ∧
        s.endpoint = "/robots/" ++ robotId ++ "/commands/stop-motion" ∧
        Executes env 2 robotId robot .stopMotion ∧ Answers env 3 s
  | .emergencyStop robotRef => Permits env actorId "robot.control.estop" ∧
      ∃ robotId robot, Finds env robotRef robotId robot ∧
        s.endpoint = "/robots/" ++ robotId ++ "/commands/emergency-stop" ∧
        Executes env 2 robotId robot .emergencyStop ∧ Answers env 3 s
  | .resetEstop robotRef => Permits env actorId "robot.control.reset_estop" ∧
      ∃ robotId robot, Finds env robotRef robotId robot ∧
        s.endpoint = "/robots/" ++ robotId ++ "/commands/reset-estop" ∧ robot.onlineState = .online ∧
        Executes env 2 robotId robot .resetEstop ∧ Answers env 3 s
  | .returnDockCommand robotRef _ => Permits env actorId "robot.control.task" ∧
      ∃ robotId robot, Finds env robotRef robotId robot ∧
        s.endpoint = "/robots/" ++ robotId ++ "/commands/return-dock" ∧ Answers env 2 s
  | .stopOperation robotRef => Permits env actorId "robot.control.stop" ∧
      ∃ robotId robot, Finds env robotRef robotId robot ∧
        s.endpoint = "/robots/" ++ robotId ++ "/stop-operation" ∧ Answers env 2 s
  | .navigatePreset robotRef _ => Permits env actorId "robot.control.task" ∧
      ∃ robotId robot, Finds env robotRef robotId robot ∧
        s.endpoint = "/robots/" ++ robotId ++ "/navigate-preset" ∧ Answers env 2 s
  | .patrol _ | .patrolPlan _ | .returnDock .. => Permits env actorId "patrol.create" ∧ Answers env 1 s
  | .extinguish _ => Permits env actorId "extinguish.create" ∧ Answers env 1 s
  | .cancelTask _ => Permits env actorId "robot.control.task" ∧ Answers env 1 s
  | .manualAlarm _ => Permits env actorId "alarm.confirm" ∧ Answers env 1 s
  | .alarmCreateTask alarmId robotId trajectoryId parameters =>
      Permits env actorId "extinguish.create" ∧
      ∃ alarm, env 1 (.read (.fire alarmId)) = .ok (some alarm) ∧
        FireState.extinguishable alarm.state = true ∧ Answers env 2 s ∧
        (w.records s).map Record.requestHash = some (requestHash (TaskInput.modelDump
          { robotId, targetParkingSlotId := alarm.parkingSlotId, trajectoryId
            fireEventId := some alarmId, parameters }))

/-- Once a request has succeeded, its repetition passes what is checked before the lookup. -/
def Arrives (key : String) (request : Request) : Prop :=
  ∀ s response, w.Succeeded actorId key request s response → w.Passes requestHash env actorId s request

end

/-! ## The checks, one after the other -/

section

variable {env : Nat → Env} {n m : Nat} {α β : Type} {b : β}

/-- A script that returns has read nothing. -/
theorem outcome_ret {b' : β} : outcome env n (Process.ret b) = (.ok b', m, ()) ↔ b = b' ∧ m = n := by
  simp [outcome, Process.exec, eq_comm]

/-- A read goes on with what the row holds. -/
theorem outcome_read_bind {q : Query} {f : q.Answer → Script β} :
    outcome env n (Script.read q >>= f) = (.ok b, m, ()) ↔
      ∃ a, env n (.read q) = .ok a ∧ outcome env (n + 1) (f a) = (.ok b, m, ()) := by
  have asked : outcome env n (Script.read q >>= f) =
      outcome env (n + 1) (check (env n (.read q)) >>= f) := rfl
  rw [asked]
  cases env n (.read q) with
  | error e => simp [check, outcome, Process.exec, Process.throw_eq, Process.raise_bind]
  | ok a => simp [check, Process.pure_eq, Process.ret_bind]

/-- A check goes on when it passes. -/
theorem outcome_check_bind {r : Except Thrown α} {f : α → Script β} :
    outcome env n (check r >>= f) = (.ok b, m, ()) ↔
      ∃ a, r = .ok a ∧ outcome env n (f a) = (.ok b, m, ()) := by
  cases r <;> simp [outcome, check, Process.exec]

/-- A row that is required goes on when it is there. -/
theorem outcome_found_bind {e : Thrown} {row : Option α} {f : α → Script β} :
    outcome env n (found e row >>= f) = (.ok b, m, ()) ↔
      ∃ a, row = some a ∧ outcome env n (f a) = (.ok b, m, ()) := by
  cases row <;> simp [outcome, found, Process.exec]

/-- A refusal goes on when its condition is not met. -/
theorem outcome_refuse_bind {condition : Bool} {e : Thrown} {f : Unit → Script β} :
    outcome env n (refuse condition e >>= f) = (.ok b, m, ()) ↔
      condition = false ∧ outcome env n (f ()) = (.ok b, m, ()) := by
  cases condition <;> simp [outcome, refuse, Process.exec]

/-- The permission is read first. -/
theorem outcome_permission_bind {actorId permission : String} {f : Unit → Script β} :
    outcome env 0 (requirePermission actorId permission >>= f) = (.ok b, m, ()) ↔
      Permits env actorId permission ∧ outcome env 1 (f ()) = (.ok b, m, ()) := by
  unfold requirePermission
  rw [Process.bind_assoc]
  refine outcome_read_bind.trans ?_
  simp [outcome_refuse_bind, Permits]

/-- The robot is looked up by its id, its code or its vehicle. -/
theorem outcome_findRobot_bind {ref : String} {f : String × Robot → Script β} :
    outcome env 1 (findRobot ref >>= f) = (.ok b, m, ()) ↔
      ∃ robotId robot, Finds env ref robotId robot ∧
        outcome env 2 (f (robotId, robot)) = (.ok b, m, ()) := by
  unfold findRobot
  rw [Process.bind_assoc]
  refine outcome_read_bind.trans ?_
  simp only [outcome_found_bind]
  constructor
  · rintro ⟨_, seen, ⟨robotId, robot⟩, rfl, rest⟩
    exact ⟨robotId, robot, seen, rest⟩
  · rintro ⟨robotId, robot, seen, rest⟩
    exact ⟨_, seen, _, rfl, rest⟩

/-- The gate goes on for a robot that can execute the command. -/
theorem outcome_assertCanExecute_bind {robotId : String} {robot : Robot} {cmd : Cmd}
    {f : Unit → Script β} :
    outcome env n (assertCanExecute robotId robot cmd none >>= f) = (.ok b, m, ()) ↔
      Executes env n robotId robot cmd ∧ outcome env (n + 1) (f ()) = (.ok b, m, ()) := by
  unfold assertCanExecute
  rw [Process.bind_assoc]
  refine outcome_read_bind.trans ?_
  simp only [outcome_check_bind, Executes]
  constructor
  · rintro ⟨sight, seen, u, passed, rest⟩
    refine ⟨⟨sight, seen, ?_⟩, rest⟩
    cases same : assertRobotCanExecute { sight with robot := robot } cmd with
    | error e => rw [same] at passed; cases passed
    | ok u => rfl
  · rintro ⟨⟨sight, seen, passed⟩, rest⟩
    exact ⟨sight, seen, (), by rw [passed]; rfl, rest⟩

variable (requestHash : JsonTree → String) {actorId : String} {w : World} {s : Scope}

/-- The request comes to the record of a scope. -/
def Comes (env : Nat → Env) (actorId : String) (w : World) (s : Scope) (request : Request) : Prop :=
  ∃ entry n, outcome env 0 (request.enter actorId) = (.ok entry, n, ()) ∧ s.endpoint = entry.endpoint ∧
    Answers env n s ∧ (w.records s).map Record.requestHash = some (requestHash entry.body)

/-- A request comes to the record of a scope exactly if what it checks before passes. -/
theorem comes_iff {request : Request} {record : Record} (there : w.records s = some record)
    (under : request.Under s.endpoint) (hashes : request.Hashes requestHash record.requestHash) :
    Comes requestHash env actorId w s request ↔ w.Passes requestHash env actorId s request := by
  unfold Comes
  rw [there]
  cases request with
  | stopMotion | emergencyStop | resetEstop =>
    have own := hashes _ rfl
    simp only [Request.enter, Passes, stopMotion, emergencyStop, resetEstop, safetyCommand,
      outcome_permission_bind, outcome_findRobot_bind, outcome_refuse_bind,
      outcome_assertCanExecute_bind, Process.pure_eq, outcome_ret]
    grind
  | returnDockCommand | stopOperation | navigatePreset =>
    have own := hashes _ rfl
    simp only [Request.enter, Passes, returnDockCommand, stopCurrentOperation, navigateToPreset,
      outcome_permission_bind, outcome_findRobot_bind, Process.pure_eq, outcome_ret]
    grind
  | patrol | patrolPlan | returnDock | extinguish | cancelTask | manualAlarm =>
    have own := hashes _ rfl
    have endpoint := under _ rfl
    simp [Request.enter, Passes, patrol, patrolPlanTask, returnDock, extinguish, createTask,
      cancelTask, manualAlarm, outcome_permission_bind, outcome_ret, own, endpoint]
  | alarmCreateTask alarmId robotId trajectoryId parameters =>
    simp only [Request.enter, Passes, alarmCreateTask, createTask, outcome_permission_bind]
    constructor
    · rintro ⟨entry, n, ⟨permits, entered⟩, _, answers, hash⟩
      obtain ⟨row, seen, entered⟩ := outcome_read_bind.mp entered
      obtain ⟨alarm, rfl, entered⟩ := outcome_found_bind.mp entered
      obtain ⟨state, entered⟩ := outcome_refuse_bind.mp entered
      obtain ⟨rfl, rfl⟩ := outcome_ret.mp entered
      exact ⟨permits, alarm, seen, by simpa using state, answers, there ▸ hash⟩
    · rintro ⟨permits, alarm, seen, state, answers, hash⟩
      let input : TaskInput :=
        { robotId, targetParkingSlotId := alarm.parkingSlotId, trajectoryId
          fireEventId := some alarmId, parameters }
      refine ⟨createTask actorId input, 2, ⟨permits, ?_⟩, under _ rfl, answers, there ▸ hash⟩
      refine outcome_read_bind.mpr ⟨_, seen, outcome_found_bind.mpr ⟨alarm, rfl, ?_⟩⟩
      exact outcome_refuse_bind.mpr ⟨by simpa using state, outcome_ret.mpr ⟨rfl, rfl⟩⟩

end

/-! ## The repetition -/

section

variable {w : World} {actorId key : String} {request : Request} {s : Scope} {response : Response}

/-- A request that has succeeded has left its record, with its response. -/
theorem Sound.record_of_succeeded (h : w.Sound) (succeeded : w.Succeeded actorId key request s response) :
    ∃ record, w.records s = some record ∧ record.response = response ∧
      s = { actorId, endpoint := s.endpoint, key } := by
  obtain ⟨pid, x, rows, found, origin, stage⟩ := succeeded
  obtain ⟨record, there, sends⟩ := h.owned pid x s found (by rw [stage]; rfl)
  have caller := (h.follows pid x found).2
  rw [origin, stage] at caller
  rw [stage] at sends
  cases sends
  cases caller
  exact ⟨record, there, rfl, rfl⟩

/-- The request from where the key is looked up: without a record it works, and does not replay. -/
theorem serve_entry {record : Record} (env : Nat → Env) (pid n : Nat) (entry : Entry)
    (there : w.records s = some record) (scope : s = { actorId, endpoint := s.endpoint, key }) :
    (∃ m, w.serve pid env n (.entering actorId key)
        (entry.serve requestHash actorId key >>= respond) =
      (.ok (), m, { w with responses := w.responses ++ [(pid, record.response)] },
        .replayed s record.response)) ↔
    s.endpoint = entry.endpoint ∧ Answers env n s ∧ record.requestHash = requestHash entry.body := by
  have own : s.endpoint = entry.endpoint → { actorId, endpoint := entry.endpoint, key } = s :=
    fun same => by rw [scope, same]
  unfold Entry.serve
  rw [Process.bind_assoc, serve_bind, serve_lookup]
  rcases looked : env n (.lookup { actorId, endpoint := entry.endpoint, key }) with e | row
  · constructor
    · rintro ⟨m, same⟩
      cases same
    · rintro ⟨endpoint, ⟨row, answered⟩, _⟩
      rw [own endpoint, answered] at looked
      cases looked
  · rcases found : w.records { actorId, endpoint := entry.endpoint, key } with _ | other
    · constructor
      · rintro ⟨m, same⟩
        have works := congrArg (fun r => Works r.2.2.2) same
        rw [serve_works _ _ _ _ rfl] at works
        cases works
      · rintro ⟨endpoint, _, _⟩
        rw [own endpoint, there] at found
        cases found
    · by_cases hash : other.requestHash = requestHash entry.body
      · simp only [if_pos hash]
        constructor
        · rintro ⟨m, same⟩
          have stage : Stage.replayed { actorId, endpoint := entry.endpoint, key } other.response =
              .replayed s record.response := congrArg (fun r => r.2.2.2) same
          obtain ⟨here, _⟩ := Stage.replayed.inj stage
          rw [here, there] at found
          cases found
          exact ⟨by rw [← here], ⟨row, here ▸ looked⟩, hash⟩
        · rintro ⟨endpoint, _, _⟩
          rw [own endpoint] at found ⊢
          rw [there] at found
          cases found
          exact ⟨_, rfl⟩
      · simp only [if_neg hash]
        constructor
        · rintro ⟨m, same⟩
          cases same
        · rintro ⟨endpoint, _, hash'⟩
          rw [own endpoint, there] at found
          cases found
          exact absurd hash' hash

end

/-- **In every run: the repetition of a request that has succeeded returns the stored response and does
nothing else exactly if it passes what its endpoint checks before the lookup**; and the repetition is a run that goes
on from there. -/
theorem replay_iff (events : List Event) (actorId key : String) (request : Request) (env : Nat → Env) :
    (Idempotent requestHash (run requestHash .initial events) actorId key request env ↔
      Arrives requestHash env actorId (run requestHash .initial events) key request) ∧
    Served requestHash (run requestHash .initial events) actorId key request env := by
  refine ⟨?_, arrive_run ..⟩
  have sound := Sound.run requestHash events
  have owns : Owns requestHash _ := Owns.run events
  generalize run requestHash .initial events = w at *
  refine forall_congr' fun s => forall_congr' fun response => imp_congr_right fun succeeded => ?_
  obtain ⟨record, there, same, scope⟩ := sound.record_of_succeeded succeeded
  obtain ⟨pid, x, rows, found, origin, stage⟩ := succeeded
  obtain ⟨_, under, hashes⟩ := owns pid x found actorId key request origin
  rw [← comes_iff requestHash there (under s (by rw [stage]; rfl))
    (hashes s record (by rw [stage]; rfl) there)]
  subst same
  unfold Request.serve Comes
  rw [serve_bind, serve_quiet (request.enter_quiet actorId), there]
  rcases entered : (outcome env 0 (request.enter actorId)) with ⟨e | entry, n, u⟩
  · constructor
    · rintro ⟨m, same⟩
      cases same
    · rintro ⟨entry, n, same, _⟩
      cases same
  · refine (serve_entry requestHash env w.running.length n entry there scope).trans ?_
    constructor
    · rintro ⟨endpoint, answers, hash⟩
      exact ⟨entry, n, rfl, endpoint, answers, congrArg some hash⟩
    · rintro ⟨_, _, same, endpoint, answers, hash⟩
      cases same
      exact ⟨endpoint, answers, Option.some.inj hash⟩

/-- The profiles of a robot that can extinguish. -/
def extinguisher : Profiles where
  integration := Scheduler.readyProfiles.integration
  capability := Scheduler.readyProfiles.capability.map fun capability =>
    { capability with supportedCommands := ["extinguish"] }
  motion := none

/-- An alarm that the robot R1 has raised at the slot P1. -/
def alarmAt (state : FireState) : Fire where
  robotId := some "R1"
  parkingSlotId := "P1"
  fireType := .str "SMOKE"
  severity := .str "HIGH"
  confidence := .null
  fingerprint := "P1"
  sourceMessageId := none
  sourceEventId := none
  state := state
  firstSeenAt := 0
  lastSeenAt := 0
  occurrenceCount := 1
  resolvedAt := none
  sourcePosition := .null
  mediaSnapshot := .null

/-- What a request to extinguish it reads, at its `n`-th call. -/
def alarmEnv (state : FireState) (n : Nat) : Env
  | .read (.permitted ..) => .ok true
  | .read (.fire _) => .ok (some (alarmAt state))
  | .read (.robot _) => .ok (some ("R1", Scheduler.readyRobot))
  | .read (.slot _) => .ok (some { mapVersionId := "V1", centerPose := .null })
  | .read (.version _) =>
    .ok (some { mapId := "M1", version := "1", published := true, semanticRevision := 1 })
  | .read (.extinguishPoint _) => .ok (some .null)
  | .read (.sight ..) =>
    .ok { robot := Scheduler.readyRobot, profiles := some extinguisher, lease := some false
          activeTask := some none }
  | .read .uuid => .ok (if n < 10 then "T1" else "C1")
  | .read .now => .ok 0
  | .read _ => .error .other
  | .lookup _ => .ok none
  | .flush | .commit _ | .enqueue _ | .deleteLease _ | .appendEvent _ => .done
  | .respond _ => ()

/-- Alice has R1 extinguish the alarm. -/
def extinguishAlarm : Request :=
  .alarmCreateTask "F1" "R1" none [("extinguish_mode", .str "SPRAY_AGENT")]

/-- Her request, call by call. -/
def extinguishing : List Event :=
  .arrive "alice" "K1" extinguishAlarm :: (List.range 20).map fun n => .go 0 (alarmEnv .new n)

/-- Alice repeats the request. The first has succeeded, so the alarm is dispatched, and the repetition is
refused. -/
theorem repetition_refused :
    ¬ Idempotent (fun _ => "") (run (fun _ => "") .initial extinguishing) "alice" "K1" extinguishAlarm
      (alarmEnv .dispatched) := by
  intro always
  have succeeded : ∃ s response,
      (run (fun _ => "") .initial extinguishing).Succeeded "alice" "K1" extinguishAlarm s response :=
    ⟨_, _, 0, _, _, rfl, rfl, rfl⟩
  have refused : ((run (fun _ => "") .initial extinguishing).serve
      (run (fun _ => "") .initial extinguishing).running.length (alarmEnv .dispatched) 0
      (.entering "alice" "K1") (extinguishAlarm.serve (fun _ => "") "alice" "K1")).1 =
        .error (.http 409 "该火情状态不允许创建灭火任务") := rfl
  obtain ⟨s, response, succeeded⟩ := succeeded
  obtain ⟨n, same⟩ := always s response succeeded
  rw [same] at refused
  cases refused

end World

end Firebot.Api
