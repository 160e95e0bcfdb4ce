import Firebot.Lib.Run
import Firebot.Vehicle.ControlAdapter

/-!
# What confirms a start

After a patrol's goal is published, `_wait_move_base_active` looks whether `/move_base/status` reports a goal
as `PENDING` or `ACTIVE`. It keeps no goals: `_on_mb_status` sets one time marker whenever any goal is
reported so, and the wait ends well once the marker is newer than it was when the wait began.

`move_base`, the messages it has under way, the callback and the steps of the wait in any order, with the times
they read. What was running when the goal was published (`known`), and what has begun to run since (`begun`),
are kept beside them. A goal that ran before and goes on refreshes the marker like a new one, so **`EXECUTING`
tells of a new goal as long as no message that counts is taken before there is one** (`Awaited`,
`execution_confirmed`). Nothing is said of whose goal it is.
-/

namespace Firebot.Vehicle

open Bridge

/-! ## move_base -/

/-- `actionlib_msgs/GoalStatus`. -/
inductive GoalStatus where
  | pending
  | active
  | preempted
  | succeeded
  | aborted
  | rejected
  | preempting
  | recalling
  | recalled
  | lost
  deriving DecidableEq, Repr

/-- `status in MB_ACTIVE_STATES`. -/
def GoalStatus.runs : GoalStatus → Bool
  | .pending | .active => true
  | _ => false

/-- The goals of `move_base` with their states, as a status message lists them. -/
abbrev StatusList := List (Nat × GoalStatus)

/-- The goals that are pending or active. -/
def StatusList.running (goals : StatusList) : List Nat := (goals.filter fun g => g.2.runs).map Prod.fst

/-- A goal is in a state. -/
def StatusList.put (goals : StatusList) (goal : Nat) (status : GoalStatus) : StatusList :=
  (goal, status) :: goals.filter fun g => g.1 ≠ goal

/-! ## The wait -/

/-- Where `_wait_move_base_active` stands. -/
inductive Wait where
  | starting
  | timing (before : Option Time)
  | polling (before : Option Time) (deadline : Time)
  | looking (before : Option Time) (deadline : Time)
  deriving DecidableEq

/-- The marker that the wait has begun with. -/
def Wait.before : Wait → Option (Option Time)
  | .starting => none
  | .timing before | .polling before _ | .looking before _ => some before

/-- `cur is not None and (before is None or cur > before + 0.05)`. -/
def counts (before cur : Option Time) : Bool :=
  match cur, before with
  | none, _ => false
  | some _, none => true
  | some cur, some before => before + second / 20 < cur

/-- A feedback, with the goals that ran when the goal was published and those that have begun since. -/
structure Verdict where
  feedback : Feedback
  known : List Nat
  begun : List Nat

/-- `move_base`, its status messages under way, and the adapter. -/
structure Confirming where
  goals : StatusList
  transit : List StatusList
  marker : Option Time
  handling : Option (Command × Wait)
  known : List Nat
  begun : List Nat
  sent : List Verdict

/-- What can happen: a goal takes on a state, `move_base` reports its goals, a message is lost, the callback
takes one, the adapter starts a patrol that it has checked, or takes a step of the wait. -/
inductive ConfirmingEvent where
  | goal (goal : Nat) (status : GoalStatus)
  | report
  | lose
  | status (now : Time)
  | start (command : Command)
  | turn (now : Time)

namespace Confirming

/-- No goal, and no patrol. -/
def initial : Confirming where
  goals := []
  transit := []
  marker := none
  handling := none
  known := []
  begun := []
  sent := []

/-- The feedback of a stage is sent. -/
def send (w : Confirming) (m : Move) : Confirming :=
  { w with sent := w.sent ++ m.feedback.toList.map fun feedback => { feedback, known := w.known, begun := w.begun } }

/-- A goal takes on a state; it begins to run if it did not run before. -/
def setGoal (w : Confirming) (goal : Nat) (status : GoalStatus) : Confirming :=
  { w with goals := w.goals.put goal status
           begun := if status.runs && !w.goals.running.contains goal then w.begun ++ [goal] else w.begun }

/-- `_on_mb_status`. -/
def onMbStatus (w : Confirming) (msg : StatusList) (now : Time) : Confirming :=
  if msg.any fun g => g.2.runs then { w with marker := some now } else w

/-- From the publication of the goal to `ACCEPTED`. -/
def start (w : Confirming) (c : Command) : Confirming :=
  let m := advance c .checking true
  match m.next with
  | some _ => { w.send m with handling := some (c, .starting), known := w.goals.running, begun := [] }
  | none => w.send m

/-- The wait ends, and its outcome is reported. -/
def finish (w : Confirming) (c : Command) (ok : Bool) : Confirming :=
  { w.send (advance c .observing ok) with handling := none }

/-- A step of the wait. -/
def turn (w : Confirming) (c : Command) (now : Time) : Wait → Confirming
  | .starting => { w with handling := some (c, .timing w.marker) }
  | .timing before => { w with handling := some (c, .polling before (now + 2 * second)) }
  | .polling before deadline =>
    if now < deadline then { w with handling := some (c, .looking before deadline) } else w.finish c false
  | .looking before deadline =>
    if counts before w.marker then w.finish c true
    else { w with handling := some (c, .polling before deadline) }

/-- What happens. -/
def step (w : Confirming) : ConfirmingEvent → Confirming
  | .goal goal status => w.setGoal goal status
  | .report => { w with transit := w.transit ++ [w.goals] }
  | .lose => { w with transit := w.transit.tail }
  | .status now =>
    match w.transit with
    | [] => w
    | msg :: transit => onMbStatus { w with transit } msg now
  | .start command =>
    match w.handling with
    | some _ => w
    | none => w.start command
  | .turn now =>
    match w.handling with
    | some (command, wait) => w.turn command now wait
    | none => w

/-- The system after a run. -/
abbrev run (w : Confirming) (events : List ConfirmingEvent) : Confirming := Runs.run step w events

end Confirming

/-! ## What is to hold -/

/-- Among the goals that have begun since the publication there is one that did not run then. -/
def Fresh (known begun : List Nat) : Prop := ∃ goal ∈ begun, goal ∉ known

/-- Execution is reported only once such a goal has begun. -/
def Confirming.Confirmed (w : Confirming) : Prop :=
  ∀ v ∈ w.sent, v.feedback.state = some .executing → Fresh v.known v.begun

/-- During a wait, no message with a running goal that counts is taken before a new goal has begun. -/
def Confirming.Awaited (w : Confirming) : ConfirmingEvent → Prop
  | .status now => ∀ command wait before, w.handling = some (command, wait) → wait.before = some before →
      (∃ msg ∈ w.transit.head?, (msg.any fun g => g.2.runs) = true) → counts before (some now) = true →
      Fresh w.known w.begun
  | _ => True

/-! ## The marker -/

theorem not_counts_self (marker : Option Time) : counts marker marker = false := by
  cases marker with
  | none => rfl
  | some t => exact decide_eq_false (Int.not_lt.mpr (Int.le_add_of_nonneg_right (by decide)))

theorem Fresh.grow {known begun : List Nat} (h : Fresh known begun) (more : List Nat) :
    Fresh known (begun ++ more) := by
  obtain ⟨goal, mem, new⟩ := h
  exact ⟨goal, List.mem_append_left _ mem, new⟩

/-- A marker that counts tells of a new goal, and so does every `EXECUTING` so far. -/
structure Marked (w : Confirming) : Prop where
  marker : ∀ command wait before, w.handling = some (command, wait) → wait.before = some before →
    counts before w.marker = true → Fresh w.known w.begun
  confirmed : w.Confirmed

section

variable {w : Confirming}

theorem Marked.initial : Marked .initial where
  marker := by intro command wait before handling; cases handling
  confirmed := by intro v sent; cases sent

/-- What is sent that reports no execution needs no new goal. -/
theorem Confirming.Confirmed.send (h : w.Confirmed) {m : Move}
    (tells : ∀ f ∈ m.feedback, f.state = some .executing → Fresh w.known w.begun) : (w.send m).Confirmed := by
  intro v sent
  rcases List.mem_append.mp sent with before | now
  · exact h v before
  · obtain ⟨f, mem, same⟩ := List.mem_map.mp now
    cases same
    exact tells f (Option.mem_toList.mp mem)

/-- A goal that takes on a state makes the list of those that have begun longer, at most. -/
theorem Marked.goal (h : Marked w) (goal : Nat) (status : GoalStatus) : Marked (w.setGoal goal status) where
  marker := by
    intro command wait before handling began newer
    have fresh := h.marker command wait before handling began newer
    show Fresh w.known (if _ then w.begun ++ [goal] else w.begun)
    split
    · exact fresh.grow [goal]
    · exact fresh
  confirmed := h.confirmed

/-- The callback sets the marker during a wait only once a new goal has begun, or to no effect. -/
theorem Marked.status (h : Marked w) {now : Time} (ok : w.Awaited (.status now)) :
    Marked (w.step (.status now)) := by
  show Marked (match w.transit with
    | [] => w
    | msg :: transit => Confirming.onMbStatus { w with transit } msg now)
  cases taken : w.transit with
  | nil => exact h
  | cons msg transit =>
    show Marked (Confirming.onMbStatus { w with transit } msg now)
    unfold Confirming.onMbStatus
    split
    next runs =>
      refine ⟨?_, h.confirmed⟩
      intro command wait before handling began newer
      exact ok command wait before handling began ⟨msg, by rw [taken]; rfl, runs⟩ newer
    · exact ⟨h.marker, h.confirmed⟩

/-- A patrol starts with an acceptance, or with a rejection or nothing. -/
theorem start_not_executing (c : Command) :
    ∀ f ∈ (advance c .checking true).feedback, f.state ≠ some .executing := by
  intro f sent
  simp only [advance, Bool.not_true, Bool.false_eq_true, if_false] at sent
  split at sent
  · cases sent
  · cases sent
    simp [reject, report]
  · cases sent
    simp [report]

theorem Marked.start (h : Marked w) (idle : w.handling = none) (c : Command) : Marked (w.start c) := by
  have confirmed : (w.send (advance c .checking true)).Confirmed :=
    h.confirmed.send fun f sent executing => absurd executing (start_not_executing c f sent)
  unfold Confirming.start
  dsimp only
  split
  · refine ⟨?_, confirmed⟩
    intro command wait before handling began
    cases handling
    cases began
  · refine ⟨?_, confirmed⟩
    intro command wait before handling
    cases idle.symm.trans handling

/-- The wait reports execution only where its marker counts. -/
theorem Marked.turn (h : Marked w) {c : Command} {wait : Wait} (handling : w.handling = some (c, wait))
    (now : Time) : Marked (w.turn c now wait) := by
  cases wait with
  | starting =>
    refine ⟨?_, h.confirmed⟩
    intro command wait before handling began newer
    cases handling
    cases began
    cases (not_counts_self w.marker).symm.trans newer
  | timing before =>
    refine ⟨?_, h.confirmed⟩
    intro command wait before' handling' began newer
    cases handling'
    cases began
    exact h.marker c _ before handling rfl newer
  | polling before deadline =>
    unfold Confirming.turn
    dsimp only
    split
    · refine ⟨?_, h.confirmed⟩
      intro command wait before' handling' began newer
      cases handling'
      cases began
      exact h.marker c _ before handling rfl newer
    · refine ⟨?_, h.confirmed.send ?_⟩
      · intro command wait before' handling'
        cases handling'
      · intro f sent executing
        cases sent
        cases executing
  | looking before deadline =>
    unfold Confirming.turn
    dsimp only
    split
    next newer =>
      refine ⟨?_, h.confirmed.send fun _ _ _ => h.marker c _ before handling rfl newer⟩
      intro command wait before' handling'
      cases handling'
    · refine ⟨?_, h.confirmed⟩
      intro command wait before' handling' began newer
      cases handling'
      cases began
      exact h.marker c _ before handling rfl newer

/-- Every step that awaits a new goal keeps the marker telling. -/
theorem Marked.step (h : Marked w) {e : ConfirmingEvent} (ok : w.Awaited e) : Marked (w.step e) := by
  cases e with
  | goal goal status => exact h.goal goal status
  | report => exact ⟨h.marker, h.confirmed⟩
  | lose => exact ⟨h.marker, h.confirmed⟩
  | status now => exact h.status ok
  | start command =>
    show Marked (match w.handling with
      | some _ => w
      | none => w.start command)
    cases idle : w.handling with
    | some _ => exact h
    | none => exact h.start idle command
  | turn now =>
    show Marked (match w.handling with
      | some (command, wait) => w.turn command now wait
      | none => w)
    cases handling : w.handling with
    | some handled => exact h.turn handling now
    | none => exact h

end

/-- Where no message that counts is taken before a new goal has begun, every `EXECUTING` is sent after one
has. -/
theorem execution_confirmed {events : List ConfirmingEvent}
    (awaited : Runs.Meets Confirming.step Confirming.Awaited .initial events) (before after : List ConfirmingEvent)
    (split : events = before ++ after) : (Confirming.initial.run before).Confirmed :=
  (Runs.states_of_meets (I := Marked) (fun _ _ h ok => h.step ok) Marked.initial awaited before after
    split).confirmed

/-- A patrol with a task and one waypoint. -/
def patrolOut : Command where
  schemaVersion := none
  messageId := none
  type := none
  vehicleId := none
  targetBootId := none
  commandId := some (.text "c1")
  correlationId := none
  issuedAt := none
  expiresAt := none
  ttlMs := none
  priority := none
  source := none
  operatorId := none
  cmd := some (.str "patrol")
  params := some (.object [.dict .null (some { x := 1, y := 0, theta := 0 })])
  taskId := some (.str "t1")

/-- A goal runs all along, and a new one begins before the messages of the wait. -/
def newGoal : List ConfirmingEvent :=
  [.goal 1 .active, .report, .status 0, .start patrolOut, .turn 100000, .turn 100000, .goal 2 .pending, .report,
    .status 200000, .turn 300000, .turn 300000]

theorem new_goal_confirmed : (Confirming.initial.run newGoal).Confirmed := by
  refine execution_confirmed ?_ newGoal [] (List.append_nil _).symm
  refine ⟨trivial, trivial, ?_, trivial, trivial, trivial, trivial, trivial, ?_, trivial, trivial, trivial⟩
  · intro command wait before handling
    cases handling
  · intro command wait before handling began runs newer
    exact ⟨2, by decide +kernel, by decide +kernel⟩

/-- A goal runs all along, and is reported before and after the patrol's own goal is published. -/
def oldGoal : List ConfirmingEvent :=
  [.goal 1 .active, .report, .status 0, .start patrolOut, .turn 100000, .turn 100000, .report, .status 200000,
    .turn 300000, .turn 300000]

/-- `EXECUTING` is sent, and no goal has begun. -/
theorem old_goal_confirms : ¬ (Confirming.initial.run oldGoal).Confirmed := by
  intro confirmed
  have executing : (Confirming.initial.run oldGoal).sent.any
      (fun v => decide (v.feedback.state = some .executing) && v.begun.isEmpty) = true := by decide +kernel
  obtain ⟨v, sent, both⟩ := List.any_eq_true.mp executing
  obtain ⟨state, none⟩ := Bool.and_eq_true_iff.mp both
  obtain ⟨goal, mem, _⟩ := confirmed v sent (of_decide_eq_true state)
  rw [List.isEmpty_iff.mp none] at mem
  cases mem

end Firebot.Vehicle
