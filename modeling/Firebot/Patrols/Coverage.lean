import Mathlib.Logic.Function.Iterate
import Firebot.Lib.Run
import Firebot.Patrols.Route
import Firebot.Tasks.Report

/-!
# What a patrol covers over its resumptions

A vehicle drives the trajectory that it was sent, waypoint by waypoint, and reports the indices of *that*
trajectory. When the patrol is cancelled, the index of the waypoint that the vehicle was on its way to becomes
the cursor, and a resumption sends the waypoints of the *plan* from this index on, behind a point at the
vehicle's pose. The two agree while the leg that is cancelled is the whole plan and the vehicle is under way: a
later leg is shorter and has another first point, and a vehicle that dwells at a waypoint reports it as its
target. **Resumed patrols cover the plan exactly once where every resumption is in order**
(`resumed_patrols_cover_iff`).

The patrol is cancelled between two moves of the vehicle.
-/

namespace Firebot.Patrols

open Firebot.Tasks (RouteCursor Task TaskStatus)

variable {F : Type} [RouteFloat F]

/-! ## The vehicle -/

/-- The indices that a `task_status` message carries. -/
structure RouteReport where
  waypointIndex : Option Nat
  targetWaypointIndex : Option Nat
  deriving DecidableEq

/-- The mission of a vehicle: `active_execution`, the waypoints that `simulate_task` goes through, the
messages that it has sent, and the INSPECTION waypoints that it has completed. -/
structure Execution (F : Type) where
  waypoints : List (Waypoint F)
  targetWaypointIndex : Option Nat
  lastCompletedWaypointIndex : Option Nat
  emitted : List RouteReport
  inspected : List (Waypoint F)

/-- `_cruise_waypoints` of a patrol: the points with coordinates. -/
def cruiseWaypoints (trajectory : List (Waypoint F)) : List (Waypoint F) :=
  trajectory.filter fun point => point.x.isSome && point.y.isSome

namespace Execution

/-- The mission is accepted. -/
def accept (trajectory : List (Waypoint F)) : Execution F where
  waypoints := cruiseWaypoints trajectory
  targetWaypointIndex := none
  lastCompletedWaypointIndex := none
  emitted := [⟨none, none⟩]
  inspected := []

variable (e : Execution F)

/-- How many waypoints the vehicle has completed. -/
def arrivals : Nat := e.lastCompletedWaypointIndex.elim 0 (· + 1)

/-- The vehicle makes for the next waypoint, if there is one. -/
def depart : Execution F :=
  if e.arrivals < e.waypoints.length then { e with targetWaypointIndex := some e.arrivals } else e

/-- The vehicle arrives at a waypoint. One to be inspected is reported. -/
def arrive (i : Nat) (waypoint : Waypoint F) : Execution F :=
  if waypoint.kind = .inspection then
    { e with
      lastCompletedWaypointIndex := some i
      emitted := e.emitted ++ [⟨some i, some i⟩]
      inspected := e.inspected ++ [waypoint] }
  else { e with lastCompletedWaypointIndex := some i }

/-- One move of `simulate_task`. -/
def advance : Execution F :=
  match e.targetWaypointIndex with
  | none => e.depart
  | some i =>
    if e.lastCompletedWaypointIndex = some i then e.depart
    else (e.waypoints[i]?).elim e (e.arrive i)

/-- The vehicle has completed every waypoint, and reports the mission as completed. -/
def Finished : Prop := e.arrivals = e.waypoints.length

/-- The messages with the one that a cancellation or an emergency stop adds. -/
def cancelled : List RouteReport :=
  e.emitted ++ [⟨e.lastCompletedWaypointIndex, e.targetWaypointIndex⟩]

/-- What the vehicle has still to inspect. -/
def left : List (Waypoint F) := inspections (e.waypoints.drop e.arrivals)

end Execution

/-- The mission after a number of moves. -/
def drive (trajectory : List (Waypoint F)) (moves : Nat) : Execution F :=
  Execution.advance^[moves] (.accept trajectory)

/-- What holds of a mission at any moment: the vehicle is under way to the next waypoint, or at the last one
that it has completed. -/
structure Execution.Sound (e : Execution F) : Prop where
  inspected : e.inspected = inspections (e.waypoints.take e.arrivals)
  arrivals : e.arrivals ≤ e.waypoints.length
  target : ∀ i, e.targetWaypointIndex = some i →
    i < e.waypoints.length ∧ (i = e.arrivals ∨ i + 1 = e.arrivals)
  begun : e.targetWaypointIndex = none → e.arrivals = 0

namespace Execution

variable {e : Execution F}

omit [RouteFloat F] in
/-- An accepted route has visited nothing. -/
theorem sound_accept (trajectory : List (Waypoint F)) : (accept trajectory).Sound where
  inspected := by simp [accept, arrivals, inspections_nil]
  arrivals := Nat.zero_le _
  target i found := by cases found
  begun _ := rfl

omit [RouteFloat F] in
/-- Leaving for the next waypoint. -/
theorem Sound.depart (h : e.Sound) : e.depart.Sound := by
  unfold Execution.depart
  split
  · next more =>
    refine ⟨h.inspected, h.arrivals, ?_, ?_⟩
    · intro i found
      cases found
      exact ⟨more, .inl rfl⟩
    · intro none_
      cases none_
  · exact h

omit [RouteFloat F] in
/-- What an arrival changes, whatever the kind of the waypoint. -/
theorem arrive_spec (e : Execution F) (i : Nat) (waypoint : Waypoint F) :
    (e.arrive i waypoint).waypoints = e.waypoints ∧
      (e.arrive i waypoint).targetWaypointIndex = e.targetWaypointIndex ∧
      (e.arrive i waypoint).arrivals = i + 1 ∧
      (e.arrive i waypoint).inspected = e.inspected ++ inspections [waypoint] := by
  unfold arrive
  by_cases kind : waypoint.kind = .inspection
  · rw [if_pos kind]
    exact ⟨rfl, rfl, rfl, by simp [inspections, kind]⟩
  · rw [if_neg kind]
    exact ⟨rfl, rfl, rfl, by simp [inspections, kind]⟩

omit [RouteFloat F] in
/-- Arriving at the waypoint that was driven to, with all before it visited. -/
theorem Sound.arrive (h : e.Sound) {i : Nat} {waypoint : Waypoint F}
    (target : e.targetWaypointIndex = some i) (next : i = e.arrivals)
    (found : e.waypoints[i]? = some waypoint) : (e.arrive i waypoint).Sound := by
  obtain ⟨waypoints, same, arrived, inspected⟩ := arrive_spec e i waypoint
  obtain ⟨inside, _⟩ := h.target i target
  refine ⟨?_, ?_, ?_, ?_⟩
  · rw [inspected, arrived, waypoints, h.inspected, ← next, List.take_add_one, found, inspections_append]
    rfl
  · rw [arrived, waypoints]
    exact inside
  · intro j found'
    rw [same, target] at found'
    cases found'
    rw [arrived, waypoints]
    exact ⟨inside, .inr rfl⟩
  · intro none_
    rw [same, target] at none_
    cases none_

omit [RouteFloat F] in
/-- A vehicle whose target is not the waypoint that it has completed last is under way to it. -/
theorem Sound.underWay (h : e.Sound) {i : Nat} (target : e.targetWaypointIndex = some i)
    (open_ : e.lastCompletedWaypointIndex ≠ some i) : i = e.arrivals := by
  rcases (h.target i target).2 with next | done
  · exact next
  · refine absurd ?_ open_
    unfold Execution.arrivals at done
    cases last : e.lastCompletedWaypointIndex with
    | none =>
      rw [last] at done
      exact absurd done (Nat.succ_ne_zero i)
    | some j =>
      rw [last] at done
      exact congrArg some (Nat.succ.inj done).symm

omit [RouteFloat F] in
/-- One move of the robot. -/
theorem Sound.advance (h : e.Sound) : e.advance.Sound := by
  unfold Execution.advance
  cases target : e.targetWaypointIndex with
  | none => exact h.depart
  | some i =>
    dsimp only
    by_cases completed : e.lastCompletedWaypointIndex = some i
    · rw [if_pos completed]
      exact h.depart
    · rw [if_neg completed]
      cases found : e.waypoints[i]? with
      | none => exact h
      | some waypoint => exact h.arrive target (h.underWay target completed) found

omit [RouteFloat F] in
/-- A sound mission has inspected some of its waypoints, and has the rest left. -/
theorem Sound.split (h : e.Sound) : e.inspected ++ e.left = inspections e.waypoints := by
  rw [h.inspected, left, ← inspections_append, List.take_append_drop]

end Execution

section

omit [RouteFloat F]

variable (trajectory : List (Waypoint F))

/-- One move more. -/
theorem drive_succ (moves : Nat) :
    drive trajectory (moves + 1) = (drive trajectory moves).advance :=
  Function.iterate_succ_apply' ..

/-- However far the robot has driven, it has visited the waypoints in order. -/
theorem sound_drive (moves : Nat) : (drive trajectory moves).Sound := by
  induction moves with
  | zero => exact Execution.sound_accept trajectory
  | succ moves ih =>
    rw [drive_succ]
    exact ih.advance

/-- A move leaves the route. -/
theorem advance_waypoints (e : Execution F) : e.advance.waypoints = e.waypoints := by
  unfold Execution.advance Execution.depart
  cases e.targetWaypointIndex with
  | none =>
    dsimp only
    split <;> rfl
  | some i =>
    dsimp only
    split
    · split <;> rfl
    · cases e.waypoints[i]? with
      | none => rfl
      | some waypoint => exact (Execution.arrive_spec e i waypoint).1

/-- So does the whole drive. -/
@[simp] theorem drive_waypoints (moves : Nat) :
    (drive trajectory moves).waypoints = cruiseWaypoints trajectory := by
  induction moves with
  | zero => rfl
  | succ moves ih => rw [drive_succ, advance_waypoints, ih]

/-- What a vehicle has inspected and what it has left make up the trajectory. -/
theorem drive_split (moves : Nat) : (drive trajectory moves).inspected ++
    (drive trajectory moves).left = inspections (cruiseWaypoints trajectory) := by
  rw [(sound_drive trajectory moves).split, drive_waypoints]

end

section

omit [RouteFloat F]

variable {e : Execution F}

/-- How far the vehicle has come: departures and arrivals. -/
def Execution.progress (e : Execution F) : Nat :=
  e.targetWaypointIndex.elim 0 (· + 1) + e.arrivals

/-- A mission that is not finished goes on with every move. -/
theorem Execution.Sound.goes (h : e.Sound) (more : e.arrivals < e.waypoints.length) :
    e.advance.progress = e.progress + 1 := by
  unfold Execution.advance Execution.depart
  rw [if_pos more]
  cases target : e.targetWaypointIndex with
  | none =>
    have start := h.begun target
    simp [Execution.progress, target, Execution.arrivals] at start ⊢
    omega
  | some i =>
    dsimp only
    by_cases completed : e.lastCompletedWaypointIndex = some i
    · rw [if_pos completed]
      simp [Execution.progress, target, Execution.arrivals, completed]
      omega
    · rw [if_neg completed]
      have next := h.underWay target completed
      have inside := (h.target i target).1
      obtain ⟨-, same, arrived, -⟩ := Execution.arrive_spec e i e.waypoints[i]
      rw [List.getElem?_eq_getElem inside]
      simp only [Option.elim_some, Execution.progress, same, arrived, target]
      omega

/-- A vehicle does not go back. -/
theorem Execution.Sound.arrivals_le (h : e.Sound) : e.arrivals ≤ e.advance.arrivals := by
  unfold Execution.advance Execution.depart
  cases target : e.targetWaypointIndex with
  | none =>
    dsimp only
    split <;> exact le_rfl
  | some i =>
    dsimp only
    by_cases completed : e.lastCompletedWaypointIndex = some i
    · rw [if_pos completed]
      split <;> exact le_rfl
    · rw [if_neg completed]
      cases e.waypoints[i]? with
      | none => exact le_rfl
      | some waypoint =>
        rw [Option.elim_some, (Execution.arrive_spec e i waypoint).2.2.1, h.underWay target completed]
        exact Nat.le_succ _

variable (trajectory : List (Waypoint F))

/-- A mission that is not finished has come as far as it has moved. -/
theorem drive_progress (moves : Nat)
    (more : (drive trajectory moves).arrivals < (cruiseWaypoints trajectory).length) :
    (drive trajectory moves).progress = moves := by
  induction moves with
  | zero => rfl
  | succ moves ih =>
    rw [drive_succ] at more ⊢
    have sound := sound_drive trajectory moves
    have before := lt_of_le_of_lt sound.arrivals_le more
    rw [sound.goes (by rwa [drive_waypoints]), ih before]

/-- **Every mission finishes**, unless it is cancelled. -/
theorem drive_finishes : (drive trajectory (2 * (cruiseWaypoints trajectory).length)).Finished := by
  have sound := sound_drive trajectory (2 * (cruiseWaypoints trajectory).length)
  refine le_antisymm sound.arrivals (not_lt.mp ?_)
  intro more
  have inside := sound.target
  rw [drive_waypoints] at more inside
  have progress := drive_progress trajectory _ more
  unfold Execution.progress at progress
  cases target : (drive trajectory (2 * (cruiseWaypoints trajectory).length)).targetWaypointIndex with
  | none =>
    rw [target, Option.elim_none] at progress
    omega
  | some i =>
    rw [target, Option.elim_some] at progress
    have bound := (inside i target).1
    omega

/-- A finished mission has inspected all that there is to inspect. -/
theorem inspected_of_finished {moves : Nat} (finished : (drive trajectory moves).Finished) :
    (drive trajectory moves).inspected = inspections (cruiseWaypoints trajectory) := by
  rw [(sound_drive trajectory moves).inspected, finished, List.take_length, drive_waypoints]

end

/-! ## The platform -/

/-- The indices of `parameters["live_route_cursor"]`. -/
structure Cursor where
  waypointIndex : Option Nat
  targetWaypointIndex : Option Nat
  deriving DecidableEq

/-- The cursor of `handle_task_status`: a message that carries an index replaces it. -/
def handleRoute (cursor : Option Cursor) (report : RouteReport) : Option Cursor :=
  if report.waypointIndex.isNone && report.targetWaypointIndex.isNone then cursor
  else some ⟨report.waypointIndex, report.targetWaypointIndex⟩

/-- The cursor of a patrol after its messages. -/
def liveRouteCursor (reports : List RouteReport) : Option Cursor := reports.foldl handleRoute none

/-- `route_cursor` of `build_resumed_patrol_task`. -/
def routeCursor (cursor : Option Cursor) : Option Int :=
  (cursor.bind fun c => c.targetWaypointIndex.orElse fun _ => c.waypointIndex).map (↑·)

/-! ### The same in a task's row -/

/-- An index as JSON. -/
def indexTree (index : Option Nat) : JsonTree := index.elim .null fun i => .int i

/-- An index is null in the report when there is none. -/
@[simp] theorem indexTree_isNull (index : Option Nat) : (indexTree index).isNull = index.isNone := by
  cases index <;> rfl

/-- The message carries the report. -/
def Carries (msg : TaskStatus) (report : RouteReport) : Prop :=
  msg.waypointIndex = indexTree report.waypointIndex ∧
    msg.targetWaypointIndex = indexTree report.targetWaypointIndex

/-- The row has the cursor. -/
def Holds (row : Option RouteCursor) (cursor : Option Cursor) : Prop :=
  row.map (fun c => (c.waypointIndex, c.targetWaypointIndex)) =
    cursor.map fun c => (indexTree c.waypointIndex, indexTree c.targetWaypointIndex)

/-- `handleRoute` is what a report does to the row. -/
theorem holds_reported {task : Task} {cursor : Option Cursor} {msg : TaskStatus} {report : RouteReport}
    (holds : Holds task.parameters.liveRouteCursor cursor) (carries : Carries msg report)
    (received : Time) :
    Holds (task.reported msg received).parameters.liveRouteCursor (handleRoute cursor report) := by
  rw [Task.reported_liveRouteCursor]
  obtain ⟨index, target⟩ := carries
  unfold Task.located handleRoute
  simp only [index, target, indexTree_isNull]
  split
  · exact holds
  · rfl

/-! ## The chain -/

/-- A cancellation and the resumption after it: how many moves the vehicle had made on the leg, and the pose
in its document when the patrol is resumed. -/
structure Stop (F : Type) where
  moves : Nat
  pose : CurrentPose F

/-- A patrol on its present leg: what was inspected on the legs before, and the trajectory that was sent. -/
structure Patrol (F : Type) where
  inspected : List (Waypoint F)
  trajectory : List (Waypoint F)

/-- A full patrol: `build_patrol_task` sends the trajectory of the plan. -/
def Patrol.full (full : List (Waypoint F)) : Patrol F where
  inspected := []
  trajectory := full

namespace Patrol

variable (p : Patrol F) (stop : Stop F)

/-- The mission when it is cancelled. -/
def cancelled : Execution F := drive p.trajectory stop.moves

/-- The cursor that the resumption reads. -/
def cursor : Option Int := routeCursor (liveRouteCursor (p.cancelled stop).cancelled)

/-- `build_resumed_patrol_task`; `none` where the builder raises. -/
def resume (full : List (Waypoint F)) : Option (Patrol F) :=
  (buildResumedCruiseWaypoints stop.pose full (p.cursor stop)).map fun resumed =>
    { inspected := p.inspected ++ (p.cancelled stop).inspected, trajectory := resumed }

end Patrol

/-- The patrol after a chain of cancellations and resumptions. -/
def chain (full : List (Waypoint F)) (stops : List (Stop F)) : Option (Patrol F) :=
  stops.foldlM (fun p stop => p.resume stop full) (.full full)

/-- Once the leg is completed, the INSPECTION waypoints of the plan have been completed in their order. -/
def Covers (full : List (Waypoint F)) (p : Patrol F) : Prop :=
  ∀ moves, (drive p.trajectory moves).Finished →
    p.inspected ++ (drive p.trajectory moves).inspected = inspections full

/-- The waypoints to inspect have coordinates. -/
def Located (full : List (Waypoint F)) : Prop :=
  ∀ waypoint ∈ inspections full, waypoint.x.isSome ∧ waypoint.y.isSome

/-- The plan has the same waypoints to inspect from the cursor on as the vehicle has left. -/
def InOrder (full : List (Waypoint F)) (p : Patrol F) (stop : Stop F) : Prop :=
  ∀ target, routeTarget stop.pose full (p.cursor stop) = some target →
    inspections (remaining full target) = (p.cancelled stop).left

/-! ## One resumption -/

section

omit [RouteFloat F]

/-- Whether a leg covers the plan is a matter of what was sent. -/
theorem covers_iff {full : List (Waypoint F)} {p : Patrol F} :
    Covers full p ↔ p.inspected ++ inspections (cruiseWaypoints p.trajectory) = inspections full := by
  constructor
  · intro covers
    rw [← covers _ (drive_finishes p.trajectory), inspected_of_finished _ (drive_finishes p.trajectory)]
  · intro sent moves finished
    rw [inspected_of_finished _ finished, sent]

/-- The stops of the route driven are those of the route planned. -/
theorem inspections_cruise (waypoints : List (Waypoint F)) :
    inspections (cruiseWaypoints waypoints) = cruiseWaypoints (inspections waypoints) :=
  List.filter_comm ..

/-- The vehicle leaves out a point without coordinates. -/
theorem cruise_eq_self_iff {waypoints : List (Waypoint F)} :
    cruiseWaypoints waypoints = waypoints ↔
      ∀ waypoint ∈ waypoints, waypoint.x.isSome ∧ waypoint.y.isSome := by
  simp [cruiseWaypoints, List.filter_eq_self]

/-- A full patrol covers its plan exactly if the waypoints to inspect have coordinates. -/
theorem covers_full_iff {full : List (Waypoint F)} : Covers full (.full full) ↔ Located full := by
  rw [covers_iff, Located, ← cruise_eq_self_iff, ← inspections_cruise]
  exact Iff.rfl

/-- The plan from some waypoint on has nothing to inspect that it lacks. -/
theorem cruise_remaining {full : List (Waypoint F)} (located : Located full) (target : Int) :
    inspections (cruiseWaypoints (remaining full target)) = inspections (remaining full target) := by
  rw [inspections_cruise, cruise_eq_self_iff]
  intro waypoint mem
  refine located waypoint ?_
  exact (((List.drop_sublist _ full).filter _).subset mem)

end

/-- A resumed trajectory is the plan from the target on, with nothing more to inspect. -/
theorem inspections_resumed {full resumed : List (Waypoint F)} {pose : CurrentPose F} {cursor : Option Int}
    (built : buildResumedCruiseWaypoints pose full cursor = some resumed) :
    ∃ target, routeTarget pose full cursor = some target ∧
      inspections (cruiseWaypoints resumed) = inspections (cruiseWaypoints (remaining full target)) := by
  unfold buildResumedCruiseWaypoints at built
  obtain ⟨target, found, built⟩ := Option.bind_eq_some_iff.mp built
  refine ⟨target, found, ?_⟩
  have behind : ∀ waypoints : List (Waypoint F),
      inspections (cruiseWaypoints (pose.waypoint :: waypoints)) =
        inspections (cruiseWaypoints waypoints) := by
    intro waypoints
    rw [inspections_cruise, inspections_cruise, inspections_cons_of_ne (by simp [CurrentPose.waypoint])]
  cases rest : remaining full target with
  | nil =>
    rw [rest] at built
    cases built
    rw [behind]
    rfl
  | cons first rest' =>
    rw [rest] at built
    obtain ⟨x, _, built⟩ := Option.bind_eq_some_iff.mp built
    split at built
    · cases built
      exact behind _
    · obtain ⟨y, _, built⟩ := Option.bind_eq_some_iff.mp built
      split at built
      · cases built
        rfl
      · cases built
        exact behind _

/-- **A resumption of a leg that covers the plan** covers it exactly if it is in order. -/
theorem resume_covers_iff {full : List (Waypoint F)} {p p' : Patrol F} {stop : Stop F}
    (located : Located full) (covers : Covers full p) (resumed : p.resume stop full = some p') :
    Covers full p' ↔ InOrder full p stop := by
  obtain ⟨trajectory, built, rfl⟩ := Option.map_eq_some_iff.mp resumed
  obtain ⟨target, found, sent⟩ := inspections_resumed built
  rw [covers_iff] at covers ⊢
  rw [← drive_split p.trajectory stop.moves, ← List.append_assoc] at covers
  dsimp only
  rw [sent, cruise_remaining located, ← covers]
  unfold InOrder Patrol.cancelled
  rw [List.append_right_inj]
  constructor
  · intro same target' found'
    cases found.symm.trans found'
    exact same
  · intro ordered
    exact ordered target found

/-! ## The chain -/

/-- One more interruption at the end of a chain. -/
theorem chain_concat (full : List (Waypoint F)) (before : List (Stop F)) (stop : Stop F) :
    chain full (before ++ [stop]) = (chain full before).bind fun p => p.resume stop full := by
  unfold chain
  rw [List.foldlM_append]
  simp only [List.foldlM_cons, List.foldlM_nil, bind_pure]
  rfl

/-! ## What being in order comes to -/

/-- The vehicle is on its way to the waypoint after those that it has completed. -/
def Execution.UnderWay (e : Execution F) : Prop := e.targetWaypointIndex = some e.arrivals

/-- The plan has nothing to inspect from one index to another. -/
def NothingBetween (full : List (Waypoint F)) (a b : Nat) : Prop :=
  ∀ i waypoint, a ≤ i → i < b → full[i]? = some waypoint → waypoint.kind ≠ .inspection

section

variable {full : List (Waypoint F)} {p : Patrol F} {stop : Stop F}

omit [RouteFloat F] in
/-- The resumption reads the target that the vehicle reports last. -/
theorem cursor_of_target {i : Nat} (target : (p.cancelled stop).targetWaypointIndex = some i) :
    p.cursor stop = some i := by
  unfold Patrol.cursor liveRouteCursor Execution.cancelled
  rw [List.foldl_append, target]
  simp [handleRoute, routeCursor]

omit [RouteFloat F] in
/-- The rest of a route from an index inside it. -/
theorem remaining_natCast {i : Nat} (inside : i < full.length) : remaining full i = full.drop i := by
  unfold remaining sliceFrom
  rw [min_eq_left (by omega), if_neg (by omega), Int.toNat_natCast]

omit [RouteFloat F] in
/-- Two rests have the same stops when nothing is inspected between them. -/
theorem inspections_drop_eq_iff {a b : Nat} (le : a ≤ b) :
    inspections (full.drop a) = inspections (full.drop b) ↔ NothingBetween full a b := by
  have split : full.drop a = (full.drop a).take (b - a) ++ full.drop b := by
    rw [show full.drop b = (full.drop a).drop (b - a) by rw [List.drop_drop]; congr 1; omega,
      List.take_append_drop]
  rw [split, inspections_append, List.append_left_eq_self]
  unfold inspections NothingBetween
  rw [List.filter_eq_nil_iff]
  constructor
  · intro nothing i waypoint from_ until_ found
    refine of_decide_eq_false (Bool.eq_false_iff.mpr (nothing waypoint ?_))
    refine List.mem_of_getElem? (i := i - a) ?_
    rw [List.getElem?_take_of_lt (by omega), List.getElem?_drop, show a + (i - a) = i by omega, found]
  · intro nothing waypoint mem
    obtain ⟨i, found⟩ := List.mem_iff_getElem?.mp mem
    have bound : i < b - a := by
      by_contra beyond
      rw [List.getElem?_take_eq_none (by omega)] at found
      cases found
    rw [List.getElem?_take_of_lt bound, List.getElem?_drop] at found
    simpa using nothing (a + i) waypoint (by omega) (by omega) found

variable (whole : ∀ waypoint ∈ full, waypoint.x.isSome ∧ waypoint.y.isSome)

include whole

/-- **A first resumption is in order** if the vehicle was under way when the patrol was cancelled. -/
theorem first_resume_in_order (underWay : ((Patrol.full full).cancelled stop).UnderWay) :
    InOrder full (.full full) stop := by
  intro target found
  have sound := sound_drive full stop.moves
  have inside := (sound.target _ underWay).1
  rw [drive_waypoints, cruise_eq_self_iff.mpr whole] at inside
  rw [cursor_of_target underWay] at found
  cases found
  unfold Execution.left Patrol.cancelled
  rw [drive_waypoints, show (Patrol.full full).trajectory = full from rfl, cruise_eq_self_iff.mpr whole]
  exact congrArg inspections (remaining_natCast inside)

/-- **A later resumption is in order** only if the plan has nothing to inspect between the index in the
trajectory that was sent and the index of the same waypoint in the plan. The leg goes from the vehicle's pose
to the `k`-th waypoint of the plan and on, and the vehicle is under way to waypoint `i + 1` of the leg. -/
theorem later_resume_in_order_iff {pose : CurrentPose F} {k i : Nat} (later : 0 < k)
    (sent : p.trajectory = pose.waypoint :: full.drop k)
    (target : (p.cancelled stop).targetWaypointIndex = some (i + 1))
    (underWay : (p.cancelled stop).UnderWay) :
    InOrder full p stop ↔ NothingBetween full (i + 1) (k + i) := by
  have cruise : cruiseWaypoints p.trajectory = p.trajectory := by
    rw [cruise_eq_self_iff, sent]
    intro waypoint mem
    rcases List.mem_cons.mp mem with rfl | mem
    · exact ⟨rfl, rfl⟩
    · exact whole waypoint (List.mem_of_mem_drop mem)
  have arrived : (p.cancelled stop).arrivals = i + 1 := Option.some.inj (underWay.symm.trans target)
  have inside := ((sound_drive p.trajectory stop.moves).target _ target).1
  rw [drive_waypoints, cruise, sent, List.length_cons, List.length_drop] at inside
  have left : (p.cancelled stop).left = inspections (full.drop (k + i)) := by
    unfold Execution.left Patrol.cancelled at *
    rw [drive_waypoints, cruise, arrived, sent, List.drop_succ_cons, List.drop_drop]
  rw [← inspections_drop_eq_iff (by omega), ← left, ← remaining_natCast (by omega)]
  unfold InOrder
  rw [cursor_of_target target]
  constructor
  · intro ordered
    exact ordered _ rfl
  · rintro same _ ⟨⟩
    exact same

end

/-- For a plan whose waypoints have coordinates: a first resumption of a vehicle under way is in order, and a later
one only if the plan has nothing to inspect between the reported index and that of the same waypoint in the plan. -/
structure Orders (full : List (Waypoint F)) : Prop where
  first : ∀ stop, ((Patrol.full full).cancelled stop).UnderWay → InOrder full (.full full) stop
  later : ∀ (p : Patrol F) (stop : Stop F) (pose : CurrentPose F) (k i : Nat), 0 < k →
    p.trajectory = pose.waypoint :: full.drop k → (p.cancelled stop).targetWaypointIndex = some (i + 1) →
    (p.cancelled stop).UnderWay → (InOrder full p stop ↔ NothingBetween full (i + 1) (k + i))

/-- Every plan whose waypoints have coordinates is driven, left and resumed in order. -/
theorem orders {full : List (Waypoint F)} (whole : ∀ waypoint ∈ full, waypoint.x.isSome ∧ waypoint.y.isSome) :
    Orders full where
  first _ underWay := first_resume_in_order whole underWay
  later _ _ _ _ _ later sent target underWay := later_resume_in_order_iff whole later sent target underWay

/-! ## Every chain of resumptions -/

/-- **Resumed patrols cover the plan exactly once where every resumption is in order**: at every point of a
chain of cancellations and resumptions, the leg that is then completed leaves the INSPECTION waypoints of the
plan completed in their order. The cursor of the chain is the one that the reports leave in the task's row. -/
theorem resumed_patrols_cover_iff (full : List (Waypoint F)) (stops : List (Stop F)) :
    ((∀ before after p, stops = before ++ after → chain full before = some p → Covers full p) ↔
      Located full ∧ ∀ before stop after p, stops = before ++ stop :: after →
        chain full before = some p → (p.resume stop full).isSome → InOrder full p stop) ∧
    ((∀ waypoint ∈ full, waypoint.x.isSome ∧ waypoint.y.isSome) → Orders full) ∧
    ∀ (task : Task) (cursor : Option Cursor) (msg : TaskStatus) (report : RouteReport) (received : Time),
      Holds task.parameters.liveRouteCursor cursor → Carries msg report →
      Holds (task.reported msg received).parameters.liveRouteCursor (handleRoute cursor report) := by
  refine ⟨?_, orders, fun _ _ _ _ received holds carries => holds_reported holds carries received⟩
  constructor
  · intro covers
    have located : Located full := covers_full_iff.mp (covers [] stops _ rfl rfl)
    refine ⟨located, ?_⟩
    intro before stop after p split reached resumed
    obtain ⟨p', resumed⟩ := Option.isSome_iff_exists.mp resumed
    refine (resume_covers_iff located (covers before _ p split reached) resumed).mp ?_
    refine covers (before ++ [stop]) after p' (by rw [split]; simp) ?_
    rw [chain_concat, reached]
    exact resumed
  · rintro ⟨located, ordered⟩ before
    induction before using List.reverseRecOn with
    | nil =>
      intro after p _ reached
      cases reached
      exact covers_full_iff.mpr located
    | append_singleton before stop ih =>
      intro after p' split reached
      rw [chain_concat] at reached
      obtain ⟨p, reached, resumed⟩ := Option.bind_eq_some_iff.mp reached
      have split : stops = before ++ stop :: after := by rw [split]; simp
      refine (resume_covers_iff located (ih (stop :: after) p split reached) resumed).mpr ?_
      exact ordered before stop after p split reached (by rw [resumed]; rfl)

/-! ## A patrol that is resumed twice -/

namespace Example

/-- A waypoint at a place of the x-axis. -/
def point (x : ℚ) (kind : WaypointKind) (sequence : Option Int) : Waypoint ℚ where
  x := some x
  y := some 0
  kind := kind
  theta := none
  slotCode := none
  sequence := sequence

/-- Three slots behind the waiting area. -/
def plan : List (Waypoint ℚ) :=
  [point 0 .waiting none, point 1 .inspection (some 1), point 2 .inspection (some 2),
    point 3 .inspection (some 3)]

/-- The vehicle is stopped before the second slot, and then before the third. -/
def stops : List (Stop ℚ) :=
  [{ moves := 5, pose := { x := 3 / 2, y := 0, theta := 0 } },
    { moves := 5, pose := { x := 5 / 2, y := 0, theta := 0 } }]

end Example

/-- The second slot is inspected once more after the second resumption. -/
theorem second_resume_repeats :
    ¬ ∀ (full : List (Waypoint ℚ)) (stops : List (Stop ℚ)) (p : Patrol ℚ),
      chain full stops = some p → Covers full p := by
  intro covers
  have resumed : (chain Example.plan Example.stops).isSome := by decide +kernel
  obtain ⟨p, reached⟩ := Option.isSome_iff_exists.mp resumed
  have covered := covers_iff.mp (covers Example.plan Example.stops p reached)
  have repeated : (chain Example.plan Example.stops).all fun p =>
      p.inspected ++ inspections (cruiseWaypoints p.trajectory) ≠ inspections Example.plan := by
    decide +kernel
  rw [reached] at repeated
  simp [covered] at repeated

end Firebot.Patrols
