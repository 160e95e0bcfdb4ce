import Mathlib.Order.WithBot
import Firebot.Lib.Run
import Firebot.Lib.Table
import Firebot.Robots.Model

/-!
# The assignment of a robot

`PUT assignment/location` and `PUT assignment/capability` change the row of `robot_fleet_assignments` and
answer with its new revision; `GET assignment` reads it. Every request has a session of its own from `get_db`,
which closes it in the end. A session writes in a transaction (`Session.flush`); what was not committed when
it closes is rolled back (`Session.close`), and neither handler commits.

`Ledger` keeps beside the rows what they would be if every update that was answered with success were stored.
**The rows agree with it exactly as long as every update is refused** (`durable_iff`). Nothing is said of two
sessions that overlap.
-/

namespace Firebot.Robots.Assignments

/-! ## Rows -/

/-- A row of `robot_fleet_assignments`. -/
structure Assignment where
  profileId : String
  locationEnabled : Bool
  supportedCommands : List String
  deviceTokenHash : Option String
  revision : Int
  updatedAt : Time
  deriving DecidableEq

/-- A row of `robots`, as far as the assignment needs it. -/
structure AssignedRobot where
  id : String
  vehicleId : String
  bootId : Option String

/-- A row of `stop_operations`, as far as the assignment needs it. -/
structure StopEvidence where
  robotId : String
  stationaryConfirmed : Bool
  stationaryFrames : Nat
  terminalAt : Option Time
  bootIdSnapshot : Option String

/-- The rows. -/
structure Fleet where
  robots : List AssignedRobot
  stops : Table String StopEvidence
  assignments : Table String Assignment

/-! ## Sessions -/

/-- A session: what is committed, what its own transaction sees, and the assignments that its objects hold. -/
structure Session where
  committed : Fleet
  transaction : Fleet
  objects : Table String Assignment

namespace Session

/-- `SessionLocal()`. -/
def start (db : Fleet) : Session where
  committed := db
  transaction := db
  objects := ∅

/-- `db.get(RobotFleetAssignment, robot_id)`. -/
def assignment (s : Session) (robotId : String) : Option Assignment :=
  (s.objects.lookup robotId).or (s.transaction.assignments.lookup robotId)

/-- An object is changed. -/
def set (s : Session) (robotId : String) (a : Assignment) : Session :=
  { s with objects := s.objects.insert robotId a }

/-- `db.flush()`: the objects are written in the transaction. -/
def flush (s : Session) : Session :=
  { s with transaction := { s.transaction with assignments := s.objects ∪ s.transaction.assignments } }

/-- `db.close()`: what is not committed is rolled back. -/
def close (s : Session) : Fleet := s.committed

end Session

/-! ## Requests -/

/-- What a request is answered with. -/
inductive Answer where
  | location (revision : Int) (enabled : Bool)
  | capability (revision : Int) (commands : List String)
  | assignment (revision : Int) (enabled : Bool) (commands : List String)
  | refused (code : Nat)
  | failed
  deriving DecidableEq

/-- A request, with the device token in its header; `now` is the time at which the row is changed. -/
inductive Request where
  | setLocationEnabled (robotId token : String) (enabled : Bool) (now : Time)
  | setCapability (robotId token : String) (commands : List String) (now : Time)
  | robotAssignment (robotId : String)
  | robotAssignmentDevice (robotId token : String)

section

variable (sha256 : String → String) (s : Session)

/-- `find_robot`. -/
def findRobot (robotId : String) : Option AssignedRobot :=
  s.transaction.robots.find? fun r => r.id = robotId || r.vehicleId = robotId

/-- `_verify_device_token`. -/
def verifyDeviceToken (robot : AssignedRobot) (token : String) : Bool :=
  if token = "" then false
  else
    match s.assignment robot.id with
    | none => false
    | some a =>
      match a.deviceTokenHash with
      | none => false
      | some hash => hash ≠ "" && hash = sha256 token

/-- `_stop_field_verified`. -/
def stopFieldVerified (robot : AssignedRobot) : Bool :=
  match s.transaction.stops.newest
    (fun _ op => op.robotId = robot.id && op.stationaryConfirmed && 5 ≤ op.stationaryFrames)
    (fun op => (op.terminalAt : WithBot Time)) with
  | none => false
  | some (_, op) => op.bootIdSnapshot.any (· ≠ "") && op.bootIdSnapshot = robot.bootId

/-- `_bump_assignment`: a new object has no revision yet, and `None + 1` raises. -/
def bumpAssignment (robot : AssignedRobot) (now : Time) : Option (Assignment × Session) :=
  match s.assignment robot.id with
  | none => none
  | some a =>
    let a := { a with revision := a.revision + 1, updatedAt := now }
    some (a, (s.set robot.id a).flush)

/-- `set_location_enabled`. -/
def setLocationEnabled (robotId token : String) (enabled : Bool) (now : Time) : Answer × Session :=
  match findRobot s robotId with
  | none => (.refused 404, s)
  | some robot =>
    if !verifyDeviceToken sha256 s robot token then (.refused 401, s)
    else
      match bumpAssignment s robot now with
      | none => (.failed, s)
      | some (a, s) => (.location a.revision enabled, s.set robot.id { a with locationEnabled := enabled })

/-- `set_capability`. -/
def setCapability (robotId token : String) (commands : List String) (now : Time) : Answer × Session :=
  match findRobot s robotId with
  | none => (.refused 404, s)
  | some robot =>
    if !verifyDeviceToken sha256 s robot token then (.refused 401, s)
    else if commands.contains "patrol" && !stopFieldVerified s robot then (.refused 409, s)
    else
      match bumpAssignment s robot now with
      | none => (.failed, s)
      | some (a, s) =>
        (.capability a.revision commands, s.set robot.id { a with supportedCommands := commands })

/-- `build_robot_assignment`, as far as it reads the assignment. -/
def buildRobotAssignment (robot : AssignedRobot) : Answer :=
  match s.assignment robot.id with
  | some a => .assignment a.revision a.locationEnabled a.supportedCommands
  | none => .assignment 0 false []

/-- The handler of a request, in its session. -/
def handle : Request → Answer × Session
  | .setLocationEnabled robotId token enabled now => setLocationEnabled sha256 s robotId token enabled now
  | .setCapability robotId token commands now => setCapability sha256 s robotId token commands now
  | .robotAssignment robotId =>
    match findRobot s robotId with
    | none => (.refused 404, s)
    | some robot => (buildRobotAssignment s robot, s)
  | .robotAssignmentDevice robotId token =>
    match findRobot s robotId with
    | none => (.refused 404, s)
    | some robot =>
      if !verifyDeviceToken sha256 s robot token then (.refused 401, s) else (buildRobotAssignment s robot, s)

end

/-- A request: `get_db` opens a session and closes it when the handler is done. -/
def serve (sha256 : String → String) (db : Fleet) (r : Request) : Answer × Fleet :=
  let (answer, s) := handle sha256 (.start db) r
  (answer, s.close)

/-! ## What should be stored -/

/-- The revision that an update was answered with. -/
def Answer.updated : Answer → Option Int
  | .location revision _ | .capability revision _ => some revision
  | _ => none

/-- The row after an update that was answered so. -/
def Answer.applied : Answer → Assignment → Assignment
  | .location _ enabled, a => { a with revision := a.revision + 1, locationEnabled := enabled }
  | .capability _ commands, a => { a with revision := a.revision + 1, supportedCommands := commands }
  | _, a => a

/-- The robot that a request names. -/
def Request.robot (db : Fleet) : Request → Option AssignedRobot
  | .setLocationEnabled robotId _ _ _ | .setCapability robotId _ _ _ | .robotAssignment robotId
  | .robotAssignmentDevice robotId _ => findRobot (.start db) robotId

/-- What an update changes of a row and a read shows of it. -/
def Assignment.view (a : Assignment) : Int × Bool × List String :=
  (a.revision, a.locationEnabled, a.supportedCommands)

/-- What a read of a row answers. -/
def shown (row : Option Assignment) : Answer :=
  match row with
  | some a => .assignment a.revision a.locationEnabled a.supportedCommands
  | none => .assignment 0 false []

/-- The rows, what they would be if every update answered with success were stored, the revisions answered,
and each assignment read, with the one expected. -/
structure Ledger where
  db : Fleet
  expected : Table String Assignment
  returned : List (String × Int)
  reads : List (Answer × Answer)

namespace Ledger

variable (sha256 : String → String)

/-- Before any request. -/
def initial (db : Fleet) : Ledger where
  db := db
  expected := db.assignments
  returned := []
  reads := []

/-- The answer is taken down. -/
def note (w : Ledger) (robot : AssignedRobot) (answer : Answer) : Ledger :=
  match answer with
  | .location revision _ | .capability revision _ =>
    { w with expected := w.expected.modify robot.id answer.applied
             returned := w.returned ++ [(robot.id, revision)] }
  | .assignment _ _ _ => { w with reads := w.reads ++ [(answer, shown (w.expected.lookup robot.id))] }
  | .refused _ | .failed => w

/-- A request. -/
def step (w : Ledger) (r : Request) : Ledger :=
  let w' := { w with db := (serve sha256 w.db r).2 }
  match r.robot w.db with
  | some robot => w'.note robot (serve sha256 w.db r).1
  | none => w'

/-- The ledger after requests one after the other. -/
abbrev run (w : Ledger) (requests : List Request) : Ledger := Runs.run (step sha256) w requests

/-- The rows are as every successful update has left them, every read has shown them so, and the revisions
answered for a robot ascend. -/
structure Durable (w : Ledger) : Prop where
  stored : ∀ robotId,
    (w.db.assignments.lookup robotId).map Assignment.view = (w.expected.lookup robotId).map Assignment.view
  visible : ∀ r ∈ w.reads, r.1 = r.2
  ascending : ∀ robotId, ((w.returned.filter (·.1 = robotId)).map Prod.snd).Pairwise (· < ·)

/-- The request updates nothing: it is a read, or names no robot, or has no valid token, or asks for patrols
without the evidence of a stop. -/
def Refused (w : Ledger) : Request → Prop
  | .setLocationEnabled robotId token _ _ => ∀ robot, findRobot (.start w.db) robotId = some robot →
      verifyDeviceToken sha256 (.start w.db) robot token = false
  | .setCapability robotId token commands _ => ∀ robot, findRobot (.start w.db) robotId = some robot →
      verifyDeviceToken sha256 (.start w.db) robot token = false ∨
        (commands.contains "patrol" = true ∧ stopFieldVerified (.start w.db) robot = false)
  | .robotAssignment _ | .robotAssignmentDevice _ _ => True

end Ledger

/-! ## The handlers -/

section

variable {sha256 : String → String} {s : Session} {db : Fleet} {robot : AssignedRobot}

/-- A valid token belongs to a row. -/
theorem assignment_of_token {token : String} (valid : verifyDeviceToken sha256 s robot token = true) :
    ∃ a, s.assignment robot.id = some a := by
  unfold verifyDeviceToken at valid
  split at valid
  · cases valid
  · cases found : s.assignment robot.id with
    | some a => exact ⟨a, rfl⟩
    | none =>
      rw [found] at valid
      cases valid

theorem bumpAssignment_of_found {a : Assignment} (found : s.assignment robot.id = some a) (now : Time) :
    bumpAssignment s robot now =
      some ({ a with revision := a.revision + 1, updatedAt := now },
        (s.set robot.id { a with revision := a.revision + 1, updatedAt := now }).flush) := by
  unfold bumpAssignment
  rw [found]

/-- A fresh session has the rows that are stored. -/
theorem assignment_start (db : Fleet) (robotId : String) :
    (Session.start db).assignment robotId = db.assignments.lookup robotId := by
  unfold Session.assignment Session.start
  rw [AList.lookup_empty, Option.none_or]

/-- A handler commits nothing. -/
theorem handle_committed (s : Session) (r : Request) : (handle sha256 s r).2.committed = s.committed := by
  have bumped : ∀ {robot now b t}, bumpAssignment s robot now = some (b, t) → t.committed = s.committed := by
    intro robot now b t bumped
    unfold bumpAssignment at bumped
    split at bumped
    · cases bumped
    · cases bumped
      rfl
  cases r with
  | setLocationEnabled robotId token enabled now =>
    show (setLocationEnabled sha256 s robotId token enabled now).2.committed = _
    unfold setLocationEnabled
    split
    · rfl
    · split
      · rfl
      · split
        · rfl
        next b t same => exact (bumped same : t.committed = s.committed)
  | setCapability robotId token commands now =>
    show (setCapability sha256 s robotId token commands now).2.committed = _
    unfold setCapability
    split
    · rfl
    · split
      · rfl
      · split
        · rfl
        · split
          · rfl
          next b t same => exact (bumped same : t.committed = s.committed)
  | robotAssignment robotId =>
    unfold handle
    dsimp only
    split <;> rfl
  | robotAssignmentDevice robotId token =>
    unfold handle
    dsimp only
    split
    · rfl
    · split <;> rfl

/-- A request stores nothing. -/
theorem serve_db (db : Fleet) (r : Request) : (serve sha256 db r).2 = db := handle_committed (.start db) r

end

namespace Ledger

variable {sha256 : String → String} {w : Ledger}

/-- A refused request is answered with what is stored, or with a refusal. -/
theorem answer_of_refused {r : Request} (refused : w.Refused sha256 r) {robot : AssignedRobot}
    (named : r.robot w.db = some robot) :
    (serve sha256 w.db r).1 = shown (w.db.assignments.lookup robot.id) ∨
      ∃ code, (serve sha256 w.db r).1 = .refused code := by
  have read : buildRobotAssignment (.start w.db) robot = shown (w.db.assignments.lookup robot.id) := by
    unfold buildRobotAssignment
    rw [assignment_start]
    rfl
  cases r with
  | setLocationEnabled robotId token enabled now =>
    refine .inr ⟨401, ?_⟩
    show (setLocationEnabled sha256 (.start w.db) robotId token enabled now).1 = _
    unfold setLocationEnabled
    rw [show findRobot (.start w.db) robotId = some robot from named]
    dsimp only
    rw [refused robot named]
    rfl
  | setCapability robotId token commands now =>
    show _ ∨ ∃ code, (setCapability sha256 (.start w.db) robotId token commands now).1 = _
    unfold setCapability
    rw [show findRobot (.start w.db) robotId = some robot from named]
    dsimp only
    split
    · exact .inr ⟨401, rfl⟩
    next valid =>
      rcases refused robot named with invalid | ⟨patrol, unverified⟩
      · rw [invalid] at valid
        exact absurd rfl valid
      · rw [patrol, unverified]
        exact .inr ⟨409, rfl⟩
  | robotAssignment robotId =>
    refine .inl ?_
    show (handle sha256 (.start w.db) (.robotAssignment robotId)).1 = _
    unfold handle
    dsimp only
    rw [show findRobot (.start w.db) robotId = some robot from named]
    exact read
  | robotAssignmentDevice robotId token =>
    show (handle sha256 (.start w.db) (.robotAssignmentDevice robotId token)).1 = _ ∨
      ∃ code, (handle sha256 (.start w.db) (.robotAssignmentDevice robotId token)).1 = .refused code
    unfold handle
    dsimp only
    rw [show findRobot (.start w.db) robotId = some robot from named]
    dsimp only
    split
    · exact .inr ⟨401, rfl⟩
    · exact .inl read

/-- An update that is not refused is answered with the next revision of a row that is there. -/
theorem answer_of_granted {r : Request} (granted : ¬ w.Refused sha256 r) :
    ∃ robot a, r.robot w.db = some robot ∧ w.db.assignments.lookup robot.id = some a ∧
      ((∃ enabled, (serve sha256 w.db r).1 = .location (a.revision + 1) enabled) ∨
        ∃ commands, (serve sha256 w.db r).1 = .capability (a.revision + 1) commands) := by
  cases r with
  | setLocationEnabled robotId token enabled now =>
    unfold Refused at granted
    push Not at granted
    obtain ⟨robot, named, valid⟩ := granted
    have valid : verifyDeviceToken sha256 (.start w.db) robot token = true := by simpa using valid
    obtain ⟨a, found⟩ := assignment_of_token valid
    refine ⟨robot, a, named, by rw [← assignment_start]; exact found, .inl ⟨enabled, ?_⟩⟩
    show (setLocationEnabled sha256 (.start w.db) robotId token enabled now).1 = _
    unfold setLocationEnabled
    rw [named]
    dsimp only
    rw [valid, bumpAssignment_of_found found]
    rfl
  | setCapability robotId token commands now =>
    unfold Refused at granted
    push Not at granted
    obtain ⟨robot, named, valid, evident⟩ := granted
    have valid : verifyDeviceToken sha256 (.start w.db) robot token = true := by simpa using valid
    obtain ⟨a, found⟩ := assignment_of_token valid
    have passes : (commands.contains "patrol" && !stopFieldVerified (.start w.db) robot) = false := by
      cases patrol : commands.contains "patrol" with
      | false => rfl
      | true =>
        have := evident patrol
        simpa using this
    refine ⟨robot, a, named, by rw [← assignment_start]; exact found, .inr ⟨commands, ?_⟩⟩
    show (setCapability sha256 (.start w.db) robotId token commands now).1 = _
    unfold setCapability
    rw [named]
    dsimp only
    rw [valid, passes, bumpAssignment_of_found found]
    rfl
  | robotAssignment robotId => exact absurd trivial granted
  | robotAssignmentDevice robotId token => exact absurd trivial granted

/-- Nothing has been answered with success, and every read has shown what was stored. -/
structure Untouched (w : Ledger) : Prop where
  expected : w.expected = w.db.assignments
  returned : w.returned = []
  reads : ∀ r ∈ w.reads, r.1 = r.2

theorem Untouched.durable (h : w.Untouched) : w.Durable where
  stored robotId := by rw [h.expected]
  visible := h.reads
  ascending robotId := by
    rw [h.returned]
    exact .nil

/-- A refused request leaves everything as it is. -/
theorem Untouched.step (h : w.Untouched) {r : Request} (refused : w.Refused sha256 r) :
    (w.step sha256 r).Untouched := by
  unfold Ledger.step
  rw [serve_db]
  cases named : r.robot w.db with
  | none => exact h
  | some robot =>
    rcases answer_of_refused refused named with read | ⟨code, refusal⟩
    · have noted : Ledger.note { w with db := w.db } robot (serve sha256 w.db r).1 =
          { w with reads := w.reads ++
            [(shown (w.db.assignments.lookup robot.id), shown (w.expected.lookup robot.id))] } := by
        rw [read]
        unfold shown
        cases w.db.assignments.lookup robot.id <;> rfl
      show Untouched (Ledger.note { w with db := w.db } robot (serve sha256 w.db r).1)
      rw [noted]
      refine ⟨h.expected, h.returned, ?_⟩
      intro shown mem
      rcases List.mem_append.mp mem with before | now
      · exact h.reads shown before
      · rw [List.mem_singleton.mp now, h.expected]
    · show Untouched (Ledger.note { w with db := w.db } robot (serve sha256 w.db r).1)
      rw [refusal]
      exact h

/-- After an update with success the row that is stored is not the one expected. -/
theorem not_durable_of_granted (durable : w.Durable) {r : Request} (granted : ¬ w.Refused sha256 r) :
    ¬ (w.step sha256 r).Durable := by
  intro after
  obtain ⟨robot, a, named, found, success⟩ := answer_of_granted granted
  obtain ⟨f, counted, noted⟩ : ∃ f : Assignment → Assignment, (∀ b, (f b).revision = b.revision + 1) ∧
      (w.step sha256 r).expected = w.expected.modify robot.id f ∧ (w.step sha256 r).db = w.db := by
    unfold Ledger.step
    rw [serve_db, named]
    rcases success with ⟨enabled, answer⟩ | ⟨commands, answer⟩
    · rw [answer]
      exact ⟨_, fun _ => rfl, rfl, rfl⟩
    · rw [answer]
      exact ⟨_, fun _ => rfl, rfl, rfl⟩
  have before := durable.stored robot.id
  have stored := after.stored robot.id
  rw [noted.1, noted.2, Table.lookup_modify_self, before] at stored
  rw [found] at before
  cases expected : w.expected.lookup robot.id with
  | none =>
    rw [expected] at before
    cases before
  | some b =>
    rw [expected] at stored
    have same : b.revision = (f b).revision := congrArg Prod.fst (Option.some.inj stored)
    rw [counted] at same
    omega

end Ledger

/-- In every state of a run the rows are as the updates answered with success have left them, and every read
has shown them so, exactly if no update is answered with success. -/
theorem durable_iff (sha256 : String → String) (db : Fleet) (requests : List Request) :
    (∀ before after, requests = before ++ after → ((Ledger.initial db).run sha256 before).Durable) ↔
      Runs.Meets (Ledger.step sha256) (Ledger.Refused sha256) (Ledger.initial db) requests := by
  have start : (Ledger.initial db).Untouched := ⟨rfl, rfl, by intro r mem; cases mem⟩
  constructor
  · intro durable
    refine Runs.meets_iff.mpr ?_
    intro before r after split
    apply of_not_not
    intro granted
    apply Ledger.not_durable_of_granted (durable before (r :: after) split) granted
    have := durable (before ++ [r]) after (by rw [split, List.append_assoc]; rfl)
    rw [Ledger.run, Runs.run_append] at this
    exact this
  · intro met before after split
    exact (Runs.states_of_meets (I := Ledger.Untouched) (fun _ _ h refused => h.step refused) start met
      before after split).durable

/-! ## One update -/

/-- A robot whose token is `token`. -/
def oneRobot : Fleet where
  robots := [{ id := "1", vehicleId := "R1", bootId := none }]
  stops := ∅
  assignments := AList.insert "1"
    { profileId := "firebot_ros1_standard_v1", locationEnabled := false, supportedCommands := [],
      deviceTokenHash := some "token", revision := 3, updatedAt := 0 } ∅

/-- The location is enabled with success, and is not afterwards. -/
theorem enabling_not_stored :
    ¬ ((Ledger.initial oneRobot).run id [.setLocationEnabled "R1" "token" true 0]).Durable := by
  intro durable
  have stored := durable.stored "1"
  revert stored
  decide +kernel

end Firebot.Robots.Assignments
