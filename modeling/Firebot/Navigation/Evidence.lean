import Firebot.Lib.Streak
import Firebot.Navigation.Outcome
import Firebot.Navigation.Pose
import Firebot.Tasks.Activity

/-!
# The evidence behind a verified pose

The worker verifies the pose of a navigation once it has counted enough frames, one at a tick, from the
vehicle's document, and then writes the outcome to the newest command of the task. `Watch` runs the messages
of the vehicle, the requests, the reports and the ticks against one navigation, and keeps beside them the
messages that carried a pose, from which of them each frame was taken, and what became of the commands of the
task when it succeeded. The frames are `Evident` when they come from different messages, each good by itself,
with none out of the tolerances between them, and the outcome has gone to the command that started the
navigation.

A frame is not always evident: a tick counts the same message again, a message without a pose makes the
document look fresh, and a pose that is overwritten before the next tick is not seen at all. And the newest
command may be the one of a cancel or stop request. `Faithful` is the order of messages, requests and ticks in
which none of this happens.

**In such an order the checks that the worker makes on the document are checks of the messages**
(`verification_evidence`), because the document mirrors the last message with a pose (`Mirrors`). Nothing is
said of a navigation whose verification never begins, nor that one is verified at all.
-/

namespace Firebot.Navigation

open Firebot.Tasks Firebot.Worker Marked

variable {F : Type} [PoseFloat F]

/-- One navigation: its id, its target, and the command that started it. -/
structure Mission (F : Type) where
  id : String
  target : Target F
  commandId : String

/-- What became of the commands when the task succeeded: the state of the one that started it, and the others
of the task that have become SUCCEEDED as well. -/
structure Outcome where
  started : Option CommandState
  others : List String
  deriving DecidableEq

/-- The tables and the document of the vehicle, and beside them what each message with a pose said by itself,
the messages since the last of these, the messages since a frame was counted last, from which message and when
each frame was taken, the commands of the task that have been inserted meanwhile, and the outcomes. -/
structure Watch (F : Type) where
  db : Database
  latest : Telemetry F
  poses : List (Telemetry F)
  after : List (Message F)
  since : List (Message F)
  counted : List (Nat × Time)
  asked : List String
  outcomes : List Outcome

/-- A message of the vehicle is handled, or something happens to the tasks. -/
inductive Occurrence (F : Type) where
  | message (m : Message F)
  | action (a : Action)

namespace Watch

variable (m : Mission F) (w : Watch F)

/-- The look that a tick takes at the navigation is one at the document. -/
def seen (check : String → Task → Option PoseCheck) (now : Time) : String → Task → Option PoseCheck :=
  fun id task => if id = m.id then w.latest.look m.target now else check id task

/-- An action as it takes place: a tick finds the document of the vehicle. -/
def observed : Action → Action
  | .event (.tick check timeout now) => .event (.tick (w.seen m check now) timeout now)
  | a => a

/-- The frames that the row of a task tells of. -/
def framesOf (db : Database) (id : String) : Nat :=
  ((db.tasks.lookup id).bind fun task => task.parameters.poseVerificationFrames).getD 0

/-- The row of a task tells of its success. -/
def succeeded (db : Database) (id : String) : Bool :=
  (db.tasks.lookup id).any fun task => task.status = .succeeded

/-- The frames after an action: a cleared counter drops them, a higher one adds the last message. -/
def recount (a : Action) (db : Database) : List (Nat × Time) :=
  if framesOf db m.id = 0 then []
  else if framesOf w.db m.id < framesOf db m.id then
    match a with
    | .event (.tick _ _ now) => w.counted ++ [(w.poses.length - 1, now)]
    | _ => w.counted
  else w.counted

/-- What has become of the commands, when the task has succeeded just now. -/
def outcome (db : Database) : List Outcome :=
  if succeeded w.db m.id = false ∧ succeeded db m.id = true then
    [{ started := commandState db m.commandId
       others := (commandsOf w.db m.id).filter fun id =>
         id ≠ m.commandId && commandState w.db id ≠ some .succeeded && commandState db id = some .succeeded }]
  else []

/-- A message is handled. -/
def hear (message : Message F) : Watch F :=
  { w with latest := message.merge w.latest, poses := w.poses ++ message.pose.toList
           after := if message.carriesPose then [] else w.after ++ [message]
           since := w.since ++ [message] }

/-- One occurrence. -/
def step : Occurrence F → Watch F
  | .message message => w.hear message
  | .action a =>
    let db := Navigation.step w.db (w.observed m a)
    { w with db := db, counted := w.recount m (w.observed m a) db
             since := if framesOf w.db m.id < framesOf db m.id then [] else w.since
             asked := w.asked ++ (commandsOf db m.id).filter (· ∉ commandsOf w.db m.id)
             outcomes := w.outcomes ++ w.outcome m db }

/-- A vehicle that has sent nothing. -/
def silent (db : Database) : Watch F where
  db := db
  latest := .empty
  poses := []
  after := []
  since := []
  counted := []
  asked := []
  outcomes := []

/-- A navigation as it is watched from here on, after some messages. -/
def watched (db : Database) (before : List (Message F)) : Watch F := before.foldl hear (silent db)

/-- The message shows the vehicle out of the tolerances. -/
def Off (own : Telemetry F) : Prop := own.off m.target = true

/-- The message by itself is fresh at this time, well localized and within the tolerances. -/
def Good (own : Telemetry F) (now : Time) : Prop := own.shows m.target now

instance (own : Telemetry F) : Decidable (Off m own) := inferInstanceAs (Decidable (_ = true))

/-- **A verified pose rests on enough frames, and each frame on a message of its own**: the vehicle has
reported completion, and the frames were counted since; the messages came one after the other, each was good
when it was counted, and none from the first to the last was out of the tolerances. Whenever the task has
succeeded, the command that started it has become SUCCEEDED, and no other command of the task. -/
structure Evident (task : Task) : Prop where
  reported : task.status = .succeeded → task.parameters.vehicleCompletedReportedAt.isSome = true
  enough : task.status = .succeeded →
    task.parameters.requiredVerificationFrames.getD 3 ≤ w.counted.length
  frames : task.parameters.poseVerificationFrames.getD 0 = w.counted.length
  streak : Streak (Good m) (Off m) w.poses w.counted
  outcomes : ∀ outcome ∈ w.outcomes, outcome.started = some .succeeded ∧ outcome.others = []

/-- The navigation has begun: it has not succeeded, nothing has been verified of it, and its only command is
the one that started it. -/
structure Begun (db : Database) (task : Task) : Prop where
  found : db.tasks.lookup m.id = some task
  navigates : task.type = .navigateToPreset
  running : task.status ≠ .succeeded
  idle : task.verifying = false
  uncounted : task.parameters.poseVerificationFrames.getD 0 = 0
  starts : (db.commands.lookup m.commandId).any (·.starts m.id) = true
  alone : ∀ id ∈ commandsOf db m.id, id = m.commandId

/-- The tick counts a frame. -/
def Counts (check : String → Task → Option PoseCheck) (now : Time) : Prop :=
  Passes w.db check ∧ (∃ task ∈ w.db.tasks.lookup m.id, task.verifying = true) ∧
    w.latest.shows m.target now

/-- The tick verifies the pose of the navigation. -/
def Verifies (check : String → Task → Option PoseCheck) (now : Time) : Prop :=
  Passes w.db check ∧ ∃ task ∈ w.db.tasks.lookup m.id, task.verifying = true ∧
    ∃ seen ∈ check m.id task, task.verdict seen now = .verified

/-- The order in which messages, requests, reports and ticks come. Between two ticks that count a frame a
message with a pose comes. Where a message without a pose has written the stamp since, the tick comes within
the freshness time of the last message with one. No command of the task is inserted, by a cancel or stop
request, before a tick that verifies the pose. While frames are counted, only a message out of the tolerances
follows one before a tick has cleared the counter; and only a completion is reported with the phase of the
verification. -/
def Faithful : Occurrence F → Prop
  | .message message => ∀ own ∈ message.pose,
      (∃ task ∈ w.db.tasks.lookup m.id, task.verifying = true) → w.counted ≠ [] →
        Off m own ∨ ∀ last ∈ w.poses.getLast?, ¬ Off m last
  | .action (.event (.tick check _ now)) =>
    (w.Counts m (w.seen m check now) now →
      (w.counted ≠ [] → ∃ message ∈ w.since, message.carriesPose = true) ∧
      ((∃ message ∈ w.after, message.stamps = true) →
        ∀ own ∈ w.poses.getLast?, own.serverReceivedAt.within now m.target.freshnessMs = true)) ∧
    (w.Verifies m (w.seen m check now) now → w.asked = [])
  | .action (.event (.taskStatus reporter msg _)) => ∀ task ∈ w.db.tasks.lookup m.id,
      msg.concerns reporter m.id task → msg.status = .executing → msg.phase ≠ "VERIFYING_FINAL_POSE"
  | .action _ => True

instance (check : String → Task → Option PoseCheck) (now : Time) : Decidable (w.Counts m check now) :=
  inferInstanceAs (Decidable ((∀ r ∈ _, _) ∧ (∃ task ∈ _, _) ∧ _ ∧ _ ∧ _))

instance (check : String → Task → Option PoseCheck) (now : Time) : Decidable (w.Verifies m check now) :=
  inferInstanceAs (Decidable ((∀ r ∈ _, _) ∧ ∃ task ∈ _, _ ∧ ∃ seen ∈ _, _))

instance : (e : Occurrence F) → Decidable (w.Faithful m e)
  | .message message => inferInstanceAs (Decidable (∀ own ∈ message.pose, _ → _ → _ ∨ ∀ last ∈ _, _))
  | .action (.event (.tick ..)) =>
    inferInstanceAs (Decidable ((_ → (_ → ∃ message ∈ _, _) ∧ ((∃ message ∈ _, _) → ∀ own ∈ _, _)) ∧ (_ → _)))
  | .action (.event (.taskStatus ..)) => inferInstanceAs (Decidable (∀ task ∈ _, _ → _ → _))
  | .action (.event (.create ..)) | .action (.event (.strand ..)) | .action (.event (.cancel ..))
  | .action (.event (.dispatch ..)) | .action (.event (.ack ..)) | .action (.stop _) =>
    inferInstanceAs (Decidable True)

/-! ## The document and the messages -/

/-- The document with a pose in it is the last message with a pose, but for the stamp, and to the stamp where no
other message has written it since. -/
structure Mirrors (w : Watch F) : Prop where
  last : w.latest.present = true →
    ∃ own ∈ w.poses.getLast?, w.latest = { own with serverReceivedAt := w.latest.serverReceivedAt }
  stamp : (∀ message ∈ w.after, message.stamps = false) →
    ∀ own ∈ w.poses.getLast?, w.latest.present = true → w.latest.serverReceivedAt = own.serverReceivedAt

variable {m : Mission F} {w : Watch F} {task task' : Task} {a : Action} {db : Database}

omit [PoseFloat F] in
theorem Mirrors.silent (db : Database) : Mirrors (silent db : Watch F) where
  last present := by cases present
  stamp _ _ none := by cases none

omit [PoseFloat F] in
/-- A message without a pose on the map writes nothing of the pose but the stamp, or blanks it. -/
theorem merge_bare {message : Message F} (bare : message.carriesPose = false) (latest : Telemetry F) :
    (message.merge latest).present = false ∨
      message.merge latest = { latest with serverReceivedAt := (message.merge latest).serverReceivedAt } ∧
        (message.stamps = false → (message.merge latest).serverReceivedAt = latest.serverReceivedAt) := by
  cases message with
  | location received x y theta localizationStatus verified =>
    have unverified : verified = false := bare
    subst unverified
    exact .inl rfl
  | status => exact .inr ⟨rfl, fun _ => rfl⟩
  | sensor received => exact .inr ⟨rfl, Bool.noConfusion⟩
  | compat received => exact .inr ⟨rfl, Bool.noConfusion⟩

omit [PoseFloat F] in
/-- What a message with a pose makes of the document is what it says by itself. -/
theorem merge_pose {message : Message F} (carries : message.carriesPose = true) (latest : Telemetry F) :
    message.pose = some (message.merge latest) := by
  unfold Message.pose
  rw [if_pos carries]
  cases message with
  | location received x y theta localizationStatus verified =>
    have verified : verified = true := carries
    subst verified
    rfl
  | status | sensor | compat => cases carries

omit [PoseFloat F] in
/-- A message keeps the document a mirror. -/
theorem Mirrors.hear (mirrors : Mirrors w) (message : Message F) : Mirrors (w.hear message) := by
  cases carries : message.carriesPose with
  | true =>
    have last : (w.hear message).poses.getLast? = some (message.merge w.latest) := by
      simp [Watch.hear, merge_pose carries w.latest]
    refine ⟨fun _ => ⟨_, last, rfl⟩, fun _ own isLast _ => ?_⟩
    cases Option.some.inj (last.symm.trans isLast)
    rfl
  | false =>
    have poses : (w.hear message).poses = w.poses := by
      simp [Watch.hear, Message.pose, carries]
    have after : (w.hear message).after = w.after ++ [message] := by
      simp [Watch.hear, carries]
    rcases merge_bare carries w.latest with gone | ⟨same, stays⟩
    · exact ⟨fun present => absurd (gone.symm.trans present) Bool.false_ne_true,
        fun _ _ _ present => absurd (gone.symm.trans present) Bool.false_ne_true⟩
    · have present : (message.merge w.latest).present = true → w.latest.present = true := by
        rw [same]
        exact id
      constructor
      · intro there
        obtain ⟨own, isLast, mirrored⟩ := mirrors.last (present there)
        refine ⟨own, poses ▸ isLast, ?_⟩
        show message.merge w.latest = { own with serverReceivedAt := (message.merge w.latest).serverReceivedAt }
        rw [same, mirrored]
      · intro unstamped own isLast there
        rw [after] at unstamped
        rw [poses] at isLast
        exact (stays (unstamped message (by simp))).trans
          (mirrors.stamp (fun old mem => unstamped old (List.mem_append_left _ mem)) own isLast (present there))

omit [PoseFloat F] in
theorem Mirrors.watched (db : Database) (before : List (Message F)) : Mirrors (watched db before) := by
  have heard (w : Watch F) (mirrors : Mirrors w) : Mirrors (before.foldl Watch.hear w) := by
    induction before generalizing w with
    | nil => exact mirrors
    | cons message before ih => exact ih _ (mirrors.hear message)
  exact heard _ (.silent db)

/-- **What the worker finds in the document is so of the last message with a pose**, as long as the stamp is that
message's own or the message is fresh itself. -/
theorem Mirrors.shows (mirrors : Mirrors w) {now : Time} (shows : w.latest.shows m.target now)
    (fresh : (∃ message ∈ w.after, message.stamps = true) →
      ∀ own ∈ w.poses.getLast?, own.serverReceivedAt.within now m.target.freshnessMs = true) :
    ∃ own ∈ w.poses.getLast?, own.shows m.target now := by
  obtain ⟨stamped, localized, within⟩ := shows
  have present : w.latest.present = true := by
    by_contra blank
    unfold Telemetry.within at within
    rw [if_neg blank] at within
    cases within
  obtain ⟨own, isLast, mirrored⟩ := mirrors.last present
  rw [mirrored] at localized within
  refine ⟨own, isLast, ?_, localized, within⟩
  by_cases others : ∃ message ∈ w.after, message.stamps = true
  · exact fresh others own isLast
  · have unstamped : ∀ message ∈ w.after, message.stamps = false := by
      intro message mem
      exact Bool.eq_false_of_not_eq_true fun stamps => others ⟨message, mem, stamps⟩
    rw [← mirrors.stamp unstamped own isLast present]
    exact stamped

/-! ## What an action does to the task -/

/-- The parameters of the verification stay. -/
structure SameCount (task task' : Task) : Prop where
  type : task'.type = task.type
  frames : task'.parameters.poseVerificationFrames = task.parameters.poseVerificationFrames
  required : task'.parameters.requiredVerificationFrames = task.parameters.requiredVerificationFrames
  reported : task'.parameters.vehicleCompletedReportedAt = task.parameters.vehicleCompletedReportedAt

theorem SameCount.consumed (task : Task) : SameCount task task.consumed := by
  unfold Task.consumed
  split <;> exact ⟨rfl, rfl, rfl, rfl⟩

/-- A report of a completion starts the count anew. -/
theorem reported_completed {msg : TaskStatus} (verifies : task.verifies msg = true) (received : Time) :
    (task.reported msg received).type = task.type ∧
      (task.reported msg received).status = .executing ∧
      (task.reported msg received).parameters.poseVerificationFrames = some 0 ∧
      (task.reported msg received).parameters.vehicleCompletedReportedAt = some received := by
  have status := task.reported_status msg received
  rw [if_pos verifies] at status
  refine ⟨(task.reported_resume msg received).1, status, ?_, ?_⟩ <;>
  · unfold Task.reported Task.resumable Task.settled
    rw [if_pos verifies]
    split <;> rfl

/-- Any other report about a navigation leaves the count. -/
theorem reported_other {msg : TaskStatus} (navigates : task.type = .navigateToPreset)
    (other : task.verifies msg = false) (received : Time) :
    SameCount task (task.reported msg received) ∧ (task.reported msg received).status ≠ .succeeded ∧
      ((task.reported msg received).verifying = true →
        msg.status = .executing ∧ msg.phase = "VERIFYING_FINAL_POSE") := by
  have plain : ¬ task.verifies msg = true := by
    rw [other]
    exact Bool.false_ne_true
  have status := task.reported_status msg received
  rw [if_neg plain] at status
  have phase : (task.reported msg received).phase = msg.phase := by
    unfold Task.reported Task.resumable Task.settled
    rw [if_neg plain]
    split <;> rfl
  refine ⟨⟨(task.reported_resume msg received).1, ?_, ?_, ?_⟩, ?_, ?_⟩
  · unfold Task.reported Task.resumable Task.settled
    rw [if_neg plain]
    split <;> rfl
  · unfold Task.reported Task.resumable Task.settled
    rw [if_neg plain]
    split <;> rfl
  · unfold Task.reported Task.resumable Task.settled
    rw [if_neg plain]
    split <;> rfl
  · intro succeeded
    have completed : msg.status = .completed := by
      rw [status] at succeeded
      cases reported : msg.status <;> rw [reported] at succeeded <;> first | rfl | cases succeeded
    simp [Task.verifies, navigates, completed] at other
  · intro verifying
    obtain ⟨_, executing, verification⟩ := verifying_iff.mp verifying
    rw [status] at executing
    rw [phase] at verification
    refine ⟨?_, verification⟩
    cases reported : msg.status <;> rw [reported] at executing <;> first | rfl | cases executing

/-- A look at the pose. -/
theorem checked_count (task : Task) (seen : PoseCheck) (now : Time) :
    (task.checked seen now).type = task.type ∧
      (task.checked seen now).parameters = { task.parameters with
        poseVerificationFrames := some (task.frames seen) } ∧
      ((task.checked seen now).status = .succeeded →
        task.status = .succeeded ∨
          task.parameters.requiredVerificationFrames.getD 3 ≤ task.frames seen) := by
  unfold Task.checked Task.verdict
  by_cases enough : task.parameters.requiredVerificationFrames.getD 3 ≤ task.frames seen
  · rw [if_pos enough]
    exact ⟨rfl, rfl, fun _ => .inr enough⟩
  · rw [if_neg enough]
    dsimp only
    split
    next never => split at never <;> cases never
    next => exact ⟨rfl, rfl, fun failed => by cases failed⟩
    next => exact ⟨rfl, rfl, fun succeeded => .inl succeeded⟩

theorem seen_self (check : String → Task → Option PoseCheck) (now : Time) (task : Task) :
    w.seen m check now m.id task = w.latest.look m.target now := if_pos rfl

/-! ## The invariant -/

/-- The command that started the navigation is there, and any other command of the task has been inserted since
the navigation is watched. -/
structure Owned (m : Mission F) (w : Watch F) : Prop where
  starts : ∃ command, w.db.commands.lookup m.commandId = some command ∧ command.starts m.id = true
  others : ∀ id ∈ commandsOf w.db m.id, id = m.commandId ∨ id ∈ w.asked

/-- The frames are evident, as long as the task is under verification no message out of the tolerances has gone
unseen, and the messages since the last frame come after its own. -/
structure Held (m : Mission F) (w : Watch F) (task : Task) : Prop where
  found : w.db.tasks.lookup m.id = some task
  navigates : task.type = .navigateToPreset
  evident : w.Evident m task
  unbroken : task.verifying = true → Unbroken (Off m) w.poses w.counted
  reported : task.verifying = true → task.parameters.vehicleCompletedReportedAt.isSome = true
  spaced : ∀ mark ∈ w.counted, mark.1 + 1 + w.since.countP (·.carriesPose) ≤ w.poses.length

omit [PoseFloat F] in
theorem framesOf_found (found : db.tasks.lookup m.id = some task) :
    framesOf db m.id = task.parameters.poseVerificationFrames.getD 0 := by
  simp [framesOf, found]

theorem Held.frames (held : Held m w task) : framesOf w.db m.id = w.counted.length :=
  (framesOf_found held.found).trans held.evident.frames

theorem Held.recount_same (held : Held m w task) (a : Action)
    (same : framesOf db m.id = framesOf w.db m.id) : w.recount m a db = w.counted := by
  unfold recount
  rw [same, if_neg (Nat.lt_irrefl _)]
  split
  next zero => exact (List.length_eq_zero_iff.mp (held.frames ▸ zero)).symm
  next => rfl

omit [PoseFloat F] in
theorem recount_zero (a : Action) (zero : framesOf db m.id = 0) : w.recount m a db = [] := if_pos zero

omit [PoseFloat F] in
theorem recount_succ {check : String → Task → Option PoseCheck} {timeout : Nat} {now : Time}
    (more : framesOf db m.id = framesOf w.db m.id + 1) :
    w.recount m (.event (.tick check timeout now)) db = w.counted ++ [(w.poses.length - 1, now)] := by
  unfold recount
  rw [if_neg (by omega), if_pos (by omega)]

omit [PoseFloat F] in
theorem succeeded_found (found : db.tasks.lookup m.id = some task) :
    succeeded db m.id = decide (task.status = .succeeded) := by
  simp [succeeded, found]

omit [PoseFloat F] in
/-- There is no outcome where the task does not come to succeed. -/
theorem outcome_eq_nil (found : w.db.tasks.lookup m.id = some task) (after : db.tasks.lookup m.id = some task')
    (still : task'.status = .succeeded → task.status = .succeeded) : w.outcome m db = [] := by
  refine if_neg ?_
  rw [succeeded_found found, succeeded_found after]
  simp only [decide_eq_false_iff_not, decide_eq_true_eq]
  exact fun both => both.1 (still both.2)

omit [PoseFloat F] in
/-- The outcome of a tick that verifies the pose goes to the command that started the task. -/
theorem outcome_verified (owned : Owned m w) {check : String → Task → Option PoseCheck} (timeout : Nat)
    {now : Time} (asks : w.Verifies m check now → w.asked = []) (verifies : w.Verifies m check now) :
    ∀ outcome ∈ w.outcome m (w.db.tick check timeout now),
      outcome.started = some .succeeded ∧ outcome.others = [] := by
  intro outcome mem
  have alone : ∀ id ∈ commandsOf w.db m.id, id = m.commandId := by
    intro id belongs
    rcases owned.others id belongs with own | other
    · exact own
    · rw [asks verifies] at other
      cases other
  obtain ⟨command, found, starts⟩ := owned.starts
  obtain ⟨passes, task, inside, verifying, seen, looked, verified⟩ := verifies
  unfold Watch.outcome at mem
  split at mem
  · rw [List.mem_singleton.mp mem]
    refine ⟨tick_written timeout passes inside verifying looked verified alone found starts, ?_⟩
    refine List.filter_eq_nil_iff.mpr fun id belongs => ?_
    simp [alone id belongs]
  · cases mem

/-! ## One occurrence -/

/-- An action leaves the commands of the task with it. -/
theorem Owned.action (owned : Owned m w) (a : Action) : Owned m (w.step m (.action a)) where
  starts := by
    obtain ⟨command, found, starts⟩ := owned.starts
    obtain ⟨command', found', task, cmd⟩ := commands_stay w.db (w.observed m a) _ _ found
    exact ⟨command', found', (Command.starts_congr task cmd m.id).trans starts⟩
  others id belongs := by
    by_cases old : id ∈ commandsOf w.db m.id
    · exact (owned.others id old).imp_right (List.mem_append_left _)
    · exact .inr (List.mem_append_right _ (List.mem_filter.mpr ⟨belongs, decide_eq_true old⟩))

/-- An action that leaves the count leaves the evidence. -/
theorem Held.kept (held : Held m w task)
    (after : (Navigation.step w.db (w.observed m a)).tasks.lookup m.id = some task')
    (same : SameCount task task')
    (succeeded : task'.status = .succeeded → task.status = .succeeded)
    (verifying : task'.verifying = true → task.verifying = true) :
    Held m (w.step m (.action a)) task' := by
  have frames : framesOf (Navigation.step w.db (w.observed m a)) m.id = framesOf w.db m.id := by
    rw [framesOf_found after, framesOf_found held.found, same.frames]
  have counted : (w.step m (.action a)).counted = w.counted := held.recount_same _ frames
  have since : (w.step m (.action a)).since = w.since := if_neg (by rw [frames]; exact Nat.lt_irrefl _)
  have outcomes : (w.step m (.action a)).outcomes = w.outcomes := by
    show w.outcomes ++ w.outcome m _ = w.outcomes
    rw [outcome_eq_nil held.found after succeeded, List.append_nil]
  refine ⟨after, same.type.trans held.navigates, ⟨?_, ?_, ?_, ?_, ?_⟩, ?_, ?_, ?_⟩
  · intro ended
    rw [same.reported]
    exact held.evident.reported (succeeded ended)
  · intro ended
    rw [same.required, counted]
    exact held.evident.enough (succeeded ended)
  · rw [same.frames, counted]
    exact held.evident.frames
  · rw [counted]
    exact held.evident.streak
  · rw [outcomes]
    exact held.evident.outcomes
  · intro watched
    rw [counted]
    exact held.unbroken (verifying watched)
  · intro watched
    rw [same.reported]
    exact held.reported (verifying watched)
  · rw [counted, since]
    exact held.spaced

/-- An action that clears the count leaves nothing to show. -/
theorem Held.restart (held : Held m w task)
    (after : (Navigation.step w.db (w.observed m a)).tasks.lookup m.id = some task')
    (navigates : task'.type = .navigateToPreset)
    (zero : task'.parameters.poseVerificationFrames.getD 0 = 0)
    (enough : task'.status = .succeeded → task'.parameters.requiredVerificationFrames.getD 3 ≤ 0)
    (reported : task'.parameters.vehicleCompletedReportedAt.isSome = true)
    (outcomes : ∀ outcome ∈ w.outcome m (Navigation.step w.db (w.observed m a)),
      outcome.started = some .succeeded ∧ outcome.others = []) :
    Held m (w.step m (.action a)) task' := by
  have counted : (w.step m (.action a)).counted = [] :=
    recount_zero _ ((framesOf_found after).trans zero)
  refine ⟨after, navigates, ⟨fun _ => reported, ?_, ?_, ?_, ?_⟩, ?_, fun _ => reported, ?_⟩
  · rw [counted]
    exact enough
  · rw [counted]
    exact zero
  · rw [counted]
    exact .nil
  · intro outcome mem
    exact (List.mem_append.mp mem).elim (held.evident.outcomes outcome) (outcomes outcome)
  · rw [counted]
    exact fun _ => .nil
  · rw [counted]
    exact List.forall_mem_nil _

/-- An action that counts a frame shows the last message with a pose, which is good and later than those of the
frames before. -/
theorem Held.mark (held : Held m w task) {own : Telemetry F} {now : Time} (last : w.poses.getLast? = some own)
    (shows : own.shows m.target now) (new : ∀ mark ∈ w.counted, mark.1 + 1 < w.poses.length)
    (verifying : task.verifying = true)
    (after : (Navigation.step w.db (w.observed m a)).tasks.lookup m.id = some task')
    (navigates : task'.type = .navigateToPreset)
    (counted : (w.step m (.action a)).counted = w.counted ++ [(w.poses.length - 1, now)])
    (since : (w.step m (.action a)).since = [])
    (frames : task'.parameters.poseVerificationFrames.getD 0 = w.counted.length + 1)
    (enough : task'.status = .succeeded →
      task'.parameters.requiredVerificationFrames.getD 3 ≤ w.counted.length + 1)
    (reported : task'.parameters.vehicleCompletedReportedAt.isSome = true)
    (outcomes : ∀ outcome ∈ w.outcome m (Navigation.step w.db (w.observed m a)),
      outcome.started = some .succeeded ∧ outcome.others = []) :
    Held m (w.step m (.action a)) task' := by
  have length : (w.step m (.action a)).counted.length = w.counted.length + 1 := by
    rw [counted, List.length_append]
    rfl
  have nonempty : 0 < w.poses.length := List.length_pos_of_mem (List.mem_of_getLast? last)
  have fine : ¬ Off m own := Bool.eq_false_iff.mp (not_off_of_shows shows)
  refine ⟨after, navigates, ⟨fun _ => reported, ?_, ?_, ?_, ?_⟩, ?_, fun _ => reported, ?_⟩
  · rw [length]
    exact enough
  · rw [length]
    exact frames
  · rw [counted]
    exact held.evident.streak.mark (held.unbroken verifying) last new fine shows
  · intro outcome mem
    exact (List.mem_append.mp mem).elim (held.evident.outcomes outcome) (outcomes outcome)
  · intro _
    rw [counted]
    exact (held.unbroken verifying).mark now
  · rw [counted, since]
    intro mark mem
    show mark.1 + 1 + 0 ≤ w.poses.length
    rcases List.mem_append.mp mem with old | this
    · exact Nat.le_of_lt (new mark old)
    · rw [List.mem_singleton.mp this]
      show w.poses.length - 1 + 1 + 0 ≤ w.poses.length
      omega

/-- What the order of messages and requests says of a tick that looks at the task. -/
theorem Faithful.tick (faithful : w.Faithful m (.action a)) {check : String → Task → Option PoseCheck}
    {timeout : Nat} {now : Time} {seen : PoseCheck} (tick : w.observed m a = .event (.tick check timeout now))
    (looked : check m.id task = some seen) :
    (w.Counts m check now →
      (w.counted ≠ [] → ∃ message ∈ w.since, message.carriesPose = true) ∧
      ((∃ message ∈ w.after, message.stamps = true) →
        ∀ own ∈ w.poses.getLast?, own.serverReceivedAt.within now m.target.freshnessMs = true)) ∧
      (w.Verifies m check now → w.asked = []) ∧ w.latest.look m.target now = some seen := by
  cases a with
  | stop => cases tick
  | event e =>
    cases e with
    | create | strand | cancel | dispatch | ack | taskStatus => cases tick
    | tick others timeout' now' =>
      cases tick
      rw [seen_self] at looked
      exact ⟨faithful.1, faithful.2, looked⟩

/-- A tick that looks at the task counts a frame, or clears the counter. -/
theorem Held.checked (held : Held m w task) (mirrors : Mirrors w) (owned : Owned m w)
    (faithful : w.Faithful m (.action a)) {check : String → Task → Option PoseCheck} {timeout : Nat}
    {now : Time} {seen : PoseCheck} (tick : w.observed m a = .event (.tick check timeout now))
    (passes : Passes w.db check) (looked : check m.id task = some seen) (verifying : task.verifying = true)
    (after : (Navigation.step w.db (w.observed m a)).tasks.lookup m.id =
      some (task.checked seen now)) :
    Held m (w.step m (.action a)) (task.checked seen now) := by
  obtain ⟨type, parameters, succeeded⟩ := checked_count task seen now
  obtain ⟨counts, asks, sight⟩ := faithful.tick tick looked
  have enough : (task.checked seen now).status = .succeeded →
      task.parameters.requiredVerificationFrames.getD 3 ≤ task.frames seen := by
    intro ended
    refine (succeeded ended).resolve_left fun already => ?_
    rw [(verifying_iff.mp verifying).2.1] at already
    cases already
  have required : (task.checked seen now).status = .succeeded →
      (task.checked seen now).parameters.requiredVerificationFrames.getD 3 ≤ task.frames seen := by
    rw [parameters]
    exact enough
  have frames : (task.checked seen now).parameters.poseVerificationFrames.getD 0 = task.frames seen := by
    rw [parameters]
    rfl
  have reported : (task.checked seen now).parameters.vehicleCompletedReportedAt.isSome = true := by
    rw [parameters]
    exact held.reported verifying
  have outcomes : ∀ outcome ∈ w.outcome m (Navigation.step w.db (w.observed m a)),
      outcome.started = some .succeeded ∧ outcome.others = [] := by
    by_cases ended : (task.checked seen now).status = .succeeded
    · have verdict : task.verdict seen now = .verified := if_pos (enough ended)
      rw [tick]
      exact outcome_verified owned timeout asks ⟨passes, task, held.found, verifying, seen, looked, verdict⟩
    · rw [outcome_eq_nil held.found after fun succeeded => absurd succeeded ended]
      exact List.forall_mem_nil _
  by_cases good : good seen = true
  · have shows : w.latest.shows m.target now := look_good_iff.mp ⟨seen, sight, good⟩
    obtain ⟨news, fresh⟩ := counts ⟨passes, ⟨task, held.found, verifying⟩, shows⟩
    obtain ⟨own, last, shows⟩ := mirrors.shows shows fresh
    have new : ∀ mark ∈ w.counted, mark.1 + 1 < w.poses.length := by
      intro mark mem
      have some_new : 0 < w.since.countP (·.carriesPose) :=
        List.countP_pos_iff.mpr (news (List.ne_nil_of_mem mem))
      have behind := held.spaced mark mem
      omega
    have more : task.frames seen = task.parameters.poseVerificationFrames.getD 0 + 1 := if_pos good
    have grown : framesOf (Navigation.step w.db (w.observed m a)) m.id = framesOf w.db m.id + 1 := by
      rw [framesOf_found after, framesOf_found held.found, frames, more]
    have counted : (w.step m (.action a)).counted = w.counted ++ [(w.poses.length - 1, now)] := by
      show w.recount m (w.observed m a) _ = _
      rw [tick] at grown ⊢
      exact recount_succ grown
    have since : (w.step m (.action a)).since = [] := if_pos (by rw [grown]; exact Nat.lt_succ_self _)
    rw [held.evident.frames] at more
    rw [more] at frames required
    exact held.mark last shows new verifying after (type.trans held.navigates) counted since frames required
      reported outcomes
  · have zero : task.frames seen = 0 := if_neg good
    rw [zero] at frames required
    exact held.restart after (type.trans held.navigates) frames required reported outcomes

/-- A report about the navigation starts the count anew, or leaves it. -/
theorem Held.report (held : Held m w task) {reporter : String} {msg : TaskStatus} {received : Time}
    (faithful : w.Faithful m (.action (.event (.taskStatus reporter msg received))))
    (concerns : msg.concerns reporter m.id task) :
    ∃ task', Held m (w.step m (.action (.event (.taskStatus reporter msg received)))) task' := by
  obtain ⟨row, consumed, after⟩ := Database.handleTaskStatus_row reporter msg received held.found
  rw [if_pos concerns] at after
  have same : SameCount task row := by
    rcases consumed with rfl | rfl
    · exact ⟨rfl, rfl, rfl, rfl⟩
    · exact .consumed task
  have navigates : row.type = .navigateToPreset := same.type.trans held.navigates
  cases verifies : row.verifies msg with
  | true =>
    obtain ⟨type, executing, frames, reported⟩ := reported_completed verifies received
    have unsettled : ¬ (row.reported msg received).status = .succeeded := by
      rw [executing]
      exact TaskState.noConfusion
    refine ⟨_, held.restart after (type.trans navigates) ?_ (fun ended => absurd ended unsettled) ?_ ?_⟩
    · rw [frames]
      rfl
    · rw [reported]
      rfl
    · have none : w.outcome m (Navigation.step w.db (.event (.taskStatus reporter msg received))) = [] :=
        outcome_eq_nil held.found after fun ended => absurd ended unsettled
      intro outcome mem
      cases none ▸ (show outcome ∈ w.outcome m _ from mem)
  | false =>
    obtain ⟨same', running, verification⟩ := reported_other navigates verifies received
    refine ⟨_, held.kept after ?_ (fun ended => absurd ended running) ?_⟩
    · exact ⟨same'.type.trans same.type, same'.frames.trans same.frames,
        same'.required.trans same.required, same'.reported.trans same.reported⟩
    · intro verifying
      obtain ⟨executing, phase⟩ := verification verifying
      exact absurd phase (faithful task held.found concerns executing)

theorem Held.action (held : Held m w task) (mirrors : Mirrors w) (owned : Owned m w)
    (faithful : w.Faithful m (.action a)) : ∃ task', Held m (w.step m (.action a)) task' := by
  cases reports : (w.observed m a).reports task.robotId m.id with
  | true =>
    cases a with
    | stop => cases reports
    | event e =>
      cases e with
      | create | strand | cancel | dispatch | ack | tick => cases reports
      | taskStatus reporter msg received =>
        have concerns : msg.concerns reporter m.id task := by
          simp only [observed, Action.reports, Bool.and_eq_true, decide_eq_true_eq] at reports
          exact ⟨reports.2.symm, reports.1.symm⟩
        exact held.report faithful concerns
  | false =>
    obtain ⟨task', after, row⟩ := row_of_step (w.observed m a) held.found reports
    refine ⟨task', ?_⟩
    cases row with
    | overwritten phase overwrites active other =>
      refine held.kept after ⟨rfl, rfl, rfl, rfl⟩ id ?_
      intro verifying
      exact absurd (verifying_iff.mp verifying).2.2 other
    | same => exact held.kept after ⟨rfl, rfl, rfl, rfl⟩ id id
    | consumed =>
      refine held.kept after (.consumed task) ?_ ?_
      · rw [task.consumed_status]
        exact id
      · unfold Task.consumed
        split <;> exact id
    | checked kept tick passes looked verifying =>
      exact held.checked mirrors owned faithful tick passes looked verifying after

/-- A message leaves the evidence, and breaks nothing as long as it hides no other. -/
theorem Held.message (held : Held m w task) {message : Message F}
    (faithful : w.Faithful m (.message message)) : Held m (w.hear message) task := by
  have spaced : ∀ mark ∈ w.counted,
      mark.1 + 1 + (w.hear message).since.countP (·.carriesPose) ≤ (w.hear message).poses.length := by
    intro mark mem
    have behind := held.spaced mark mem
    show mark.1 + 1 + (w.since ++ [message]).countP _ ≤ (w.poses ++ message.pose.toList).length
    rw [List.countP_append, List.length_append]
    cases carries : message.carriesPose <;> simp [Message.pose, carries] <;> omega
  cases carries : message.pose with
  | none =>
    have same : (w.hear message).poses = w.poses := by
      simp [Watch.hear, carries]
    refine ⟨held.found, held.navigates, ⟨held.evident.reported, held.evident.enough, held.evident.frames, ?_,
      held.evident.outcomes⟩, ?_, held.reported, spaced⟩
    · rw [same]
      exact held.evident.streak
    · rw [same]
      exact held.unbroken
  | some own =>
    have longer : (w.hear message).poses = w.poses ++ [own] := by
      simp [Watch.hear, carries]
    refine ⟨held.found, held.navigates, ⟨held.evident.reported, held.evident.enough, held.evident.frames, ?_,
      held.evident.outcomes⟩, ?_, held.reported, spaced⟩
    · rw [longer]
      exact held.evident.streak.concat own
    · intro verifying
      rw [longer]
      show Unbroken (Off m) (w.poses ++ [own]) w.counted
      by_cases none : w.counted = []
      · rw [none]
        exact .nil
      · exact (held.unbroken verifying).concat
          (faithful own carries ⟨task, held.found, verifying⟩ none)

/-- One faithful occurrence. -/
theorem Held.step (held : Held m w task) (mirrors : Mirrors w) (owned : Owned m w) {e : Occurrence F}
    (faithful : w.Faithful m e) :
    Mirrors (w.step m e) ∧ Owned m (w.step m e) ∧ ∃ task', Held m (w.step m e) task' := by
  cases e with
  | message message => exact ⟨mirrors.hear message, ⟨owned.starts, owned.others⟩, task, held.message faithful⟩
  | action a => exact ⟨⟨mirrors.last, mirrors.stamp⟩, owned.action a, held.action mirrors owned faithful⟩

/-! ## Runs -/

omit [PoseFloat F] in
/-- The messages before leave the tables, and nothing is counted. -/
theorem watched_db (db : Database) (before : List (Message F)) :
    (watched db before).db = db ∧ (watched db before).counted = [] ∧ (watched db before).asked = [] ∧
      (watched db before).outcomes = [] := by
  have heard (w : Watch F) : (before.foldl Watch.hear w).db = w.db ∧
      (before.foldl Watch.hear w).counted = w.counted ∧ (before.foldl Watch.hear w).asked = w.asked ∧
      (before.foldl Watch.hear w).outcomes = w.outcomes := by
    induction before generalizing w with
    | nil => exact ⟨rfl, rfl, rfl, rfl⟩
    | cons message before ih => exact ih (w.hear message)
  exact heard (silent db)

omit [PoseFloat F] in
/-- A navigation begins when it is created. -/
theorem Begun.created {c : Creation} (target : Target F) (now : Time)
    (fresh : db.fresh c.taskId c.commandId) (linked : Linked db) (navigates : c.type = .navigateToPreset)
    (uncounted : c.parameters.poseVerificationFrames.getD 0 = 0) :
    Begun { id := c.taskId, target := target, commandId := c.commandId } (db.create c now)
      { c.task now with status := .queued, phase := "COMMAND_QUEUED" } where
  found := AList.lookup_insert _
  navigates := navigates
  running := TaskState.noConfusion
  idle := by simp [Task.verifying]
  uncounted := uncounted
  starts := by
    show (AList.lookup c.commandId (db.commands.insert c.commandId _)).any _ = true
    rw [AList.lookup_insert, Option.any_some, navigates]
    simp [Command.starts, Command.queued, TaskType.cmd, Cmd.business]
  alone := by
    intro id mem
    obtain ⟨command, found, belongs⟩ := mem_commandsOf.mp mem
    rcases Table.of_lookup_insert found with ⟨same, _⟩ | ⟨_, old⟩
    · exact same
    · have there := linked.task id command c.taskId old belongs
      rw [fresh.1] at there
      cases there

/-- At the beginning nothing is to be shown. -/
theorem Begun.held (begun : Begun m db task) (before : List (Message F)) :
    Owned m (watched db before) ∧ Held m (watched db before) task := by
  obtain ⟨tables, counted, asked, outcomes⟩ := watched_db db before
  have idle : ¬ task.verifying = true := by
    rw [begun.idle]
    exact Bool.false_ne_true
  refine ⟨⟨?_, ?_⟩, (congrArg (fun db => db.tasks.lookup m.id) tables).trans begun.found, begun.navigates, ⟨fun ended => absurd ended begun.running,
    fun ended => absurd ended begun.running, ?_, ?_, ?_⟩, fun verifying => absurd verifying idle,
    fun verifying => absurd verifying idle, ?_⟩
  · obtain ⟨command, found, starts⟩ := (Option.any_eq_true _ _).mp begun.starts
    exact ⟨command, (congrArg (fun db => db.commands.lookup m.commandId) tables).trans found, starts⟩
  · rw [tables]
    exact fun id own => .inl (begun.alone id own)
  · rw [counted]
    exact begun.uncounted
  · rw [counted]
    exact .nil
  · rw [outcomes]
    exact List.forall_mem_nil _
  · rw [counted]
    exact List.forall_mem_nil _

/-- **In every faithful run the frames behind a verified pose are evident, and the outcome is written to the
command that started the navigation.** -/
theorem verification_evidence {db : Database} (before : List (Message F)) (begun : Begun m db task)
    (occurrences : List (Occurrence F))
    (faithful : Runs.Meets (step m) (Faithful m) (watched db before) occurrences) :
    ∃ task', (Runs.run (step m) (watched db before) occurrences).db.tasks.lookup m.id = some task' ∧
      (Runs.run (step m) (watched db before) occurrences).Evident m task' := by
  obtain ⟨owned, held⟩ := begun.held before
  have preserved (w : Watch F) (e : Occurrence F) (kept : Mirrors w ∧ Owned m w ∧ ∃ task, Held m w task)
      (ok : w.Faithful m e) : Mirrors (w.step m e) ∧ Owned m (w.step m e) ∧ ∃ task, Held m (w.step m e) task := by
    obtain ⟨mirrors, owned, task, held⟩ := kept
    exact held.step mirrors owned ok
  obtain ⟨_, _, task', held⟩ := Runs.invariant preserved ⟨.watched db before, owned, task, held⟩ faithful
  exact ⟨task', held.found, held.evident⟩

/-- A navigation to the origin. -/
def toOrigin : Mission ℚ where
  id := "N1"
  target := { x := 0, y := 0, theta := 0, positionTolerance := 1 / 5, yawTolerance := 3 / 20,
              freshnessMs := 1000 }
  commandId := "C1"

/-- A location message from the origin. -/
def atOrigin (received : Time) : Occurrence ℚ :=
  .message (.location received (.int 0) (.int 0) (.int 0) (some "OK") true)

/-- A tick. -/
def ticking (now : Time) : Occurrence ℚ := .action (.event (.tick (fun _ _ => none) 0 now))

/-- The vehicle reports completion. -/
def completing (received : Time) : Occurrence ℚ :=
  .action (.event (.taskStatus "R1" navigationCompleted received))

/-- The command is sent, and the vehicle takes the navigation up. -/
def takenUp : List (Occurrence ℚ) :=
  [.action (.event (.dispatch "C1" none none second)),
    .action (.event (.ack "R1" "C1" { status := "accepted", reasonCode := none, reason := none } (2 * second))),
    .action (.event (.taskStatus "R1" (.plain "N1" .executing "MOVING" (.int 5)) (3 * second)))]

/-- A location message before each tick. -/
def arriving : List (Occurrence ℚ) :=
  takenUp ++ [completing (60 * second), atOrigin (60 * second), ticking (60 * second), atOrigin (61 * second),
    ticking (61 * second), atOrigin (62 * second), ticking (62 * second)]

/-- The navigation has just been created. -/
def created : Database := Database.empty.create newNavigation 0

theorem begun_toOrigin : Begun toOrigin created { newNavigation.task 0 with status := .queued, phase := "COMMAND_QUEUED" } :=
  Begun.created (c := newNavigation) toOrigin.target 0 ⟨rfl, rfl⟩ Alive.empty.linked rfl rfl

/-- A pose that is verified from three messages is evident. -/
theorem verification_evidence_three_messages :
    ∃ task, (Runs.run (step toOrigin) (watched created []) arriving).db.tasks.lookup
        toOrigin.id = some task ∧ task.status = .succeeded ∧
      (Runs.run (step toOrigin) (watched created []) arriving).Evident toOrigin task := by
  obtain ⟨task', found', evident⟩ := verification_evidence [] begun_toOrigin arriving (by decide +kernel)
  have succeeded : ((Runs.run (step toOrigin) (watched created []) arriving).db.tasks.lookup
      toOrigin.id).map Task.status = some .succeeded := by decide +kernel
  rw [found', Option.map_some] at succeeded
  exact ⟨task', found', Option.some.inj succeeded, evident⟩

/-- One location message, and then sensor messages only. -/
def smoke : List (Occurrence ℚ) :=
  takenUp ++ [completing (60 * second), atOrigin (60 * second), ticking (60 * second),
    .message (.sensor (62 * second)), ticking (62 * second),
    .message (.sensor (64 * second)), ticking (64 * second)]

/-- Sensor messages make the document look fresh, and the worker takes every frame from the same pose. -/
theorem verified_on_one_pose :
    ¬ ∀ (m : Mission ℚ) (db : Database) (before : List (Message ℚ)) (task : Task)
        (occurrences : List (Occurrence ℚ)), Begun m db task →
      ∃ task', (Runs.run (step m) (watched db before) occurrences).db.tasks.lookup m.id = some task' ∧
        (Runs.run (step m) (watched db before) occurrences).Evident m task' := by
  intro claim
  obtain ⟨task', _, evident⟩ := claim toOrigin created [] _ smoke begun_toOrigin
  exact absurd evident.streak.ascending (by decide +kernel)

end Watch

end Firebot.Navigation
