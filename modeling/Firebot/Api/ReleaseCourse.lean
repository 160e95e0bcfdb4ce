import Firebot.Api.Discipline

/-!
# How a release goes

A release deletes leases and may send stops before it commits. Of which robots it has to stop it reads one after
the other; it raises when a call fails, and when a robot's boot is not known.

**While no call fails and every robot that is read is away, a release sends nothing, and it ends with its
commit; a call that fails ends it** (`release_course`). What it has deleted by then is not the subject here.
-/

namespace Firebot.Api

open Firebot.Robots (Robot)
open Script

/-- The boot of the robot is known, and the robot is stale or offline: its stop is recorded and not sent. -/
def away (robot : Robot) : Bool := robot.bootId.any (· ≠ "") && robot.onlineState ≠ .online

/-- The call reads a robot that is not away. -/
def Call.meetsRobot : (c : Call) → Ans c → Bool
  | .read (.robotById _), .ok (some robot) => !away robot
  | _, _ => false

/-- The call fails; a commit that is lost on the way back has not. -/
def Call.fails : (c : Call) → Ans c → Bool
  | .read _, .error _ | .lookup _, .error _ => true
  | .read _, .ok _ | .lookup _, .ok _ => false
  | .commit _, fate => !Fate.applied fate
  | .flush, fate | .enqueue _, fate | .deleteLease _, fate | .appendEvent _, fate => Fate.raises fate
  | .respond _, _ => false

/-- How far a release has come: it goes on, it has committed, a call has failed, or it has met a robot that is
not away. -/
inductive Course where
  | going
  | committed
  | failed
  | excused
  deriving DecidableEq

/-- A release that goes on sends nothing, and it makes no call once it has committed or failed. -/
def Course.allows : Course → Call → Prop
  | .going, .enqueue _ => False
  | .going, _ | .excused, _ => True
  | .committed, _ | .failed, _ => False

/-- The course after a call. -/
def Course.next (course : Course) (c : Call) (answer : Ans c) : Course :=
  match course with
  | .going =>
    if c.fails answer then .failed
    else if c.meetsRobot answer then .excused
    else match c with
      | .commit _ => .committed
      | _ => .going
  | course => course

/-- The course of a release. -/
def courses : Process.Discipline Call Ans Course where
  allows := Course.allows
  next := Course.next

/-- A part of a release that goes on has not raised, and one that has failed has. -/
def Goes {α : Type} : Course → Except Thrown α → Prop
  | .going, .ok _ | .failed, .error _ | .excused, _ => True
  | .going, .error _ | .failed, .ok _ | .committed, _ => False

/-- A release does not end before its commit, unless a call has failed. -/
def Ends {α : Type} (course : Course) (_ : Except Thrown α) : Prop := course ≠ .going

/-! ## The parts -/

section

variable {α β : Type}

/-- A release that is excused may do anything. -/
theorem keeps_excused {fits : Course → Except Thrown α → Prop} (any : ∀ r, fits .excused r) (p : Script α) :
    p.Keeps courses fits .excused := by
  induction p with
  | ret a => exact any _
  | raise e => exact any _
  | call c next ih => exact ⟨trivial, fun answer => ih answer⟩

variable {fits : Course → Except Thrown β → Prop} (failed : ∀ e, fits .failed (.error e))

include failed

/-- A query, and what follows it. -/
theorem read_goes {q : Query} {f : q.Answer → Script β}
    (rest : ∀ a, (f a).Keeps courses fits (Course.next .going (.read q) (.ok a))) :
    (read q >>= f).Keeps courses fits .going := by
  refine ⟨trivial, fun answer => ?_⟩
  cases answer with
  | error e => exact failed e
  | ok a => exact rest a

/-- A query about anything but a robot. -/
theorem read_plain {q : Query} (plain : ∀ a, Call.meetsRobot (.read q) (.ok a) = false) {f : q.Answer → Script β}
    (rest : ∀ a, (f a).Keeps courses fits .going) : (read q >>= f).Keeps courses fits .going := by
  refine read_goes failed fun a => ?_
  have stays : Course.next .going (.read q) (.ok a) = .going := by
    simp only [Course.next, Call.fails, plain a, Bool.false_eq_true, if_false]
  rw [stays]
  exact rest a

/-- A release goes on after a flush. -/
theorem flush_goes {f : Unit → Script β} (rest : (f ()).Keeps courses fits .going) :
    (flush >>= f).Keeps courses fits .going := by
  refine ⟨trivial, fun fate => ?_⟩
  cases fate with
  | done => exact rest
  | failed | lost => exact failed _

/-- It goes on after the deletion of a lease. -/
theorem deleteLease_goes {robotId : String} {f : Unit → Script β} (rest : (f ()).Keeps courses fits .going) :
    (deleteLease robotId >>= f).Keeps courses fits .going := by
  refine ⟨trivial, fun fate => ?_⟩
  cases fate with
  | done => exact rest
  | failed | lost => exact failed _

end

/-- One part after the other. -/
theorem goes_bind {α β : Type} {fits : Course → Except Thrown β → Prop} {p : Script α} {f : α → Script β}
    (failed : ∀ e, fits .failed (.error e)) (any : ∀ r, fits .excused r) (first : p.Keeps courses Goes .going)
    (rest : ∀ a, (f a).Keeps courses fits .going) : (p >>= f).Keeps courses fits .going := by
  refine Process.keeps_bind (first.mono ?_)
  rintro (_ | _ | _ | _) (e | a) goes
  · exact goes.elim
  · exact rest a
  · exact goes.elim
  · exact goes.elim
  · exact failed e
  · exact goes.elim
  · exact any _
  · exact keeps_excused any _

/-- A release that has failed may end with an exception. -/
theorem goes_failed {α : Type} (e : Thrown) : Goes .failed (.error e : Except Thrown α) := trivial

/-- So may a release that has met another robot. -/
theorem goes_excused {α : Type} (r : Except Thrown α) : Goes .excused r := by
  cases r <;> trivial

/-! ## A release -/

/-- A robot whose boot is known has a payload. -/
theorem payload_goes {order : Order} (boot : Commands.checkBoot order.robot order.cmd = .ok ()) :
    order.payload.Keeps courses Goes .going := by
  unfold Order.payload
  rw [boot]
  refine read_plain goes_failed (fun _ => rfl) fun now => ?_
  exact read_plain goes_failed (fun _ => rfl) fun id => trivial

/-- The boot check lets a robot pass that is away. -/
theorem checkBoot_of_away {robot : Robot} (gone : away robot = true) :
    Commands.checkBoot robot .stopMotion = .ok () := by
  have known := (Bool.and_eq_true_iff.mp gone).1
  unfold Commands.checkBoot
  cases boot : robot.bootId with
  | none =>
    rw [boot] at known
    cases known
  | some id =>
    rw [boot] at known
    have text : id ≠ "" := of_decide_eq_true known
    simp [text]

/-- The stop of a robot that is away is recorded, and not sent. -/
theorem stopReleased_goes (userId robotId : String) {robot : Robot} (gone : away robot = true) :
    (stopReleased userId robotId robot).Keeps courses Goes .going := by
  have unreachable : robot.onlineState ≠ .online := of_decide_eq_true (Bool.and_eq_true_iff.mp gone).2
  unfold stopReleased
  refine goes_bind goes_failed goes_excused (payload_goes (checkBoot_of_away gone)) fun payload => ?_
  refine flush_goes goes_failed ?_
  dsimp only
  rw [if_neg unreachable]
  trivial

/-- The release of one lease. -/
theorem releaseLease_goes (userId reason robotId : String) :
    (releaseLease userId reason robotId).Keeps courses Goes .going := by
  unfold releaseLease
  refine read_plain goes_failed (fun _ => rfl) fun raw => ?_
  split
  · trivial
  next lease _ =>
    refine deleteLease_goes goes_failed ?_
    refine read_plain goes_failed (fun _ => rfl) fun session => ?_
    refine read_plain goes_failed (fun _ => rfl) fun now => ?_
    refine read_goes goes_failed fun robot => ?_
    cases robot with
    | none => trivial
    | some robot =>
      cases gone : away robot with
      | false =>
        have met : Course.next .going (.read (.robotById lease.robotId)) (.ok (some robot)) = .excused := by
          simp [Course.next, Call.fails, Call.meetsRobot, gone]
        rw [met]
        exact keeps_excused goes_excused _
      | true =>
        have stays : Course.next .going (.read (.robotById lease.robotId)) (.ok (some robot)) = .going := by
          simp [Course.next, Call.fails, Call.meetsRobot, gone]
        rw [stays]
        exact goes_bind goes_failed goes_excused (stopReleased_goes userId lease.robotId gone) fun _ => trivial

/-- The releases of all robots, one after another. -/
theorem releaseLeases_goes (userId reason : String) (robotIds : List String) :
    (releaseLeases userId reason robotIds).Keeps courses Goes .going := by
  induction robotIds with
  | nil => trivial
  | cons robotId rest ih =>
    refine goes_bind goes_failed goes_excused (releaseLease_goes userId reason robotId) fun rows => ?_
    exact goes_bind goes_failed goes_excused ih fun _ => trivial

/-- **A release that meets no robot sends nothing, and ends with its commit or with a call that fails.** -/
theorem release_course (userId reason : String) :
    (releaseUserLeases userId reason).Keeps courses Ends .going := by
  unfold releaseUserLeases
  have failed : ∀ e : Thrown, Ends .failed (.error e : Except Thrown Unit) := fun e same => by cases same
  refine read_plain failed (fun _ => rfl) fun keys => ?_
  refine goes_bind failed (fun r same => by cases same) (releaseLeases_goes userId reason keys) fun rows => ?_
  refine ⟨trivial, fun fate => ?_⟩
  cases fate <;> exact Course.noConfusion

end Firebot.Api
