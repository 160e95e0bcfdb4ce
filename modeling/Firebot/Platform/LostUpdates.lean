import Firebot.Platform.LatestWriters

/-!
# No lost update

The ingress and the worker read a vehicle's document and write it back late. `NoLostUpdate` says that nothing
is lost by that: the document is what the completed operations make of it one after the other in some order,
and no operation replaces a pose or an online state that is newer than what it has read.

**It holds wherever every write finds the fields that its operation leaves as they are with the values that the
operation has read, and the pose and the online state so or as it sets them** (`late_writers`). Nothing in the
code sees to that: a tick of the worker takes a location back that comes in between (`pose_taken_back`).
-/

namespace Firebot.Platform

open Firebot.Robots Firebot.MqttIngress Firebot.Worker Patches

/-- The fields of a pose. -/
def poseFields : List JsonText := ["position", "x", "y", "theta"]

/-- The field of an online or offline mark. -/
def markFields : List JsonText := ["online_state"]

section

variable (v : String) (start : Option Latest) (events : List (Patches.Event LatestOp))

/-- In every state the document is that of the completed operations, one after the other in some order; and a
newer pose, and a newer online state, stay as they are. -/
structure NoLostUpdate : Prop where
  serializable : ∀ before after, events = before ++ after →
    ((World.initial (LatestOp.writer v) start).run before).Serializable start
  pose : Runs.Meets World.step (World.Respects (· ∈ poseFields)) (World.initial (LatestOp.writer v) start) events
  mark : Runs.Meets World.step (World.Respects (· ∈ markFields))
    (World.initial (LatestOp.writer v) start) events

/-- The same, where the order is that of the writes. -/
structure InOrder : Prop where
  serial : ∀ before after, events = before ++ after →
    ((World.initial (LatestOp.writer v) start).run before).Serial start
  guarded : Runs.Meets World.step (World.Respects (· ∈ poseFields ++ markFields))
    (World.initial (LatestOp.writer v) start) events

variable {v start events}

theorem InOrder.noLostUpdate (h : InOrder v start events) : NoLostUpdate v start events := by
  have fewer : ∀ keys : JsonText → Prop, (∀ name, keys name → name ∈ poseFields ++ markFields) →
      Runs.Meets World.step (World.Respects keys) (World.initial (LatestOp.writer v) start) events := by
    intro keys among
    rw [Runs.meets_iff]
    intro before e after split
    have respects := Runs.meets_iff.mp h.guarded before e after split
    cases e with
    | read op => trivial
    | abandon index => trivial
    | write index =>
      intro p d found now name key
      exact respects p d found now name (among name key)
  constructor
  · intro before after split
    exact (h.serial before after split).serializable
  · apply fewer
    intro name pose
    exact List.mem_append_left _ pose
  · apply fewer
    intro name mark
    exact List.mem_append_right _ mark

variable (v start events)

/-- Every write finds the fields that its operation leaves as they are with the values that the operation has
read, and the pose and the online state so or as it sets them. -/
def Undisturbed : Prop :=
  Runs.Meets World.step (fun s e => World.Undisturbed s e ∧ World.Current (· ∈ poseFields ++ markFields) s e)
    (World.initial (LatestOp.writer v) start) events

theorem undisturbed_iff_inOrder : Undisturbed v start events ↔ InOrder v start events := by
  unfold Undisturbed
  rw [← serial_and_respects_iff]
  constructor
  · intro h
    exact ⟨h.1, h.2⟩
  · intro h
    exact ⟨h.serial, h.guarded⟩

/-- **Nothing is lost** where every write is undisturbed; and only there nothing is lost in the order of the
writes. What an operation writes is what its handler stores. -/
theorem late_writers :
    (Undisturbed v start events → NoLostUpdate v start events) ∧
      (Undisturbed v start events ↔ InOrder v start events) ∧ LatestOp.Stored v := by
  refine ⟨?_, undisturbed_iff_inOrder v start events, LatestOp.stored v⟩
  intro undisturbed
  exact ((undisturbed_iff_inOrder v start events).mp undisturbed).noLostUpdate

end

/-! ## A tick and a location -/

/-- The time of the tick. -/
def movedAt : Time := 1767225605000

/-- Python, as far as the location goes. -/
def movedEnv : Env := Env.knowing [] [("2026-01-01T00:00:05+00:00", movedAt)]

/-- The robot was heard of five seconds ago. -/
def movedReads : Reads where
  rows := .empty
  vehicle :=
    { Vehicle.initial "r1" "site" with
      robot := { (Vehicle.initial "r1" "site").robot with
                 onlineState := .online
                 lastSeenAt := some (movedAt - 5 * second)
                 bootId := some "00000000-0000-4000-8000-00000000000a" } }

/-- The robot is at another place. -/
def movedMessage : JsonTree :=
  .obj [("schema_version", .str "1.3"),
    ("message_id", .str "00000000-0000-4000-8000-000000000002"),
    ("type", .str "location"), ("vehicle_id", .str "R1"),
    ("boot_id", .str "00000000-0000-4000-8000-00000000000a"),
    ("timestamp", .str "2026-01-01T00:00:05+00:00"), ("seq", .int 2),
    ("position", .obj [("x", .int 5), ("y", .int 0), ("theta", .int 0)]),
    ("site_code", .str "site"), ("map_code", .str "map"), ("map_version", .str "1"),
    ("map_checksum", .str "0123456789abcdef"), ("frame_id", .str "map")]

/-- The document before. -/
def movedStart : Option Latest :=
  Latest.of (.obj [("vehicle_id", .str "R1"), ("robot_id", .str "r1"), ("online_state", .str "ONLINE"),
    ("position", .obj [("x", .int 0), ("y", .int 0), ("theta", .int 0)]),
    ("x", .int 0), ("y", .int 0), ("theta", .int 0)])

/-- The tick reads, the location is handled, and the tick writes. -/
def movedRun : List (Patches.Event LatestOp) :=
  [.read (.reconcile .default movedAt movedReads),
    .read (.message movedEnv (.plain movedAt) .canonicalMqtt movedMessage movedAt movedReads),
    .write 1, .write 0]

set_option maxRecDepth 4000 in
/-- A tick that began before a location takes its pose back. -/
theorem pose_taken_back : ¬ ∀ v start events, NoLostUpdate v start events := by
  intro claim
  obtain ⟨-, -, -, respects, -⟩ := (claim "R1" movedStart movedRun).pose
  generalize state : World.step (World.step (World.step _ _) _) _ = s at respects
  have pending : (s.pending[0]?).any (fun p => p.seen.any (fun latest => atMost 0 (latest.doc.getD "x")) &&
      atMost 0 (p.doc.doc.getD "x")) = true := by
    rw [← state]
    decide +kernel
  have current : s.doc.any (fun latest => !atMost 0 (latest.doc.getD "x")) = true := by
    rw [← state]
    decide +kernel
  obtain ⟨p, found, read⟩ := (Option.any_eq_true _ _).mp pending
  obtain ⟨d, now, moved⟩ := (Option.any_eq_true _ _).mp current
  obtain ⟨old, stale⟩ := Bool.and_eq_true_iff.mp read
  obtain ⟨e, seen, origin⟩ := (Option.any_eq_true _ _).mp old
  have kept : p.doc.doc.get "x" = d.doc.get "x" := by
    apply respects p d found now "x" (by decide)
    intro same
    change p.seen.bind (fun latest => latest.doc.get "x") = d.doc.get "x" at same
    rw [seen, Option.bind_some] at same
    unfold JsonTree.getD at origin moved
    rw [← same, origin] at moved
    cases moved
  unfold JsonTree.getD at stale moved
  rw [← kept, stale] at moved
  cases moved

end Firebot.Platform
