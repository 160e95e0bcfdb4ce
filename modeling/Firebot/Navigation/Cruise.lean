import Mathlib.Analysis.SpecialFunctions.Trigonometric.Basic
import Mathlib.Data.List.Sort
import Firebot.Data.PyInt
import Firebot.Patrols.Route

/-!
# The cruise past every slot

`build_cruise_waypoints`: the slots are told into five groups by the number in their code, each group is driven
along in its own direction, and between two groups the vehicle turns. The vehicle detects fire on its right,
so a slot is passed at a pose that has it there. Coordinates are rational; a heading is the multiple of π that
the source writes, with the sine and the cosine of that angle.

A code without a number raises a `ValueError`, an empty group an `IndexError`: the result is `none` then.

**Where every group has a slot, the cruise begins and ends at the remote waiting point, and its INSPECTION
waypoints are the slots one for one, each on the vehicle's right, numbered from 1 on** (`cruise_covers`).
Nothing is said of what the vehicle sees from there, nor of the way between two waypoints.
-/

namespace Firebot.Navigation

open Firebot.Patrols (WaypointKind)

/-- `SlotRef`. -/
structure SlotRef where
  code : String
  x : ℚ
  y : ℚ
  deriving DecidableEq

/-- The headings `math.pi / 2`, `-math.pi / 2` and `math.pi`. -/
inductive Heading where
  | north
  | south
  | west
  deriving DecidableEq, Repr

/-- The multiple of π that a heading is. -/
def Heading.halfTurns : Heading → ℚ
  | .north => 1 / 2
  | .south => -1 / 2
  | .west => 1

/-- The angle of a heading. -/
noncomputable def Heading.angle (theta : Heading) : ℝ := theta.halfTurns * Real.pi

/-- A pose that `inspection_pose` returns. -/
structure InspectionPose where
  x : ℚ
  y : ℚ
  theta : Heading
  deriving DecidableEq

/-- A waypoint of the cruise. -/
structure CruiseWaypoint where
  x : ℚ
  y : ℚ
  kind : WaypointKind
  theta : Option Heading
  slotCode : Option String
  sequence : Option Nat
  deriving DecidableEq

/-! ## Groups -/

/-- `slot_number`. -/
def slotNumber (code : String) : Option Int :=
  let last := (code.toList.reverse.takeWhile (· ≠ '-')).reverse
  let digits := last.dropWhile (· = '0')
  pyInt (if digits = [] then ['0'] else digits)

/-- The groups of slots. -/
inductive Group where
  | top
  | col1
  | col2
  | col3
  | col4
  deriving DecidableEq, Repr

/-- `group_of`. -/
def groupOf (code : String) : Option Group := do
  let n ← slotNumber code
  if n ≤ 18 then return .top
  if n ≤ 27 then return .col1
  if n ≤ 36 then return .col2
  if n ≤ 45 then return .col3
  return .col4

/-- `[s for s in slots if group_of(s.code) == group]`. -/
def slotsOf (group : Group) : List SlotRef → Option (List SlotRef)
  | [] => some []
  | slot :: slots => do
    let own ← groupOf slot.code
    let rest ← slotsOf group slots
    return if own = group then slot :: rest else rest

/-- `sorted(slots, key=lambda s: -s.y)`. -/
def southward (slots : List SlotRef) : List SlotRef := slots.insertionSort fun s t => t.y ≤ s.y

/-- `sorted(slots, key=lambda s: s.y)`. -/
def northward (slots : List SlotRef) : List SlotRef := slots.insertionSort fun s t => s.y ≤ t.y

/-- `sorted(slots, key=lambda s: -s.x)`. -/
def westward (slots : List SlotRef) : List SlotRef := slots.insertionSort fun s t => t.x ≤ s.x

/-- `ordered_groups`. -/
def orderedGroups (slots : List SlotRef) : Option (List (List SlotRef)) := do
  let col1 ← slotsOf .col1 slots
  let col2 ← slotsOf .col2 slots
  let col3 ← slotsOf .col3 slots
  let col4 ← slotsOf .col4 slots
  let top ← slotsOf .top slots
  return [southward col1, northward col2, southward col3, northward col4, westward top]

/-! ## Poses -/

/-- `_TOP_LANE_OFFSET_Y`. -/
def topLaneOffsetY : ℚ := -28 / 10

/-- `_COLUMN_LANE_OFFSET`. -/
def columnLaneOffset : ℚ := 3

/-- `inspection_pose`. -/
def inspectionPose (slot : SlotRef) : Option InspectionPose := do
  match ← groupOf slot.code with
  | .top => return ⟨slot.x, slot.y + topLaneOffsetY, .west⟩
  | .col1 | .col3 => return ⟨slot.x + columnLaneOffset, slot.y, .south⟩
  | .col2 | .col4 => return ⟨slot.x - columnLaneOffset, slot.y, .north⟩

/-- `slot_is_on_vehicle_right`, with `vehicle_right_vector`. -/
def SlotIsOnVehicleRight (x y : ℚ) (theta : Heading) (slot : SlotRef) : Prop :=
  0 < ((slot.x - x : ℚ) : ℝ) * Real.sin theta.angle + ((slot.y - y : ℚ) : ℝ) * -Real.cos theta.angle

/-! ## The route -/

/-- A waypoint that is only passed. -/
def passing (kind : WaypointKind) (x y : ℚ) : CruiseWaypoint := ⟨x, y, kind, none, none, none⟩

/-- `REMOTE_WAITING`. -/
def remote : CruiseWaypoint := ⟨12 / 10, 12 / 10, .waiting, some .north, none, none⟩

/-- `NORTH_TRANSFER_Y`. -/
def northTransferY : ℚ := 27

/-- The waypoints at the slots of a group; `sequence` is the number of slots before them. -/
def inspect (sequence : Nat) : List SlotRef → Option (List CruiseWaypoint)
  | [] => some []
  | slot :: slots => do
    let pose ← inspectionPose slot
    let rest ← inspect (sequence + 1) slots
    return ⟨pose.x, pose.y, .inspection, some pose.theta, some slot.code, some (sequence + 1)⟩ :: rest

/-- The way from the end of a group to the beginning of the next. -/
def turnTo (groupIndex : Nat) (last next : InspectionPose) : List CruiseWaypoint :=
  if groupIndex = 0 ∨ groupIndex = 2 then [passing .turn last.x (15 / 10), passing .turn next.x (15 / 10)]
  else if groupIndex = 1 then [passing .turn last.x northTransferY, passing .turn next.x northTransferY]
  else [passing .turn last.x next.y]

/-- The pose at the first slot of a group, `inspection_pose(group[0])`. -/
def firstPose (group : List SlotRef) : Option InspectionPose := group.head?.bind inspectionPose

/-- The pose at the last slot of a group, `inspection_pose(group[-1])`. -/
def lastPose (group : List SlotRef) : Option InspectionPose := group.getLast?.bind inspectionPose

/-- The loop over the groups. -/
def cruiseGroups : Nat → Nat → List (List SlotRef) → Option (List CruiseWaypoint)
  | _, _, [] => some []
  | _, sequence, [group] => inspect sequence group
  | groupIndex, sequence, group :: next :: groups => do
    let stops ← inspect sequence group
    let last ← lastPose group
    let first ← firstPose next
    let rest ← cruiseGroups (groupIndex + 1) (sequence + group.length) (next :: groups)
    return stops ++ turnTo groupIndex last first ++ rest

/-- `build_cruise_waypoints`. -/
def buildCruiseWaypoints (slots : List SlotRef) : Option (List CruiseWaypoint) := do
  let groups ← orderedGroups slots
  let first ← groups.head?.bind firstPose
  let stops ← cruiseGroups 0 0 groups
  let topEnd ← groups.getLast?.bind lastPose
  return remote :: passing .transit remote.x northTransferY :: passing .transit first.x northTransferY ::
    (stops ++ [passing .transit remote.x topEnd.y, remote])

/-- The INSPECTION waypoints. -/
def inspectionsOf (waypoints : List CruiseWaypoint) : List CruiseWaypoint :=
  waypoints.filter (·.kind = .inspection)

/-! ## Every slot is in one group -/

/-- The slots of a group are those whose code is in it. -/
theorem slotsOf_eq {group : Group} {slots members : List SlotRef} (h : slotsOf group slots = some members) :
    members = slots.filter (fun slot => groupOf slot.code = some group) ∧
      ∀ slot ∈ slots, (groupOf slot.code).isSome := by
  induction slots generalizing members with
  | nil =>
    cases h
    exact ⟨rfl, fun _ none => absurd none List.not_mem_nil⟩
  | cons slot slots ih =>
    unfold slotsOf at h
    obtain ⟨own, grouped, h⟩ := Option.bind_eq_some_iff.mp h
    obtain ⟨rest, found, h⟩ := Option.bind_eq_some_iff.mp h
    obtain ⟨same, all⟩ := ih found
    cases h
    refine ⟨?_, ?_⟩
    · rw [List.filter_cons, grouped, ← same]
      by_cases here : own = group
      · simp [here]
      · simp [here]
    · intro other mem
      rcases List.mem_cons.mp mem with rfl | mem
      · rw [grouped]
        rfl
      · exact all other mem

/-- How often a slot is among the members of a group. -/
theorem count_members (group : Group) (slot : SlotRef) (slots : List SlotRef) :
    (slots.filter fun slot => groupOf slot.code = some group).count slot =
      if groupOf slot.code = some group then slots.count slot else 0 := by
  split
  · next own => exact List.count_filter (decide_eq_true own)
  · next other =>
    apply List.count_eq_zero_of_not_mem
    intro mem
    exact other (of_decide_eq_true (List.mem_filter.mp mem).2)

/-- A list is its members of the five groups. -/
theorem perm_groups {slots : List SlotRef} (all : ∀ slot ∈ slots, (groupOf slot.code).isSome) :
    List.Perm ([Group.col1, .col2, .col3, .col4, .top].flatMap fun group =>
      slots.filter fun slot => groupOf slot.code = some group) slots := by
  rw [List.perm_iff_count]
  intro slot
  simp only [List.flatMap_cons, List.flatMap_nil, List.append_nil, List.count_append, count_members]
  by_cases mem : slot ∈ slots
  · obtain ⟨own, grouped⟩ := Option.isSome_iff_exists.mp (all slot mem)
    rw [grouped]
    cases own <;> simp
  · simp [List.count_eq_zero_of_not_mem mem]

/-- The ordered groups hold every slot, and each as often as the list does. -/
theorem orderedGroups_perm {slots : List SlotRef} {groups : List (List SlotRef)}
    (h : orderedGroups slots = some groups) : List.Perm groups.flatten slots := by
  unfold orderedGroups at h
  obtain ⟨col1, found1, h⟩ := Option.bind_eq_some_iff.mp h
  obtain ⟨col2, found2, h⟩ := Option.bind_eq_some_iff.mp h
  obtain ⟨col3, found3, h⟩ := Option.bind_eq_some_iff.mp h
  obtain ⟨col4, found4, h⟩ := Option.bind_eq_some_iff.mp h
  obtain ⟨top, found5, h⟩ := Option.bind_eq_some_iff.mp h
  cases h
  refine List.Perm.trans ?_ (perm_groups (slotsOf_eq found1).2)
  simp only [List.flatten_cons, List.flatten_nil, List.flatMap_cons, List.flatMap_nil, ← (slotsOf_eq found1).1,
    ← (slotsOf_eq found2).1, ← (slotsOf_eq found3).1, ← (slotsOf_eq found4).1, ← (slotsOf_eq found5).1]
  refine (List.perm_insertionSort _ _).append ?_
  refine (List.perm_insertionSort _ _).append ?_
  refine (List.perm_insertionSort _ _).append ?_
  refine (List.perm_insertionSort _ _).append ?_
  exact (List.perm_insertionSort _ _).append (.refl _)

/-- Where there are groups, every code has a number. -/
theorem orderedGroups_isSome {slots : List SlotRef} {groups : List (List SlotRef)}
    (h : orderedGroups slots = some groups) : ∀ slot ∈ slots, (groupOf slot.code).isSome := by
  unfold orderedGroups at h
  obtain ⟨col1, found, _⟩ := Option.bind_eq_some_iff.mp h
  exact (slotsOf_eq found).2

/-- There are groups, empty or not, whenever the codes have numbers. -/
theorem orderedGroups_ne_nil {slots : List SlotRef} {groups : List (List SlotRef)}
    (h : orderedGroups slots = some groups) : groups ≠ [] := by
  unfold orderedGroups at h
  obtain ⟨_, _, h⟩ := Option.bind_eq_some_iff.mp h
  obtain ⟨_, _, h⟩ := Option.bind_eq_some_iff.mp h
  obtain ⟨_, _, h⟩ := Option.bind_eq_some_iff.mp h
  obtain ⟨_, _, h⟩ := Option.bind_eq_some_iff.mp h
  obtain ⟨_, _, h⟩ := Option.bind_eq_some_iff.mp h
  cases h
  exact List.cons_ne_nil _ _

/-! ## Every slot is passed on the right -/

/-- North is a quarter turn. -/
theorem Heading.angle_north : Heading.north.angle = Real.pi / 2 := by
  unfold angle halfTurns
  push_cast
  ring

/-- South is a quarter turn the other way. -/
theorem Heading.angle_south : Heading.south.angle = -(Real.pi / 2) := by
  unfold angle halfTurns
  push_cast
  ring

/-- West is half a turn. -/
theorem Heading.angle_west : Heading.west.angle = Real.pi := by
  unfold angle halfTurns
  push_cast
  ring

/-- The pose at a slot has it on the right of the vehicle. -/
theorem inspectionPose_right {slot : SlotRef} {pose : InspectionPose} (h : inspectionPose slot = some pose) :
    SlotIsOnVehicleRight pose.x pose.y pose.theta slot := by
  unfold inspectionPose at h
  obtain ⟨group, _, h⟩ := Option.bind_eq_some_iff.mp h
  cases group <;> cases h
  case top =>
    show 0 < _ * Real.sin Heading.west.angle + _ * -Real.cos Heading.west.angle
    rw [Heading.angle_west, Real.sin_pi, Real.cos_pi]
    simp only [topLaneOffsetY]
    push_cast
    norm_num
  case col1 | col3 =>
    show 0 < _ * Real.sin Heading.south.angle + _ * -Real.cos Heading.south.angle
    rw [Heading.angle_south, Real.sin_neg, Real.cos_neg, Real.sin_pi_div_two, Real.cos_pi_div_two]
    simp [columnLaneOffset]
  case col2 | col4 =>
    show 0 < _ * Real.sin Heading.north.angle + _ * -Real.cos Heading.north.angle
    rw [Heading.angle_north, Real.sin_pi_div_two, Real.cos_pi_div_two]
    simp [columnLaneOffset]

/-- The waypoint inspects the slot: it bears its code, and has it on the right. -/
structure Inspects (slot : SlotRef) (waypoint : CruiseWaypoint) : Prop where
  code : waypoint.slotCode = some slot.code
  right : ∃ theta, waypoint.theta = some theta ∧ SlotIsOnVehicleRight waypoint.x waypoint.y theta slot

/-- The codes at the waypoints are those of the slots. -/
theorem codes_of_inspects {slots : List SlotRef} {waypoints : List CruiseWaypoint}
    (h : List.Forall₂ Inspects slots waypoints) :
    waypoints.map CruiseWaypoint.slotCode = (slots.map SlotRef.code).map some := by
  induction h with
  | nil => rfl
  | cons first _ ih => exact congrArg₂ _ first.code ih

/-- What the waypoints of a route inspect: these slots one after the other, with the numbers after `before`. -/
structure Covers (before : Nat) (slots : List SlotRef) (waypoints : List CruiseWaypoint) : Prop where
  inspects : List.Forall₂ Inspects slots (inspectionsOf waypoints)
  sequence : (inspectionsOf waypoints).map CruiseWaypoint.sequence =
    (List.range' (before + 1) slots.length).map some

/-- Routes follow one another. -/
theorem Covers.append {before : Nat} {slots slots' : List SlotRef} {waypoints waypoints' : List CruiseWaypoint}
    (h : Covers before slots waypoints) (h' : Covers (before + slots.length) slots' waypoints') :
    Covers before (slots ++ slots') (waypoints ++ waypoints') where
  inspects := by
    unfold inspectionsOf
    rw [List.filter_append]
    exact List.rel_append h.inspects h'.inspects
  sequence := by
    unfold inspectionsOf
    rw [List.filter_append, List.map_append, List.length_append, List.range'_append_1.symm, List.map_append]
    refine congrArg₂ _ h.sequence ?_
    rw [show before + 1 + slots.length = before + slots.length + 1 by omega]
    exact h'.sequence

/-- What is only passed inspects nothing. -/
theorem Covers.passing {before : Nat} {waypoints : List CruiseWaypoint}
    (passed : ∀ waypoint ∈ waypoints, waypoint.kind ≠ .inspection) : Covers before [] waypoints := by
  have none : inspectionsOf waypoints = [] := by
    apply List.filter_eq_nil_iff.mpr
    intro waypoint mem inspects
    exact passed waypoint mem (of_decide_eq_true inspects)
  exact ⟨by rw [none]; exact .nil, by rw [none]; rfl⟩

/-- The inspection of a group covers its slots, numbered from where the group before has ended. -/
theorem inspect_covers {before : Nat} {slots : List SlotRef} {waypoints : List CruiseWaypoint}
    (h : inspect before slots = some waypoints) : Covers before slots waypoints := by
  induction slots generalizing before waypoints with
  | nil =>
    cases h
    exact .passing fun _ none => absurd none List.not_mem_nil
  | cons slot slots ih =>
    unfold inspect at h
    obtain ⟨pose, posed, h⟩ := Option.bind_eq_some_iff.mp h
    obtain ⟨rest, found, h⟩ := Option.bind_eq_some_iff.mp h
    cases h
    refine @Covers.append before [slot] slots [_] _ ⟨?_, rfl⟩ (ih found)
    exact .cons ⟨rfl, pose.theta, rfl, inspectionPose_right posed⟩ .nil

/-- A turn inspects nothing. -/
theorem turnTo_passing (groupIndex : Nat) (last next : InspectionPose) :
    ∀ waypoint ∈ turnTo groupIndex last next, waypoint.kind ≠ .inspection := by
  unfold turnTo
  split
  · simp [passing]
  · split <;> simp [passing]

/-- The loop inspects the slots of the groups in their order. -/
theorem cruiseGroups_covers {groupIndex before : Nat} {groups : List (List SlotRef)}
    {waypoints : List CruiseWaypoint} (h : cruiseGroups groupIndex before groups = some waypoints) :
    Covers before groups.flatten waypoints := by
  induction groups generalizing groupIndex before waypoints with
  | nil =>
    cases h
    exact .passing fun _ none => absurd none List.not_mem_nil
  | cons group groups ih =>
    cases groups with
    | nil =>
      rw [List.flatten_cons, List.flatten_nil, List.append_nil]
      exact inspect_covers h
    | cons next groups =>
      unfold cruiseGroups at h
      obtain ⟨stops, inspected, h⟩ := Option.bind_eq_some_iff.mp h
      obtain ⟨last, _, h⟩ := Option.bind_eq_some_iff.mp h
      obtain ⟨first, _, h⟩ := Option.bind_eq_some_iff.mp h
      obtain ⟨rest, found, h⟩ := Option.bind_eq_some_iff.mp h
      cases h
      have turned := (inspect_covers inspected).append (.passing (turnTo_passing groupIndex last first))
      rw [List.append_nil] at turned
      exact turned.append (ih found)

/-! ## The route is there -/

/-- A slot whose code has a number has a pose to be inspected from. -/
theorem inspectionPose_isSome {slot : SlotRef} (grouped : (groupOf slot.code).isSome) :
    (inspectionPose slot).isSome := by
  obtain ⟨group, own⟩ := Option.isSome_iff_exists.mp grouped
  unfold inspectionPose
  rw [own]
  cases group <;> rfl

/-- A group of such slots can be inspected. -/
theorem inspect_isSome (before : Nat) {slots : List SlotRef}
    (all : ∀ slot ∈ slots, (groupOf slot.code).isSome) : (inspect before slots).isSome := by
  induction slots generalizing before with
  | nil => rfl
  | cons slot slots ih =>
    obtain ⟨pose, posed⟩ := Option.isSome_iff_exists.mp (inspectionPose_isSome (all slot List.mem_cons_self))
    obtain ⟨rest, found⟩ := Option.isSome_iff_exists.mp
      (ih (before + 1) fun other mem => all other (List.mem_cons_of_mem _ mem))
    unfold inspect
    rw [posed]
    show ((inspect (before + 1) slots).bind _).isSome
    rw [found]
    rfl

/-- A group with a slot has a first and a last pose. -/
theorem poses_isSome {group : List SlotRef} (nonempty : group ≠ [])
    (all : ∀ slot ∈ group, (groupOf slot.code).isSome) : (firstPose group).isSome ∧ (lastPose group).isSome := by
  constructor
  · unfold firstPose
    rw [List.head?_eq_some_head nonempty, Option.bind_some]
    exact inspectionPose_isSome (all (group.head nonempty) (List.head_mem nonempty))
  · unfold lastPose
    rw [List.getLast?_eq_some_getLast nonempty, Option.bind_some]
    exact inspectionPose_isSome (all (group.getLast nonempty) (List.getLast_mem nonempty))

/-- Groups that are not empty can be driven along one after another. -/
theorem cruiseGroups_isSome (groupIndex before : Nat) {groups : List (List SlotRef)}
    (nonempty : ∀ group ∈ groups, group ≠ [])
    (all : ∀ group ∈ groups, ∀ slot ∈ group, (groupOf slot.code).isSome) :
    (cruiseGroups groupIndex before groups).isSome := by
  induction groups generalizing groupIndex before with
  | nil => rfl
  | cons group groups ih =>
    have own := all group List.mem_cons_self
    cases groups with
    | nil => exact inspect_isSome before own
    | cons next groups =>
      have mem : next ∈ group :: next :: groups := List.mem_cons_of_mem _ List.mem_cons_self
      obtain ⟨stops, inspected⟩ := Option.isSome_iff_exists.mp (inspect_isSome before own)
      obtain ⟨last, ends⟩ := Option.isSome_iff_exists.mp (poses_isSome (nonempty _ List.mem_cons_self) own).2
      obtain ⟨first, begins⟩ := Option.isSome_iff_exists.mp (poses_isSome (nonempty _ mem) (all _ mem)).1
      obtain ⟨rest, found⟩ := Option.isSome_iff_exists.mp
        (ih (groupIndex + 1) (before + group.length)
          (fun group mem => nonempty group (List.mem_cons_of_mem _ mem))
          (fun group mem => all group (List.mem_cons_of_mem _ mem)))
      unfold cruiseGroups
      simp [inspected, ends, begins, found]

/-- The cruise covers every slot: it begins and ends at the remote waiting point, and its INSPECTION waypoints
are the slots one for one, each on the vehicle's right, numbered from 1 on. -/
theorem cruise_covers (slots : List SlotRef) (distinct : (slots.map SlotRef.code).Nodup)
    (groups : List (List SlotRef)) (grouped : orderedGroups slots = some groups)
    (nonempty : ∀ group ∈ groups, group ≠ []) :
    ∃ waypoints, buildCruiseWaypoints slots = some waypoints ∧
      (∃ order, List.Perm order slots ∧ List.Forall₂ Inspects order (inspectionsOf waypoints)) ∧
      ((inspectionsOf waypoints).map CruiseWaypoint.slotCode).Nodup ∧
      (inspectionsOf waypoints).map CruiseWaypoint.sequence = (List.range' 1 slots.length).map some ∧
      waypoints.head? = some remote ∧ waypoints.getLast? = some remote := by
  have perm := orderedGroups_perm grouped
  have named := orderedGroups_isSome grouped
  have all : ∀ group ∈ groups, ∀ slot ∈ group, (groupOf slot.code).isSome := by
    intro group mem slot mem'
    exact named slot (perm.subset (List.mem_flatten.mpr ⟨group, mem, mem'⟩))
  have some_group : groups ≠ [] := orderedGroups_ne_nil grouped
  obtain ⟨first, begins⟩ := Option.isSome_iff_exists.mp
    (poses_isSome (nonempty _ (List.head_mem some_group)) (all _ (List.head_mem some_group))).1
  obtain ⟨last, ends⟩ := Option.isSome_iff_exists.mp
    (poses_isSome (nonempty _ (List.getLast_mem some_group)) (all _ (List.getLast_mem some_group))).2
  obtain ⟨stops, found⟩ := Option.isSome_iff_exists.mp
    (cruiseGroups_isSome 0 0 nonempty all)
  have covers := cruiseGroups_covers found
  have built : buildCruiseWaypoints slots = some (remote :: passing .transit remote.x northTransferY ::
      passing .transit first.x northTransferY ::
      (stops ++ [passing .transit remote.x last.y, remote])) := by
    unfold buildCruiseWaypoints
    rw [grouped]
    show (groups.head?.bind firstPose).bind _ = _
    rw [List.head?_eq_some_head some_group, Option.bind_some, begins, Option.bind_some]
    show (cruiseGroups 0 0 groups).bind _ = _
    rw [found, Option.bind_some]
    show (groups.getLast?.bind lastPose).bind _ = _
    rw [List.getLast?_eq_some_getLast some_group, Option.bind_some, ends]
    rfl
  have same : inspectionsOf (remote :: passing .transit remote.x northTransferY ::
      passing .transit first.x northTransferY ::
      (stops ++ [passing .transit remote.x last.y, remote])) = inspectionsOf stops := by
    simp [inspectionsOf, remote, passing]
  refine ⟨_, built, ?_⟩
  rw [same]
  refine ⟨⟨groups.flatten, perm, covers.inspects⟩, ?_, ?_, rfl, ?_⟩
  · have codes : (inspectionsOf stops).map CruiseWaypoint.slotCode = (groups.flatten.map SlotRef.code).map some :=
      codes_of_inspects covers.inspects
    rw [codes]
    exact ((perm.map _).nodup_iff.mpr distinct).map (Option.some_injective _)
  · rw [covers.sequence, perm.length_eq]
  · have split : remote :: passing .transit remote.x northTransferY :: passing .transit first.x northTransferY ::
        (stops ++ [passing .transit remote.x last.y, remote]) =
        (remote :: passing .transit remote.x northTransferY :: passing .transit first.x northTransferY ::
          (stops ++ [passing .transit remote.x last.y])) ++ [remote] := by simp
    rw [split, List.getLast?_concat]

/-- One slot in each of the columns and two in the top row. -/
def someSlots : List SlotRef :=
  [⟨"A-01", 5 / 2, 63 / 2⟩, ⟨"A-02", 93 / 20, 63 / 2⟩, ⟨"A-19", 5, 3⟩, ⟨"A-28", 17, 3⟩, ⟨"A-37", 29, 3⟩,
    ⟨"A-46", 43, 3⟩]

/-- Slots of all five groups, in the order in which they are driven past. -/
theorem some_slots_covered :
    ∃ waypoints, buildCruiseWaypoints someSlots = some waypoints ∧
      (inspectionsOf waypoints).map CruiseWaypoint.sequence =
        [some 1, some 2, some 3, some 4, some 5, some 6] := by
  obtain ⟨waypoints, built, _, _, sequence, _⟩ := cruise_covers someSlots (by decide +kernel)
    [[⟨"A-19", 5, 3⟩], [⟨"A-28", 17, 3⟩], [⟨"A-37", 29, 3⟩], [⟨"A-46", 43, 3⟩],
      [⟨"A-02", 93 / 20, 63 / 2⟩, ⟨"A-01", 5 / 2, 63 / 2⟩]]
    (by decide +kernel) (by decide +kernel)
  exact ⟨waypoints, built, sequence⟩

end Firebot.Navigation
