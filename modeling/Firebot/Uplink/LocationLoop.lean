import Firebot.Lib.Run
import Firebot.Uplink.Location

/-!
# Each location is reported once

The location callbacks, `clear_ros_telemetry` and the steps of `location_loop` in any order, with any time
between them. An observation is known by its number, the revision that it made, and by the time it came.

The loop records the revision that it has read, and builds the message from the location that is there a step
later. An observation that comes in between is sent under the revision of the one before it, and goes out once
more in the next pass. **Reports go out once each exactly if no message is built in that gap** (`Undisturbed`,
`reported_once_iff`). The age of what is sent needs no condition: what the check of a pass has left there, and
what comes after it, is not too old at that check.
-/

namespace Firebot.Uplink

/-- An observation: its number among all, and when it came. -/
structure Stamp where
  number : Nat
  arrived : Time
  deriving DecidableEq

/-- The Bridge and its clock. -/
structure Reporting where
  clock : Time
  feed : Feed Stamp

/-- What can happen: time passes, `set_location` or `clear_ros_telemetry` is called, the loop takes a step. -/
inductive ReportingEvent where
  | advance (elapsed : Nat)
  | setLocation (value : Option JsonTree)
  | clearRosTelemetry
  | turn (supply : Supply)

namespace Reporting

variable (floatOf : JsonText → Option JsonTree) (config : LocationConfig)

/-- The Bridge as it starts. -/
def initial (start : Time) : Reporting where
  clock := start
  feed := .initial

/-- The stamp of an observation that comes now. -/
def stamp (w : Reporting) : Stamp where
  number := w.feed.state.locationRevision + 1
  arrived := w.clock

/-- What happens. -/
def step (w : Reporting) : ReportingEvent → Reporting
  | .advance elapsed => { w with clock := w.clock + elapsed }
  | .setLocation value =>
    let located := value.map fun doc => { doc, note := w.stamp }
    { w with feed := { w.feed with state := w.feed.state.setLocation located w.clock } }
  | .clearRosTelemetry => { w with feed := { w.feed with state := w.feed.state.clearRosTelemetry } }
  | .turn supply => { w with feed := w.feed.turn floatOf config w.clock supply }

/-- The Bridge after a run. -/
abbrev run (w : Reporting) (events : List ReportingEvent) : Reporting :=
  Runs.run (step floatOf config) w events

end Reporting

/-! ## What is to hold -/

namespace Feed

/-- The revision that the loop has recorded, or is about to record for the message it has just sent. -/
def recorded (f : Feed Stamp) : Nat :=
  match f.stage with
  | .recording _ revision => revision
  | _ => f.lastSentRevision

/-- The number of the observation in a message. -/
def numbers (f : Feed Stamp) : List Nat := f.published.map fun p => p.location.note.number

/-- No observation is in two messages, none was too old at the check of its pass, and the revision recorded
is that of the observation sent last. -/
structure Faithful (config : LocationConfig) (f : Feed Stamp) : Prop where
  once : f.numbers.Nodup
  fresh : ∀ p ∈ f.published, p.checked ≤ p.location.note.arrived + config.locationStale
  recorded : ∀ n ∈ f.numbers.getLast?, f.recorded = n

end Feed

namespace Reporting

variable (floatOf : JsonText → Option JsonTree) (config : LocationConfig)

/-- A message is built only while the revision that was read is still that of the location. -/
def Undisturbed (w : Reporting) : ReportingEvent → Prop
  | .turn supply => ∀ now revision, w.feed.stage = .building now revision →
      w.feed.sends floatOf config supply → revision = w.feed.state.locationRevision
  | _ => True

end Reporting

/-! ## The location and the check -/

/-- When the pass began, up to the step that sends. -/
def Stage.begun : Stage → Option Time
  | .expiring now | .reading now | .building now _ => some now
  | .waking | .recording _ _ | .ended => none

/-- When the location was checked, up to the step that sends. -/
def Stage.checked : Stage → Option Time
  | .reading now | .building now _ => some now
  | .waking | .expiring _ | .recording _ _ | .ended => none

theorem Stage.begun_of_checked {stage : Stage} {now : Time} (h : now ∈ stage.checked) :
    now ∈ stage.begun := by
  cases stage with
  | reading | building => exact h
  | _ => cases h

/-- The location that is there is the last observation; a check that has been made leaves none that was too
old then. -/
structure Timed (config : LocationConfig) (w : Reporting) : Prop where
  current : ∀ loc ∈ w.feed.state.lastLocation,
    loc.note.number = w.feed.state.locationRevision ∧
      w.feed.state.locationUpdated = some loc.note.arrived
  past : ∀ now ∈ w.feed.stage.begun, now ≤ w.clock
  checked : ∀ now ∈ w.feed.stage.checked, ∀ loc ∈ w.feed.state.lastLocation,
    now ≤ loc.note.arrived + config.locationStale
  fresh : ∀ p ∈ w.feed.published, p.checked ≤ p.location.note.arrived + config.locationStale

section

variable {floatOf : JsonText → Option JsonTree} {config : LocationConfig} {w : Reporting}

theorem Timed.initial (start : Time) : Timed config (Reporting.initial start) where
  current := by intro loc there; cases there
  past := by intro now began; cases began
  checked := by intro now checked; cases checked
  fresh := by intro p sent; cases sent

theorem Timed.advance (h : Timed config w) (elapsed : Nat) :
    Timed config { w with clock := w.clock + elapsed } where
  current := h.current
  past now began := Int.le_trans (h.past now began) (Int.le_add_of_nonneg_right (Int.natCast_nonneg elapsed))
  checked := h.checked
  fresh := h.fresh

/-- An observation that comes is younger than any check under way. -/
theorem Timed.setLocation (h : Timed config w) (value : Option JsonTree) :
    Timed config (w.step floatOf config (.setLocation value)) := by
  cases value with
  | none =>
    refine ⟨?_, h.past, ?_, h.fresh⟩
    · intro loc there
      cases there
    · intro now checked loc there
      cases there
  | some doc =>
    refine ⟨?_, h.past, ?_, h.fresh⟩
    · intro loc there
      cases there
      exact ⟨rfl, rfl⟩
    · intro now checked loc there
      cases there
      exact Int.le_trans (h.past now (Stage.begun_of_checked checked))
        (Int.le_add_of_nonneg_right (Int.le_of_lt config.stale_pos))

theorem Timed.clearRosTelemetry (h : Timed config w) :
    Timed config (w.step floatOf config .clearRosTelemetry) where
  current := by intro loc there; cases there
  past := h.past
  checked := by intro now checked loc there; cases there
  fresh := h.fresh

/-- Between two passes nothing has been checked. -/
theorem Timed.rest (h : Timed config w) {f : Feed Stamp} (state : f.state = w.feed.state)
    (idle : f.stage.begun = none)
    (fresh : ∀ p ∈ f.published, p.checked ≤ p.location.note.arrived + config.locationStale) :
    Timed config { w with feed := f } where
  current := by rw [state]; exact h.current
  past := by
    intro now begun
    rw [idle] at begun
    cases begun
  checked := by
    intro now checked
    have begun := Stage.begun_of_checked checked
    rw [idle] at begun
    cases begun
  fresh := fresh

/-- A step of the loop checks what is there, and sends nothing that it has not checked. -/
theorem Timed.turn (h : Timed config w) (supply : Supply) :
    Timed config (w.step floatOf config (.turn supply)) := by
  show Timed config { w with feed := w.feed.turn floatOf config w.clock supply }
  unfold Feed.turn
  split
  next waking =>
    refine ⟨h.current, ?_, ?_, h.fresh⟩
    · intro now begun
      cases begun
      exact Int.le_refl _
    · intro now checked
      cases checked
  next now expiring =>
    have began : now ≤ w.clock := h.past now (by rw [expiring]; rfl)
    have left : ∀ loc ∈ (w.feed.state.expireStaleLocation config.locationStale now).lastLocation,
        loc ∈ w.feed.state.lastLocation ∧
          (w.feed.state.expireStaleLocation config.locationStale now).locationUpdated =
            w.feed.state.locationUpdated ∧ now ≤ loc.note.arrived + config.locationStale := by
      intro loc there
      exact LocationState.of_expireStaleLocation config.stale_pos there fun came => (h.current loc came).2
    refine ⟨?_, ?_, ?_, h.fresh⟩
    · intro loc there
      obtain ⟨was, updated, young⟩ := left loc there
      rw [LocationState.expireStaleLocation_revision, updated]
      exact h.current loc was
    · intro now' begun
      cases begun
      exact began
    · intro now' checked loc there
      cases checked
      exact (left loc there).2.2
  next now reading =>
    split
    · refine ⟨h.current, ?_, ?_, h.fresh⟩
      · intro now' begun
        cases begun
        exact h.past now (by rw [reading]; rfl)
      · intro now' checked
        cases checked
        exact h.checked now (by rw [reading]; rfl)
    · exact h.rest rfl rfl h.fresh
  next now revision building =>
    rcases Feed.built w.feed now revision supply with
      ⟨_, message, location, _, there, same⟩ | ⟨_, stage, ends, same⟩
    · rw [same]
      refine h.rest rfl rfl ?_
      intro p sent
      rcases List.mem_append.mp sent with before | new
      · exact h.fresh p before
      · cases List.mem_singleton.mp new
        exact h.checked now (by rw [building]; rfl) location there
    · rw [same]
      refine h.rest rfl ?_ h.fresh
      cases ends with
      | inl waking => rw [waking]; rfl
      | inr ended => rw [ended]; rfl
  next => exact h.rest rfl rfl h.fresh
  next => exact h

/-- What the loop knows of the location and of its age holds after every step. -/
theorem Timed.step (h : Timed config w) (e : ReportingEvent) : Timed config (w.step floatOf config e) := by
  cases e with
  | advance elapsed => exact h.advance elapsed
  | setLocation value => exact h.setLocation value
  | clearRosTelemetry => exact h.clearRosTelemetry
  | turn supply => exact h.turn supply

end

/-! ## The order of the reports -/

/-- The numbers of what is sent ascend up to the recorded revision, and no revision is read twice. -/
structure InOrder (f : Feed Stamp) : Prop where
  ascending : f.numbers.Pairwise (· < ·)
  bounded : ∀ n ∈ f.numbers, n ≤ f.recorded
  recorded : ∀ n ∈ f.numbers.getLast?, f.recorded = n
  ahead : ∀ now revision, f.stage = .building now revision → f.lastSentRevision < revision

section

variable {floatOf : JsonText → Option JsonTree} {config : LocationConfig} {w : Reporting}

theorem InOrder.initial : InOrder .initial where
  ascending := .nil
  bounded := by intro n sent; cases sent
  recorded := by intro n sent; cases sent
  ahead := by intro now revision building; cases building

/-- Nothing is sent and the revision to record is as before. -/
theorem InOrder.of_same {f f' : Feed Stamp} (h : InOrder f) (published : f'.published = f.published)
    (recorded : f'.recorded = f.recorded)
    (ahead : ∀ now revision, f'.stage = .building now revision → f'.lastSentRevision < revision) :
    InOrder f' := by
  have numbers : f'.numbers = f.numbers := by
    unfold Feed.numbers
    rw [published]
  refine ⟨?_, ?_, ?_, ahead⟩
  · rw [numbers]
    exact h.ascending
  · rw [numbers, recorded]
    exact h.bounded
  · rw [numbers, recorded]
    exact h.recorded

/-- A step that reads the revision before the message and sends what it has read keeps the order. -/
theorem InOrder.turn (h : InOrder w.feed) (timed : Timed config w) {supply : Supply}
    (ok : w.Undisturbed floatOf config (.turn supply)) :
    InOrder (w.feed.turn floatOf config w.clock supply) := by
  unfold Feed.turn
  split
  next waking =>
    refine h.of_same rfl ?_ ?_
    · unfold Feed.recorded
      rw [waking]
    · intro now revision building
      cases building
  next now expiring =>
    refine h.of_same rfl ?_ ?_
    · unfold Feed.recorded
      rw [expiring]
    · intro now revision building
      cases building
  next now reading =>
    have recorded : w.feed.recorded = w.feed.lastSentRevision := by
      unfold Feed.recorded
      rw [reading]
    split
    next due =>
      refine h.of_same rfl recorded.symm ?_
      intro now revision building
      cases building
      exact due.1
    · refine h.of_same rfl recorded.symm ?_
      intro now revision building
      cases building
  next now revision building =>
    have before : w.feed.recorded = w.feed.lastSentRevision := by
      unfold Feed.recorded
      rw [building]
    have ahead := h.ahead now revision building
    rcases Feed.built w.feed now revision supply with
      ⟨sends, message, location, _, there, same⟩ | ⟨_, stage, ends, same⟩
    · rw [same]
      have number : location.note.number = revision := by
        rw [(timed.current location there).1, ok now revision building sends]
      have below : ∀ n ∈ w.feed.numbers, n < revision := by
        intro n sent
        have := h.bounded n sent
        omega
      have numbers : Feed.numbers { w.feed with
          stage := .recording now revision
          published := w.feed.published ++ [{ message, location, checked := now }] } =
            w.feed.numbers ++ [revision] := by
        unfold Feed.numbers
        rw [List.map_append]
        exact congrArg (_ ++ [·]) number
      refine ⟨?_, ?_, ?_, ?_⟩
      · rw [numbers, List.pairwise_append]
        refine ⟨h.ascending, List.pairwise_singleton _ _, ?_⟩
        intro n sent m last
        cases List.mem_singleton.mp last
        exact below n sent
      · rw [numbers]
        intro n sent
        rcases List.mem_append.mp sent with sent | last
        · exact Nat.le_of_lt (below n sent)
        · exact Nat.le_of_eq (List.mem_singleton.mp last)
      · rw [numbers, List.getLast?_concat]
        intro n last
        cases last
        rfl
      · intro now revision building
        cases building
    · rw [same]
      cases ends with
      | inl waking =>
        refine h.of_same rfl ?_ ?_
        · rw [before, waking]
          rfl
        · intro now revision building
          cases waking.symm.trans building
      | inr ended =>
        refine h.of_same rfl ?_ ?_
        · rw [before, ended]
          rfl
        · intro now revision building
          cases ended.symm.trans building
  next now revision recording =>
    refine h.of_same rfl ?_ ?_
    · unfold Feed.recorded
      rw [recording]
    · intro now revision building
      cases building
  next => exact h

theorem InOrder.step (h : InOrder w.feed) (timed : Timed config w) {e : ReportingEvent}
    (ok : w.Undisturbed floatOf config e) : InOrder (w.step floatOf config e).feed := by
  cases e with
  | advance elapsed => exact h
  | setLocation value => exact h.of_same rfl rfl h.ahead
  | clearRosTelemetry => exact h.of_same rfl rfl h.ahead
  | turn supply => exact h.turn timed ok

/-- Reports in order are sent once each. -/
theorem InOrder.faithful (h : InOrder w.feed) (timed : Timed config w) : w.feed.Faithful config where
  once := h.ascending.imp Nat.ne_of_lt
  fresh := timed.fresh
  recorded := h.recorded

/-- A message that has just been sent under the revision of its observation was not disturbed. -/
theorem undisturbed_of_faithful (timed : Timed config w) {e : ReportingEvent}
    (faithful : (w.step floatOf config e).feed.Faithful config) : w.Undisturbed floatOf config e := by
  cases e with
  | turn supply =>
    intro now revision building sends
    have turned : (w.step floatOf config (.turn supply)).feed = w.feed.build floatOf config now revision supply := by
      show w.feed.turn floatOf config w.clock supply = _
      unfold Feed.turn
      rw [building]
    rw [turned] at faithful
    rcases Feed.built w.feed now revision supply with
      ⟨_, message, location, _, there, same⟩ | ⟨fails, _⟩
    · rw [same] at faithful
      have last := faithful.recorded location.note.number (by
        unfold Feed.numbers
        rw [List.map_append]
        exact List.getLast?_concat)
      rw [← (timed.current location there).1]
      exact last
    · exact absurd sends fails
  | _ => trivial

end

/-- In every state of a run each observation has been sent once at most, young enough and under its own
revision, exactly if no message is built once a newer location than the revision read has come. -/
theorem reported_once_iff (floatOf : JsonText → Option JsonTree) (config : LocationConfig) (start : Time)
    (events : List ReportingEvent) :
    (∀ before after, events = before ++ after →
      ((Reporting.initial start).run floatOf config before).feed.Faithful config) ↔
    Runs.Meets (Reporting.step floatOf config) (Reporting.Undisturbed floatOf config)
      (Reporting.initial start) events := by
  constructor
  · intro states
    refine Runs.meets_iff.mpr ?_
    intro before e after split
    have timed : Timed config ((Reporting.initial start).run floatOf config before) :=
      Runs.run_of_step (I := Timed config) (fun w e h => Timed.step h e) _ _ (Timed.initial start)
    apply undisturbed_of_faithful timed
    have := states (before ++ [e]) after (by rw [split, List.append_assoc]; rfl)
    rw [Reporting.run, Runs.run_append] at this
    exact this
  · intro met before after split
    have sound := Runs.states_of_meets
      (I := fun w => Timed config w ∧ InOrder w.feed)
      (fun w e h ok => ⟨h.1.step e, h.2.step h.1 ok⟩)
      ⟨Timed.initial start, InOrder.initial⟩ met before after split
    exact sound.2.faithful sound.1

/-! ## An observation in the gap -/

/-- Two observations, the second between the reading of the revision and the message, and the next pass. -/
def observedInGap : List ReportingEvent :=
  let turn : ReportingEvent := .turn { base := [], battery := .null, taken := true }
  let observed (x : ℚ) : ReportingEvent := .setLocation (some (.obj [("x", .real x)]))
  [observed 1, turn, turn, turn, observed 2, turn, turn, .advance 200000, turn, turn, turn, turn]

/-- The second observation is sent twice. -/
theorem observation_sent_twice :
    ¬ ((Reporting.initial (10 * second)).run (fun _ => none) onSite observedInGap).feed.Faithful onSite := by
  intro faithful
  have numbers : ((Reporting.initial (10 * second)).run (fun _ => none) onSite observedInGap).feed.numbers =
      [2, 2] := by decide +kernel
  have := faithful.once
  rw [numbers] at this
  simp at this

end Firebot.Uplink
