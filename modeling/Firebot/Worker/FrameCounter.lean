import Firebot.Worker.StopMachine

/-!
# The frame counter

A tick leaves an operation's counter alone, clears it, or adds one frame (`tick_frames`); it adds one
only for a document that `counts`. A standstill is confirmed on five frames only (`tick_confirmed`).
-/

namespace Firebot.Worker.StopOperation

variable {F : Type}

section

variable {op op' : StopOperation F} {t : Tick F}

theorem Stopped.frames (stopped : Stopped op t op') : op'.stationaryFrames = op.stationaryFrames := by
  cases stopped <;> rfl

theorem Moving.frames {fresh : Bool} (moving : Moving op t fresh op') :
    op'.stationaryFrames = op.stationaryFrames := by
  cases moving <;> rfl

theorem Moving.unconfirmed {fresh : Bool} (moving : Moving op t fresh op') :
    op'.motionStopState ≠ .stationaryConfirmed := by
  cases moving with
  | stale => nofun
  | late => nofun
  | verifying motion unstopped => exact unstopped

end

/-! ## What is counted -/

/-- The operation is open, and its vehicle is not known to stand still. -/
def watches (op : StopOperation F) : Bool :=
  !op.state.terminal && op.motionStopState ≠ .stationaryConfirmed

theorem watches_iff {op : StopOperation F} : op.watches = true ↔
    op.state.terminal = false ∧ op.motionStopState ≠ .stationaryConfirmed := by
  simp only [watches, Bool.and_eq_true, Bool.not_eq_true', decide_eq_true_eq]

variable [PyFloat F]

/-- `stationary_observation` of a document with an operation's thresholds. -/
def observes (op : StopOperation F) (now : Time) (latest : Latest F) : Except Raised (Bool × Bool) :=
  stationaryObservation latest now op.telemetryFreshnessMs op.linearThreshold op.angularThreshold

/-- The document adds a frame to the operation's counter. -/
def counts (op : StopOperation F) (now : Time) (latest : Latest F) : Prop :=
  op.watches = true ∧ op.observes now latest = .ok (true, true) ∧
    isNew (observationToken latest) op.lastStationaryObservationAt = true

instance (op : StopOperation F) (now : Time) (latest : Latest F) : Decidable (op.counts now latest) :=
  inferInstanceAs (Decidable (_ ∧ _ ∧ _))

/-! ## What a tick does to the counter -/

/-- The counter after the document was read. -/
theorem count_frames {op : StopOperation F} {t : Tick F} {sight : Sight}
    (watched : op.watches = true) (seen : op.sight t = .ok sight) :
    (op.count sight).stationaryFrames = op.stationaryFrames ∨
      (op.count sight).stationaryFrames = 0 ∨
      (op.counts t.now (t.latest op.robotId) ∧
        (op.count sight).stationaryFrames = op.stationaryFrames + 1) := by
  have spec := advanced sight op.lastStationaryObservationAt op.stationaryFrames
  simp only [count]
  generalize advanceStationaryFrames sight.fresh sight.stationary sight.token
    op.lastStationaryObservationAt op.stationaryFrames = result at spec
  cases spec with
  | stale => exact .inr (.inl rfl)
  | repeated => exact .inl rfl
  | moving => exact .inr (.inl rfl)
  | counted fresh new still =>
    obtain ⟨observed, token⟩ := Latest.sight_eq_ok.mp seen
    rw [fresh, still] at observed
    exact .inr (.inr ⟨⟨watched, observed, token ▸ new⟩, rfl⟩)

/-- What a tick does to the counter: it leaves it, clears it, or counts a frame of the document. -/
theorem tick_frames (op : StopOperation F) (t : Tick F) :
    (op.tick t).stationaryFrames = op.stationaryFrames ∨
      (op.watches = true ∧ (op.tick t).stationaryFrames = 0) ∨
      (op.counts t.now (t.latest op.robotId) ∧
        (op.tick t).stationaryFrames = op.stationaryFrames + 1) := by
  rcases tick_cases op t with ⟨opened, through⟩ | stays
  · have read {sight : Sight} (before : op.motionStopState ≠ .stationaryConfirmed)
        (seen : op.sight t = .ok sight)
        (same : (op.tick t).stationaryFrames = (op.count sight).stationaryFrames) :
        (op.tick t).stationaryFrames = op.stationaryFrames ∨
          (op.watches = true ∧ (op.tick t).stationaryFrames = 0) ∨
          (op.counts t.now (t.latest op.robotId) ∧
            (op.tick t).stationaryFrames = op.stationaryFrames + 1) := by
      have watched : op.watches = true := watches_iff.mpr ⟨opened, before⟩
      rw [same]
      exact (count_frames watched seen).imp_right (.imp_left fun zero => ⟨watched, zero⟩)
    cases through with
    | already before stopped => exact .inl (by rw [stopped.frames, cancelTruth_frames])
    | evident sight before seen enough stopped =>
      exact read before seen (by rw [stopped.frames, count_cancelTruth_frames])
    | uncertain sight before seen few moving =>
      exact read before seen (by rw [moving.frames, count_cancelTruth_frames])
  · exact .inl (by rw [stays])

/-- A document that counts adds a frame. -/
theorem tick_of_counts {op : StopOperation F} {t : Tick F}
    (counting : op.counts t.now (t.latest op.robotId)) :
    (op.tick t).stationaryFrames = op.stationaryFrames + 1 := by
  obtain ⟨watched, observed, new⟩ := counting
  obtain ⟨opened, unconfirmed⟩ := watches_iff.mp watched
  have seen {sight : Sight} (here : op.sight t = .ok sight) :
      (op.count sight).stationaryFrames = op.stationaryFrames + 1 := by
    obtain ⟨again, token⟩ := Latest.sight_eq_ok.mp here
    obtain ⟨fresh, still⟩ := Prod.mk.inj (Except.ok.inj (again.symm.trans observed))
    simp only [count, advanceStationaryFrames, fresh, still, token, new, Bool.not_true,
      Bool.false_eq_true, if_false, if_true]
  rcases tick_of_open t opened with through | ⟨_, raises, _⟩
  · cases through with
    | already before => exact absurd before unconfirmed
    | evident sight before here enough stopped =>
      rw [stopped.frames, count_cancelTruth_frames, seen here]
    | uncertain sight before here few moving =>
      rw [moving.frames, count_cancelTruth_frames, seen here]
  · have here : op.sight t = .ok ⟨true, true, observationToken (t.latest op.robotId)⟩ :=
      Latest.sight_eq_ok.mpr ⟨observed, rfl⟩
    exact absurd here (raises _)

/-- A tick confirms a standstill on five frames only. -/
theorem tick_confirmed {op : StopOperation F} {t : Tick F}
    (confirmed : (op.tick t).motionStopState = .stationaryConfirmed) :
    op.motionStopState = .stationaryConfirmed ∨ 5 ≤ (op.tick t).stationaryFrames := by
  rcases tick_cases op t with ⟨_, through⟩ | stays
  · cases through with
    | already before => exact .inl before
    | evident sight before seen enough stopped =>
      rw [stopped.frames, count_cancelTruth_frames]
      exact .inr enough
    | uncertain sight before seen few moving => exact absurd confirmed moving.unconfirmed
  · rw [stays] at confirmed
    exact .inl confirmed

/-- The columns written once stay as they are. -/
theorem tick_same (op : StopOperation F) (t : Tick F) : Same op (op.tick t) := by
  rcases tick_cases op t with ⟨_, through⟩ | stays
  · exact through.same
  · rw [stays]
    exact .refl op

/-- An operation that is watched after a tick was watched before it. -/
theorem watches_of_tick {op : StopOperation F} {t : Tick F} (watched : (op.tick t).watches = true) :
    op.watches = true := by
  rcases tick_cases op t with ⟨opened, through⟩ | stays
  · have kept := through.kept opened
    exact watches_iff.mpr ⟨opened, fun before => (watches_iff.mp watched).2 (kept.motion before)⟩
  · rwa [stays] at watched

end Firebot.Worker.StopOperation
