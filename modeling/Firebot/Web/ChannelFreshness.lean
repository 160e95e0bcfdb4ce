import Mathlib.Algebra.Order.Field.Rat
import Mathlib.Tactic.Linarith
import Mathlib.Tactic.Ring
import Mathlib.Tactic.NormNum
import Firebot.Data.Json

/-!
# The freshness of a channel, on the server and in the browser

`effective_channel_state` derives the state of a channel from the time of its last message;
`effectiveChannelSupportState` of `telemetry-health.ts` does so again in the browser, each second. The server
has microseconds. The browser gets `last_received_at` as a text of which `Date.parse` keeps the milliseconds.

A time on the wire is kept as the instant it denotes; the column holds aware instants only, and each of them
is a finite number of milliseconds.

**The browser shows the server's state exactly where a state is stored and, if time changes it, an event channel is
in the state that its age makes and no threshold of another one lies in the fraction of a millisecond that is
dropped** (`Agrees`, `states_agree_iff`). Nothing is said of a browser whose clock is wrong.
-/

namespace Firebot.Web

/-- The columns of `robot_data_channels` that say how fresh a channel is. -/
structure DataChannel where
  channel : String
  supportState : Option String
  lastReceivedAt : Option Time

/-- `stale_seconds` and `offline_seconds` of an integration profile. -/
structure Thresholds where
  staleSeconds : Option ℚ
  offlineSeconds : Option ℚ

/-- `_TIME_DECAYABLE`. -/
def timeDecayable : List String := ["CONNECTED", "STALE", "NOT_CONNECTED"]

/-- `_EVENT_STATE_CHANNELS`. -/
def eventStateChannels : List String := ["availability", "capabilities"]

/-- A threshold is there, and the age has come to it. -/
def reached (threshold : Option ℚ) (age : ℚ) : Bool := threshold.any (· ≤ age)

/-- `getattr(profile, "stale_seconds", None) if profile else None`. -/
def staleOf (profile : Option Thresholds) : Option ℚ := profile.bind Thresholds.staleSeconds

/-- `getattr(profile, "offline_seconds", None) if profile else None`. -/
def offlineOf (profile : Option Thresholds) : Option ℚ := profile.bind Thresholds.offlineSeconds

/-- `(now - last).total_seconds()`. -/
def totalSeconds (now last : Time) : ℚ := (now - last : Int) / 1000000

/-- `effective_channel_state`. -/
def effectiveChannelState (channel : DataChannel) (profile : Option Thresholds) (now : Time) : String :=
  match channel.supportState with
  | none => "NOT_CONNECTED"
  | some state =>
    if state ∉ timeDecayable then state
    else if channel.channel ∈ eventStateChannels then state
    else
      match channel.lastReceivedAt with
      | none => state
      | some last =>
        if staleOf profile = none ∧ offlineOf profile = none then state
        else if reached (offlineOf profile) (totalSeconds now last) then "NOT_CONNECTED"
        else if reached (staleOf profile) (totalSeconds now last) then "STALE"
        else "CONNECTED"

/-! ## The browser -/

/-- `ChannelFreshnessInput`. -/
structure ChannelFreshnessInput where
  supportState : Option String
  lastReceivedAt : Option Time

/-- What the browser reads of a channel. -/
def DataChannel.input (channel : DataChannel) : ChannelFreshnessInput where
  supportState := channel.supportState
  lastReceivedAt := channel.lastReceivedAt

/-- `Date.parse`: of the fraction of a second, three digits are kept. -/
def dateParse (last : Time) : Int := last / 1000

/-- `effectiveChannelSupportState`; `none` is `undefined`. -/
def effectiveChannelSupportState (channel : Option ChannelFreshnessInput) (staleSeconds offlineSeconds : Option ℚ)
    (nowMs : ℚ) : Option String :=
  match channel with
  | none => none
  | some channel =>
    let state := channel.supportState
    if state = some "ERROR" ∨ state = some "UNSUPPORTED" then state
    else if state ≠ some "CONNECTED" ∧ state ≠ some "STALE" ∧ state ≠ some "NOT_CONNECTED" then state
    else
      match channel.lastReceivedAt with
      | none => state
      | some last =>
        if staleSeconds = none ∧ offlineSeconds = none then state
        else
          let ageSeconds := (nowMs - dateParse last) / 1000
          if reached offlineSeconds ageSeconds then some "NOT_CONNECTED"
          else if reached staleSeconds ageSeconds then some "STALE"
          else some "CONNECTED"

/-- The browser's view of a channel at an instant. -/
def shownState (channel : DataChannel) (profile : Option Thresholds) (now : Time) : Option String :=
  effectiveChannelSupportState (some channel.input) (staleOf profile) (offlineOf profile) (now / 1000)

/-! ## What they do -/

/-- The state that an age makes of a channel. -/
def stateAtAge (profile : Option Thresholds) (age : ℚ) : String :=
  if reached (offlineOf profile) age then "NOT_CONNECTED"
  else if reached (staleOf profile) age then "STALE"
  else "CONNECTED"

/-- The age in the browser. -/
def shownAge (now last : Time) : ℚ := ((now : ℚ) / 1000 - dateParse last) / 1000

/-- The browser is ahead of the server, by less than a millisecond. -/
theorem shownAge_bounds (now last : Time) :
    totalSeconds now last ≤ shownAge now last ∧ shownAge now last < totalSeconds now last + 1 / 1000 := by
  have floor : dateParse last * 1000 ≤ last := Int.ediv_mul_le last (by decide)
  have ceil : last < dateParse last * 1000 + 1000 := by
    have := Int.lt_ediv_add_one_mul_self last (b := 1000) (by decide)
    unfold dateParse
    linarith
  have lower : (dateParse last : ℚ) * 1000 ≤ last := by exact_mod_cast floor
  have upper : (last : ℚ) < dateParse last * 1000 + 1000 := by exact_mod_cast ceil
  have server : totalSeconds now last = ((now : ℚ) - last) / 1000000 := by
    unfold totalSeconds
    push_cast
    rfl
  unfold shownAge
  rw [server]
  constructor <;> linarith

/-- An age is a state's own where the thresholds say so. -/
def Fits (state : String) (profile : Option Thresholds) (age : ℚ) : Prop :=
  state = "NOT_CONNECTED" ∧ reached (offlineOf profile) age = true ∨
  state = "STALE" ∧ reached (offlineOf profile) age = false ∧ reached (staleOf profile) age = true ∨
  state = "CONNECTED" ∧ reached (offlineOf profile) age = false ∧ reached (staleOf profile) age = false

theorem stateAtAge_eq_iff {state : String} {profile : Option Thresholds} {age : ℚ} :
    stateAtAge profile age = state ↔ Fits state profile age := by
  unfold stateAtAge Fits
  cases reached (offlineOf profile) age <;> cases reached (staleOf profile) age <;> simp [eq_comm]

/-- No threshold that decides lies between two ages. -/
def SameSide (profile : Option Thresholds) (age age' : ℚ) : Prop :=
  reached (offlineOf profile) age = reached (offlineOf profile) age' ∧
    (reached (offlineOf profile) age = true ∨
      reached (staleOf profile) age = reached (staleOf profile) age')

theorem stateAtAge_eq_stateAtAge_iff {profile : Option Thresholds} {age age' : ℚ} :
    stateAtAge profile age = stateAtAge profile age' ↔ SameSide profile age age' := by
  unfold stateAtAge SameSide
  cases reached (offlineOf profile) age <;> cases reached (offlineOf profile) age' <;>
    cases reached (staleOf profile) age <;> cases reached (staleOf profile) age' <;> simp

/-- The state is one that time changes, there is a time to count from, and a threshold to count to. -/
def Decays (channel : DataChannel) (profile : Option Thresholds) (state : String) (last : Time) : Prop :=
  channel.supportState = some state ∧ state ∈ timeDecayable ∧ channel.lastReceivedAt = some last ∧
    ¬ (staleOf profile = none ∧ offlineOf profile = none)

section

variable {channel : DataChannel} {profile : Option Thresholds} {now last : Time} {state : String}

/-- The server does not let the state of an event channel decay. -/
theorem effectiveChannelState_of_decays (decays : Decays channel profile state last) :
    effectiveChannelState channel profile now =
      if channel.channel ∈ eventStateChannels then state else stateAtAge profile (totalSeconds now last) := by
  obtain ⟨stored, decayable, received, thresholds⟩ := decays
  unfold effectiveChannelState
  rw [stored, received]
  dsimp only
  rw [if_neg (not_not.mpr decayable), if_neg thresholds]
  rfl

/-- The browser does not look at the name of the channel. -/
theorem shownState_of_decays (decays : Decays channel profile state last) :
    shownState channel profile now = some (stateAtAge profile (shownAge now last)) := by
  obtain ⟨stored, decayable, received, thresholds⟩ := decays
  have known : state = "CONNECTED" ∨ state = "STALE" ∨ state = "NOT_CONNECTED" := by
    simpa [timeDecayable] using decayable
  have declared : ¬ (some state = some "ERROR" ∨ some state = some "UNSUPPORTED") := by
    rcases known with rfl | rfl | rfl <;> decide
  have decaying : ¬ (some state ≠ some "CONNECTED" ∧ some state ≠ some "STALE" ∧ some state ≠ some "NOT_CONNECTED") := by
    rcases known with rfl | rfl | rfl <;> decide
  unfold shownState effectiveChannelSupportState DataChannel.input
  dsimp only
  rw [stored, received, if_neg declared, if_neg decaying]
  dsimp only
  rw [if_neg thresholds]
  unfold stateAtAge shownAge
  split
  · rfl
  · split <;> rfl

/-- Where nothing decays, both keep what is stored. -/
theorem states_of_not_decays (stored : channel.supportState = some state)
    (still : ∀ last, ¬ Decays channel profile state last) :
    effectiveChannelState channel profile now = state ∧ shownState channel profile now = some state := by
  have kept : state ∈ timeDecayable → ∀ last, channel.lastReceivedAt = some last →
      staleOf profile = none ∧ offlineOf profile = none := by
    intro decayable last received
    by_contra thresholds
    exact still last ⟨stored, decayable, received, thresholds⟩
  constructor
  · unfold effectiveChannelState
    rw [stored]
    dsimp only
    split
    · rfl
    · next decayable =>
      split
      · rfl
      · split
        · rfl
        · next last received => exact if_pos (kept (not_not.mp decayable) last received)
  · unfold shownState effectiveChannelSupportState DataChannel.input
    dsimp only
    rw [stored]
    split
    · rfl
    · split
      · rfl
      · next decaying =>
        have decayable : state ∈ timeDecayable := by
          by_contra other
          apply decaying
          refine ⟨?_, ?_, ?_⟩ <;> (rintro ⟨⟩; exact other (by decide))
        split
        · rfl
        · next last received => exact if_pos (kept decayable last received)

/-- Where the server has no state, it says that the channel is not connected; the browser says nothing. -/
theorem states_of_missing (missing : channel.supportState = none) :
    effectiveChannelState channel profile now = "NOT_CONNECTED" ∧ shownState channel profile now = none := by
  unfold effectiveChannelState shownState effectiveChannelSupportState DataChannel.input
  dsimp only
  rw [missing]
  exact ⟨rfl, rfl⟩

end

/-! ## Where they agree -/

/-- There is a stored state. If time changes it, then on an event channel it is the one that its age makes,
and on any other no threshold lies in the fraction of a millisecond that the browser drops. -/
def Agrees (channel : DataChannel) (profile : Option Thresholds) (now : Time) : Prop :=
  ∃ state, channel.supportState = some state ∧ ∀ last, Decays channel profile state last →
    if channel.channel ∈ eventStateChannels then Fits state profile (shownAge now last)
    else SameSide profile (shownAge now last) (totalSeconds now last)

/-- **The browser shows the server's state exactly there**; of the age it drops less than a millisecond. -/
theorem states_agree_iff (channel : DataChannel) (profile : Option Thresholds) (now : Time) :
    (shownState channel profile now = some (effectiveChannelState channel profile now) ↔
      Agrees channel profile now) ∧
    ∀ last, totalSeconds now last ≤ shownAge now last ∧ shownAge now last < totalSeconds now last + 1 / 1000 := by
  refine ⟨?_, shownAge_bounds now⟩
  cases stored : channel.supportState with
  | none =>
    obtain ⟨server, browser⟩ := @states_of_missing _ profile now stored
    rw [server, browser]
    constructor
    · intro same
      cases same
    · intro ⟨state, found, _⟩
      cases stored.symm.trans found
  | some state =>
    by_cases decays : ∃ last, Decays channel profile state last
    · obtain ⟨last, decays⟩ := decays
      have only : Agrees channel profile now ↔
          if channel.channel ∈ eventStateChannels then Fits state profile (shownAge now last)
          else SameSide profile (shownAge now last) (totalSeconds now last) := by
        constructor
        · intro ⟨state', found, agrees⟩
          cases stored.symm.trans found
          exact agrees last decays
        · intro agrees
          refine ⟨state, stored, ?_⟩
          intro last' decays'
          cases decays.2.2.1.symm.trans decays'.2.2.1
          exact agrees
      rw [only, shownState_of_decays decays, effectiveChannelState_of_decays decays, Option.some_inj]
      split
      · exact stateAtAge_eq_iff
      · exact stateAtAge_eq_stateAtAge_iff
    · have still : ∀ last, ¬ Decays channel profile state last := fun last here => decays ⟨last, here⟩
      obtain ⟨server, browser⟩ := @states_of_not_decays _ _ now _ stored still
      rw [server, browser]
      exact iff_of_true rfl ⟨state, stored, fun last here => absurd here (still last)⟩

/-- A vehicle that declared itself available and has said nothing of it since: the server keeps the state, in
the browser it has gone. -/
theorem availability_decays :
    let channel : DataChannel := ⟨"availability", some "CONNECTED", some 0⟩
    let profile : Option Thresholds := some ⟨some 5, some 10⟩
    effectiveChannelState channel profile (999 * second) = "CONNECTED" ∧
      shownState channel profile (999 * second) = some "NOT_CONNECTED" := by
  decide +kernel

end Firebot.Web
