import Firebot.MqttIngress.Process
import Firebot.Server.CommandLifecycle

/-!
# Publishing a command

`publish_command` of the command dispatcher validates a payload, compares its `expires_at` with the clock, and
hands it to the MQTT client. What it raises is `TimeoutError` for a payload that is no longer in time, and
something else for everything that goes wrong before or after that; the two loops of the dispatcher tell only
these two apart.

Everything from `client.publish` on is one answer of the broker: whether the publish was confirmed, or the
exception it has ended in.
-/

namespace Firebot.Dispatcher

open MqttIngress Server

/-! ## What the dispatcher calls -/

/-- What the dispatcher calls: the validator and the database of `env`, `json.loads` of a text,
`datetime.fromisoformat`, which answers `some none` for a time without an offset, and the name and the text of
an exception that a payload has raised. -/
structure Library where
  env : Env
  loads : String → Option JsonTree
  fromisoformat : JsonText → Option (Option Time)
  failure : JsonTree → Raised → Failure

/-- How `publish_command` ends: it returns, or raises `TimeoutError` or another exception; `sent` says that
the payload was given to the client. -/
inductive Publication where
  | published
  | expired
  | failed (error : Failure) (sent : Bool)
  deriving DecidableEq

/-- The payload was given to the client. -/
def Publication.sends : Publication → Bool
  | .published => true
  | .expired => false
  | .failed _ sent => sent

variable (lib : Library)

/-- `datetime.fromisoformat(payload["expires_at"])`, as an instant: a time without an offset cannot be compared
with the clock. -/
def expiresAt (payload : JsonTree) : Except Raised Time :=
  match payload.get "expires_at" with
  | none => .error .keyError
  | some (.str text) =>
    match lib.fromisoformat text with
    | none => .error .valueError
    | some none => .error .typeError
    | some (some t) => .ok t
  | some _ => .error .typeError

/-- `publish_command`. -/
def publishCommand (payload : JsonTree) (now : Time) (broker : Option Failure) : Publication :=
  match validateMessage lib.env payload with
  | .error raised => .failed (lib.failure payload raised) false
  | .ok () =>
    match expiresAt lib payload with
    | .error raised => .failed (lib.failure payload raised) false
    | .ok t =>
      if t ≤ now then .expired
      else
        match broker with
        | none => .published
        | some error => .failed error true

/-! ## What it comes to -/

/-- The payload is a valid message that expires at an instant. -/
structure Publishable (payload : JsonTree) (t : Time) : Prop where
  valid : validateMessage lib.env payload = .ok ()
  expires : expiresAt lib payload = .ok t

variable {lib} {payload : JsonTree} {now t : Time} {broker : Option Failure}

/-- A payload that can be published is not, from its `expires_at` on. -/
theorem publish_late (h : Publishable lib payload t) (late : t ≤ now) :
    publishCommand lib payload now broker = .expired := by
  unfold publishCommand
  rw [h.valid, h.expires]
  exact if_pos late

/-- Before its `expires_at` it is given to the client. -/
theorem publish_due (h : Publishable lib payload t) (due : now < t) :
    (publishCommand lib payload now broker).sends = true := by
  unfold publishCommand
  rw [h.valid, h.expires]
  show (if t ≤ now then _ else _ : Publication).sends = true
  rw [if_neg (Int.not_le.mpr due)]
  cases broker <;> rfl

/-- What is neither failed before the client is called nor expired is sent, and nothing else is. -/
theorem publish_cases (lib : Library) (payload : JsonTree) (now : Time) (broker : Option Failure) :
    (∃ t, Publishable lib payload t ∧ t ≤ now ∧ publishCommand lib payload now broker = .expired) ∨
    (∃ t, Publishable lib payload t ∧ now < t ∧ (publishCommand lib payload now broker).sends = true) ∨
    ((∀ t, ¬ Publishable lib payload t) ∧
      ∃ error, publishCommand lib payload now broker = .failed error false) := by
  cases valid : validateMessage lib.env payload with
  | error raised =>
    refine .inr (.inr ⟨?_, lib.failure payload raised, by unfold publishCommand; rw [valid]⟩)
    intro t h
    cases valid.symm.trans h.valid
  | ok =>
    cases expires : expiresAt lib payload with
    | error raised =>
      refine .inr (.inr ⟨?_, lib.failure payload raised, by unfold publishCommand; rw [valid, expires]⟩)
      intro t h
      cases expires.symm.trans h.expires
    | ok t =>
      have publishable : Publishable lib payload t := ⟨valid, expires⟩
      by_cases late : t ≤ now
      · exact .inl ⟨t, publishable, late, publish_late publishable late⟩
      · exact .inr (.inl ⟨t, publishable, Int.not_le.mp late, publish_due publishable (Int.not_le.mp late)⟩)

/-- `TimeoutError` is raised exactly for a payload that can be published and is late. -/
theorem publish_expired_iff :
    publishCommand lib payload now broker = .expired ↔ ∃ t, Publishable lib payload t ∧ t ≤ now := by
  constructor
  · intro expired
    rcases publish_cases lib payload now broker with ⟨t, h, late, _⟩ | ⟨t, _, _, sends⟩ | ⟨_, error, failed⟩
    · exact ⟨t, h, late⟩
    · rw [expired] at sends
      cases sends
    · rw [expired] at failed
      cases failed
  · intro ⟨t, h, late⟩
    exact publish_late h late

/-! ## A command -/

/-- An emergency stop of R1, until a time. -/
def emergencyStop : JsonTree := .obj [
  ("schema_version", .str "1.2"),
  ("message_id", .str "00000000-0000-4000-8000-000000000001"),
  ("type", .str "command"),
  ("vehicle_id", .str "R1"),
  ("target_boot_id", .null),
  ("command_id", .str "c1"),
  ("correlation_id", .str "00000000-0000-4000-8000-000000000002"),
  ("issued_at", .str "2026-01-01T00:00:00+00:00"),
  ("expires_at", .str "2026-01-01T00:00:03+00:00"),
  ("ttl_ms", .int 3000),
  ("priority", .int 95),
  ("source", .str "WEB"),
  ("operator_id", .str "o1"),
  ("cmd", .str "emergency_stop"),
  ("params", .obj [])]

/-- A library that knows one text and one time. -/
def oneText : Library where
  env := .knowing [] []
  loads text := if text = "stop" then some emergencyStop else none
  fromisoformat text := if text = .chars "2026-01-01T00:00:03+00:00" then some (some (10 * second)) else none
  failure _ _ := { typeName := "", text := "" }

end Firebot.Dispatcher
