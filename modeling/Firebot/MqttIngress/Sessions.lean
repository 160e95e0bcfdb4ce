import Firebot.MqttIngress.Works

/-!
# The boots of a robot

What is kept of a robot's boots is the current one and a session for each boot that was seen (`Boots`). An
offer of a boot refreshes the session of the current boot, is refused, or ends the current session and
begins a new one. `acceptBootSession_boots` says that the ingress does this.

`OneOpen` says that the only session that may be open is the current boot's, `Over` that a boot is not the
current one and its session has ended. A boot that is over stays so. A boot that is superseded is over only
if it has a session to end, and the code takes an empty boot id for none (`Recorded`).
-/

namespace Firebot.MqttIngress

open Work

/-- The current boot and the sessions of a robot. -/
structure Boots where
  current : Option String
  sessions : Table String Session

/-- The boots of a robot. -/
def Vehicle.boots (vehicle : Vehicle) : Boots where
  current := vehicle.robot.bootId
  sessions := vehicle.sessions

namespace Boots

variable (b : Boots) (received : Time) (o : Offer)

/-- The offer is of the current boot. -/
def isCurrent : Bool := b.current.any (o.boot.isText ·)

/-- The session of the boot has ended. -/
def hasEnded (boot : String) : Bool := (b.sessions.lookup boot).any (·.endedAt.isSome)

/-- The offer begins a boot. -/
def begins : Bool := !b.isCurrent o && !b.hasEnded o.bound && o.type ∈ bootEstablishTypes

/-- The sessions once the current one has ended. -/
def closed : Table String Session :=
  match b.current with
  | none => b.sessions
  | some old => if old = "" then b.sessions else Table.modify old (·.ended received) b.sessions

/-- The boots after an offer of the current one. -/
def refreshed : Boots :=
  { b with
    sessions := b.sessions.insert o.bound
      (match b.sessions.lookup o.bound with
      | some session => { session with lastSeenAt := received }
      | none => .opened received) }

/-- The boots after an offer of a new one. -/
def begun : Boots where
  current := some o.bound
  sessions :=
    if (b.sessions.lookup o.bound).isNone then (b.closed received).insert o.bound (.opened received)
    else b.closed received

/-- The boots after an offer. -/
def accept : Boots :=
  if b.isCurrent o then b.refreshed received o
  else if b.begins o then b.begun received o
  else b

/-! ## What offers keep -/

/-- No session is open but that of the current boot. -/
def OneOpen : Prop :=
  ∀ boot session, b.sessions.lookup boot = some session → session.endedAt = none →
    b.current = some boot

/-- The boot is not the current one, and its session has ended. -/
structure Over (boot : String) : Prop where
  ended : b.hasEnded boot = true
  other : b.current ≠ some boot

/-- The current boot has an id and a session. -/
def Recorded : Prop :=
  ∀ old, b.current = some old → old ≠ "" ∧ (b.sessions.lookup old).isSome = true

end Boots

section

variable {b : Boots} {received : Time} {o : Offer} {boot : String}

/-- The current boot is the one that is offered. -/
theorem Boots.current_of_isCurrent (current : b.isCurrent o = true) : b.current = some o.bound := by
  obtain ⟨boot, found, same⟩ := (Option.any_eq_true _ _).mp current
  rw [found, o.bound_eq boot same]

/-- A session once the current one has ended is open only if it was, and is not the current one. -/
theorem Boots.of_closed (recorded : b.Recorded) {session : Session}
    (found : (b.closed received).lookup boot = some session) (isOpen : session.endedAt = none) :
    b.sessions.lookup boot = some session ∧ b.current ≠ some boot := by
  unfold closed at found
  cases current : b.current with
  | none =>
    rw [current] at found
    exact ⟨found, by simp⟩
  | some old =>
    rw [current] at found
    dsimp only at found
    rw [if_neg (recorded old current).1] at found
    obtain ⟨before, was, ⟨rfl, rfl⟩ | ⟨ne, rfl⟩⟩ := Table.of_lookup_modify found
    · unfold Session.ended at isOpen
      split at isOpen
      next past => rw [isOpen] at past; cases past
      · cases isOpen
    · refine ⟨was, ?_⟩
      rintro ⟨⟩
      exact ne rfl

/-- A boot whose session has ended has an ended session once the current one has ended. -/
theorem Boots.closed_hasEnded (ended : b.hasEnded boot = true) :
    ((b.closed received).lookup boot).any (·.endedAt.isSome) = true := by
  unfold closed
  split
  · exact ended
  · split
    · exact ended
    next old _ _ =>
      obtain ⟨session, found, past⟩ := (Option.any_eq_true _ _).mp ended
      by_cases same : boot = old
      · subst same
        rw [Table.lookup_modify_self, found]
        simp [Session.ended, past]
      · rw [Table.lookup_modify_of_ne same]
        exact ended

/-- An offer keeps at most the current session open, if the boot it supersedes is recorded. -/
theorem Boots.OneOpen.accept (h : b.OneOpen) (recorded : b.begins o = true → b.Recorded) :
    (b.accept received o).OneOpen := by
  unfold Boots.accept
  split
  next current =>
    have now := Boots.current_of_isCurrent current
    intro boot session found isOpen
    rcases Table.of_lookup_insert found with ⟨rfl, _⟩ | ⟨_, was⟩
    · exact now
    · exact h boot session was isOpen
  · split
    next begins =>
      intro boot session found isOpen
      show some o.bound = some boot
      by_cases own : boot = o.bound
      · rw [own]
      · have old : (b.closed received).lookup boot = some session := by
          unfold Boots.begun at found
          dsimp only at found
          split at found
          · rwa [AList.lookup_insert_ne own] at found
          · exact found
        obtain ⟨was, other⟩ := Boots.of_closed (recorded begins) old isOpen
        exact absurd (h boot session was isOpen) other
    · exact h

/-- A boot that is over stays so. -/
theorem Boots.Over.accept (h : b.Over boot) : (b.accept received o).Over boot := by
  unfold Boots.accept
  split
  next current =>
    have ne : boot ≠ o.bound := by
      rintro rfl
      exact h.other (Boots.current_of_isCurrent current)
    refine ⟨?_, h.other⟩
    show (AList.lookup boot (b.sessions.insert o.bound _)).any _ = true
    rw [AList.lookup_insert_ne ne]
    exact h.ended
  · split
    next begins =>
      have ne : boot ≠ o.bound := by
        rintro rfl
        simp [Boots.begins, h.ended] at begins
      refine ⟨?_, ?_⟩
      · show (AList.lookup boot (Boots.begun b received o).sessions).any _ = true
        unfold Boots.begun
        dsimp only
        split
        · rw [AList.lookup_insert_ne ne]
          exact Boots.closed_hasEnded h.ended
        · exact Boots.closed_hasEnded h.ended
      · intro same
        exact ne (Option.some.inj same).symm
    · exact h

/-- A boot that an offer supersedes is over, if it was recorded. -/
theorem Boots.over_of_superseded (recorded : b.begins o = true → b.Recorded)
    (was : b.current = some boot) (other : (b.accept received o).current ≠ some boot) :
    (b.accept received o).Over boot := by
  unfold Boots.accept at other ⊢
  split at other
  · exact absurd was other
  next new =>
    split at other
    next begins =>
      rw [if_neg new, if_pos begins]
      refine ⟨?_, other⟩
      obtain ⟨named, found⟩ := recorded begins boot was
      have ne : boot ≠ o.bound := by
        rintro rfl
        exact other rfl
      have ended : ((b.closed received).lookup boot).any (·.endedAt.isSome) = true := by
        unfold Boots.closed
        rw [was]
        dsimp only
        rw [if_neg named, Table.lookup_modify_self]
        obtain ⟨session, found⟩ := Option.isSome_iff_exists.mp found
        rw [found]
        unfold Session.ended
        by_cases past : session.endedAt.isSome
        · simp [past]
        · simp [past]
      show (AList.lookup boot (Boots.begun b received o).sessions).any _ = true
      unfold Boots.begun
      dsimp only
      split
      · rw [AList.lookup_insert_ne ne]
        exact ended
      · exact ended
    · exact absurd was other

/-! ## The ingress keeps the boots so -/

theorem Work.SameBoot.boots_eq {w w' : Work} (h : SameBoot w w') :
    w'.vehicle.boots = w.vehicle.boots := by
  unfold Vehicle.boots
  rw [h.bootId, h.sessions]

theorem endCurrent_boots (m : Moment) (r : Redis) (offered : JsonTree) (w : Work) :
    (w.endCurrent m r offered).vehicle.sessions = w.vehicle.boots.closed m.received := by
  unfold Work.endCurrent Boots.closed Vehicle.boots
  dsimp only
  cases w.vehicle.robot.bootId with
  | none => rfl
  | some old =>
    dsimp only
    split
    · rfl
    · rw [(invalidateOldBootLeases_vehicle ..).1]
      rfl

/-- Accepting a boot session is an offer. -/
theorem acceptBootSession_boots (m : Moment) (r : Redis) (o : Offer) (w : Work) :
    (w.acceptBootSession m r o.type o.boot o.bound).1.vehicle.boots =
      w.vehicle.boots.accept m.received o := by
  unfold Work.acceptBootSession Boots.accept
  dsimp only
  by_cases current : w.vehicle.robot.bootId.any (o.boot.isText ·) = true
  · rw [if_pos current, if_pos (show w.vehicle.boots.isCurrent o = true from current)]
    unfold Work.touchSession Boots.refreshed
    cases seen : w.vehicle.sessions.lookup o.bound with
    | none => simp [Work.sessions, Vehicle.boots, seen]
    | some session => simp [Work.sessions, Vehicle.boots, seen]
  · have other : ¬ w.vehicle.boots.isCurrent o = true := current
    rw [if_neg current, if_neg other]
    by_cases ended : (w.vehicle.sessions.lookup o.bound).any (·.endedAt.isSome) = true
    · have past : w.vehicle.boots.hasEnded o.bound = true := ended
      rw [if_pos ended, if_neg (by simp [Boots.begins, past])]
    · have running : w.vehicle.boots.hasEnded o.bound = false := Bool.eq_false_iff.mpr ended
      rw [if_neg ended]
      by_cases establishes : o.type ∈ bootEstablishTypes
      · rw [if_neg (not_not.mpr establishes),
          if_pos (by simp [Boots.begins, running, other, establishes])]
        unfold Work.establish Boots.begun
        dsimp only
        rw [show w.vehicle.boots.sessions = w.vehicle.sessions from rfl,
          ← endCurrent_boots m r o.boot w]
        split <;> rfl
      · rw [if_pos establishes, if_neg (by simp [Boots.begins, establishes])]

/-- The boots after a message of a vehicle. -/
theorem Committed.boots_eq {env : Env} {m : Moment} {topic : Topic} {payload : Payload} {s : State}
    {msg : JsonTree} {vehicle : Vehicle} {source : Time} {w₀ w : Work}
    (call : Committed env m topic payload s msg vehicle source w₀ w) :
    w.vehicleId = textOf msg "vehicle_id" ∧
      w.vehicle.boots = vehicle.boots.accept m.received (.ofMessage msg) := by
  have offered := acceptBootSession_boots m (s.redis.reserve msg) (.ofMessage msg)
    (s.begin (textOf msg "vehicle_id") vehicle)
  have same := acceptBootSession_presence (m := m) (r := s.redis.reserve msg) (textOf msg "type")
    (msg.getD "boot_id") (textOf msg "boot_id") (s.begin (textOf msg "vehicle_id") vehicle)
  have accepted : ((s.begin (textOf msg "vehicle_id") vehicle).acceptBootSession m
      (s.redis.reserve msg) (textOf msg "type") (msg.getD "boot_id") (textOf msg "boot_id")).1 =
        w₀ := congrArg Prod.fst call.accepted
  have kept : SameBoot w₀ w := (presented_boot ..).trans (handle_spec call.worked).boot
  rw [accepted] at same
  refine ⟨kept.vehicleId.trans same.vehicleId, kept.boots_eq.trans ?_⟩
  rw [← accepted]
  exact offered

/-- The boots after an internal message. -/
theorem CompatCommitted.boots_eq {env : Env} {m : Moment} {topic : Topic} {payload : Payload}
    {s s₁ : State} {kind : CompatKind} {c : CompatMessage} {v : String} {vehicle : Vehicle}
    {w : Work} (call : CompatCommitted env m topic payload s kind c s₁ v vehicle w) :
    w.vehicleId = v ∧ (w.vehicle.boots = vehicle.boots ∨
      ∃ a, announcement env topic payload = some a ∧ a.row = v ∧
        w.vehicle.boots = vehicle.boots.accept m.received a.offer) := by
  obtain ⟨key, w₁, doc, keyed, body, last, _, _⟩ := compatWork_spec call.worked
  obtain ⟨first, _, _⟩ := compatRows_keeps env m c kind (s₁.begin v vehicle)
  by_cases availability : kind = .availability
  · subst availability
    obtain ⟨a, announced, row, _, type, rfl, _⟩ := announce_of_body call.bound keyed body
    have offered := acceptBootSession_boots m s₁.redis a.offer
      ((compatRows env m c .availability (s₁.begin v vehicle)).profile fun profile =>
        { profile with availabilityState := a.state.plain })
    rw [type] at offered
    have same := (availabilityRows_spec m s₁.redis a.state a.offer.boot a.offer.bound
      (compatRows env m c .availability (s₁.begin v vehicle)) v).1
    refine ⟨last.vehicleId.trans (same.trans first.vehicleId), .inr
      ⟨a, call.announcement_of announced, row, last.boots_eq.trans ?_⟩⟩
    exact offered.trans (congrArg (Boots.accept · m.received a.offer) first.boots_eq)
  · obtain ⟨kept, _, _⟩ := compatBody_keeps availability body
    exact ⟨last.vehicleId.trans (kept.vehicleId.trans first.vehicleId),
      .inl (last.boots_eq.trans (kept.boots_eq.trans first.boots_eq))⟩

/-- A boot that is over is not accepted. -/
theorem Boots.Over.refused {vehicle : Vehicle} (h : vehicle.boots.Over boot) {type : String}
    {offered : JsonTree} (named : ∀ b, offered.isText b = true → boot = b) :
    vehicle.acceptsBoot type offered boot = false := by
  unfold Vehicle.acceptsBoot
  have ended : (vehicle.sessions.lookup boot).any (·.endedAt.isSome) = true := h.ended
  rw [ended, Bool.not_true, Bool.false_and, Bool.or_false, Bool.eq_false_iff]
  intro current
  obtain ⟨b, found, same⟩ := (Option.any_eq_true _ _).mp current
  exact h.other (found.trans (congrArg some (named b same).symm))

end

end Firebot.MqttIngress
