import Firebot.Dispatcher.Outbox

/-! # Outbox rows settle

A pass changes the row that it has taken and no other (`pass_cases`). A settled row is never taken; a row that
waits was available when the one it waits for has failed (`Waits`).

**Where no pass takes a failed row while another one has been available for as long as its backoff and the time
since, and every row that is taken late validates, every outbox row settles** (`outbox_settles`). Nothing is
said of how many passes it takes, nor of what the vehicle does with what is published.
-/

namespace Firebot.Dispatcher

open MqttIngress Server

namespace Queue

variable {lib : Library} {q : Queue} {p : Pass}

/-! ## The row that a pass takes -/

theorem of_selected {row : OutboxEvent} (selected : q.selected p = some row) :
    q.rows.lookup p.chosen = some row ∧ row.due p.now = true := by
  obtain ⟨found, fits⟩ := Option.filter_eq_some_iff.mp selected
  rw [Bool.and_eq_true_iff, Bool.and_eq_true_iff] at fits
  exact ⟨found, fits.1.1⟩

/-- A row that is taken is pending. -/
theorem pending_of_selected {row : OutboxEvent} (selected : q.selected p = some row) : row.terminal = false := by
  have due := (of_selected selected).2
  unfold OutboxEvent.due at due
  unfold OutboxEvent.terminal
  have pending := of_decide_eq_true (Bool.and_eq_true_iff.mp due).1
  rw [pending]
  rfl

/-- A settled row is not taken. -/
theorem apart_of_terminal {row other : OutboxEvent} {id : String} (selected : q.selected p = some row)
    (found : q.rows.lookup id = some other) (terminal : other.terminal = true) : id ≠ p.chosen := by
  intro equal
  rw [equal, (of_selected selected).1] at found
  cases found
  cases (pending_of_selected selected).symm.trans terminal

/-- A candidate was available when the pass began. -/
theorem candidate_available {x : String × OutboxEvent} (mem : x ∈ q.candidates p) :
    q.rows.lookup x.1 = some x.2 ∧ x.2.columns.availableAt ≤ p.now := by
  obtain ⟨found, fits⟩ := Table.mem_select.mp mem
  have due := (Bool.and_eq_true_iff.mp fits).1
  exact ⟨found, of_decide_eq_true (Bool.and_eq_true_iff.mp due).2⟩

theorem now_le_endedAt (p : Pass) : p.now ≤ p.endedAt :=
  Int.le_trans (Int.le_add_of_nonneg_right (Int.natCast_nonneg _)) (Int.le_add_of_nonneg_right (Int.natCast_nonneg _))

/-- The queue once the payload was given to the client, if it was. -/
def handed (q : Queue) (p : Pass) (publication : Publication) : Queue :=
  if publication.sends then { q with sent := q.sent ++ [p.chosen] } else q

/-- A pass takes nothing, stores nothing, or stores how the publish of its row has ended. -/
theorem pass_cases (lib : Library) (q : Queue) (p : Pass) :
    (q.selected p = none ∧ q.pass lib p = q) ∨ ∃ row, q.selected p = some row ∧
      (p.commits = false ∧ q.pass lib p = q.handed p (publication lib p row) ∨
        p.commits = true ∧ q.pass lib p = ((q.handed p (publication lib p row)).wait p
          (publication lib p row).fails).store p (publication lib p row) row) := by
  unfold pass
  cases selected : q.selected p with
  | none => exact .inl ⟨rfl, rfl⟩
  | some row =>
    refine .inr ⟨row, rfl, ?_⟩
    cases commits : p.commits with
    | false => exact .inl ⟨rfl, rfl⟩
    | true => exact .inr ⟨rfl, rfl⟩

theorem handed_rows (publication : Publication) : (q.handed p publication).rows = q.rows := by
  unfold handed
  split <;> rfl

theorem handed_waiting (publication : Publication) :
    (q.handed p publication).waiting = q.waiting ∧ (q.handed p publication).overtaken = q.overtaken := by
  unfold handed
  split <;> exact ⟨rfl, rfl⟩

/-- What is handed to the client is the chosen row. -/
theorem handed_count {id : String} (other : id ≠ p.chosen) (publication : Publication) :
    (q.handed p publication).sent.count id = q.sent.count id := by
  unfold handed
  split
  · show (q.sent ++ [p.chosen]).count id = _
    rw [List.count_append, List.count_singleton, if_neg (by simpa using Ne.symm other), Nat.add_zero]
  · rfl

/-- A pass stores nothing for another row. -/
theorem stored_other {id : String} (apart : id ≠ p.chosen) {row other : OutboxEvent} {publication : Publication}
    (found : q.rows.lookup id = some other) :
    (((q.handed p publication).wait p publication.fails).store p publication row).rows.lookup id = some other := by
  refine (Table.lookup_modify_of_ne apart _ _).trans ?_
  show (q.handed p publication).rows.lookup id = some other
  rw [handed_rows]
  exact found

/-! ## Settled rows -/

theorem Kept.refl (q : Queue) : Kept q q := fun _ _ found _ => ⟨found, rfl⟩

theorem Kept.trans {a b c : Queue} (first : Kept a b) (second : Kept b c) : Kept a c := by
  intro id row found terminal
  obtain ⟨there, once⟩ := first id row found terminal
  obtain ⟨still, same⟩ := second id row there terminal
  exact ⟨still, same.trans once⟩

theorem kept_pass (lib : Library) (q : Queue) (p : Pass) : Kept q (q.pass lib p) := by
  rcases pass_cases lib q p with ⟨_, same⟩ | ⟨row, selected, ⟨_, same⟩ | ⟨_, same⟩⟩
  · rw [same]
    exact Kept.refl q
  · rw [same]
    intro id other found terminal
    have apart := apart_of_terminal selected found terminal
    exact ⟨by rw [handed_rows]; exact found, handed_count apart _⟩
  · rw [same]
    intro id other found terminal
    have apart := apart_of_terminal selected found terminal
    exact ⟨stored_other apart found, handed_count apart _⟩

theorem kept_step (lib : Library) (q : Queue) (e : OutboxStep) : Kept q (q.step lib e) := by
  cases e with
  | insert id row =>
    unfold step
    dsimp only
    split
    next unused =>
      intro other found there terminal
      exact ⟨Table.lookup_insert_of_found row (Option.isNone_iff_eq_none.mp unused) there, rfl⟩
    · exact Kept.refl q
  | others commands => exact fun _ _ found _ => ⟨found, rfl⟩
  | pass p => exact kept_pass lib q p

/-! ## Waiting -/

/-- A row that waits was available when the one it waits for has failed. -/
def Waits (q : Queue) : Prop :=
  ∀ x ∈ q.waiting, x.1 ≠ x.2 ∧ ∃ waiting failed, q.rows.lookup x.1 = some waiting ∧
    q.rows.lookup x.2 = some failed ∧ 0 < failed.columns.attempts ∧ waiting.columns.availableAt ≤ failed.failedAt

/-- What holds between the passes of a run that fits. -/
structure Orderly (q : Queue) : Prop where
  waits : Waits q
  in_turn : q.overtaken = []

/-- Rows that keep their place keep those that wait. -/
theorem Orderly.of_rows {q' : Queue} (h : Orderly q) (waiting : q'.waiting = q.waiting)
    (overtaken : q'.overtaken = q.overtaken)
    (rows : ∀ id row, q.rows.lookup id = some row → q'.rows.lookup id = some row) : Orderly q' where
  waits := by
    intro x mem
    rw [waiting] at mem
    obtain ⟨apart, waiting, failed, first, second, tried, available⟩ := h.waits x mem
    exact ⟨apart, waiting, failed, rows _ _ first, rows _ _ second, tried, available⟩
  in_turn := overtaken.trans h.in_turn

/-- After a failure the row is put off from the end of the pass. -/
theorem failedAt_settled {publication : Publication} (fails : publication.fails = true) (row : OutboxEvent) :
    ({ row with columns := publication.settled p.endedAt row.columns } : OutboxEvent).failedAt = p.endedAt ∧
      0 < (publication.settled p.endedAt row.columns).attempts := by
  cases publication with
  | failed error sent => exact ⟨Int.add_sub_cancel _ _, Nat.succ_pos _⟩
  | published | expired => cases fails

/-- A row has been available for less than the backoff and the time for which the failed one has been if it was
not available when that one failed. -/
theorem dueFor_lt_iff (now : Time) (failed other : OutboxEvent) :
    other.dueFor now < delay failed.columns.attempts + failed.dueFor now ↔
      failed.failedAt < other.columns.availableAt := by
  have moved (now delay failed other : Int) : now - other < delay + (now - failed) ↔ failed - delay < other := by omega
  exact moved now (delay failed.columns.attempts) failed.columns.availableAt other.columns.availableAt

/-- A backoff is at least two seconds. -/
theorem two_seconds_le_delay {attempts : Nat} (tried : 0 < attempts) : 2 * second ≤ delay attempts := by
  have counted : min attempts 5 ≠ 0 := by omega
  have doubled : 2 ≤ Nat.pow 2 (min attempts 5) := Nat.le_self_pow counted 2
  have least : 2 ≤ min 30 (Nat.pow 2 (min attempts 5)) := le_min (by decide) doubled
  exact Int.mul_le_mul_of_nonneg_right (Int.ofNat_le.mpr least) (by decide)

/-- A pass that leaves no other row for two seconds takes a row that has failed in its turn. -/
theorem prompt_in_turn {row : OutboxEvent} (selected : q.selected p = some row)
    (prompt : ∀ other ∈ q.candidates p, other.1 ≠ p.chosen → other.2.dueFor p.now < 2 * second)
    (tried : 0 < row.columns.attempts) :
    ∀ other ∈ q.candidates p, other.1 ≠ p.chosen →
      other.2.dueFor p.now < delay row.columns.attempts + row.dueFor p.now := by
  intro other mem apart
  have available : row.columns.availableAt ≤ p.now :=
    of_decide_eq_true (Bool.and_eq_true_iff.mp (of_selected selected).2).2
  have since : 0 ≤ row.dueFor p.now := Int.sub_nonneg.mpr available
  calc other.2.dueFor p.now < 2 * second := prompt other mem apart
    _ ≤ delay row.columns.attempts := two_seconds_le_delay tried
    _ ≤ delay row.columns.attempts + row.dueFor p.now := Int.le_add_of_nonneg_right since

/-- Nobody who waits is a candidate when the row it waits for is taken again. -/
theorem Orderly.none_overtaken (h : Orderly q) {row : OutboxEvent} (selected : q.selected p = some row)
    (turn : 0 < row.columns.attempts → ∀ other ∈ q.candidates p, other.1 ≠ p.chosen →
      other.2.dueFor p.now < delay row.columns.attempts + row.dueFor p.now) :
    (q.waiting.filter fun x => x.2 = p.chosen && ((q.candidates p).map Prod.fst).contains x.1) = [] := by
  apply List.filter_eq_nil_iff.mpr
  intro x mem overtaken
  obtain ⟨same, candidate⟩ := Bool.and_eq_true_iff.mp overtaken
  have same : x.2 = p.chosen := of_decide_eq_true same
  obtain ⟨apart, waiting, failed, first, second, tried, available⟩ := h.waits x mem
  rw [same, (of_selected selected).1] at second
  cases second
  obtain ⟨other, there, own⟩ := List.mem_map.mp (List.contains_iff_mem.mp candidate)
  have later := (dueFor_lt_iff ..).mp (turn tried other there (by rw [own, ← same]; exact apart))
  have found := (candidate_available there).1
  rw [own, first] at found
  cases found
  exact absurd available (Int.not_le.mpr later)

theorem Orderly.pass (h : Orderly q) (fits : Fits lib q (.pass p)) : Orderly (q.pass lib p) := by
  rcases pass_cases lib q p with ⟨_, same⟩ | ⟨row, selected, ⟨_, same⟩ | ⟨_, same⟩⟩
  · rw [same]
    exact h
  · rw [same]
    refine h.of_rows (handed_waiting _).1 (handed_waiting _).2 ?_
    intro id other found
    rw [handed_rows]
    exact found
  · rw [same]
    have candidates : (q.handed p (publication lib p row)).candidates p = q.candidates p := by
      unfold Queue.candidates
      rw [handed_rows]
    constructor
    · intro x mem
      rcases List.mem_append.mp mem with before | new
      · obtain ⟨before, kept⟩ := List.mem_filter.mp before
        rw [(handed_waiting _).1] at before
        obtain ⟨first, second⟩ := Bool.and_eq_true_iff.mp kept
        obtain ⟨apart, waiting, failed, there, earlier, tried, available⟩ := h.waits x before
        exact ⟨apart, waiting, failed, stored_other (of_decide_eq_true first) there,
          stored_other (of_decide_eq_true second) earlier, tried, available⟩
      · split at new
        next fails =>
          obtain ⟨id, mem, own⟩ := List.mem_map.mp new
          obtain ⟨mem, apart⟩ := List.mem_filter.mp mem
          have apart : id ≠ p.chosen := of_decide_eq_true apart
          rw [candidates] at mem
          obtain ⟨other, there, named⟩ := List.mem_map.mp mem
          obtain ⟨found, available⟩ := candidate_available there
          rw [named] at found
          cases own
          obtain ⟨failed, tried⟩ := failedAt_settled (p := p) fails row
          refine ⟨apart, other.2,
            { row with columns := (publication lib p row).settled p.endedAt row.columns },
            stored_other apart found, ?_, tried, ?_⟩
          · refine (Table.lookup_modify_self ..).trans ?_
            show ((q.handed p _).rows.lookup p.chosen).map _ = _
            rw [handed_rows, (of_selected selected).1]
            rfl
          · rw [failed]
            exact Int.le_trans available (now_le_endedAt p)
        · cases new
    · show (q.handed p _).overtaken ++ ((q.handed p _).waiting.filter fun x =>
        x.2 = p.chosen && (((q.handed p (publication lib p row)).candidates p).map Prod.fst).contains x.1) = []
      rw [(handed_waiting _).1, (handed_waiting _).2, candidates,
        h.none_overtaken selected (fits row selected).1, h.in_turn]
      rfl

theorem Orderly.step (h : Orderly q) {e : OutboxStep} (fits : Fits lib q e) : Orderly (q.step lib e) := by
  cases e with
  | insert id row =>
    unfold Queue.step
    dsimp only
    split
    next unused =>
      refine h.of_rows rfl rfl ?_
      intro other found there
      exact Table.lookup_insert_of_found row (Option.isNone_iff_eq_none.mp unused) there
    · exact h
  | others commands => exact h.of_rows rfl rfl fun _ _ found => found
  | pass p => exact h.pass fits

/-! ## Late rows -/

/-- A pass that takes a valid row late expires it. -/
theorem expires_of_valid (fits : Fits lib q (.pass p)) : Expires lib q p := by
  intro row t selected expires late commits
  have valid := (fits row selected).2 t expires late commits
  have checked : t ≤ p.checkedAt := Int.le_trans late (Int.le_add_of_nonneg_right (Int.natCast_nonneg _))
  have expired : publication lib p row = .expired := publish_expired_iff.mpr ⟨t, ⟨valid, expires⟩, checked⟩
  rcases pass_cases lib q p with ⟨none, _⟩ | ⟨row', selected', ⟨rolled, _⟩ | ⟨_, same⟩⟩
  · cases none.symm.trans selected
  · cases rolled.symm.trans commits
  · cases selected.symm.trans selected'
    rw [same, expired]
    refine ⟨⟨{ row with columns := Publication.expired.settled p.endedAt row.columns }, ?_, rfl⟩, ?_, rfl⟩
    · refine (Table.lookup_modify_self ..).trans ?_
      show (q.rows.lookup p.chosen).map _ = _
      rw [(of_selected selected).1]
      rfl
    · intro command there
      have stored : ((q.commands row.aggregateId).map (Publication.expired.ordered p.endedAt)) = some command :=
        (Function.update_self row.aggregateId _ q.commands).symm.trans there
      obtain ⟨before, _, own⟩ := Option.map_eq_some_iff.mp stored
      rw [← own]
      rfl

end Queue

/-- **Where no pass takes a failed row while another one has been available for as long as its backoff and the
time since, and every row that is taken late validates, every outbox row settles.** -/
theorem outbox_settles (lib : Library) (rows : Table String OutboxEvent) (commands : String → Option Row)
    (events : List OutboxStep)
    (fits : Runs.Meets (Queue.step lib) (Fits lib) (Queue.initial rows commands) events) :
    Settles lib (Queue.initial rows commands) events where
  kept := (Runs.kept_iff Queue.Kept.refl Queue.Kept.trans _ events).mpr
    (Runs.meets_of_invariant (I := fun _ => True) (fun _ _ _ _ => trivial)
      (fun q e _ => Queue.kept_step lib q e) trivial fits)
  in_turn := by
    intro before after split
    have start : Queue.Orderly (Queue.initial rows commands) := ⟨fun _ mem => absurd mem List.not_mem_nil, rfl⟩
    exact (Runs.states_of_meets (I := Queue.Orderly) (fun _ _ h ok => h.step ok) start fits before after
      split).in_turn
  expires := by
    intro before p after split
    exact Queue.expires_of_valid (Runs.meets_iff.mp fits before (.pass p) after split)

/-! ## A row that is late -/

/-- A row with this payload, as `create_command` inserts it. -/
def newRow (payload : JsonTree) : OutboxEvent where
  aggregateId := "c1"
  payload := payload
  createdAt := 0
  columns := { status := .pending, attempts := 0, availableAt := 0, publishedAt := none, lastError := none }

/-- An outbox with one row. -/
def oneRow (payload : JsonTree) : Table String OutboxEvent := (∅ : Table String OutboxEvent).insert "o1" (newRow payload)

/-- A pass after the payload has expired. -/
def latePass : Pass where
  now := 20 * second
  checking := 0
  publishing := 0
  chosen := "o1"
  locked _ := false
  broker := none
  commits := true

/-- The emergency stop is taken late, and settled. -/
theorem stop_settles : Settles oneText (Queue.initial (oneRow emergencyStop) fun _ => none) [.pass latePass] := by
  apply outbox_settles
  refine ⟨?_, trivial⟩
  intro row selected
  have own : (Queue.initial (oneRow emergencyStop) fun _ => none).selected latePass =
      some (newRow emergencyStop) := by rfl
  cases selected.symm.trans own
  constructor
  · refine Queue.prompt_in_turn selected ?_
    intro other mem apart
    have all : (Queue.initial (oneRow emergencyStop) fun _ => none).candidates latePass =
        [("o1", newRow emergencyStop)] := by rfl
    rw [all, List.mem_singleton] at mem
    rw [mem] at apart
    exact absurd rfl apart
  · intro t expires late commits
    show validateMessage (.knowing [] []) emergencyStop = .ok ()
    decide +kernel

/-- A payload that does not validate, with its `expires_at`. -/
def invalidPayload : JsonTree := .obj [("expires_at", .str "2026-01-01T00:00:03+00:00")]

/-- It is taken late, and is still pending. -/
theorem invalid_not_settled :
    ¬ Settles oneText (Queue.initial (oneRow invalidPayload) fun _ => none) [.pass latePass] := by
  intro settles
  have expires := settles.expires [] latePass [] rfl (newRow invalidPayload) (10 * second) rfl rfl (by decide) rfl
  obtain ⟨after, found, terminal⟩ := expires.1
  have pending : (((Queue.initial (oneRow invalidPayload) fun _ => none).pass oneText latePass).rows.lookup
      "o1").map OutboxEvent.terminal = some false := by decide +kernel
  have found : ((Queue.initial (oneRow invalidPayload) fun _ => none).pass oneText latePass).rows.lookup
      "o1" = some after := found
  rw [found, Option.map_some, terminal] at pending
  cases pending

end Firebot.Dispatcher
