import Firebot.Scheduler.CatchUp

/-! # Schedules catch up

What an attempt makes of its occurrence comes first (`dispatch_state`, `dispatch_window`), then what it leaves of
the agenda (`Kept`). In the second loop a schedule's next instant is recorded and its `next_run_at` moved on in
one step of the induction.

**From its creation on, an enabled schedule that nobody edits has caught up in every state**
(`schedule_catches_up`). Nothing is said of whether an occurrence that was recorded becomes a patrol, nor of a
scheduler that does not tick.
-/

namespace Firebot.Scheduler

open Firebot.Commands Firebot.Robots Firebot.Tasks

/-! ## An attempt -/

section

variable {catalogue : Catalogue} {draw : Draw} {calls : Calls} {now : Time} {s : Session} {o : Occurrence}

/-- The gates leave an occurrence queued, rejected or skipped. -/
theorem gates_state : (gates catalogue calls now s o).RaisesOnly
    fun refusal => refusal.1 = .queued || refusal.1 = .rejected || refusal.1 = .skipped := by
  have found : ∀ {α : Type} (row : Option α), (row.elim (Except.error (OccurrenceState.rejected,
      "CONFIGURATION_INVALID")) Except.ok : Except (OccurrenceState × String) α).RaisesOnly
      fun refusal => refusal.1 = .queued || refusal.1 = .rejected || refusal.1 = .skipped := by
    intro α row
    cases row with
    | none => exact Except.raisesOnly_error.mpr rfl
    | some a => exact Except.raisesOnly_ok _ _
  have refuse : ∀ (refused : Bool) (state : OccurrenceState) (reason : String),
      (state = .queued || state = .rejected || state = .skipped) = true →
      (if refused then Except.error (state, reason) else Except.ok () : Except (OccurrenceState × String)
        Unit).RaisesOnly fun refusal => refusal.1 = .queued || refusal.1 = .rejected || refusal.1 = .skipped := by
    intro refused state reason fits
    split
    · exact Except.raisesOnly_error.mpr fits
    · exact Except.raisesOnly_ok _ _
  unfold gates
  dsimp only
  simp only [Except.raisesOnly_bind]
  refine ⟨found _, fun _ _ => ⟨found _, fun _ _ => ⟨found _, fun _ _ => ⟨found _, fun _ _ => ?_⟩⟩⟩⟩
  refine ⟨refuse _ _ _ rfl, fun _ _ => ⟨refuse _ _ _ rfl, fun _ _ => ⟨refuse _ _ _ rfl, fun _ _ => ?_⟩⟩⟩
  refine ⟨refuse _ _ _ rfl, fun _ _ => ⟨refuse _ _ _ rfl, fun _ _ => ⟨refuse _ _ _ rfl, fun _ _ => ?_⟩⟩⟩
  refine ⟨refuse _ _ _ rfl, fun _ _ => ⟨refuse _ _ _ rfl, fun _ _ => ⟨refuse _ _ _ rfl, fun _ _ => ?_⟩⟩⟩
  exact ⟨refuse _ _ _ rfl, fun _ _ => Except.raisesOnly_ok _ _⟩

/-- A queued occurrence passes the gates only while its window lasts. -/
theorem gates_window {plan : Plan} {robot : Robot} (passed : gates catalogue calls now s o = .ok (plan, robot))
    (queued : o.state = .queued) {schedule : Schedule}
    (there : catalogue.schedules.lookup o.scheduleId = some schedule) :
    now - o.scheduledFor ≤ schedule.queueExpirySeconds * second := by
  unfold gates at passed
  simp only [Except.bind_eq_ok] at passed
  obtain ⟨schedule', found, _, _, _, _, _, _, _, _, _, window, _⟩ := passed
  rw [there] at found
  cases found
  split at window
  · cases window
  next open_ =>
    apply Int.not_lt.mp
    intro late
    exact open_ (by rw [queued]; exact decide_eq_true late)

/-- An attempt leaves an occurrence of its schedule and its time. -/
theorem dispatch_same : (dispatchOccurrence catalogue draw calls now s o).2.1.scheduleId = o.scheduleId ∧
    (dispatchOccurrence catalogue draw calls now s o).2.1.scheduledFor = o.scheduledFor := by
  unfold dispatchOccurrence
  cases gates catalogue calls now s o with
  | error refusal => exact ⟨rfl, rfl⟩
  | ok found =>
    dsimp only
    split <;> exact ⟨rfl, rfl⟩

/-- An attempt leaves an occurrence dispatched, skipped, rejected or queued. -/
theorem dispatch_state : let state := (dispatchOccurrence catalogue draw calls now s o).2.1.state
    state = .dispatched ∨ state = .skipped ∨ state = .rejected ∨ state = .queued := by
  unfold dispatchOccurrence
  cases passed : gates catalogue calls now s o with
  | error refusal =>
    have left := gates_state refusal passed
    rw [Bool.or_eq_true, Bool.or_eq_true] at left
    rcases left with (queued | rejected) | skipped
    · exact .inr (.inr (.inr (of_decide_eq_true queued)))
    · exact .inr (.inr (.inl (of_decide_eq_true rejected)))
    · exact .inr (.inl (of_decide_eq_true skipped))
  | ok found =>
    dsimp only
    split
    · exact .inr (.inr (.inl rfl))
    · exact .inl rfl

/-- A queued occurrence is dispatched only while its window lasts. -/
theorem dispatch_window (queued : o.state = .queued)
    (dispatched : (dispatchOccurrence catalogue draw calls now s o).2.1.state = .dispatched) {schedule : Schedule}
    (there : catalogue.schedules.lookup o.scheduleId = some schedule) :
    now - o.scheduledFor ≤ schedule.queueExpirySeconds * second := by
  cases passed : gates catalogue calls now s o with
  | error refusal =>
    unfold dispatchOccurrence at dispatched
    rw [passed] at dispatched
    have state : refusal.1 = .dispatched := dispatched
    have left := gates_state refusal passed
    dsimp only at left
    rw [state] at left
    cases left
  | ok found => exact gates_window passed queued there

end

/-! ## What an attempt leaves of the agenda -/

/-- What holds of a schedule in the middle of a tick; the occurrence that is being handled may be pending. -/
structure Kept (fires : String → String → Time → Prop) (scheduleId : String) (start : Time) (handled : Option String)
    (w : Agenda) : Prop where
  contiguous : ∃ row stop, w.timetables.lookup scheduleId = some row ∧ row.nextRunAt = some stop ∧
    fires row.cronExpression row.timezone stop ∧ start ≤ stop ∧
    Recurrence.Contiguous (fires row.cronExpression row.timezone) start stop (w.times scheduleId)
  occurs : ∀ t, t ∈ w.times scheduleId ↔
    ∃ id o, w.occurrences.lookup id = some o ∧ o.scheduleId = scheduleId ∧ o.scheduledFor = t
  once : ∀ id id' o o', w.occurrences.lookup id = some o → w.occurrences.lookup id' = some o' →
    o.scheduleId = scheduleId → o'.scheduleId = scheduleId → o.scheduledFor = o'.scheduledFor → id = id'
  left : ∀ id o, w.occurrences.lookup id = some o → o.scheduleId = scheduleId → some id ≠ handled →
    o.state = .dispatched ∨ o.state = .skipped ∨ o.state = .rejected ∨ o.state = .queued
  queued : ∀ id o, w.occurrences.lookup id = some o → o.scheduleId = scheduleId → o.state = .queued →
    o.scheduledFor ≤ w.queuedAt id
  in_window : ∀ d ∈ w.dispatched, d.scheduleId = scheduleId →
    ∀ schedule, w.catalogue.schedules.lookup scheduleId = some schedule →
      d.dispatchedAt - d.queuedAt ≤ schedule.queueExpirySeconds * second

section

variable {fires : String → String → Time → Prop} {scheduleId : String} {start : Time} {t : Turn} {tick : Tick}
  {id : String}

theorem Kept.caughtUp {w : Agenda} (h : Kept fires scheduleId start none w) : CaughtUp fires scheduleId start w where
  contiguous := by
    obtain ⟨row, stop, there, runs, _, _, contiguous⟩ := h.contiguous
    exact ⟨row, stop, there, runs, contiguous⟩
  occurs := h.occurs
  once := h.once
  left id o there own := h.left id o there own (by intro same; cases same)
  in_window := h.in_window

/-- A change that leaves the schedule and its occurrences as they are. -/
theorem Kept.transfer {w w' : Agenda} {handled : Option String} (h : Kept fires scheduleId start none w)
    (timetable : w'.timetables.lookup scheduleId = w.timetables.lookup scheduleId)
    (times : w'.times scheduleId = w.times scheduleId)
    (occurrences : ∀ id o, o.scheduleId = scheduleId →
      (w'.occurrences.lookup id = some o ↔ w.occurrences.lookup id = some o))
    (queuedAt : w'.queuedAt = w.queuedAt) (dispatched : w'.dispatched = w.dispatched)
    (schedule : w'.catalogue.schedules.lookup scheduleId = w.catalogue.schedules.lookup scheduleId) :
    Kept fires scheduleId start handled w' where
  contiguous := by
    rw [timetable, times]
    exact h.contiguous
  occurs := by
    intro instant
    rw [times, h.occurs]
    constructor
    · intro ⟨id, o, found, own, at_⟩
      exact ⟨id, o, (occurrences id o own).mpr found, own, at_⟩
    · intro ⟨id, o, found, own, at_⟩
      exact ⟨id, o, (occurrences id o own).mp found, own, at_⟩
  once := by
    intro id id' o o' first second own own'
    exact h.once id id' o o' ((occurrences id o own).mp first) ((occurrences id' o' own').mp second) own own'
  left := by
    intro id o found own _
    exact h.left id o ((occurrences id o own).mp found) own (by intro same; cases same)
  queued := by
    intro id o found own
    rw [queuedAt]
    exact h.queued id o ((occurrences id o own).mp found) own
  in_window := by
    rw [dispatched, schedule]
    exact h.in_window

/-- A change of one occurrence that keeps its schedule and its time. -/
theorem Kept.change {w w' : Agenda} {handled : Option String} (h : Kept fires scheduleId start handled w)
    (only : ∀ other ∈ handled, other = id) {f : Occurrence → Occurrence}
    (same : ∀ o, w.occurrences.lookup id = some o →
      (f o).scheduleId = o.scheduleId ∧ (f o).scheduledFor = o.scheduledFor)
    (left : ∀ o, w.occurrences.lookup id = some o →
      (f o).state = .dispatched ∨ (f o).state = .skipped ∨ (f o).state = .rejected ∨ (f o).state = .queued)
    (queued : ∀ o, w.occurrences.lookup id = some o → o.scheduleId = scheduleId → (f o).state = .queued →
      o.scheduledFor ≤ w'.queuedAt id)
    (others : ∀ other, other ≠ id → w'.queuedAt other = w.queuedAt other)
    (occurrences : w'.occurrences = Table.modify id f w.occurrences) (timetables : w'.timetables = w.timetables)
    (recorded : w'.recorded = w.recorded)
    (in_window : ∀ d ∈ w'.dispatched, d.scheduleId = scheduleId →
      ∀ schedule, w'.catalogue.schedules.lookup scheduleId = some schedule →
        d.dispatchedAt - d.queuedAt ≤ schedule.queueExpirySeconds * second) :
    Kept fires scheduleId start none w' := by
  have times : w'.times scheduleId = w.times scheduleId := by
    unfold Agenda.times
    rw [recorded]
  have cases_of : ∀ other o, w'.occurrences.lookup other = some o →
      ∃ o', w.occurrences.lookup other = some o' ∧ o.scheduleId = o'.scheduleId ∧
        o.scheduledFor = o'.scheduledFor ∧ (other = id ∧ o = f o' ∨ other ≠ id ∧ o = o') := by
    intro other o found
    rw [occurrences] at found
    obtain ⟨o', before, ⟨own, new⟩ | ⟨apart, old⟩⟩ := Table.of_lookup_modify found
    · obtain ⟨schedule, time⟩ := same o' (own ▸ before)
      exact ⟨o', before, by rw [new, schedule], by rw [new, time], .inl ⟨own, new⟩⟩
    · exact ⟨o', before, by rw [old], by rw [old], .inr ⟨apart, old⟩⟩
  refine ⟨?_, ?_, ?_, ?_, ?_, in_window⟩
  · rw [timetables, times]
    exact h.contiguous
  · intro instant
    rw [times, h.occurs, occurrences]
    constructor
    · intro ⟨other, o, found, own, at_⟩
      by_cases changed : other = id
      · rw [changed] at found
        obtain ⟨schedule, time⟩ := same o found
        exact ⟨id, f o, by rw [Table.lookup_modify_self, found]; rfl, schedule.trans own, time.trans at_⟩
      · exact ⟨other, o, by rw [Table.lookup_modify_of_ne changed]; exact found, own, at_⟩
    · intro ⟨other, o, found, own, at_⟩
      obtain ⟨o', before, schedule, time, _⟩ := cases_of other o (occurrences ▸ found)
      exact ⟨other, o', before, schedule.symm.trans own, time.symm.trans at_⟩
  · intro one other o o' first second own own' at_
    obtain ⟨p, before, schedule, time, _⟩ := cases_of one o first
    obtain ⟨p', before', schedule', time', _⟩ := cases_of other o' second
    exact h.once one other p p' before before' (schedule.symm.trans own) (schedule'.symm.trans own')
      (by rw [← time, ← time', at_])
  · intro other o found own _
    obtain ⟨o', before, _, _, ⟨changed, new⟩ | ⟨apart, old⟩⟩ := cases_of other o found
    · rw [new]
      exact left o' (changed ▸ before)
    · rw [old]
      refine h.left other o' before (by rw [← old]; exact own) ?_
      intro handled
      exact apart (only other handled.symm)
  · intro other o found own waiting
    obtain ⟨o', before, schedule, time, ⟨changed, new⟩ | ⟨apart, old⟩⟩ := cases_of other o found
    · rw [changed, time]
      exact queued o' (changed ▸ before) (schedule.symm.trans own) (by rw [← new]; exact waiting)
    · rw [time, others other apart]
      exact h.queued other o' before (schedule.symm.trans own) (by rw [← old]; exact waiting)

/-- The occurrence that an attempt leaves. -/
def attempted (t : Turn) (tick : Tick) (id : String) (o : Occurrence) : Occurrence :=
  (dispatchOccurrence t.agenda.catalogue (tick.attempt id).draw (tick.attempt id).calls (tick.checkedAt id)
    { db := t.agenda.db, lost := t.lost } o).2.1

/-- The occurrences after an attempt. -/
theorem dispatch_occurrences {o : Occurrence} (there : t.agenda.occurrences.lookup id = some o) :
    (t.dispatch tick id).agenda.occurrences = Table.modify id (fun _ => attempted t tick id o) t.agenda.occurrences := by
  unfold Turn.dispatch
  rw [there]
  rfl

theorem dispatch_queuedAt {o : Occurrence} (there : t.agenda.occurrences.lookup id = some o) :
    (t.dispatch tick id).agenda.queuedAt =
      if (attempted t tick id o).state = .queued ∧ o.state ≠ .queued then
        Function.update t.agenda.queuedAt id (tick.checkedAt id)
      else t.agenda.queuedAt := by
  unfold Turn.dispatch
  rw [there]
  rfl

theorem dispatch_dispatched {o : Occurrence} (there : t.agenda.occurrences.lookup id = some o) :
    (t.dispatch tick id).agenda.dispatched =
      t.agenda.dispatched ++ if o.state = .queued ∧ (attempted t tick id o).state = .dispatched then
        [{ scheduleId := o.scheduleId, queuedAt := t.agenda.queuedAt id, dispatchedAt := tick.checkedAt id }]
      else [] := by
  unfold Turn.dispatch
  rw [there]
  rfl

/-- An attempt changes no timetable, nothing in the catalogue and nothing that was recorded. -/
theorem dispatch_rest (t : Turn) (tick : Tick) (id : String) :
    (t.dispatch tick id).agenda.timetables = t.agenda.timetables ∧
    (t.dispatch tick id).agenda.catalogue = t.agenda.catalogue ∧
    (t.dispatch tick id).agenda.recorded = t.agenda.recorded := by
  unfold Turn.dispatch
  split <;> exact ⟨rfl, rfl, rfl⟩

theorem dispatch_missing (missing : t.agenda.occurrences.lookup id = none) : t.dispatch tick id = t := by
  unfold Turn.dispatch
  rw [missing]

/-- An attempt leaves the other occurrences. -/
theorem dispatch_other {other : String} (apart : other ≠ id) :
    (t.dispatch tick id).agenda.occurrences.lookup other = t.agenda.occurrences.lookup other := by
  cases there : t.agenda.occurrences.lookup id with
  | none => rw [dispatch_missing there]
  | some o =>
    rw [dispatch_occurrences there]
    exact Table.lookup_modify_of_ne apart _ _

/-- An attempt at an occurrence that was queued, or is not ahead of its time. -/
theorem Kept.dispatch {handled : Option String} (h : Kept fires scheduleId start handled t.agenda)
    (only : ∀ other ∈ handled, other = id)
    (past : ∀ o, t.agenda.occurrences.lookup id = some o → o.scheduleId = scheduleId →
      o.state = .queued ∨ o.scheduledFor ≤ tick.now) :
    Kept fires scheduleId start none (t.dispatch tick id).agenda := by
  cases there : t.agenda.occurrences.lookup id with
  | none =>
    rw [dispatch_missing there]
    refine ⟨h.contiguous, h.occurs, h.once, ?_, h.queued, h.in_window⟩
    intro other o found own _
    refine h.left other o found own ?_
    intro same
    rw [only other same.symm, there] at found
    cases found
  | some before =>
    obtain ⟨timetables, catalogue, recorded⟩ := dispatch_rest t tick id
    refine h.change only ?_ ?_ ?_ ?_ (dispatch_occurrences there) timetables recorded ?_
    · intro o found
      cases there.symm.trans found
      exact dispatch_same
    · intro o _
      exact dispatch_state
    · intro o found own queued
      cases there.symm.trans found
      rw [dispatch_queuedAt there]
      split
      next fresh =>
        rw [Function.update_self]
        rcases past before there own with waiting | due
        · exact absurd waiting fresh.2
        · exact Int.le_trans due (Int.le_add_of_nonneg_right (Int.natCast_nonneg _))
      next still =>
        apply h.queued id before there own
        apply of_not_not
        intro changed
        exact still ⟨queued, changed⟩
    · intro other apart
      rw [dispatch_queuedAt there]
      split
      · exact Function.update_of_ne apart _ _
      · rfl
    · intro d mem own schedule configured
      rw [dispatch_dispatched there] at mem
      rw [catalogue] at configured
      rcases List.mem_append.mp mem with earlier | now
      · exact h.in_window d earlier own schedule configured
      · split at now
        next late =>
          cases List.mem_singleton.mp now
          have own : before.scheduleId = scheduleId := own
          -- the window is counted from the scheduled time, and the occurrence was queued after that
          have window := dispatch_window late.1 late.2 (by rw [own]; exact configured)
          have since := h.queued id before there own late.1
          exact Int.le_trans (Int.sub_le_sub_left since _) window
        · cases now

/-! ## The first loop -/

theorem retryAll_timetables (ids : List String) :
    (ids.foldl (Turn.retry tick) t).agenda.timetables = t.agenda.timetables := by
  induction ids generalizing t with
  | nil => rfl
  | cons first ids ih =>
    refine ih.trans ?_
    unfold Turn.retry
    split
    · rfl
    · exact (dispatch_rest t tick first).1

theorem Kept.retryAll {ids : List String} (distinct : ids.Nodup)
    (queued : ∀ id ∈ ids, ∀ o, t.agenda.occurrences.lookup id = some o → o.state = .queued)
    (h : t.lost = false → Kept fires scheduleId start none t.agenda) :
    (ids.foldl (Turn.retry tick) t).lost = false →
      Kept fires scheduleId start none (ids.foldl (Turn.retry tick) t).agenda := by
  induction ids generalizing t with
  | nil => exact h
  | cons first ids ih =>
    obtain ⟨fresh, distinct⟩ := List.nodup_cons.mp distinct
    cases lost : t.lost with
    | true =>
      have same : t.retry tick first = t := if_pos lost
      rw [List.foldl_cons, same]
      exact ih distinct (fun id mem => queued id (List.mem_cons_of_mem _ mem)) h
    | false =>
      have tried : t.retry tick first = t.dispatch tick first := if_neg (by rw [lost]; exact Bool.false_ne_true)
      rw [List.foldl_cons, tried]
      apply ih distinct
      · intro id mem o there
        have apart : id ≠ first := by
          intro same
          rw [same] at mem
          exact fresh mem
        rw [dispatch_other apart] at there
        exact queued id (List.mem_cons_of_mem _ mem) o there
      · intro _
        refine (h lost).dispatch (fun other mem => by cases mem) ?_
        intro o there _
        exact .inl (queued first List.mem_cons_self o there)

/-! ## The second loop -/

/-- The timetable of a schedule is moved on. -/
def Turn.move (t : Turn) (tick : Tick) (other : String) (next : Time) : Turn :=
  { t with
    agenda := { t.agenda with
      timetables := Table.modify other
        (fun row => { row with nextRunAt := some next, lastRunAt := some tick.now }) t.agenda.timetables } }

/-- An occurrence is recorded under a new id, or the transaction is lost. -/
theorem record_cases (t : Turn) (tick : Tick) (other : String) (scheduledFor : Time) :
    (t.record tick other scheduledFor).lost = true ∨
    t.agenda.occurrences.lookup (tick.newId other) = none ∧
      t.record tick other scheduledFor =
        { t with
          agenda := { t.agenda with
            occurrences := t.agenda.occurrences.insert (tick.newId other) (.new other scheduledFor)
            recorded := t.agenda.recorded ++ [(other, scheduledFor)] } } := by
  unfold Turn.record
  dsimp only
  split
  · exact .inl rfl
  next fits =>
    refine .inr ⟨?_, rfl⟩
    rw [Bool.or_eq_true, Bool.or_eq_true] at fits
    exact Option.isNone_iff_eq_none.mp (Option.not_isSome_iff_eq_none.mp (fun some => fits (.inl (.inr some))) ▸ rfl)

variable {next : NextRun} {other : String} {row : Timetable} {scheduledFor nextRunAt : Time}

theorem timesOf_self (recorded : List (String × Time)) (instant : Time) :
    timesOf (recorded ++ [(scheduleId, instant)]) scheduleId = timesOf recorded scheduleId ++ [instant] := by
  unfold timesOf
  rw [List.filter_append, List.map_append]
  simp

theorem timesOf_other {recorded : List (String × Time)} {instant : Time} (apart : other ≠ scheduleId) :
    timesOf (recorded ++ [(other, instant)]) scheduleId = timesOf recorded scheduleId := by
  unfold timesOf
  rw [List.filter_append, List.map_append]
  simp [apart]

/-- The next instant of a schedule is recorded, and its timetable moved on. -/
theorem Kept.record (least : Recurrence.IsNext (fires row.cronExpression row.timezone) scheduledFor nextRunAt)
    (h : Kept fires scheduleId start none t.agenda) (there : t.agenda.timetables.lookup other = some row)
    (runs : row.nextRunAt = some scheduledFor) (open_ : ((t.move tick other nextRunAt).record tick other
      scheduledFor).lost = false) :
    Kept fires scheduleId start (some (tick.newId other))
      ((t.move tick other nextRunAt).record tick other scheduledFor).agenda := by
  rcases record_cases (t.move tick other nextRunAt) tick other scheduledFor with lost | ⟨fresh, recorded⟩
  · cases open_.symm.trans lost
  rw [recorded]
  have fresh : t.agenda.occurrences.lookup (tick.newId other) = none := fresh
  have kept : ∀ id o, t.agenda.occurrences.lookup id = some o →
      AList.lookup id (t.agenda.occurrences.insert (tick.newId other) (.new other scheduledFor)) = some o :=
    fun id o found => Table.lookup_insert_of_found _ fresh found
  by_cases own : other = scheduleId
  · cases own
    obtain ⟨row', stop, there', runs', firing, reached, contiguous⟩ := h.contiguous
    cases there.symm.trans there'
    cases runs.symm.trans runs'
    have unused : ∀ id o, t.agenda.occurrences.lookup id = some o → o.scheduleId = scheduleId →
        o.scheduledFor ≠ scheduledFor := by
      intro id o found mine same
      exact contiguous.stop_not_mem ((h.occurs scheduledFor).mpr ⟨id, o, found, mine, same⟩)
    refine ⟨?_, ?_, ?_, ?_, ?_, h.in_window⟩
    · refine ⟨{ row with nextRunAt := some nextRunAt, lastRunAt := some tick.now }, nextRunAt,
        (Table.lookup_modify_self ..).trans (by rw [there]; rfl), rfl, least.1.1, ?_, ?_⟩
      · exact Int.le_trans reached (Int.le_of_lt least.1.2)
      · show Recurrence.Contiguous _ start nextRunAt
          (timesOf (t.agenda.recorded ++ [(scheduleId, scheduledFor)]) scheduleId)
        rw [timesOf_self]
        exact contiguous.snoc firing reached least
    · intro instant
      show instant ∈ timesOf (t.agenda.recorded ++ [(scheduleId, scheduledFor)]) scheduleId ↔ _
      rw [timesOf_self, List.mem_append, List.mem_singleton]
      refine (or_congr_left (h.occurs instant)).trans ?_
      constructor
      · rintro (⟨id, o, found, mine, at_⟩ | same)
        · exact ⟨id, o, kept id o found, mine, at_⟩
        · exact ⟨tick.newId scheduleId, _, AList.lookup_insert _, rfl, same.symm⟩
      · intro ⟨id, o, found, mine, at_⟩
        rcases Table.of_lookup_insert found with ⟨_, new⟩ | ⟨_, before⟩
        · right
          rw [← at_, new]
          rfl
        · exact .inl ⟨id, o, before, mine, at_⟩
    · intro id id' o o' first second mine mine' same
      rcases Table.of_lookup_insert first with ⟨new, own⟩ | ⟨_, before⟩ <;>
        rcases Table.of_lookup_insert second with ⟨new', own'⟩ | ⟨_, before'⟩
      · rw [new, new']
      · rw [own] at same
        exact absurd same.symm (unused id' o' before' mine')
      · rw [own'] at same
        exact absurd same (unused id o before mine)
      · exact h.once id id' o o' before before' mine mine' same
    · intro id o found mine apart
      rcases Table.of_lookup_insert found with ⟨new, _⟩ | ⟨_, before⟩
      · exact absurd (congrArg some new) apart
      · exact h.left id o before mine (by intro same; cases same)
    · intro id o found mine queued
      rcases Table.of_lookup_insert found with ⟨_, new⟩ | ⟨_, before⟩
      · rw [new] at queued
        cases queued
      · exact h.queued id o before mine queued
  · refine h.transfer ?_ ?_ ?_ rfl rfl rfl
    · exact Table.lookup_modify_of_ne (Ne.symm own) _ _
    · exact timesOf_other own
    intro id o mine
    constructor
    · intro found
      rcases Table.of_lookup_insert found with ⟨_, new⟩ | ⟨_, before⟩
      · rw [new] at mine
        exact absurd mine own
      · exact before
    · exact kept id o

/-- The occurrence that is too late is skipped. -/
theorem Kept.misfire (h : Kept fires scheduleId start (some id) t.agenda) :
    Kept fires scheduleId start none (t.misfire id).agenda := by
  have only : ∀ other ∈ some id, other = id := fun other mem => (Option.mem_some.mp mem).symm
  refine h.change only (f := fun o => o.put .skipped "MISFIRE_EXPIRED") ?_ ?_ ?_ ?_ rfl rfl rfl h.in_window
  · exact fun _ _ => ⟨rfl, rfl⟩
  · exact fun _ _ => .inr (.inl rfl)
  · intro o _ _ queued
    cases queued
  · exact fun _ _ => rfl

/-- The timetable of another schedule stays. -/
theorem runDue_other {mine : String} (apart : mine ≠ other) :
    (t.runDue next tick other).agenda.timetables.lookup mine = t.agenda.timetables.lookup mine := by
  have moved : ∀ at_, (t.move tick other at_).agenda.timetables.lookup mine = t.agenda.timetables.lookup mine :=
    fun _ => Table.lookup_modify_of_ne apart _ _
  have recorded : ∀ (t : Turn) at_, (t.record tick other at_).agenda.timetables = t.agenda.timetables := by
    intro t at_
    unfold Turn.record
    dsimp only
    split <;> rfl
  unfold Turn.runDue
  split
  · rfl
  · split
    · rfl
    · split
      · rfl
      · split
        · rfl
        · dsimp only
          split
          · exact (congrArg (AList.lookup mine) (recorded _ _)).trans (moved _)
          · split
            · exact (congrArg (AList.lookup mine) (recorded _ _)).trans (moved _)
            · rw [(dispatch_rest _ tick _).1]
              exact (congrArg (AList.lookup mine) (recorded _ _)).trans (moved _)

/-- A schedule is left alone, its run raises, or its instant is recorded and then skipped or dispatched. -/
theorem runDue_cases (next : NextRun) (tick : Tick) (t : Turn) (other : String) :
    t.runDue next tick other = t ∨ (t.runDue next tick other).lost = true ∨
    ∃ row scheduledFor nextRunAt, t.agenda.timetables.lookup other = some row ∧
      row.nextRunAt = some scheduledFor ∧ next row.cronExpression row.timezone scheduledFor = some nextRunAt ∧
      ((t.move tick other nextRunAt).record tick other scheduledFor).lost = false ∧
      (t.runDue next tick other =
          ((t.move tick other nextRunAt).record tick other scheduledFor).misfire (tick.newId other) ∨
        t.runDue next tick other =
          ((t.move tick other nextRunAt).record tick other scheduledFor).dispatch tick (tick.newId other)) := by
  unfold Turn.runDue
  split
  · exact .inl rfl
  · cases there : t.agenda.timetables.lookup other with
    | none => exact .inl rfl
    | some row =>
      dsimp only
      cases runs : row.nextRunAt with
      | none => exact .inl rfl
      | some scheduledFor =>
        dsimp only
        cases found : next row.cronExpression row.timezone scheduledFor with
        | none => exact .inr (.inl rfl)
        | some nextRunAt =>
          dsimp only
          split
          next lost => exact .inr (.inl lost)
          next open_ =>
            refine .inr (.inr ⟨row, scheduledFor, nextRunAt, rfl, runs, found, Bool.eq_false_iff.mpr open_, ?_⟩)
            split
            · exact .inl rfl
            · exact .inr rfl

variable (least : ∀ cron zone base u, next cron zone base = some u → Recurrence.IsNext (fires cron zone) base u)

include least

/-- A schedule that is due is run. -/
theorem Kept.runDue (h : Kept fires scheduleId start none t.agenda)
    (due : ∀ row, t.agenda.timetables.lookup other = some row → ∀ at_ ∈ row.nextRunAt, at_ ≤ tick.now)
    (open_ : (t.runDue next tick other).lost = false) :
    Kept fires scheduleId start none (t.runDue next tick other).agenda := by
  rcases runDue_cases next tick t other with
    same | lost | ⟨row, scheduledFor, nextRunAt, there, runs, found, kept, same | same⟩
  · rw [same]
    exact h
  · cases open_.symm.trans lost
  · rw [same]
    exact (h.record (least _ _ _ _ found) there runs kept).misfire
  · rw [same]
    refine (h.record (least _ _ _ _ found) there runs kept).dispatch (fun one mem => by cases mem; rfl) ?_
    intro o newest _
    rcases record_cases (t.move tick other nextRunAt) tick other scheduledFor with lost | ⟨_, own⟩
    · cases kept.symm.trans lost
    · rw [own] at newest
      have newest : some (Occurrence.new other scheduledFor) = some o := (AList.lookup_insert _).symm.trans newest
      cases newest
      exact .inr (due row there scheduledFor runs)

theorem Kept.runAll {ids : List String} (distinct : ids.Nodup)
    (due : ∀ one ∈ ids, ∀ row, t.agenda.timetables.lookup one = some row → ∀ at_ ∈ row.nextRunAt, at_ ≤ tick.now)
    (h : t.lost = false → Kept fires scheduleId start none t.agenda) :
    (ids.foldl (Turn.runDue next tick) t).lost = false →
      Kept fires scheduleId start none (ids.foldl (Turn.runDue next tick) t).agenda := by
  induction ids generalizing t with
  | nil => exact h
  | cons first ids ih =>
    obtain ⟨fresh, distinct⟩ := List.nodup_cons.mp distinct
    apply ih distinct
    · intro one mem row there
      have apart : one ≠ first := by
        intro same
        rw [same] at mem
        exact fresh mem
      rw [runDue_other apart] at there
      exact due one (List.mem_cons_of_mem _ mem) row there
    · cases lost : t.lost with
      | true =>
        have same : t.runDue next tick first = t := if_pos lost
        rw [same]
        intro open_
        cases lost.symm.trans open_
      | false => exact (h lost).runDue least (due first List.mem_cons_self)

/-! ## Every step -/

theorem Kept.step {w : Agenda} {e : AgendaEvent} (h : Kept fires scheduleId start none w)
    (unedited : Unedited scheduleId w e) : Kept fires scheduleId start none (w.step next e) := by
  cases e with
  | tick tick =>
    unfold Agenda.step
    dsimp only
    split
    next rows =>
      split
      · exact h
      next committed =>
        rw [Bool.or_eq_true, not_or, Bool.not_eq_true] at committed
        refine Kept.runAll least ?_ ?_ ?_ committed.1
        · exact rows.2.nodup_iff.mpr (Table.nodup_select ..)
        · intro one mem row there at_ runs
          rw [retryAll_timetables] at there
          obtain ⟨x, selected, own⟩ := List.mem_map.mp (rows.2.mem_iff.mp mem)
          obtain ⟨found, due⟩ := Table.mem_select.mp selected
          have found : w.timetables.lookup one = some x.2 := own ▸ found
          cases there.symm.trans found
          unfold Timetable.due at due
          rw [Option.mem_def.mp runs] at due
          exact of_decide_eq_true (Bool.and_eq_true_iff.mp due).2
        · apply Kept.retryAll (rows.1.nodup_iff.mpr (Table.nodup_select ..))
          · intro one mem o there
            obtain ⟨x, selected, own⟩ := List.mem_map.mp (rows.1.mem_iff.mp mem)
            obtain ⟨found, queued⟩ := Table.mem_select.mp selected
            have found : w.occurrences.lookup one = some x.2 := own ▸ found
            cases there.symm.trans found
            exact of_decide_eq_true queued
          · exact fun _ => h
    · exact h
  | others agenda =>
    obtain ⟨timetable, schedule, occurrences⟩ := unedited
    exact h.transfer timetable rfl occurrences rfl rfl schedule

omit least in
/-- A schedule that was created has caught up. -/
theorem Kept.created {w : Agenda} (h : Created fires scheduleId start w) : Kept fires scheduleId start none w where
  contiguous := by
    obtain ⟨row, there, _, runs, firing⟩ := h.timetable
    refine ⟨row, start, there, runs, firing, Int.le_refl _, ?_⟩
    rw [h.unrecorded]
    exact .nil
  occurs instant := by
    rw [h.unrecorded]
    constructor
    · intro mem
      cases mem
    · intro ⟨id, o, found, own, _⟩
      exact absurd own (h.none_there id o found)
  once id id' o o' found _ own := absurd own (h.none_there id o found)
  left id o found own := absurd own (h.none_there id o found)
  queued id o found own := absurd own (h.none_there id o found)
  in_window d mem own := absurd own (h.none_dispatched d mem)

/-- **From its creation on, an enabled schedule that nobody edits has caught up in every state.** -/
theorem schedule_catches_up (w : Agenda) (created : Created fires scheduleId start w) (events : List AgendaEvent)
    (unedited : Runs.Meets (Agenda.step next) (Unedited scheduleId) w events) (before after : List AgendaEvent)
    (split : events = before ++ after) : CaughtUp fires scheduleId start (w.run next before) :=
  (Runs.states_of_meets (I := Kept fires scheduleId start none) (fun _ _ h ok => h.step least ok)
    (.created created) unedited before after split).caughtUp

end

/-! ## A schedule that runs every minute -/

/-- A minute. -/
def minute : Time := 60 * second

/-- The next full minute. -/
def nextMinute : NextRun := fun _ _ base => some ((base / minute + 1) * minute)

theorem nextMinute_least (cron zone : String) (base u : Time) (found : nextMinute cron zone base = some u) :
    Recurrence.IsNext (fun t : Time => minute ∣ t) base u := by
  have positive : (0 : Int) < minute := by decide
  cases found
  refine ⟨⟨Int.dvd_mul_left _ _, ?_⟩, ?_⟩
  · exact Int.lt_ediv_add_one_mul_self base positive
  · intro t ⟨⟨q, whole⟩, after⟩
    have whole : t = q * minute := whole.trans (Int.mul_comm ..)
    rw [whole] at after ⊢
    apply Int.mul_le_mul_of_nonneg_right _ (Int.le_of_lt positive)
    exact Int.ediv_lt_of_lt_mul positive after

/-- A schedule that was created, for a plan and a robot that are ready. -/
def newAgenda : Agenda where
  catalogue := readyCatalogue
  timetables := AList.singleton "schedule"
    { cronExpression := "* * * * *", timezone := "UTC", enabled := true, misfirePolicy := .skip
      misfireGraceSeconds := 0, nextRunAt := some minute, lastRunAt := none }
  occurrences := ∅
  db := .empty
  recorded := []
  queuedAt := fun _ => 0
  dispatched := []

/-- A tick a second after the first minute. -/
def firstTick : Tick where
  now := minute + second
  queued := []
  due := ["schedule"]
  newId _ := "o1"
  attempt _ := { draw := { taskId := "T1", commandId := "C1", expiresAt := 2 * minute }, calls := leasedCalls, elapsed := 0 }
  flushes _ := true
  completes := true

/-- One occurrence is recorded in the first tick. -/
theorem minute_catches_up :
    CaughtUp (fun _ _ t => minute ∣ t) "schedule" minute (newAgenda.run nextMinute [.tick firstTick]) := by
  refine schedule_catches_up nextMinute_least newAgenda ?_ [.tick firstTick] ⟨trivial, trivial⟩ [.tick firstTick] []
    rfl
  refine ⟨⟨_, rfl, rfl, rfl, Int.dvd_refl _⟩, rfl, ?_, ?_⟩
  · intro id o found
    cases found
  · intro d mem
    cases mem

example : (newAgenda.run nextMinute [.tick firstTick]).times "schedule" = [minute] := by decide +kernel

end Firebot.Scheduler
