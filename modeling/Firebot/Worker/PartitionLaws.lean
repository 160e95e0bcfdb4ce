import Mathlib.Tactic.Ring
import Firebot.Worker.Partitions

/-!
# Which months the partitions are

A month that is added in the local time of the session leads from the first instant of a month to that of another
where local time is not behind UTC. Where it is behind, the day that is kept is the last one of the month before: one
comes to the first instant of the other month where the month before that one is not longer
(`plusMonths_eq_startOf_iff`). From this follows which calls of `ensure_firebot_month_partitions` create every month
with its own range, and that retention, after such calls, drops a partition only where all of it has expired.

**A call creates every missing month with its own range exactly if both ends of the month are reached**
(`partitions_exact_iff`). Nothing is said of rows that no partition takes.
-/

namespace Firebot.Worker

open Calendar Runs

variable {zone : UtcOffset} {reference t : Time} {month : Int}

/-! ## Months in UTC -/

theorem startOf_lt_startOf_iff {month' : Int} : startOf month < startOf month' ↔ month < month' := by
  have positive : (0 : Int) < dayLength := by decide
  exact (Int.mul_lt_mul_right positive).trans firstDay_lt_firstDay_iff

theorem startOf_le_startOf_iff {month' : Int} : startOf month ≤ startOf month' ↔ month ≤ month' := by
  rw [← not_lt, startOf_lt_startOf_iff, not_lt]

/-- An instant lies in one month only. -/
theorem monthAt_eq_iff : monthAt t = month ↔ startOf month ≤ t ∧ t < startOf (month + 1) := by
  unfold monthAt startOf
  rw [monthOf_eq_iff, Int.le_ediv_iff_mul_le (by decide), Int.ediv_lt_iff_lt_mul (by decide)]

/-- The range of a month. -/
def monthRange (month : Int) : Partition := ⟨startOf month, startOf (month + 1)⟩

/-! ## Months added in local time -/

/-- Where local time is ahead of UTC the first instant of a month is on its first day. -/
theorem plusMonths_ahead (ahead : 0 ≤ zone.micros) (months : Int) :
    zone.plusMonths (startOf month) months = startOf (month + months) := by
  have below := zone.upper
  have positive : (0 : Int) < dayLength := by decide
  have day : (startOf month + zone.micros) / dayLength = firstDay month := by
    unfold startOf
    rw [add_comm, Int.add_mul_ediv_right _ _ positive.ne', Int.ediv_eq_zero_of_lt ahead below, zero_add]
  have rest : (startOf month + zone.micros) % dayLength = zone.micros := by
    unfold startOf
    rw [add_comm, Int.add_mul_emod_self_right, Int.emod_eq_of_lt ahead below]
  unfold UtcOffset.plusMonths
  simp only
  rw [day, rest, addMonths_first, add_sub_cancel_right]
  rfl

/-- Where local time is behind UTC it is on the last day of the month before. -/
theorem plusMonths_behind (behind : zone.micros < 0) (months : Int) : zone.plusMonths (startOf month) months =
    (firstDay (month + months - 1) + min (monthDays (month - 1)) (monthDays (month + months - 1))) * dayLength := by
  have left : 0 ≤ dayLength + zone.micros := (neg_lt_iff_pos_add'.mp zone.lower).le
  have part : dayLength + zone.micros < dayLength := add_lt_of_neg_right _ behind
  have positive : (0 : Int) < dayLength := by decide
  have shown : startOf month + zone.micros = (dayLength + zone.micros) + (firstDay month - 1) * dayLength := by
    unfold startOf
    ring
  have day : (startOf month + zone.micros) / dayLength = firstDay month - 1 := by
    rw [shown, Int.add_mul_ediv_right _ _ positive.ne', Int.ediv_eq_zero_of_lt left part, zero_add]
  have rest : (startOf month + zone.micros) % dayLength = dayLength + zone.micros := by
    rw [shown, Int.add_mul_emod_self_right, Int.emod_eq_of_lt left part]
  have before : month - 1 + months = month + months - 1 := sub_add_eq_add_sub _ _ _
  unfold UtcOffset.plusMonths
  simp only
  rw [day, rest, addMonths_last, before]
  ring

/-- The first instant of a month leads to that of another. -/
theorem plusMonths_eq_startOf_iff {months : Int} : zone.plusMonths (startOf month) months = startOf (month + months) ↔
    0 ≤ zone.micros ∨ monthDays (month + months - 1) ≤ monthDays (month - 1) := by
  rcases le_or_gt 0 zone.micros with ahead | behind
  · exact iff_of_true (plusMonths_ahead ahead months) (.inl ahead)
  · have length := firstDay_succ (month + months - 1)
    rw [sub_add_cancel] at length
    have positive : dayLength ≠ 0 := by decide
    rw [plusMonths_behind behind, or_iff_right behind.not_ge]
    unfold startOf
    rw [mul_left_inj' positive, length, add_right_inj, min_eq_right_iff]

/-- Else it leads to an instant within the month before that one. -/
theorem plusMonths_within {months : Int} (misses : zone.plusMonths (startOf month) months ≠ startOf (month + months)) :
    startOf (month + months - 1) < zone.plusMonths (startOf month) months ∧
      zone.plusMonths (startOf month) months < startOf (month + months) := by
  rw [Ne, plusMonths_eq_startOf_iff, not_or, not_le, not_le] at misses
  obtain ⟨behind, shorter⟩ := misses
  have days := monthDays_bounds (month - 1)
  have length := firstDay_succ (month + months - 1)
  rw [sub_add_cancel] at length
  rw [plusMonths_behind behind, min_eq_left shorter.le]
  unfold startOf
  constructor <;> refine Int.mul_lt_mul_of_pos_right ?_ (by decide) <;> omega

/-! ## Which statements are exact -/

/-- From the first instant of a month one comes to both ends of another. -/
def UtcOffset.Reaches (zone : UtcOffset) (first month : Int) : Prop :=
  0 ≤ zone.micros ∨
    monthDays (month - 1) ≤ monthDays (first - 1) ∧ monthDays month ≤ monthDays (month - 1)

variable {parent : Parent} {k : Nat}

/-- What a statement says where it begins with the month that is meant. -/
theorem statement_of_eq (first : monthStart zone reference k = startOf (monthAt reference + k)) :
    statement zone reference parent k = {
      parent
      month := monthAt reference + k
      lower := startOf (monthAt reference + k)
      upper := zone.plusMonths (startOf (monthAt reference + k)) 1 } := by
  have named : monthAt (startOf (monthAt reference + k)) = monthAt reference + k :=
    monthAt_eq_iff.mpr ⟨le_rfl, startOf_lt_startOf_iff.mpr (Int.lt_succ _)⟩
  unfold statement
  rw [first, named]

/-- Else it names the month before, and begins later than that one. -/
theorem statement_of_ne (parent : Parent) (misses : monthStart zone reference k ≠ startOf (monthAt reference + k)) :
    (statement zone reference parent k).month = monthAt reference + k - 1 ∧
      startOf (monthAt reference + k - 1) < (statement zone reference parent k).lower := by
  obtain ⟨after, before⟩ := plusMonths_within misses
  refine ⟨monthAt_eq_iff.mpr ⟨after.le, ?_⟩, after⟩
  rw [sub_add_cancel]
  exact before

theorem monthStart_eq_iff : monthStart zone reference k = startOf (monthAt reference + k) ↔
    0 ≤ zone.micros ∨ monthDays (monthAt reference + k - 1) ≤ monthDays (monthAt reference - 1) :=
  plusMonths_eq_startOf_iff

theorem reaches_iff : zone.Reaches (monthAt reference) (monthAt reference + k) ↔
    monthStart zone reference k = startOf (monthAt reference + k) ∧
      zone.plusMonths (startOf (monthAt reference + k)) 1 = startOf (monthAt reference + k + 1) := by
  rw [monthStart_eq_iff, plusMonths_eq_startOf_iff, add_sub_cancel_right, ← or_and_left]
  rfl

/-! ## What is created -/

/-- Every partition has the range of its month. -/
def Exact (catalog : Catalog) : Prop :=
  ∀ parent month partition, catalog.lookup (parent, month) = some partition → partition = monthRange month

/-- What a call is for: the months that are asked for have partitions with their own ranges, and no others change. -/
def Created (reference : Time) (monthsAhead : Int) (before : Catalog) (result : Option Catalog) : Prop :=
  ∃ after, result = some after ∧ ∀ parent month, after.lookup (parent, month) =
    if monthAt reference ≤ month ∧ month ≤ monthAt reference + monthsAhead then some (monthRange month)
    else before.lookup (parent, month)

/-- Both ends of every month that is missing are reached. -/
def ReachesMissing (zone : UtcOffset) (reference : Time) (monthsAhead : Int) (before : Catalog) : Prop :=
  ∀ parent month, monthAt reference ≤ month → month ≤ monthAt reference + monthsAhead →
    before.lookup (parent, month) = none → zone.Reaches (monthAt reference) month

variable {catalog after : Catalog} {c : CreatePartition}

/-- A partition after the statements is one of before, or is as a statement says. -/
theorem lookup_foldlM_create {list : List CreatePartition} {name : Parent × Int} {partition : Partition}
    (done : list.foldlM create catalog = some after) (found : after.lookup name = some partition) :
    catalog.lookup name = some partition ∨
      ∃ c ∈ list, name = (c.parent, c.month) ∧ partition = ⟨c.lower, c.upper⟩ := by
  induction list generalizing catalog with
  | nil =>
    cases done
    exact .inl found
  | cons c list ih =>
    rw [List.foldlM_cons] at done
    obtain ⟨next, created, rest⟩ := Option.bind_eq_some_iff.mp done
    rcases ih rest with was | ⟨c', mem, said⟩
    · unfold create at created
      split at created
      · cases created
        exact .inl was
      · split at created
        · cases created
        · split at created
          · cases created
          · cases created
            rcases Table.of_lookup_insert was with ⟨same, range⟩ | ⟨_, was⟩
            · exact .inr ⟨c, List.mem_cons_self, same, range⟩
            · exact .inl was
    · exact .inr ⟨c', List.mem_cons_of_mem _ mem, said⟩

/-- A month that is missing among exact partitions gets its range. -/
theorem create_of_exact (exact_ : Exact catalog) (missing : catalog.lookup (parent, month) = none) :
    create catalog ⟨parent, month, startOf month, startOf (month + 1)⟩ =
      some (catalog.insert (parent, month) (monthRange month)) := by
  have apart : ¬ (catalog.rows.any fun row =>
      row.1.1 = parent && decide (row.2.lower < startOf (month + 1)) && decide (startOf month < row.2.upper)) = true := by
    rw [Table.any_rows]
    rintro ⟨⟨parent', month'⟩, partition, found, meets⟩
    rw [exact_ parent' month' partition found] at meets
    simp only [Bool.and_eq_true, decide_eq_true_eq] at meets
    obtain ⟨⟨rfl, before⟩, after⟩ := meets
    have not_after := startOf_lt_startOf_iff.mp before
    have not_before := startOf_lt_startOf_iff.mp after
    have same : month' = month := by omega
    rw [same, missing] at found
    cases found
  have nonempty : ¬ startOf (month + 1) ≤ startOf month := not_le.mpr (startOf_lt_startOf_iff.mpr (Int.lt_succ month))
  unfold create
  simp only
  rw [missing, if_neg (by simp), if_neg nonempty, if_neg apart]
  rfl

/-- A month that is there is left as it is. -/
theorem create_of_found {partition : Partition} (found : catalog.lookup (c.parent, c.month) = some partition) :
    create catalog c = some catalog := by
  unfold create
  rw [found]
  rfl

/-- The months of a table up to one of them have partitions with their own ranges, and no others have changed. -/
def Filled (first : Int) (parent : Parent) (count : Nat) (before after : Catalog) : Prop :=
  ∀ name, after.lookup name =
    if name.1 = parent ∧ first ≤ name.2 ∧ name.2 < first + count then some (monthRange name.2) else before.lookup name

theorem Filled.exact {first : Int} {count : Nat} (h : Filled first parent count catalog after) (exact_ : Exact catalog) :
    Exact after := by
  intro parent' month partition found
  rw [h] at found
  split at found
  · cases found
    rfl
  · exact exact_ _ _ _ found

theorem Filled.lookup_self {first : Int} {count : Nat} (h : Filled first parent count catalog after) :
    after.lookup (parent, month) =
      if first ≤ month ∧ month < first + count then some (monthRange month) else catalog.lookup (parent, month) := by
  rw [h]
  exact if_congr (and_iff_right rfl) rfl rfl

theorem Filled.lookup_other {first : Int} {count : Nat} {parent' : Parent} (h : Filled first parent count catalog after)
    (ne : parent' ≠ parent) : after.lookup (parent', month) = catalog.lookup (parent', month) := by
  rw [h]
  exact if_neg fun its => ne its.1

/-- One more month. -/
theorem Filled.create {mid : Catalog} (h : Filled (monthAt reference) parent k catalog mid) (exact_ : Exact catalog)
    (reach : catalog.lookup (parent, monthAt reference + k) = none →
      zone.Reaches (monthAt reference) (monthAt reference + k)) :
    ∃ after, create mid (statement zone reference parent k) = some after ∧
      Filled (monthAt reference) parent (k + 1) catalog after := by
  have was : mid.lookup (parent, monthAt reference + k) = catalog.lookup (parent, monthAt reference + k) := by
    rw [h.lookup_self, if_neg (by simp)]
  have same (there : catalog.lookup (parent, monthAt reference + k) ≠ none) :
      Filled (monthAt reference) parent (k + 1) catalog mid := by
    obtain ⟨partition, found⟩ := Option.ne_none_iff_exists'.mp there
    have range := exact_ _ _ _ found
    intro name
    rw [h]
    by_cases last : name = (parent, monthAt reference + k)
    · rw [last, found, range]
      simp
    · refine if_congr (and_congr_right fun its => and_congr_right fun _ => ?_) rfl rfl
      have other : name.2 ≠ monthAt reference + k := fun equal => last (Prod.ext its equal)
      push_cast
      omega
  by_cases first : monthStart zone reference k = startOf (monthAt reference + k)
  · rw [statement_of_eq first]
    cases there : catalog.lookup (parent, monthAt reference + k) with
    | some partition =>
      refine ⟨mid, create_of_found (was.trans there), same ?_⟩
      rw [there]
      exact Option.some_ne_none _
    | none =>
      rw [(reaches_iff.mp (reach there)).2]
      refine ⟨_, create_of_exact (h.exact exact_) (was.trans there), ?_⟩
      intro name
      by_cases last : name = (parent, monthAt reference + k)
      · rw [last, AList.lookup_insert]
        simp
      · rw [AList.lookup_insert_ne last, h]
        refine if_congr (and_congr_right fun its => and_congr_right fun _ => ?_) rfl rfl
        have other : name.2 ≠ monthAt reference + k := fun equal => last (Prod.ext its equal)
        push_cast
        omega
  · -- The statement names the month before, which is there: it is one of those that were asked for.
    obtain ⟨named, _⟩ := statement_of_ne parent first
    have later : k ≠ 0 := by
      rintro rfl
      refine first (monthStart_eq_iff.mpr (.inr ?_))
      simp
    have there : catalog.lookup (parent, monthAt reference + k) ≠ none :=
      fun missing => first (reaches_iff.mp (reach missing)).1
    have before : mid.lookup (parent, monthAt reference + k - 1) = some (monthRange (monthAt reference + k - 1)) := by
      rw [h.lookup_self, if_pos (by omega)]
    rw [← named] at before
    exact ⟨mid, create_of_found before, same there⟩

/-- All the months of a table. -/
theorem filled_of_reaches (exact_ : Exact catalog) (count : Nat)
    (reach : ∀ k < count, catalog.lookup (parent, monthAt reference + k) = none →
      zone.Reaches (monthAt reference) (monthAt reference + k)) :
    ∃ after, ((List.range count).map (statement zone reference parent)).foldlM create catalog = some after ∧
      Filled (monthAt reference) parent count catalog after := by
  induction count with
  | zero =>
    refine ⟨catalog, rfl, fun name => (if_neg ?_).symm⟩
    rintro ⟨_, lower, upper⟩
    push_cast at upper
    omega
  | succ k ih =>
    obtain ⟨mid, done, filled⟩ := ih fun k' before => reach k' (before.trans (Nat.lt_succ_self k))
    obtain ⟨after, created, filled'⟩ := filled.create exact_ (reach k (Nat.lt_succ_self k))
    refine ⟨after, ?_, filled'⟩
    rw [List.range_succ, List.map_append, List.foldlM_append, done]
    exact (Option.bind_some _ _).trans ((bind_pure _).trans created)

/-- A call creates what it is for exactly if both ends of every missing month are reached. -/
theorem created_iff (zone : UtcOffset) (reference : Time) (monthsAhead : Int) (exact_ : Exact catalog) :
    Created reference monthsAhead catalog (ensureMonthPartitions zone reference monthsAhead catalog) ↔
      ReachesMissing zone reference monthsAhead catalog := by
  constructor
  · rintro ⟨after, done, right⟩ parent month first last missing
    have found : after.lookup (parent, month) = some (monthRange month) := by
      rw [right, if_pos ⟨first, last⟩]
    rcases lookup_foldlM_create done found with was | ⟨c, mem, named, range⟩
    · rw [missing] at was
      cases was
    · obtain ⟨parent', _, mem⟩ := List.mem_flatMap.mp mem
      obtain ⟨k, _, rfl⟩ := List.mem_map.mp mem
      obtain ⟨_, same⟩ := Prod.mk.inj named
      obtain ⟨lower, upper⟩ := Partition.mk.inj range
      by_cases begins : monthStart zone reference k = startOf (monthAt reference + k)
      · rw [statement_of_eq begins] at same upper
        rw [same] at upper ⊢
        exact reaches_iff.mpr ⟨begins, upper.symm⟩
      · obtain ⟨named, late⟩ := statement_of_ne parent' begins
        rw [← named, ← same, ← lower] at late
        exact absurd late (lt_irrefl _)
  · intro reach
    have reach' (parent : Parent) : ∀ k < (monthsAhead + 1).toNat,
        catalog.lookup (parent, monthAt reference + k) = none →
          zone.Reaches (monthAt reference) (monthAt reference + k) :=
      fun k below => reach parent _ (by omega) (by omega)
    obtain ⟨mid, done, filled⟩ := filled_of_reaches exact_ _ (reach' .telemetrySamples)
    have differ : Parent.sensorSamples ≠ .telemetrySamples := by decide
    obtain ⟨after, done', filled'⟩ := filled_of_reaches (filled.exact exact_) _ fun k below missing =>
      reach' .sensorSamples k below ((filled.lookup_other differ).symm.trans missing)
    refine ⟨after, ?_, fun parent month => ?_⟩
    · unfold ensureMonthPartitions statements
      rw [List.flatMap_cons, List.flatMap_cons, List.flatMap_nil, List.append_nil, List.foldlM_append, done]
      exact done'
    · cases parent with
      | telemetrySamples =>
        rw [filled'.lookup_other differ.symm, filled.lookup_self]
        exact if_congr (by omega) rfl rfl
      | sensorSamples =>
        rw [filled'.lookup_self, filled.lookup_other differ]
        exact if_congr (by omega) rfl rfl

/-! ## Retention -/

/-- Partitions that have the ranges of their months. -/
structure Monthly where
  catalog : Catalog
  exact : Exact catalog

/-- A call creates what it is for; retention is not asked for anything. -/
def Catalog.Grows (catalog : Catalog) : PartitionEvent → Prop
  | .ensure zone reference monthsAhead => ReachesMissing zone reference monthsAhead catalog
  | .drop .. => True

theorem Exact.step (exact_ : Exact catalog) (event : PartitionEvent) (grows : catalog.Grows event) :
    Exact (catalog.step event) := by
  cases event with
  | ensure zone reference monthsAhead =>
    obtain ⟨after, done, right⟩ := (created_iff zone reference monthsAhead exact_).mpr grows
    intro parent month partition found
    have same : catalog.step (.ensure zone reference monthsAhead) = after := by
      show (ensureMonthPartitions zone reference monthsAhead catalog).getD catalog = after
      rw [done]
      rfl
    rw [same, right] at found
    split at found
    · cases found
      rfl
    · exact exact_ _ _ _ found
  | drop parent cutoff offset =>
    intro parent' month partition found
    have before : (catalog.lookup (parent', month)).bind (fun partition =>
        if expired parent cutoff offset (parent', month) then none else some partition) = some partition :=
      (Table.lookup_filterMap _ _ _).symm.trans found
    obtain ⟨partition', was, kept⟩ := Option.bind_eq_some_iff.mp before
    split at kept
    · cases kept
    · cases kept
      exact exact_ _ _ _ was

/-- With a cutoff in UTC, what is dropped of exact partitions ends before the month of the cutoff. -/
theorem Exact.dropped (exact_ : Exact catalog) {cutoff : Time} {row : (Parent × Int) × Partition}
    (mem : row ∈ droppedPartitions parent cutoff 0 catalog) : row.2.upper ≤ cutoff := by
  obtain ⟨found, old⟩ := List.mem_filter.mp mem
  unfold expired at old
  simp only [Bool.and_eq_true, decide_eq_true_eq, add_zero] at old
  have earlier : row.1.2 + 1 ≤ monthAt cutoff := startOf_lt_startOf_iff.mp old.2
  rw [exact_ row.1.1 row.1.2 row.2 (Table.mem_rows.mp found)]
  exact (startOf_le_startOf_iff.mpr earlier).trans (monthAt_eq_iff.mp rfl).1

/-- A call creates every missing month with its own range exactly if both ends of the month are reached; and where
all calls of a run do, retention with a cutoff in UTC drops no partition that has an instant from the cutoff on. -/
theorem partitions_exact_iff (start : Monthly) :
    (∀ zone reference monthsAhead, Created reference monthsAhead start.catalog
        (ensureMonthPartitions zone reference monthsAhead start.catalog) ↔
      ReachesMissing zone reference monthsAhead start.catalog) ∧
    ∀ events, Meets Catalog.step Catalog.Grows start.catalog events → ∀ parent cutoff,
      ∀ row ∈ droppedPartitions parent cutoff 0 (run Catalog.step start.catalog events),
        ∀ instant, row.2.lower ≤ instant → instant < row.2.upper → instant < cutoff := by
  refine ⟨fun zone reference monthsAhead => created_iff zone reference monthsAhead start.exact, ?_⟩
  intro events met parent cutoff row mem instant _ before
  have exact_ : Exact (run Catalog.step start.catalog events) :=
    invariant (fun _ event was grows => was.step event grows) start.exact met
  exact before.trans_le (exact_.dropped mem)

/-- A session five hours behind UTC. -/
def fiveBehind : UtcOffset := ⟨-5 * 3600 * second, by decide, by decide⟩

/-- 15 March 2026, 12:00 in UTC. -/
def midMarch : Time := (20527 * 86400 + 12 * 3600) * second

/-- 10 May 2026, 0:00 in UTC. -/
def tenthOfMay : Time := 20583 * dayLength

/-- Behind UTC the partition of March ends on its 29th; with two months ahead, that of April goes from 29 April to
29 May, and with a cutoff on 10 May it is dropped. -/
theorem march_cut_short :
    ¬ Created midMarch 0 ∅ (ensureMonthPartitions fiveBehind midMarch 0 ∅) ∧
      ∃ row ∈ droppedPartitions .telemetrySamples tenthOfMay 0 (Catalog.step ∅ (.ensure fiveBehind midMarch 2)),
        row.2.lower ≤ tenthOfMay ∧ tenthOfMay < row.2.upper := by
  constructor
  · rintro ⟨after, done, right⟩
    have march : (ensureMonthPartitions fiveBehind midMarch 0 ∅).bind (·.lookup (.telemetrySamples, 2026 * 12 + 2)) =
        some ⟨20513 * dayLength, 20541 * dayLength⟩ := by decide +kernel
    rw [done] at march
    have asked := right .telemetrySamples (2026 * 12 + 2)
    rw [if_pos (by decide +kernel)] at asked
    have cut : monthRange (2026 * 12 + 2) = ⟨20513 * dayLength, 20541 * dayLength⟩ :=
      Option.some.inj (asked.symm.trans march)
    exact absurd cut (by decide +kernel)
  · decide +kernel

end Firebot.Worker
