import Firebot.Data.Json
import Firebot.Lib.Calendar
import Firebot.Lib.Run
import Firebot.Lib.Table

/-!
# Partitions by month

`ensure_firebot_month_partitions` creates the partitions of a month and of some months after it, and
`drop_expired_month_partitions` drops those of earlier months than a cutoff's. The month of the reference is found
in UTC, but the months are added to a `timestamptz`: the database does that in the local time of its session. West
of Greenwich the first instant of a month is there the last day of the month before, and from that one comes to the
day of the same number.

The name of a partition is what it says, the table and the month. The rows are left out, and with them a default
partition that has rows of a month for which a partition is to be created. So are the limits of `timestamptz`, and the
years before the first, for which Python has no `datetime`.
-/

namespace Firebot.Worker

open Calendar

/-- The microseconds of a day. -/
def dayLength : Time := 86400 * second

/-- The offset of a session's local time from UTC. -/
structure UtcOffset where
  micros : Time
  lower : -dayLength < micros
  upper : micros < dayLength

/-- The tables with partitions. -/
inductive Parent where
  | telemetrySamples
  | sensorSamples
  deriving DecidableEq

/-- The range of a partition. -/
structure Partition where
  lower : Time
  upper : Time
  deriving DecidableEq

/-- The partitions, by table and month. -/
abbrev Catalog := Table (Parent × Int) Partition

/-- `CREATE TABLE IF NOT EXISTS … PARTITION OF … FOR VALUES FROM … TO …`. -/
structure CreatePartition where
  parent : Parent
  month : Int
  lower : Time
  upper : Time

/-- The first instant of a month. -/
def startOf (month : Int) : Time := firstDay month * dayLength

/-- The month of an instant. -/
def monthAt (t : Time) : Int := monthOf (t / dayLength)

/-- A `timestamptz` and an interval of months. -/
def UtcOffset.plusMonths (zone : UtcOffset) (t : Time) (months : Int) : Time :=
  let shown := t + zone.micros
  addMonths (shown / dayLength) months * dayLength + shown % dayLength - zone.micros

/-! ## The function of the database -/

section

variable (zone : UtcOffset) (reference : Time)

/-- `month_start`. -/
def monthStart (offset : Nat) : Time := zone.plusMonths (startOf (monthAt reference)) offset

/-- The statement for a table and an offset. -/
def statement (parent : Parent) (offset : Nat) : CreatePartition where
  parent
  month := monthAt (monthStart zone reference offset)
  lower := monthStart zone reference offset
  upper := zone.plusMonths (monthStart zone reference offset) 1

/-- The statements that are executed. -/
def statements (monthsAhead : Int) : List CreatePartition :=
  [Parent.telemetrySamples, .sensorSamples].flatMap fun parent =>
    (List.range (monthsAhead + 1).toNat).map (statement zone reference parent)

/-- A statement is executed; `none` where the range is empty, or meets that of another partition. -/
def create (catalog : Catalog) (c : CreatePartition) : Option Catalog :=
  if (catalog.lookup (c.parent, c.month)).isSome then some catalog
  else if c.upper ≤ c.lower then none
  else if catalog.rows.any fun row =>
      row.1.1 = c.parent && decide (row.2.lower < c.upper) && decide (c.lower < row.2.upper) then none
  else some (catalog.insert (c.parent, c.month) ⟨c.lower, c.upper⟩)

/-- `ensure_firebot_month_partitions`. -/
def ensureMonthPartitions (monthsAhead : Int) (catalog : Catalog) : Option Catalog :=
  (statements zone reference monthsAhead).foldlM create catalog

end

/-! ## Retention -/

/-- The name says a year of four digits, and not the year 0. -/
def named (month : Int) : Bool := 1 ≤ month / 12 && decide (month / 12 ≤ 9999)

/-- `start < cutoff_month`, of a partition of the table; the cutoff has an offset of its own. -/
def expired (parent : Parent) (cutoff offset : Time) (name : Parent × Int) : Bool :=
  name.1 = parent && named name.2 && decide (startOf name.2 < startOf (monthAt (cutoff + offset)))

/-- What `drop_expired_month_partitions` drops. -/
def droppedPartitions (parent : Parent) (cutoff offset : Time) (catalog : Catalog) : List ((Parent × Int) × Partition) :=
  catalog.rows.filter fun row => expired parent cutoff offset row.1

/-- `drop_expired_month_partitions`. -/
def dropExpiredMonthPartitions (parent : Parent) (cutoff offset : Time) (catalog : Catalog) : Catalog :=
  catalog.filterMap fun name partition => if expired parent cutoff offset name then none else some partition

/-- What is done with the partitions. -/
inductive PartitionEvent where
  | ensure (zone : UtcOffset) (reference : Time) (monthsAhead : Int)
  | drop (parent : Parent) (cutoff offset : Time)

/-- What is done; a call that raises is rolled back. -/
def Catalog.step (catalog : Catalog) : PartitionEvent → Catalog
  | .ensure zone reference monthsAhead => (ensureMonthPartitions zone reference monthsAhead catalog).getD catalog
  | .drop parent cutoff offset => dropExpiredMonthPartitions parent cutoff offset catalog

end Firebot.Worker
