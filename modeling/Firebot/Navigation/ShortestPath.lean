import Mathlib.Algebra.Order.Ring.Rat
import Mathlib.Data.List.AList
import Firebot.Lib.Dijkstra
import Firebot.Lib.Table

/-!
# The search for a shortest path

`_dijkstra` on the graph of the lanes: nodes are indices, `adjacency` has under a node the nodes that an edge leads
to, with its length. Lengths are exact. The two loops of the source run as long as they need; here they are given a
number of rounds, and `dijkstra_shortest` says that from some number on they are enough.

**The search ends; it finds nothing exactly if no way leads to the goal, and otherwise a way of the least
length** (`dijkstra_shortest`). Nothing is said of which one it is, where there are several.
-/

namespace Firebot.Navigation

open Dijkstra

/-- `adjacency`. -/
abbrev Adjacency := Table Nat (List (Nat × ℚ))

namespace Adjacency

variable (adjacency : Adjacency)

/-- `adjacency.get(u, [])`. -/
def next (u : Nat) : List (Nat × ℚ) := (adjacency.lookup u).getD []

/-- `_dijkstra`: a path, or `some none` where the source returns `None`. -/
def dijkstra (start goal fuel : Nat) : Option (Option (List Nat)) := search adjacency.next start goal fuel

/-- No edge has a negative length. -/
def Nonneg : Prop := ∀ u, ∀ e ∈ adjacency.next u, 0 ≤ e.2

theorem next_of_not_mem {u : Nat} (absent : u ∉ adjacency.keys.toFinset) : adjacency.next u = [] := by
  unfold next
  rw [List.mem_toFinset, ← AList.mem_keys, ← AList.lookup_eq_none] at absent
  rw [absent, Option.getD_none]

end Adjacency

/-- A graph of lanes whose edges have a length of zero at least. -/
structure Lanes where
  adjacency : Adjacency
  nonneg : adjacency.Nonneg

namespace Lanes

variable (lanes : Lanes)

/-- As a graph: edges begin only under the keys. -/
def graph : Dijkstra.Graph Nat ℚ where
  next := lanes.adjacency.next
  nodes := lanes.adjacency.keys.toFinset
  outside _ absent := lanes.adjacency.next_of_not_mem absent
  nonneg := lanes.nonneg

/-- The search ends. It finds nothing exactly if no way leads to the goal, and otherwise a way of the least
length. -/
theorem dijkstra_shortest (start goal : Nat) :
    ∃ bound, ∀ fuel ≥ bound, ∃ found, lanes.adjacency.dijkstra start goal fuel = some found ∧
      (found = none ↔ ¬ ∃ nodes length, Walk lanes.adjacency.next start nodes goal length) ∧
        ∀ path, found = some path → ∃ length, Walk lanes.adjacency.next start path goal length ∧
          ∀ nodes length', Walk lanes.adjacency.next start nodes goal length' → length ≤ length' := by
  refine ⟨lanes.graph.size + 2, fun fuel enough => ?_⟩
  obtain ⟨found, ran, shortest, _⟩ := search_spec lanes.graph start goal enough
  refine ⟨found, ran, ?_⟩
  cases found with
  | none =>
    refine ⟨iff_of_true rfl fun ⟨nodes, length, walk⟩ => shortest nodes length walk, fun path same => ?_⟩
    cases same
  | some path =>
    obtain ⟨length, walk, least⟩ := shortest
    refine ⟨iff_of_false (Option.some_ne_none path) fun unreachable => unreachable ⟨path, length, walk⟩, ?_⟩
    intro path' same
    cases same
    exact ⟨length, walk, least⟩

end Lanes

end Firebot.Navigation
