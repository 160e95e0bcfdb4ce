import Mathlib.Algebra.BigOperators.Group.Finset.Basic
import Mathlib.Algebra.Order.Monoid.Defs
import Mathlib.Data.Finset.Max
import Mathlib.Data.Prod.Lex
import Mathlib.Logic.Function.Basic

/-!
# Shortest paths with a heap that keeps stale entries

Dijkstra's search: the least entry of the queue is taken; an entry that is more than the distance by now is stale
and is skipped; the search ends at the goal; otherwise the edges of the node are relaxed. A node that is taken is
settled, and the list of the settled nodes is the ghost of the proof. The distance and the predecessor of a settled
node never change, so the predecessors of a node lead back to the start over settled nodes (`Trace`).

The queue is a list from which the least pair is taken. `search` is given a number of rounds; `search_spec` says
that the edges and two are enough, and that the path found is a shortest one.
-/

namespace Dijkstra

universe u v

variable {V : Type u} {K : Type v}

/-- The distances, the predecessors, and the queue. -/
structure Search (V : Type u) (K : Type v) where
  dist : V → Option K
  prev : V → Option V
  queue : List (K ×ₗ V)

section

variable [LinearOrder V] [AddCommMonoid K] [LinearOrder K] (next : V → List (V × K)) (start goal : V)

namespace Search

/-- Nothing but the start is known. -/
def initial : Search V K where
  dist := Function.update (fun _ => none) start (some 0)
  prev _ := none
  queue := [toLex (0, start)]

/-- A node is at a distance, over another one. -/
def improve (u v : V) (d : K) (s : Search V K) : Search V K where
  dist := Function.update s.dist v (some d)
  prev := Function.update s.prev v (some u)
  queue := toLex (d, v) :: s.queue

/-- An edge from a node at a distance is relaxed. -/
def relax (u : V) (d : K) (s : Search V K) (e : V × K) : Search V K :=
  if (s.dist e.1).all fun known => d + e.2 < known then s.improve u e.1 (d + e.2) else s

/-- The search, for a number of rounds; `none` where they are not enough. -/
def run : Nat → Search V K → Option (Search V K)
  | 0, _ => none
  | fuel + 1, s =>
    match s.queue.min? with
    | none => some s
    | some top =>
      let d := (ofLex top).1
      let u := (ofLex top).2
      let popped := { s with queue := s.queue.erase top }
      if (s.dist u).any fun known => known < d then run fuel popped
      else if u = goal then some popped
      else run fuel ((next u).foldl (relax u d) popped)

end Search

/-- From a node back to the start, for a number of nodes. -/
def back (prev : V → Option V) : Nat → V → Option (List V)
  | 0, _ => none
  | fuel + 1, v => if v = start then some [v] else (prev v).bind fun u => (back prev fuel u).map (v :: ·)

/-- The path that is found, or that there is none; `none` where the rounds are not enough. -/
def search (fuel : Nat) : Option (Option (List V)) :=
  (Search.run next goal fuel (.initial start)).bind fun s =>
    if (s.dist goal).isNone then some none
    else (back start s.prev fuel goal).map fun path => some path.reverse

/-- The nodes of a way from the start to a node, and its length. -/
inductive Walk : List V → V → K → Prop where
  | start : Walk [start] start 0
  | step {nodes : List V} {u v : V} {d w : K} (before : Walk nodes u d) (edge : (v, w) ∈ next u) :
    Walk (nodes ++ [v]) v (d + w)

/-- No way to the goal is shorter, or there is none. -/
def Shortest : Option (List V) → Prop
  | none => ∀ nodes d, ¬ Walk next start nodes goal d
  | some path => ∃ d : K, Walk next start path goal d ∧ ∀ nodes d', Walk next start nodes goal d' → d ≤ d'

end

/-- A graph with finitely many edges, none of negative length. -/
structure Graph (V : Type u) (K : Type v) [Zero K] [LE K] where
  next : V → List (V × K)
  nodes : Finset V
  outside : ∀ u ∉ nodes, next u = []
  nonneg : ∀ u, ∀ e ∈ next u, 0 ≤ e.2

namespace Search

variable [LinearOrder V] {s : Search V K} {u v x : V} {d d' : K}

@[simp] theorem improve_dist_self : (s.improve u v d).dist v = some d := Function.update_self ..

/-- An improvement leaves the other distances. -/
theorem improve_dist_of_ne (off : x ≠ v) : (s.improve u v d).dist x = s.dist x := Function.update_of_ne off ..

@[simp] theorem improve_prev_self : (s.improve u v d).prev v = some u := Function.update_self ..

/-- And the other predecessors. -/
theorem improve_prev_of_ne (off : x ≠ v) : (s.improve u v d).prev x = s.prev x := Function.update_of_ne off ..

/-- A distance after an improvement is the new one, or was there. -/
theorem improve_cases (h : (s.improve u v d).dist x = some d') : (x = v ∧ d' = d) ∨ (x ≠ v ∧ s.dist x = some d') := by
  by_cases same : x = v
  · rw [same, improve_dist_self] at h
    exact .inl ⟨same, (Option.some.inj h).symm⟩
  · rw [improve_dist_of_ne same] at h
    exact .inr ⟨same, h⟩

end Search

/-! ## Ways and traces -/

section

variable [AddCommMonoid K] {next : V → List (V × K)} {prev : V → Option V}
  {start u v goal : V} {nodes : List V} {d w : K}

/-- A way that the predecessors lead back. -/
inductive Trace (next : V → List (V × K)) (prev : V → Option V) (start : V) : List V → V → K → Prop where
  | start : Trace next prev start [start] start 0
  | step {nodes : List V} {u v : V} {d w : K} (before : Trace next prev start nodes u d) (edge : (v, w) ∈ next u)
    (back : prev v = some u) (fresh : v ≠ start) : Trace next prev start (nodes ++ [v]) v (d + w)

/-- A trace of predecessors is a walk. -/
theorem Trace.walk (h : Trace next prev start nodes v d) : Walk next start nodes v d := by
  induction h with
  | start => exact .start
  | step _ edge _ _ ih => exact .step ih edge

/-- Other predecessors of nodes that are not on the way make no difference. -/
theorem Trace.congr {prev' : V → Option V} (h : Trace next prev start nodes v d)
    (same : ∀ x ∈ nodes, prev' x = prev x) : Trace next prev' start nodes v d := by
  induction h with
  | start => exact .start
  | @step nodes u v d w _ edge back fresh ih =>
    refine .step (ih fun x mem => same x (List.mem_append_left _ mem)) edge ?_ fresh
    rw [same v (List.mem_append_right _ List.mem_cons_self), back]

/-- Going back along a trace gives its nodes. -/
theorem Trace.back_eq [LinearOrder V] (h : Trace next prev start nodes v d) {fuel : Nat} (enough : nodes.length ≤ fuel) :
    back start prev fuel v = some nodes.reverse := by
  induction h generalizing fuel with
  | start =>
    cases fuel with
    | zero => exact absurd enough (Nat.not_succ_le_zero 0)
    | succ fuel => exact if_pos rfl
  | @step nodes u v d w _ edge link fresh ih =>
    cases fuel with
    | zero =>
      rw [List.length_append] at enough
      exact absurd enough (Nat.not_succ_le_zero _)
    | succ fuel =>
      rw [List.length_append] at enough
      rw [back, if_neg fresh, link, Option.bind_some, ih (Nat.le_of_succ_le_succ enough), List.reverse_append]
      rfl

/-- A walk over edges that are not negative is not negative. -/
theorem Walk.nonneg [LinearOrder K] [IsOrderedAddMonoid K] (positive : ∀ u, ∀ e ∈ next u, (0 : K) ≤ e.2)
    (h : Walk next start nodes v d) : 0 ≤ d := by
  induction h with
  | start => exact le_rfl
  | step _ edge ih => exact add_nonneg ih (positive _ _ edge)

/-- A walk ends at its last node. -/
theorem Walk.exists_concat (h : Walk next start nodes v d) : ∃ init, nodes = init ++ [v] := by
  cases h with
  | start => exact ⟨[], rfl⟩
  | @step nodes => exact ⟨nodes, rfl⟩

theorem Walk.getLast? (h : Walk next start nodes v d) : nodes.getLast? = some v := by
  obtain ⟨init, rfl⟩ := h.exists_concat
  exact List.getLast?_concat

/-- A way begins with an edge from the start, if it is not at its end. -/
theorem Walk.uncons (h : Walk next start nodes v d) : (nodes = [start] ∧ v = start ∧ d = 0) ∨
    ∃ u w rest d', (u, w) ∈ next start ∧ Walk next u rest v d' ∧ nodes = start :: rest ∧ d = w + d' := by
  induction h with
  | start => exact .inl ⟨rfl, rfl, rfl⟩
  | @step nodes u v d w before edge ih =>
    rcases ih with ⟨rfl, rfl, rfl⟩ | ⟨u', w', rest, d', first, walk, rfl, rfl⟩
    · exact .inr ⟨v, w, [v], 0, edge, .start, rfl, add_comm _ _⟩
    · exact .inr ⟨u', w', rest ++ [v], d' + w, first, .step walk edge, rfl, add_assoc _ _ _⟩

/-- A walk begins at the start. -/
theorem Walk.head? (h : Walk next start nodes v d) : nodes.head? = some start := by
  rcases h.uncons with ⟨rfl, _⟩ | ⟨_, _, _, _, _, _, rfl, _⟩ <;> rfl

/-- A walk after one more edge. -/
theorem Walk.cons (edge : (u, w) ∈ next start) (h : Walk next u nodes v d) :
    Walk next start (start :: nodes) v (w + d) := by
  induction h with
  | start =>
    rw [add_comm]
    exact .step .start edge
  | step _ edge' ih =>
    rw [← add_assoc]
    exact .step ih edge'

/-- A way in a part of the edges. -/
theorem Walk.mono {next' : V → List (V × K)} (h : Walk next start nodes v d)
    (part : ∀ u ∈ nodes, ∀ e ∈ next u, e.1 ∈ nodes → e ∈ next' u) : Walk next' start nodes v d := by
  induction h with
  | start => exact .start
  | @step nodes u v d w before edge ih =>
    obtain ⟨init, rfl⟩ := before.exists_concat
    refine .step (ih fun u' mem e edge' mem' => ?_) (part u ?_ _ edge ?_)
    · exact part u' (List.mem_append_left _ mem) e edge' (List.mem_append_left _ mem')
    · exact List.mem_append_left _ (List.mem_append_right _ List.mem_cons_self)
    · exact List.mem_append_right _ List.mem_cons_self

/-- The length of the way over given nodes, where there is one. -/
def along [DecidableEq V] (next : V → List (V × K)) : List V → Option K
  | [] => none
  | [_] => some 0
  | u :: v :: rest =>
    ((next u).find? fun e => e.1 = v).bind fun e => (along next (v :: rest)).map (e.2 + ·)

/-- A path along which a distance was found is a walk. -/
theorem walk_of_along [DecidableEq V] {rest : List V} (found : along next (start :: rest) = some d)
    (last : (start :: rest).getLast? = some v) : Walk next start (start :: rest) v d := by
  induction rest generalizing start d with
  | nil =>
    cases found
    cases last
    exact .start
  | cons u rest ih =>
    obtain ⟨e, first, found⟩ := Option.bind_eq_some_iff.mp found
    obtain ⟨d', found', rfl⟩ := Option.map_eq_some_iff.mp found
    have same : e.1 = u := by simpa using List.find?_some first
    rw [List.getLast?_cons_cons] at last
    exact .cons (same ▸ List.mem_of_find?_eq_some first) (ih found' last)

/-- The nodes of a way are the start and ends of edges. -/
theorem Walk.mem_targets {sources : Finset V} (outside : ∀ u ∉ sources, next u = []) (h : Walk next start nodes v d) :
    ∀ x ∈ nodes, x ∈ start :: sources.toList.flatMap fun u => (next u).map Prod.fst := by
  induction h with
  | start => exact fun x mem => List.mem_singleton.mp mem ▸ List.mem_cons_self
  | @step nodes u v d w _ edge ih =>
    intro x mem
    rcases List.mem_append.mp mem with before | last
    · exact ih x before
    · rw [List.mem_singleton.mp last]
      refine List.mem_cons_of_mem _ (List.mem_flatMap.mpr ⟨u, ?_, List.mem_map.mpr ⟨_, edge, rfl⟩⟩)
      by_contra absent
      rw [outside u fun mem => absent (Finset.mem_toList.mpr mem)] at edge
      exact List.not_mem_nil edge

end

/-! ## The invariant -/

section

variable [AddCommMonoid K] [LinearOrder K] (next : V → List (V × K)) (start : V)

/-- What holds between two relaxations: the settled nodes are not farther than `floor`, and what waits in the queue
is not nearer. -/
structure Inv (settled : List V) (floor : K) (s : Search V K) : Prop where
  first : s.dist start = some 0
  traced : ∀ v d, s.dist v = some d →
    ∃ nodes, Trace next s.prev start nodes v d ∧ nodes.Nodup ∧ ∀ x ∈ nodes, x = v ∨ x ∈ settled
  waiting : ∀ v d, s.dist v = some d → v ∉ settled → toLex (d, v) ∈ s.queue
  entries : ∀ d v, toLex (d, v) ∈ s.queue → ∃ known, s.dist v = some known ∧ known ≤ d ∧ (v ∈ settled → known < d)
  below : ∀ u ∈ settled, ∃ known, s.dist u = some known ∧ known ≤ floor
  above : ∀ e ∈ s.queue, floor ≤ (ofLex e).1
  fresh : s.queue.Nodup

/-- The edges of the settled nodes are relaxed. -/
def Closed (settled : List V) (s : Search V K) : Prop :=
  ∀ u ∈ settled, ∀ e ∈ next u, ∃ du dv, s.dist u = some du ∧ s.dist e.1 = some dv ∧ dv ≤ du + e.2

/-- The distances of the settled nodes stay as they are, and no other one grows. -/
structure Narrows (settled : List V) (s s' : Search V K) : Prop where
  same : ∀ u ∈ settled, s'.dist u = s.dist u
  less : ∀ v d, s.dist v = some d → ∃ d', s'.dist v = some d' ∧ d' ≤ d

variable {next start} {settled : List V} {s s' s'' : Search V K} {floor : K}

omit [AddCommMonoid K] in
/-- A search narrows itself. -/
theorem Narrows.rfl : Narrows settled s s := ⟨fun _ _ => Eq.refl _, fun _ d known => ⟨d, known, le_refl d⟩⟩

omit [AddCommMonoid K] in
/-- Narrowing goes on. -/
theorem Narrows.trans (h : Narrows settled s s') (h' : Narrows settled s' s'') : Narrows settled s s'' where
  same u mem := (h'.same u mem).trans (h.same u mem)
  less v d known := by
    obtain ⟨d', known', le⟩ := h.less v d known
    obtain ⟨d'', known'', le'⟩ := h'.less v d' known'
    exact ⟨d'', known'', le'.trans le⟩

variable {u v x : V} {d w : K}

namespace Inv

variable [IsOrderedAddMonoid K]

/-- A node that is nearer than was known is not settled. -/
theorem open_of_nearer (inv : Inv next start settled floor s) (positive : 0 ≤ w)
    (nearer : ∀ known, s.dist v = some known → floor + w < known) : v ∉ settled := by
  intro mem
  obtain ⟨known, at_v, le⟩ := inv.below v mem
  exact absurd (nearer known at_v) (not_lt.mpr (le.trans (le_add_of_nonneg_right positive)))

variable [LinearOrder V]

omit [IsOrderedAddMonoid K] in
/-- The predecessors still lead back: those of the settled nodes are what they were. -/
theorem traced_improve (inv : Inv next start settled floor s) (mem : u ∈ settled) (at_u : s.dist u = some floor)
    (edge : (v, w) ∈ next u) (fresh : v ≠ start) (off : ∀ y ∈ settled, y ≠ v)
    (at_x : (s.improve u v (floor + w)).dist x = some d) :
    ∃ nodes, Trace next (s.improve u v (floor + w)).prev start nodes x d ∧ nodes.Nodup ∧
      ∀ y ∈ nodes, y = x ∨ y ∈ settled := by
  have kept : ∀ {z} {nodes : List V}, z ≠ v → (∀ y ∈ nodes, y = z ∨ y ∈ settled) → ∀ y ∈ nodes, y ≠ v := by
    intro z nodes other within y mem'
    rcases within y mem' with rfl | settled_
    · exact other
    · exact off y settled_
  rcases Search.improve_cases at_x with ⟨rfl, rfl⟩ | ⟨other, at_x'⟩
  · obtain ⟨nodes, trace, distinct, within⟩ := inv.traced u floor at_u
    have apart := kept (off u mem) within
    refine ⟨nodes ++ [x], .step (trace.congr fun y mem' => Search.improve_prev_of_ne (apart y mem')) edge
      Search.improve_prev_self fresh, ?_, fun y mem' => ?_⟩
    · exact List.nodup_append.mpr ⟨distinct, List.nodup_singleton x, fun y mem' z mem'' =>
        List.mem_singleton.mp mem'' ▸ apart y mem'⟩
    · rcases List.mem_append.mp mem' with before | last
      · rcases within y before with rfl | settled_
        · exact .inr mem
        · exact .inr settled_
      · exact .inl (List.mem_singleton.mp last)
  · obtain ⟨nodes, trace, distinct, within⟩ := inv.traced x d at_x'
    exact ⟨nodes, trace.congr fun y mem' => Search.improve_prev_of_ne (kept other within y mem'), distinct, within⟩

/-- The node that was settled last leads to another one by a shorter way. -/
theorem improve (inv : Inv next start settled floor s) (positive : ∀ u, ∀ e ∈ next u, (0 : K) ≤ e.2)
    (mem : u ∈ settled) (at_u : s.dist u = some floor) (edge : (v, w) ∈ next u)
    (nearer : ∀ known, s.dist v = some known → floor + w < known) :
    Inv next start settled floor (s.improve u v (floor + w)) := by
  have positive' : 0 ≤ w := positive u _ edge
  have open_ : v ∉ settled := inv.open_of_nearer positive' nearer
  have off : ∀ y ∈ settled, y ≠ v := fun y mem' same => open_ (same ▸ mem')
  have fresh : v ≠ start := by
    rintro rfl
    obtain ⟨nodes, trace, _⟩ := inv.traced u floor at_u
    exact absurd (nearer 0 inv.first) (not_lt.mpr (add_nonneg (trace.walk.nonneg positive) positive'))
  have new_entry : toLex (floor + w, v) ∉ s.queue := by
    intro mem'
    obtain ⟨known, at_v, le, _⟩ := inv.entries _ _ mem'
    exact absurd (nearer known at_v) (not_lt.mpr le)
  constructor
  case first => exact (Search.improve_dist_of_ne fresh.symm).trans inv.first
  case traced => exact fun x d at_x => inv.traced_improve mem at_u edge fresh off at_x
  case waiting =>
    intro x d at_x open_'
    rcases Search.improve_cases at_x with ⟨rfl, rfl⟩ | ⟨_, at_x'⟩
    · exact List.mem_cons_self
    · exact List.mem_cons_of_mem _ (inv.waiting x d at_x' open_')
  case entries =>
    intro d x mem'
    rcases List.mem_cons.mp mem' with pushed | old
    · cases toLex.injective pushed
      exact ⟨_, Search.improve_dist_self, le_rfl, fun settled_ => absurd settled_ open_⟩
    · obtain ⟨known, at_x, le, stale⟩ := inv.entries d x old
      by_cases same : x = v
      · rw [same] at at_x ⊢
        exact ⟨_, Search.improve_dist_self, (nearer known at_x).le.trans le, fun settled_ => absurd settled_ open_⟩
      · exact ⟨known, (Search.improve_dist_of_ne same).trans at_x, le, stale⟩
  case below =>
    intro x settled_
    obtain ⟨known, at_x, le⟩ := inv.below x settled_
    exact ⟨known, (Search.improve_dist_of_ne (off x settled_)).trans at_x, le⟩
  case above =>
    intro entry mem'
    rcases List.mem_cons.mp mem' with rfl | old
    · exact le_add_of_nonneg_right positive'
    · exact inv.above entry old
  case fresh => exact List.nodup_cons.mpr ⟨new_entry, inv.fresh⟩

/-- One edge of the node that was settled last is relaxed. -/
theorem relax (inv : Inv next start settled floor s) (positive : ∀ u, ∀ e ∈ next u, (0 : K) ≤ e.2) (mem : u ∈ settled)
    (at_u : s.dist u = some floor) {e : V × K} (edge : e ∈ next u) :
    Inv next start settled floor (s.relax u floor e) ∧ Narrows settled s (s.relax u floor e) ∧
      ∃ d, (s.relax u floor e).dist e.1 = some d ∧ d ≤ floor + e.2 := by
  unfold Search.relax
  split
  · next improves =>
    have nearer : ∀ known, s.dist e.1 = some known → floor + e.2 < known := by
      intro known at_v
      rw [at_v] at improves
      exact of_decide_eq_true improves
    have open_ := inv.open_of_nearer (positive u e edge) nearer
    refine ⟨inv.improve positive mem at_u edge nearer, ⟨fun x settled_ => ?_, fun x d at_x => ?_⟩,
      ⟨_, Search.improve_dist_self, le_rfl⟩⟩
    · exact Search.improve_dist_of_ne fun same => open_ (same ▸ settled_)
    · by_cases same : x = e.1
      · rw [same] at at_x ⊢
        exact ⟨_, Search.improve_dist_self, (nearer d at_x).le⟩
      · exact ⟨d, (Search.improve_dist_of_ne same).trans at_x, le_rfl⟩
  · next known =>
    refine ⟨inv, .rfl, ?_⟩
    cases at_v : s.dist e.1 with
    | none =>
      rw [at_v] at known
      exact absurd (Eq.refl true) known
    | some d =>
      rw [at_v] at known
      exact ⟨d, Eq.refl _, not_lt.mp fun less => known (decide_eq_true less)⟩

/-- The edges of the node that was settled last are relaxed. -/
theorem scan (inv : Inv next start settled floor s) (positive : ∀ u, ∀ e ∈ next u, (0 : K) ≤ e.2) (mem : u ∈ settled)
    (at_u : s.dist u = some floor) (list : List (V × K)) (edges : ∀ e ∈ list, e ∈ next u) :
    Inv next start settled floor (list.foldl (Search.relax u floor) s) ∧
      Narrows settled s (list.foldl (Search.relax u floor) s) ∧
        ∀ e ∈ list, ∃ d, (list.foldl (Search.relax u floor) s).dist e.1 = some d ∧ d ≤ floor + e.2 := by
  induction list generalizing s with
  | nil => exact ⟨inv, .rfl, fun e mem' => absurd mem' List.not_mem_nil⟩
  | cons e list ih =>
    obtain ⟨inv', narrows, d, at_v, le⟩ := inv.relax positive mem at_u (edges e List.mem_cons_self)
    obtain ⟨inv'', narrows', each⟩ := ih inv' ((narrows.same u mem).trans at_u)
      fun e' mem' => edges e' (List.mem_cons_of_mem _ mem')
    refine ⟨inv'', narrows.trans narrows', fun e' mem' => ?_⟩
    rcases List.mem_cons.mp mem' with rfl | later
    · obtain ⟨d', at_v', le'⟩ := narrows'.less _ _ at_v
      exact ⟨d', at_v', le'.trans le⟩
    · exact each e' later

omit [IsOrderedAddMonoid K] in
/-- A stale entry is dropped. -/
theorem skip (inv : Inv next start settled floor s) {known : K} (at_u : s.dist u = some known) (stale : known < d) :
    Inv next start settled floor { s with queue := s.queue.erase (toLex (d, u)) } where
  first := inv.first
  traced := inv.traced
  waiting v dv at_v open_ := by
    refine (List.mem_erase_of_ne fun same => ?_).mpr (inv.waiting v dv at_v open_)
    cases toLex.injective same
    rw [at_u] at at_v
    exact absurd (Option.some.inj at_v) stale.ne
  entries d' v mem := inv.entries d' v (List.mem_of_mem_erase mem)
  below := inv.below
  above e mem := inv.above e (List.mem_of_mem_erase mem)
  fresh := inv.fresh.erase _

omit [IsOrderedAddMonoid K] in
/-- The least entry of the queue that is not stale is of a node that is not settled, and settles it. -/
theorem settle (inv : Inv next start settled floor s) (mem : toLex (d, u) ∈ s.queue)
    (least : ∀ e ∈ s.queue, toLex (d, u) ≤ e) (current : ∀ known, s.dist u = some known → ¬ known < d) :
    u ∉ settled ∧ s.dist u = some d ∧
      Inv next start (u :: settled) d { s with queue := s.queue.erase (toLex (d, u)) } := by
  obtain ⟨known, at_u, le, stale⟩ := inv.entries d u mem
  have open_ : u ∉ settled := fun settled_ => current known at_u (stale settled_)
  have same : known = d := le_antisymm le (not_lt.mp (current known at_u))
  rw [same] at at_u
  have nearest : ∀ e ∈ s.queue, d ≤ (ofLex e).1 := fun e mem' => Prod.Lex.monotone_fst _ _ (least e mem')
  refine ⟨open_, at_u, inv.first, fun v dv at_v => ?_, fun v dv at_v open_' => ?_, fun d' v mem' => ?_,
    fun v settled_ => ?_, fun e mem' => nearest e (List.mem_of_mem_erase mem'), inv.fresh.erase _⟩
  · obtain ⟨nodes, trace, distinct, within⟩ := inv.traced v dv at_v
    exact ⟨nodes, trace, distinct, fun y mem' => (within y mem').imp_right (List.mem_cons_of_mem u)⟩
  · refine (List.mem_erase_of_ne fun same' => ?_).mpr
      (inv.waiting v dv at_v fun settled_ => open_' (List.mem_cons_of_mem u settled_))
    cases toLex.injective same'
    exact open_' List.mem_cons_self
  · obtain ⟨known', at_v, le', stale'⟩ := inv.entries d' v (List.mem_of_mem_erase mem')
    refine ⟨known', at_v, le', fun settled_ => ?_⟩
    rcases List.mem_cons.mp settled_ with rfl | before
    · rw [at_u] at at_v
      rw [← Option.some.inj at_v]
      refine lt_of_le_of_ne (nearest _ (List.mem_of_mem_erase mem')) fun equal => ?_
      rw [← equal, inv.fresh.mem_erase_iff] at mem'
      exact mem'.1 (Eq.refl _)
    · exact stale' before
  · rcases List.mem_cons.mp settled_ with rfl | before
    · exact ⟨d, at_u, le_rfl⟩
    · obtain ⟨known', at_v, le'⟩ := inv.below v before
      exact ⟨known', at_v, le'.trans (inv.above _ mem)⟩

omit [LinearOrder V] in
/-- A way ends at a settled node that is not farther than the way is long, or something waits that is not farther. -/
theorem frontier (inv : Inv next start settled floor s) (positive : ∀ u, ∀ e ∈ next u, (0 : K) ≤ e.2)
    (closed : Closed next settled s) {nodes : List V} (walk : Walk next start nodes v d) :
    (v ∈ settled ∧ ∃ known, s.dist v = some known ∧ known ≤ d) ∨ ∃ e ∈ s.queue, (ofLex e).1 ≤ d := by
  induction walk with
  | start =>
    by_cases settled_ : start ∈ settled
    · exact .inl ⟨settled_, 0, inv.first, le_rfl⟩
    · exact .inr ⟨_, inv.waiting start 0 inv.first settled_, le_rfl⟩
  | @step nodes u v d w _ edge ih =>
    rcases ih with ⟨settled_, known, at_u, le⟩ | ⟨e, mem, le⟩
    · obtain ⟨du, dv, at_u', at_v, le'⟩ := closed u settled_ _ edge
      rw [at_u] at at_u'
      cases at_u'
      have near : dv ≤ d + w := le'.trans (add_le_add_left le w)
      by_cases settled' : v ∈ settled
      · exact .inl ⟨settled', dv, at_v, near⟩
      · exact .inr ⟨_, inv.waiting v dv at_v settled', near⟩
    · exact .inr ⟨e, mem, le.trans (le_add_of_nonneg_right (positive u _ edge))⟩

end Inv

end

/-! ## The search ends, and finds a shortest path -/

section

variable [LinearOrder V] [AddCommMonoid K] [LinearOrder K] (g : Graph V K)

/-- How many edges the nodes have that are not settled. -/
def unscanned (settled : List V) : Nat := ∑ u ∈ g.nodes with u ∉ settled, (g.next u).length

/-- How many entries can still be taken from the queue. -/
def load (settled : List V) (s : Search V K) : Nat := s.queue.length + unscanned g settled

/-- What the search comes back with: every known distance is that of a way, and the goal's is the least. -/
structure Found (start goal : V) (s : Search V K) : Prop where
  traced : ∀ v d, s.dist v = some d → ∃ nodes, Trace g.next s.prev start nodes v d ∧ nodes.Nodup
  least : ∀ nodes d, Walk g.next start nodes goal d → ∃ known, s.dist goal = some known ∧ known ≤ d

variable {g} {start goal u : V} {settled : List V} {s : Search V K} {floor d : K}

/-- A node that is settled takes its edges from those still to be scanned. -/
theorem unscanned_settle (open_ : u ∉ settled) :
    unscanned g (u :: settled) + (g.next u).length = unscanned g settled := by
  have rest : (g.nodes.filter fun v => v ∉ u :: settled) = (g.nodes.filter fun v => v ∉ settled).erase u := by
    ext v
    rw [Finset.mem_filter, Finset.mem_erase, Finset.mem_filter, List.mem_cons, not_or]
    exact and_left_comm
  unfold unscanned
  rw [rest]
  by_cases inside : u ∈ g.nodes
  · exact Finset.sum_erase_add _ _ (Finset.mem_filter.mpr ⟨inside, open_⟩)
  · rw [g.outside u inside, Finset.erase_eq_of_notMem fun mem => inside (Finset.mem_filter.mp mem).1]
    rfl

/-- An edge adds one entry to the queue at most. -/
theorem queue_relax (e : V × K) : (s.relax u d e).queue.length ≤ s.queue.length + 1 := by
  unfold Search.relax
  split
  · exact le_rfl
  · exact Nat.le_succ _

/-- And a scan one for each edge. -/
theorem queue_scan (list : List (V × K)) :
    (list.foldl (Search.relax u d) s).queue.length ≤ s.queue.length + list.length := by
  induction list generalizing s with
  | nil => exact le_rfl
  | cons e list ih =>
    have one := @queue_relax _ _ _ _ _ u s d e
    have rest := @ih (s.relax u d e)
    rw [List.foldl_cons, List.length_cons]
    omega

variable [IsOrderedAddMonoid K]

/-- From a state of the search: the rounds that are left are enough. The induction is on these, and the invariant
goes along. -/
theorem run_spec {fuel : Nat} (inv : Inv g.next start settled floor s) (closed : Closed g.next settled s)
    (enough : load g settled s < fuel) : ∃ s', Search.run g.next goal fuel s = some s' ∧ Found g start goal s' := by
  induction fuel generalizing settled floor s with
  | zero => exact absurd enough (Nat.not_lt_zero _)
  | succ fuel ih =>
    have traced : ∀ v d, s.dist v = some d → ∃ nodes, Trace g.next s.prev start nodes v d ∧ nodes.Nodup := by
      intro v d at_v
      obtain ⟨nodes, trace, distinct, _⟩ := inv.traced v d at_v
      exact ⟨nodes, trace, distinct⟩
    unfold Search.run
    cases top_ : s.queue.min? with
    | none =>
      refine ⟨s, rfl, traced, fun nodes d walk => ?_⟩
      rcases inv.frontier g.nonneg closed walk with ⟨_, known⟩ | ⟨e, mem, _⟩
      · exact known
      · rw [List.min?_eq_none_iff.mp top_] at mem
        exact absurd mem List.not_mem_nil
    | some top =>
      obtain ⟨⟨d, u⟩, rfl⟩ : ∃ pair, toLex pair = top := ⟨ofLex top, rfl⟩
      obtain ⟨mem, least⟩ := List.min?_eq_some_iff.mp top_
      have shorter : (s.queue.erase (toLex (d, u))).length + 1 = s.queue.length := List.length_erase_add_one mem
      show ∃ s', (if (s.dist u).any (fun known => known < d) then _ else _) = some s' ∧ _
      by_cases stale : (s.dist u).any (fun known => known < d) = true
      · obtain ⟨known, at_u, less⟩ := (Option.any_eq_true _ _).mp stale
        rw [if_pos stale]
        refine ih (inv.skip at_u (of_decide_eq_true less)) closed ?_
        unfold load at enough ⊢
        show (s.queue.erase _).length + _ < _
        omega
      · have current : ∀ known, s.dist u = some known → ¬ known < d := fun known at_u less =>
          stale ((Option.any_eq_true _ _).mpr ⟨known, at_u, decide_eq_true less⟩)
        obtain ⟨open_, at_u, settled_⟩ := inv.settle mem least current
        rw [if_neg stale]
        show ∃ s', (if u = goal then _ else _) = some s' ∧ _
        by_cases reached : u = goal
        · rw [if_pos reached]
          refine ⟨_, rfl, traced, fun nodes d' walk => ⟨d, reached ▸ at_u, ?_⟩⟩
          rcases inv.frontier g.nonneg closed walk with ⟨inside, _⟩ | ⟨e, mem', le⟩
          · exact absurd inside (reached ▸ open_)
          · exact (Prod.Lex.monotone_fst _ _ (least e mem')).trans le
        · rw [if_neg reached]
          obtain ⟨inv', narrows, each⟩ := settled_.scan g.nonneg List.mem_cons_self at_u (g.next u) fun _ edge => edge
          refine ih inv' (fun v inside e edge => ?_) ?_
          · rcases List.mem_cons.mp inside with rfl | before
            · obtain ⟨d', at_v, le⟩ := each e edge
              exact ⟨d, d', (narrows.same v List.mem_cons_self).trans at_u, at_v, le⟩
            · obtain ⟨du, dv, at_v, at_e, le⟩ := closed v before e edge
              obtain ⟨dv', at_e', le'⟩ := narrows.less _ _ at_e
              exact ⟨du, dv', (narrows.same v inside).trans at_v, at_e', le'.trans le⟩
          · have pushed := @queue_scan _ _ _ _ _ u { s with queue := s.queue.erase (toLex (d, u)) } d (g.next u)
            have scanned := unscanned_settle open_ (g := g)
            unfold load at enough ⊢
            show (List.foldl (Search.relax u d) _ (g.next u)).queue.length + _ < _
            change _ ≤ (s.queue.erase (toLex (d, u))).length + _ at pushed
            omega

omit [LinearOrder K] [IsOrderedAddMonoid K] in
/-- At first only the start has a distance. -/
theorem initial_dist {v : V} : (Search.initial start : Search V K).dist v = if v = start then some 0 else none :=
  Function.update_apply (fun _ => none) start (some 0) v

omit [IsOrderedAddMonoid K] in
/-- The invariant holds at the start. -/
theorem inv_initial : Inv g.next start [] (0 : K) (.initial start) where
  first := initial_dist.trans (if_pos rfl)
  traced v d known := by
    obtain ⟨rfl, zero⟩ := Option.ite_none_right_eq_some.mp (initial_dist.symm.trans known)
    cases zero
    exact ⟨_, .start, List.nodup_singleton v, fun x mem => .inl (List.mem_singleton.mp mem)⟩
  waiting v d known _ := by
    obtain ⟨rfl, zero⟩ := Option.ite_none_right_eq_some.mp (initial_dist.symm.trans known)
    cases zero
    exact List.mem_cons_self
  entries d v mem := by
    cases toLex.injective (List.mem_singleton.mp mem)
    exact ⟨0, initial_dist.trans (if_pos rfl), le_rfl, fun mem' => absurd mem' List.not_mem_nil⟩
  below _ mem := absurd mem List.not_mem_nil
  above e mem := by
    rw [List.mem_singleton.mp mem]
    exact le_rfl
  fresh := List.nodup_singleton _

/-- How many edges a graph has. -/
def Graph.size (g : Graph V K) : Nat := ∑ u ∈ g.nodes, (g.next u).length

omit [LinearOrder V] [IsOrderedAddMonoid K] in
/-- A walk without a repetition is no longer than the graph. -/
theorem Walk.length_le {nodes : List V} (walk : Walk g.next start nodes goal d) (distinct : nodes.Nodup) :
    nodes.length ≤ g.size + 1 := by
  have within := (List.subperm_of_subset distinct (walk.mem_targets g.outside)).length_le
  rw [List.length_cons, List.length_flatMap] at within
  refine within.trans (Nat.succ_le_succ (le_of_eq ?_))
  simp only [List.length_map]
  exact Finset.sum_map_toList _ _

/-- The edges and two are rounds enough, and then what is found is a shortest path, or that there is none. The nodes
of the path are different. -/
theorem search_spec (g : Graph V K) (start goal : V) {fuel : Nat} (enough : g.size + 2 ≤ fuel) :
    ∃ found, search g.next start goal fuel = some found ∧ Shortest g.next start goal found ∧
      ∀ path, found = some path → path.Nodup := by
  have load_ : load g [] (.initial start) < fuel := by
    have all : unscanned g [] = g.size := by
      unfold unscanned Graph.size
      rw [Finset.filter_true_of_mem fun u _ => List.not_mem_nil]
    unfold load
    rw [all]
    show 1 + _ < _
    omega
  obtain ⟨s, ran, found⟩ : ∃ s, Search.run g.next goal fuel (.initial start) = some s ∧ Found g start goal s :=
    run_spec (@inv_initial _ _ _ _ _ g start) (fun u mem => absurd mem List.not_mem_nil) load_
  unfold search
  rw [ran, Option.bind_some]
  cases at_goal : s.dist goal with
  | none =>
    refine ⟨none, rfl, fun nodes d walk => ?_, fun path same => nomatch same⟩
    obtain ⟨known, at_goal', _⟩ := found.least nodes d walk
    rw [at_goal] at at_goal'
    cases at_goal'
  | some d =>
    obtain ⟨nodes, trace, distinct⟩ := found.traced goal d at_goal
    have short := trace.walk.length_le distinct
    refine ⟨some nodes, ?_, ⟨d, trace.walk, fun nodes' d' walk => ?_⟩, fun path same => Option.some.inj same ▸ distinct⟩
    · rw [trace.back_eq (by omega)]
      show some (some nodes.reverse.reverse) = _
      rw [List.reverse_reverse]
    · obtain ⟨known, at_goal', le⟩ := found.least nodes' d' walk
      rw [at_goal] at at_goal'
      cases at_goal'
      exact le

end

end Dijkstra
