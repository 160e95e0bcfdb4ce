import Mathlib.Data.Finset.Card
import Mathlib.Data.Finset.Max
import Mathlib.Data.Finset.Sort
import Mathlib.Data.List.Sort

/-!
# The newest of a set

What a bounded archive keeps: of the elements of a linear order, those with fewer than `k` greater ones. A subset in
which an element is missing exactly if `k` greater ones remain is that set (`eq_newest_iff`); one that was cut down
before and grows by an element is cut down to the newest of everything there ever was (`newest_insert_newest`); and
in a sorted list the newest are what is left without the first ones (`mem_take_sorted`).
-/

namespace Newest

universe u

variable {α : Type u} [LinearOrder α] {k : Nat} {s t : Finset α} {a x y : α}

/-- The greater elements. -/
def greater (s : Finset α) (x : α) : Finset α := {y ∈ s | x < y}

/-- The elements with fewer than `k` greater ones. -/
def newest (k : Nat) (s : Finset α) : Finset α := {x ∈ s | (greater s x).card < k}

theorem mem_greater : y ∈ greater s x ↔ y ∈ s ∧ x < y := Finset.mem_filter

theorem mem_newest : x ∈ newest k s ↔ x ∈ s ∧ (greater s x).card < k := Finset.mem_filter

theorem newest_subset : newest k s ⊆ s := Finset.filter_subset _ _

theorem greater_mono (sub : t ⊆ s) : greater t x ⊆ greater s x := Finset.filter_subset_filter _ sub

theorem greater_antitone (le : x ≤ y) : greater s y ⊆ greater s x := by
  intro z mem
  rw [mem_greater] at mem ⊢
  exact ⟨mem.1, le.trans_lt mem.2⟩

/-- If `k` elements are greater, then `k` of the newest are. -/
theorem le_card_greater_newest (many : k ≤ (greater s x).card) : k ≤ (greater (newest k s) x).card := by
  by_cases all : greater s x ⊆ newest k s
  · refine many.trans (Finset.card_le_card fun y mem => ?_)
    exact mem_greater.mpr ⟨all mem, (mem_greater.mp mem).2⟩
  · -- what is greater than the greatest one that is missing is kept
    have missing : (greater s x \ newest k s).Nonempty := Finset.sdiff_nonempty.mpr all
    obtain ⟨mem, absent⟩ := Finset.mem_sdiff.mp (Finset.max'_mem _ missing)
    obtain ⟨inside, above⟩ := mem_greater.mp mem
    have many' : k ≤ (greater s (Finset.max' _ missing)).card :=
      not_lt.mp fun few => absent (mem_newest.mpr ⟨inside, few⟩)
    refine many'.trans (Finset.card_le_card fun z mem' => ?_)
    obtain ⟨inside', above'⟩ := mem_greater.mp mem'
    have later : z ∈ greater s x := mem_greater.mpr ⟨inside', above.trans above'⟩
    refine mem_greater.mpr ⟨?_, above.trans above'⟩
    by_contra absent'
    exact absurd (Finset.le_max' _ z (Finset.mem_sdiff.mpr ⟨later, absent'⟩)) (not_le.mpr above')

/-- What is missing exactly where `k` greater elements remain is what is not among the newest. -/
theorem eq_newest_iff (sub : t ⊆ s) : t = newest k s ↔ ∀ x ∈ s, x ∉ t ↔ k ≤ (greater t x).card := by
  constructor
  · rintro rfl x inside
    constructor
    · intro absent
      exact le_card_greater_newest (not_lt.mp fun few => absent (mem_newest.mpr ⟨inside, few⟩))
    · intro many mem
      have few := (mem_newest.mp mem).2
      exact absurd (many.trans (Finset.card_le_card (greater_mono newest_subset))) (not_le.mpr few)
  · intro cut
    ext x
    constructor
    · intro mem
      refine mem_newest.mpr ⟨sub mem, ?_⟩
      by_contra few
      -- were all `k` greater elements there, this one would be missing; and one that is missing has `k` above it
      have small : ¬ k ≤ (greater t x).card := fun many => (cut x (sub mem)).mpr many mem
      have gap : ¬ greater s x ⊆ t := fun all => small ((not_lt.mp few).trans (Finset.card_le_card fun y mem' =>
        mem_greater.mpr ⟨all mem', (mem_greater.mp mem').2⟩))
      obtain ⟨y, mem', absent⟩ := Finset.not_subset.mp gap
      obtain ⟨inside, above⟩ := mem_greater.mp mem'
      exact small (((cut y inside).mp absent).trans (Finset.card_le_card (greater_antitone above.le)))
    · intro mem
      obtain ⟨inside, few⟩ := mem_newest.mp mem
      by_contra absent
      have many := (cut x inside).mp absent
      exact absurd (many.trans (Finset.card_le_card (greater_mono sub))) (not_le.mpr few)

/-- A part that has the newest has the same newest. -/
theorem newest_eq_of_subset (kept : newest k s ⊆ t) (sub : t ⊆ s) : newest k t = newest k s := by
  ext x
  constructor
  · intro mem
    obtain ⟨inside, few⟩ := mem_newest.mp mem
    refine mem_newest.mpr ⟨sub inside, ?_⟩
    by_contra many
    have enough := le_card_greater_newest (not_lt.mp many)
    exact absurd (enough.trans (Finset.card_le_card (greater_mono kept))) (not_le.mpr few)
  · intro mem
    obtain ⟨_, few⟩ := mem_newest.mp mem
    exact mem_newest.mpr ⟨kept mem, (Finset.card_le_card (greater_mono sub)).trans_lt few⟩

@[simp] theorem newest_newest : newest k (newest k s) = newest k s := newest_eq_of_subset subset_rfl newest_subset

/-- An archive that was cut down to its newest elements loses nothing for later. -/
theorem newest_insert_newest : newest k (insert a (newest k s)) = newest k (insert a s) := by
  refine newest_eq_of_subset ?_ (Finset.insert_subset_insert a newest_subset)
  intro x mem
  obtain ⟨inside, few⟩ := mem_newest.mp mem
  rcases Finset.mem_insert.mp inside with rfl | old
  · exact Finset.mem_insert_self x _
  · refine Finset.mem_insert_of_mem (mem_newest.mpr ⟨old, ?_⟩)
    exact (Finset.card_le_card (greater_mono (Finset.subset_insert a s))).trans_lt few

/-! ## In a sorted list -/

/-- In a list without repetitions, of which each element is less than the later ones, the first elements are those
with many greater ones. -/
theorem mem_take_sorted {list : List α} (sorted : list.Pairwise (· < ·)) (inside : x ∈ list) :
    x ∈ list.take (list.length - k) ↔ k ≤ (greater list.toFinset x).card := by
  obtain ⟨before, after, rfl⟩ := List.append_of_mem inside
  obtain ⟨_, sorted', below⟩ := List.pairwise_append.mp sorted
  rw [List.pairwise_cons] at sorted'
  have distinct : after.Nodup := sorted'.2.imp fun less => less.ne
  have later : greater (before ++ x :: after).toFinset x = after.toFinset := by
    ext y
    rw [mem_greater, List.mem_toFinset, List.mem_toFinset, List.mem_append, List.mem_cons]
    constructor
    · rintro ⟨first | rfl | last, less⟩
      · exact absurd (below y first x List.mem_cons_self) (not_lt.mpr less.le)
      · exact absurd less (lt_irrefl _)
      · exact last
    · exact fun last => ⟨.inr (.inr last), sorted'.1 y last⟩
  rw [later, List.toFinset_card_of_nodup distinct]
  have early : x ∉ before := fun first => lt_irrefl x (below x first x List.mem_cons_self)
  rw [List.length_append, List.length_cons]
  constructor
  · intro mem
    by_contra few
    rw [List.take_append_of_le_length (by omega)] at mem
    exact early (List.mem_of_mem_take mem)
  · intro many
    rw [List.take_append, List.mem_append]
    right
    obtain ⟨rest, more⟩ := Nat.exists_eq_add_of_le (show before.length + 1 ≤ before.length + (after.length + 1) - k by omega)
    rw [more, Nat.add_assoc, Nat.add_sub_cancel_left, Nat.add_comm, List.take_succ_cons]
    exact List.mem_cons_self

/-- As many as there is room for. -/
theorem card_newest : (newest k s).card = min k s.card := by
  have sorted := s.sortedLT_sort.pairwise
  have old : s \ newest k s = ((s.sort (· ≤ ·)).take (s.card - k)).toFinset := by
    ext x
    rw [Finset.mem_sdiff, List.mem_toFinset]
    constructor
    · rintro ⟨inside, absent⟩
      have listed : x ∈ s.sort (· ≤ ·) := (Finset.mem_sort _).mpr inside
      have place := mem_take_sorted sorted listed (k := k)
      rw [Finset.length_sort, Finset.sort_toFinset] at place
      exact place.mpr (not_lt.mp fun few => absent (mem_newest.mpr ⟨inside, few⟩))
    · intro first
      have listed := List.mem_of_mem_take first
      have place := mem_take_sorted sorted listed (k := k)
      rw [Finset.length_sort, Finset.sort_toFinset] at place
      exact ⟨(Finset.mem_sort _).mp listed, fun mem => absurd (place.mp first) (not_le.mpr (mem_newest.mp mem).2)⟩
  have distinct : ((s.sort (· ≤ ·)).take (s.card - k)).Nodup := (s.sort_nodup _).sublist (List.take_sublist _ _)
  have count := Finset.card_sdiff_add_card_eq_card (newest_subset (k := k) (s := s))
  rw [old, List.toFinset_card_of_nodup distinct, List.length_take, Finset.length_sort] at count
  omega

end Newest
