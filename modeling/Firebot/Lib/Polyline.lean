import Mathlib.Algebra.Order.Group.Abs
import Mathlib.Data.List.Chain

/-!
# Polylines with legs parallel to the axes

The length of such a leg is the sum of what the coordinates change by. A polyline is not shorter than the direct way
between its ends (`leg_le_length`), and not shorter than what a potential falls by on it, where on no leg the potential
falls by more than the leg is long (`le_length_of_potential`).
-/

namespace Polyline

universe u

variable {K : Type u} [AddCommGroup K] [LinearOrder K]

/-- The length of a leg. -/
def leg (a b : K × K) : K := |a.1 - b.1| + |a.2 - b.2|

/-- The length of a polyline. -/
def length : List (K × K) → K
  | a :: b :: rest => leg a b + length (b :: rest)
  | _ => 0

variable {a b c : K × K} {xs ys : List (K × K)}

@[simp] theorem length_singleton : length [a] = 0 := rfl

@[simp] theorem length_cons_cons : length (a :: b :: xs) = leg a b + length (b :: xs) := rfl

/-- A polyline is cut at a point. -/
theorem length_append_cons : length (xs ++ a :: ys) = length (xs ++ [a]) + length (a :: ys) := by
  induction xs with
  | nil => exact (zero_add _).symm
  | cons b xs ih =>
    cases xs with
    | nil =>
      show leg b a + length (a :: ys) = leg b a + 0 + length (a :: ys)
      rw [add_zero]
    | cons b' xs =>
      show leg b b' + length (b' :: xs ++ a :: ys) = leg b b' + length (b' :: xs ++ [a]) + length (a :: ys)
      rw [ih, add_assoc]

/-- One more leg. -/
theorem length_concat_concat : length (xs ++ [a] ++ [b]) = length (xs ++ [a]) + leg a b := by
  rw [List.append_assoc, List.singleton_append, length_append_cons]
  show _ + (leg a b + 0) = _
  rw [add_zero]

theorem leg_comm : leg a b = leg b a := by
  unfold leg
  rw [abs_sub_comm a.1, abs_sub_comm a.2]

variable [IsOrderedAddMonoid K]

theorem leg_nonneg : 0 ≤ leg a b := add_nonneg (abs_nonneg _) (abs_nonneg _)

theorem length_nonneg (path : List (K × K)) : 0 ≤ length path := by
  induction path with
  | nil => exact le_rfl
  | cons a path ih =>
    cases path with
    | nil => exact le_rfl
    | cons b path => exact add_nonneg leg_nonneg ih

@[simp] theorem leg_self : leg a a = 0 := by simp [leg]

theorem leg_triangle : leg a c ≤ leg a b + leg b c := by
  have first := abs_sub_le a.1 b.1 c.1
  have second := abs_sub_le a.2 b.2 c.2
  refine (add_le_add first second).trans (le_of_eq ?_)
  exact add_add_add_comm _ _ _ _

/-- A polyline is not shorter than the direct way. -/
theorem leg_le_length (last : (a :: xs).getLast? = some b) : leg a b ≤ length (a :: xs) := by
  induction xs generalizing a with
  | nil =>
    cases last
    exact leg_self.le
  | cons c xs ih =>
    rw [List.getLast?_cons_cons] at last
    exact leg_triangle.trans (add_le_add_right (ih last) _)

/-- A potential that on no leg falls by more than the leg is long. -/
theorem le_length_of_potential {R : K × K → K × K → Prop} {φ : K × K → K} (falls : ∀ a b, R a b → φ a ≤ leg a b + φ b)
    (chain : (a :: xs).IsChain R) (last : (a :: xs).getLast? = some b) : φ a ≤ length (a :: xs) + φ b := by
  induction xs generalizing a with
  | nil =>
    cases last
    exact le_of_eq (zero_add _).symm
  | cons c xs ih =>
    rw [List.getLast?_cons_cons] at last
    rw [List.isChain_cons_cons] at chain
    refine (falls a c chain.1).trans ?_
    rw [length_cons_cons, add_assoc]
    exact add_le_add_right (ih chain.2 last) _

end Polyline
