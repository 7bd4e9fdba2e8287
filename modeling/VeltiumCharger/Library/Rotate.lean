import Mathlib.Logic.Function.Iterate
import Mathlib.Tactic.Common

/-!
# Rotating the cells of an array

One round moves the first cell to the end.  What arrives there may depend on
what the last cell held before, as when a record is restored only in part.
-/

namespace VeltiumCharger.Rotate

universe u v

variable {α : Type u} {β : Type v}

/-- Move the cells one place down; the last becomes what `f` makes of the old
first and last cells. -/
def rotate (f : α → α → α) (size : Nat) (cells : Nat → α) (i : Nat) : α :=
  if i + 1 < size then cells (i + 1)
  else if i + 1 = size then f (cells 0) (cells i)
  else cells i

section

variable {f : α → α → α} {size : Nat} {cells : Nat → α}

theorem rotate_of_lt {i : Nat} (inner : i + 1 < size) :
    rotate f size cells i = cells (i + 1) := by
  rw [rotate, if_pos inner]

theorem rotate_last {i : Nat} (last : i + 1 = size) :
    rotate f size cells i = f (cells 0) (cells i) := by
  rw [rotate, if_neg (by omega), if_pos last]

/-- Closed form, when restoring over a restored record leaves of it what
restoring over the record below would have left. -/
theorem rotate_iterate (absorb : ∀ x y z, f x (f y z) = f x z) {rounds : Nat}
    (below : rounds < size) {i : Nat} (inside : i < size) :
    (rotate f size)^[rounds] cells i =
      if i + rounds < size then cells (i + rounds)
      else f (cells (i + rounds - size)) (cells (size - 1)) := by
  induction rounds generalizing i with
  | zero => rw [if_pos (by omega), Nat.add_zero, Function.iterate_zero, id_eq]
  | succ rounds ih =>
      have earlier : rounds < size := by omega
      rw [Function.iterate_succ_apply']
      rcases Nat.lt_or_ge (i + 1) size with inner | outer
      · rw [rotate_of_lt inner, ih earlier inner, show i + 1 + rounds = i + (rounds + 1) by omega]
      · have last : i + 1 = size := by omega
        have first := ih earlier (show 0 < size by omega)
        rw [if_pos (by omega), Nat.zero_add] at first
        rw [rotate_last last, first, ih earlier inside,
          if_neg (by omega : ¬ i + (rounds + 1) < size),
          show i + (rounds + 1) - size = rounds by omega]
        split_ifs with fresh
        · rw [show i + rounds = size - 1 by omega]
        · exact absorb _ _ _

/-- What `f` takes from the first cell only is rotated as it is. -/
theorem rotate_iterate_observe (observe : α → β) (same : ∀ x y, observe (f x y) = observe x)
    {rounds : Nat} (below : rounds < size) {i : Nat} (inside : i < size) :
    observe ((rotate f size)^[rounds] cells i) = observe (cells ((i + rounds) % size)) := by
  induction rounds generalizing i with
  | zero => rw [Nat.add_zero, Nat.mod_eq_of_lt inside, Function.iterate_zero, id_eq]
  | succ rounds ih =>
      have earlier : rounds < size := by omega
      rw [Function.iterate_succ_apply']
      rcases Nat.lt_or_ge (i + 1) size with inner | outer
      · rw [rotate_of_lt inner, ih earlier inner, show i + 1 + rounds = i + (rounds + 1) by omega]
      · have last : i + 1 = size := by omega
        rw [rotate_last last, same, ih earlier (by omega),
          show i + (rounds + 1) = rounds + size by omega, Nat.add_mod_right, Nat.zero_add]

end

/-- Every cell comes to some place. -/
theorem forall_rotated_iff {size rounds : Nat} (below : rounds < size) {holds : Nat → Prop} :
    (∀ i, i < size → holds ((i + rounds) % size)) ↔ ∀ i, i < size → holds i := by
  constructor
  · intro rotated i inside
    have place := rotated ((i + (size - rounds)) % size) (Nat.mod_lt _ (by omega))
    rwa [Nat.mod_add_mod, show i + (size - rounds) + rounds = i + size by omega,
      Nat.add_mod_right, Nat.mod_eq_of_lt inside] at place
  · exact fun all i inside => all _ (Nat.mod_lt _ (by omega))

end VeltiumCharger.Rotate
