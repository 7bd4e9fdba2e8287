import Mathlib.Algebra.BigOperators.Group.Finset.Basic
import Mathlib.Algebra.BigOperators.Ring.Finset
import Mathlib.Algebra.Order.BigOperators.Group.Finset
import Mathlib.Algebra.Order.Ring.Nat
import Mathlib.Tactic.Ring
import Mathlib.Tactic.Linarith

/-!
# Equal shares of a limit

A limit is divided into equal whole shares over a weighted set of users.  As
long as nobody takes more than one share for each unit of its own weight, and
the weights were all counted, the users together stay within the limit.
-/

namespace VeltiumCharger.Share

open Finset

universe u

variable {ι : Type u}

/-- Users that take at most one share per unit of weight stay within the limit
when the limit was divided by at least their total weight. -/
theorem sum_le_of_le_weight_mul {users : Finset ι} {taken : ι → Nat} (weight : ι → Nat)
    {limit : Nat} (total : Nat) (counted : ∑ user ∈ users, weight user ≤ total)
    (bounded : ∀ user ∈ users, taken user ≤ weight user * (limit / total)) :
    ∑ user ∈ users, taken user ≤ limit :=
  calc
    ∑ user ∈ users, taken user
        ≤ ∑ user ∈ users, weight user * (limit / total) := sum_le_sum bounded
    _ = (∑ user ∈ users, weight user) * (limit / total) := (sum_mul ..).symm
    _ ≤ total * (limit / total) := Nat.mul_le_mul_right _ counted
    _ ≤ limit := Nat.mul_div_le limit total

/-- Users of unit weight whose own divisors are all at least the number of
users stay within the limit, even when the divisors differ. -/
theorem sum_le_of_le_div {users : Finset ι} {taken : ι → Nat} (divisor : ι → Nat) {limit : Nat}
    (bounded : ∀ user ∈ users, taken user ≤ limit / divisor user)
    (crowded : ∀ user ∈ users, users.card ≤ divisor user) :
    ∑ user ∈ users, taken user ≤ limit := by
  apply sum_le_of_le_weight_mul (fun _ => 1) users.card (by simp)
  intro user member
  rw [one_mul]
  have present : 0 < users.card := card_pos.mpr ⟨user, member⟩
  exact (bounded user member).trans
    (Nat.div_le_div_left (crowded user member) present)

/-- A share of at least `least` is the same as a limit of at least `least` for
each unit of the total weight. -/
theorem le_share_iff {least limit total : Nat} (present : 0 < total) :
    least ≤ limit / total ↔ least * total ≤ limit :=
  Nat.le_div_iff_mul_le present

/-- A total is at most the number of users times the largest weight. -/
theorem sum_range_le_mul {count most : Nat} {weight : Nat → Nat}
    (bounded : ∀ user, user < count → weight user ≤ most) :
    ∑ user ∈ range count, weight user ≤ count * most := by
  have bound := sum_le_card_nsmul (range count) weight most
    fun user member => bounded user (mem_range.mp member)
  simpa using bound

end VeltiumCharger.Share
