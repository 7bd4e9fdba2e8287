import Mathlib.Algebra.BigOperators.Group.Finset.Basic
import VeltiumCharger.Library.Loop

/-!
# Counters kept by a loop

A counted loop over the cells of an array often keeps counters next to them.
When a round reads only its own cell, and changes no other, each counter ends
at the sum of what the initial cells contribute.  Counters of a fixed width
are reduced in every round; the modulus `0` stands for a counter that is not.
-/

namespace VeltiumCharger.Loop

open Finset

universe u v

variable {σ : Type u} {α : Type v}

/-- Accumulation rule: a counter to which round `i` adds the contribution of
cell `i` ends at the sum of the contributions of the initial cells. -/
theorem forUpTo_accumulate (cells : σ → Nat → α) (observe : σ → Nat)
    (contribution : α → Nat) (modulus : Nat) {bound : Nat} {body : Nat → σ → σ} {state : σ}
    (reduced : observe state % modulus = observe state)
    (untouched : ∀ index current cell, cell ≠ index →
      cells (body index current) cell = cells current cell)
    (adds : ∀ index current, observe current % modulus = observe current →
      observe (body index current) =
        (observe current + contribution (cells current index)) % modulus) :
    observe (forUpTo bound body state) =
      (observe state + ∑ index ∈ range bound, contribution (cells state index)) % modulus := by
  have kept := @forUpTo_induction _
    (fun next current =>
      (∀ cell, next ≤ cell → cells current cell = cells state cell) ∧
        observe current = (observe state +
          ∑ index ∈ range next, contribution (cells state index)) % modulus)
    bound body state ⟨fun _ _ => rfl, by simp [reduced]⟩ ?round
  case round =>
    rintro index _ current ⟨same, counted⟩
    constructor
    · intro cell above
      rw [untouched index current cell (by omega), same cell (by omega)]
    · rw [adds index current (by rw [counted, Nat.mod_mod]), counted,
        same index (Nat.le_refl index), sum_range_succ, Nat.mod_add_mod, Nat.add_assoc]
  exact kept.2

end VeltiumCharger.Loop
