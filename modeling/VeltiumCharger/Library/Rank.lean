import Mathlib.Data.Finset.Card
import Mathlib.Order.Basic
import Mathlib.Tactic.Common

/-!
# Ranks by a key

Repeatedly taking the element with the least key out of a finite set takes its
elements in the order of their ranks.  The rank of an element is a number of
other elements, so that what has been taken after some rounds can be told
without running them.
-/

namespace VeltiumCharger.Rank

open Finset

universe u v

variable {α : Type u} {β : Type v} [LinearOrder β]

/-- The number of elements of `users` with a key below that of `user`. -/
def rank (key : α → β) (users : Finset α) (user : α) : Nat :=
  #{other ∈ users | key other < key user}

variable {key : α → β} {users : Finset α}

theorem rank_mono (users : Finset α) {user other : α} (le : key user ≤ key other) :
    rank key users user ≤ rank key users other := by
  apply card_le_card
  intro element
  simp only [mem_filter]
  exact fun ⟨member, below⟩ => ⟨member, lt_of_lt_of_le below le⟩

theorem rank_lt_rank {user other : α} (member : user ∈ users)
    (below : key user < key other) :
    rank key users user < rank key users other := by
  apply card_lt_card
  rw [ssubset_iff_of_subset]
  · exact ⟨user, by simp [member, below]⟩
  · intro element
    simp only [mem_filter]
    exact fun ⟨isUser, lower⟩ => ⟨isUser, lower.trans below⟩

theorem rank_lt_card {user : α} (member : user ∈ users) :
    rank key users user < (#users) := by
  apply card_lt_card
  rw [filter_ssubset]
  exact ⟨user, member, lt_irrefl _⟩

/-- Different elements have different ranks. -/
theorem rank_injOn (injective : Function.Injective key) :
    Set.InjOn (rank key users) users := by
  intro user member other otherMember same
  by_contra different
  rcases lt_or_gt_of_ne (injective.ne different) with below | above
  · exact absurd same (rank_lt_rank member below).ne
  · exact absurd same (rank_lt_rank otherMember above).ne'

/-- The ranks of the elements are exactly the numbers below their count. -/
theorem image_rank (injective : Function.Injective key) :
    users.image (rank key users) = range (#users) := by
  apply eq_of_subset_of_card_le
  · intro position
    simp only [mem_image, mem_range]
    rintro ⟨user, member, rfl⟩
    exact rank_lt_card member
  · rw [card_range, card_image_of_injOn (rank_injOn injective)]

/-- Exactly `taken` elements have a rank below `taken`. -/
theorem card_rank_lt (injective : Function.Injective key) {taken : Nat}
    (enough : taken ≤ (#users)) :
    #{user ∈ users | rank key users user < taken} = taken := by
  have image : ({user ∈ users | rank key users user < taken}).image (rank key users) =
      range taken := by
    rw [← filter_image (p := (· < taken)), image_rank injective]
    ext position
    simp only [mem_filter, mem_range]
    omega
  have injOn : Set.InjOn (rank key users)
      (({user ∈ users | rank key users user < taken} : Finset α) : Set α) :=
    (rank_injOn injective).mono (coe_subset.mpr (filter_subset _ _))
  rw [← card_image_of_injOn injOn, image, card_range]

/-- The least element among those of rank at least `taken` has rank `taken`. -/
theorem rank_eq_of_least (injective : Function.Injective key) {taken : Nat} {user : α}
    (member : user ∈ users) (remains : taken ≤ rank key users user)
    (least : ∀ other ∈ users, taken ≤ rank key users other → key user ≤ key other) :
    rank key users user = taken := by
  have enough : taken ≤ (#users) := remains.trans (rank_lt_card member).le
  have before : ({other ∈ users | key other < key user} : Finset α) =
      ({other ∈ users | rank key users other < taken} : Finset α) := by
    ext other
    simp only [mem_filter, and_congr_right_iff]
    intro isUser
    constructor
    · intro below
      by_contra later
      exact absurd (least other isUser (by omega)) (not_le_of_gt below)
    · intro taken'
      by_contra above
      have le := rank_mono users (not_lt.mp above)
      omega
  calc
    rank key users user = #{other ∈ users | key other < key user} := rfl
    _ = #{other ∈ users | rank key users other < taken} := by rw [before]
    _ = taken := card_rank_lt injective enough

/-- Nobody has a rank below `taken + 1` but those below `taken` and the
element of rank `taken`. -/
theorem rank_lt_succ_iff (injective : Function.Injective key) {taken : Nat} {user other : α}
    (member : user ∈ users) (position : rank key users user = taken)
    (otherMember : other ∈ users) :
    rank key users other < taken + 1 ↔ rank key users other < taken ∨ other = user := by
  rw [Nat.lt_succ_iff_lt_or_eq]
  constructor
  · rintro (earlier | same)
    · exact .inl earlier
    · exact .inr (rank_injOn injective otherMember member (same.trans position.symm))
  · rintro (earlier | rfl)
    · exact .inl earlier
    · exact .inr position

end VeltiumCharger.Rank
