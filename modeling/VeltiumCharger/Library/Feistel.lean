import Mathlib.Logic.Equiv.Defs
import Mathlib.Tactic.Common

/-!
# Networks of rounds on two halves

A round mixes a key into the left half, mixes what a function makes of it into the right
half, and exchanges the halves.  A network ends with two keys, one for each half, instead
of a round.  Whatever the function is, the same network with its keys in the reverse order
undoes it.
-/

namespace VeltiumCharger.Feistel

universe u

variable {α : Type u}

/-- A round with the key `k`. -/
def round (F : α → α) (mix : α → α → α) (k : α) (x : α × α) : α × α :=
  (mix (F (mix x.1 k)) x.2, mix x.1 k)

/-- A round from its result. -/
def unround (F : α → α) (mix : α → α → α) (k : α) (x : α × α) : α × α :=
  (mix x.2 k, mix (F x.2) x.1)

/-- The network with the keys of a list, of which the last two take no round. -/
def network (F : α → α) (mix : α → α → α) : List α → α × α → α × α
  | [], x => x
  | [_], x => x
  | [p, q], x => (mix x.2 q, mix x.1 p)
  | k :: p :: q :: keys, x => network F mix (p :: q :: keys) (round F mix k x)

variable {F : α → α} {mix : α → α → α}

/-- A key in front is a round before. -/
theorem network_cons (k : α) {keys : List α} (two : 2 ≤ keys.length) (x : α × α) :
    network F mix (k :: keys) x = network F mix keys (round F mix k x) := by
  match keys with
  | [] => simp at two
  | [_] => simp at two
  | _ :: _ :: _ => rfl

/-- The rounds, and then the two keys that take none. -/
theorem network_append (keys : List α) (p q : α) (x : α × α) :
    network F mix (keys ++ [p, q]) x =
      (mix (keys.foldl (fun x k => round F mix k x) x).2 q,
        mix (keys.foldl (fun x k => round F mix k x) x).1 p) := by
  induction keys generalizing x with
  | nil => rfl
  | cons k keys inductionHypothesis =>
      rw [List.cons_append, network_cons k (by simp), inductionHypothesis, List.foldl_cons]

variable (assoc : ∀ x y z, mix (mix x y) z = mix x (mix y z))

include assoc

/-- A key at the end undoes a round after. -/
theorem network_concat (k : α) {keys : List α} (two : 2 ≤ keys.length) (x : α × α) :
    network F mix (keys ++ [k]) x = unround F mix k (network F mix keys x) := by
  induction keys generalizing x with
  | nil => simp at two
  | cons first keys inductionHypothesis =>
      match keys with
      | [] => simp at two
      | [p] => exact Prod.ext rfl (assoc _ _ _)
      | p :: q :: keys =>
          rw [List.cons_append, network_cons first (by simp), network_cons first (by simp)]
          exact inductionHypothesis (by simp) _

variable (cancels : ∀ x k, mix (mix x k) k = x) (cancelsLeft : ∀ x y, mix x (mix x y) = y)

include cancels cancelsLeft

/-- The keys in the reverse order undo the network. -/
theorem network_reverse {keys : List α} (two : 2 ≤ keys.length) (x : α × α) :
    network F mix keys.reverse (network F mix keys x) = x := by
  have unround_round : ∀ k y, unround F mix k (round F mix k y) = y := fun k y =>
    Prod.ext (cancels y.1 k) (cancelsLeft _ y.2)
  induction keys generalizing x with
  | nil => simp at two
  | cons k keys inductionHypothesis =>
      match keys with
      | [] => simp at two
      | [p] => exact Prod.ext (cancels x.1 k) (cancels x.2 p)
      | p :: q :: keys =>
          rw [List.reverse_cons, network_concat assoc k (by simp), network_cons k (by simp),
            inductionHypothesis (by simp), unround_round]

/-- The network as a permutation. -/
def permutation (F : α → α) (keys : List α) (two : 2 ≤ keys.length) : Equiv.Perm (α × α) where
  toFun := network F mix keys
  invFun := network F mix keys.reverse
  left_inv := network_reverse assoc cancels cancelsLeft two
  right_inv x := by
    have back := @network_reverse α F mix assoc cancels cancelsLeft keys.reverse
      (by simpa using two) x
    rwa [List.reverse_reverse] at back

end VeltiumCharger.Feistel
