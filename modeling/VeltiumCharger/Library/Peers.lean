import Mathlib.Logic.Function.Basic
import Mathlib.Tactic.Common

/-!
# Two peers and the messages between them

Each peer has a state of its own.  A message sent stays on its way until it is
delivered; messages are neither lost nor kept in order, so those on their way to
a peer are counted by kind.
-/

namespace VeltiumCharger.Peers

universe u v

/-- The two peers. -/
inductive Side
  | left
  | right
  deriving DecidableEq

namespace Side

/-- The peer of a peer. -/
def other : Side → Side
  | left => right
  | right => left

@[simp]
theorem other_other (side : Side) : side.other.other = side := by
  cases side <;> rfl

@[simp]
theorem other_ne (side : Side) : side.other ≠ side := by
  cases side <;> decide

@[simp]
theorem ne_other (side : Side) : side ≠ side.other :=
  (other_ne side).symm

theorem forall_iff {holds : Side → Prop} : (∀ side, holds side) ↔ holds left ∧ holds right := by
  constructor
  · exact fun all => ⟨all left, all right⟩
  · rintro ⟨atLeft, atRight⟩ (_ | _)
    · exact atLeft
    · exact atRight

instance (holds : Side → Prop) [DecidablePred holds] : Decidable (∀ side, holds side) :=
  decidable_of_iff _ forall_iff.symm

theorem eq_or_eq_other (first second : Side) : first = second ∨ first = second.other := by
  cases first <;> cases second <;> decide

end Side

/-- The states of the peers, and how many messages of each kind are on their
way to each. -/
structure Pair (σ : Type u) (κ : Type v) where
  member : Side → σ
  inFlight : Side → κ → Nat

namespace Pair

variable {σ : Type u} {κ : Type v}

/-- Nothing is on its way. -/
def Delivered (pair : Pair σ κ) : Prop :=
  ∀ side kind, pair.inFlight side kind = 0

/-- A peer goes to the state `after` and sends `sent kind` messages of each kind
to the other. -/
def act (pair : Pair σ κ) (side : Side) (after : σ) (sent : κ → Nat) : Pair σ κ where
  member := Function.update pair.member side after
  inFlight target kind :=
    if target = side then pair.inFlight target kind else pair.inFlight target kind + sent kind

variable (pair : Pair σ κ) (side : Side) (after : σ) (sent : κ → Nat)

@[simp]
theorem act_member_self : (pair.act side after sent).member side = after :=
  Function.update_self ..

@[simp]
theorem act_member_other : (pair.act side after sent).member side.other = pair.member side.other :=
  Function.update_of_ne side.other_ne ..

@[simp]
theorem act_other_member : (pair.act side.other after sent).member side = pair.member side :=
  Function.update_of_ne side.ne_other ..

@[simp]
theorem act_inFlight_self (kind : κ) :
    (pair.act side after sent).inFlight side kind = pair.inFlight side kind :=
  if_pos rfl

@[simp]
theorem act_inFlight_other (kind : κ) :
    (pair.act side after sent).inFlight side.other kind =
      pair.inFlight side.other kind + sent kind :=
  if_neg side.other_ne

@[simp]
theorem act_other_inFlight (kind : κ) :
    (pair.act side.other after sent).inFlight side kind = pair.inFlight side kind + sent kind :=
  if_neg side.ne_other

variable [DecidableEq κ]

/-- A message of the given kind has reached a peer. -/
def take (kind : κ) : Pair σ κ where
  member := pair.member
  inFlight target message :=
    if target = side ∧ message = kind then pair.inFlight target message - 1
    else pair.inFlight target message

@[simp]
theorem take_member (kind : κ) : (pair.take side kind).member = pair.member :=
  rfl

@[simp]
theorem take_inFlight_other (kind message : κ) :
    (pair.take side kind).inFlight side.other message = pair.inFlight side.other message :=
  if_neg fun same => side.other_ne same.1

@[simp]
theorem take_other_inFlight (kind message : κ) :
    (pair.take side.other kind).inFlight side message = pair.inFlight side message :=
  if_neg fun same => side.ne_other same.1

theorem take_inFlight_of_ne {kind message : κ} (different : message ≠ kind) (target : Side) :
    (pair.take side kind).inFlight target message = pair.inFlight target message :=
  if_neg fun same => different same.2

theorem take_inFlight_le (kind message : κ) (target : Side) :
    (pair.take side kind).inFlight target message ≤ pair.inFlight target message := by
  unfold take
  dsimp only
  split
  · exact Nat.sub_le _ _
  · exact Nat.le_refl _

/-! ## Messages in another form -/

section Codes

universe w

variable {ξ : Type w} [DecidableEq ξ]

/-- The same states, and the same messages on their way, each in the form that `encode`
gives it. -/
structure Codes (encode : κ → ξ) (coded : Pair σ ξ) (plain : Pair σ κ) : Prop where
  member : coded.member = plain.member
  inFlight : ∀ side kind, coded.inFlight side (encode kind) = plain.inFlight side kind
  nothingElse : ∀ side message, (∀ kind, encode kind ≠ message) → coded.inFlight side message = 0

variable {encode : κ → ξ} {coded : Pair σ ξ} {plain : Pair σ κ}

omit [DecidableEq κ] [DecidableEq ξ] in
/-- The same peer goes to the same state and sends the same messages. -/
theorem Codes.act (codes : coded.Codes encode plain) (side : Side) (after : σ)
    {codedSent : ξ → Nat} {sent : κ → Nat} (same : ∀ kind, codedSent (encode kind) = sent kind)
    (nothing : ∀ message, (∀ kind, encode kind ≠ message) → codedSent message = 0) :
    (coded.act side after codedSent).Codes encode (plain.act side after sent) where
  member := by rw [Pair.act, Pair.act, codes.member]
  inFlight target kind := by
    unfold Pair.act
    dsimp only
    rw [codes.inFlight, same]
  nothingElse target message other := by
    unfold Pair.act
    dsimp only
    rw [codes.nothingElse target message other, nothing message other]
    simp

/-- A message reaches a peer in its form. -/
theorem Codes.take (codes : coded.Codes encode plain) (injective : Function.Injective encode)
    (side : Side) (kind : κ) :
    (coded.take side (encode kind)).Codes encode (plain.take side kind) where
  member := codes.member
  inFlight target message := by
    unfold Pair.take
    dsimp only
    rw [codes.inFlight]
    simp only [injective.eq_iff]
  nothingElse target message other := by
    unfold Pair.take
    dsimp only
    rw [codes.nothingElse target message other]
    simp

end Codes

end Pair

end VeltiumCharger.Peers
