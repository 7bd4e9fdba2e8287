import Mathlib.Algebra.GroupWithZero.Nat
import Mathlib.Algebra.Order.BigOperators.Group.List
import Mathlib.Algebra.Order.Group.Nat
import Mathlib.Tactic.Common

/-!
# Documents in a bounded memory

A document holds members, each a key with a value, in a memory of a given size.  A member
takes a slot; a text is copied with its terminator, once.  A member assigned without room for
its slot is left out, and a text without room is null.  Reading a file copies the names of
the keys as well and stops at the first thing that has no room.
-/

namespace VeltiumCharger.Documents

universe u

/-- A value. -/
inductive Value
  | null
  | number (n : Nat)
  | text (bytes : List UInt8)
  deriving DecidableEq, Repr

/-- The members, in the order in which they came, the texts copied and what is left. -/
structure Document (κ : Type u) where
  members : List (κ × Value)
  copied : List (List UInt8)
  free : Nat

namespace Document

variable {κ : Type u}

/-- A document of the given size without members. -/
def empty (size : Nat) : Document κ :=
  ⟨[], [], size⟩

/-- A slot is taken. -/
def slot (slotSize : Nat) (d : Document κ) : Option (Document κ) :=
  if slotSize ≤ d.free then some { d with free := d.free - slotSize } else none

/-- A text is copied, unless there is a copy of it. -/
def copy (text : List UInt8) (d : Document κ) : Option (Document κ) :=
  if text ∈ d.copied then some d
  else if text.length + 1 ≤ d.free then
    some { d with copied := text :: d.copied, free := d.free - (text.length + 1) }
  else none

/-- A text is read: it needs the room before it is known whether there is a copy. -/
def readText (text : List UInt8) (d : Document κ) : Option (Document κ) :=
  if text.length + 1 ≤ d.free then d.copy text else none

/-- One more member. -/
def add (member : κ × Value) (d : Document κ) : Document κ :=
  { d with members := d.members ++ [member] }

/-- A new member is assigned. -/
def assign (slotSize : Nat) (d : Document κ) (member : κ × Value) : Document κ :=
  match d.slot slotSize, member.2 with
  | none, _ => d
  | some d, .text bytes => ((d.copy bytes).map (add member)).getD (d.add (member.1, .null))
  | some d, _ => d.add member

/-- The value of a member that has a slot, and whether reading goes on. -/
def readValue (member : κ × Value) (d : Document κ) : Document κ × Bool :=
  match member.2 with
  | .text bytes =>
      match d.readText bytes with
      | some d => (d.add member, true)
      | none => (d.add (member.1, .null), false)
  | _ => (d.add member, true)

/-- The members of a file are read. -/
def readMembers (slotSize : Nat) (name : κ → List UInt8) :
    List (κ × Value) → Document κ → Document κ
  | [], d => d
  | member :: rest, d =>
      match (d.readText (name member.1)).bind (slot slotSize) with
      | none => d
      | some slotted =>
          let (d, goesOn) := slotted.readValue member
          if goesOn then readMembers slotSize name rest d else d

/-- The value of a key. -/
def find [DecidableEq κ] (key : κ) (d : Document κ) : Value :=
  (d.members.lookup key).getD .null

end Document

/-! ## What has room -/

/-- The bytes that the copy of a value takes at most. -/
def Value.size : Value → Nat
  | .text bytes => bytes.length + 1
  | _ => 0

open Document

section Room

variable {κ : Type u} {slotSize : Nat} {d : Document κ}

@[simp]
theorem add_free (member : κ × Value) : (d.add member).free = d.free :=
  rfl

@[simp]
theorem add_members (member : κ × Value) : (d.add member).members = d.members ++ [member] :=
  rfl

theorem slot_of_room (room : slotSize ≤ d.free) :
    d.slot slotSize = some { d with free := d.free - slotSize } :=
  if_pos room

/-- A text with room is copied, and takes at most its bytes. -/
theorem copy_of_room {text : List UInt8} (room : text.length + 1 ≤ d.free) :
    ∃ copied free, d.copy text = some ⟨d.members, copied, free⟩ ∧
      d.free ≤ free + (text.length + 1) := by
  by_cases present : text ∈ d.copied
  · exact ⟨d.copied, d.free, if_pos present, Nat.le_add_right _ _⟩
  · refine ⟨text :: d.copied, d.free - (text.length + 1), ?_, by omega⟩
    simp [copy, present, room]

theorem readText_of_room {text : List UInt8} (room : text.length + 1 ≤ d.free) :
    ∃ copied free, d.readText text = some ⟨d.members, copied, free⟩ ∧
      d.free ≤ free + (text.length + 1) := by
  simpa [readText, room] using copy_of_room room

/-- A member with room is added as it is. -/
theorem assign_of_room {member : κ × Value} (room : slotSize + member.2.size ≤ d.free) :
    (d.assign slotSize member).members = d.members ++ [member] ∧
      d.free ≤ (d.assign slotSize member).free + (slotSize + member.2.size) := by
  have slotted := @slot_of_room κ slotSize d (by omega)
  cases h : member.2 with
  | null =>
      simp only [assign, slotted, h, add_members, add_free, Value.size, true_and]
      omega
  | number n =>
      simp only [assign, slotted, h, add_members, add_free, Value.size, true_and]
      omega
  | text bytes =>
      simp only [h, Value.size] at room
      obtain ⟨copied, free, taken, left⟩ :=
        @copy_of_room κ { d with free := d.free - slotSize } bytes (by dsimp; omega)
      simp only [assign, slotted, h, taken, Option.map_some, Option.getD_some, add_members,
        add_free, Value.size, true_and] at left ⊢
      omega

/-- Members that have room together are all there, in their order. -/
theorem members_foldl_assign {members : List (κ × Value)}
    (room : (members.map fun member => slotSize + member.2.size).sum ≤ d.free) :
    (members.foldl (assign slotSize) d).members = d.members ++ members := by
  induction members generalizing d with
  | nil => simp
  | cons member rest ih =>
      simp only [List.map_cons, List.sum_cons] at room
      obtain ⟨added, left⟩ := @assign_of_room κ slotSize d member (by omega)
      rw [List.foldl_cons, ih (by omega), added, List.append_assoc, List.singleton_append]

theorem readValue_of_room {member : κ × Value} (room : member.2.size ≤ d.free) :
    ∃ copied free, d.readValue member = (⟨d.members ++ [member], copied, free⟩, true) ∧
      d.free ≤ free + member.2.size := by
  cases h : member.2 with
  | null => exact ⟨d.copied, d.free, by simp [readValue, h, add], by simp⟩
  | number n => exact ⟨d.copied, d.free, by simp [readValue, h, add], by simp⟩
  | text bytes =>
      simp only [h, Value.size] at room
      obtain ⟨copied, free, taken, left⟩ := readText_of_room room
      exact ⟨copied, free, by simp [readValue, h, taken, add], left⟩

/-- A file whose names and members have room together is read whole. -/
theorem members_readMembers {name : κ → List UInt8} {file : List (κ × Value)}
    (room : (file.map fun member =>
      (name member.1).length + 1 + slotSize + member.2.size).sum ≤ d.free) :
    (readMembers slotSize name file d).members = d.members ++ file := by
  induction file generalizing d with
  | nil => simp [readMembers]
  | cons member rest ih =>
      simp only [List.map_cons, List.sum_cons] at room
      obtain ⟨copied, free, named, left⟩ :=
        @readText_of_room κ d (name member.1) (by omega)
      obtain ⟨copied', free', valued, left'⟩ := @readValue_of_room κ
        ⟨d.members, copied, free - slotSize⟩ member (by dsimp only; omega)
      dsimp only at valued left'
      have slotted : (d.readText (name member.1)).bind (slot slotSize) =
          some ⟨d.members, copied, free - slotSize⟩ := by
        rw [named, Option.bind_some]
        exact slot_of_room (by dsimp only; omega)
      rw [readMembers, slotted]
      simp only [valued, if_true]
      rw [ih (by dsimp only; omega)]
      simp

end Room

end VeltiumCharger.Documents
