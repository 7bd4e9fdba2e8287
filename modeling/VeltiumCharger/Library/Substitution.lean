import Mathlib.Data.List.GetD
import Mathlib.Data.List.Nodup

/-!
# Substitution of letters

Two alphabets have the same letters in two orders.  A letter of the first one is replaced
by the letter of the second in the same place, and what is in neither is left alone.  The
replacement the other way undoes it.
-/

namespace VeltiumCharger.Substitution

universe u

variable {α : Type u} [DecidableEq α] [Inhabited α]

/-- The letter of `target` in the place of this one in `source`. -/
def letter (source target : List α) (x : α) : α :=
  if x ∈ source then target.getD (source.idxOf x) default else x

variable {source target : List α}

theorem letter_of_notMem {x : α} (absent : x ∉ source) : letter source target x = x :=
  if_neg absent

/-- The letter in a place goes to the letter in the same place. -/
theorem letter_getElem (distinct : source.Nodup) {i : Nat} (inSource : i < source.length)
    (inTarget : i < target.length) :
    letter source target source[i] = target[i] := by
  rw [letter, if_pos (List.getElem_mem inSource), distinct.idxOf_getElem, List.getD_eq_getElem]

/-- The two replacements undo each other. -/
theorem letter_letter (same : source.Perm target) (distinct : source.Nodup) (x : α) :
    letter target source (letter source target x) = x := by
  by_cases present : x ∈ source
  · obtain ⟨i, inSource, rfl⟩ := List.getElem_of_mem present
    have inTarget : i < target.length := same.length_eq ▸ inSource
    rw [letter_getElem distinct inSource inTarget,
      letter_getElem (same.nodup_iff.mp distinct) inTarget inSource]
  · have absent : x ∉ target := fun other => present (same.mem_iff.mpr other)
    rw [letter_of_notMem present, letter_of_notMem absent]

/-- The same for a text. -/
theorem map_letter_map (same : source.Perm target) (distinct : source.Nodup) (text : List α) :
    (text.map (letter source target)).map (letter target source) = text := by
  induction text with
  | nil => rfl
  | cons x rest ih => simp only [List.map_cons, letter_letter same distinct, ih]

/-- A letter that is in the alphabets stays in them, and no other comes in. -/
theorem letter_mem_iff (same : source.Perm target) (distinct : source.Nodup) {x : α} :
    letter source target x ∈ source ↔ x ∈ source := by
  by_cases present : x ∈ source
  · obtain ⟨i, inSource, rfl⟩ := List.getElem_of_mem present
    have inTarget : i < target.length := same.length_eq ▸ inSource
    rw [letter_getElem distinct inSource inTarget, same.mem_iff]
    simp
  · rw [letter_of_notMem present]

end VeltiumCharger.Substitution
