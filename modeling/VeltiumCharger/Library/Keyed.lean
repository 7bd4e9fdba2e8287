import Mathlib.Data.List.Nodup
import Mathlib.Logic.Function.Basic
import Mathlib.Tactic.Common

/-!
# Lists of records with a key

Records are appended when their key is new and there is room, removed by their
key, and found by it.  The keys stay apart.  An array of cells and a count hold
such a list: appending writes behind the last cell in use, removing shifts the
cells behind the record down by one.
-/

namespace VeltiumCharger.Keyed

universe u v

variable {α : Type u} {κ : Type v} [DecidableEq κ] (key : α → κ)

/-- Append a record, if its key is new and there is room for it. -/
def add (capacity : Nat) (record : α) (records : List α) : List α :=
  if records.length < capacity ∧ key record ∉ records.map key then records ++ [record]
  else records

/-- Remove the first record with the key. -/
def remove (id : κ) (records : List α) : List α :=
  records.eraseP fun record => decide (key record = id)

/-- Where the first record with the key is. -/
def position (id : κ) (records : List α) : Option Nat :=
  records.findIdx? fun record => decide (key record = id)

/-- The records have different keys. -/
def Apart (records : List α) : Prop :=
  (records.map key).Nodup

variable {key} {capacity : Nat} {record : α} {records : List α} {id : κ}

omit [DecidableEq κ] in
theorem apart_nil : Apart key [] :=
  List.nodup_nil

theorem Apart.add (apart : Apart key records) :
    Apart key (add key capacity record records) := by
  rw [Keyed.add]
  split_ifs with fits
  · rw [Apart, List.map_append, List.map_singleton]
    exact List.nodup_append.mpr ⟨apart, List.nodup_singleton _, by
      rintro first member second rfl' rfl
      rw [List.mem_singleton] at rfl'
      exact fits.2 (rfl' ▸ member)⟩
  · exact apart

theorem Apart.remove (apart : Apart key records) : Apart key (remove key id records) :=
  List.Nodup.sublist ((List.eraseP_sublist).map key) apart

theorem length_add_le (fits : records.length ≤ capacity) :
    (add key capacity record records).length ≤ capacity := by
  rw [Keyed.add]
  split_ifs with room
  · rw [List.length_append, List.length_singleton]
    exact room.1
  · exact fits

theorem position_eq_none_iff : position key id records = none ↔ id ∉ records.map key := by
  simp [position, List.findIdx?_eq_none_iff]

/-- With keys apart, what remains are the records with another key, in their order. -/
theorem remove_eq_filter (apart : Apart key records) :
    remove key id records = records.filter fun record => decide (key record ≠ id) := by
  induction records with
  | nil => rfl
  | cons first rest inductionHypothesis =>
      have behind : Apart key rest := (List.nodup_cons.mp apart).2
      have fresh : key first ∉ rest.map key := (List.nodup_cons.mp apart).1
      by_cases here : key first = id
      · have others : ∀ record ∈ rest, decide (key record ≠ id) = true := by
          intro record member
          rw [decide_eq_true_eq, ← here]
          rintro same
          exact fresh (same ▸ List.mem_map_of_mem member)
        rw [Keyed.remove, List.eraseP_cons_of_pos (by simpa using here),
          List.filter_cons_of_neg (by simpa using here), List.filter_eq_self.mpr others]
      · rw [Keyed.remove, List.eraseP_cons_of_neg (by simpa using here),
          List.filter_cons_of_pos (by simpa using here)]
        exact congrArg _ (inductionHypothesis behind)

/-- Removing by the position. -/
theorem remove_of_position {j : Nat} (found : position key id records = some j) :
    remove key id records = records.eraseIdx j := by
  rw [Keyed.remove, List.eraseP_eq_eraseIdx]
  rw [position] at found
  rw [found]

theorem remove_of_position_none (absent : position key id records = none) :
    remove key id records = records := by
  rw [Keyed.remove, List.eraseP_eq_eraseIdx]
  rw [position] at absent
  rw [absent]

/-! ## Held in an array -/

/-- The list that the first `size` cells hold. -/
def cells (size : Nat) (mem : Nat → α) : List α :=
  (List.range size).map mem

section Cells

variable {size : Nat} {mem mem' : Nat → α}

@[simp]
theorem length_cells : (cells size mem).length = size := by
  rw [cells, List.length_map, List.length_range]

theorem getElem?_cells {k : Nat} :
    (cells size mem)[k]? = if k < size then some (mem k) else none := by
  rw [cells, List.getElem?_map]
  split_ifs with below
  · rw [List.getElem?_range below, Option.map_some]
  · rw [List.getElem?_eq_none (by simpa using below), Option.map_none]

theorem cells_congr (same : ∀ k, k < size → mem k = mem' k) : cells size mem = cells size mem' :=
  List.map_congr_left fun k member => same k (List.mem_range.mp member)

/-- Searching the cells from the first on. -/
theorem position_cells : position key id (cells size mem) =
    (List.range size).find? fun j => decide (key (mem j) = id) := by
  rw [position, cells, List.findIdx?_map]
  induction size with
  | zero => rfl
  | succ size inductionHypothesis =>
      rw [List.range_succ, List.findIdx?_append, List.find?_append, inductionHypothesis,
        List.length_range]
      congr 1
      by_cases here : key (mem size) = id <;> simp [here, List.findIdx?_cons]

/-- Writing behind the last cell in use appends. -/
theorem cells_update : cells (size + 1) (Function.update mem size record) =
    cells size mem ++ [record] := by
  rw [cells, List.range_succ, List.map_append, List.map_singleton, Function.update_self]
  refine congrArg (· ++ [record]) (cells_congr fun k below => ?_)
  exact Function.update_of_ne (Nat.ne_of_lt below) _ _

/-- Shifting the cells behind a place down by one removes it. -/
theorem cells_shift {j : Nat} (below : j < size)
    (shifted : ∀ k, k < size - 1 → mem' k = if k < j then mem k else mem (k + 1)) :
    cells (size - 1) mem' = (cells size mem).eraseIdx j := by
  apply List.ext_getElem?
  intro k
  rw [List.getElem?_eraseIdx, getElem?_cells, getElem?_cells, getElem?_cells]
  by_cases inside : k < size - 1
  · rw [if_pos inside, shifted k inside, if_pos (show k < size by omega),
      if_pos (show k + 1 < size by omega)]
    split_ifs <;> rfl
  · rw [if_neg inside, if_neg (show ¬k + 1 < size by omega)]
    split_ifs with before within
    · omega
    · rfl
    · rfl

end Cells

end VeltiumCharger.Keyed
