import Mathlib.Data.List.Basic
import Mathlib.Tactic.Common

/-!
# The last write to a cell

Operations are executed one after the other.  Each of them covers some cells, to which it
gives values, and leaves the others.  At the end a cell has the value of the last
operation that covers it.
-/

namespace VeltiumCharger.LastWrite

universe u v w x

variable {ω : Type u} {κ : Type v} {β : Type w} {σ : Type x}
variable (covers : ω → κ → Bool) (value : ω → κ → β)

/-- The value of a cell after some operations, and its initial value if none covers it. -/
def lastWrite (ops : List ω) (initial : κ → β) (cell : κ) : β :=
  ((ops.filter fun op => covers op cell).getLast?.map fun op => value op cell).getD (initial cell)

@[simp]
theorem lastWrite_nil (initial : κ → β) (cell : κ) :
    lastWrite covers value [] initial cell = initial cell :=
  rfl

/-- The first operation acts on the initial values. -/
theorem lastWrite_cons (op : ω) (ops : List ω) (initial : κ → β) (cell : κ) :
    lastWrite covers value (op :: ops) initial cell =
      lastWrite covers value ops
        (fun cell => if covers op cell then value op cell else initial cell) cell := by
  simp only [lastWrite, List.filter_cons]
  by_cases covered : covers op cell = true
  · rw [if_pos covered, if_pos covered, List.getLast?_cons]
    cases (ops.filter fun op => covers op cell).getLast? <;> rfl
  · rw [if_neg covered, if_neg covered]

section Fold

variable {covers value} {cells : σ → κ → β}

/-- A fold of operations that may fail, and do not. -/
theorem foldlM_cells {step : σ → ω → Option σ} {ops : List ω}
    (writes : ∀ op ∈ ops, ∀ state, ∃ next, step state op = some next ∧ ∀ cell,
      cells next cell = if covers op cell then value op cell else cells state cell)
    (state : σ) : ∃ final, ops.foldlM step state = some final ∧
      ∀ cell, cells final cell = lastWrite covers value ops (cells state) cell := by
  induction ops generalizing state with
  | nil => exact ⟨state, rfl, fun _ => rfl⟩
  | cons op ops ih =>
      obtain ⟨next, stepped, written⟩ := writes op List.mem_cons_self state
      obtain ⟨final, folded, last⟩ :=
        ih (fun op mem => writes op (List.mem_cons_of_mem _ mem)) next
      refine ⟨final, ?_, fun cell => ?_⟩
      · rw [List.foldlM_cons, stepped]
        exact folded
      · rw [last, lastWrite_cons]
        exact congrArg (fun initial => lastWrite covers value ops initial cell) (funext written)

/-- A fold of operations. -/
theorem foldl_cells {step : σ → ω → σ}
    (writes : ∀ state op cell,
      cells (step state op) cell = if covers op cell then value op cell else cells state cell)
    (ops : List ω) (state : σ) (cell : κ) :
    cells (ops.foldl step state) cell = lastWrite covers value ops (cells state) cell := by
  induction ops generalizing state with
  | nil => rfl
  | cons op ops ih =>
      rw [List.foldl_cons, ih, lastWrite_cons]
      exact congrArg (fun initial => lastWrite covers value ops initial cell)
        (funext (writes state op))

end Fold

end VeltiumCharger.LastWrite
