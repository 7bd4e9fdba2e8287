import Mathlib.Tactic.Common

/-!
# Online readers of a byte stream

A reader takes its input from a queue in portions of its own choosing.  It is
described by what is still unread and by an outcome: what it will have produced
once a given input has been read to the end.  A step that takes a portion from
the queue and leaves the outcome of whatever follows alone makes the final
outcome independent of the portions.
-/

namespace VeltiumCharger.Stream

universe u v w

/-- A reader: its unread input, and what it will have produced after reading a
given input in place of that. -/
structure Reader (σ : Type u) (α : Type v) (ω : Type w) where
  unread : σ → List α
  outcome : σ → List α → ω

variable {σ : Type u} {α : Type v} {ω : Type w} {reader : Reader σ α ω}

/-- From `source` to `target` the reader is given `arrived` and reads a prefix
of what it then has, without a change to any outcome. -/
def Advances (reader : Reader σ α ω) (source : σ) (arrived : List α) (target : σ) : Prop :=
  ∃ taken, reader.unread source ++ arrived = taken ++ reader.unread target ∧
    ∀ rest, reader.outcome target rest = reader.outcome source (taken ++ rest)

/-- A step that reads `taken` from the queue. -/
theorem Advances.reading {source target : σ} (taken : List α)
    (unread_eq : reader.unread source = taken ++ reader.unread target)
    (outcome_eq : ∀ rest, reader.outcome target rest = reader.outcome source (taken ++ rest)) :
    Advances reader source [] target :=
  ⟨taken, by rw [List.append_nil, unread_eq], outcome_eq⟩

/-- A step that neither reads nor receives. -/
theorem Advances.idle {source target : σ}
    (unread_eq : reader.unread target = reader.unread source)
    (outcome_eq : ∀ rest, reader.outcome target rest = reader.outcome source rest) :
    Advances reader source [] target :=
  Advances.reading [] (by rw [List.nil_append, unread_eq]) outcome_eq

/-- A step that only receives. -/
theorem Advances.receiving {source target : σ} (arrived : List α)
    (unread_eq : reader.unread target = reader.unread source ++ arrived)
    (outcome_eq : ∀ rest, reader.outcome target rest = reader.outcome source rest) :
    Advances reader source arrived target :=
  ⟨[], by rw [List.nil_append, unread_eq], outcome_eq⟩

/-- Two advances in a row are one, given what both were given. -/
theorem Advances.trans {source middle target : σ} {first second : List α}
    (toMiddle : Advances reader source first middle)
    (toTarget : Advances reader middle second target) :
    Advances reader source (first ++ second) target := by
  rcases toMiddle with ⟨taken, unread_eq, outcome_eq⟩
  rcases toTarget with ⟨taken', unread_eq', outcome_eq'⟩
  refine ⟨taken ++ taken', ?_, ?_⟩
  · rw [← List.append_assoc, unread_eq, List.append_assoc, unread_eq', List.append_assoc]
  · intro rest
    rw [outcome_eq', outcome_eq, List.append_assoc]

/-- Reading does not lengthen the queue. -/
theorem Advances.length_unread_le {source target : σ} {arrived : List α}
    (advances : Advances reader source arrived target) :
    (reader.unread target).length ≤ (reader.unread source).length + arrived.length := by
  rcases advances with ⟨taken, unread_eq, -⟩
  have length_eq := congrArg List.length unread_eq
  simp only [List.length_append] at length_eq
  omega

/-- Read to the end, the input gives the same however it was portioned. -/
theorem Advances.outcome_unread {source target : σ} {arrived : List α}
    (advances : Advances reader source arrived target) (rest : List α) :
    reader.outcome target (reader.unread target ++ rest) =
      reader.outcome source (reader.unread source ++ arrived ++ rest) := by
  rcases advances with ⟨taken, unread_eq, outcome_eq⟩
  rw [outcome_eq, unread_eq, List.append_assoc]

end VeltiumCharger.Stream
