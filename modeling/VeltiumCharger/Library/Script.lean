import Mathlib.Data.List.Basic
import Mathlib.Tactic.Common

/-!
# Scripts carried out until something fails

A program that records its actions carries out a script when the record grows by a
beginning of the script, and by the whole of it when nothing has failed.  Scripts
carried out one after the other make one script, if a failure is the end.
-/

namespace VeltiumCharger.Script

universe u v

variable {α : Type u}

/-- The record has grown by a beginning of the script, and by all of it when the program
has succeeded. -/
def Performs (script : List α) (succeeds : Prop) (before after : List α) : Prop :=
  ∃ made, made <+: script ∧ after = before ++ made ∧ (succeeds → made = script)

variable {script more record before middle after : List α} {succeeds next : Prop}

theorem Performs.all (grown : after = before ++ script) : Performs script succeeds before after :=
  ⟨script, List.prefix_rfl, grown, fun _ => rfl⟩

theorem Performs.idle : Performs [] succeeds record record :=
  .all (List.append_nil record).symm

/-- A failure before the first action. -/
theorem Performs.failed (fails : ¬succeeds) : Performs script succeeds record record :=
  ⟨[], List.nil_prefix, (List.append_nil record).symm, fun success => absurd success fails⟩

/-- The second script is begun when the first is done. -/
theorem Performs.append (first : Performs script succeeds before middle)
    (second : succeeds → Performs more next middle after)
    (stops : ¬succeeds → after = middle ∧ ¬next) :
    Performs (script ++ more) next before after := by
  obtain ⟨made, begins, rfl, all⟩ := first
  by_cases success : succeeds
  · obtain ⟨made', begins', rfl, all'⟩ := second success
    rw [all success]
    exact ⟨script ++ made', (List.prefix_append_right_inj script).mpr begins',
      List.append_assoc .., fun success' => by rw [all' success']⟩
  · obtain ⟨rfl, fails⟩ := stops success
    exact ⟨made, begins.trans (List.prefix_append script more), rfl,
      fun success' => absurd success' fails⟩

end VeltiumCharger.Script
