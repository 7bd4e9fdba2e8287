import Mathlib.Tactic.Common

/-!
# Runs of a labelled transition system

A system is given by its initial states and by a step relation labelled with
events.  A guard restricts the steps a run may take; an invariant of the
guarded system holds in every state such a run reaches.
-/

namespace VeltiumCharger.Run

universe u v

variable {σ : Type u} {ε : Type v}

/-- The states reached by some run from an initial state. -/
inductive Reachable (initial : σ → Prop) (step : σ → ε → σ → Prop) : σ → Prop
  | start {state : σ} (isInitial : initial state) : Reachable initial step state
  | next {state : σ} {event : ε} {target : σ}
      (reached : Reachable initial step state) (taken : step state event target) :
      Reachable initial step target

/-- A transition function as a step relation. -/
def ofFunction (next : σ → ε → σ) (state : σ) (event : ε) (target : σ) : Prop :=
  next state event = target

/-- A transition function that may fail, as a step relation: a failing step
leads nowhere. -/
def ofOption (next : σ → ε → Option σ) (state : σ) (event : ε) (target : σ) : Prop :=
  next state event = some target

/-- The steps of a system that meet a condition on the state before the step
and on the event. -/
def guarded (guard : σ → ε → Prop) (step : σ → ε → σ → Prop)
    (state : σ) (event : ε) (target : σ) : Prop :=
  guard state event ∧ step state event target

variable {initial : σ → Prop} {step : σ → ε → σ → Prop}

/-- Invariant rule: what holds initially and is preserved by every step holds
in every reachable state. -/
theorem Reachable.invariant {state : σ} (reached : Reachable initial step state)
    (holds : σ → Prop) (base : ∀ state, initial state → holds state)
    (preserved : ∀ state event target,
      holds state → step state event target → holds target) :
    holds state := by
  induction reached with
  | start isInitial => exact base _ isInitial
  | next _ taken ih => exact preserved _ _ _ ih taken

/-- A run of a transition function reaches the states its events lead to. -/
theorem Reachable.foldl {next : σ → ε → σ} {state : σ}
    (reached : Reachable initial (ofFunction next) state) (events : List ε) :
    Reachable initial (ofFunction next) (events.foldl next state) := by
  induction events generalizing state with
  | nil => exact reached
  | cons event rest ih => exact ih (reached.next rfl)

/-- A run of a transition function over a list of events, every step of which
meets the guard. -/
def Along (guard : σ → ε → Prop) (next : σ → ε → σ) : List ε → σ → Prop
  | [], _ => True
  | event :: rest, state => guard state event ∧ Along guard next rest (next state event)

instance decidableAlong {guard : σ → ε → Prop} [∀ state event, Decidable (guard state event)]
    {next : σ → ε → σ} : ∀ (events : List ε) (state : σ), Decidable (Along guard next events state)
  | [], _ => isTrue trivial
  | event :: rest, state =>
    @instDecidableAnd _ _ inferInstance (decidableAlong rest (next state event))

theorem along_append {guard : σ → ε → Prop} {next : σ → ε → σ} {first second : List ε}
    {state : σ} :
    Along guard next (first ++ second) state ↔
      Along guard next first state ∧ Along guard next second (first.foldl next state) := by
  induction first generalizing state with
  | nil => simp [Along]
  | cons event rest ih => simp [Along, ih, and_assoc]

theorem Along.imp {guard weaker : σ → ε → Prop} {next : σ → ε → σ} {events : List ε} {state : σ}
    (along : Along guard next events state)
    (weakens : ∀ state event, guard state event → weaker state event) :
    Along weaker next events state := by
  induction events generalizing state with
  | nil => trivial
  | cons event rest ih => exact ⟨weakens _ _ along.1, ih along.2⟩

/-- Invariant rule for a run over a list of events. -/
theorem Along.invariant {guard : σ → ε → Prop} {next : σ → ε → σ} {events : List ε}
    {state : σ} (along : Along guard next events state) (holds : σ → Prop)
    (base : holds state)
    (preserved : ∀ state event, holds state → guard state event → holds (next state event)) :
    holds (events.foldl next state) := by
  induction events generalizing state with
  | nil => exact base
  | cons event rest ih => exact ih along.2 (preserved _ _ base along.1)

/-- When the guard says exactly which steps keep a property, a run keeps it all the
way exactly when every step meets the guard. -/
theorem forall_take_iff_along {guard : σ → ε → Prop} {next : σ → ε → σ}
    {good invariant : σ → Prop} {events : List ε} {state : σ} (base : invariant state)
    (start : good state) (preserved : ∀ state event, invariant state → invariant (next state event))
    (exact : ∀ state event, invariant state → good state →
      (good (next state event) ↔ guard state event)) :
    (∀ n, good ((events.take n).foldl next state)) ↔ Along guard next events state := by
  induction events generalizing state with
  | nil => simpa [Along] using start
  | cons event rest ih =>
    constructor
    · intro always
      have kept : good (next state event) := by simpa using always 1
      refine ⟨(exact state event base start).mp kept, ?_⟩
      refine (ih (preserved state event base) kept).mp ?_
      exact fun n => by simpa using always (n + 1)
    · rintro ⟨first, along⟩ n
      have kept := (exact state event base start).mpr first
      cases n with
      | zero => simpa using start
      | succ n => simpa using (ih (preserved state event base) kept).mpr along n

section Simulation

universe w x

variable {τ : Type w} {δ : Type x} {next : σ → ε → σ} {abstractNext : τ → δ → τ}

/-- Simulation rule: when each step is matched by some steps of another system, a run is
matched by a run. -/
theorem exists_run_of_simulation (related : σ → τ → Prop)
    (simulates : ∀ state other event, related state other →
      ∃ events : List δ, related (next state event) (events.foldl abstractNext other))
    (events : List ε) {state : σ} {other : τ} (start : related state other) :
    ∃ abstractEvents : List δ,
      related (events.foldl next state) (abstractEvents.foldl abstractNext other) := by
  induction events generalizing state other with
  | nil => exact ⟨[], start⟩
  | cons event rest ih =>
    obtain ⟨first, matched⟩ := simulates state other event start
    obtain ⟨others, reached⟩ := ih matched
    refine ⟨first ++ others, ?_⟩
    rwa [List.foldl_cons, List.foldl_append]

end Simulation

end VeltiumCharger.Run
