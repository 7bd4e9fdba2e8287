import Mathlib.Logic.Function.Iterate
import Mathlib.Tactic.Common

/-!
# Counted and conditional loops on a state

A C loop is read as a function of the state it transforms.  Counted loops are
structural in their bound, loops left by `break` report how they ended, and a
`while` loop carries an explicit bound on its rounds together with the measure
argument showing that the bound is never the reason for leaving.

Every rule below is an invariant rule: what one round preserves, the loop
preserves.
-/

namespace VeltiumCharger.Loop

universe u v

variable {σ : Type u}

/-! ## `for (i = 0; i < bound; i++)` -/

/-- Run `body 0`, `body 1`, …, `body (bound - 1)` in this order. -/
def forUpTo (bound : Nat) (body : Nat → σ → σ) (state : σ) : σ :=
  match bound with
  | 0 => state
  | bound + 1 => body bound (forUpTo bound body state)

theorem forUpTo_succ (bound : Nat) (body : Nat → σ → σ) (state : σ) :
    forUpTo (bound + 1) body state = body bound (forUpTo bound body state) :=
  rfl

/-- Invariant rule for a counted loop.  The invariant may mention the index of
the next round. -/
theorem forUpTo_induction (invariant : Nat → σ → Prop) {bound : Nat}
    {body : Nat → σ → σ} {state : σ} (start : invariant 0 state)
    (round : ∀ index, index < bound → ∀ current,
      invariant index current → invariant (index + 1) (body index current)) :
    invariant bound (forUpTo bound body state) := by
  induction bound with
  | zero => exact start
  | succ bound ih =>
      rw [forUpTo_succ]
      apply round bound (Nat.lt_succ_self bound)
      exact ih fun index below => round index (Nat.lt_succ_of_lt below)

/-- A quantity that no round changes is not changed by the loop. -/
theorem forUpTo_unchanged {β : Type v} (observe : σ → β) {bound : Nat}
    {body : Nat → σ → σ} {state : σ}
    (round : ∀ index, index < bound → ∀ current,
      observe (body index current) = observe current) :
    observe (forUpTo bound body state) = observe state :=
  forUpTo_induction (fun _ current => observe current = observe state) rfl
    fun index below current unchanged => (round index below current).trans unchanged

/-- A loop whose round `i` rewrites only cell `i`, as a function of that cell and
of what the loop keeps unchanged, rewrites every cell below the bound once. -/
theorem forUpTo_pointwise_frame {α : Type v} (frame : σ → Prop) (cells : σ → Nat → α)
    (rewrite : Nat → α → α) {bound : Nat} {body : Nat → σ → σ} {state : σ}
    (start : frame state)
    (round : ∀ index, index < bound → ∀ current, frame current →
      frame (body index current) ∧ cells (body index current) =
        Function.update (cells current) index (rewrite index (cells current index))) :
    frame (forUpTo bound body state) ∧
      ∀ cell, cells (forUpTo bound body state) cell =
        if cell < bound then rewrite cell (cells state cell) else cells state cell := by
  refine forUpTo_induction
    (fun next current => frame current ∧ ∀ cell, cells current cell =
      if cell < next then rewrite cell (cells state cell) else cells state cell)
    ?start ?round
  case start => simpa using start
  case round =>
    rintro index below current ⟨kept, done⟩
    rcases round index below current kept with ⟨stillKept, rewritten⟩
    refine ⟨stillKept, fun cell => ?_⟩
    rw [rewritten]
    by_cases here : cell = index
    · subst here
      simp [done]
    · rw [Function.update_of_ne here, done]
      have sameSide : cell < index + 1 ↔ cell < index := by omega
      simp only [sameSide]

/-- The same when a round reads only its own cell. -/
theorem forUpTo_pointwise {α : Type v} (cells : σ → Nat → α)
    (rewrite : Nat → α → α) {bound : Nat} {body : Nat → σ → σ} {state : σ}
    (round : ∀ index, index < bound → ∀ current,
      cells (body index current) =
        Function.update (cells current) index (rewrite index (cells current index)))
    (cell : Nat) :
    cells (forUpTo bound body state) cell =
      if cell < bound then rewrite cell (cells state cell) else cells state cell :=
  (forUpTo_pointwise_frame (fun _ => True) cells rewrite trivial
    fun index below current _ => ⟨trivial, round index below current⟩).2 cell

/-- The same for a loop on the array alone. -/
theorem forUpTo_update {α : Type v} (rewrite : Nat → α → α) (bound : Nat)
    (cells : Nat → α) (cell : Nat) :
    forUpTo bound (fun index cells =>
        Function.update cells index (rewrite index (cells index))) cells cell =
      if cell < bound then rewrite cell (cells cell) else cells cell :=
  forUpTo_pointwise (fun cells => cells) rewrite (fun _ _ _ => rfl) cell

/-! ## Loops left by `break` -/

/-- A counted loop whose rounds may leave it: `done` is the state at the
`break`, `yield` the state after a complete pass. -/
def forBreak (bound : Nat) (body : Nat → σ → ForInStep σ) (state : σ) : ForInStep σ :=
  match bound with
  | 0 => .yield state
  | bound + 1 =>
      match forBreak bound body state with
      | .done left => .done left
      | .yield current => body bound current

/-- Forget how the loop ended. -/
def result : ForInStep σ → σ
  | .done state => state
  | .yield state => state

@[simp]
theorem result_done (state : σ) : result (.done state) = state :=
  rfl

@[simp]
theorem result_yield (state : σ) : result (.yield state) = state :=
  rfl

/-- Invariant rule for a loop with `break`: `invariant` is kept by the rounds
that go on and `left` is established, with the index of its round, by the one
that breaks. -/
theorem forBreak_induction (invariant left : Nat → σ → Prop) {bound : Nat}
    {body : Nat → σ → ForInStep σ} {state : σ} (start : invariant 0 state)
    (round : ∀ index, index < bound → ∀ current, invariant index current →
      (∀ next, body index current = .yield next → invariant (index + 1) next) ∧
      (∀ next, body index current = .done next → left index next)) :
    (∀ final, forBreak bound body state = .yield final → invariant bound final) ∧
      (∀ final, forBreak bound body state = .done final →
        ∃ index, index < bound ∧ left index final) := by
  induction bound with
  | zero =>
      constructor
      · intro final finished
        cases finished
        exact start
      · intro final broken
        cases broken
  | succ bound ih =>
      have before := ih fun index below => round index (Nat.lt_succ_of_lt below)
      cases earlier : forBreak bound body state with
      | done stopped =>
          simp only [forBreak, earlier]
          constructor
          · intro final finished
            cases finished
          · intro final broken
            cases broken
            rcases before.2 stopped earlier with ⟨index, below, holds⟩
            exact ⟨index, Nat.lt_succ_of_lt below, holds⟩
      | yield current =>
          simp only [forBreak, earlier]
          have last := round bound (Nat.lt_succ_self bound) current
            (before.1 current earlier)
          exact ⟨last.1, fun final broken =>
            ⟨bound, Nat.lt_succ_self bound, last.2 final broken⟩⟩

/-- A property kept by every round, breaking or not, holds of the result. -/
theorem forBreak_result (invariant : σ → Prop) {bound : Nat}
    {body : Nat → σ → ForInStep σ} {state : σ} (start : invariant state)
    (round : ∀ index, index < bound → ∀ current, invariant current →
      invariant (result (body index current))) :
    invariant (result (forBreak bound body state)) := by
  have kept := @forBreak_induction _ (fun _ => invariant) (fun _ => invariant) bound body
    state start fun index below current holds => by
      have next := round index below current holds
      constructor <;> intro final equal <;> simpa [equal] using next
  cases ended : forBreak bound body state with
  | done final =>
      rcases kept.2 final ended with ⟨_, _, holds⟩
      exact holds
  | yield final => exact kept.1 final ended

/-- A loop that breaks on a test which does not mention the index: it breaks in its
first round or never. -/
theorem forBreak_of_test {bound : Nat} {test : σ → Bool} {body : Nat → σ → σ} {state : σ} :
    forBreak bound (fun index state =>
        if test state then .done (body index state) else .yield state) state =
      if 0 < bound ∧ test state = true then .done (body 0 state) else .yield state := by
  induction bound with
  | zero => rfl
  | succ bound ih =>
      rw [forBreak, ih]
      by_cases breaks : test state = true
      · rcases Nat.eq_zero_or_pos bound with rfl | some
        · simp [breaks]
        · simp [breaks, some]
      · simp [breaks]

/-! ## `while` loops -/

/-- `while (guard) body`, for at most `fuel` rounds. -/
def whileFuel (guard : σ → Bool) (body : σ → σ) : Nat → σ → σ
  | 0, state => state
  | fuel + 1, state =>
      if guard state then whileFuel guard body fuel (body state) else state

/-- The loop heads of `while (guard) body` started in `start`: the states in
which the guard is evaluated. -/
inductive Heads (guard : σ → Bool) (body : σ → σ) (start : σ) : σ → Prop
  | first : Heads guard body start start
  | round {state : σ} (head : Heads guard body start state)
      (enters : guard state = true) : Heads guard body start (body state)

theorem Heads.trans {guard : σ → Bool} {body : σ → σ} {start middle final : σ}
    (before : Heads guard body start middle) (after : Heads guard body middle final) :
    Heads guard body start final := by
  induction after with
  | first => exact before
  | round _ enters ih => exact ih.round enters

/-- A quantity that no round changes is not changed by the loop. -/
theorem Heads.unchanged {β : Type v} {guard : σ → Bool} {body : σ → σ} {start state : σ}
    (observe : σ → β) (round : ∀ state, observe (body state) = observe state)
    (head : Heads guard body start state) : observe state = observe start := by
  induction head with
  | first => rfl
  | round _ _ ih => exact (round _).trans ih

theorem whileFuel_of_not {guard : σ → Bool} (body : σ → σ) (fuel : Nat) {state : σ}
    (idle : guard state = false) : whileFuel guard body fuel state = state := by
  cases fuel with
  | zero => rfl
  | succ fuel => simp [whileFuel, idle]

/-- The bounded loop stops at one of the heads. -/
theorem whileFuel_heads (guard : σ → Bool) (body : σ → σ) (fuel : Nat) (start : σ) :
    Heads guard body start (whileFuel guard body fuel start) := by
  induction fuel generalizing start with
  | zero => exact .first
  | succ fuel ih =>
      by_cases enters : guard start = true
      · rw [whileFuel, if_pos enters]
        exact (Heads.first.round enters).trans (ih (body start))
      · rw [whileFuel, if_neg enters]
        exact .first

/-- A loop stops at the first iterate of its body at which the guard fails. -/
theorem whileFuel_eq_iterate {guard : σ → Bool} {body : σ → σ} {rounds fuel : Nat}
    {start : σ} (enough : rounds ≤ fuel)
    (enters : ∀ round, round < rounds → guard (body^[round] start) = true)
    (leaves : guard (body^[rounds] start) = false) :
    whileFuel guard body fuel start = body^[rounds] start := by
  induction rounds generalizing fuel start with
  | zero => exact whileFuel_of_not body fuel leaves
  | succ rounds ih =>
      cases fuel with
      | zero => omega
      | succ fuel =>
          have first : guard start = true := enters 0 (Nat.succ_pos rounds)
          rw [whileFuel, if_pos first]
          exact ih (by omega)
            (fun round below => enters (round + 1) (by omega)) leaves

/-- As many rounds as a measure that every round decreases are enough. -/
theorem whileFuel_enough {guard : σ → Bool} {body : σ → σ} (measure : σ → Nat)
    (decreases : ∀ state, guard state = true → measure (body state) < measure state)
    {fuel fuel' : Nat} {start : σ} (enough : measure start ≤ fuel)
    (enough' : measure start ≤ fuel') :
    whileFuel guard body fuel start = whileFuel guard body fuel' start := by
  induction fuel generalizing fuel' start with
  | zero =>
      have idle : guard start = false := by
        by_contra enters
        have less := decreases start (Bool.not_eq_false _ ▸ enters)
        omega
      rw [whileFuel_of_not body fuel' idle, whileFuel_of_not body 0 idle]
  | succ fuel ih =>
      by_cases enters : guard start = true
      · have less := decreases start enters
        cases fuel' with
        | zero => omega
        | succ fuel' =>
            rw [whileFuel, if_pos enters, whileFuel, if_pos enters]
            exact ih (by omega) (by omega)
      · have idle : guard start = false := Bool.not_eq_true _ ▸ enters
        rw [whileFuel_of_not body _ idle, whileFuel_of_not body _ idle]

/-- Then the guard is why the loop is left.  The measure may count on an invariant. -/
theorem whileFuel_leaves_of {guard : σ → Bool} {body : σ → σ} (invariant : σ → Prop)
    (measure : σ → Nat)
    (round : ∀ state, invariant state → guard state = true →
      invariant (body state) ∧ measure (body state) < measure state)
    {fuel : Nat} {start : σ} (holds : invariant start) (enough : measure start ≤ fuel) :
    guard (whileFuel guard body fuel start) = false := by
  induction fuel generalizing start with
  | zero =>
      by_contra enters
      have less := (round start holds (Bool.not_eq_false _ ▸ enters)).2
      omega
  | succ fuel ih =>
      by_cases enters : guard start = true
      · obtain ⟨kept, less⟩ := round start holds enters
        rw [whileFuel, if_pos enters]
        exact ih kept (by omega)
      · rw [whileFuel, if_neg enters]
        exact Bool.not_eq_true _ ▸ enters

theorem whileFuel_leaves {guard : σ → Bool} {body : σ → σ} (measure : σ → Nat)
    (decreases : ∀ state, guard state = true → measure (body state) < measure state)
    {fuel : Nat} {start : σ} (enough : measure start ≤ fuel) :
    guard (whileFuel guard body fuel start) = false :=
  whileFuel_leaves_of (fun _ => True) measure
    (fun state _ enters => ⟨trivial, decreases state enters⟩) trivial enough

/-- What holds at the start and is kept by the rounds holds at every head. -/
theorem Heads.invariant {guard : σ → Bool} {body : σ → σ} {start state : σ}
    (head : Heads guard body start state) (holds : σ → Prop) (first : holds start)
    (round : ∀ state, Heads guard body start state → holds state → guard state = true →
      holds (body state)) : holds state := by
  induction head with
  | first => exact first
  | round before enters ih => exact round _ before ih enters

/-- The loop heads are the iterates of the body up to the first one at which
the guard fails. -/
theorem heads_iff_iterate {guard : σ → Bool} {body : σ → σ} {start state : σ} :
    Heads guard body start state ↔
      ∃ rounds, (∀ round, round < rounds → guard (body^[round] start) = true) ∧
        state = body^[rounds] start := by
  constructor
  · intro head
    induction head with
    | first => exact ⟨0, by simp, rfl⟩
    | round _ enters ih =>
        rcases ih with ⟨rounds, before, rfl⟩
        refine ⟨rounds + 1, ?_, (Function.iterate_succ_apply' body rounds start).symm⟩
        intro round below
        rcases Nat.lt_succ_iff_lt_or_eq.mp below with earlier | rfl
        · exact before round earlier
        · exact enters
  · rintro ⟨rounds, enters, rfl⟩
    induction rounds with
    | zero => exact .first
    | succ rounds ih =>
        rw [Function.iterate_succ_apply']
        exact (ih fun round below => enters round (by omega)).round
          (enters rounds (Nat.lt_succ_self rounds))

/-! ## Scanning for the largest value -/

section Scan

variable (candidate : Nat → Bool) (value : Nat → Nat)

/-- One round of the usual maximum scan: the best value so far starts at `0`
and only a strictly larger one replaces it, with its index. -/
def scanRound (index : Nat) (best : Nat × Nat) : Nat × Nat :=
  if candidate index && decide (best.1 < value index) then (value index, index) else best

/-- The largest positive value of a candidate below `bound` and the first index
that has it; `(0, 0)` when no candidate has a positive value. -/
def scanMax (bound : Nat) : Nat × Nat :=
  forUpTo bound (scanRound candidate value) (0, 0)

/-- What the scan has established after looking at the indices below `bound`. -/
structure ScanMax (bound : Nat) (best : Nat × Nat) : Prop where
  /-- No candidate seen so far is larger. -/
  upper : ∀ index, index < bound → candidate index = true → value index ≤ best.1
  /-- A positive maximum is attained at the reported index, for the first time. -/
  attained : 0 < best.1 → best.2 < bound ∧ candidate best.2 = true ∧
    value best.2 = best.1 ∧
      ∀ index, index < best.2 → candidate index = true → value index < best.1
  /-- Otherwise the index is the initial one. -/
  fallback : best.1 = 0 → best.2 = 0

theorem scanMax_spec (bound : Nat) :
    ScanMax candidate value bound (scanMax candidate value bound) := by
  refine forUpTo_induction (ScanMax candidate value) ?start ?round
  case start => exact ⟨by simp, by simp, fun _ => rfl⟩
  case round =>
    intro index _ best spec
    unfold scanRound
    split
    case isTrue larger =>
      simp only [Bool.and_eq_true, decide_eq_true_eq] at larger
      refine ⟨?_, ?_, ?_⟩
      · intro other below isCandidate
        rcases Nat.lt_succ_iff_lt_or_eq.mp below with earlier | rfl
        · exact Nat.le_trans (spec.upper other earlier isCandidate) (Nat.le_of_lt larger.2)
        · exact Nat.le_refl _
      · intro _
        exact ⟨Nat.lt_succ_self index, larger.1, rfl, fun other below isCandidate =>
          Nat.lt_of_le_of_lt (spec.upper other below isCandidate) larger.2⟩
      · intro zero
        exact absurd larger.2 (by simp_all)
    case isFalse smaller =>
      refine ⟨?_, ?_, spec.fallback⟩
      · intro other below isCandidate
        rcases Nat.lt_succ_iff_lt_or_eq.mp below with earlier | rfl
        · exact spec.upper other earlier isCandidate
        · by_contra exceeds
          exact smaller (by simp [isCandidate]; omega)
      · intro positive
        rcases spec.attained positive with ⟨below, rest⟩
        exact ⟨Nat.lt_succ_of_lt below, rest⟩

/-- The scan falls back to its initial index exactly when no candidate has a
positive value. -/
theorem scanMax_eq_zero_iff (bound : Nat) :
    (scanMax candidate value bound).1 = 0 ↔
      ∀ index, index < bound → candidate index = true → value index = 0 := by
  have spec := scanMax_spec candidate value bound
  constructor
  · intro zero index below isCandidate
    have upper := spec.upper index below isCandidate
    omega
  · intro zeros
    by_contra positive
    rcases spec.attained (by omega) with ⟨below, isCandidate, attains, _⟩
    have zero := zeros _ below isCandidate
    omega

end Scan

end VeltiumCharger.Loop
