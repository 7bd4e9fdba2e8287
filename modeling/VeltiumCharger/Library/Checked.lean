import VeltiumCharger.Library.Buffer
import VeltiumCharger.Library.Loop

/-!
# Checked accesses

An array has a size, and an access outside it has no result: a program in `Option` that
returns something has read and written inside its arrays only.  Loops are those of
`Loop`, with rounds that may fail.
-/

namespace VeltiumCharger.Checked

open VeltiumCharger.Loop

universe u v

variable {α : Type u} {σ : Type v} {β : Type v}

/-! ## Accesses -/

/-- `len` cells from `start` on are inside an array of `size` cells. -/
abbrev Inside (size start len : Nat) : Prop :=
  len = 0 ∨ start + len ≤ size

/-- Read the cell `i`. -/
def load (size : Nat) (mem : Nat → α) (i : Nat) : Option α :=
  if i < size then some (mem i) else none

/-- Read `len` cells from `start` on. -/
def loadMany (size : Nat) (mem : Nat → α) (start len : Nat) : Option (List α) :=
  if Inside size start len then some ((List.range len).map fun k => mem (start + k)) else none

/-- Write `cells` from `start` on. -/
def store (size start : Nat) (cells : List α) (mem : Nat → α) : Option (Nat → α) :=
  if Inside size start cells.length then some (Buffer.write start cells mem) else none

/-- Write `cells` from `start` on into the array of `size` cells that begins at `base`. -/
def storeAt (base size start : Nat) (cells : List α) (mem : Nat → α) : Option (Nat → α) :=
  if Inside size start cells.length then some (Buffer.write (base + start) cells mem) else none

section Access

variable {base size start len : Nat} {mem : Nat → α} {cells : List α}

theorem load_of_lt {i : Nat} (inside : i < size) : load size mem i = some (mem i) :=
  if_pos inside

theorem store_of_le (inside : start + cells.length ≤ size) :
    store size start cells mem = some (Buffer.write start cells mem) :=
  if_pos (Or.inr inside)

theorem loadMany_zero (inside : len ≤ size) :
    loadMany size mem 0 len = some ((List.range len).map mem) := by
  rw [loadMany, if_pos (Or.inr (by omega))]
  simp only [Nat.zero_add]

/-- What follows a read happens when the read is inside. -/
@[simp]
theorem isSome_load_bind {i : Nat} {next : α → Option β} :
    ((load size mem i).bind next).isSome ↔ i < size ∧ (next (mem i)).isSome := by
  unfold load
  split_ifs with inside
  · exact (and_iff_right inside).symm
  · exact iff_of_false Bool.false_ne_true fun both => inside both.1

theorem load_bind_eq_some_iff {i : Nat} {next : α → Option β} {value : β} :
    (load size mem i).bind next = some value ↔ i < size ∧ next (mem i) = some value := by
  unfold load
  split_ifs with inside
  · exact (and_iff_right inside).symm
  · exact iff_of_false (by simp) fun both => inside both.1

@[simp]
theorem isSome_loadMany_bind {next : List α → Option β} :
    ((loadMany size mem start len).bind next).isSome ↔
      Inside size start len ∧
        (next ((List.range len).map fun k => mem (start + k))).isSome := by
  unfold loadMany
  split_ifs with inside
  · exact (and_iff_right inside).symm
  · exact iff_of_false Bool.false_ne_true fun both => inside both.1

theorem loadMany_bind_eq_some_iff {next : List α → Option β} {value : β} :
    (loadMany size mem start len).bind next = some value ↔
      Inside size start len ∧
        next ((List.range len).map fun k => mem (start + k)) = some value := by
  unfold loadMany
  split_ifs with inside
  · exact (and_iff_right inside).symm
  · exact iff_of_false (by simp) fun both => inside both.1

theorem store_bind_eq_some_iff {next : (Nat → α) → Option β} {value : β} :
    (store size start cells mem).bind next = some value ↔
      Inside size start cells.length ∧ next (Buffer.write start cells mem) = some value := by
  unfold store
  split_ifs with inside
  · exact (and_iff_right inside).symm
  · exact iff_of_false (by simp) fun both => inside both.1

theorem eq_write_of_store {next : Nat → α} (stored : store size start cells mem = some next) :
    next = Buffer.write start cells mem := by
  unfold store at stored
  split_ifs at stored
  exact (Option.some.inj stored).symm

@[simp]
theorem isSome_store : (store size start cells mem).isSome ↔ Inside size start cells.length := by
  unfold store
  split_ifs with inside
  · exact iff_of_true rfl inside
  · exact iff_of_false Bool.false_ne_true inside

@[simp]
theorem isSome_store_bind {next : (Nat → α) → Option β} :
    ((store size start cells mem).bind next).isSome ↔
      Inside size start cells.length ∧ (next (Buffer.write start cells mem)).isSome := by
  unfold store
  split_ifs with inside
  · exact (and_iff_right inside).symm
  · exact iff_of_false Bool.false_ne_true fun both => inside both.1

@[simp]
theorem isSome_storeAt_bind {next : (Nat → α) → Option β} :
    ((storeAt base size start cells mem).bind next).isSome ↔
      Inside size start cells.length ∧
        (next (Buffer.write (base + start) cells mem)).isSome := by
  unfold storeAt
  split_ifs with inside
  · exact (and_iff_right inside).symm
  · exact iff_of_false Bool.false_ne_true fun both => inside both.1

/-- A part, and what depends on no more of its value than is known of it. -/
theorem isSome_bind_iff {γ : Type u} {first : Option γ} {next : γ → Option β} (after : Prop)
    (same : ∀ value, first = some value → ((next value).isSome ↔ after)) :
    (first.bind next).isSome ↔ first.isSome ∧ after := by
  cases first with
  | none => exact iff_of_false Bool.false_ne_true fun both => Bool.false_ne_true both.1
  | some value => exact (same value rfl).trans (and_iff_right rfl).symm

end Access

/-! ## Loops -/

/-- `for (i = 0; i < bound; i++)`, as far as the rounds have results. -/
def tryFor (bound : Nat) (body : Nat → σ → Option σ) (state : σ) : Option σ :=
  match bound with
  | 0 => some state
  | bound + 1 => (tryFor bound body state).bind (body bound)

/-- The same with `break`. -/
def tryForBreak (bound : Nat) (body : Nat → σ → Option (ForInStep σ)) (state : σ) :
    Option (ForInStep σ) :=
  match bound with
  | 0 => some (.yield state)
  | bound + 1 => (tryForBreak bound body state).bind fun
      | .done left => some (.done left)
      | .yield current => body bound current

/-- `while (guard) body`, which has no result if it is not left within `fuel` rounds. -/
def tryWhile (guard : σ → Bool) (body : σ → Option σ) : Nat → σ → Option σ
  | 0, state => if guard state then none else some state
  | fuel + 1, state =>
      if guard state then (body state).bind (tryWhile guard body fuel) else some state

section Loops

variable {bound : Nat} {state : σ}

/-- Invariant rule: rounds that stay inside and keep the invariant. -/
theorem tryFor_induction {body : Nat → σ → Option σ} (invariant : Nat → σ → Prop)
    (start : invariant 0 state)
    (round : ∀ index, index < bound → ∀ current, invariant index current →
      ∃ next, body index current = some next ∧ invariant (index + 1) next) :
    ∃ final, tryFor bound body state = some final ∧ invariant bound final := by
  induction bound with
  | zero => exact ⟨state, rfl, start⟩
  | succ bound ih =>
      obtain ⟨current, same, holds⟩ := ih fun index below => round index (Nat.lt_succ_of_lt below)
      rw [tryFor, same]
      exact round bound (Nat.lt_succ_self bound) current holds

/-- A loop whose rounds stay inside is the loop without the checks. -/
theorem tryFor_eq_some {body : Nat → σ → Option σ} {plain : Nat → σ → σ}
    (invariant : Nat → σ → Prop) (start : invariant 0 state)
    (round : ∀ index, index < bound → ∀ current, invariant index current →
      body index current = some (plain index current) ∧
        invariant (index + 1) (plain index current)) :
    tryFor bound body state = some (forUpTo bound plain state) := by
  obtain ⟨final, same, rfl, -⟩ := @tryFor_induction _ bound state body
    (fun index current => current = forUpTo index plain state ∧ invariant index current)
    ⟨rfl, start⟩ fun index below current ⟨reached, holds⟩ => by
      obtain ⟨next, after⟩ := round index below current holds
      exact ⟨_, next, by rw [forUpTo_succ, reached], after⟩
  exact same

/-- Rounds that stay inside whatever the state is: the loop does when each of them
does. -/
theorem isSome_tryFor_iff {body : Nat → σ → Option σ} (inside : Nat → Prop)
    (same : ∀ index current, (body index current).isSome ↔ inside index) :
    (tryFor bound body state).isSome ↔ ∀ index < bound, inside index := by
  induction bound with
  | zero => exact iff_of_true rfl fun _ below => absurd below (Nat.not_lt_zero _)
  | succ bound ih =>
      rw [tryFor, isSome_bind_iff _ fun current _ => same bound current, ih,
        Nat.forall_lt_succ_right]

/-- What each round keeps, the loop keeps. -/
theorem tryFor_keeps {body : Nat → σ → Option σ} (kept : σ → Prop)
    (round : ∀ index current next, kept current → body index current = some next → kept next)
    (start : kept state) {final : σ} (left : tryFor bound body state = some final) :
    kept final := by
  induction bound generalizing final with
  | zero => exact Option.some.inj left ▸ start
  | succ bound ih =>
      obtain ⟨current, before, last⟩ := Option.bind_eq_some_iff.mp left
      exact round bound current final (ih before) last

/-- A plain loop over results is a checked loop. -/
theorem forUpTo_bind {body : Nat → σ → Option σ} :
    forUpTo bound (fun index result => result.bind (body index)) (some state) =
      tryFor bound body state := by
  induction bound with
  | zero => rfl
  | succ bound ih => rw [forUpTo_succ, ih, tryFor]

/-- Invariant rule for a checked loop with `break`. -/
theorem tryForBreak_induction {body : Nat → σ → Option (ForInStep σ)}
    (invariant left : Nat → σ → Prop) (start : invariant 0 state)
    (round : ∀ index, index < bound → ∀ current, invariant index current →
      (∃ next, body index current = some (.yield next) ∧ invariant (index + 1) next) ∨
        ∃ next, body index current = some (.done next) ∧ left index next) :
    (∃ final, tryForBreak bound body state = some (.yield final) ∧ invariant bound final) ∨
      ∃ final, tryForBreak bound body state = some (.done final) ∧
        ∃ index, index < bound ∧ left index final := by
  induction bound with
  | zero => exact Or.inl ⟨state, rfl, start⟩
  | succ bound ih =>
      rcases ih fun index below => round index (Nat.lt_succ_of_lt below) with
        ⟨current, same, holds⟩ | ⟨final, same, index, below, holds⟩
      · rw [tryForBreak, same]
        exact (round bound (Nat.lt_succ_self bound) current holds).imp_right
          fun ⟨next, broken, holds⟩ => ⟨next, broken, bound, Nat.lt_succ_self bound, holds⟩
      · rw [tryForBreak, same]
        exact Or.inr ⟨final, rfl, index, Nat.lt_succ_of_lt below, holds⟩

/-- Rule for a checked `while` loop: its rounds keep the invariant and make the measure
smaller, so that it ends. -/
theorem tryWhile_induction {guard : σ → Bool} {body : σ → Option σ} (invariant : σ → Prop)
    (measure : σ → Nat)
    (round : ∀ current, invariant current → guard current = true →
      ∃ next, body current = some next ∧ invariant next ∧ measure next < measure current)
    {fuel : Nat} (enough : measure state ≤ fuel) (start : invariant state) :
    ∃ final, tryWhile guard body fuel state = some final ∧ invariant final ∧
      guard final = false := by
  induction fuel generalizing state with
  | zero =>
      have idle : guard state = false := by
        rw [← Bool.not_eq_true]
        intro enters
        obtain ⟨_, _, _, smaller⟩ := round state start enters
        omega
      refine ⟨state, ?_, start, idle⟩
      rw [tryWhile, idle]
      rfl
  | succ fuel ih =>
      rw [tryWhile]
      by_cases enters : guard state = true
      · obtain ⟨next, stepped, holds, smaller⟩ := round state start enters
        rw [if_pos enters, stepped]
        exact ih (by omega) holds
      · rw [if_neg enters]
        exact ⟨state, rfl, start, Bool.not_eq_true _ ▸ enters⟩

end Loops

end VeltiumCharger.Checked
