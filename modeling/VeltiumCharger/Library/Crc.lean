import Mathlib.Algebra.CharP.Two
import Mathlib.Algebra.Polynomial.Div
import Mathlib.Algebra.Polynomial.Monic
import Mathlib.Algebra.Field.ZMod
import Mathlib.Tactic.LinearCombination

/-!
# Reflected cyclic redundancy checks

A register of `w` bits is read as a polynomial over the field of two elements,
its lowest bit as the coefficient of highest degree.  Shifting a message into
the register, the lowest bit of each byte first, divides the polynomial of the
message by the generator, and the register holds the remainder.
-/

namespace VeltiumCharger.Crc

open Polynomial

variable {w : Nat}

/-- The generator is given by its coefficients below `X ^ w`, reflected. -/
def step (poly register : BitVec w) (bit : Bool) : BitVec w :=
  if register.getLsbD 0 ^^ bit then (register >>> 1) ^^^ poly else register >>> 1

/-- The register once the bits have been shifted in. -/
def shiftIn (poly register : BitVec w) (bits : List Bool) : BitVec w :=
  bits.foldl (step poly) register

/-- The bits of a vector, the lowest first. -/
def lowFirst (bits : BitVec w) : List Bool :=
  (List.range w).map bits.getLsbD

@[simp]
theorem shiftIn_nil (poly register : BitVec w) : shiftIn poly register [] = register :=
  rfl

theorem shiftIn_append (poly register : BitVec w) (first second : List Bool) :
    shiftIn poly register (first ++ second) = shiftIn poly (shiftIn poly register first) second :=
  List.foldl_append

/-- A loop that holds the register beside the bits it has yet to take, and moves
these down by one at each turn. -/
theorem shiftIn_of_loop {v : Nat} {ρ : Type*} {β : Type*} (poly : BitVec w)
    (body : ρ × β → ρ × β) (register : ρ → BitVec w) (bits : β → BitVec v)
    (hregister : ∀ state, register (body state).1 =
      step poly (register state.1) ((bits state.2).getLsbD 0))
    (hbits : ∀ state i, i + 1 < v →
      (bits (body state).2).getLsbD i = (bits state.2).getLsbD (i + 1))
    (state : ρ × β) (k : Nat) (hk : k ≤ v) :
    register ((List.range k).foldl (fun state _ => body state) state).1 =
        shiftIn poly (register state.1) ((List.range k).map (bits state.2).getLsbD) ∧
      ∀ i, k + i < v →
        (bits ((List.range k).foldl (fun state _ => body state) state).2).getLsbD i =
          (bits state.2).getLsbD (k + i) := by
  induction k with
  | zero => exact ⟨rfl, fun i _ => by rw [Nat.zero_add]; rfl⟩
  | succ k inductionHypothesis =>
      obtain ⟨hr, hb⟩ := inductionHypothesis (by omega)
      rw [List.range_succ, List.foldl_append, List.map_append, shiftIn_append, ← hr]
      constructor
      · refine (hregister _).trans ?_
        rw [hb 0 (by omega), Nat.add_zero]
        rfl
      · intro i hi
        refine (hbits _ i (by omega)).trans ?_
        rw [hb (i + 1) (by omega), Nat.add_assoc, Nat.add_comm 1 i]

/-! ## Messages folded into the register -/

theorem step_xor (poly first second : BitVec w) (bit bit' : Bool) :
    step poly (first ^^^ second) (bit ^^ bit') = step poly first bit ^^^ step poly second bit' := by
  have hshift : (first ^^^ second) >>> 1 = first >>> 1 ^^^ second >>> 1 := by
    ext i
    simp
  have hcancel : first >>> 1 ^^^ second >>> 1 =
      first >>> 1 ^^^ poly ^^^ (second >>> 1 ^^^ poly) := by
    rw [BitVec.xor_assoc, BitVec.xor_comm poly, BitVec.xor_assoc (second >>> 1), BitVec.xor_self,
      BitVec.xor_zero]
  simp only [step, BitVec.getLsbD_xor, hshift]
  cases first.getLsbD 0 <;> cases second.getLsbD 0 <;> cases bit <;> cases bit' <;>
    simp [← hcancel, BitVec.xor_assoc, BitVec.xor_comm poly]

/-- The register once `count` zeros have been shifted in. -/
def shiftZeros (poly register : BitVec w) (count : Nat) : BitVec w :=
  shiftIn poly register (List.replicate count false)

theorem shiftZeros_succ (poly register : BitVec w) (count : Nat) :
    shiftZeros poly register (count + 1) = step poly (shiftZeros poly register count) false := by
  rw [shiftZeros, List.replicate_succ', shiftIn_append]
  rfl

theorem shiftZeros_xor (poly first second : BitVec w) (count : Nat) :
    shiftZeros poly (first ^^^ second) count =
      shiftZeros poly first count ^^^ shiftZeros poly second count := by
  induction count with
  | zero => rfl
  | succ count inductionHypothesis =>
      rw [shiftZeros_succ, inductionHypothesis, shiftZeros_succ, shiftZeros_succ, ← step_xor,
        Bool.false_xor]

/-- Bits that are zero leave without a trace. -/
theorem shiftZeros_of_low {poly register : BitVec w} {count : Nat}
    (low : ∀ i, i < count → register.getLsbD i = false) :
    shiftZeros poly register count = register >>> count := by
  induction count with
  | zero => rfl
  | succ count inductionHypothesis =>
      rw [shiftZeros_succ, inductionHypothesis fun i below => low i (by omega), step,
        BitVec.getLsbD_ushiftRight, Nat.add_zero, low count (by omega)]
      rw [Bool.xor_self, if_neg Bool.false_ne_true, BitVec.shiftRight_add]

/-- Several zeros at once, by a table of what the lowest bits leave. -/
theorem shiftZeros_eq_table (poly register mask : BitVec w) {count : Nat}
    (hmask : ∀ i, i < w → mask.getLsbD i = decide (i < count)) :
    shiftZeros poly register count =
      register >>> count ^^^ shiftZeros poly (register &&& mask) count := by
  have hsplit : register = (register &&& ~~~mask) ^^^ (register &&& mask) := by
    apply BitVec.eq_of_getLsbD_eq
    intro i hi
    simp only [BitVec.getLsbD_xor, BitVec.getLsbD_and, BitVec.getLsbD_not, hi, decide_true,
      Bool.true_and]
    cases register.getLsbD i <;> cases mask.getLsbD i <;> rfl
  have hlow : ∀ i, i < count → (register &&& ~~~mask).getLsbD i = false := by
    intro i below
    by_cases hi : i < w
    · simp [hmask i hi, below]
    · exact BitVec.getLsbD_of_ge _ i (by omega)
  have hhigh : (register &&& ~~~mask) >>> count = register >>> count := by
    apply BitVec.eq_of_getLsbD_eq
    intro i _
    by_cases hi : count + i < w
    · have hbit : mask.getLsbD (count + i) = false := by
        rw [hmask (count + i) hi, decide_eq_false_iff_not]
        omega
      simp only [BitVec.getLsbD_ushiftRight, BitVec.getLsbD_and, BitVec.getLsbD_not, hi, hbit,
        decide_true, Bool.not_false, Bool.and_true]
    · rw [BitVec.getLsbD_ushiftRight, BitVec.getLsbD_ushiftRight,
        BitVec.getLsbD_of_ge _ _ (by omega), BitVec.getLsbD_of_ge _ _ (by omega)]
  calc
    shiftZeros poly register count =
        shiftZeros poly ((register &&& ~~~mask) ^^^ (register &&& mask)) count := by rw [← hsplit]
    _ = shiftZeros poly (register &&& ~~~mask) count ^^^
        shiftZeros poly (register &&& mask) count := shiftZeros_xor poly _ _ count
    _ = _ := by rw [shiftZeros_of_low hlow, hhigh]

/-- The bits of a vector can be added to the register first, and zeros shifted in. -/
theorem shiftIn_lowFirst {v : Nat} (poly register : BitVec w) (bits : BitVec v) (narrow : v ≤ w) :
    shiftIn poly register (lowFirst bits) =
      shiftZeros poly (register ^^^ bits.setWidth w) v := by
  have htaken : ∀ k, k ≤ v → shiftIn poly register ((List.range k).map bits.getLsbD) =
      shiftZeros poly (register ^^^ bits.setWidth w) k ^^^ bits.setWidth w >>> k := by
    intro k
    induction k with
    | zero =>
        intro _
        change register = register ^^^ bits.setWidth w ^^^ bits.setWidth w
        rw [BitVec.xor_assoc, BitVec.xor_self, BitVec.xor_zero]
    | succ k inductionHypothesis =>
        intro hk
        have hbit : (bits.setWidth w >>> k).getLsbD 0 = bits.getLsbD k := by
          simp [show k < w by omega]
        have hleaves : step poly (bits.setWidth w >>> k) (bits.getLsbD k) =
            bits.setWidth w >>> (k + 1) := by
          rw [step, hbit, Bool.xor_self, if_neg Bool.false_ne_true, BitVec.shiftRight_add]
        rw [List.range_succ, List.map_append, shiftIn_append, inductionHypothesis (by omega),
          shiftZeros_succ, ← hleaves, ← step_xor, Bool.false_xor]
        rfl
  have hgone : bits.setWidth w >>> v = 0#w := by
    apply BitVec.eq_of_getLsbD_eq
    intro i _
    simp
  rw [lowFirst, htaken v le_rfl, hgone, BitVec.xor_zero]

/-! ## Different messages -/

section Different

variable {poly : BitVec w} (odd : poly.getLsbD (w - 1) = true)
include odd

/-- With a constant term in the generator no step loses anything. -/
theorem step_injective (bit : Bool) : Function.Injective (step poly · bit) := by
  intro first second heq
  have hw : 0 < w := by
    by_contra hzero
    rw [BitVec.getLsbD_of_ge poly _ (by omega)] at odd
    exact Bool.false_ne_true odd
  have htop : ∀ register : BitVec w,
      (step poly register bit).getLsbD (w - 1) = (register.getLsbD 0 ^^ bit) := by
    intro register
    have hshift : (register >>> 1).getLsbD (w - 1) = false := by
      rw [BitVec.getLsbD_ushiftRight]
      exact BitVec.getLsbD_of_ge _ _ (by omega)
    rw [step]
    split_ifs with hbit
    · rw [BitVec.getLsbD_xor, hshift, odd, hbit]
      rfl
    · rw [hshift]
      simpa using hbit
  have hlow : first.getLsbD 0 = second.getLsbD 0 := by
    have hbits := (htop first).symm.trans ((congrArg (BitVec.getLsbD · (w - 1)) heq).trans
      (htop second))
    exact Bool.xor_left_inj.mp hbits
  have hshift : first >>> 1 = second >>> 1 := by
    simp only [step, hlow] at heq
    split_ifs at heq
    · exact (BitVec.xor_left_inj poly).mp heq
    · exact heq
  apply BitVec.eq_of_getLsbD_eq
  intro i _
  cases i with
  | zero => exact hlow
  | succ i =>
      have hbit := congrArg (BitVec.getLsbD · i) hshift
      simpa [Nat.add_comm 1 i] using hbit

theorem shiftIn_injective (bits : List Bool) : Function.Injective (shiftIn poly · bits) := by
  intro first second heq
  induction bits generalizing first second with
  | nil => exact heq
  | cons bit bits inductionHypothesis =>
      exact step_injective odd bit (inductionHypothesis heq)

/-- Vectors that leave the same register are equal. -/
theorem lowFirst_injective_of_shiftIn {v : Nat} (narrow : v ≤ w) {register : BitVec w}
    {bits bits' : BitVec v}
    (heq : shiftIn poly register (lowFirst bits) = shiftIn poly register (lowFirst bits')) :
    bits = bits' := by
  rw [shiftIn_lowFirst poly register bits narrow, shiftIn_lowFirst poly register bits' narrow]
    at heq
  have hxor := shiftIn_injective odd _ heq
  have hwide : bits.setWidth w = bits'.setWidth w := (BitVec.xor_right_inj register).mp hxor
  apply BitVec.eq_of_getLsbD_eq
  intro i hi
  have hbit := congrArg (BitVec.getLsbD · i) hwide
  simpa [show i < w by omega] using hbit

end Different
/-! ## Registers as polynomials -/

/-- A bit as an element of the field. -/
def coefficient (bit : Bool) : ZMod 2 :=
  if bit then 1 else 0

@[simp]
theorem coefficient_true : coefficient true = 1 :=
  rfl

@[simp]
theorem coefficient_false : coefficient false = 0 :=
  rfl

theorem coefficient_xor (first second : Bool) :
    coefficient (first ^^ second) = coefficient first + coefficient second := by
  cases first <;> cases second <;> rfl

theorem coefficient_injective : Function.Injective coefficient := by
  unfold Function.Injective
  decide

/-- The highest bit is the constant term. -/
noncomputable def toPoly (register : BitVec w) : (ZMod 2)[X] :=
  ∑ i ∈ Finset.range w, monomial i (coefficient (register.getMsbD i))

@[simp]
theorem coeff_toPoly (register : BitVec w) (k : Nat) :
    (toPoly register).coeff k = coefficient (register.getMsbD k) := by
  simp only [toPoly, finsetSum_coeff, coeff_monomial, Finset.sum_ite_eq', Finset.mem_range]
  split
  · rfl
  · rw [BitVec.getMsbD_of_ge register k (by omega), coefficient_false]

theorem toPoly_xor (first second : BitVec w) :
    toPoly (first ^^^ second) = toPoly first + toPoly second := by
  ext k
  simp [coefficient_xor]

theorem degree_toPoly_lt (register : BitVec w) : (toPoly register).degree < w := by
  rw [degree_lt_iff_coeff_zero]
  intro k hk
  rw [coeff_toPoly, BitVec.getMsbD_of_ge register k hk, coefficient_false]

theorem toPoly_injective : Function.Injective (toPoly : BitVec w → (ZMod 2)[X]) := by
  intro first second heq
  apply BitVec.eq_of_getMsbD_eq
  intro i _
  apply coefficient_injective
  rw [← coeff_toPoly, ← coeff_toPoly, heq]

/-- `X ^ w` and the coefficients below. -/
noncomputable def generator (poly : BitVec w) : (ZMod 2)[X] :=
  X ^ w + toPoly poly

theorem generator_monic (poly : BitVec w) : (generator poly).Monic :=
  monic_X_pow_add (degree_toPoly_lt poly)

theorem degree_generator (poly : BitVec w) : (generator poly).degree = w := by
  rw [generator, degree_add_eq_left_of_degree_lt] <;> rw [degree_X_pow]
  exact degree_toPoly_lt poly

/-! ## Shifting -/

/-- A shift multiplies by `X`, but for the bit that leaves the register. -/
theorem toPoly_shiftRight (register : BitVec w) :
    X * toPoly register =
      toPoly (register >>> 1) + C (coefficient (register.getLsbD 0)) * X ^ w := by
  ext k
  cases k with
  | zero =>
      cases w with
      | zero => simp [BitVec.getLsbD_of_ge]
      | succ w => simp
  | succ k =>
      rw [coeff_X_mul, coeff_add, coeff_C_mul_X_pow, coeff_toPoly, coeff_toPoly,
        BitVec.getMsbD_ushiftRight]
      rcases Nat.lt_trichotomy (k + 1) w with hlt | heq | hgt
      · simp [hlt, hlt.ne]
      · subst heq
        simp [BitVec.getMsbD]
      · simp [BitVec.getMsbD_of_ge register k (by omega), hgt.ne', Nat.not_lt.mpr hgt.le]

/-- One bit shifted in, with what it subtracts of the generator. -/
theorem toPoly_step (poly register : BitVec w) (bit : Bool) :
    toPoly (step poly register bit) +
        C (coefficient (register.getLsbD 0 ^^ bit)) * generator poly =
      X * toPoly register + C (coefficient bit) * X ^ w := by
  rw [toPoly_shiftRight, generator, step]
  cases register.getLsbD 0 <;> cases bit
  · simp
  · simp only [Bool.false_xor, if_true, toPoly_xor, coefficient_true, coefficient_false, map_one,
      map_zero, one_mul, zero_mul, add_zero]
    linear_combination CharTwo.add_self_eq_zero (toPoly poly)
  · simp only [Bool.xor_false, if_true, toPoly_xor, coefficient_true, coefficient_false, map_one,
      map_zero, one_mul, zero_mul, add_zero]
    linear_combination CharTwo.add_self_eq_zero (toPoly poly)
  · simp only [Bool.xor_self, Bool.false_eq_true, if_false, coefficient_true, coefficient_false,
      map_one, map_zero, one_mul, zero_mul, add_zero]
    linear_combination -CharTwo.add_self_eq_zero (X ^ w : (ZMod 2)[X])

/-! ## The remainder -/

/-- The first bit of a message is its coefficient of highest degree. -/
noncomputable def message : List Bool → (ZMod 2)[X]
  | [] => 0
  | bit :: bits => C (coefficient bit) * X ^ bits.length + message bits

/-- What is divided: the initial value of the register, then the message, then
`w` zeros. -/
noncomputable def dividend (initial : BitVec w) (bits : List Bool) : (ZMod 2)[X] :=
  X ^ bits.length * toPoly initial + X ^ w * message bits

/-- `value` is the check of the bits: the remainder, masked by `final`. -/
def IsCheck (poly initial final : BitVec w) (bits : List Bool) (value : BitVec w) : Prop :=
  toPoly (value ^^^ final) = dividend initial bits %ₘ generator poly

theorem toPoly_shiftIn (poly register : BitVec w) (bits : List Bool) :
    ∃ quotient, toPoly (shiftIn poly register bits) + generator poly * quotient =
      dividend register bits := by
  induction bits generalizing register with
  | nil => exact ⟨0, by simp [dividend, message]⟩
  | cons bit bits inductionHypothesis =>
      obtain ⟨quotient, hquotient⟩ := inductionHypothesis (step poly register bit)
      have hstep := toPoly_step poly register bit
      refine ⟨quotient + X ^ bits.length * C (coefficient (register.getLsbD 0 ^^ bit)), ?_⟩
      simp only [dividend, message, List.length_cons] at hquotient ⊢
      rw [shiftIn, List.foldl_cons, ← shiftIn]
      linear_combination hquotient + X ^ bits.length * hstep

/-- The register holds the remainder of the division by the generator. -/
theorem toPoly_shiftIn_eq_mod (poly register : BitVec w) (bits : List Bool) :
    toPoly (shiftIn poly register bits) = dividend register bits %ₘ generator poly := by
  obtain ⟨quotient, hquotient⟩ := toPoly_shiftIn poly register bits
  have hdegree : (toPoly (shiftIn poly register bits)).degree < (generator poly).degree := by
    rw [degree_generator]
    exact degree_toPoly_lt _
  exact ((div_modByMonic_unique quotient _ (generator_monic poly) ⟨hquotient, hdegree⟩).2).symm

theorem isCheck_shiftIn (poly initial final : BitVec w) (bits : List Bool) :
    IsCheck poly initial final bits (shiftIn poly initial bits ^^^ final) := by
  rw [IsCheck, BitVec.xor_assoc, BitVec.xor_self, BitVec.xor_zero]
  exact toPoly_shiftIn_eq_mod poly initial bits

/-- A message has one check. -/
theorem IsCheck.eq {poly initial final value value' : BitVec w} {bits : List Bool}
    (hvalue : IsCheck poly initial final bits value)
    (hvalue' : IsCheck poly initial final bits value') : value = value' := by
  have heq : value ^^^ final = value' ^^^ final := toPoly_injective (hvalue.trans hvalue'.symm)
  exact (BitVec.xor_left_inj final).mp heq

end VeltiumCharger.Crc
