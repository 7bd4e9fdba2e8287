import Mathlib.Tactic.IntervalCases
import VeltiumCharger.Library.Crc
import VeltiumCharger.Actualizacion.Almacen

/-!
# The checksum of a part

`crc32` of the server works on signed integers: the shift of the register is
arithmetic, its highest bit is cleared afterwards by a mask, and the constants
that do not fit an `int` make the operations on them unsigned.  The result has
its bytes swapped.

Its value is compared with the standard check of the bytes, the remainder of a
division of polynomials, and with the checksum on which the transfers rest.
-/

namespace VeltiumCharger.Actualizacion

open VeltiumCharger.Crc

/-! ## The function -/

namespace Entero

/-- The body of the loop over the bits, on `r` and `b`. -/
def crcBit (rb : Int32 × Int32) : Int32 × Int32 :=
  let (r, b) := rb
  let flag := ((b &&& 1) ^^^ (r &&& 1)) != 0
  let r := r >>> 1
  let r := (r.toUInt32 &&& 0x7FFFFFFF).toInt32
  let r := if flag then (r.toUInt32 ^^^ 0xEDB88320).toInt32 else r
  (r, b >>> 1)

/-- The body of the loop over the bytes. -/
def crcByte (r : Int32) (c : UInt8) : Int32 :=
  let b := c.toUInt32.toInt32
  let b := b &&& 0xFF
  ((List.range 8).foldl (fun rb _ => crcBit rb) (r, b)).1

/-- The bytes of the result, those of `r` in the other order. -/
def intercambiar (r : Int32) : UInt32 :=
  let b0 := (r &&& 0x000000FF) <<< 24
  let b1 := (r &&& 0x0000FF00) <<< 8
  let b2 := (r &&& 0x00FF0000) >>> 8
  let b3 := ((r.toUInt32 &&& 0xFF000000) >>> 24).toInt32
  (b0 ||| b1 ||| b2 ||| b3).toUInt32

/-- `crc32`: the first `n` bytes of `c`. -/
def crc32 (n : Int32) (c : Nat → UInt8) (checksum : Int32) : UInt32 :=
  let r := (List.range n.toNatClampNeg).foldl (fun r i => crcByte r (c i)) checksum
  intercambiar (r.toUInt32 ^^^ 0xFFFFFFFF).toInt32

end Entero

/-! ## The standard check -/

/-- The polynomial of the standard, reflected. -/
def polinomio : BitVec 32 :=
  0xEDB88320

/-- Initial and final value. -/
def unos : BitVec 32 :=
  0xFFFFFFFF

/-- The bits of a message in the order of the standard. -/
def bitsDe (bytes : List UInt8) : List Bool :=
  bytes.flatMap fun byte => lowFirst byte.toBitVec

/-- The standard reflected CRC-32 of a message. -/
def crc32Estandar (bytes : List UInt8) : UInt32 :=
  ⟨shiftIn polinomio unos (bitsDe bytes) ^^^ unos⟩

-- the check value of the standard, for the digits from 1 to 9
example : crc32Estandar [0x31, 0x32, 0x33, 0x34, 0x35, 0x36, 0x37, 0x38, 0x39] = 0xCBF43926 := by
  decide +kernel

/-- The bytes of a word, the lowest first. -/
def bytesDe (x : UInt32) : List UInt8 :=
  [x.toUInt8, (x >>> 8).toUInt8, (x >>> 16).toUInt8, (x >>> 24).toUInt8]

theorem isCheck_crc32Estandar (bytes : List UInt8) :
    IsCheck polinomio unos unos (bitsDe bytes) (crc32Estandar bytes).toBitVec :=
  isCheck_shiftIn polinomio unos unos (bitsDe bytes)

/-! ## The loops -/

theorem and_one {w : Nat} (x : BitVec w) : x &&& 1#w = if x.getLsbD 0 then 1#w else 0#w := by
  rw [BitVec.and_one_eq_setWidth_ofBool_getLsbD]
  apply BitVec.eq_of_toNat_eq
  cases x.getLsbD 0 <;> simp

namespace Entero

theorem and_one_int (x : Int32) : x &&& 1 = if x.toBitVec.getLsbD 0 then 1 else 0 := by
  apply Int32.toBitVec_inj.mp
  refine (and_one x.toBitVec).trans ?_
  cases x.toBitVec.getLsbD 0 <;> rfl

theorem flag_eq (r b : Int32) :
    (((b &&& 1) ^^^ (r &&& 1)) != 0) = (r.toBitVec.getLsbD 0 ^^ b.toBitVec.getLsbD 0) := by
  rw [and_one_int, and_one_int]
  cases r.toBitVec.getLsbD 0 <;> cases b.toBitVec.getLsbD 0 <;> rfl

/-- The mask clears what the arithmetic shift has copied. -/
theorem sshiftRight_and_mask (x : BitVec 32) : x.sshiftRight 1 &&& 0x7FFFFFFF#32 = x >>> 1 := by
  apply BitVec.eq_of_getLsbD_eq
  intro i hi
  have hmask : (0x7FFFFFFF#32).getLsbD i = decide (i < 31) := by
    have htable : ∀ i : Fin 32, (0x7FFFFFFF#32).getLsbD i = decide (i.val < 31) := by decide
    exact htable ⟨i, hi⟩
  rw [BitVec.getLsbD_and, hmask, BitVec.getLsbD_ushiftRight, BitVec.getLsbD_sshiftRight]
  by_cases h31 : i < 31
  · simp [h31, show 1 + i < 32 by omega, show ¬32 ≤ i by omega]
  · simp [h31, BitVec.getLsbD_of_ge x (1 + i) (by omega)]

theorem toBitVec_shiftRight_one (x : Int32) : (x >>> 1).toBitVec = x.toBitVec.sshiftRight 1 :=
  Int32.toBitVec_shiftRight x 1

theorem crcBit_fst (r b : Int32) :
    (crcBit (r, b)).1.toBitVec = step polinomio r.toBitVec (b.toBitVec.getLsbD 0) := by
  have hmask : ((r >>> 1).toUInt32 &&& 0x7FFFFFFF).toInt32.toBitVec = r.toBitVec >>> 1 := by
    rw [UInt32.toBitVec_toInt32, UInt32.toBitVec_and, Int32.toBitVec_toUInt32,
      toBitVec_shiftRight_one]
    exact sshiftRight_and_mask r.toBitVec
  simp only [crcBit, flag_eq, step]
  split
  · rw [UInt32.toBitVec_toInt32, UInt32.toBitVec_xor, Int32.toBitVec_toUInt32, hmask]
    rfl
  · exact hmask

/-- The shift of the byte brings the next bit to the low end. -/
theorem crcBit_snd (r b : Int32) {i : Nat} (hi : i + 1 < 32) :
    (crcBit (r, b)).2.toBitVec.getLsbD i = b.toBitVec.getLsbD (i + 1) := by
  have hshift : (crcBit (r, b)).2.toBitVec = b.toBitVec.sshiftRight 1 :=
    toBitVec_shiftRight_one b
  rw [hshift, BitVec.getLsbD_sshiftRight, Nat.add_comm 1 i]
  simp [hi, show ¬32 ≤ i by omega]

/-- A byte shifted into the register. -/
theorem crcByte_toBitVec (r : Int32) (c : UInt8) :
    (crcByte r c).toBitVec = shiftIn polinomio r.toBitVec (lowFirst c.toBitVec) := by
  have hbits : (List.range 8).map (c.toUInt32.toInt32 &&& 0xFF).toBitVec.getLsbD =
      lowFirst c.toBitVec := by
    apply List.map_congr_left
    intro i hi
    have hmask : (0xFF : BitVec 32).getLsbD i = true := by
      have htable : (List.range 8).all (0xFF : BitVec 32).getLsbD = true := by decide
      exact List.all_eq_true.mp htable i hi
    have hlt : i < 32 := by
      have := List.mem_range.mp hi
      omega
    rw [Int32.toBitVec_and, UInt32.toBitVec_toInt32, UInt8.toBitVec_toUInt32, BitVec.getLsbD_and,
      BitVec.getLsbD_setWidth]
    simp only [hlt, decide_true, Bool.true_and]
    exact (congrArg _ hmask).trans (Bool.and_true _)
  have hloop := shiftIn_of_loop polinomio crcBit Int32.toBitVec Int32.toBitVec
    (fun state => crcBit_fst state.1 state.2) (fun state _ hi => crcBit_snd state.1 state.2 hi)
    (r, c.toUInt32.toInt32 &&& 0xFF) 8 (by decide)
  rw [← hbits]
  exact hloop.1

theorem foldl_crcByte (r : Int32) (bytes : List UInt8) :
    (bytes.foldl crcByte r).toBitVec = shiftIn polinomio r.toBitVec (bitsDe bytes) := by
  induction bytes generalizing r with
  | nil => rfl
  | cons byte bytes inductionHypothesis =>
      rw [List.foldl_cons, inductionHypothesis, crcByte_toBitVec, ← shiftIn_append]
      rfl

/-! ## The exchange of the bytes -/

/-- No shift but the first two moves into the sign bit, so all are logical. -/
theorem toBitVec_intercambiar (r : Int32) :
    (intercambiar r).toBitVec =
      ((r.toBitVec &&& 0x000000FF#32) <<< 24) ||| ((r.toBitVec &&& 0x0000FF00#32) <<< 8) |||
        ((r.toBitVec &&& 0x00FF0000#32) >>> 8) ||| ((r.toBitVec &&& 0xFF000000#32) >>> 24) := by
  have hmsb : (r.toBitVec &&& 0x00FF0000#32).msb = false := by
    rw [BitVec.msb_and]
    exact Bool.and_false _
  have hshift : ((r &&& 0x00FF0000) >>> 8).toBitVec = (r.toBitVec &&& 0x00FF0000#32) >>> 8 :=
    (Int32.toBitVec_shiftRight _ 8).trans (BitVec.sshiftRight_eq_of_msb_false hmsb)
  rw [← hshift]
  rfl

theorem getLsbD_intercambiar (r : Int32) {i : Nat} (hi : i < 32) :
    (intercambiar r).toBitVec.getLsbD i = r.toBitVec.getLsbD (8 * (3 - i / 8) + i % 8) := by
  rw [toBitVec_intercambiar]
  interval_cases i <;> simp

/-- Byte `k` of the result is byte `3 - k` of the register. -/
theorem byte_intercambiar (r : Int32) {k : Nat} (hk : k < 4) :
    ((intercambiar r).toBitVec >>> (8 * k)).setWidth 8 =
      (r.toBitVec >>> (8 * (3 - k))).setWidth 8 := by
  apply BitVec.eq_of_getLsbD_eq
  intro i hi
  have hcociente : (8 * k + i) / 8 = k := by omega
  have hresto : (8 * k + i) % 8 = i := by omega
  simp only [BitVec.getLsbD_setWidth, BitVec.getLsbD_ushiftRight]
  rw [getLsbD_intercambiar r (by omega), hcociente, hresto]

theorem bytesDe_eq (x : UInt32) :
    bytesDe x = (List.range 4).map fun k => ⟨(x.toBitVec >>> (8 * k)).setWidth 8⟩ := by
  simp only [bytesDe, List.range_succ, List.range_zero, List.nil_append, List.cons_append,
    List.map_cons, List.map_nil, Nat.mul_zero, BitVec.ushiftRight_zero]
  rfl

theorem bytesDe_intercambiar (r : Int32) :
    bytesDe (intercambiar r) = (bytesDe r.toUInt32).reverse := by
  have hreverse : (List.range 4).reverse = (List.range 4).map (3 - ·) := by decide
  rw [bytesDe_eq, bytesDe_eq, ← List.map_reverse, hreverse, List.map_map]
  apply List.map_congr_left
  intro k hk
  exact congrArg UInt8.ofBitVec (byte_intercambiar r (List.mem_range.mp hk))

/-! ## The checksum -/

theorem crc32_eq_foldl (n : Int32) (c : Nat → UInt8) (checksum : Int32) :
    crc32 n c checksum = intercambiar
      ((((List.range n.toNatClampNeg).map c).foldl crcByte checksum).toUInt32 ^^^
        0xFFFFFFFF).toInt32 := by
  rw [crc32, List.foldl_map]

/-- The loops leave the standard check in the register, inverted. -/
theorem foldl_crcByte_xor (bytes : List UInt8) :
    (bytes.foldl crcByte (0xFFFFFFFF : UInt32).toInt32).toUInt32 ^^^ 0xFFFFFFFF =
      crc32Estandar bytes := by
  apply UInt32.toBitVec_inj.mp
  rw [UInt32.toBitVec_xor, Int32.toBitVec_toUInt32, foldl_crcByte]
  rfl

/-- For every number of bytes, and whatever they are: the bytes of the result
are those of the standard check in the other order, and that is the remainder of
the division of the message by the polynomial. -/
theorem crc32_bytes (n : Int32) (c : Nat → UInt8) :
    bytesDe (crc32 n c (0xFFFFFFFF : UInt32).toInt32) =
        (bytesDe (crc32Estandar ((List.range n.toNatClampNeg).map c))).reverse ∧
      IsCheck polinomio unos unos (bitsDe ((List.range n.toNatClampNeg).map c))
        (crc32Estandar ((List.range n.toNatClampNeg).map c)).toBitVec := by
  refine ⟨?_, isCheck_crc32Estandar _⟩
  rw [crc32_eq_foldl, foldl_crcByte_xor, bytesDe_intercambiar, UInt32.toUInt32_toInt32]

end Entero

/-! ## The checksum of the transfers -/

theorem flag_eq (r : UInt32) (b : UInt8) :
    (b &&& 1 != (r &&& 1).toUInt8) = (r.toBitVec.getLsbD 0 ^^ b.toBitVec.getLsbD 0) := by
  have hr : r &&& 1 = if r.toBitVec.getLsbD 0 then 1 else 0 := by
    apply UInt32.toBitVec_inj.mp
    refine (and_one r.toBitVec).trans ?_
    cases r.toBitVec.getLsbD 0 <;> rfl
  have hb : b &&& 1 = if b.toBitVec.getLsbD 0 then 1 else 0 := by
    apply UInt8.toBitVec_inj.mp
    refine (and_one b.toBitVec).trans ?_
    cases b.toBitVec.getLsbD 0 <;> rfl
  rw [hr, hb]
  cases r.toBitVec.getLsbD 0 <;> cases b.toBitVec.getLsbD 0 <;> rfl

/-- On unsigned words the mask has nothing to clear. -/
theorem shiftRight_and_mask (r : UInt32) :
    ((r >>> 1) &&& 0x7FFFFFFF).toBitVec = r.toBitVec >>> 1 := by
  have hmask := Entero.sshiftRight_and_mask r.toBitVec
  have hself : (r.toBitVec >>> 1) &&& 0x7FFFFFFF#32 = r.toBitVec >>> 1 := by
    rw [← hmask, BitVec.and_assoc, BitVec.and_self]
  exact hself

theorem crcByte_toBitVec (r : UInt32) (b : UInt8) :
    (crcByte r b).toBitVec = shiftIn polinomio r.toBitVec (lowFirst b.toBitVec) := by
  have hloop := shiftIn_of_loop polinomio
    (fun rb : UInt32 × UInt8 =>
      let flag := rb.2 &&& 1 != (rb.1 &&& 1).toUInt8
      let r := (rb.1 >>> 1) &&& 0x7FFFFFFF
      (if flag then r ^^^ 0xEDB88320 else r, rb.2 >>> 1))
    UInt32.toBitVec UInt8.toBitVec ?_ ?_ (r, b) 8 le_rfl
  · exact hloop.1
  · intro state
    simp only [flag_eq, step]
    split
    · rw [UInt32.toBitVec_xor, shiftRight_and_mask]
      rfl
    · exact shiftRight_and_mask state.1
  · intro state i _
    have hshift : (state.2 >>> 1).toBitVec = state.2.toBitVec >>> 1 := rfl
    rw [hshift, BitVec.getLsbD_ushiftRight, Nat.add_comm 1 i]

theorem foldl_crcByte (r : UInt32) (bytes : List UInt8) :
    (bytes.foldl crcByte r).toBitVec = shiftIn polinomio r.toBitVec (bitsDe bytes) := by
  induction bytes generalizing r with
  | nil => rfl
  | cons byte bytes inductionHypothesis =>
      rw [List.foldl_cons, inductionHypothesis, crcByte_toBitVec, ← shiftIn_append]
      rfl

/-- The checksum of the transfers is the function of the server. -/
theorem crc32_eq (n : Int32) (c : Nat → UInt8) (checksum : Int32) :
    crc32 ((List.range n.toNatClampNeg).map c) checksum.toUInt32 = Entero.crc32 n c checksum := by
  have hregister : ((List.range n.toNatClampNeg).map c).foldl crcByte checksum.toUInt32 =
      (((List.range n.toNatClampNeg).map c).foldl Entero.crcByte checksum).toUInt32 := by
    apply UInt32.toBitVec_inj.mp
    rw [foldl_crcByte, Int32.toBitVec_toUInt32, Int32.toBitVec_toUInt32, Entero.foldl_crcByte]
  apply UInt32.toBitVec_inj.mp
  rw [crc32, Entero.crc32_eq_foldl, hregister, Entero.toBitVec_intercambiar]
  rfl

end VeltiumCharger.Actualizacion
