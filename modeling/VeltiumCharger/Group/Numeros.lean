import VeltiumCharger.Group.NewGroup
import VeltiumCharger.Library.Buffer

/-!
# Numbers in the lists

The encoders write the number of chargers in two digits and the byte of each in
three or as it is; `atoi` reads them back from arrays without a terminator.
-/

namespace VeltiumCharger.Group

open VeltiumCharger.Buffer

/-- `"%i"` of a `char`, which has no sign on the target. -/
def decimal (value : UInt8) : List UInt8 :=
  (Nat.toDigits 10 value.toNat).map Char.toUInt8

/-- The byte of a charger in three digits. -/
def textoValor (value : UInt8) : List UInt8 :=
  if value < 10 then '0'.toUInt8 :: '0'.toUInt8 :: decimal value
  else if value < 100 then '0'.toUInt8 :: decimal value
  else decimal value

/-- What follows a text does not go on with a digit. -/
def SinDigito (resto : List UInt8) : Prop :=
  ∀ c ∈ resto.head?, ¬ ('0'.toUInt8 ≤ c ∧ c ≤ '9'.toUInt8)

section Numeros

variable {cs : List Char} {resto : List UInt8}

theorem toNat_toUInt8_of_isDigit {c : Char} (digit : c.isDigit = true) :
    c.toUInt8.toNat = c.toNat ∧ 48 ≤ c.toNat ∧ c.toNat ≤ 57 := by
  have bounds : 48 ≤ c.toNat ∧ c.toNat ≤ 57 := by
    simpa [Char.isDigit, UInt32.le_iff_toNat_le] using digit
  refine ⟨?_, bounds⟩
  have size : c.toUInt8.toNat = c.toNat % 256 := rfl
  rw [size, Nat.mod_eq_of_lt (by omega)]

theorem digitos_of_sinDigito (leido : Nat) (sin : SinDigito resto) :
    digitos leido resto = leido := by
  cases resto with
  | nil => rfl
  | cons c resto => rw [digitos, if_neg (sin c rfl)]

/-- Reading the digits of a text and stopping behind them. -/
theorem digitos_append (leido : Nat) (digits : ∀ c ∈ cs, c.isDigit = true)
    (sin : SinDigito resto) :
    digitos leido (cs.map Char.toUInt8 ++ resto) = Nat.ofDigitChars 10 cs leido := by
  induction cs generalizing leido with
  | nil => rw [List.map_nil, List.nil_append, digitos_of_sinDigito leido sin, Nat.ofDigitChars_nil]
  | cons c cs ih =>
      rcases toNat_toUInt8_of_isDigit (digits c List.mem_cons_self) with ⟨same, low, high⟩
      have isDigit : '0'.toUInt8 ≤ c.toUInt8 ∧ c.toUInt8 ≤ '9'.toUInt8 := by
        rw [UInt8.le_iff_toNat_le, UInt8.le_iff_toNat_le, same]
        exact ⟨low, high⟩
      rw [List.map_cons, List.cons_append, digitos, if_pos isDigit,
        ih _ fun d member => digits d (List.mem_cons_of_mem c member), same,
        Nat.ofDigitChars_cons]

/-- `atoi` of a text of digits. -/
theorem atoi_append (digits : ∀ c ∈ cs, c.isDigit = true) (nonempty : cs ≠ [])
    (sin : SinDigito resto) :
    atoi (cs.map Char.toUInt8 ++ resto) = Nat.ofDigitChars 10 cs 0 := by
  cases cs with
  | nil => exact absurd rfl nonempty
  | cons c cs =>
      rcases toNat_toUInt8_of_isDigit (digits c List.mem_cons_self) with ⟨same, low, high⟩
      have above : ∀ d : UInt8, d.toNat < 48 → c.toUInt8 ≠ d := by
        rintro _ small rfl
        omega
      have visible : ¬ esEspacio c.toUInt8 = true := by
        simp only [esEspacio, Bool.or_eq_true, beq_iff_eq, Bool.and_eq_true, decide_eq_true_eq,
          UInt8.le_iff_toNat_le, not_or, not_and]
        refine ⟨above 32 (by decide), fun _ => ?_⟩
        have thirteen : (13 : UInt8).toNat = 13 := rfl
        omega
      have number := digitos_append 0 digits sin
      rw [List.map_cons, List.cons_append] at number ⊢
      rw [atoi, List.dropWhile_cons_of_neg visible]
      dsimp only
      rw [if_neg (above _ (by decide)), if_neg (above _ (by decide)), number]

theorem zero_notMem_map (digits : ∀ c ∈ cs, c.isDigit = true) :
    (0 : UInt8) ∉ cs.map Char.toUInt8 := by
  intro member
  rcases List.mem_map.mp member with ⟨c, among, zero⟩
  rcases toNat_toUInt8_of_isDigit (digits c among) with ⟨same, low, _⟩
  rw [zero] at same
  have none : (0 : UInt8).toNat = 0 := rfl
  omega

/-- A number behind zeros. -/
def rellenado (ceros n : Nat) : List Char :=
  List.replicate ceros '0' ++ Nat.toDigits 10 n

theorem isDigit_rellenado (ceros n : Nat) : ∀ c ∈ rellenado ceros n, c.isDigit = true := by
  intro c member
  rcases List.mem_append.mp member with zero | digit
  · rw [List.eq_of_mem_replicate zero]
    rfl
  · exact Nat.isDigit_of_mem_toDigits (by decide) (by decide) digit

theorem atoi_rellenado (ceros n : Nat) (sin : SinDigito resto) :
    atoi ((rellenado ceros n).map Char.toUInt8 ++ resto) = n := by
  rw [atoi_append (isDigit_rellenado ceros n) (by simp [rellenado]) sin, rellenado,
    Nat.ofDigitChars_append, Nat.ofDigitChars_replicate_zero, Nat.mul_zero,
    Nat.ofDigitChars_ten_toDigits]

theorem length_toDigits_eq {n k : Nat} (low : 10 ^ k ≤ n) (high : n < 10 ^ (k + 1)) :
    (Nat.toDigits 10 n).length = k + 1 := by
  have atMost := (Nat.length_toDigits_le_iff (by decide) (Nat.succ_pos k)).mpr high
  rcases Nat.eq_zero_or_pos k with rfl | positive
  · exact Nat.le_antisymm atMost Nat.length_toDigits_pos
  · have notShorter : ¬ (Nat.toDigits 10 n).length ≤ k := by
      rw [Nat.length_toDigits_le_iff (by decide) positive]
      exact Nat.not_lt_of_le low
    omega

/-- The two digits of a number of chargers. -/
theorem textoNumero_eq {n : Nat} (small : n < 100) :
    ∃ ceros, textoNumero (UInt8.ofNat n) = (rellenado ceros n).map Char.toUInt8 ∧
      (textoNumero (UInt8.ofNat n)).length = 2 := by
  have same : (UInt8.ofNat n).toNat = n := by
    rw [UInt8.toNat_ofNat']
    omega
  unfold textoNumero
  rw [same]
  split_ifs with below
  · have low : n < 10 := same ▸ UInt8.lt_iff_toNat_lt.mp below
    exact ⟨1, rfl, by simp [Nat.toDigits_of_lt_base low]⟩
  · have high : 10 ≤ n := same ▸ UInt8.le_iff_toNat_le.mp (UInt8.not_lt.mp below)
    exact ⟨0, rfl, by rw [List.length_map, length_toDigits_eq (k := 1) high small]⟩

theorem length_textoNumero {n : Nat} (small : n < 100) :
    (textoNumero (UInt8.ofNat n)).length = 2 := by
  rcases textoNumero_eq small with ⟨_, _, two⟩
  exact two

/-- The three digits of the byte of a charger. -/
theorem textoValor_eq (value : UInt8) :
    ∃ ceros, textoValor value = (rellenado ceros value.toNat).map Char.toUInt8 ∧
      (textoValor value).length = 3 := by
  have size := value.toNat_lt
  unfold textoValor decimal
  split_ifs with units tens
  · have low : value.toNat < 10 := UInt8.lt_iff_toNat_lt.mp units
    exact ⟨2, rfl, by simp [Nat.toDigits_of_lt_base low]⟩
  · have low : 10 ≤ value.toNat := UInt8.le_iff_toNat_le.mp (UInt8.not_lt.mp units)
    have high : value.toNat < 100 := UInt8.lt_iff_toNat_lt.mp tens
    exact ⟨1, rfl, by rw [List.length_cons, List.length_map, length_toDigits_eq (k := 1) low high]⟩
  · have low : 100 ≤ value.toNat := UInt8.le_iff_toNat_le.mp (UInt8.not_lt.mp tens)
    exact ⟨0, rfl, by rw [List.length_map, length_toDigits_eq (k := 2) low (by omega)]⟩

end Numeros

/-- `sprintf` of a number: its text and the terminator. -/
def sprintf (start : Nat) (texto : List UInt8) (buffer : Nat → UInt8) : Nat → UInt8 :=
  write start (texto ++ [0]) buffer

theorem begins_sprintf {buffer : Nat → UInt8} {texto more : List UInt8}
    (begins : Begins buffer texto) {start : Nat} (here : start = texto.length) :
    Begins (sprintf start more buffer) (texto ++ more ++ [0]) := by
  rw [here, List.append_assoc]
  exact begins.write (more ++ [0])

theorem toNat_ofInt_natCast {n : Nat} (small : n < 256) : (UInt8.ofInt (n : Int)).toNat = n := by
  have same : UInt8.ofInt (n : Int) = UInt8.ofNat n := by
    unfold UInt8.ofInt
    congr 1
    omega
  rw [same, UInt8.toNat_ofNat']
  exact Nat.mod_eq_of_lt small

/-- The number that `atoi` reads, as a `uint8_t`, from the two digits of `n` in an
array without terminator, when `pila` follows it. -/
def limiteLeido (pila : List UInt8) (n : Nat) : Nat :=
  (UInt8.ofInt (atoi (textoNumero (UInt8.ofNat n) ++ pila))).toNat

/-- Where no digit follows, the number is the one written. -/
theorem limiteLeido_of_sinDigito {pila : List UInt8} {n : Nat} (small : n < 100)
    (sin : SinDigito pila) : limiteLeido pila n = n := by
  rcases textoNumero_eq small with ⟨ceros, digits, _⟩
  rw [limiteLeido, digits, atoi_rellenado ceros n sin, toNat_ofInt_natCast (by omega)]

/-- A name is read from the first eight bytes of its record. -/
theorem nombre_leido {name : Name} {resto : List UInt8} {byte : Nat → UInt8}
    (cells : ∀ j, j < 8 → (List.ofFn name ++ resto)[j]? = some (byte j)) :
    (fun j : Fin 8 => byte j) = name := by
  funext j
  have cell := cells j j.isLt
  rw [List.getElem?_append_left (by simp), List.getElem?_ofFn, dif_pos j.isLt] at cell
  exact (Option.some.inj cell).symm

end VeltiumCharger.Group
