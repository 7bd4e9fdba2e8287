import VeltiumCharger.Uart.Receptor

/-!
# Blocks on the line

The reference parser of the line, over the whole of what was received: it scans
for the header, reads type, length and data of a block, and resumes scanning
behind it.  What it cannot complete stays over as the block under way.
-/

namespace VeltiumCharger.Uart

open VeltiumCharger.Buffer

/-- A block: its type and its data. -/
structure Bloque where
  tipo : Nat
  datos : List UInt8
  deriving DecidableEq, Repr

/-- The number of data bytes a length byte announces. -/
def longitud (octeto : UInt8) : Nat :=
  if octeto.toNat = 0 then 256 else octeto.toNat

/-- A length between 1 and 256 is the one its byte announces. -/
theorem longitud_ofNat {n : Nat} (pos : 0 < n) (le : n ≤ 256) : longitud (UInt8.ofNat n) = n := by
  rcases Nat.lt_or_ge n 256 with lt | ge
  · have mod_eq : n % 256 = n := Nat.mod_eq_of_lt lt
    simp only [longitud, UInt8.toNat_ofNat', mod_eq]
    rw [if_neg (by omega)]
  · have eq : n = 256 := by omega
    subst eq
    rfl

/-- A big-endian number of two bytes. -/
def palabra (alto bajo : UInt8) : Nat :=
  256 * alto.toNat + bajo.toNat

theorem palabra_ofNat {tipo : Nat} (lt : tipo < 65536) :
    palabra (UInt8.ofNat (tipo / 256)) (UInt8.ofNat tipo) = tipo := by
  have mod_eq : tipo / 256 % 256 = tipo / 256 := Nat.mod_eq_of_lt (by omega)
  simp only [palabra, UInt8.toNat_ofNat', mod_eq]
  omega

/-- The block whose type, length and data begin the bytes, with the bytes
behind it. -/
def leeBloque : List UInt8 → Option (Bloque × List UInt8)
  | alto :: bajo :: largo :: octetos =>
    if longitud largo ≤ octetos.length then
      some (⟨palabra alto bajo, octetos.take (longitud largo)⟩, octetos.drop (longitud largo))
    else none
  | _ => none

theorem length_leeBloque {octetos : List UInt8} {leido : Bloque × List UInt8}
    (some_eq : leeBloque octetos = some leido) : leido.2.length < octetos.length := by
  unfold leeBloque at some_eq
  split at some_eq
  · split at some_eq
    · cases some_eq
      simp only [List.length_drop, List.length_cons]
      omega
    · cases some_eq
  · cases some_eq

/-- What the bytes behind the first one of a block leave unfinished is the block
itself. -/
theorem leeBloque_append {octetos : List UInt8} {leido : Bloque × List UInt8}
    (some_eq : leeBloque octetos = some leido) (resto : List UInt8) :
    leeBloque (octetos ++ resto) = some (leido.1, leido.2 ++ resto) := by
  unfold leeBloque at some_eq
  split at some_eq
  case h_1 alto bajo largo datos =>
    split at some_eq
    case isTrue fits =>
      cases some_eq
      have fits' : longitud largo ≤ (datos ++ resto).length := by
        rw [List.length_append]
        omega
      simp only [List.cons_append, leeBloque, if_pos fits', List.take_append_of_le_length fits,
        List.drop_append_of_le_length fits]
    case isFalse => cases some_eq
  case h_2 => cases some_eq

/-- The blocks of the line, and the block under way at its end, from its header
on. -/
def analiza (octetos : List UInt8) : List Bloque × List UInt8 :=
  match octetos with
  | [] => ([], [])
  | octeto :: octetos =>
    if octeto = headerRx then
      match some_eq : leeBloque octetos with
      | some leido =>
        have : leido.2.length < octetos.length := length_leeBloque some_eq
        let siguiente := analiza leido.2
        (leido.1 :: siguiente.1, siguiente.2)
      | none => ([], octeto :: octetos)
    else analiza octetos
  termination_by octetos.length

/-- The blocks of the line. -/
def bloques (octetos : List UInt8) : List Bloque :=
  (analiza octetos).1

/-- The block under way at the end of the line. -/
def enCurso (octetos : List UInt8) : List UInt8 :=
  (analiza octetos).2

@[simp]
theorem analiza_nil : analiza [] = ([], []) := by
  rw [analiza]

theorem analiza_otro {octeto : UInt8} (ne : octeto ≠ headerRx) (octetos : List UInt8) :
    analiza (octeto :: octetos) = analiza octetos := by
  rw [analiza, if_neg ne]

theorem analiza_bloque {octetos : List UInt8} {leido : Bloque × List UInt8}
    (some_eq : leeBloque octetos = some leido) :
    analiza (headerRx :: octetos) =
      (leido.1 :: (analiza leido.2).1, (analiza leido.2).2) := by
  rw [analiza, if_pos rfl]
  split
  · rename_i otro otro_eq
    rw [some_eq] at otro_eq
    cases otro_eq
    rfl
  · rename_i none_eq
    rw [some_eq] at none_eq
    cases none_eq

theorem analiza_incompleto {octetos : List UInt8} (none_eq : leeBloque octetos = none) :
    analiza (headerRx :: octetos) = ([], headerRx :: octetos) := by
  rw [analiza, if_pos rfl]
  split
  · rename_i otro otro_eq
    rw [none_eq] at otro_eq
    cases otro_eq
  · rfl

/-- Reading on from the block under way is reading on from the whole line. -/
theorem analiza_append (octetos resto : List UInt8) :
    analiza (octetos ++ resto) =
      (bloques octetos ++ (analiza (enCurso octetos ++ resto)).1,
        (analiza (enCurso octetos ++ resto)).2) := by
  induction octetos using analiza.induct with
  | case1 => simp [bloques, enCurso]
  | case2 octetos leido some_eq _ ih =>
      simp only [List.cons_append, bloques, enCurso, analiza_bloque some_eq,
        analiza_bloque (leeBloque_append some_eq resto), ih]
  | case3 octetos none_eq =>
      simp [bloques, enCurso, analiza_incompleto none_eq]
  | case4 octeto octetos ne ih =>
      simp only [List.cons_append, bloques, enCurso, analiza_otro ne] at ih ⊢
      exact ih

theorem bloques_append (octetos resto : List UInt8) :
    bloques (octetos ++ resto) = bloques octetos ++ bloques (enCurso octetos ++ resto) := by
  simp only [bloques, analiza_append octetos resto]

/-- The block under way is none, or a header with what cannot be read yet. -/
theorem enCurso_incompleto (octetos : List UInt8) :
    enCurso octetos = [] ∨
      ∃ cola, enCurso octetos = headerRx :: cola ∧ leeBloque cola = none := by
  induction octetos using analiza.induct with
  | case1 => simp [enCurso]
  | case2 octetos leido some_eq _ ih =>
      simpa only [enCurso, analiza_bloque some_eq] using ih
  | case3 octetos none_eq =>
      exact .inr ⟨octetos, by simp only [enCurso, analiza_incompleto none_eq], none_eq⟩
  | case4 octeto octetos ne ih => simpa only [enCurso, analiza_otro ne] using ih

/-- The bytes of a block on the line. -/
def Bloque.trama (bloque : Bloque) : List UInt8 :=
  headerRx :: UInt8.ofNat (bloque.tipo / 256) :: UInt8.ofNat bloque.tipo ::
    UInt8.ofNat bloque.datos.length :: bloque.datos

/-- A block the line can carry: a type of 16 bits, and from 1 to 256 data
bytes. -/
structure Bloque.Transmisible (bloque : Bloque) : Prop where
  tipo_lt : bloque.tipo < 65536
  datos_pos : 0 < bloque.datos.length
  datos_le : bloque.datos.length ≤ 256

/-- The parser reads a block back from its bytes. -/
theorem Bloque.Transmisible.analiza_trama {bloque : Bloque} (transmisible : bloque.Transmisible)
    (resto : List UInt8) :
    analiza (bloque.trama ++ resto) = (bloque :: bloques resto, enCurso resto) := by
  have largo_eq := longitud_ofNat transmisible.datos_pos transmisible.datos_le
  have some_eq : leeBloque (UInt8.ofNat (bloque.tipo / 256) :: UInt8.ofNat bloque.tipo ::
      UInt8.ofNat bloque.datos.length :: (bloque.datos ++ resto)) = some (bloque, resto) := by
    simp only [leeBloque, largo_eq, palabra_ofNat transmisible.tipo_lt, List.length_append]
    rw [if_pos (by omega), List.take_left, List.drop_left]
  exact analiza_bloque some_eq

end VeltiumCharger.Uart
