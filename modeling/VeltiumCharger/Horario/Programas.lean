import VeltiumCharger.Bloques.Procesar
import VeltiumCharger.Library.Checked
import VeltiumCharger.Library.LastWrite

/-!
# The matrix of the programs

The database holds a list of programs of six bytes: whether it is active, its days, its
first and last hour and its power.  `CreateMatrix` writes a program into the schedule
matrix, of one byte for each hour of the week, over the programs before it.
-/

namespace VeltiumCharger.Horario

open VeltiumCharger.Bloques.Control (cifraHex)
open VeltiumCharger.Buffer VeltiumCharger.Checked VeltiumCharger.LastWrite

/-! ## The source -/

/-- A program, as it is decoded. -/
abbrev Programa := Vector UInt8 6

/-- The hours of the week. -/
def sizeMatrix : Nat := 168

/-- `hex2int` -/
def hex2int (ch : UInt8) : UInt8 :=
  if '0'.toUInt8 ≤ ch ∧ ch ≤ '9'.toUInt8 then ch - '0'.toUInt8
  else if 'A'.toUInt8 ≤ ch ∧ ch ≤ 'F'.toUInt8 then ch - 'A'.toUInt8 + 10
  else if 'a'.toUInt8 ≤ ch ∧ ch ≤ 'f'.toUInt8 then ch - 'a'.toUInt8 + 10
  else 255

/-- `deltaprogram` -/
def deltaprogram (s e : UInt8) : UInt8 :=
  let d : Int := e.toNat - s.toNat
  UInt8.ofInt (if d ≤ 0 then d + 24 else d)

/-- `hexChar_To_uint16_t`: the byte is printed and read again. -/
def hexCharToUint16 (num : UInt8) : UInt16 :=
  (hex2int (cifraHex (num >>> 4))).toUInt16 * 0x10 +
    (hex2int (cifraHex (num &&& 0x0F))).toUInt16

/-- `Hex_Array_To_Uint16A_Array` -/
def hexArrayToUint16Array (inBuff : Programa) : Vector UInt16 6 :=
  inBuff.map hexCharToUint16

/-- `for (uint8_t hora = init; hora < fin; hora++)` -/
def ponerHoras (power init fin : UInt8) (sch : Nat → UInt8) : Option (Nat → UInt8) :=
  (tryWhile (fun l : UInt8 × (Nat → UInt8) => l.1 < fin)
    (fun l => (store sizeMatrix ((l.1.toNat + 24) % 168) [power] l.2).map fun sch => (l.1 + 1, sch))
    256 (init, sch)).map Prod.snd

/-- The body of `for (uint8_t dia = 0; dia < 7; dia++)`. -/
def ponerDia (inBuff : Vector UInt16 6) (power : UInt8) (dia : Nat) (sch : Nat → UInt8) :
    Option (Nat → UInt8) :=
  let dias := inBuff[1].toUInt8
  let mask := (1 : UInt8) <<< dia.toUInt8
  if mask &&& dias ≠ 0 then
    let init := UInt8.ofNat (dia * 24 + inBuff[2].toNat)
    let fin := init + deltaprogram inBuff[2].toUInt8 inBuff[3].toUInt8
    ponerHoras power init fin sch
  else some sch

/-- `CreateMatrix`: what it returns, and the matrix. -/
def createMatrix (inBuff : Vector UInt16 6) (outBuff : Nat → UInt8) :
    Option (UInt8 × (Nat → UInt8)) := do
  let copy ← loadMany sizeMatrix outBuff 0 sizeMatrix
  let sch ← store sizeMatrix 0 copy fun _ => 0
  if inBuff[0] ≠ 1 then return (1, outBuff)
  let power := UInt8.ofNat ((inBuff[4].toNat * 0x100 + inBuff[5].toNat) / 100)
  let sch ← tryFor 7 (ponerDia inBuff power) sch
  let copy ← loadMany sizeMatrix sch 0 sizeMatrix
  let outBuff ← store sizeMatrix 0 copy outBuff
  return (0, outBuff)

/-- One program of `ReadFirebaseShedule`: `alguna_activa` and `plainMatrix`. -/
def ponerPrograma (lectura : Bool × (Nat → UInt8)) (programa : Programa) :
    Option (Bool × (Nat → UInt8)) :=
  (createMatrix (hexArrayToUint16Array programa) lectura.2).map fun creada =>
    (lectura.1 || creada.1 == 0, creada.2)

/-- The loop of `ReadFirebaseShedule`. -/
def ponerProgramas (programas : List Programa) : Option (Bool × (Nat → UInt8)) :=
  programas.foldlM ponerPrograma (false, fun _ => 0)

/-! ## What a program says -/

namespace Programa

variable (p : Programa)

/-- The hours that it lasts. -/
def duracion : Nat :=
  if p[2].toNat < p[3].toNat then p[3].toNat - p[2].toNat else p[3].toNat + 24 - p[2].toNat

/-- It covers an hour of the week: `slot` is the place of an hour of one of its days. -/
def Cubre (slot : Nat) : Prop :=
  ∃ d < 7, p[1].toNat.testBit d = true ∧
    ∃ h < p[2].toNat + p.duracion, p[2].toNat ≤ h ∧ (24 * (d + 1) + h) % 168 = slot

instance (slot : Nat) : Decidable (p.Cubre slot) :=
  inferInstanceAs (Decidable (∃ d < 7, _))

/-- The power, in hundreds. -/
def potencia : UInt8 :=
  UInt8.ofNat ((p[4].toNat * 256 + p[5].toNat) / 100)

/-- It starts and ends at an hour of the day. -/
def Horas : Prop :=
  p[2].toNat < 24 ∧ p[3].toNat < 24

end Programa

/-- The last active program that covers the hour. -/
def programaDe (programas : List Programa) (slot : Nat) : Option Programa :=
  (programas.filter fun p => p[0] == 1 && decide (p.Cubre slot)).getLast?

/-- The power of an hour of the week. -/
def potenciaDe (programas : List Programa) (slot : Nat) : UInt8 :=
  ((programaDe programas slot).map Programa.potencia).getD 0

/-! ## Bytes -/

/-- A printed byte is read back. -/
theorem hexCharToUint16_eq (num : UInt8) : hexCharToUint16 num = num.toUInt16 := by
  have all : ∀ n : Fin 256, hexCharToUint16 (UInt8.ofNat n) = (UInt8.ofNat n).toUInt16 := by
    decide +kernel
  have this := all ⟨num.toNat, num.toNat_lt⟩
  rwa [UInt8.ofNat_toNat] at this

theorem getElem_hexArray (p : Programa) (i : Nat) (bound : i < 6) :
    (hexArrayToUint16Array p)[i] = p[i].toUInt16 := by
  rw [hexArrayToUint16Array, Vector.getElem_map, hexCharToUint16_eq]

/-- The mask of a day is its bit. -/
theorem mask_ne_zero_iff (dias : UInt8) {dia : Nat} (bound : dia < 7) :
    (1 : UInt8) <<< dia.toUInt8 &&& dias ≠ 0 ↔ dias.toNat.testBit dia = true := by
  have all : ∀ d : Fin 7, ∀ n : Fin 256,
      ((1 : UInt8) <<< d.val.toUInt8 &&& UInt8.ofNat n ≠ 0 ↔
        (UInt8.ofNat n).toNat.testBit d.val = true) := by
    decide +kernel
  have this := all ⟨dia, bound⟩ ⟨dias.toNat, dias.toNat_lt⟩
  rwa [UInt8.ofNat_toNat] at this

/-! ## A program -/

section Programa

variable {power : UInt8} {sch : Nat → UInt8}

/-- The loop over the hours ends, inside the matrix, with the hours written. -/
theorem ponerHoras_eq (init fin : UInt8) :
    ∃ final, ponerHoras power init fin sch = some final ∧ ∀ slot, final slot =
      if ∃ h < fin.toNat, init.toNat ≤ h ∧ (h + 24) % 168 = slot then power else sch slot := by
  have rounds := @tryWhile_induction _ (init, sch)
    (fun l : UInt8 × (Nat → UInt8) => l.1 < fin)
    (fun l => (store sizeMatrix ((l.1.toNat + 24) % 168) [power] l.2).map fun sch => (l.1 + 1, sch))
    (fun l => init.toNat ≤ l.1.toNat ∧ (l.1.toNat ≤ fin.toNat ∨ l.1 = init) ∧ ∀ slot, l.2 slot =
      if ∃ h < l.1.toNat, init.toNat ≤ h ∧ (h + 24) % 168 = slot then power else sch slot)
    (fun l => fin.toNat - l.1.toNat) ?round 256 (by have := fin.toNat_lt; omega) ?start
  case start =>
    refine ⟨le_rfl, Or.inr rfl, fun slot => (if_neg ?_).symm⟩
    rintro ⟨h, below, above, -⟩
    exact absurd below (Nat.not_lt_of_le above)
  case round =>
    rintro ⟨hora, matrix⟩ ⟨above, -, written⟩ enters
    dsimp only at above written
    have below : hora.toNat < fin.toNat := UInt8.lt_iff_toNat_lt.mp (of_decide_eq_true enters)
    have next : (hora + 1).toNat = hora.toNat + 1 := by
      have bound := fin.toNat_lt
      rw [UInt8.toNat_add, UInt8.toNat_one]
      omega
    have inside : (hora.toNat + 24) % 168 < 168 := Nat.mod_lt _ (by decide)
    refine ⟨(hora + 1, write ((hora.toNat + 24) % 168) [power] matrix),
      congrArg (Option.map _) (store_of_le (Nat.succ_le_of_lt inside)), ⟨?_, ?_, ?_⟩, ?_⟩
    · exact above.trans (next ▸ Nat.le_succ _)
    · exact Or.inl (next ▸ below)
    · intro slot
      dsimp only
      rw [write_singleton]
      by_cases last : slot = (hora.toNat + 24) % 168
      · rw [if_pos last, if_pos ⟨hora.toNat, by omega, above, last.symm⟩]
      · rw [if_neg last, written]
        refine if_congr ?_ rfl rfl
        rw [next, Nat.exists_lt_succ_right]
        exact (or_iff_left fun both => last both.2.symm).symm
    · dsimp only
      omega
  obtain ⟨⟨hora, final⟩, same, ⟨above, last, written⟩, leaves⟩ := rounds
  dsimp only at above last written
  have left : fin.toNat ≤ hora.toNat :=
    Nat.le_of_not_lt fun below => of_decide_eq_false leaves (UInt8.lt_iff_toNat_lt.mpr below)
  refine ⟨final, congrArg (Option.map Prod.snd) same, fun slot => ?_⟩
  rw [written]
  refine if_congr (exists_congr fun h => ?_) rfl rfl
  rcases last with last | first
  · rw [Nat.le_antisymm last left]
  · -- no hour is written
    rw [first] at left ⊢
    exact and_congr_left fun later => by omega

/-- A day writes its hours, and those of the next day behind them. -/
theorem ponerDia_eq (inBuff : Vector UInt16 6) {dia : Nat} (bound : dia < 7) :
    let init := UInt8.ofNat (dia * 24 + inBuff[2].toNat)
    let fin := init + deltaprogram inBuff[2].toUInt8 inBuff[3].toUInt8
    ∃ final, ponerDia inBuff power dia sch = some final ∧ ∀ slot, final slot =
      if inBuff[1].toUInt8.toNat.testBit dia = true ∧
        ∃ h < fin.toNat, init.toNat ≤ h ∧ (h + 24) % 168 = slot then power else sch slot := by
  intro init fin
  unfold ponerDia
  dsimp only
  by_cases day : inBuff[1].toUInt8.toNat.testBit dia = true
  · obtain ⟨final, same, written⟩ := @ponerHoras_eq power sch init fin
    refine ⟨final, (if_pos ((mask_ne_zero_iff _ bound).mpr day)).trans same, fun slot => ?_⟩
    rw [written]
    exact if_congr (and_iff_right day).symm rfl rfl
  · refine ⟨sch, if_neg fun mask => day ((mask_ne_zero_iff _ bound).mp mask), fun slot => ?_⟩
    rw [if_neg fun both => day both.1]

/-- An hour is written by one of the days. -/
def Escrita (inBuff : Vector UInt16 6) (dias slot : Nat) : Prop :=
  ∃ d < dias, inBuff[1].toUInt8.toNat.testBit d = true ∧
    ∃ h < (UInt8.ofNat (d * 24 + inBuff[2].toNat) +
        deltaprogram inBuff[2].toUInt8 inBuff[3].toUInt8).toNat,
      (UInt8.ofNat (d * 24 + inBuff[2].toNat)).toNat ≤ h ∧ (h + 24) % 168 = slot

instance (inBuff : Vector UInt16 6) (dias slot : Nat) : Decidable (Escrita inBuff dias slot) :=
  inferInstanceAs (Decidable (∃ d < dias, _))

theorem escrita_lt {inBuff : Vector UInt16 6} {dias slot : Nat}
    (escrita : Escrita inBuff dias slot) : slot < sizeMatrix := by
  obtain ⟨_, _, _, h, _, _, rfl⟩ := escrita
  exact Nat.mod_lt _ (by decide)

/-- The loop over the days. -/
theorem ponerDias_eq (inBuff : Vector UInt16 6) :
    ∃ final, tryFor 7 (ponerDia inBuff power) sch = some final ∧
      ∀ slot, final slot = if Escrita inBuff 7 slot then power else sch slot := by
  refine tryFor_induction (fun dia (matrix : Nat → UInt8) =>
    ∀ slot, matrix slot = if Escrita inBuff dia slot then power else sch slot) ?start ?round
  case start =>
    intro slot
    exact (if_neg fun ⟨d, below, _⟩ => absurd below (Nat.not_lt_zero d)).symm
  case round =>
    intro dia bound matrix written
    obtain ⟨next, same, after⟩ := @ponerDia_eq power matrix inBuff dia bound
    refine ⟨next, same, fun slot => ?_⟩
    rw [after, written]
    have split : Escrita inBuff (dia + 1) slot ↔ Escrita inBuff dia slot ∨ _ :=
      Nat.exists_lt_succ_right
    by_cases last : inBuff[1].toUInt8.toNat.testBit dia = true ∧
        ∃ h < (UInt8.ofNat (dia * 24 + inBuff[2].toNat) +
            deltaprogram inBuff[2].toUInt8 inBuff[3].toUInt8).toNat,
          (UInt8.ofNat (dia * 24 + inBuff[2].toNat)).toNat ≤ h ∧ (h + 24) % 168 = slot
    · rw [if_pos last, if_pos (split.mpr (Or.inr last))]
    · rw [if_neg last]
      exact if_congr (split.trans (or_iff_left last)).symm rfl rfl

/-- `CreateMatrix` always returns: a program that is not active leaves the matrix, and an
active one writes its hours. -/
theorem createMatrix_eq (inBuff : Vector UInt16 6) (outBuff : Nat → UInt8) :
    ∃ matriz, createMatrix inBuff outBuff = some (if inBuff[0] = 1 then 0 else 1, matriz) ∧
      ∀ slot, matriz slot =
        if inBuff[0] = 1 ∧ Escrita inBuff 7 slot then
          UInt8.ofNat ((inBuff[4].toNat * 0x100 + inBuff[5].toNat) / 100)
        else outBuff slot := by
  have copy : ((List.range sizeMatrix).map outBuff).length = 168 := by
    rw [List.length_map, List.length_range]
    rfl
  unfold createMatrix
  rw [loadMany_zero le_rfl]
  simp only [Option.bind_eq_bind, Option.bind_some, Option.pure_def]
  rw [store_of_le (by rw [copy]; rfl), Option.bind_some]
  by_cases active : inBuff[0] = 1
  · obtain ⟨final, same, written⟩ := @ponerDias_eq
      (UInt8.ofNat ((inBuff[4].toNat * 0x100 + inBuff[5].toNat) / 100))
      (write 0 ((List.range sizeMatrix).map outBuff) fun _ => 0) inBuff
    rw [if_neg (not_not.mpr active), same, Option.bind_some, loadMany_zero le_rfl,
      Option.bind_some, store_of_le (by simp), Option.bind_some, if_pos active]
    refine ⟨_, rfl, fun slot => ?_⟩
    rw [write_map_range]
    by_cases inside : slot < sizeMatrix
    · rw [if_pos inside, written, write_map_range, if_pos inside]
      exact if_congr (and_iff_right active).symm rfl rfl
    · rw [if_neg inside, if_neg fun both => inside (escrita_lt both.2)]
  · rw [if_pos active, if_neg active]
    exact ⟨outBuff, rfl, fun slot => (if_neg fun both => active both.1).symm⟩

end Programa

/-! ## The list -/

theorem deltaprogram_toNat {p : Programa} (horas : p.Horas) :
    (deltaprogram p[2] p[3]).toNat = p.duracion ∧ p.duracion ≤ 24 := by
  obtain ⟨first, last⟩ := horas
  unfold deltaprogram Programa.duracion UInt8.ofInt
  rw [UInt8.toNat_ofNat']
  split_ifs <;> omega

/-- In hours of the day no byte overflows, and the hours written are those of the program. -/
theorem escrita_iff_cubre {p : Programa} (horas : p.Horas) (slot : Nat) :
    Escrita (hexArrayToUint16Array p) 7 slot ↔ p.Cubre slot := by
  obtain ⟨delta, short⟩ := deltaprogram_toNat horas
  obtain ⟨early, -⟩ := horas
  unfold Escrita Programa.Cubre
  simp only [getElem_hexArray, UInt8.toNat_toUInt16, UInt8.toUInt8_toUInt16]
  refine exists_congr fun d => and_congr_right fun bound => and_congr_right fun _ => ?_
  have init : (UInt8.ofNat (d * 24 + p[2].toNat)).toNat = d * 24 + p[2].toNat := by
    rw [UInt8.toNat_ofNat']
    omega
  rw [UInt8.toNat_add, delta, init, Nat.mod_eq_of_lt (by omega)]
  constructor
  · rintro ⟨h, below, above, rfl⟩
    exact ⟨h - d * 24, by omega, by omega, by omega⟩
  · rintro ⟨h, below, above, rfl⟩
    exact ⟨h + d * 24, by omega, by omega, by omega⟩

/-- What a program writes. -/
theorem ponerPrograma_eq (lectura : Bool × (Nat → UInt8)) (p : Programa) :
    ∃ next, ponerPrograma lectura p = some next ∧ ∀ slot, next.2 slot =
      if (p[0] == 1 && decide (Escrita (hexArrayToUint16Array p) 7 slot)) = true then p.potencia
      else lectura.2 slot := by
  obtain ⟨matriz, same, written⟩ := createMatrix_eq (hexArrayToUint16Array p) lectura.2
  refine ⟨_, congrArg (Option.map _) same, fun slot => ?_⟩
  dsimp only
  rw [written]
  simp only [getElem_hexArray, UInt8.toNat_toUInt16]
  refine if_congr ?_ rfl rfl
  rw [Bool.and_eq_true, beq_iff_eq, decide_eq_true_iff]
  exact and_congr_left fun _ => @UInt8.toUInt16_inj p[0] 1

/-- Every list of programs is taken.  In hours of the day, each hour of the week has the
power of the last active program that covers it. -/
theorem ponerProgramas_eq (programas : List Programa) :
    ∃ lectura, ponerProgramas programas = some lectura ∧
      ((∀ p ∈ programas, p.Horas) → ∀ slot < 168, lectura.2 slot = potenciaDe programas slot) := by
  obtain ⟨lectura, same, written⟩ := @foldlM_cells _ _ _ _
    (fun p slot => p[0] == 1 && decide (Escrita (hexArrayToUint16Array p) 7 slot))
    (fun p _ => p.potencia) Prod.snd ponerPrograma programas
    (fun p _ lectura => ponerPrograma_eq lectura p) (false, fun _ => 0)
  refine ⟨lectura, same, fun horas slot _ => ?_⟩
  have covers : (programas.filter fun p =>
      p[0] == 1 && decide (Escrita (hexArrayToUint16Array p) 7 slot)) =
      programas.filter fun p => p[0] == 1 && decide (p.Cubre slot) := by
    refine List.filter_congr fun p mem => ?_
    rw [decide_eq_decide.mpr (escrita_iff_cubre (horas p mem) slot)]
  rw [written, lastWrite, covers]
  rfl

/-- A program of the first day from 22 to 6, at 2500. -/
def nocturna : Programa :=
  #v[1, 0b0000001, 22, 6, 0x09, 0xC4]

/-- A program of the second day from 5 to 5, at 100. -/
def diaria : Programa :=
  #v[1, 0b0000010, 5, 5, 0, 100]

-- the last hour of the night is in the third day of the matrix, and a later program is over it
example : potenciaDe [nocturna] (24 * 2 + 5) = 25 ∧ potenciaDe [nocturna] (24 * 2 + 6) = 0 ∧
    potenciaDe [nocturna, diaria] (24 * 2 + 5) = 1 := by
  decide

/-- Both programs are of hours of the day, and the later one has the hour that both cover. -/
theorem ponerProgramas_eq_nocturna_diaria :
    ∃ lectura, ponerProgramas [nocturna, diaria] = some lectura ∧
      lectura.2 (24 * 2 + 4) = 25 ∧ lectura.2 (24 * 2 + 5) = 1 := by
  have horas : ∀ p ∈ [nocturna, diaria], p.Horas := by
    rw [List.forall_mem_cons, List.forall_mem_singleton]
    exact ⟨⟨by decide, by decide⟩, by decide, by decide⟩
  obtain ⟨lectura, same, potencias⟩ := ponerProgramas_eq [nocturna, diaria]
  have powers := potencias horas
  refine ⟨lectura, same, (powers _ (by decide)).trans ?_, (powers _ (by decide)).trans ?_⟩
  · decide
  · decide

end VeltiumCharger.Horario
