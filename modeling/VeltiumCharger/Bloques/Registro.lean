import Mathlib.Data.List.GetD
import VeltiumCharger.Bloques.Procesar
import VeltiumCharger.Library.Checked

/-!
# The two decoders of an energy record

A record is kept for Bluetooth in `record_received_buffer`, decoded by `procesar_bloque`,
and as it came in `record_received_buffer_for_fb`, from which `WriteFirebaseHistoric`
decodes it again for the database.  Both loops are given with their accesses checked.
-/

namespace VeltiumCharger.Bloques

open VeltiumCharger.Loop VeltiumCharger.Buffer VeltiumCharger.Checked

/-! ## Sizes -/

/-- `sizeof(buffer_rx_local)` -/
def sizeBufferRx : Nat := 256

/-- The size of `record_received_buffer` and of `record_received_buffer_for_fb`. -/
def sizeRecordReceived : Nat := 550

/-- The size of the copy that is encoded. -/
def sizeRecordBuffer : Nat := 252

namespace Control

variable (buffer : Recibido)

/-! ## The first decoder -/

/-- A round of the loop of `ENERGY_RECORD_RECORD_CHAR_HANDLE`. -/
def leerMuestraSegura (ronda : Nat) (l : LecturaRegistro) : Option LecturaRegistro := do
  let i := 20 + 4 * ronda
  if l.j < 252 then
    let alto ← load sizeBufferRx buffer l.j
    let bajo ← load sizeBufferRx buffer (l.j + 1)
    let fin := l.fin || (alto == 255 && bajo == 255)
    let potLeida := alto.toNat * 0x100 + bajo.toNat
    let muestra := if 0 < potLeida ∧ potLeida < 5900 ∧ fin = false then [alto, bajo, 0, 0]
      else [0, 0, 0, 0]
    let registro ← store sizeRecordReceived i muestra l.registro
    return { j := l.j + 2, fin, registro }
  else
    let registro ← store sizeRecordReceived i [0, 0, 0, 0] l.registro
    return { l with registro }

/-- `record_received_buffer` after the block. -/
def leerRegistroSeguro (registro : Recibido) : Option Recibido := do
  let cabecera ← loadMany sizeBufferRx buffer 0 20
  let registro ← store sizeRecordReceived 0 cabecera registro
  let l ← tryFor 123 (leerMuestraSegura buffer) { j := 20, fin := false, registro }
  return l.registro

/-! ## The second decoder -/

/-- The loop of `WriteFirebaseHistoric`. -/
structure LecturaHistorico where
  j : Nat
  size : Nat
  fin : Bool
  recordBuffer : Recibido

/-- A round of the loop, which is left at the end mark. -/
def historicoRonda (ronda : Nat) (l : LecturaHistorico) :
    Option (ForInStep LecturaHistorico) := do
  let i := 2 * ronda
  if l.j < 252 then
    let alto ← load sizeBufferRx buffer l.j
    let bajo ← load sizeBufferRx buffer (l.j + 1)
    if alto == 255 && bajo == 255 then return .done { l with fin := true }
    let potLeida : UInt16 := alto.toUInt16 * 0x100 + bajo.toUInt16
    let muestra := if 0 < potLeida ∧ potLeida < 5500 ∧ l.fin = false then [alto, bajo] else [0, 0]
    let recordBuffer ← store sizeRecordBuffer i muestra l.recordBuffer
    return .yield { l with j := l.j + 2, size := l.size + 2, recordBuffer }
  else
    let recordBuffer ← store sizeRecordBuffer i [0, 0] l.recordBuffer
    return .yield { l with size := l.size + 2, recordBuffer }

/-- What `WriteFirebaseHistoric` encodes in `act`. -/
def writeFirebaseHistoric : Option (List UInt8) := do
  let final ← tryForBreak 126 (historicoRonda buffer)
    { j := 20, size := 0, fin := false, recordBuffer := fun _ => 0 }
  loadMany sizeRecordBuffer (result final).recordBuffer 0 (result final).size

/-! ## What is promised -/

/-- The sample `k` is the end mark. -/
abbrev Marca (k : Nat) : Prop :=
  buffer (20 + 2 * k) = 255 ∧ buffer (21 + 2 * k) = 255

/-- There is an end mark among the first `k + 1` samples. -/
abbrev Terminado (k : Nat) : Prop :=
  ∃ m < k + 1, Marca buffer m

/-- The sample `k` as it is received. -/
def potencia (k : Nat) : Nat :=
  (buffer (20 + 2 * k)).toNat * 256 + (buffer (21 + 2 * k)).toNat

/-- Both decoders stay inside their arrays, take the same samples and stop at the end
mark. -/
structure Coinciden (registro : Recibido) (act : List UInt8) : Prop where
  muestra : ∀ k < 116, registro (20 + 4 * k) = act.getD (2 * k) 0 ∧
    registro (21 + 4 * k) = act.getD (2 * k + 1) 0
  parada : ∀ k < 116, Terminado buffer k →
    registro (20 + 4 * k) = 0 ∧ registro (21 + 4 * k) = 0 ∧ act.length ≤ 2 * k

/-- The record that the state keeps for each consumer is the same. -/
def RegistroCoherente (s : Control) : Prop :=
  let despues := (s.casoEnergyRecord buffer).registro
  leerRegistroSeguro buffer s.registro.recordReceivedBuffer = some despues.recordReceivedBuffer ∧
    ∃ act, writeFirebaseHistoric despues.recordReceivedBufferForFb = some act ∧
      Coinciden buffer despues.recordReceivedBuffer act

/-- No sample before the end mark lies between the two limits. -/
def SinDisputa : Prop :=
  ∀ k < 116, ¬Terminado buffer k → ¬(5500 ≤ potencia buffer k ∧ potencia buffer k < 5900)

/-- The sample `k` of a decoder that takes those below `limite`. -/
def muestraDe (limite k : Nat) : UInt8 × UInt8 :=
  if ¬Terminado buffer k ∧ 0 < potencia buffer k ∧ potencia buffer k < limite then
    (buffer (20 + 2 * k), buffer (21 + 2 * k))
  else (0, 0)

/-! ## Samples -/

section Muestras

variable {buffer}

theorem muestraDe_of_terminado {limite k : Nat} (end_ : Terminado buffer k) :
    muestraDe buffer limite k = (0, 0) :=
  if_neg fun taken => taken.1 end_

/-- The two limits give the same sample when it does not lie between them. -/
theorem muestraDe_eq_iff {k : Nat} : muestraDe buffer 5900 k = muestraDe buffer 5500 k ↔
    (¬Terminado buffer k → ¬(5500 ≤ potencia buffer k ∧ potencia buffer k < 5900)) := by
  constructor
  · intro same open_ ⟨above, below⟩
    unfold muestraDe at same
    rw [if_pos ⟨open_, by omega, below⟩, if_neg fun taken => by omega] at same
    -- a sample of two zeros has no power
    have first := congrArg (fun m => m.1.toNat) same
    have second := congrArg (fun m => m.2.toNat) same
    simp only [UInt8.toNat_zero] at first second
    rw [potencia, first, second] at above
    omega
  · intro clear
    unfold muestraDe
    by_cases open_ : Terminado buffer k
    · rw [if_neg fun taken => taken.1 open_, if_neg fun taken => taken.1 open_]
    · have outside := clear open_
      have same : (¬Terminado buffer k ∧ 0 < potencia buffer k ∧ potencia buffer k < 5900) ↔
          (¬Terminado buffer k ∧ 0 < potencia buffer k ∧ potencia buffer k < 5500) :=
        and_congr_right fun _ => and_congr_right fun _ => by omega
      simp only [same]

/-- Only the bytes received matter. -/
theorem muestraDe_congr {otro : Recibido} (agree : ∀ i < 256, otro i = buffer i) {limite k : Nat}
    (bound : k < 116) :
    (Terminado otro k ↔ Terminado buffer k) ∧
      muestraDe otro limite k = muestraDe buffer limite k := by
  have cells : ∀ m < k + 1, otro (20 + 2 * m) = buffer (20 + 2 * m) ∧
      otro (21 + 2 * m) = buffer (21 + 2 * m) :=
    fun m below => ⟨agree _ (by omega), agree _ (by omega)⟩
  have ended : Terminado otro k ↔ Terminado buffer k := by
    refine exists_congr fun m => and_congr_right fun below => ?_
    rw [Marca, (cells m below).1, (cells m below).2]
  refine ⟨ended, ?_⟩
  obtain ⟨high, low⟩ := cells k (Nat.lt_succ_self k)
  unfold muestraDe potencia
  exact if_congr (by rw [ended, high, low]) (by rw [high, low]) rfl

end Muestras

/-! ## The first loop -/

/-- The first loop before its round `ronda`. -/
structure Leido (ronda : Nat) (l : LecturaRegistro) : Prop where
  j : l.j = 20 + 2 * min ronda 116
  fin : l.fin = true ↔ ∃ m < min ronda 116, Marca buffer m
  muestras : ∀ k < ronda, k < 116 →
    (l.registro (20 + 4 * k), l.registro (21 + 4 * k)) = muestraDe buffer 5900 k

section Primera

variable {buffer}

/-- A sample of four bytes is written behind those that are there. -/
theorem write_muestra {registro : Recibido} {alto bajo : UInt8} (k ronda : Nat) :
    (write (20 + 4 * ronda) [alto, bajo, 0, 0] registro (20 + 4 * k),
        write (20 + 4 * ronda) [alto, bajo, 0, 0] registro (21 + 4 * k)) =
      if k = ronda then (alto, bajo) else (registro (20 + 4 * k), registro (21 + 4 * k)) := by
  obtain before | rfl | behind := Nat.lt_trichotomy k ronda
  · rw [write_of_lt (by omega), write_of_lt (by omega), if_neg before.ne]
  · rw [if_pos rfl]
    simp [write, show 21 + 4 * k = 20 + 4 * k + 1 by omega]
  · rw [write_of_ge (by simp only [List.length_cons, List.length_nil]; omega),
      write_of_ge (by simp only [List.length_cons, List.length_nil]; omega), if_neg behind.ne']

/-- A round that reads a sample. -/
theorem leerMuestra_eq {ronda : Nat} {l : LecturaRegistro} (reads : ronda < 116)
    (place : l.j = 20 + 2 * ronda) (marks : l.fin = true ↔ ∃ m < ronda, Marca buffer m) :
    leerMuestra buffer ronda l =
      { j := 20 + 2 * (ronda + 1)
        fin := decide (Terminado buffer ronda)
        registro := write (20 + 4 * ronda)
          [(muestraDe buffer 5900 ronda).1, (muestraDe buffer 5900 ronda).2, 0, 0]
          l.registro } := by
  have next : 20 + 2 * ronda + 1 = 21 + 2 * ronda := by omega
  have fin : (l.fin || (buffer (20 + 2 * ronda) == 255 && buffer (21 + 2 * ronda) == 255)) =
      decide (Terminado buffer ronda) := by
    rw [Bool.eq_iff_iff, decide_eq_true_iff, Bool.or_eq_true, marks, Bool.and_eq_true, beq_iff_eq,
      beq_iff_eq]
    exact Nat.exists_lt_succ_right.symm
  unfold leerMuestra
  dsimp only
  simp only [place, next, fin]
  rw [if_pos (by omega)]
  refine congrArg (LecturaRegistro.mk _ _) ?_
  by_cases taken : ¬Terminado buffer ronda ∧ 0 < potencia buffer ronda ∧
      potencia buffer ronda < 5900
  · rw [muestraDe, if_pos taken]
    exact if_pos ⟨taken.2.1, taken.2.2, decide_eq_false taken.1⟩
  · rw [muestraDe, if_neg taken]
    refine if_neg fun kept => taken ?_
    exact ⟨of_decide_eq_false kept.2.2, kept.1, kept.2.1⟩

theorem leido_leerMuestra {ronda : Nat} {l : LecturaRegistro} (leido : Leido buffer ronda l) :
    Leido buffer (ronda + 1) (leerMuestra buffer ronda l) := by
  by_cases reads : ronda < 116
  · have bound : min (ronda + 1) 116 = ronda + 1 := Nat.min_eq_left reads
    have before : min ronda 116 = ronda := Nat.min_eq_left reads.le
    rw [leerMuestra_eq reads (before ▸ leido.j) (before ▸ leido.fin)]
    refine ⟨by rw [bound], by rw [bound, decide_eq_true_iff], fun k below small => ?_⟩
    rw [write_muestra]
    split_ifs with last
    · rw [last]
    · exact leido.muestras k (by omega) small
  · have full : min (ronda + 1) 116 = min ronda 116 := by omega
    unfold leerMuestra
    dsimp only
    rw [if_neg (by rw [leido.j]; omega)]
    refine ⟨?_, ?_, fun k below small => ?_⟩
    · rw [full, ← leido.j]
    · rw [full, ← leido.fin]
    · rw [write_muestra, if_neg (by omega)]
      exact leido.muestras k (by omega) small

theorem leido_inicio (registro : Recibido) :
    Leido buffer 0 { j := 20, fin := false, registro } where
  j := rfl
  fin := iff_of_false Bool.false_ne_true fun ⟨m, below, _⟩ => absurd below (Nat.not_lt_zero m)
  muestras k below := absurd below (Nat.not_lt_zero k)

/-- The samples of `record_received_buffer`. -/
theorem leerRegistro_muestra (registro : Recibido) {k : Nat} (bound : k < 116) :
    (leerRegistro buffer registro (20 + 4 * k), leerRegistro buffer registro (21 + 4 * k)) =
      muestraDe buffer 5900 k :=
  (forUpTo_induction (Leido buffer) (leido_inicio _) fun _ _ _ => leido_leerMuestra).muestras k
    (by omega) bound

/-- No access of the first decoder is outside. -/
theorem leerRegistroSeguro_eq (registro : Recibido) :
    leerRegistroSeguro buffer registro = some (leerRegistro buffer registro) := by
  have round : ∀ ronda, ronda < 123 → ∀ l, Leido buffer ronda l →
      leerMuestraSegura buffer ronda l = some (leerMuestra buffer ronda l) ∧
        Leido buffer (ronda + 1) (leerMuestra buffer ronda l) := by
    intro ronda below l leido
    refine ⟨?_, leido_leerMuestra leido⟩
    have place := leido.j
    unfold leerMuestraSegura leerMuestra
    dsimp only
    by_cases reads : l.j < 252
    · rw [if_pos reads, if_pos reads, load_of_lt (by unfold sizeBufferRx; omega),
        load_of_lt (by unfold sizeBufferRx; omega)]
      simp only [Option.bind_eq_bind, Option.bind_some, Option.pure_def]
      split_ifs
      · rw [store_of_le (by unfold sizeRecordReceived; simp; omega)]
        rfl
      · rw [store_of_le (by unfold sizeRecordReceived; simp; omega)]
        rfl
    · rw [if_neg reads, if_neg reads, store_of_le (by unfold sizeRecordReceived; simp; omega)]
      rfl
  have cabecera : loadMany sizeBufferRx buffer 0 20 = some (bytes buffer 0 20) := rfl
  unfold leerRegistroSeguro
  rw [cabecera]
  simp only [Option.bind_eq_bind, Option.bind_some, Option.pure_def]
  rw [store_of_le (by simp [bytes, sizeRecordReceived]), Option.bind_some,
    tryFor_eq_some (Leido buffer) (leido_inicio _) round]
  rfl

end Primera

/-! ## The second loop -/

/-- The second loop before its round `ronda`: no end mark has been read. -/
structure Copiado (ronda : Nat) (l : LecturaHistorico) : Prop where
  j : l.j = 20 + 2 * min ronda 116
  size : l.size = 2 * ronda
  sinMarca : ∀ m < min ronda 116, ¬Marca buffer m
  muestras : ∀ k < ronda, k < 116 →
    (l.recordBuffer (2 * k), l.recordBuffer (2 * k + 1)) = muestraDe buffer 5500 k

section Segunda

variable {buffer}

theorem write_par {recordBuffer : Recibido} {alto bajo : UInt8} (k ronda : Nat) :
    (write (2 * ronda) [alto, bajo] recordBuffer (2 * k),
        write (2 * ronda) [alto, bajo] recordBuffer (2 * k + 1)) =
      if k = ronda then (alto, bajo) else (recordBuffer (2 * k), recordBuffer (2 * k + 1)) := by
  obtain before | rfl | behind := Nat.lt_trichotomy k ronda
  · rw [write_of_lt (by omega), write_of_lt (by omega), if_neg before.ne]
  · rw [if_pos rfl]
    simp [write]
  · rw [write_of_ge (by simp only [List.length_cons, List.length_nil]; omega),
      write_of_ge (by simp only [List.length_cons, List.length_nil]; omega), if_neg behind.ne']

/-- The 16 bits of a sample are its power. -/
theorem potencia_toNat {k : Nat} :
    ((buffer (20 + 2 * k)).toUInt16 * 0x100 + (buffer (21 + 2 * k)).toUInt16).toNat =
      potencia buffer k := by
  have high := (buffer (20 + 2 * k)).toNat_lt
  have low := (buffer (21 + 2 * k)).toNat_lt
  simp only [potencia, UInt16.toNat_add, UInt16.toNat_mul, UInt8.toNat_toUInt16,
    UInt16.reduceToNat]
  omega

/-- The sample that a round writes. -/
theorem muestra_escrita {ronda : Nat} {l : LecturaHistorico} (fin : l.fin = false)
    (abierto : ¬Terminado buffer ronda) :
    (if 0 < (buffer (20 + 2 * ronda)).toUInt16 * 0x100 + (buffer (21 + 2 * ronda)).toUInt16 ∧
        (buffer (20 + 2 * ronda)).toUInt16 * 0x100 + (buffer (21 + 2 * ronda)).toUInt16 < 5500 ∧
        l.fin = false then
      [buffer (20 + 2 * ronda), buffer (21 + 2 * ronda)] else [0, 0]) =
      [(muestraDe buffer 5500 ronda).1, (muestraDe buffer 5500 ronda).2] := by
  simp only [UInt16.lt_iff_toNat_lt, potencia_toNat, fin, and_true, UInt16.reduceToNat]
  by_cases taken : 0 < potencia buffer ronda ∧ potencia buffer ronda < 5500
  · rw [if_pos taken, muestraDe, if_pos ⟨abierto, taken⟩]
  · rw [if_neg taken, muestraDe, if_neg fun both => taken both.2]

/-- A round that writes its sample, and has read no end mark, goes on with the copy. -/
theorem Copiado.sigue {ronda : Nat} {l next : LecturaHistorico} (copiado : Copiado buffer ronda l)
    (muestra : UInt8 × UInt8) (sample : ronda < 116 → muestra = muestraDe buffer 5500 ronda)
    (marca : ronda < 116 → ¬Marca buffer ronda) (j : next.j = 20 + 2 * min (ronda + 1) 116)
    (size : next.size = l.size + 2)
    (escrito : next.recordBuffer = write (2 * ronda) [muestra.1, muestra.2] l.recordBuffer) :
    Copiado buffer (ronda + 1) next := by
  refine ⟨j, size.trans (congrArg (· + 2) copiado.size), fun m less => ?_, fun k less small => ?_⟩
  · by_cases last : m = ronda
    · exact last ▸ marca (by omega)
    · exact copiado.sinMarca m (by omega)
  · rw [escrito, write_par]
    split_ifs with last
    · rw [last, ← sample (last ▸ small)]
    · exact copiado.muestras k (by omega) small

/-- A round goes on with its sample written, or stops at the end mark. -/
theorem historicoRonda_cases {ronda : Nat} (below : ronda < 126) {l : LecturaHistorico}
    (fin : l.fin = false) (copiado : Copiado buffer ronda l) :
    (∃ next, historicoRonda buffer ronda l = some (.yield next) ∧ next.fin = false ∧
        Copiado buffer (ronda + 1) next) ∨
      historicoRonda buffer ronda l = some (.done { l with fin := true }) ∧ ronda < 116 ∧
        Marca buffer ronda := by
  have place := copiado.j
  unfold historicoRonda
  dsimp only
  by_cases reads : ronda < 116
  · have before : min ronda 116 = ronda := Nat.min_eq_left reads.le
    have bound : min (ronda + 1) 116 = ronda + 1 := Nat.min_eq_left reads
    rw [before] at place
    have next : 20 + 2 * ronda + 1 = 21 + 2 * ronda := by omega
    rw [place, next, if_pos (by omega), load_of_lt (by unfold sizeBufferRx; omega),
      load_of_lt (by unfold sizeBufferRx; omega)]
    simp only [Option.bind_eq_bind, Option.bind_some, Option.pure_def]
    by_cases marca : Marca buffer ronda
    · right
      rw [if_pos (by rw [marca.1, marca.2]; rfl)]
      exact ⟨rfl, reads, marca⟩
    · left
      have abierto : ¬Terminado buffer ronda := by
        rw [Terminado, Nat.exists_lt_succ_right]
        rintro (⟨m, less, mark⟩ | mark)
        · exact copiado.sinMarca m (by omega) mark
        · exact marca mark
      have bytes : ¬(buffer (20 + 2 * ronda) == 255 && buffer (21 + 2 * ronda) == 255) = true := by
        simpa using marca
      rw [if_neg bytes, muestra_escrita fin abierto,
        store_of_le (by unfold sizeRecordBuffer; simp; omega)]
      refine ⟨_, rfl, fin, copiado.sigue (muestraDe buffer 5500 ronda) (fun _ => rfl)
        (fun _ => marca) ?_ rfl rfl⟩
      rw [bound]
      rfl
  · left
    have full : min (ronda + 1) 116 = min ronda 116 := by omega
    rw [if_neg (by omega), store_of_le (by unfold sizeRecordBuffer; simp; omega)]
    exact ⟨_, rfl, fin, copiado.sigue (0, 0) (fun small => absurd small reads)
      (fun small => absurd small reads) (full ▸ place) rfl rfl⟩

/-- What is encoded of a copy: its first `2 * ronda` bytes. -/
theorem Copiado.encoded {ronda : Nat} {l : LecturaHistorico} (copiado : Copiado buffer ronda l)
    (small : ronda ≤ 126) : loadMany sizeRecordBuffer l.recordBuffer 0 l.size =
      some ((List.range (2 * ronda)).map l.recordBuffer) := by
  rw [copiado.size, loadMany_zero (by unfold sizeRecordBuffer; omega)]

theorem Copiado.sample {ronda : Nat} {l : LecturaHistorico} (copiado : Copiado buffer ronda l)
    {k : Nat} (less : k < ronda) (bound : k < 116) :
    (((List.range (2 * ronda)).map l.recordBuffer).getD (2 * k) 0,
      ((List.range (2 * ronda)).map l.recordBuffer).getD (2 * k + 1) 0) =
      muestraDe buffer 5500 k := by
  rw [← copiado.muestras k less bound]
  simp [List.getD, show 2 * k < 2 * ronda by omega, show 2 * k + 1 < 2 * ronda by omega]

theorem Copiado.abierto {ronda : Nat} {l : LecturaHistorico} (copiado : Copiado buffer ronda l)
    {k : Nat} (less : k < ronda) (bound : k < 116) : ¬Terminado buffer k :=
  fun ⟨m, below, marca⟩ => copiado.sinMarca m (by omega) marca

/-- What is encoded: the samples below the lower limit, up to the end mark. -/
theorem writeFirebaseHistoric_eq : ∃ act, writeFirebaseHistoric buffer = some act ∧
    ∀ k < 116, (act.getD (2 * k) 0, act.getD (2 * k + 1) 0) = muestraDe buffer 5500 k ∧
      (Terminado buffer k → act.length ≤ 2 * k) := by
  have rounds := @tryForBreak_induction _ 126
    { j := 20, size := 0, fin := false, recordBuffer := fun _ => 0 } (historicoRonda buffer)
    (fun ronda l => l.fin = false ∧ Copiado buffer ronda l)
    (fun ronda l => Copiado buffer ronda l ∧ ronda < 116 ∧ Marca buffer ronda)
    ⟨rfl, rfl, rfl, fun m below => absurd below (Nat.not_lt_zero m),
      fun k below => absurd below (Nat.not_lt_zero k)⟩
    fun ronda below l ⟨fin, copiado⟩ => (historicoRonda_cases below fin copiado).imp_right
      fun ⟨same, small, marca⟩ => ⟨_, same,
        ⟨copiado.j, copiado.size, copiado.sinMarca, copiado.muestras⟩, small, marca⟩
  unfold writeFirebaseHistoric
  rcases rounds with ⟨final, same, _, copiado⟩ | ⟨final, same, ronda, below, copiado, small, marca⟩
  · refine ⟨(List.range (2 * 126)).map final.recordBuffer, ?_, fun k bound => ?_⟩
    · rw [same]
      exact copiado.encoded le_rfl
    · have less : k < 126 := by omega
      exact ⟨copiado.sample less bound, fun ended => absurd ended (copiado.abierto less bound)⟩
  · refine ⟨(List.range (2 * ronda)).map final.recordBuffer, ?_, fun k bound => ?_⟩
    · rw [same]
      exact copiado.encoded below.le
    · by_cases less : k < ronda
      · exact ⟨copiado.sample less bound, fun ended => absurd ended (copiado.abierto less bound)⟩
      · -- the samples behind the end mark are missing
        rw [muestraDe_of_terminado ⟨ronda, by omega, marca⟩]
        have length : ((List.range (2 * ronda)).map final.recordBuffer).length = 2 * ronda := by
          rw [List.length_map, List.length_range]
        rw [List.getD_eq_default _ _ (by omega), List.getD_eq_default _ _ (by omega)]
        exact ⟨rfl, fun _ => by omega⟩

end Segunda

/-! ## Both consumers -/

section Consumidores

variable {buffer}

/-- What a record leaves for each consumer. -/
theorem casoEnergyRecord_registro (s : Control) :
    (s.casoEnergyRecord buffer).registro.recordReceivedBuffer =
        leerRegistro buffer s.registro.recordReceivedBuffer ∧
      (s.casoEnergyRecord buffer).registro.recordReceivedBufferForFb =
        write 0 (bytes buffer 0 256) s.registro.recordReceivedBufferForFb := by
  unfold casoEnergyRecord
  simp only [modifyCharacteristic, anota]
  split_ifs <;> simp only [and_self]

/-- A copy has the bytes copied. -/
theorem copia_eq (previo : Recibido) {len i : Nat} (below : i < len) :
    write 0 (bytes buffer 0 len) previo i = buffer i := by
  unfold bytes
  simp only [Nat.zero_add]
  rw [write_map_range, if_pos below]

/-- What is encoded of the copy. -/
theorem act_eq (previo : Recibido) :
    ∃ act, writeFirebaseHistoric (write 0 (bytes buffer 0 256) previo) = some act ∧
      ∀ k < 116, (act.getD (2 * k) 0, act.getD (2 * k + 1) 0) = muestraDe buffer 5500 k ∧
        (Terminado buffer k → act.length ≤ 2 * k) := by
  obtain ⟨act, encoded, samples⟩ :=
    @writeFirebaseHistoric_eq (write 0 (bytes buffer 0 256) previo)
  refine ⟨act, encoded, fun k bound => ?_⟩
  obtain ⟨ended, same⟩ := @muestraDe_congr buffer _ (fun i => copia_eq _) 5500 k bound
  rw [← ended, ← same]
  exact samples k bound

theorem RegistroCoherente.sinDisputa {s : Control} (coherente : s.RegistroCoherente buffer) :
    SinDisputa buffer := by
  obtain ⟨kept, copied⟩ := @casoEnergyRecord_registro buffer s
  obtain ⟨-, act, encoded, coinciden⟩ := coherente
  obtain ⟨other, again, samples⟩ := @act_eq buffer s.registro.recordReceivedBufferForFb
  rw [copied, again] at encoded
  obtain rfl : other = act := Option.some.inj encoded
  rw [kept] at coinciden
  intro k bound
  refine muestraDe_eq_iff.mp ?_
  rw [← leerRegistro_muestra s.registro.recordReceivedBuffer bound, ← (samples k bound).1,
    (coinciden.muestra k bound).1, (coinciden.muestra k bound).2]

theorem SinDisputa.coherente (clear : SinDisputa buffer) (s : Control) :
    s.RegistroCoherente buffer := by
  obtain ⟨kept, copied⟩ := @casoEnergyRecord_registro buffer s
  obtain ⟨act, encoded, samples⟩ := @act_eq buffer s.registro.recordReceivedBufferForFb
  unfold RegistroCoherente
  dsimp only
  rw [kept, copied]
  have first := @leerRegistro_muestra buffer s.registro.recordReceivedBuffer
  refine ⟨leerRegistroSeguro_eq _, act, encoded, ⟨fun k bound => ?_, fun k bound ended => ?_⟩⟩
  · have same := (first bound).trans
      ((muestraDe_eq_iff.mpr (clear k bound)).trans (samples k bound).1.symm)
    exact Prod.mk.inj same
  · obtain ⟨high, low⟩ := Prod.mk.inj ((first bound).trans (muestraDe_of_terminado ended))
    exact ⟨high, low, (samples k bound).2 ended⟩

end Consumidores

/-- Both consumers have the same samples when none of them lies between the limits. -/
theorem registroCoherente_iff (buffer : Recibido) (s : Control) :
    s.RegistroCoherente buffer ↔ SinDisputa buffer :=
  ⟨RegistroCoherente.sinDisputa, fun clear => clear.coherente s⟩

/-- A record whose first sample is 5600. -/
def registroDisputado : Recibido
  | 20 => 0x15
  | 21 => 0xE0
  | _ => 0

/-- The sample is kept for Bluetooth and is 0 in the database. -/
theorem registroDisputado_noCoherente :
    ¬Control.inicial.RegistroCoherente registroDisputado := by
  intro coherente
  exact coherente.sinDisputa 0 (by decide) (by decide) ⟨by decide, by decide⟩

end Control

end VeltiumCharger.Bloques
