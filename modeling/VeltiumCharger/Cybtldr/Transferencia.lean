import VeltiumCharger.Library.Loop

/-!
# Transfers to the bootloader

`CyBtldr_TransferData` sends a command over the serial line, again and again, and polls
the line for the reply; `SendData` sends the data of a row with one command after the
other.  The bytes come from the other processor at any time between two accesses to the
line, and each is known with the command it answers.
-/

namespace VeltiumCharger.Cybtldr

open VeltiumCharger.Loop

/-- A byte from the other processor, with the number of the command it answers. -/
structure Octeto where
  valor : UInt8
  orden : Nat
  deriving DecidableEq, Repr

/-- What arrives during a pass of the loop: before and after the point where the command
may be sent, and before each of the reads. -/
structure Llegadas where
  antes : List Octeto
  despues : List Octeto
  entre : Nat → List Octeto

/-- The queue of the line, `outBuf` and the variables of `CyBtldr_TransferData`.  The
number of the command and what has arrived since it was sent are only recorded. -/
structure Canal where
  cola : List Octeto
  outBuf : Nat → UInt8
  err : Nat
  cntTimeoutTx : UInt8
  timeout : Nat
  orden : Nat
  recibidos : List Octeto

namespace Canal

variable (s : Canal)

/-- Bytes arrive. -/
def llegan (octetos : List Octeto) : Canal :=
  { s with cola := s.cola ++ octetos, recibidos := s.recibidos ++ octetos }

/-- The start of the function: `flush(false)` empties the queue. -/
def empieza : Canal :=
  { s with
    cola := []
    outBuf := Function.update s.outBuf 0 97
    err := 1
    cntTimeoutTx := 1
    timeout := 0
    orden := s.orden + 1
    recibidos := [] }

/-- `sendBinaryBlock`; what counts as received starts with the first time. -/
def envia : Canal :=
  { s with
    cntTimeoutTx := 25
    timeout := s.timeout + 1
    recibidos := if s.timeout = 0 then [] else s.recibidos }

/-- `read(&outBuf[i], 1)`, which stores nothing when nothing is there. -/
def leeUno (entre : Nat → List Octeto) (i : Nat) (s : Canal) : Canal :=
  match (s.llegan (entre i)).cola with
  | [] => s.llegan (entre i)
  | octeto :: resto =>
    { s.llegan (entre i) with
      cola := resto
      outBuf := Function.update s.outBuf i octeto.valor }

/-- The reads of a pass. -/
def lee (outSize : Nat) (entre : Nat → List Octeto) : Canal :=
  forUpTo outSize (leeUno entre) s

/-- The test of the reply. -/
def comprueba (outSize : Nat) : Canal :=
  if s.outBuf 0 = 1 ∧ s.outBuf (outSize - 1) = 0x17 ∧ s.outBuf 1 = 0 then
    { s with err := (s.outBuf 1).toNat }
  else
    s

/-- The first half of a pass: the limit, the counter and the command. -/
def espera (llegadas : Llegadas) : Canal :=
  let s := if 4000 < s.timeout then { s with err := 68 } else s
  let s := { s with cntTimeoutTx := s.cntTimeoutTx - 1 }.llegan llegadas.antes
  let s := if s.cntTimeoutTx = 0 then s.envia else s
  s.llegan llegadas.despues

/-- A pass of the loop. -/
def vuelta (outSize : Nat) (llegadas : Llegadas) : Canal :=
  let s := s.espera llegadas
  if s.cola = [] then s else (s.lee outSize llegadas.entre).comprueba outSize

/-- `while (err == 1)` -/
def sigue (ronda : Nat × Canal) : Bool :=
  ronda.2.err == 1

/-- A pass and its number. -/
def ronda (outSize : Nat) (llegadas : Nat → Llegadas) (r : Nat × Canal) : Nat × Canal :=
  (r.1 + 1, r.2.vuelta outSize (llegadas r.1))

/-- As many passes as the loop can need. -/
def vueltas : Nat :=
  100026

/-- `CyBtldr_TransferData`, with what arrives during each of its passes. -/
def transferData (outSize : Nat) (llegadas : Nat → Llegadas) : Canal :=
  (whileFuel sigue (ronda outSize llegadas) vueltas (0, s.empieza)).2

/-- What it returns, with `CYRET_ERR_COMM_MASK`. -/
def resultado : Nat :=
  if s.err ≠ 0 then s.err ||| 0x2000 else s.err

/-- `ParseGenericCmdResult`, and the status it reads. -/
def parseGenericCmdResult (dataSize expectedSize : Nat) : Nat × UInt8 :=
  let cmdSize := dataSize + 7
  let err :=
    if cmdSize ≠ expectedSize then 3
    else if s.outBuf 1 ≠ 0 then 0x4000 ||| (s.outBuf 1).toNat
    else if s.outBuf 0 ≠ 1 ∨ s.outBuf 2 ≠ UInt8.ofNat dataSize ∨
        s.outBuf 3 ≠ UInt8.ofNat (dataSize / 256) ∨ s.outBuf (cmdSize - 1) ≠ 0x17 then 4
    else 0
  (err, s.outBuf 1)

end Canal

/-! ## `SendData` -/

/-- The variables of `SendData`, and the line as each transfer has left it. -/
structure Envio where
  canal : Canal
  offset : Nat
  err : Nat
  hechas : List Canal

/-- The size of the reply, `BASE_CMD_SIZE`. -/
def baseCmdSize : Nat :=
  7

namespace Envio

variable (size maxRemainingDataSize : Nat) (llegadas : Nat → Nat → Llegadas) (e : Envio)

/-- `while ((CYRET_SUCCESS == err) && ((size - (*offset)) > maxRemainingDataSize))` -/
def sigue (e : Envio) : Bool :=
  e.err == 0 && decide (maxRemainingDataSize < size - e.offset)

/-- The length of the next piece. -/
def cmdLen : Nat :=
  let subBufSize := min (128 - 7) size
  if subBufSize < size - e.offset then subBufSize else size - e.offset

/-- The transfer of the next piece. -/
def transferido : Canal :=
  e.canal.transferData baseCmdSize (llegadas e.hechas.length)

/-- A round: the piece is counted, and an error ends the loop. -/
def trozo (e : Envio) : Envio where
  canal := e.transferido llegadas
  offset := e.offset + e.cmdLen size
  err :=
    let canal := e.transferido llegadas
    if canal.resultado = 0 then
      let (err, status) := canal.parseGenericCmdResult 0 baseCmdSize
      if status ≠ 0 then status.toNat ||| 0x4000 else err
    else
      canal.resultado
  hechas := e.hechas ++ [e.transferido llegadas]

/-- `SendData` -/
def sendData (canal : Canal) (offset : Nat) : Envio :=
  whileFuel (sigue size maxRemainingDataSize) (trozo size llegadas) size ⟨canal, offset, 0, []⟩

end Envio

/-! ## What is promised -/

/-- A complete frame that answers the command has arrived since it was sent: its start,
its status 0 and its end. -/
def Canal.Acuse (outSize : Nat) (s : Canal) : Prop :=
  ∃ trama : List Octeto, trama <:+: s.recibidos ∧ trama.length = outSize ∧
    (∀ octeto ∈ trama, octeto.orden = s.orden) ∧ trama[0]?.map Octeto.valor = some 1 ∧
    trama[1]?.map Octeto.valor = some 0 ∧ trama[outSize - 1]?.map Octeto.valor = some 0x17

/-- A transfer has ended: it has an acknowledgement, or it has sent its command 4001
times at most and returns an error. -/
def Canal.Fiable (outSize : Nat) (s : Canal) : Prop :=
  s.timeout ≤ 4001 ∧ (s.resultado = 0 ∧ s.Acuse outSize ∨ s.resultado = 68 ||| 0x2000)

/-! ## When it is kept -/

/-- What has arrived in a pass up to a read. -/
def Llegadas.hasta (llegadas : Llegadas) (i : Nat) : List Octeto :=
  (List.range i).flatMap llegadas.entre

/-- Each of the reads of a queue finds a byte. -/
def Entera (outSize : Nat) (cola : List Octeto) (llegadas : Llegadas) : Prop :=
  ∀ i, i < outSize → i < (cola ++ llegadas.hasta (i + 1)).length

/-- The reads end before the last one, and nothing arrives between them. -/
def Parcial (outSize : Nat) (cola : List Octeto) (llegadas : Llegadas) : Prop :=
  cola.length < outSize ∧ ∀ i, llegadas.entre i = []

/-- The condition on a pass: nothing arrives before the command is sent, all that
arrives answers it, and when there is something to read each read finds a byte; the last
ones may find none while the last place of `outBuf` does not hold the end of a reply. -/
structure Limpia (outSize : Nat) (s : Canal) (llegadas : Llegadas) : Prop where
  antes : s.timeout = 0 → llegadas.antes = []
  propias : ∀ octeto, octeto ∈ llegadas.antes ∨ octeto ∈ llegadas.despues ∨
    (∃ i, octeto ∈ llegadas.entre i) → octeto.orden = s.orden
  enteras : s.cola ++ llegadas.antes ++ llegadas.despues ≠ [] →
    Entera outSize (s.cola ++ llegadas.antes ++ llegadas.despues) llegadas ∨
      s.outBuf (outSize - 1) ≠ 0x17 ∧
        Parcial outSize (s.cola ++ llegadas.antes ++ llegadas.despues) llegadas

/-- Every pass of a transfer meets it. -/
def Limpias (outSize : Nat) (llegadas : Nat → Llegadas) (s : Canal) : Prop :=
  ∀ j t, Heads Canal.sigue (Canal.ronda outSize llegadas) (0, s.empieza) (j, t) →
    Canal.sigue (j, t) = true → Limpia outSize t (llegadas j)

section Lectura

variable {s : Canal} {llegadas : Llegadas} {outSize : Nat}

theorem hasta_succ (llegadas : Llegadas) (i : Nat) :
    llegadas.hasta (i + 1) = llegadas.hasta i ++ llegadas.entre i := by
  simp [Llegadas.hasta, List.range_succ]

/-- The variables that the reads leave as they are. -/
def Canal.reloj (s : Canal) : Nat × UInt8 × Nat × Nat :=
  (s.err, s.cntTimeoutTx, s.timeout, s.orden)

theorem reloj_lee (entre : Nat → List Octeto) : (s.lee outSize entre).reloj = s.reloj := by
  refine forUpTo_unchanged Canal.reloj fun i _ s => ?_
  unfold Canal.leeUno
  split
  · rfl
  · rfl

/-- After `i` reads that have all found a byte. -/
structure Leidas (s : Canal) (llegadas : Llegadas) (i : Nat) (t : Canal) : Prop where
  hay : i ≤ (s.cola ++ llegadas.hasta i).length
  cola : t.cola = (s.cola ++ llegadas.hasta i).drop i
  recibidos : t.recibidos = s.recibidos ++ llegadas.hasta i
  bytes : ∀ k, k < i → (s.cola ++ llegadas.hasta i)[k]?.map Octeto.valor = some (t.outBuf k)

/-- One more read. -/
theorem Leidas.leeUno {i : Nat} {t : Canal} (leidas : Leidas s llegadas i t)
    (queda : i < (s.cola ++ llegadas.hasta (i + 1)).length) :
    Leidas s llegadas (i + 1) (t.leeUno llegadas.entre i) := by
  have todo : s.cola ++ llegadas.hasta (i + 1) =
      (s.cola ++ llegadas.hasta i) ++ llegadas.entre i := by
    rw [hasta_succ, List.append_assoc]
  have cola : (t.llegan (llegadas.entre i)).cola =
      (s.cola ++ llegadas.hasta (i + 1))[i] :: (s.cola ++ llegadas.hasta (i + 1)).drop (i + 1) := by
    rw [← List.drop_eq_getElem_cons queda, todo, List.drop_append_of_le_length leidas.hay,
      ← leidas.cola]
    rfl
  have recibidos : (t.llegan (llegadas.entre i)).recibidos =
      s.recibidos ++ llegadas.hasta (i + 1) := by
    rw [hasta_succ, ← List.append_assoc, ← leidas.recibidos]
    rfl
  unfold Canal.leeUno
  rw [cola]
  refine ⟨queda, rfl, recibidos, fun k below => ?_⟩
  by_cases ultimo : k = i
  · subst ultimo
    rw [List.getElem?_eq_getElem queda]
    simp
  · have antes : k < i := by omega
    have byte := leidas.bytes k antes
    rw [← List.getElem?_append_left (Nat.lt_of_lt_of_le antes leidas.hay), ← todo] at byte
    rw [byte]
    simp [ultimo]

theorem leidas_lee (entera : Entera outSize s.cola llegadas) :
    Leidas s llegadas outSize (s.lee outSize llegadas.entre) := by
  refine forUpTo_induction (Leidas s llegadas) ?_ fun i below t leidas =>
    leidas.leeUno (entera i below)
  exact ⟨Nat.zero_le _, by simp [Llegadas.hasta], by simp [Llegadas.hasta],
    fun k below => absurd below (Nat.not_lt_zero k)⟩

/-- After `i` reads between which nothing arrives. -/
structure Agotadas (s : Canal) (i : Nat) (t : Canal) : Prop where
  cola : t.cola = s.cola.drop i
  recibidos : t.recibidos = s.recibidos
  outBuf : ∀ k, s.cola.length ≤ k → t.outBuf k = s.outBuf k
  bytes : ∀ k, k < i → ∀ octeto, s.cola[k]? = some octeto → t.outBuf k = octeto.valor

theorem Agotadas.leeUno {i : Nat} {t : Canal} (agotadas : Agotadas s i t)
    (nada : llegadas.entre i = []) : Agotadas s (i + 1) (t.leeUno llegadas.entre i) := by
  obtain ⟨cola, recibidos, outBuf, bytes⟩ := agotadas
  have igual : t.llegan (llegadas.entre i) = t := by
    rw [nada]
    simp [Canal.llegan]
  unfold Canal.leeUno
  rw [igual]
  by_cases queda : i < s.cola.length
  · rw [List.drop_eq_getElem_cons queda] at cola
    rw [cola]
    refine ⟨rfl, recibidos, fun k detras => ?_, fun k below octeto lee => ?_⟩
    · have otro : k ≠ i := by omega
      exact (Function.update_of_ne otro _ _).trans (outBuf k detras)
    · by_cases ultimo : k = i
      · subst ultimo
        rw [List.getElem?_eq_getElem queda] at lee
        rw [← Option.some.inj lee]
        exact Function.update_self ..
      · exact (Function.update_of_ne ultimo _ _).trans (bytes k (by omega) octeto lee)
  · rw [List.drop_eq_nil_of_le (by omega)] at cola
    rw [cola]
    refine ⟨by rw [cola, List.drop_eq_nil_of_le (by omega)], recibidos, outBuf, ?_⟩
    intro k below octeto lee
    obtain ⟨dentro, -⟩ := List.getElem?_eq_some_iff.mp lee
    exact bytes k (by omega) octeto lee

theorem agotadas_lee (nada : ∀ i, llegadas.entre i = []) :
    Agotadas s outSize (s.lee outSize llegadas.entre) := by
  refine forUpTo_induction (Agotadas s) ?_ fun i _ t agotadas => agotadas.leeUno (nada i)
  exact ⟨rfl, rfl, fun _ _ => rfl, fun k below => absurd below (Nat.not_lt_zero k)⟩

/-- A reply read whole is a frame of what has arrived. -/
theorem acuse_of_leidas {t : Canal} (leidas : Leidas s llegadas outSize t) (dos : 2 ≤ outSize)
    (cola : s.cola <:+ s.recibidos) (propias : ∀ octeto ∈ t.recibidos, octeto.orden = t.orden)
    (inicio : t.outBuf 0 = 1) (estado : t.outBuf 1 = 0) (fin : t.outBuf (outSize - 1) = 0x17) :
    t.Acuse outSize := by
  have dentro : s.cola ++ llegadas.hasta outSize <:+ t.recibidos := by
    rw [leidas.recibidos]
    obtain ⟨viejos, partida⟩ := cola
    exact ⟨viejos, by rw [← partida, List.append_assoc]⟩
  have trama : (s.cola ++ llegadas.hasta outSize).take outSize <:+: t.recibidos :=
    (List.take_prefix _ _).isInfix.trans dentro.isInfix
  have byte {k : Nat} (below : k < outSize) :
      ((s.cola ++ llegadas.hasta outSize).take outSize)[k]?.map Octeto.valor =
        some (t.outBuf k) := by
    rw [List.getElem?_take_of_lt below]
    exact leidas.bytes k below
  refine ⟨_, trama, ?_, fun octeto mem => propias octeto (trama.mem mem), ?_, ?_, ?_⟩
  · rw [List.length_take, Nat.min_eq_left leidas.hay]
  · rw [byte (by omega), inicio]
  · rw [byte (by omega), estado]
  · rw [byte (by omega), fin]

end Lectura

/-! ## A pass -/

section Vuelta

variable {s : Canal} {llegadas : Llegadas} {outSize : Nat}

/-- What the first half of a pass does to the counter, when it sends and when it does
not. -/
theorem espera_cases :
    (s.cntTimeoutTx - 1 = 0 ∧ (s.espera llegadas).cntTimeoutTx = 25 ∧
        (s.espera llegadas).timeout = s.timeout + 1) ∨
      (s.cntTimeoutTx - 1 ≠ 0 ∧ (s.espera llegadas).cntTimeoutTx = s.cntTimeoutTx - 1 ∧
        (s.espera llegadas).timeout = s.timeout) := by
  by_cases limite : 4000 < s.timeout
  · by_cases envia : s.cntTimeoutTx - 1 = 0
    · simp [Canal.espera, Canal.llegan, Canal.envia, limite, envia]
    · simp [Canal.espera, Canal.llegan, limite, envia]
  · by_cases envia : s.cntTimeoutTx - 1 = 0
    · simp [Canal.espera, Canal.llegan, Canal.envia, limite, envia]
    · simp [Canal.espera, Canal.llegan, limite, envia]

theorem err_espera : (s.espera llegadas).err = if 4000 < s.timeout then 68 else s.err := by
  unfold Canal.espera
  dsimp only
  split_ifs <;> rfl

theorem orden_espera : (s.espera llegadas).orden = s.orden := by
  unfold Canal.espera
  dsimp only
  split_ifs <;> rfl

theorem outBuf_espera : (s.espera llegadas).outBuf = s.outBuf := by
  unfold Canal.espera
  dsimp only
  split_ifs <;> rfl

theorem cola_espera :
    (s.espera llegadas).cola = s.cola ++ llegadas.antes ++ llegadas.despues := by
  unfold Canal.espera
  dsimp only
  split_ifs <;> rfl

/-- What has arrived since the command was sent, when this is the first time and when it
is not. -/
theorem recibidos_espera :
    (s.espera llegadas).recibidos =
      if s.cntTimeoutTx - 1 = 0 ∧ s.timeout = 0 then llegadas.despues
      else s.recibidos ++ llegadas.antes ++ llegadas.despues := by
  by_cases envia : s.cntTimeoutTx - 1 = 0
  · by_cases primera : s.timeout = 0
    · simp [Canal.espera, Canal.llegan, Canal.envia, envia, primera]
    · by_cases limite : 4000 < s.timeout
      · simp [Canal.espera, Canal.llegan, Canal.envia, envia, primera, limite]
      · simp [Canal.espera, Canal.llegan, Canal.envia, envia, primera, limite]
  · by_cases limite : 4000 < s.timeout
    · simp [Canal.espera, Canal.llegan, envia, limite]
    · simp [Canal.espera, Canal.llegan, envia, limite]

theorem comprueba_cases :
    (s.comprueba outSize = s ∨ s.outBuf 0 = 1 ∧ s.outBuf (outSize - 1) = 0x17 ∧ s.outBuf 1 = 0 ∧
      s.comprueba outSize = { s with err := 0 }) := by
  unfold Canal.comprueba
  split_ifs with acuse
  · refine Or.inr ⟨acuse.1, acuse.2.1, acuse.2.2, ?_⟩
    rw [acuse.2.2]
    rfl
  · exact Or.inl rfl

theorem err_comprueba_iff (fuera : s.err ≠ 0) : (s.comprueba outSize).err = 0 ↔
    s.outBuf 0 = 1 ∧ s.outBuf (outSize - 1) = 0x17 ∧ s.outBuf 1 = 0 := by
  obtain igual | ⟨inicio, fin, estado, igual⟩ := @comprueba_cases s outSize
  · refine iff_of_false (by rwa [igual]) fun acuse => fuera ?_
    rw [← igual, Canal.comprueba, if_pos acuse, acuse.2.2]
    rfl
  · rw [igual]
    exact iff_of_true rfl ⟨inicio, fin, estado⟩

/-- The second half of a pass: nothing to read, a reply that is not accepted, and one
that is. -/
theorem vuelta_cases :
    (s.espera llegadas).cola = [] ∧ s.vuelta outSize llegadas = s.espera llegadas ∨
      (s.espera llegadas).cola ≠ [] ∧
        s.vuelta outSize llegadas = (s.espera llegadas).lee outSize llegadas.entre ∨
      (s.espera llegadas).cola ≠ [] ∧
        ((s.espera llegadas).lee outSize llegadas.entre).outBuf 0 = 1 ∧
        ((s.espera llegadas).lee outSize llegadas.entre).outBuf (outSize - 1) = 0x17 ∧
        ((s.espera llegadas).lee outSize llegadas.entre).outBuf 1 = 0 ∧
        s.vuelta outSize llegadas =
          { (s.espera llegadas).lee outSize llegadas.entre with err := 0 } := by
  unfold Canal.vuelta
  dsimp only
  split_ifs with vacia
  · exact Or.inl ⟨vacia, rfl⟩
  · obtain igual | ⟨inicio, fin, estado, igual⟩ :=
      @comprueba_cases ((s.espera llegadas).lee outSize llegadas.entre) outSize
    · exact Or.inr (Or.inl ⟨vacia, igual⟩)
    · exact Or.inr (Or.inr ⟨vacia, inicio, fin, estado, igual⟩)

/-- The second half leaves the counter as it is, and `err` unless there is a reply. -/
theorem reloj_vuelta :
    (s.vuelta outSize llegadas).reloj = (s.espera llegadas).reloj ∨
      (s.vuelta outSize llegadas).reloj = (0, (s.espera llegadas).reloj.2) := by
  have lee := @reloj_lee (s.espera llegadas) outSize llegadas.entre
  obtain ⟨-, igual⟩ | ⟨-, igual⟩ | ⟨-, -, -, -, igual⟩ := @vuelta_cases s llegadas outSize
  · exact Or.inl (by rw [igual])
  · exact Or.inl (by rw [igual, lee])
  · refine Or.inr ?_
    rw [igual, ← lee]
    rfl

theorem orden_vuelta : (s.vuelta outSize llegadas).orden = s.orden := by
  rw [← @orden_espera s llegadas]
  obtain reloj | reloj := @reloj_vuelta s llegadas outSize
  · exact congrArg (fun r => r.2.2.2) reloj
  · exact congrArg (fun r => r.2.2.2) reloj

end Vuelta

/-! ## The number of passes -/

section Rondas

variable {s : Canal} {llegadas : Llegadas} {outSize : Nat}

/-- The loop goes on: the command has been sent `timeout` times, and is sent again when
the counter is 0. -/
structure EnMarcha (s : Canal) : Prop where
  err : s.err = 1
  uno : 1 ≤ s.cntTimeoutTx.toNat
  tope : s.cntTimeoutTx.toNat ≤ 25
  primera : s.timeout = 0 → s.cntTimeoutTx = 1
  limite : s.timeout ≤ 4000 ∨ s.timeout = 4001 ∧ s.cntTimeoutTx = 25

/-- The loop has been left. -/
def Acabada (s : Canal) : Prop :=
  s.timeout ≤ 4001 ∧ (s.err = 0 ∨ s.err = 68)

/-- The passes that are left at most. -/
def quedan (s : Canal) : Nat :=
  (4001 - s.timeout) * 25 + s.cntTimeoutTx.toNat

theorem toNat_sub_one {c : UInt8} (uno : 1 ≤ c.toNat) : (c - 1).toNat = c.toNat - 1 := by
  have cabe : (1 : UInt8) ≤ c := UInt8.le_iff_toNat_le.mpr uno
  rw [UInt8.toNat_sub_of_le c 1 cabe]
  rfl

/-- The counter behind the first half of a pass, below the limit. -/
theorem EnMarcha.cuenta (marcha : EnMarcha s) (limite : s.timeout ≤ 4000) :
    1 ≤ (s.espera llegadas).cntTimeoutTx.toNat ∧ (s.espera llegadas).cntTimeoutTx.toNat ≤ 25 ∧
      (s.espera llegadas).timeout ≠ 0 ∧
      ((s.espera llegadas).timeout ≤ 4000 ∨
        (s.espera llegadas).timeout = 4001 ∧ (s.espera llegadas).cntTimeoutTx = 25) ∧
      quedan (s.espera llegadas) < quedan s := by
  obtain ⟨-, uno, tope, primera, -⟩ := marcha
  have menos := toNat_sub_one uno
  obtain ⟨envia, cnt, timeout⟩ | ⟨calla, cnt, timeout⟩ := @espera_cases s llegadas
  · have veinticinco : (25 : UInt8).toNat = 25 := rfl
    have cero : s.cntTimeoutTx.toNat - 1 = 0 := by rw [← menos, envia]; rfl
    unfold quedan
    rw [cnt, timeout, veinticinco]
    refine ⟨by omega, by omega, by omega, ?_, by omega⟩
    obtain antes | justo := Nat.lt_or_eq_of_le limite
    · exact Or.inl (by omega)
    · exact Or.inr ⟨by omega, rfl⟩
  · have dos : s.cntTimeoutTx.toNat - 1 ≠ 0 := by
      rw [← menos]
      exact fun cero => calla (UInt8.toNat_inj.mp cero)
    have enviada : s.timeout ≠ 0 := fun cero => by
      rw [primera cero] at calla
      exact calla rfl
    unfold quedan
    rw [cnt, timeout, menos]
    exact ⟨by omega, by omega, enviada, Or.inl limite, by omega⟩

theorem EnMarcha.timeout_espera_le (marcha : EnMarcha s) : (s.espera llegadas).timeout ≤ 4001 := by
  obtain limite | ⟨limite, cnt⟩ := marcha.limite
  · obtain ⟨-, -, -, cerca | ⟨justo, -⟩, -⟩ := @EnMarcha.cuenta _ llegadas marcha limite
    · omega
    · omega
  · obtain ⟨envia, -, -⟩ | ⟨-, -, timeout⟩ := @espera_cases s llegadas
    · rw [cnt] at envia
      exact absurd envia (by decide)
    · omega

/-- A pass of the loop ends it or brings it nearer to the limit. -/
theorem EnMarcha.vuelta (marcha : EnMarcha s) :
    Acabada (s.vuelta outSize llegadas) ∨
      EnMarcha (s.vuelta outSize llegadas) ∧ quedan (s.vuelta outSize llegadas) < quedan s := by
  have tope := @EnMarcha.timeout_espera_le _ llegadas marcha
  obtain reloj | reloj := @reloj_vuelta s llegadas outSize
  · obtain ⟨err, cnt, timeout, -⟩ : _ ∧ _ ∧ _ ∧ _ := by simpa [Canal.reloj] using reloj
    rw [err_espera] at err
    by_cases limite : 4000 < s.timeout
    · rw [if_pos limite] at err
      exact Or.inl ⟨by omega, Or.inr err⟩
    · rw [if_neg limite] at err
      obtain ⟨uno, veinticinco, enviada, cerca, menos⟩ :=
        @EnMarcha.cuenta _ llegadas marcha (by omega)
      refine Or.inr ⟨⟨err.trans marcha.err, ?_, ?_, fun cero => ?_, ?_⟩, ?_⟩
      · rwa [cnt]
      · rwa [cnt]
      · exact absurd (timeout.symm.trans cero) enviada
      · rwa [timeout, cnt]
      · unfold quedan
        rwa [cnt, timeout]
  · obtain ⟨err, -, timeout, -⟩ : _ ∧ _ ∧ _ ∧ _ := by simpa [Canal.reloj] using reloj
    exact Or.inl ⟨by omega, Or.inl err⟩

theorem enMarcha_empieza (s : Canal) : EnMarcha s.empieza where
  err := rfl
  uno := (by decide : 1 ≤ (1 : UInt8).toNat)
  tope := (by decide : (1 : UInt8).toNat ≤ 25)
  primera _ := rfl
  limite := Or.inl (Nat.zero_le _)

/-- The loop goes on or has been left. -/
def EnCurso (s : Canal) : Prop :=
  EnMarcha s ∨ Acabada s

theorem Acabada.err_ne (acabada : Acabada s) : s.err ≠ 1 := by
  obtain cero | limite := acabada.2
  · omega
  · omega

/-- The passes that are left at most; none when the loop has been left. -/
def medida (s : Canal) : Nat :=
  if s.err = 1 then quedan s else 0

theorem EnCurso.vuelta (curso : EnCurso s) (uno : s.err = 1) :
    EnCurso (s.vuelta outSize llegadas) ∧ medida (s.vuelta outSize llegadas) < medida s := by
  obtain marcha | acabada := curso
  · unfold medida
    rw [if_pos uno]
    obtain acabada | ⟨sigue, menos⟩ := @EnMarcha.vuelta s llegadas outSize marcha
    · refine ⟨Or.inr acabada, ?_⟩
      have quedaUna := marcha.uno
      rw [if_neg acabada.err_ne]
      unfold quedan
      omega
    · rw [if_pos sigue.err]
      exact ⟨Or.inl sigue, menos⟩
  · exact absurd uno acabada.err_ne

theorem enCurso_ronda {llegadas : Nat → Llegadas} (r : Nat × Canal) (curso : EnCurso r.2)
    (enters : Canal.sigue r = true) : EnCurso (Canal.ronda outSize llegadas r).2 ∧
      medida (Canal.ronda outSize llegadas r).2 < medida r.2 :=
  curso.vuelta (by simpa [Canal.sigue] using enters)

/-- The loop of a transfer is left before it has sent its command more than 4001 times,
with a reply or with the error of the limit. -/
theorem acabada_transferData (s : Canal) (outSize : Nat) (llegadas : Nat → Llegadas) :
    Acabada (s.transferData outSize llegadas) := by
  have empieza : EnCurso s.empieza := Or.inl (enMarcha_empieza s)
  have bastan : medida s.empieza ≤ Canal.vueltas :=
    (by decide : (4001 - 0) * 25 + (1 : UInt8).toNat ≤ 100026)
  have sale : Canal.sigue (whileFuel Canal.sigue (Canal.ronda outSize llegadas) Canal.vueltas
      (0, s.empieza)) = false :=
    whileFuel_leaves_of (fun r => EnCurso r.2) (fun r => medida r.2) enCurso_ronda empieza bastan
  have curso : EnCurso (s.transferData outSize llegadas) :=
    (whileFuel_heads Canal.sigue (Canal.ronda outSize llegadas) Canal.vueltas
      (0, s.empieza)).invariant (fun r => EnCurso r.2) empieza
      fun r _ curso enters => (enCurso_ronda r curso enters).1
  obtain marcha | acabada := curso
  · have uno := marcha.err
    unfold Canal.transferData at uno
    exact absurd sale (by simp [Canal.sigue, uno])
  · exact acabada

end Rondas

/-! ## The acknowledgement -/

section Acuses

variable {s : Canal} {llegadas : Llegadas} {outSize : Nat}

/-- What is in the queue has arrived since the command was sent, and answers it. -/
structure Limpio (s : Canal) : Prop where
  cola : s.cola <:+ s.recibidos
  propias : ∀ octeto ∈ s.recibidos, octeto.orden = s.orden
  vacia : s.timeout = 0 → s.cola = []

theorem limpio_empieza (s : Canal) : Limpio s.empieza where
  cola := List.suffix_refl _
  propias _ mem := absurd mem List.not_mem_nil
  vacia _ := rfl

theorem EnMarcha.timeout_espera_ne (marcha : EnMarcha s) : (s.espera llegadas).timeout ≠ 0 := by
  obtain ⟨-, -, timeout⟩ | ⟨calla, -, timeout⟩ := @espera_cases s llegadas
  · omega
  · intro cero
    rw [marcha.primera (timeout.symm.trans cero)] at calla
    exact calla rfl

theorem Limpio.espera (limpio : Limpio s) (marcha : EnMarcha s)
    (limpia : Limpia outSize s llegadas) : Limpio (s.espera llegadas) := by
  obtain ⟨cola, propias, vacia⟩ := limpio
  have nuevas : ∀ octeto ∈ llegadas.antes ++ llegadas.despues, octeto.orden = s.orden :=
    fun octeto mem => limpia.propias octeto ((List.mem_append.mp mem).imp_right Or.inl)
  refine ⟨?_, ?_, fun cero => absurd cero marcha.timeout_espera_ne⟩
  · rw [cola_espera, recibidos_espera]
    split_ifs with primera
    · rw [vacia primera.2, limpia.antes primera.2]
      exact List.suffix_refl _
    · obtain ⟨viejos, partida⟩ := cola
      exact ⟨viejos, by rw [← partida]; simp only [List.append_assoc]⟩
  · rw [recibidos_espera, orden_espera]
    split_ifs
    · exact fun octeto mem => nuevas octeto (List.mem_append_right _ mem)
    · rw [List.append_assoc]
      exact fun octeto mem => (List.mem_append.mp mem).elim (propias octeto) (nuevas octeto)

theorem Limpio.agotadas (limpio : Limpio s) (nada : ∀ i, llegadas.entre i = []) :
    Limpio (s.lee outSize llegadas.entre) := by
  obtain ⟨cola, recibidos, -, -⟩ := @agotadas_lee s llegadas outSize nada
  obtain ⟨-, -, timeout, orden⟩ : _ ∧ _ ∧ _ ∧ _ := by
    simpa [Canal.reloj] using @reloj_lee s outSize llegadas.entre
  refine ⟨?_, ?_, fun cero => ?_⟩
  · rw [cola, recibidos]
    exact (List.drop_suffix _ _).trans limpio.cola
  · rw [recibidos, orden]
    exact limpio.propias
  · rw [cola, limpio.vacia (timeout.symm.trans cero), List.drop_nil]

/-- What the reads of a pass leave. -/
theorem Limpio.lee (limpio : Limpio s) (enviada : s.timeout ≠ 0)
    (propias : ∀ i, ∀ octeto ∈ llegadas.entre i, octeto.orden = s.orden)
    (leidas : Leidas s llegadas outSize (s.lee outSize llegadas.entre)) :
    Limpio (s.lee outSize llegadas.entre) := by
  obtain ⟨-, -, timeout, orden⟩ : _ ∧ _ ∧ _ ∧ _ := by
    simpa [Canal.reloj] using @reloj_lee s outSize llegadas.entre
  refine ⟨?_, ?_, fun cero => absurd (timeout.symm.trans cero) enviada⟩
  · rw [leidas.cola, leidas.recibidos]
    obtain ⟨viejos, partida⟩ := limpio.cola
    refine (List.drop_suffix _ _).trans ⟨viejos, ?_⟩
    rw [← partida, List.append_assoc]
  · rw [leidas.recibidos, orden]
    intro octeto mem
    obtain viejo | nuevo := List.mem_append.mp mem
    · exact limpio.propias octeto viejo
    · obtain ⟨i, -, llega⟩ := List.mem_flatMap.mp nuevo
      exact propias i octeto llega

theorem EnMarcha.err_espera_ne (marcha : EnMarcha s) : (s.espera llegadas).err ≠ 0 := by
  rw [err_espera, marcha.err]
  split_ifs
  · decide
  · decide

/-- A pass that meets the condition accepts nothing but an acknowledgement. -/
theorem Limpio.vuelta (limpio : Limpio s) (marcha : EnMarcha s) (dos : 2 ≤ outSize)
    (limpia : Limpia outSize s llegadas) :
    Limpio (s.vuelta outSize llegadas) ∧
      ((s.vuelta outSize llegadas).err = 0 → (s.vuelta outSize llegadas).Acuse outSize) := by
  have espera := limpio.espera marcha limpia
  have propias : ∀ i, ∀ octeto ∈ llegadas.entre i, octeto.orden = (s.espera llegadas).orden :=
    fun i octeto mem => orden_espera.symm ▸ limpia.propias octeto (Or.inr (Or.inr ⟨i, mem⟩))
  have fuera : (s.espera llegadas).err ≠ 0 := marcha.err_espera_ne
  -- a pass that does not read everything keeps the last place of `outBuf`
  have lee (queda : (s.espera llegadas).cola ≠ []) :
      Limpio ((s.espera llegadas).lee outSize llegadas.entre) ∧
        (Leidas (s.espera llegadas) llegadas outSize
            ((s.espera llegadas).lee outSize llegadas.entre) ∨
          ((s.espera llegadas).lee outSize llegadas.entre).outBuf (outSize - 1) ≠ 0x17) := by
    rw [cola_espera] at queda
    obtain entera | ⟨resto, corta, nada⟩ := limpia.enteras queda
    · rw [← cola_espera] at entera
      have leidas := leidas_lee entera
      exact ⟨espera.lee marcha.timeout_espera_ne propias leidas, Or.inl leidas⟩
    · have igual := (@agotadas_lee (s.espera llegadas) llegadas outSize nada).outBuf (outSize - 1)
        (by rw [cola_espera]; omega)
      refine ⟨espera.agotadas nada, Or.inr ?_⟩
      rw [igual, outBuf_espera]
      exact resto
  obtain ⟨-, igual⟩ | ⟨queda, igual⟩ | ⟨queda, inicio, fin, estado, igual⟩ :=
    @vuelta_cases s llegadas outSize
  · rw [igual]
    exact ⟨espera, fun cero => absurd cero fuera⟩
  · have err := congrArg Prod.fst (@reloj_lee (s.espera llegadas) outSize llegadas.entre)
    rw [igual]
    exact ⟨(lee queda).1, fun cero => absurd (err.symm.trans cero) fuera⟩
  · obtain ⟨limpio, leidas | otro⟩ := lee queda
    · have acuse := acuse_of_leidas leidas dos espera.cola limpio.propias inicio estado fin
      rw [igual]
      exact ⟨⟨limpio.cola, limpio.propias, limpio.vacia⟩, fun _ => acuse⟩
    · exact absurd fin otro

/-- A pass that reads a whole reply accepts it exactly when its start, its status and its
end are right. -/
theorem vuelta_entera_iff (marcha : EnMarcha s) (dos : 2 ≤ outSize)
    (lleno : (s.espera llegadas).cola ≠ [])
    (entera : Entera outSize (s.espera llegadas).cola llegadas) :
    (s.vuelta outSize llegadas).err = 0 ↔
      ((s.espera llegadas).cola ++ llegadas.hasta outSize)[0]?.map Octeto.valor = some 1 ∧
        ((s.espera llegadas).cola ++ llegadas.hasta outSize)[outSize - 1]?.map Octeto.valor =
          some 0x17 ∧
        ((s.espera llegadas).cola ++ llegadas.hasta outSize)[1]?.map Octeto.valor = some 0 := by
  have bytes := (leidas_lee entera).bytes
  have err := congrArg Prod.fst (@reloj_lee (s.espera llegadas) outSize llegadas.entre)
  have fuera : ((s.espera llegadas).lee outSize llegadas.entre).err ≠ 0 :=
    fun cero => marcha.err_espera_ne (err.symm.trans cero)
  rw [Canal.vuelta, if_neg lleno, err_comprueba_iff fuera, bytes 0 (by omega),
    bytes (outSize - 1) (by omega), bytes 1 (by omega)]
  simp only [Option.some.injEq]

/-- Over a reply that has been accepted, a pass that finds a part of the next one accepts
it exactly when its start is right, and its status if it is there. -/
theorem vuelta_parcial_iff {primero : Octeto} {resto : List Octeto} (marcha : EnMarcha s)
    (dos : 2 ≤ outSize) (cola : (s.espera llegadas).cola = primero :: resto)
    (parcial : Parcial outSize (s.espera llegadas).cola llegadas)
    (estado : s.outBuf 1 = 0) (fin : s.outBuf (outSize - 1) = 0x17) :
    (s.vuelta outSize llegadas).err = 0 ↔
      primero.valor = 1 ∧ ∀ segundo ∈ resto.head?, segundo.valor = 0 := by
  obtain ⟨corta, nada⟩ := parcial
  have agotadas := @agotadas_lee (s.espera llegadas) llegadas outSize nada
  have inicio : ((s.espera llegadas).lee outSize llegadas.entre).outBuf 0 = primero.valor :=
    agotadas.bytes 0 (by omega) primero (by rw [cola]; rfl)
  have final : ((s.espera llegadas).lee outSize llegadas.entre).outBuf (outSize - 1) = 0x17 := by
    rw [agotadas.outBuf _ (by omega), outBuf_espera, fin]
  have segundo : ((s.espera llegadas).lee outSize llegadas.entre).outBuf 1 = 0 ↔
      ∀ segundo ∈ resto.head?, segundo.valor = 0 := by
    cases resto with
    | nil =>
      have igual := agotadas.outBuf 1 (by rw [cola]; exact Nat.le_refl 1)
      rw [igual, outBuf_espera]
      simp [estado]
    | cons otro resto =>
      rw [agotadas.bytes 1 (by omega) otro (by rw [cola]; rfl)]
      simp
  have err := congrArg Prod.fst (@reloj_lee (s.espera llegadas) outSize llegadas.entre)
  have fuera : ((s.espera llegadas).lee outSize llegadas.entre).err ≠ 0 :=
    fun cero => marcha.err_espera_ne (err.symm.trans cero)
  have lleno : (s.espera llegadas).cola ≠ [] := by
    rw [cola]
    exact List.cons_ne_nil _ _
  rw [Canal.vuelta, if_neg lleno, err_comprueba_iff fuera, inicio, final, segundo]
  simp

/-- What holds at the heads of the loop. -/
def Aceptable (outSize : Nat) (s : Canal) : Prop :=
  (s.err = 1 → EnMarcha s ∧ Limpio s) ∧ (s.err = 0 → s.Acuse outSize)

theorem Aceptable.vuelta (aceptable : Aceptable outSize s) (uno : s.err = 1) (dos : 2 ≤ outSize)
    (limpia : Limpia outSize s llegadas) : Aceptable outSize (s.vuelta outSize llegadas) := by
  obtain ⟨marcha, limpio⟩ := aceptable.1 uno
  obtain ⟨queda, acuse⟩ := limpio.vuelta marcha dos limpia
  refine ⟨fun sigue => ⟨?_, queda⟩, acuse⟩
  obtain acabada | ⟨marcha, -⟩ := @EnMarcha.vuelta s llegadas outSize marcha
  · exact absurd sigue acabada.err_ne
  · exact marcha

/-- A transfer all of whose passes meet the condition returns success with its own
acknowledgement only. -/
theorem acuse_transferData {llegadas : Nat → Llegadas} (dos : 2 ≤ outSize)
    (limpias : Limpias outSize llegadas s) (cero : (s.transferData outSize llegadas).err = 0) :
    (s.transferData outSize llegadas).Acuse outSize := by
  have empieza : Aceptable outSize s.empieza :=
    ⟨fun _ => ⟨enMarcha_empieza s, limpio_empieza s⟩, fun cero => absurd cero Nat.one_ne_zero⟩
  have final : Aceptable outSize (s.transferData outSize llegadas) :=
    (whileFuel_heads Canal.sigue (Canal.ronda outSize llegadas) Canal.vueltas
      (0, s.empieza)).invariant (fun r => Aceptable outSize r.2) empieza
      fun r head aceptable enters =>
        aceptable.vuelta (by simpa [Canal.sigue] using enters) dos (limpias r.1 r.2 head enters)
  exact final.2 cero

theorem resultado_of_err (s : Canal) (acabada : Acabada s) :
    s.err = 0 ∧ s.resultado = 0 ∨ s.err = 68 ∧ s.resultado = 68 ||| 0x2000 := by
  unfold Canal.resultado
  obtain cero | limite := acabada.2
  · exact Or.inl ⟨cero, by simp [cero]⟩
  · exact Or.inr ⟨limite, by simp [limite]⟩

theorem fiable_transferData {llegadas : Nat → Llegadas} (dos : 2 ≤ outSize)
    (limpias : Limpias outSize llegadas s) : (s.transferData outSize llegadas).Fiable outSize := by
  have acabada := acabada_transferData s outSize llegadas
  refine ⟨acabada.1, ?_⟩
  obtain ⟨cero, exito⟩ | ⟨-, fallo⟩ := resultado_of_err _ acabada
  · exact Or.inl ⟨exito, acuse_transferData dos limpias cero⟩
  · exact Or.inr fallo

end Acuses

/-! ## Rows -/

section Envios

variable {size maxRemainingDataSize : Nat} {llegadas : Nat → Nat → Llegadas} {canal : Canal}
  {offset : Nat}

/-- Every transfer of `SendData` meets the condition. -/
def EnviosLimpios (size maxRemainingDataSize : Nat) (llegadas : Nat → Nat → Llegadas)
    (canal : Canal) (offset : Nat) : Prop :=
  ∀ e, Heads (Envio.sigue size maxRemainingDataSize) (Envio.trozo size llegadas)
      ⟨canal, offset, 0, []⟩ e →
    Envio.sigue size maxRemainingDataSize e = true →
    Limpias baseCmdSize (llegadas e.hechas.length) e.canal

/-- What is promised of `SendData` at the head of its loop: each of its transfers has
ended as it should, and while there is no error each piece counted is acknowledged. -/
def Envio.Contado (e : Envio) : Prop :=
  (∀ canal ∈ e.hechas, canal.Fiable baseCmdSize) ∧
    (e.err = 0 → ∀ canal ∈ e.hechas, canal.resultado = 0 ∧ canal.Acuse baseCmdSize)

theorem sigue_iff {e : Envio} : Envio.sigue size maxRemainingDataSize e = true ↔
    e.err = 0 ∧ maxRemainingDataSize < size - e.offset := by
  simp [Envio.sigue]

theorem err_trozo {e : Envio} (exito : (e.trozo size llegadas).err = 0) :
    (e.transferido llegadas).resultado = 0 := by
  by_contra fallo
  unfold Envio.trozo at exito
  dsimp only at exito
  rw [if_neg fallo] at exito
  exact fallo exito

theorem contado_trozo {e : Envio} (contado : e.Contado) (cero : e.err = 0)
    (fiable : (e.transferido llegadas).Fiable baseCmdSize) : (e.trozo size llegadas).Contado := by
  obtain ⟨fiables, acuses⟩ := contado
  have hechas {p : Canal → Prop} (antes : ∀ canal ∈ e.hechas, p canal)
      (ultima : p (e.transferido llegadas)) :
      ∀ canal ∈ (e.trozo size llegadas).hechas, p canal := by
    intro canal mem
    obtain vieja | nueva := List.mem_append.mp mem
    · exact antes canal vieja
    · rw [List.mem_singleton.mp nueva]
      exact ultima
  refine ⟨hechas fiables fiable, fun exito => hechas (acuses cero) ?_⟩
  have resultado := err_trozo exito
  obtain ⟨-, acuse⟩ | fallo := fiable.2
  · exact ⟨resultado, acuse⟩
  · exact absurd (fallo.symm.trans resultado) (by decide)

theorem contado_of_limpios (limpios : EnviosLimpios size maxRemainingDataSize llegadas canal offset)
    {e : Envio} (head : Heads (Envio.sigue size maxRemainingDataSize) (Envio.trozo size llegadas)
      ⟨canal, offset, 0, []⟩ e) : e.Contado := by
  refine head.invariant Envio.Contado ⟨?_, fun _ => ?_⟩ fun e head contado enters => ?_
  · exact fun canal mem => absurd mem List.not_mem_nil
  · exact fun canal mem => absurd mem List.not_mem_nil
  · exact contado_trozo contado (sigue_iff.mp enters).1
      (fiable_transferData (by decide) (limpios e head enters))

/-- `SendData` leaves its loop: it has counted enough, or there is an error. -/
theorem sigue_sendData :
    Envio.sigue size maxRemainingDataSize
      (Envio.sendData size maxRemainingDataSize llegadas canal offset) = false := by
  refine whileFuel_leaves (fun e => size - e.offset) (fun e enters => ?_) (Nat.sub_le _ _)
  have queda := (sigue_iff.mp enters).2
  change size - (e.offset + e.cmdLen size) < size - e.offset
  have algo : 0 < e.cmdLen size := by
    unfold Envio.cmdLen
    dsimp only
    split_ifs <;> omega
  omega

end Envios

/-- Every transfer ends after 4001 sendings at most, with success or with the error of
the limit, whatever arrives; when each of its passes meets the condition, success means
its own acknowledgement.  `SendData` ends too, and when all its transfers meet the
condition it never counts a piece that is not acknowledged. -/
theorem transferencias_fiables (s : Canal) (outSize : Nat) (llegadas : Nat → Llegadas)
    (size maxRemainingDataSize offset : Nat) (todas : Nat → Nat → Llegadas) :
    (Acabada (s.transferData outSize llegadas) ∧
      (2 ≤ outSize → Limpias outSize llegadas s →
        (s.transferData outSize llegadas).Fiable outSize)) ∧
    Envio.sigue size maxRemainingDataSize
        (Envio.sendData size maxRemainingDataSize todas s offset) = false ∧
      (EnviosLimpios size maxRemainingDataSize todas s offset →
        ∀ e, Heads (Envio.sigue size maxRemainingDataSize) (Envio.trozo size todas)
            ⟨s, offset, 0, []⟩ e →
          e.Contado) :=
  ⟨⟨acabada_transferData s outSize llegadas, fiable_transferData⟩, sigue_sendData,
    fun limpios _ head => contado_of_limpios limpios head⟩

/-! ## Two pieces -/

/-- The reply to `CMD_SEND_DATA`. -/
def respuesta (orden : Nat) : List Octeto :=
  [1, 0, 0, 0, 0xff, 0xff, 0x17].map fun valor => ⟨valor, orden⟩

/-- Some bytes arrive in the first pass, behind the command. -/
def enLaPrimera (octetos : List Octeto) (j : Nat) : Llegadas where
  antes := []
  despues := if j = 0 then octetos else []
  entre _ := []

/-- Each command is answered before its first pass looks at the line. -/
def puntual (k : Nat) : Nat → Llegadas :=
  enLaPrimera (respuesta (k + 1))

/-- The line when the update starts. -/
def linea : Canal :=
  ⟨[], fun _ => 0, 0, 0, 0, 0, []⟩

theorem limpias_puntual {s : Canal} {k : Nat} (orden : s.orden = k) :
    Limpias baseCmdSize (puntual k) s := by
  intro j t head enters
  have cola : (s.empieza.espera (puntual k 0)).cola = respuesta (k + 1) := cola_espera
  have entera : Entera baseCmdSize (respuesta (k + 1)) (puntual k 0) := by
    intro i below
    rw [List.length_append]
    exact Nat.lt_of_lt_of_le below (Nat.le_add_right _ _)
  have acepta : (s.empieza.vuelta baseCmdSize (puntual k 0)).err = 0 := by
    have lleno : (s.empieza.espera (puntual k 0)).cola ≠ [] := cola ▸ List.cons_ne_nil _ _
    rw [vuelta_entera_iff (enMarcha_empieza s) (by decide) lleno (cola ▸ entera), cola]
    exact ⟨rfl, rfl, rfl⟩
  have primera : (j, t) = (0, s.empieza) ∨ Canal.sigue (j, t) = false := by
    refine head.invariant (fun r => r = (0, s.empieza) ∨ Canal.sigue r = false) (Or.inl rfl) ?_
    rintro r - (rfl | sale) enters
    · exact Or.inr (by simp [Canal.sigue, Canal.ronda, acepta])
    · rw [sale] at enters
      exact absurd enters Bool.false_ne_true
  obtain igual | sale := primera
  · obtain ⟨rfl, rfl⟩ := Prod.mk.inj igual
    refine ⟨fun _ => rfl, fun octeto llega => ?_, fun _ => Or.inl entera⟩
    obtain nada | reply | ⟨i, nada⟩ := llega
    · exact absurd nada List.not_mem_nil
    · obtain ⟨valor, -, rfl⟩ := List.mem_map.mp reply
      exact orden ▸ rfl
    · exact absurd nada List.not_mem_nil
  · rw [sale] at enters
    exact absurd enters Bool.false_ne_true

theorem orden_transferData (s : Canal) (outSize : Nat) (llegadas : Nat → Llegadas) :
    (s.transferData outSize llegadas).orden = s.orden + 1 :=
  (whileFuel_heads Canal.sigue (Canal.ronda outSize llegadas) Canal.vueltas
    (0, s.empieza)).unchanged (fun r => r.2.orden) fun _ => orden_vuelta

theorem enviosLimpios_puntual : EnviosLimpios 288 113 puntual linea 0 := by
  intro e head _
  have orden : e.canal.orden = e.hechas.length := by
    refine head.invariant (fun e => e.canal.orden = e.hechas.length) rfl fun e _ orden _ => ?_
    have una := orden_transferData e.canal baseCmdSize (puntual e.hechas.length)
    change (e.transferido puntual).orden = (e.hechas ++ [e.transferido puntual]).length
    rw [List.length_append, List.length_singleton, ← orden]
    exact una
  exact limpias_puntual orden

/-- Two pieces of a row of 288 bytes, each acknowledged. -/
theorem fiables_dos_trozos :
    (linea.transferData baseCmdSize (puntual 0)).Fiable baseCmdSize ∧
      (Envio.sendData 288 113 puntual linea 0).Contado ∧
      (Envio.sendData 288 113 puntual linea 0).err = 0 ∧
      (Envio.sendData 288 113 puntual linea 0).hechas.length = 2 :=
  have fiables := transferencias_fiables linea baseCmdSize (puntual 0) 288 113 0 puntual
  ⟨fiables.1.2 (by decide) (limpias_puntual rfl),
    fiables.2.2 enviosLimpios_puntual _ (whileFuel_heads ..), rfl, rfl⟩

/-- Of the second reply only the first byte has arrived. -/
def primerByte (k : Nat) : Nat → Llegadas :=
  if k = 0 then puntual 0 else enLaPrimera ((respuesta (k + 1)).take 1)

/-- The second piece is counted with one byte of its acknowledgement. -/
theorem not_contado_primerByte : ¬ (Envio.sendData 288 113 primerByte linea 0).Contado := by
  rintro ⟨-, acuses⟩
  have exito : (Envio.sendData 288 113 primerByte linea 0).err = 0 := rfl
  have segunda : ∃ canal ∈ (Envio.sendData 288 113 primerByte linea 0).hechas,
      canal.recibidos.length = 1 :=
    ⟨_, List.mem_cons_of_mem _ List.mem_cons_self, rfl⟩
  obtain ⟨canal, mem, uno⟩ := segunda
  obtain ⟨-, trama, dentro, largo, -⟩ := acuses exito canal mem
  have corta := dentro.length_le
  rw [largo, uno] at corta
  exact absurd corta (by decide)

end VeltiumCharger.Cybtldr
