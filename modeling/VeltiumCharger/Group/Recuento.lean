import VeltiumCharger.Group.Calculo
import VeltiumCharger.Library.Accumulate
import VeltiumCharger.Library.Share

/-!
# What the counting pass counts

The counting loop reads each record once and rewrites no other record, so
every counter it leaves is a sum over the initial table.  This file gives these
sums: the weight of a charger in the group, the current counted for it and the
phases it is counted on.
-/

namespace VeltiumCharger.Group

open Finset VeltiumCharger.Loop

namespace CaracCharger

/-- The record after the counting loop has passed it. -/
def contado (charger : CaracCharger) : CaracCharger :=
  if charger.hpt.connected then
    if charger.threePhase then { charger with trifasico := 1 } else charger
  else if charger.hpt.idle then charger.reposar
  else charger

/-- The units of the group's current counted for a charger: three when its
currents show it to be three-phase. -/
def peso (charger : CaracCharger) : Nat :=
  if charger.hpt.connected then if charger.threePhase then 3 else 1 else 0

/-- The current counted for a charger, in hundredths of an ampere. -/
def corrienteContada (charger : CaracCharger) : Nat :=
  if charger.hpt.connected then
    charger.current.toNat +
      if charger.threePhase then charger.currentB.toNat + charger.currentC.toNat else 0
  else 0

/-- How often a charger is counted on phase `f` of circuit `k`. -/
def carga (charger : CaracCharger) (k f : Nat) : Nat :=
  if charger.hpt.connected ∧ charger.circuitoIdx = k then
    (if charger.faseA = f then 1 else 0) +
      if charger.threePhase then
        (if 0 < charger.currentB.toNat ∧ charger.faseB = f then 1 else 0) +
          (if 0 < charger.currentC.toNat ∧ charger.faseC = f then 1 else 0)
      else 0
  else 0

theorem contado_of_connected {charger : CaracCharger} (h : charger.hpt.connected = true) :
    charger.contado =
      if charger.threePhase then { charger with trifasico := 1 } else charger := by
  simp [contado, h]

@[simp]
theorem contado_hpt (charger : CaracCharger) : charger.contado.hpt = charger.hpt := by
  unfold contado reposar
  split_ifs <;> rfl

@[simp]
theorem contado_fase (charger : CaracCharger) : charger.contado.fase = charger.fase := by
  unfold contado reposar
  split_ifs <;> rfl

@[simp]
theorem contado_circuito (charger : CaracCharger) :
    charger.contado.circuito = charger.circuito := by
  unfold contado reposar
  split_ifs <;> rfl

@[simp]
theorem contado_chargeReq (charger : CaracCharger) :
    charger.contado.chargeReq = charger.chargeReq := by
  unfold contado reposar
  split_ifs <;> rfl

@[simp]
theorem contado_conected (charger : CaracCharger) :
    charger.contado.conected = charger.conected := by
  unfold contado reposar
  split_ifs <;> rfl

@[simp]
theorem contado_circuitoIdx (charger : CaracCharger) :
    charger.contado.circuitoIdx = charger.circuitoIdx := by
  simp [circuitoIdx]

/-- The counting pass leaves alone every field of a connected charger but the
three-phase mark. -/
theorem contado_threePhase_of_connected {charger : CaracCharger}
    (h : charger.hpt.connected = true) :
    charger.contado.threePhase = charger.threePhase := by
  rw [contado_of_connected h]
  split_ifs <;> rfl

theorem contado_order (charger : CaracCharger) :
    charger.contado.order = if charger.hpt.idle then 0 else charger.order := by
  unfold contado
  split_ifs with connected threePhase idle idle' idle'' <;>
    simp_all [Hpt.idle_eq_false_of_connected, reposar]

@[simp]
theorem contado_peso (charger : CaracCharger) : charger.contado.peso = charger.peso := by
  unfold peso
  rw [contado_hpt]
  split_ifs with connected threePhase threePhase' threePhase'' <;>
    simp_all [contado_threePhase_of_connected]

end CaracCharger

/-! ## One round -/

section SumarFase

variable (circuitos : Nat → CaracCircuito) (k f : Nat) (corriente consigna : UInt16)

@[simp]
theorem sumarFase_limiteCorriente (k' : Nat) :
    (sumarFase circuitos k f corriente consigna k').limiteCorriente =
      (circuitos k').limiteCorriente := by
  by_cases same : k' = k
  · subst same
    simp [sumarFase]
  · simp [sumarFase, same]

@[simp]
theorem sumarFase_conex (k' f' : Nat) :
    ((sumarFase circuitos k f corriente consigna k').fases f').conex =
      ((circuitos k').fases f').conex + if k = k' ∧ f = f' then 1 else 0 := by
  by_cases sameCircuit : k' = k
  · subst sameCircuit
    by_cases samePhase : f' = f
    · subst samePhase
      simp [sumarFase]
    · simp [sumarFase, samePhase, Ne.symm samePhase]
  · simp [sumarFase, sameCircuit, Ne.symm sameCircuit]

/-- Counting a charger leaves the shares of the last pass as they are. -/
@[simp]
theorem sumarFase_corrienteDisponible (k' f' : Nat) :
    ((sumarFase circuitos k f corriente consigna k').fases f').corrienteDisponible =
      ((circuitos k').fases f').corrienteDisponible := by
  by_cases sameCircuit : k' = k
  · subst sameCircuit
    by_cases samePhase : f' = f
    · subst samePhase
      simp [sumarFase]
    · simp [sumarFase, samePhase]
  · simp [sumarFase, sameCircuit]

end SumarFase

section Ronda

variable (i : Nat) (charger : CaracCharger) (r : Recuento)

theorem contarTrifasico_chargerTable :
    (contarTrifasico i charger r).chargerTable =
      Function.update r.chargerTable i { charger with trifasico := 1 } := by
  unfold contarTrifasico
  dsimp only
  split_ifs <;> rfl

@[simp]
theorem contarTrifasico_conex : (contarTrifasico i charger r).conex = r.conex := by
  unfold contarTrifasico
  dsimp only
  split_ifs <;> rfl

@[simp]
theorem contarTrifasico_conexConTri :
    (contarTrifasico i charger r).conexConTri = (r.conexConTri + 2) % 256 := by
  unfold contarTrifasico
  dsimp only
  split_ifs <;> rfl

@[simp]
theorem contarTrifasico_conectados :
    (contarTrifasico i charger r).conectados = r.conectados := by
  unfold contarTrifasico
  dsimp only
  split_ifs <;> rfl

@[simp]
theorem contarTrifasico_historial :
    (contarTrifasico i charger r).historial = r.historial := by
  unfold contarTrifasico
  dsimp only
  split_ifs <;> rfl

@[simp]
theorem contarTrifasico_limiteCorriente (k : Nat) :
    ((contarTrifasico i charger r).circuitos k).limiteCorriente =
      (r.circuitos k).limiteCorriente := by
  unfold contarTrifasico
  dsimp only
  split_ifs <;> simp

@[simp]
theorem contarTrifasico_conexFase (k f : Nat) :
    (((contarTrifasico i charger r).circuitos k).fases f).conex =
      ((r.circuitos k).fases f).conex +
        if charger.circuitoIdx = k then
          (if 0 < charger.currentB.toNat ∧ charger.faseB = f then 1 else 0) +
            (if 0 < charger.currentC.toNat ∧ charger.faseC = f then 1 else 0)
        else 0 := by
  unfold contarTrifasico
  dsimp only
  split_ifs <;> simp_all

theorem contarConectado_chargerTable (same : r.chargerTable i = charger)
    (h : charger.hpt.connected = true) :
    (contarConectado i charger r).chargerTable =
      Function.update r.chargerTable i charger.contado := by
  unfold contarConectado
  rw [CaracCharger.contado_of_connected h]
  dsimp only
  split_ifs <;> simp [contarTrifasico_chargerTable, ← same]

@[simp]
theorem contarConectado_conex :
    (contarConectado i charger r).conex = (r.conex + 1) % 256 := by
  unfold contarConectado
  dsimp only
  split_ifs <;> simp

@[simp]
theorem contarConectado_conexConTri :
    (contarConectado i charger r).conexConTri =
      (r.conexConTri + if charger.threePhase then 3 else 1) % 256 := by
  unfold contarConectado
  dsimp only
  split_ifs <;> simp [Nat.add_assoc]

@[simp]
theorem contarConectado_conectados :
    (contarConectado i charger r).conectados = r.conectados := by
  unfold contarConectado
  dsimp only
  split_ifs <;> simp

@[simp]
theorem contarConectado_historial :
    (contarConectado i charger r).historial = r.historial := by
  unfold contarConectado
  dsimp only
  split_ifs <;> simp

theorem contarConectado_totalPc :
    (contarConectado i charger r).totalPc =
      (r.totalPc + (charger.current.toNat +
        if charger.threePhase then charger.currentB.toNat + charger.currentC.toNat else 0)) %
          65536 := by
  unfold contarConectado contarTrifasico
  dsimp only
  split_ifs <;> dsimp only <;> omega

@[simp]
theorem contarConectado_limiteCorriente (k : Nat) :
    ((contarConectado i charger r).circuitos k).limiteCorriente =
      (r.circuitos k).limiteCorriente := by
  unfold contarConectado
  dsimp only
  split_ifs <;> simp

theorem contarConectado_conexFase (h : charger.hpt.connected = true) (k f : Nat) :
    (((contarConectado i charger r).circuitos k).fases f).conex =
      ((r.circuitos k).fases f).conex + charger.carga k f := by
  unfold contarConectado
  dsimp only
  by_cases delta : 0 < charger.delta.toNat <;>
    by_cases three : charger.threePhase = true <;>
    by_cases same : charger.circuitoIdx = k <;>
    simp [CaracCharger.carga, h, delta, three, same, Nat.add_assoc]

theorem contar_chargerTable :
    (contar i r).chargerTable =
      Function.update r.chargerTable i (r.chargerTable i).contado := by
  unfold contar
  dsimp only
  split_ifs <;>
    simp_all [contarConectado_chargerTable, CaracCharger.contado]

theorem contar_conex (reduced : r.conex % 256 = r.conex) :
    (contar i r).conex =
      (r.conex + if (r.chargerTable i).hpt.connected then 1 else 0) % 256 := by
  unfold contar
  dsimp only
  split_ifs <;> simp [reduced]

theorem contar_conexConTri (reduced : r.conexConTri % 256 = r.conexConTri) :
    (contar i r).conexConTri = (r.conexConTri + (r.chargerTable i).peso) % 256 := by
  unfold contar CaracCharger.peso
  dsimp only
  split_ifs <;> simp [*]

theorem contar_conectados (reduced : r.conectados % 256 = r.conectados) :
    (contar i r).conectados =
      (r.conectados + if (r.chargerTable i).conected then 1 else 0) % 256 := by
  unfold contar
  dsimp only
  split_ifs <;> simp [reduced]

theorem contar_totalPc (reduced : r.totalPc % 65536 = r.totalPc) :
    (contar i r).totalPc =
      (r.totalPc + (r.chargerTable i).corrienteContada) % 65536 := by
  unfold contar CaracCharger.corrienteContada
  dsimp only
  split_ifs <;> simp [contarConectado_totalPc, *]

theorem contar_limiteCorriente (k : Nat) :
    ((contar i r).circuitos k).limiteCorriente = (r.circuitos k).limiteCorriente := by
  unfold contar
  dsimp only
  split_ifs <;> simp

theorem contar_corrienteDisponible (k f : Nat) :
    (((contar i r).circuitos k).fases f).corrienteDisponible =
      ((r.circuitos k).fases f).corrienteDisponible := by
  unfold contar contarConectado contarTrifasico
  dsimp only
  split_ifs <;> simp

theorem contar_conexFase (k f : Nat) :
    (((contar i r).circuitos k).fases f).conex =
      ((r.circuitos k).fases f).conex + (r.chargerTable i).carga k f := by
  unfold contar
  dsimp only
  split_ifs <;> simp_all [contarConectado_conexFase, CaracCharger.carga]

end Ronda

/-! ## The whole loop -/

namespace GroupState

/-- The number of chargers counted as connected. -/
def numConectados (s : GroupState) : Nat :=
  ∑ i ∈ range s.chargerNumber, if (s.chargerTable i).hpt.connected then 1 else 0

/-- The units of the group's current counted over the whole table. -/
def pesoTotal (s : GroupState) : Nat :=
  ∑ i ∈ range s.chargerNumber, (s.chargerTable i).peso

/-- The current counted over the whole table, in hundredths of an ampere. -/
def corrienteTotal (s : GroupState) : Nat :=
  ∑ i ∈ range s.chargerNumber, (s.chargerTable i).corrienteContada

/-- The number of chargers that are reporting. -/
def numInformando (s : GroupState) : Nat :=
  ∑ i ∈ range s.chargerNumber, if (s.chargerTable i).conected then 1 else 0

/-- How often phase `f` of circuit `k` is counted over the whole table. -/
def cargaFase (s : GroupState) (k f : Nat) : Nat :=
  ∑ i ∈ range s.chargerNumber, (s.chargerTable i).carga k f

/-- The share of phase `f` of circuit `k` for each time it is counted. -/
def cuotaFase (s : GroupState) (k f : Nat) : Nat :=
  if 0 < s.cargaFase k f then (s.circuitos k).limiteCorriente.toNat / s.cargaFase k f
  else (s.circuitos k).limiteCorriente.toNat

/-- The share of the phase charger `i` is connected to. -/
def cuotaPropia (s : GroupState) (i : Nat) : Nat :=
  s.cuotaFase (s.chargerTable i).circuitoIdx (s.chargerTable i).faseA

end GroupState

theorem CaracCircuito.reset_fases (circuito : CaracCircuito) (f : Nat) :
    circuito.reset.fases f =
      if f < 3 then (circuito.fases f).reset else circuito.fases f :=
  forUpTo_update (fun _ => CaracFase.reset) 3 circuito.fases f

theorem resetCircuitos_apply (circuitNumber : Nat) (circuitos : Nat → CaracCircuito)
    (k : Nat) :
    resetCircuitos circuitNumber circuitos k =
      if k < circuitNumber then (circuitos k).reset else circuitos k :=
  forUpTo_update (fun _ => CaracCircuito.reset) circuitNumber circuitos k

theorem CaracCircuito.repartir_fases (circuito : CaracCircuito) (f : Nat) :
    circuito.repartir.fases f =
      if f < 3 then (circuito.fases f).repartir circuito.limiteCorriente
      else circuito.fases f :=
  forUpTo_update (fun _ => CaracFase.repartir circuito.limiteCorriente) 3 circuito.fases f

theorem corrientesPorFase_apply (circuitNumber : Nat) (circuitos : Nat → CaracCircuito)
    (k : Nat) :
    corrientesPorFase circuitNumber circuitos k =
      if k < circuitNumber then (circuitos k).repartir else circuitos k :=
  forUpTo_update (fun _ => CaracCircuito.repartir) circuitNumber circuitos k

section Recuento

variable (s : GroupState)

theorem contar_other {i j : Nat} (r : Recuento) (other : j ≠ i) :
    (contar i r).chargerTable j = r.chargerTable j := by
  rw [contar_chargerTable, Function.update_of_ne other]

theorem recuento_chargerTable (i : Nat) :
    (recuento s).chargerTable i =
      if i < s.chargerNumber then (s.chargerTable i).contado else s.chargerTable i := by
  unfold recuento
  rw [forUpTo_pointwise Recuento.chargerTable (fun _ => CaracCharger.contado)
    fun index _ current => contar_chargerTable index current]

theorem recuento_conex : (recuento s).conex = s.numConectados % 256 := by
  unfold recuento GroupState.numConectados
  rw [forUpTo_accumulate Recuento.chargerTable Recuento.conex
    (fun charger => if charger.hpt.connected then 1 else 0) 256 rfl
    (fun _ r _ other => contar_other r other) fun i r reduced => contar_conex i r reduced]
  simp

theorem recuento_conexConTri : (recuento s).conexConTri = s.pesoTotal % 256 := by
  unfold recuento GroupState.pesoTotal
  rw [forUpTo_accumulate Recuento.chargerTable Recuento.conexConTri CaracCharger.peso 256 rfl
    (fun _ r _ other => contar_other r other) fun i r reduced => contar_conexConTri i r reduced]
  simp

theorem recuento_conectados : (recuento s).conectados = s.numInformando % 256 := by
  unfold recuento GroupState.numInformando
  rw [forUpTo_accumulate Recuento.chargerTable Recuento.conectados
    (fun charger => if charger.conected then 1 else 0) 256 rfl
    (fun _ r _ other => contar_other r other) fun i r reduced => contar_conectados i r reduced]
  simp

theorem recuento_totalPc : (recuento s).totalPc = s.corrienteTotal % 65536 := by
  unfold recuento GroupState.corrienteTotal
  rw [forUpTo_accumulate Recuento.chargerTable Recuento.totalPc
    CaracCharger.corrienteContada 65536 rfl
    (fun _ r _ other => contar_other r other) fun i r reduced => contar_totalPc i r reduced]
  simp

@[simp]
theorem recuento_limiteCorriente (k : Nat) :
    ((recuento s).circuitos k).limiteCorriente = (s.circuitos k).limiteCorriente := by
  unfold recuento
  rw [forUpTo_unchanged (fun r : Recuento => (r.circuitos k).limiteCorriente)
    fun i _ r => contar_limiteCorriente i r k]
  dsimp only
  rw [resetCircuitos_apply]
  split_ifs <;> rfl

theorem recuento_corrienteDisponible (k f : Nat) :
    (((recuento s).circuitos k).fases f).corrienteDisponible =
      ((s.circuitos k).fases f).corrienteDisponible := by
  unfold recuento
  rw [forUpTo_unchanged (fun r : Recuento => ((r.circuitos k).fases f).corrienteDisponible)
    fun i _ r => contar_corrienteDisponible i r k f]
  dsimp only
  rw [resetCircuitos_apply]
  split_ifs
  · rw [CaracCircuito.reset_fases]
    split_ifs <;> rfl
  · rfl

theorem recuento_conexFase {k f : Nat} (circuit : k < s.circuitNumber) (phase : f < 3) :
    (((recuento s).circuitos k).fases f).conex = s.cargaFase k f := by
  unfold recuento GroupState.cargaFase
  rw [forUpTo_accumulate Recuento.chargerTable
    (fun r : Recuento => ((r.circuitos k).fases f).conex)
    (fun charger => charger.carga k f) 0 (Nat.mod_zero _)
    (fun _ r _ other => contar_other r other)
    fun i r _ => by rw [contar_conexFase, Nat.mod_zero]]
  dsimp only
  rw [resetCircuitos_apply, if_pos circuit, CaracCircuito.reset_fases, if_pos phase,
    Nat.mod_zero]
  simp [CaracFase.reset]

end Recuento

/-! ## A table within the program's bounds -/

section Bounded

variable {s : GroupState}

theorem CaracCharger.peso_le (charger : CaracCharger) : charger.peso ≤ 3 := by
  unfold peso
  split_ifs <;> omega

theorem GroupState.pesoTotal_le : s.pesoTotal ≤ s.chargerNumber * 3 :=
  Share.sum_range_le_mul fun i _ => (s.chargerTable i).peso_le

theorem GroupState.numConectados_le : s.numConectados ≤ s.chargerNumber := by
  rw [← Nat.mul_one s.chargerNumber]
  exact Share.sum_range_le_mul fun i _ => by split_ifs <;> omega

theorem GroupState.numInformando_le : s.numInformando ≤ s.chargerNumber := by
  rw [← Nat.mul_one s.chargerNumber]
  exact Share.sum_range_le_mul fun i _ => by split_ifs <;> omega

theorem recuento_conexConTri_eq (bounded : s.chargerNumber ≤ maxGroupSize) :
    (recuento s).conexConTri = s.pesoTotal := by
  have le := s.pesoTotal_le
  rw [recuento_conexConTri]
  unfold maxGroupSize at bounded
  omega

end Bounded

end VeltiumCharger.Group
