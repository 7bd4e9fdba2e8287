import VeltiumCharger.Group.Admitido

/-!
# Groups that count the same

The ticks rewrite setpoints, orders and timers.  Two groups that differ in
nothing else are counted alike by the pass, and every request has the same
outcome in both.
-/

namespace VeltiumCharger.Group

open Finset VeltiumCharger.Loop

/-! ## Records that count the same -/

namespace CaracCharger

variable {a b c charger : CaracCharger}

/-- What the counting pass leaves of setpoint, order and timers. -/
theorem contado_ajustar (consigna : UInt16) (order : UInt8) (delta deltaTimer : UInt16) :
    ∃ consigna' order' delta' deltaTimer',
      ({ charger with consigna, order, delta, deltaTimer } : CaracCharger).contado =
        { charger.contado with
          consigna := consigna', order := order', delta := delta'
          deltaTimer := deltaTimer' } := by
  have same : ({ charger with consigna, order, delta, deltaTimer } : CaracCharger).threePhase =
      charger.threePhase := rfl
  by_cases connected : charger.hpt.connected = true
  · refine ⟨consigna, order, delta, deltaTimer, ?_⟩
    rw [contado_of_connected connected, contado_of_connected (by exact connected), same]
    split_ifs <;> rfl
  · by_cases idle : charger.hpt.idle = true
    · exact ⟨0, 0, 0, 0, by simp [contado, connected, idle, reposar]⟩
    · exact ⟨consigna, order, delta, deltaTimer, by simp [contado, connected, idle]⟩

/-- Counting leaves the same record but for setpoint, order and timers. -/
def CuentaIgual (a b : CaracCharger) : Prop :=
  ∃ consigna order delta deltaTimer,
    b.contado = { a.contado with consigna, order, delta, deltaTimer }

theorem CuentaIgual.refl (a : CaracCharger) : a.CuentaIgual a :=
  ⟨_, _, _, _, rfl⟩

theorem CuentaIgual.contado (same : a.CuentaIgual b) : a.CuentaIgual b.contado := by
  rcases same with ⟨consigna, order, delta, deltaTimer, equal⟩
  exact ⟨consigna, order, delta, deltaTimer, by rw [contado_contado, equal]⟩

theorem CuentaIgual.ajustar (same : a.CuentaIgual b) (consigna : UInt16) (order : UInt8)
    (delta deltaTimer : UInt16) :
    a.CuentaIgual { b with consigna, order, delta, deltaTimer } := by
  rcases same with ⟨_, _, _, _, equal⟩
  obtain ⟨consigna', order', delta', deltaTimer', adjusted⟩ :=
    @contado_ajustar b consigna order delta deltaTimer
  exact ⟨consigna', order', delta', deltaTimer', by rw [adjusted, equal]⟩

namespace CuentaIgual

variable (same : a.CuentaIgual b)

include same

theorem hpt : b.hpt = a.hpt := by
  rcases same with ⟨_, _, _, _, equal⟩
  simpa using congrArg CaracCharger.hpt equal

theorem fase : b.fase = a.fase := by
  rcases same with ⟨_, _, _, _, equal⟩
  simpa using congrArg CaracCharger.fase equal

theorem circuito : b.circuito = a.circuito := by
  rcases same with ⟨_, _, _, _, equal⟩
  simpa using congrArg CaracCharger.circuito equal

theorem chargeReq : b.chargeReq = a.chargeReq := by
  rcases same with ⟨_, _, _, _, equal⟩
  simpa using congrArg CaracCharger.chargeReq equal

theorem conected : b.conected = a.conected := by
  rcases same with ⟨_, _, _, _, equal⟩
  simpa using congrArg CaracCharger.conected equal

theorem trifasico : b.contado.trifasico = a.contado.trifasico := by
  rcases same with ⟨_, _, _, _, equal⟩
  rw [equal]

theorem threePhase : b.contado.threePhase = a.contado.threePhase := by
  rcases same with ⟨_, _, _, _, equal⟩
  rw [equal]
  rfl

theorem faseA : b.faseA = a.faseA := by
  rw [CaracCharger.faseA, same.fase, CaracCharger.faseA]

theorem circuitoIdx : b.circuitoIdx = a.circuitoIdx := by
  rw [CaracCharger.circuitoIdx, same.circuito, CaracCharger.circuitoIdx]

theorem peso : b.peso = a.peso := by
  rcases same with ⟨_, _, _, _, equal⟩
  rw [← contado_peso b, ← contado_peso a, equal]
  rfl

theorem corrienteContada : b.corrienteContada = a.corrienteContada := by
  rcases same with ⟨_, _, _, _, equal⟩
  rw [← contado_corrienteContada b, ← contado_corrienteContada a, equal]
  rfl

theorem carga (k f : Nat) : b.carga k f = a.carga k f := by
  rcases same with ⟨_, _, _, _, equal⟩
  rw [← contado_carga b, ← contado_carga a, equal]
  rfl

end CuentaIgual

end CaracCharger

/-! ## Groups that count the same -/

namespace GroupState

/-- The two groups have the same limits and records that count the same. -/
structure CuentaIgual (a b : GroupState) : Prop where
  chargerNumber : b.chargerNumber = a.chargerNumber
  circuitNumber : b.circuitNumber = a.circuitNumber
  limites : ∀ k, (b.circuitos k).limiteCorriente = (a.circuitos k).limiteCorriente
  params : b.params = a.params
  contadorExt : b.contadorExt = a.contadorExt
  table : ∀ i, i < a.chargerNumber → (a.chargerTable i).CuentaIgual (b.chargerTable i)

namespace CuentaIgual

variable {a b : GroupState} (same : a.CuentaIgual b)

include same

theorem pesoTotal : b.pesoTotal = a.pesoTotal :=
  pesoTotal_congr same.chargerNumber fun i below => (same.table i below).peso

theorem corrienteGrupo : b.corrienteGrupo = a.corrienteGrupo :=
  corrienteGrupo_congr same.chargerNumber same.params same.contadorExt same.pesoTotal
    (fun i below => (same.table i below).corrienteContada)
    (fun i below => (same.table i below).conected)

theorem numConectados : b.numConectados = a.numConectados := by
  unfold GroupState.numConectados
  rw [same.chargerNumber]
  exact sum_congr rfl fun i member => by rw [(same.table i (mem_range.mp member)).hpt]

theorem cargaFase (k f : Nat) : b.cargaFase k f = a.cargaFase k f := by
  unfold GroupState.cargaFase
  rw [same.chargerNumber]
  exact sum_congr rfl fun i member => (same.table i (mem_range.mp member)).carga k f

theorem cuotaPropia {i : Nat} (below : i < a.chargerNumber) :
    b.cuotaPropia i = a.cuotaPropia i := by
  unfold GroupState.cuotaPropia GroupState.cuotaFase
  rw [(same.table i below).circuitoIdx, (same.table i below).faseA, same.cargaFase,
    same.limites]

theorem tablaContada_eq {i : Nat} (below : i < a.chargerNumber) :
    b.tablaContada i = (b.chargerTable i).contado ∧
      a.tablaContada i = (a.chargerTable i).contado := by
  constructor
  · rw [tablaContada, same.chargerNumber, if_pos below]
  · rw [tablaContada, if_pos below]

theorem solicita_iff {i : Nat} (below : i < a.chargerNumber) :
    b.solicita 0 i ↔ a.solicita 0 i := by
  rw [solicita, solicita, (same.table i below).chargeReq]
  simp only [not_expulsadoTras_zero]

/-- The admission test has the same outcome. -/
theorem cabeSolicitud_iff (bounded : a.chargerNumber ≤ maxGroupSize) {i : Nat}
    (below : i < a.chargerNumber) : b.cabeSolicitud 0 i ↔ a.cabeSolicitud 0 i := by
  rcases same.tablaContada_eq below with ⟨after, before⟩
  have bounded' : b.chargerNumber ≤ maxGroupSize := same.chargerNumber ▸ bounded
  unfold cabeSolicitud pruebaFase limiteDe descuento
  rw [unidadesTras_zero bounded, unidadesTras_zero bounded', same.pesoTotal,
    same.corrienteGrupo, after, before, (same.table i below).trifasico,
    (same.table i below).circuitoIdx, (same.table i below).faseA, same.limites]
  simp only [same.cargaFase]

theorem cableado (wired : a.cableado) : b.cableado := by
  intro i below
  rw [same.chargerNumber] at below
  rw [same.circuitNumber]
  exact (CaracCharger.cableado_congr (same.table i below).fase
    (same.table i below).circuito).mpr (wired i below)

/-- A pass without evictions. -/
theorem calculoGeneral (bounded : a.chargerNumber ≤ maxGroupSize) (fits : b.cabeTras 0) :
    a.CuentaIgual (calculoGeneral b).estado where
  chargerNumber := same.chargerNumber
  circuitNumber := same.circuitNumber
  limites k := by rw [calculoGeneral_limiteCorriente, same.limites]
  params := same.params
  contadorExt := same.contadorExt
  table i below := by
    rw [calculoGeneral_chargerTable (same.chargerNumber ▸ bounded)
      (expulsaVeces_zero_iff.mpr fits), tablaTras_zero, (same.tablaContada_eq below).1]
    exact (same.table i below).contado

theorem cabeTras_iff (bounded : a.chargerNumber ≤ maxGroupSize) : b.cabeTras 0 ↔ a.cabeTras 0 := by
  rw [cabeTras_zero_iff (same.chargerNumber ▸ bounded), cabeTras_zero_iff bounded, same.pesoTotal,
    same.corrienteGrupo]

/-- Rewriting setpoints, orders and timers of the records. -/
theorem ajustar {c : GroupState} (rest : c = { b with
      chargerTable := c.chargerTable, newData := c.newData, conex := c.conex
      conexConTri := c.conexConTri, lastConex := c.lastConex
      controlGrupoState := c.controlGrupoState, historial := c.historial })
    (table : ∀ i, i < a.chargerNumber → ∃ consigna order delta deltaTimer,
      c.chargerTable i = { b.chargerTable i with consigna, order, delta, deltaTimer }) :
    a.CuentaIgual c where
  chargerNumber := by rw [rest]; exact same.chargerNumber
  circuitNumber := by rw [rest]; exact same.circuitNumber
  limites k := by rw [rest]; exact same.limites k
  params := by rw [rest]; exact same.params
  contadorExt := by rw [rest]; exact same.contadorExt
  table i below := by
    rcases table i below with ⟨consigna, order, delta, deltaTimer, cell⟩
    rw [cell]
    exact (same.table i below).ajustar consigna order delta deltaTimer

end CuentaIgual

end GroupState

end VeltiumCharger.Group
