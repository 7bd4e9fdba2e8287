import VeltiumCharger.Group.Expulsiones
import VeltiumCharger.Group.LimiteConsumo

/-!
# What a `CALCULO` tick assigns

The tick first runs the pass, whose outcome is a function of the number of
evictions, and then gives each charger in `C2` or in a `B` state the smaller of
its phase's share and the group's.
-/

namespace VeltiumCharger.Group

open Finset VeltiumCharger.Loop

/-! ## The outcome of the pass -/

/-- `conex` after `rondas` evictions. -/
def GroupState.conexTras (s : GroupState) (rondas : Nat) : Nat :=
  (((s.numConectados : Int) - rondas) % 256).toNat

section Pasada

variable {s : GroupState}

@[simp]
theorem calculoGeneral_chargerNumber :
    (calculoGeneral s).estado.chargerNumber = s.chargerNumber :=
  rfl

@[simp]
theorem calculoGeneral_limiteCorriente (k : Nat) :
    ((calculoGeneral s).estado.circuitos k).limiteCorriente =
      (s.circuitos k).limiteCorriente := by
  unfold calculoGeneral
  dsimp only
  rw [corrientesPorFase_apply]
  split_ifs
  · rw [← recuento_limiteCorriente s k]
    rfl
  · exact recuento_limiteCorriente s k

theorem calculoGeneral_fase {k f : Nat} (circuit : k < s.circuitNumber) (phase : f < 3) :
    ((calculoGeneral s).estado.circuitos k).fases f =
      (((recuento s).circuitos k).fases f).repartir (s.circuitos k).limiteCorriente := by
  unfold calculoGeneral
  dsimp only
  rw [corrientesPorFase_apply, if_pos circuit, CaracCircuito.repartir_fases, if_pos phase,
    recuento_limiteCorriente]

theorem calculoGeneral_conexFase {k f : Nat} (circuit : k < s.circuitNumber)
    (phase : f < 3) :
    (((calculoGeneral s).estado.circuitos k).fases f).conex = s.cargaFase k f := by
  rw [calculoGeneral_fase circuit phase]
  exact recuento_conexFase s circuit phase

theorem calculoGeneral_disponible {k f : Nat} (circuit : k < s.circuitNumber)
    (phase : f < 3) :
    (((calculoGeneral s).estado.circuitos k).fases f).corrienteDisponible =
      s.cuotaFase k f := by
  rw [calculoGeneral_fase circuit phase, CaracFase.repartir,
    recuento_conexFase s circuit phase]
  rfl

variable (bounded : s.chargerNumber ≤ maxGroupSize)

include bounded

theorem calculoGeneral_limitada :
    (calculoGeneral s).estado.corrienteDisponibleLimitada = s.corrienteGrupo :=
  limitada_eq bounded

variable {rondas : Nat} (veces : s.expulsaVeces rondas)

include veces

theorem calculoGeneral_chargerTable :
    (calculoGeneral s).estado.chargerTable = s.tablaTras rondas := by
  change (expulsiones s).chargerTable = _
  rw [expulsiones_eq bounded veces, trasRondas_chargerTable]

theorem calculoGeneral_conex :
    (calculoGeneral s).estado.conex = s.conexTras rondas := by
  change (expulsiones s).conex = _
  rw [expulsiones_eq bounded veces, trasRondas_conex]
  rfl

theorem calculoGeneral_conexConTri :
    (calculoGeneral s).estado.conexConTri = s.unidadesTras rondas := by
  change (expulsiones s).conexConTri = _
  rw [expulsiones_eq bounded veces, trasRondas_conexConTri]

theorem calculoGeneral_total :
    (calculoGeneral s).estado.corrienteDisponibleTotal = s.cuotaTras rondas := by
  change (expulsiones s).corrienteDisponibleTotal = _
  rw [expulsiones_eq bounded veces, trasRondas_total bounded]

theorem calculoGeneral_historial :
    (calculoGeneral s).estado.historial =
      (List.range rondas).reverse.map (fun ronda => .expulsion (s.expulsadoEn ronda)) ++
        (recuento s).historial := by
  change (expulsiones s).historial = _
  rw [expulsiones_eq bounded veces, trasRondas_historial]

end Pasada

/-! ## The assignment -/

/-- The assignment sends a charger to `B1`: it is three-phase and would get less
than 6 A. -/
def CaracCharger.cae (disponibleFase disponibleTotal : Nat) (charger : CaracCharger) : Bool :=
  charger.hpt.assigned && (charger.threePhase &&
    decide (consignaRepartida disponibleFase disponibleTotal < 6))

/-- A record after the assignment loop, given the share of its phase and that
of the group. -/
def CaracCharger.asignado (disponibleFase disponibleTotal : Nat)
    (charger : CaracCharger) : CaracCharger :=
  if charger.hpt.assigned then
    if charger.cae disponibleFase disponibleTotal then
      { charger.expulsar with trifasico := 1 }
    else
      { charger with
        consigna := UInt16.ofNat (consignaRepartida disponibleFase disponibleTotal) }
  else charger

theorem consignaRepartida_eq (disponibleFase disponibleTotal : Nat) :
    consignaRepartida disponibleFase disponibleTotal =
      min (min disponibleFase disponibleTotal) 32 := by
  unfold consignaRepartida
  dsimp only
  split_ifs <;> omega

namespace CaracCharger

variable {disponibleFase disponibleTotal : Nat} {charger : CaracCharger}

/-- What the assignment gives is at most the phase's share, the group's share
and 32 A. -/
theorem asignado_consigna_le (isAssigned : charger.hpt.assigned = true) :
    (charger.asignado disponibleFase disponibleTotal).consigna.toNat ≤
      min (min disponibleFase disponibleTotal) 32 := by
  rw [← consignaRepartida_eq]
  have small : consignaRepartida disponibleFase disponibleTotal ≤ 32 := by
    rw [consignaRepartida_eq]
    omega
  rw [asignado, if_pos isAssigned]
  split_ifs
  · exact Nat.zero_le _
  · rw [UInt16.toNat_ofNat']
    exact Nat.mod_le _ _

theorem cae_eq_false (roomy : charger.threePhase = true →
      6 ≤ min (min disponibleFase disponibleTotal) 32) :
    charger.cae disponibleFase disponibleTotal = false := by
  rw [← Bool.not_eq_true]
  simp only [cae, Bool.and_eq_true, decide_eq_true_eq, consignaRepartida_eq]
  exact fun ⟨_, threePhase, small⟩ => absurd (roomy threePhase) (by omega)

/-- Unless a charger is sent to `B1`, only its setpoint changes. -/
theorem exists_asignado_eq (stays : charger.cae disponibleFase disponibleTotal = false) :
    ∃ consigna, charger.asignado disponibleFase disponibleTotal = { charger with consigna } := by
  rw [asignado, stays]
  split_ifs
  · contradiction
  · exact ⟨_, rfl⟩
  · exact ⟨charger.consigna, rfl⟩

/-- Unless it is sent to `B1` a charger gets just that. -/
theorem asignado_consigna_eq (isAssigned : charger.hpt.assigned = true)
    (stays : charger.cae disponibleFase disponibleTotal = false) :
    charger.asignado disponibleFase disponibleTotal =
      { charger with
        consigna := UInt16.ofNat (min (min disponibleFase disponibleTotal) 32) } := by
  rw [asignado, if_pos isAssigned, stays, consignaRepartida_eq]
  rfl

/-- A charger that keeps a positive setpoint keeps its pilot state and its
currents. -/
theorem asignado_of_pos
    (positive : 0 < (charger.asignado disponibleFase disponibleTotal).consigna.toNat) :
    (charger.asignado disponibleFase disponibleTotal).hpt = charger.hpt ∧
      (charger.asignado disponibleFase disponibleTotal).threePhase = charger.threePhase := by
  unfold asignado at positive ⊢
  dsimp only at positive ⊢
  split_ifs at positive ⊢
  · exact absurd positive (by simp [expulsar])
  · exact ⟨rfl, rfl⟩
  · exact ⟨rfl, rfl⟩

@[simp]
theorem asignado_fase : (charger.asignado disponibleFase disponibleTotal).fase = charger.fase := by
  unfold asignado
  dsimp only
  split_ifs <;> rfl

@[simp]
theorem asignado_circuito :
    (charger.asignado disponibleFase disponibleTotal).circuito = charger.circuito := by
  unfold asignado
  dsimp only
  split_ifs <;> rfl

end CaracCharger

/-! ## The table after the evictions -/

theorem Hpt.idle_eq_false_of_assigned {hpt : Hpt} (isAssigned : hpt.assigned = true) :
    hpt.idle = false := by
  rcases Bool.or_eq_true_iff.mp isAssigned with isC2 | startsB
  · refine Hpt.idle_eq_false_of_connected ?_
    simp only [connected, isC2, Bool.true_or]
  · have first : hpt.c0 = 'B'.toUInt8 := beq_iff_eq.mp startsB
    unfold idle is
    rw [first]
    rfl

namespace CaracCharger

variable {charger : CaracCharger}

/-- A charger that is given a setpoint keeps its currents and its setpoint when it is
counted. -/
theorem contado_of_assigned (isAssigned : charger.hpt.assigned = true) :
    charger.contado.threePhase = charger.threePhase ∧
      charger.contado.consigna = charger.consigna := by
  have awake : ¬ charger.hpt.idle = true := by
    rw [Hpt.idle_eq_false_of_assigned isAssigned]
    exact Bool.false_ne_true
  unfold contado
  rw [if_neg awake]
  split_ifs
  · exact ⟨rfl, rfl⟩
  · exact ⟨rfl, rfl⟩
  · exact ⟨rfl, rfl⟩

end CaracCharger

section Tabla

variable {s : GroupState} {rondas i : Nat}

theorem tablaTras_assigned :
    (s.tablaTras rondas i).hpt.assigned = true ↔
      s.expulsadoTras rondas i ∨ (s.chargerTable i).hpt.assigned = true := by
  unfold GroupState.tablaTras
  split_ifs with gone
  · exact iff_of_true rfl (.inl gone)
  · rw [GroupState.tablaContada_hpt]
    exact (or_iff_right gone).symm

theorem tablaContada_of_assigned (isAssigned : (s.chargerTable i).hpt.assigned = true) :
    (s.tablaContada i).threePhase = (s.chargerTable i).threePhase ∧
      (s.tablaContada i).consigna = (s.chargerTable i).consigna := by
  unfold GroupState.tablaContada
  split_ifs
  · exact CaracCharger.contado_of_assigned isAssigned
  · exact ⟨rfl, rfl⟩

theorem tablaTras_threePhase
    (receives : s.expulsadoTras rondas i ∨ (s.chargerTable i).hpt.assigned = true) :
    (s.tablaTras rondas i).threePhase = true ↔
      ¬ s.expulsadoTras rondas i ∧ (s.chargerTable i).threePhase = true := by
  unfold GroupState.tablaTras
  split_ifs with gone
  · refine iff_of_false ?_ fun both => both.1 gone
    simp [CaracCharger.threePhase, CaracCharger.expulsar]
  · rw [(tablaContada_of_assigned (receives.resolve_left gone)).1]
    exact (and_iff_right gone).symm

end Tabla

/-! ## The assignment loop -/

section Reparto

variable (s : GroupState)

/-- The assignment loop changes records, the counters and the history. -/
def GroupState.Asigna (before after : GroupState) : Prop :=
  after = { before with
    chargerTable := after.chargerTable, conex := after.conex
    conexConTri := after.conexConTri, historial := after.historial }

theorem asignarRound_asigna (i : Nat) : s.Asigna (asignarRound i s) := by
  unfold GroupState.Asigna asignarRound GroupState.setCharger
  dsimp only
  split_ifs <;> rfl

theorem GroupState.Asigna.trans {first second third : GroupState}
    (before : first.Asigna second) (after : second.Asigna third) : first.Asigna third := by
  unfold Asigna at *
  rw [after, before]

theorem asignar_asigna (rounds : Nat) : s.Asigna (forUpTo rounds asignarRound s) :=
  forUpTo_induction (fun _ current => s.Asigna current) rfl
    fun i _ current kept => kept.trans (asignarRound_asigna current i)

/-- The share of its phase that the round finds for a charger. -/
def GroupState.disponibleFase (i : Nat) : Nat :=
  (s.fasePropia (s.chargerTable i)).corrienteDisponible

theorem asignarRound_chargerTable (i : Nat) :
    (asignarRound i s).chargerTable =
      Function.update s.chargerTable i
        ((s.chargerTable i).asignado (s.disponibleFase i) s.corrienteDisponibleTotal) := by
  have same : ∀ consigna, ({ s.chargerTable i with consigna } : CaracCharger).threePhase =
      (s.chargerTable i).threePhase := fun _ => rfl
  unfold asignarRound CaracCharger.asignado CaracCharger.cae GroupState.setCharger
    GroupState.disponibleFase
  by_cases isAssigned : (s.chargerTable i).hpt.assigned = true
  · simp only [same, isAssigned, if_true, Bool.true_and]
    split_ifs <;> rfl
  · simp only [isAssigned]
    exact (Function.update_eq_self i s.chargerTable).symm

theorem asignarRound_historial (i : Nat) :
    (asignarRound i s).historial =
      if (s.chargerTable i).cae (s.disponibleFase i) s.corrienteDisponibleTotal then
        .expulsion i :: s.historial
      else s.historial := by
  have same : ∀ consigna, ({ s.chargerTable i with consigna } : CaracCharger).threePhase =
      (s.chargerTable i).threePhase := fun _ => rfl
  unfold asignarRound CaracCharger.cae GroupState.setCharger GroupState.disponibleFase
  by_cases isAssigned : (s.chargerTable i).hpt.assigned = true
  · simp only [same, isAssigned, if_true, Bool.true_and]
    split_ifs <;> rfl
  · simp [isAssigned]

/-- The assignment loop rewrites each record once, with the shares the pass has
left, and records those it sends to `B1`. -/
theorem asignar_spec :
    (∀ i, (forUpTo s.chargerNumber asignarRound s).chargerTable i =
      if i < s.chargerNumber then
        (s.chargerTable i).asignado (s.disponibleFase i) s.corrienteDisponibleTotal
      else s.chargerTable i) ∧
    (forUpTo s.chargerNumber asignarRound s).historial =
      ((List.range s.chargerNumber).reverse.filter fun i =>
        (s.chargerTable i).cae (s.disponibleFase i) s.corrienteDisponibleTotal).map
          .expulsion ++ s.historial := by
  have loop := @forUpTo_induction _
    (fun next current => current.circuitos = s.circuitos ∧
      current.corrienteDisponibleTotal = s.corrienteDisponibleTotal ∧
      (∀ i, current.chargerTable i =
        if i < next then
          (s.chargerTable i).asignado (s.disponibleFase i) s.corrienteDisponibleTotal
        else s.chargerTable i) ∧
      current.historial =
        ((List.range next).reverse.filter fun i =>
          (s.chargerTable i).cae (s.disponibleFase i) s.corrienteDisponibleTotal).map
            .expulsion ++ s.historial)
    s.chargerNumber asignarRound s ⟨rfl, rfl, by simp, by simp⟩ ?round
  case round =>
    rintro index _ current ⟨circuitos, total, table, history⟩
    have rest := asignarRound_asigna current index
    have own : current.chargerTable index = s.chargerTable index := by
      rw [table, if_neg (Nat.lt_irrefl index)]
    have share : current.disponibleFase index = s.disponibleFase index := by
      rw [GroupState.disponibleFase, GroupState.fasePropia, own, circuitos]
      rfl
    refine ⟨by rw [rest, circuitos], by rw [rest, total], fun i => ?_, ?_⟩
    · rw [asignarRound_chargerTable, own, share, total]
      by_cases here : i = index
      · subst here
        simp
      · have sameSide : i < index + 1 ↔ i < index := by omega
        rw [Function.update_of_ne here, table]
        simp only [sameSide]
    · rw [asignarRound_historial, own, share, total, history, List.range_succ]
      split_ifs with falls <;> simp [falls]
  exact ⟨loop.2.2.1, loop.2.2.2⟩

end Reparto

/-! ## The tick -/

section TickCalculo

variable {s : GroupState}

theorem tickCalculo_of_conex_eq_zero (empty : (calculoGeneral s).estado.conex = 0) :
    tickCalculo s = { (calculoGeneral s).estado with controlGrupoState := .reposo } := by
  unfold tickCalculo
  dsimp only
  rw [if_pos empty]

theorem tickCalculo_of_conex_ne_zero (present : (calculoGeneral s).estado.conex ≠ 0) :
    tickCalculo s =
      { forUpTo s.chargerNumber asignarRound (calculoGeneral s).estado with
        controlGrupoState := .equilibrado } := by
  unfold tickCalculo
  dsimp only
  rw [if_neg present]
  rfl

/-- The share the assignment finds for charger `i`: that of its phase, or what is
stored where an index out of range leads. -/
def GroupState.disponiblePropia (s : GroupState) (i : Nat) : Nat :=
  if (s.chargerTable i).circuitoIdx < s.circuitNumber ∧ (s.chargerTable i).faseA < 3 then
    s.cuotaPropia i
  else (s.fasePropia (s.chargerTable i)).corrienteDisponible

theorem disponibleFase_eq (bounded : s.chargerNumber ≤ maxGroupSize) (i : Nat) :
    (calculoGeneral s).estado.disponibleFase i = s.disponiblePropia i := by
  rcases s.exists_expulsaVeces with ⟨rondas, _, veces⟩
  have sameFase := GroupState.tablaTras_fase (s := s) rondas i
  have sameCircuito := GroupState.tablaTras_circuito (s := s) rondas i
  rw [GroupState.disponibleFase, GroupState.fasePropia,
    calculoGeneral_chargerTable bounded veces, CaracCharger.circuitoIdx, CaracCharger.faseA,
    sameFase, sameCircuito, GroupState.disponiblePropia]
  split_ifs with inRange
  · exact calculoGeneral_disponible inRange.1 inRange.2
  · unfold GroupState.fasePropia
    change ((corrientesPorFase s.circuitNumber (recuento s).circuitos
      _).fases _).corrienteDisponible = _
    rw [corrientesPorFase_apply]
    by_cases circuit : (s.chargerTable i).circuitoIdx < s.circuitNumber
    · have phase : ¬ (s.chargerTable i).faseA < 3 := fun phase => inRange ⟨circuit, phase⟩
      unfold CaracCharger.circuitoIdx at circuit
      unfold CaracCharger.faseA at phase
      rw [if_pos circuit, CaracCircuito.repartir_fases, if_neg phase,
        recuento_corrienteDisponible]
      rfl
    · unfold CaracCharger.circuitoIdx at circuit
      rw [if_neg circuit, recuento_corrienteDisponible]
      rfl

/-- The share of a wired charger's phase, as the pass leaves it. -/
theorem disponibleFase_eq_cuotaPropia (bounded : s.chargerNumber ≤ maxGroupSize) {i : Nat}
    (wired : (s.chargerTable i).Cableado s.circuitNumber) :
    (calculoGeneral s).estado.disponibleFase i = s.cuotaPropia i := by
  rw [disponibleFase_eq bounded, GroupState.disponiblePropia,
    if_pos ⟨wired.circuitoIdx_lt, wired.faseA_lt⟩]

/-- What a `CALCULO` tick changes of the outcome of its pass. -/
theorem tickCalculo_rest :
    tickCalculo s = { (calculoGeneral s).estado with
      chargerTable := (tickCalculo s).chargerTable, conex := (tickCalculo s).conex
      conexConTri := (tickCalculo s).conexConTri
      controlGrupoState := (tickCalculo s).controlGrupoState
      historial := (tickCalculo s).historial } := by
  by_cases empty : (calculoGeneral s).estado.conex = 0
  · rw [tickCalculo_of_conex_eq_zero empty]
  · rw [tickCalculo_of_conex_ne_zero empty]
    have rest := asignar_asigna (calculoGeneral s).estado s.chargerNumber
    unfold GroupState.Asigna at rest
    rw [rest]

@[simp]
theorem tickCalculo_chargerNumber : (tickCalculo s).chargerNumber = s.chargerNumber := by
  rw [tickCalculo_rest]
  rfl

theorem tickCalculo_limitada (bounded : s.chargerNumber ≤ maxGroupSize) :
    (tickCalculo s).corrienteDisponibleLimitada = s.corrienteGrupo := by
  rw [← calculoGeneral_limitada bounded, tickCalculo_rest]

variable (bounded : s.chargerNumber ≤ maxGroupSize) {rondas : Nat}
  (veces : s.expulsaVeces rondas)

include bounded veces

/-- With nobody left, the tick only shows the evictions. -/
theorem tickCalculo_chargerTable_of_eq_zero (empty : s.conexTras rondas = 0) (i : Nat) :
    (tickCalculo s).chargerTable i = s.tablaTras rondas i := by
  rw [← calculoGeneral_conex bounded veces] at empty
  rw [tickCalculo_of_conex_eq_zero empty]
  exact congrFun (calculoGeneral_chargerTable bounded veces) i

/-- Otherwise each record gets what its shares allow, and the three-phase ones
left below 6 A are recorded as evicted. -/
theorem tickCalculo_of_ne_zero (present : s.conexTras rondas ≠ 0) :
    (∀ i, i < s.chargerNumber → (tickCalculo s).chargerTable i =
      (s.tablaTras rondas i).asignado
        ((calculoGeneral s).estado.disponibleFase i) (s.cuotaTras rondas)) ∧
    (tickCalculo s).historial =
      ((List.range s.chargerNumber).reverse.filter fun i =>
        (s.tablaTras rondas i).cae ((calculoGeneral s).estado.disponibleFase i)
          (s.cuotaTras rondas)).map .expulsion ++ (calculoGeneral s).estado.historial := by
  rw [← calculoGeneral_conex bounded veces] at present
  rw [tickCalculo_of_conex_ne_zero present]
  have loop := asignar_spec (calculoGeneral s).estado
  rw [calculoGeneral_chargerTable bounded veces, calculoGeneral_total bounded veces] at loop
  refine ⟨fun i below => ?_, loop.2⟩
  have cell := loop.1 i
  rw [calculoGeneral_chargerNumber, if_pos below] at cell
  exact cell

theorem tickCalculo_chargerTable_of_ne_zero (present : s.conexTras rondas ≠ 0) {i : Nat}
    (below : i < s.chargerNumber) :
    (tickCalculo s).chargerTable i =
      (s.tablaTras rondas i).asignado
        ((calculoGeneral s).estado.disponibleFase i) (s.cuotaTras rondas) :=
  (tickCalculo_of_ne_zero bounded veces present).1 i below

end TickCalculo

end VeltiumCharger.Group
