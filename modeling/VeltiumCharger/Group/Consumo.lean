import VeltiumCharger.Group.Asignacion
import VeltiumCharger.Group.Equilibrado

/-!
# Consumption and the meter

The pass adds up the measured currents in a `uint16_t` and keeps the amperes in
a `uint8_t`; with a meter it derives the current that is left of the contracted
power.  Both are whole amperes, and both are exact only within bounds.
-/

namespace VeltiumCharger.Group

open Finset VeltiumCharger.Loop

/-! ## The consumption of the group -/

section Consumo

variable {s : GroupState}

theorem consumoTotal_eq : consumoTotal s = s.consumo := by
  rw [consumoTotal, recuento_totalPc, GroupState.consumo]

/-- The narrowing is harmless exactly while the amperes fit in the `uint8_t`. -/
theorem consumo_eq_iff : s.consumo = s.corrienteTotal / 100 ↔ s.corrienteTotal < 25600 := by
  unfold GroupState.consumo
  omega

/-- An `EQUILIBRADO` tick ends with the consumption and the limit of its pass. -/
theorem tickEquilibrado_medidas (t : Tick)
    (inEquilibrado : s.controlGrupoState = .equilibrado) :
    (tickEquilibrado t s).consumoTotal = s.consumo ∧
      (tickEquilibrado t s).corrienteDisponibleLimitada = limitada s := by
  rw [← consumoTotal_eq]
  by_cases estable : s.Estable
  · rw [tickEquilibrado_of_estable inEquilibrado estable,
      (buscarDeltas_buscaDelta t.transcurrido (solicitudes (calculoGeneral s).estado)).rest]
    rcases solicitudes_cases (s := (calculoGeneral s).estado) with
      ⟨i, _, _, _, _, admits⟩ | ⟨_, rejects⟩
    · rw [admits]
      exact ⟨rfl, rfl⟩
    · rw [rejects]
      exact ⟨rfl, rfl⟩
  · obtain ⟨_, _, _, final, _⟩ := tickEquilibrado_of_not_estable (t := t) estable
    rw [final]
    exact ⟨rfl, rfl⟩

/-- A consumption above the limit, as the program computes both, ends the
balance. -/
theorem tickEquilibrado_of_exceso (t : Tick) (exceeds : limitada s < s.consumo) :
    (tickEquilibrado t s).controlGrupoState ≠ .equilibrado := by
  have unstable : ¬ s.Estable := by
    intro estable
    have within : consumoTotal s ≤ limitada s := estable.consumo
    rw [consumoTotal_eq] at within
    omega
  obtain ⟨_, _, state, final, next⟩ := tickEquilibrado_of_not_estable (t := t) unstable
  rw [final]
  rcases next with rfl | ⟨rfl, _⟩ <;> simp

/-- A tick measures the group exactly, so that no overload is masked, if and
only if the currents counted add up to less than 256 A. -/
theorem consumo_exacto_iff (t : Tick) (inEquilibrado : s.controlGrupoState = .equilibrado) :
    ((limiteConsumo t s).corrienteDisponibleLimitada < s.corrienteTotal / 100 →
        (limiteConsumo t s).controlGrupoState = .calculo ∨
          (limiteConsumo t s).controlGrupoState = .reposo) ∧
      (limiteConsumo t s).consumoTotal = s.corrienteTotal / 100 ↔
      s.corrienteTotal < 25600 := by
  have tick : limiteConsumo t s = tickEquilibrado t s := by rw [limiteConsumo, inEquilibrado]
  rcases tickEquilibrado_medidas t inEquilibrado with ⟨consumo, limite⟩
  rw [tick, consumo, limite, consumo_eq_iff]
  refine ⟨fun ⟨_, within⟩ => within, fun below => ⟨fun exceeds => ?_, below⟩⟩
  rw [← consumo_eq_iff.mpr below] at exceeds
  have ends := tickEquilibrado_of_exceso t exceeds
  cases state : (tickEquilibrado t s).controlGrupoState with
  | reposo => exact .inr rfl
  | equilibrado => exact absurd state ends
  | calculo => exact .inl rfl

end Consumo

/-- One three-phase charger measuring 200 A on each phase: 600 A are stored as
88 A, below a limit of 217 A. -/
def sobrecargaOculta : GroupState :=
  { GroupState.inicio (.conPotencia 500)
      [{ CaracCharger.enEstado 'C' '2' 1 with
          current := 20000, currentB := 20000, currentC := 20000 }] [255] with
    controlGrupoState := .equilibrado
    lastConex := 1 }

theorem sobrecargaOculta_sigue_equilibrado :
    sobrecargaOculta.controlGrupoState = .equilibrado ∧
      sobrecargaOculta.chargerNumber ≤ maxGroupSize ∧
      sobrecargaOculta.corrienteTotal / 100 = 600 ∧
      (limiteConsumo ⟨true, 0⟩ sobrecargaOculta).corrienteDisponibleLimitada = 217 ∧
      (limiteConsumo ⟨true, 0⟩ sobrecargaOculta).consumoTotal = 88 ∧
      (limiteConsumo ⟨true, 0⟩ sobrecargaOculta).controlGrupoState = .equilibrado := by
  decide

/-- The same charger measuring 20 A on each phase, with 43 A for the group. -/
def sobrecargaVisible : GroupState :=
  { GroupState.inicio (.conPotencia 100)
      [{ CaracCharger.enEstado 'C' '2' 1 with
          current := 2000, currentB := 2000, currentC := 2000 }] [255] with
    controlGrupoState := .equilibrado
    lastConex := 1 }

theorem sobrecargaVisible_recalcula :
    (limiteConsumo ⟨true, 0⟩ sobrecargaVisible).controlGrupoState = .calculo ∨
      (limiteConsumo ⟨true, 0⟩ sobrecargaVisible).controlGrupoState = .reposo :=
  ((consumo_exacto_iff ⟨true, 0⟩ (s := sobrecargaVisible) rfl).mpr (by decide)).1 (by decide)

/-! ## The meter -/

section Contador

/-- The contracted power, in watts. -/
def CaracGroupParams.potenciaContratada (params : CaracGroupParams) : Int :=
  params.contractPower.toNat * 100

/-- With a meter of the whole installation the amperes of the contracted power
and of the measured one are rounded apart. -/
theorem amperios_le_iff {contratada power consumo : Int}
    (guard : power - 230 * consumo < contratada) :
    230 * (contratada / 230 + consumo - power / 230) ≤
        max 0 (contratada - (power - 230 * consumo)) ↔
      power % 230 ≤ contratada % 230 := by
  omega

variable {params : CaracGroupParams} {power : Int} {consumo : Nat}

/-- Measuring the house, the meter leaves at most the contracted power. -/
theorem corrienteCdpSobra_domestica (domestica : params.medida = 1) :
    230 * corrienteCdpSobra params power consumo ≤
      max 0 (params.potenciaContratada - power) := by
  unfold corrienteCdpSobra CaracGroupParams.potenciaContratada
  rw [if_pos domestica]
  split_ifs with guard
  · rw [Int.tdiv_eq_ediv_of_nonneg (by omega)]
    omega
  · omega

/-- Measuring the whole installation, it does exactly when the fraction of an
ampere measured is not above that contracted. -/
theorem corrienteCdpSobra_total_iff (nonnegative : 0 ≤ power) (total : params.medida = 2) :
    230 * corrienteCdpSobra params power consumo ≤
        max 0 (params.potenciaContratada - (power - 230 * consumo)) ↔
      params.potenciaContratada ≤ power - 230 * consumo ∨
        power % 230 ≤ params.potenciaContratada % 230 := by
  unfold corrienteCdpSobra CaracGroupParams.potenciaContratada
  rw [if_neg (by rw [total]; decide), if_pos total]
  split_ifs with guard
  · rw [Int.tdiv_eq_ediv_of_nonneg (by omega), Int.tdiv_eq_ediv_of_nonneg nonnegative,
      amperios_le_iff guard]
    omega
  · omega

/-- The current left fits in the `uint16_t` it is stored in. -/
theorem corrienteLimiteCdp_eq (nonnegative : 0 ≤ power) (consumption : consumo < 256) :
    (corrienteLimiteCdp params power consumo : Int) =
      corrienteCdpSobra params power consumo := by
  have contratada := params.contractPower.toNat_lt
  have bounds : 0 ≤ corrienteCdpSobra params power consumo ∧
      corrienteCdpSobra params power consumo < 65536 := by
    unfold corrienteCdpSobra
    split_ifs with domestica guard total guard
    · rw [Int.tdiv_eq_ediv_of_nonneg (by omega)]
      omega
    · omega
    · rw [Int.tdiv_eq_ediv_of_nonneg (by omega), Int.tdiv_eq_ediv_of_nonneg nonnegative]
      omega
    · omega
    · omega
  unfold corrienteLimiteCdp
  omega

/-- What the pass takes from the meter stays below the contracted power, for
both ways of measuring, exactly when a measurement of the whole installation
that leaves something has no larger fraction of an ampere than the contracted
power has. -/
theorem limiteCdp_contratada_iff {s : GroupState} (usa : usaContador s = true)
    (nonnegative : 0 ≤ s.contadorExt.power) :
    (s.params.medida = 1 →
        230 * ((calculoGeneral s).corrienteLimiteCdp : Int) ≤
          max 0 (s.params.potenciaContratada - s.contadorExt.power)) ∧
      (s.params.medida = 2 →
        230 * ((calculoGeneral s).corrienteLimiteCdp : Int) ≤
          max 0 (s.params.potenciaContratada -
            (s.contadorExt.power - 230 * (calculoGeneral s).estado.consumoTotal))) ∧
      ((calculoGeneral s).corrienteLimiteCdp : Int) =
        corrienteCdpSobra s.params s.contadorExt.power (calculoGeneral s).estado.consumoTotal ↔
    (s.params.medida = 2 →
      s.params.potenciaContratada ≤ s.contadorExt.power - 230 * s.consumo ∨
        s.contadorExt.power % 230 ≤ s.params.potenciaContratada % 230) := by
  have consumption : (calculoGeneral s).estado.consumoTotal = s.consumo := consumoTotal_eq
  have limit : ((calculoGeneral s).corrienteLimiteCdp : Int) =
      corrienteCdpSobra s.params s.contadorExt.power s.consumo := by
    have updated : (calculoGeneral s).corrienteLimiteCdp =
        corrienteLimiteCdp s.params s.contadorExt.power (consumoTotal s) := if_pos usa
    rw [updated, consumoTotal_eq]
    exact corrienteLimiteCdp_eq nonnegative (Nat.mod_lt _ (by decide))
  rw [consumption, limit]
  constructor
  · rintro ⟨_, within, _⟩ total
    exact (corrienteCdpSobra_total_iff nonnegative total).mp (within total)
  · intro fraction
    exact ⟨fun domestica => corrienteCdpSobra_domestica domestica,
      fun total => (corrienteCdpSobra_total_iff nonnegative total).mpr (fraction total), rfl⟩

end Contador

/-- A charger that takes 1 A, and 229 W measured of none contracted: the whole
ampere is left over. -/
def amperioDeMas : GroupState :=
  { GroupState.inicio { CaracGroupParams.conPotencia 0 with cdp := 24 }
      [{ CaracCharger.enEstado 'C' '2' 1 with current := 100 }] [32] with
    contadorExt := { gatewayConectado := true, medidorConectado := true, power := 229 } }

theorem amperioDeMas_excede :
    usaContador amperioDeMas = true ∧ amperioDeMas.params.medida = 2 ∧
      amperioDeMas.params.potenciaContratada = 0 ∧
      (calculoGeneral amperioDeMas).estado.consumoTotal = 1 ∧
      (calculoGeneral amperioDeMas).corrienteLimiteCdp = 1 ∧
      ¬ 230 * ((calculoGeneral amperioDeMas).corrienteLimiteCdp : Int) ≤
        max 0 (amperioDeMas.params.potenciaContratada - (229 - 230 * 1)) := by
  decide

/-- The same charger, with 100 W measured of 10 kW contracted. -/
def contadorConMargen : GroupState :=
  { amperioDeMas with
    params := { CaracGroupParams.conPotencia 0 with cdp := 24, contractPower := 100 }
    contadorExt := { amperioDeMas.contadorExt with power := 100 } }

theorem contadorConMargen_dentro :
    230 * ((calculoGeneral contadorConMargen).corrienteLimiteCdp : Int) ≤
      max 0 (contadorConMargen.params.potenciaContratada -
        (contadorConMargen.contadorExt.power -
          230 * (calculoGeneral contadorConMargen).estado.consumoTotal)) :=
  ((limiteCdp_contratada_iff (s := contadorConMargen) (by decide) (by decide)).mpr
    (by decide)).2.1 (by decide)

end VeltiumCharger.Group
