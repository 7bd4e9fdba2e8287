import VeltiumCharger.Group.Estabilidad
import VeltiumCharger.Group.Limites

/-!
# Setpoints between the minimum and the maximum

A pilot signal encodes no current between 1 and 5 A.  The tick keeps the share of
the group at 6 A by evictions, but gives a single-phase charger whatever its phase
leaves it; only a three-phase one below 6 A is sent to `B1`.
-/

namespace VeltiumCharger.Group

open Finset

/-- A setpoint is of 0 A, or of 6 A to 32 A. -/
def CaracCharger.enRango (charger : CaracCharger) : Prop :=
  charger.consigna = 0 ∨ 6 ≤ charger.consigna.toNat ∧ charger.consigna.toNat ≤ 32

instance (charger : CaracCharger) : Decidable charger.enRango :=
  inferInstanceAs (Decidable (_ ∨ _))

namespace GroupState

variable (s : GroupState)

/-- After the tick every charger in `C2` or in a `B` state has such a setpoint. -/
def consignasEnRango : Prop :=
  ∀ i, i < s.chargerNumber → ((tickCalculo s).chargerTable i).hpt.assigned = true →
    ((tickCalculo s).chargerTable i).enRango

/-- The last round takes away all the units that were left, and before it the group had
less than 1 A for each of them. -/
def agotadoSinCuota (rondas : Nat) : Prop :=
  s.unidadesTras rondas = 0 ∧ s.corrienteGrupo < s.unidadesTras (rondas - 1)

instance (rondas : Nat) : Decidable (s.agotadoSinCuota rondas) :=
  inferInstanceAs (Decidable (_ ∧ _))

/-- The shares of a charger after `rondas` evictions allow 0 A or 6 A. -/
def cuotasEnRango (rondas i : Nat) : Prop :=
  s.disponiblePropia i = 0 ∨ s.agotadoSinCuota rondas ∨
    0 < s.unidadesTras rondas ∧ 6 ≤ s.disponiblePropia i

instance (rondas i : Nat) : Decidable (s.cuotasEnRango rondas i) :=
  inferInstanceAs (Decidable (_ ∨ _))

/-- With chargers left, one that is given a setpoint is three-phase, or its shares are
right; with none, it is evicted or had a setpoint that was right. -/
def repartoEnRango : Prop :=
  ∀ rondas, s.expulsaVeces rondas → ∀ i, i < s.chargerNumber →
    s.expulsadoTras rondas i ∨ (s.chargerTable i).hpt.assigned = true →
    if s.conexTras rondas = 0 then s.expulsadoTras rondas i ∨ (s.chargerTable i).enRango
    else
      (¬ s.expulsadoTras rondas i ∧ (s.chargerTable i).threePhase = true) ∨
        s.cuotasEnRango rondas i

end GroupState

/-! ## One record -/

namespace CaracCharger

variable {charger : CaracCharger} {disponibleFase disponibleTotal : Nat}

theorem enRango_expulsar : charger.expulsar.enRango :=
  .inl rfl

theorem asignado_assigned :
    (charger.asignado disponibleFase disponibleTotal).hpt.assigned = charger.hpt.assigned := by
  unfold asignado
  split_ifs with isAssigned falls
  · rw [isAssigned]
    rfl
  · rfl
  · rfl

/-- The setpoint given is right for a three-phase charger, and otherwise when the
smaller share is. -/
theorem asignado_enRango_iff (isAssigned : charger.hpt.assigned = true) :
    (charger.asignado disponibleFase disponibleTotal).enRango ↔
      charger.threePhase = true ∨ min disponibleFase disponibleTotal = 0 ∨
        6 ≤ min disponibleFase disponibleTotal := by
  have value : (UInt16.ofNat (min (min disponibleFase disponibleTotal) 32)).toNat =
      min (min disponibleFase disponibleTotal) 32 := by
    rw [UInt16.toNat_ofNat']
    omega
  have given : CaracCharger.enRango { charger with
      consigna := UInt16.ofNat (min (min disponibleFase disponibleTotal) 32) } ↔
      min disponibleFase disponibleTotal = 0 ∨ 6 ≤ min disponibleFase disponibleTotal := by
    unfold enRango
    rw [← UInt16.toNat_inj, value, UInt16.toNat_zero]
    omega
  cases falls : charger.cae disponibleFase disponibleTotal with
  | true =>
      have threePhase : charger.threePhase = true := by
        simp only [cae, Bool.and_eq_true] at falls
        exact falls.2.1
      rw [asignado, if_pos isAssigned, if_pos falls]
      exact iff_of_true (.inl rfl) (.inl threePhase)
  | false =>
      rw [asignado_consigna_eq isAssigned falls, given]
      refine (or_iff_right_of_imp fun threePhase => ?_).symm
      have enough : ¬ consignaRepartida disponibleFase disponibleTotal < 6 := by
        intro small
        simp [cae, isAssigned, threePhase, small] at falls
      rw [consignaRepartida_eq] at enough
      omega

end CaracCharger

/-! ## The table after the evictions -/

section Tabla

variable {s : GroupState} {rondas i : Nat}

theorem tablaTras_enRango
    (receives : s.expulsadoTras rondas i ∨ (s.chargerTable i).hpt.assigned = true) :
    (s.tablaTras rondas i).enRango ↔
      s.expulsadoTras rondas i ∨ (s.chargerTable i).enRango := by
  unfold GroupState.tablaTras
  split_ifs with gone
  · exact iff_of_true CaracCharger.enRango_expulsar (.inl gone)
  · unfold CaracCharger.enRango
    rw [(tablaContada_of_assigned (receives.resolve_left gone)).2]
    exact (or_iff_right gone).symm

end Tabla

/-! ## The shares -/

/-- Without units nobody is counted. -/
theorem numConectados_eq_zero {s : GroupState} (none : s.pesoTotal = 0) :
    s.numConectados = 0 := by
  rw [GroupState.pesoTotal, sum_eq_zero_iff] at none
  refine sum_eq_zero fun i member => if_neg fun connected => ?_
  have weight := none i member
  rw [CaracCharger.peso, if_pos connected] at weight
  split_ifs at weight

section Cuotas

variable {s : GroupState} (bounded : s.chargerNumber ≤ maxGroupSize) {rondas : Nat}
  (veces : s.expulsaVeces rondas) (present : s.conexTras rondas ≠ 0)

include bounded veces present

/-- With chargers left, the share of the group is 6 A at least or the units ran out, and
then it is the one before the last round. -/
theorem cuotaTras_cases :
    (0 < s.unidadesTras rondas ∧ 6 ≤ s.cuotaTras rondas) ∨
      (s.unidadesTras rondas = 0 ∧ 0 < s.unidadesTras (rondas - 1) ∧
        s.cuotaTras rondas = s.corrienteGrupo / s.unidadesTras (rondas - 1) ∧
        s.cuotaTras rondas < 6) := by
  rcases Nat.eq_zero_or_pos (s.unidadesTras rondas) with none | some
  · right
    cases rondas with
    | zero =>
        have nadie : s.numConectados = 0 := by
          rw [GroupState.unidadesTras_zero bounded] at none
          exact numConectados_eq_zero none
        rw [GroupState.conexTras, nadie] at present
        exact absurd rfl present
    | succ rondas =>
        have before := veces.2 rondas (Nat.lt_succ_self rondas)
        rw [GroupState.cabeTras, not_or, Nat.not_le] at before
        have positive : 0 < s.unidadesTras rondas := Nat.pos_of_ne_zero before.1
        have share : s.cuotaTras (rondas + 1) = s.corrienteGrupo / s.unidadesTras rondas := by
          rw [GroupState.cuotaTras, if_neg (by omega), GroupState.cuotaTras_of_pos positive]
        refine ⟨none, positive, share, ?_⟩
        rw [share, Nat.div_lt_iff_lt_mul positive]
        exact before.2
  · left
    refine ⟨some, ?_⟩
    rw [GroupState.cuotaTras_of_pos some, Share.le_share_iff some]
    exact veces.1.resolve_left some.ne'

/-- The smaller share is right exactly when the shares are. -/
theorem cuotasEnRango_iff (i : Nat) :
    (min (s.disponiblePropia i) (s.cuotaTras rondas) = 0 ∨
      6 ≤ min (s.disponiblePropia i) (s.cuotaTras rondas)) ↔ s.cuotasEnRango rondas i := by
  unfold GroupState.cuotasEnRango GroupState.agotadoSinCuota
  rcases cuotaTras_cases bounded veces present with ⟨some, share⟩ | ⟨none, before, share, small⟩
  · omega
  · have nothing : s.cuotaTras rondas = 0 ↔ s.corrienteGrupo < s.unidadesTras (rondas - 1) := by
      rw [share]
      exact Nat.div_eq_zero_iff_lt before
    rw [← nothing]
    omega

end Cuotas

/-- The setpoints of a tick are right exactly when its shares are. -/
theorem consignas_en_rango_iff {s : GroupState} (bounded : s.chargerNumber ≤ maxGroupSize) :
    s.consignasEnRango ↔ s.repartoEnRango := by
  obtain ⟨rondas, -, veces⟩ := s.exists_expulsaVeces
  have cell : ∀ i, i < s.chargerNumber →
      (((tickCalculo s).chargerTable i).hpt.assigned = true →
          ((tickCalculo s).chargerTable i).enRango ↔
        (s.expulsadoTras rondas i ∨ (s.chargerTable i).hpt.assigned = true →
          if s.conexTras rondas = 0 then
            s.expulsadoTras rondas i ∨ (s.chargerTable i).enRango
          else
            (¬ s.expulsadoTras rondas i ∧ (s.chargerTable i).threePhase = true) ∨
              s.cuotasEnRango rondas i)) := by
    intro i below
    split_ifs with empty
    · rw [tickCalculo_chargerTable_of_eq_zero bounded veces empty, tablaTras_assigned]
      exact forall_congr' fun receives => tablaTras_enRango receives
    · rw [tickCalculo_chargerTable_of_ne_zero bounded veces empty below,
        CaracCharger.asignado_assigned, tablaTras_assigned, disponibleFase_eq bounded]
      refine forall_congr' fun receives => ?_
      rw [CaracCharger.asignado_enRango_iff (tablaTras_assigned.mpr receives),
        tablaTras_threePhase receives, cuotasEnRango_iff bounded veces empty]
  constructor
  · intro right other more i below
    obtain rfl := GroupState.expulsaVeces_unique veces more
    exact (cell i below).mp (right i below)
  · intro right i below
    exact (cell i below).mpr (right rondas veces i below)

/-- For a wired charger the phase counts by the limit of its circuit: less than 1 A, or
6 A at least, for each time the phase is counted. -/
theorem cuotasEnRango_of_cableado {s : GroupState} {rondas i : Nat}
    (wired : (s.chargerTable i).Cableado s.circuitNumber) :
    s.cuotasEnRango rondas i ↔
      (s.circuitos (s.chargerTable i).circuitoIdx).limiteCorriente.toNat <
          max 1 (s.cargaFase (s.chargerTable i).circuitoIdx (s.chargerTable i).faseA) ∨
        s.agotadoSinCuota rondas ∨
        0 < s.unidadesTras rondas ∧
          6 * max 1 (s.cargaFase (s.chargerTable i).circuitoIdx (s.chargerTable i).faseA) ≤
            (s.circuitos (s.chargerTable i).circuitoIdx).limiteCorriente.toNat := by
  unfold GroupState.cuotasEnRango GroupState.disponiblePropia
  rw [if_pos ⟨wired.circuitoIdx_lt, wired.faseA_lt⟩, GroupState.cuotaPropia, GroupState.cuotaFase]
  split_ifs with counted
  · rw [Nat.max_eq_right counted, Nat.div_eq_zero_iff_lt counted, Share.le_share_iff counted]
  · rw [Nat.max_eq_left (Nat.le_succ_of_le (Nat.not_lt.mp counted)), Nat.mul_one, Nat.lt_one_iff]

/-- A circuit of 32 A for two chargers, and 80 A for the group. -/
def dosQueCaben : GroupState :=
  GroupState.inicio (.conPotencia 184) [.enEstado 'C' '2' 1, .enEstado 'B' '1' 0] [32]

theorem dosQueCaben_enRango : dosQueCaben.consignasEnRango := by
  apply (consignas_en_rango_iff (by decide)).mpr
  intro rondas veces
  obtain rfl := GroupState.expulsaVeces_unique veces (by decide : dosQueCaben.expulsaVeces 0)
  decide

/-- A circuit of 5 A for one charger. -/
def circuitoDeCinco : GroupState :=
  GroupState.inicio (.conPotencia 184) [.enEstado 'C' '2' 1] [5]

/-- Its setpoint is of 5 A. -/
theorem circuitoDeCinco_fuera :
    circuitoDeCinco.chargerNumber ≤ maxGroupSize ∧ circuitoDeCinco.cableado ∧
      ¬ circuitoDeCinco.consignasEnRango := by
  refine ⟨by decide, by decide, fun right => ?_⟩
  exact absurd (right 0 (by decide) (by decide)) (by decide)

end VeltiumCharger.Group
