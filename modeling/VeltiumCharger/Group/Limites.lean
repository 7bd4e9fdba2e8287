import VeltiumCharger.Group.Asignacion

/-!
# Current limits after a `CALCULO` tick

The setpoints of a tick are shares of two limits: that of the group and that of
a phase of the charger's circuit.  A share was computed for the units counted
at the time; the limit is kept as long as no more units take it.
-/

namespace VeltiumCharger.Group

open Finset VeltiumCharger.Loop

/-! ## Who takes a share -/

/-- The pilot states whose setpoints count against a limit. -/
def Hpt.recibe (hpt : Hpt) : Bool :=
  hpt.is 'C' '2' || hpt.is 'B' '2' || hpt.is 'B' '1'

theorem Hpt.assigned_of_recibe {hpt : Hpt} (takes : hpt.recibe = true) :
    hpt.assigned = true := by
  simp only [recibe, Bool.or_eq_true] at takes
  rcases takes with (isC2 | isB2) | isB1
  · rw [assigned, isC2, Bool.true_or]
  · rw [assigned, startsB_of_is isB2, Bool.or_true]
  · rw [assigned, startsB_of_is isB1, Bool.or_true]

theorem Hpt.connected_of_recibe {hpt : Hpt} (takes : hpt.recibe = true) :
    hpt.connected = true := by
  simp only [recibe, connected, Bool.or_eq_true] at takes ⊢
  rcases takes with (isC2 | isB2) | isB1
  · exact .inl (.inl (.inl isC2))
  · exact .inl (.inr isB2)
  · exact .inr isB1

/-- A connected charger takes a share unless it is in `C1`. -/
theorem Hpt.recibe_or_isC1 {hpt : Hpt} (connected : hpt.connected = true) :
    (hpt.recibe = true ∧ hpt.is 'C' '1' = false) ∨
      (hpt.recibe = false ∧ hpt.is 'C' '1' = true) := by
  cases isC1 : hpt.is 'C' '1' with
  | true =>
      right
      simp [recibe, is_eq_false 'C' '2' isC1 (by decide), is_eq_false 'B' '2' isC1 (by decide),
        is_eq_false 'B' '1' isC1 (by decide)]
  | false =>
      left
      simpa [recibe, Hpt.connected, isC1] using connected

namespace GroupState

/-- The current the setpoints add up to. -/
def consignaTotal (s : GroupState) : Nat :=
  ∑ i ∈ range s.chargerNumber with (s.chargerTable i).hpt.recibe,
    (s.chargerTable i).consigna.toNat * (s.chargerTable i).unidades

/-- The units that take a share after `rondas` evictions: an evicted charger is
in `B1`, where it takes one. -/
def unidadesAsignadas (s : GroupState) (rondas : Nat) : Nat :=
  ∑ i ∈ range s.chargerNumber with (s.tablaTras rondas i).hpt.recibe,
    (s.tablaTras rondas i).unidades

/-- The units that an eviction leaves uncounted although they take a share: the
evicted charger takes one again, and an old three-phase mark has subtracted two
more than were counted. -/
def vuelve (s : GroupState) (i : Nat) : Nat :=
  1 + (s.descuento i - (s.chargerTable i).peso)

/-- The units that the first `rondas` evictions leave uncounted. -/
def unidadesVueltas (s : GroupState) (rondas : Nat) : Nat :=
  ∑ i ∈ range s.chargerNumber with s.expulsadoTras rondas i, s.vuelve i

/-- The units that are counted for chargers in `C1`, which take no share. -/
def unidadesSinConsigna (s : GroupState) (rondas : Nat) : Nat :=
  ∑ i ∈ range s.chargerNumber with
      (s.chargerTable i).hpt.is 'C' '1' ∧ ¬ s.expulsadoTras rondas i,
    (s.chargerTable i).unidades

/-- The pass finds all the chargers it evicts, and then either nobody is left
or the chargers that stay in `C1` make up for those that are evicted. -/
def repartoSeguro (s : GroupState) : Prop :=
  ∃ rondas, s.expulsaVeces rondas ∧ rondas ≤ #s.candidatos ∧
    (rondas = s.numConectados ∨ s.unidadesVueltas rondas ≤ s.unidadesSinConsigna rondas)

/-- Somebody stays counted after `rondas` evictions, and no charger that takes a
share is limited by its phase below the group's share. -/
def holgado (s : GroupState) (rondas : Nat) : Prop :=
  0 < s.unidadesTras rondas ∧ ∀ i, i < s.chargerNumber →
    s.expulsadoTras rondas i ∨ (s.chargerTable i).hpt.recibe = true →
    min (s.cuotaTras rondas) 32 ≤ s.cuotaPropia i

instance (s : GroupState) : DecidablePred s.holgado :=
  fun _ => inferInstanceAs (Decidable (_ ∧ ∀ i, i < s.chargerNumber → _ ∨ _ → _))

end GroupState

/-! ## Evictions among the connected chargers -/

section Expulsados

variable {s : GroupState} {rondas : Nat}

namespace GroupState

variable (s) in
/-- The chargers counted as connected. -/
def conectadosSet : Finset Nat :=
  {i ∈ range s.chargerNumber | (s.chargerTable i).hpt.connected}

theorem card_conectadosSet : #s.conectadosSet = s.numConectados := by
  unfold conectadosSet numConectados
  rw [card_filter]

theorem candidatos_subset : s.candidatos ⊆ s.conectadosSet := by
  intro i member
  rcases mem_candidatos.mp member with ⟨below, charges, _⟩
  simp [conectadosSet, below, Hpt.connected_of_charging charges]

theorem card_candidatos_le_numConectados : #s.candidatos ≤ s.numConectados := by
  rw [← card_conectadosSet]
  exact card_le_card candidatos_subset

/-- The mark that an eviction reads is the one a charger had, or that of its currents. -/
theorem trasContado {i : Nat} (counted : i ∈ s.conectadosSet) :
    (s.tablaContada i).trifasico ≠ 0 ↔
      (s.chargerTable i).threePhase = true ∨ (s.chargerTable i).trifasico ≠ 0 := by
  obtain ⟨below, connected⟩ := mem_filter.mp counted
  rw [tablaContada, if_pos (mem_range.mp below), CaracCharger.contado_of_connected connected]
  cases (s.chargerTable i).threePhase <;> simp

theorem peso_of_counted {i : Nat} (counted : i ∈ s.conectadosSet) :
    (s.chargerTable i).peso = if (s.chargerTable i).threePhase then 3 else 1 := by
  rw [CaracCharger.peso, if_pos (mem_filter.mp counted).2]

theorem peso_le_descuento {i : Nat} (counted : i ∈ s.conectadosSet) :
    (s.chargerTable i).peso ≤ s.descuento i := by
  have mark := trasContado counted
  rw [peso_of_counted counted, descuento]
  split_ifs with threePhase marked
  · exact Nat.le_refl _
  · exact absurd (mark.mpr (.inl threePhase)) marked
  · decide
  · exact Nat.le_refl _

/-- As many evictions as connected chargers evict each of them. -/
theorem expulsadoTras_of_all (found : rondas ≤ #s.candidatos)
    (all : rondas = s.numConectados) {i : Nat} (below : i < s.chargerNumber)
    (isConnected : (s.chargerTable i).hpt.connected = true) :
    s.expulsadoTras rondas i := by
  have everybody : s.candidatos = s.conectadosSet := by
    apply eq_of_subset_of_card_le candidatos_subset
    rw [card_conectadosSet]
    omega
  apply expulsadoTras_of_mem
  · rw [all]
    exact card_candidatos_le_numConectados
  · rw [everybody]
    simp [conectadosSet, below, isConnected]

/-- While the pass only evicts chargers it finds, `conex` reaches zero with the
last of them. -/
theorem conexTras_eq_zero_iff (bounded : s.chargerNumber ≤ maxGroupSize)
    (found : rondas ≤ #s.candidatos) :
    s.conexTras rondas = 0 ↔ rondas = s.numConectados := by
  have connected := s.numConectados_le
  have candidates := card_candidatos_le_numConectados (s := s)
  unfold maxGroupSize at bounded
  unfold conexTras
  omega

/-- Once everybody connected is evicted, nobody has a setpoint left. -/
theorem consigna_tablaTras_of_all (found : rondas ≤ #s.candidatos)
    (all : rondas = s.numConectados) {i : Nat} (below : i < s.chargerNumber)
    (takes : (s.tablaTras rondas i).hpt.recibe = true) :
    (s.tablaTras rondas i).consigna = 0 := by
  by_cases evicted : s.expulsadoTras rondas i
  · rw [tablaTras, if_pos evicted]
    rfl
  · rw [tablaTras, if_neg evicted, tablaContada_hpt] at takes
    exact absurd (expulsadoTras_of_all found all below (Hpt.connected_of_recibe takes)) evicted

theorem unidadesTras_of_le (bounded : s.chargerNumber ≤ maxGroupSize)
    (enough : s.descontado rondas ≤ s.pesoTotal) :
    s.unidadesTras rondas = s.pesoTotal - s.descontado rondas := by
  have size := s.pesoTotal_le
  unfold maxGroupSize at bounded
  rw [unidadesTras]
  omega

/-- The chargers evicted while the search finds somebody. -/
theorem filter_expulsadoTras (found : rondas ≤ #s.candidatos) :
    {i ∈ range s.chargerNumber | s.expulsadoTras rondas i} =
      {i ∈ s.candidatos | s.rango i < rondas} := by
  ext i
  rw [mem_filter, mem_filter, expulsadoTras_iff_of_le found, mem_range]
  constructor
  · exact fun ⟨_, gone⟩ => gone
  · exact fun gone => ⟨(mem_candidatos.mp gone.1).1, gone⟩

/-- They are subtracted once each. -/
theorem descontado_of_found (found : rondas ≤ #s.candidatos) :
    s.descontado rondas =
      ∑ i ∈ range s.chargerNumber with s.expulsadoTras rondas i, s.descuento i := by
  rw [filter_expulsadoTras found, descontado, Nat.sub_eq_zero_of_le found, Nat.zero_mul,
    Nat.add_zero]

theorem descuento_le (i : Nat) : s.descuento i ≤ 3 := by
  unfold descuento
  split_ifs <;> decide

/-- Evictions of chargers that the search finds never subtract more than was
counted: the counter would go through zero, and the loop would go on. -/
theorem descontado_le_pesoTotal (bounded : s.chargerNumber ≤ maxGroupSize)
    (veces : s.expulsaVeces rondas) (found : rondas ≤ #s.candidatos) :
    s.descontado rondas ≤ s.pesoTotal := by
  by_contra more
  have size := s.pesoTotal_le
  have number := s.card_candidatos_le
  have most : s.descontado rondas ≤ #s.candidatos * 3 := by
    rw [descontado_of_found found, filter_expulsadoTras found]
    refine (sum_le_card_nsmul _ _ 3 fun i _ => s.descuento_le i).trans ?_
    exact Nat.mul_le_mul_right 3 (card_filter_le _ _)
  have some : 0 < rondas := by
    rw [Nat.pos_iff_ne_zero]
    rintro rfl
    simp [descontado] at more
  have first := veces.2 0 some
  have last := veces.1
  unfold maxGroupSize at bounded
  rw [cabeTras, unidadesTras] at first last
  have start : s.descontado 0 = 0 := by simp [descontado]
  rw [start] at first
  omega

/-- Every unit counted is evicted, takes a share or is in `C1`; those evicted are
subtracted by their mark, and take one unit again. -/
theorem unidadesAsignadas_add (bounded : s.chargerNumber ≤ maxGroupSize)
    (veces : s.expulsaVeces rondas) (found : rondas ≤ #s.candidatos) :
    s.unidadesAsignadas rondas + s.unidadesSinConsigna rondas =
      s.unidadesTras rondas + s.unidadesVueltas rondas := by
  have each : s.unidadesAsignadas rondas + s.unidadesSinConsigna rondas + s.descontado rondas =
      s.pesoTotal + s.unidadesVueltas rondas := by
    rw [descontado_of_found found]
    unfold unidadesAsignadas unidadesSinConsigna pesoTotal unidadesVueltas
    simp only [sum_filter]
    rw [← sum_add_distrib, ← sum_add_distrib, ← sum_add_distrib]
    refine sum_congr rfl fun i member => ?_
    have below := mem_range.mp member
    by_cases gone : s.expulsadoTras rondas i
    · have counted : i ∈ s.conectadosSet :=
        candidatos_subset ((expulsadoTras_iff_of_le found).mp gone).1
      have weight := peso_le_descuento counted
      have takes : (s.tablaTras rondas i).hpt.recibe = true ∧
          (s.tablaTras rondas i).unidades = 1 := by
        rw [tablaTras, if_pos gone]
        exact ⟨rfl, rfl⟩
      simp only [takes, gone, not_true, and_false, if_true, if_false, vuelve]
      omega
    · have same : (s.tablaTras rondas i).hpt = (s.chargerTable i).hpt := by
        rw [tablaTras, if_neg gone, tablaContada_hpt]
      simp only [same, gone, not_false_eq_true, and_true, if_false, Nat.add_zero]
      by_cases connected : (s.chargerTable i).hpt.connected = true
      · have units : (s.tablaTras rondas i).unidades = (s.chargerTable i).unidades := by
          rw [tablaTras, if_neg gone, tablaContada, if_pos below, CaracCharger.unidades,
            CaracCharger.contado_threePhase_of_connected connected, CaracCharger.unidades]
        rw [units, CaracCharger.peso, if_pos connected, ← CaracCharger.unidades]
        rcases Hpt.recibe_or_isC1 connected with ⟨takes, other⟩ | ⟨takes, isC1⟩
        · simp [takes, other]
        · simp [takes, isC1]
      · have takes : ¬ (s.chargerTable i).hpt.recibe = true :=
          fun takes => connected (Hpt.connected_of_recibe takes)
        have isC1 : ¬ (s.chargerTable i).hpt.is 'C' '1' = true := by
          intro isC1
          apply connected
          simp [Hpt.connected, isC1]
        simp [takes, isC1, CaracCharger.peso, connected]
  rw [unidadesTras_of_le bounded (descontado_le_pesoTotal bounded veces found)]
  have enough := descontado_le_pesoTotal bounded veces found
  omega

/-- Who takes a share after the evictions is evicted or took one before. -/
theorem tablaTras_recibe {i : Nat} :
    (s.tablaTras rondas i).hpt.recibe = true ↔
      s.expulsadoTras rondas i ∨ (s.chargerTable i).hpt.recibe = true := by
  unfold tablaTras
  split_ifs with gone
  · exact iff_of_true rfl (.inl gone)
  · rw [tablaContada_hpt]
    exact (or_iff_right gone).symm

/-- With everybody evicted no unit is left. -/
theorem unidadesTras_of_all (bounded : s.chargerNumber ≤ maxGroupSize)
    (veces : s.expulsaVeces rondas) (found : rondas ≤ #s.candidatos)
    (all : rondas = s.numConectados) : s.unidadesTras rondas = 0 := by
  have enough := descontado_le_pesoTotal bounded veces found
  rw [unidadesTras_of_le bounded enough]
  apply Nat.sub_eq_zero_of_le
  rw [descontado_of_found found, pesoTotal, sum_filter]
  refine sum_le_sum fun i member => ?_
  have below := mem_range.mp member
  by_cases connected : (s.chargerTable i).hpt.connected = true
  · rw [if_pos (expulsadoTras_of_all found all below connected)]
    apply peso_le_descuento
    simp [conectadosSet, below, connected]
  · rw [CaracCharger.peso, if_neg connected]
    exact Nat.zero_le _

/-- Without evictions nobody takes a unit again. -/
theorem repartoSeguro_of_cabe (fits : s.cabeTras 0) : s.repartoSeguro := by
  refine ⟨0, ⟨fits, fun _ below => absurd below (Nat.not_lt_zero _)⟩, Nat.zero_le _, .inr ?_⟩
  simp [unidadesVueltas]

/-- What is left of the group's current after a share for each unit is too small for 32 A:
the last eviction took three units at most. -/
theorem cuotaTras_le (bounded : s.chargerNumber ≤ maxGroupSize)
    (veces : s.expulsaVeces (rondas + 1)) (found : rondas + 1 ≤ #s.candidatos)
    (counted : 0 < s.unidadesTras (rondas + 1)) : s.cuotaTras (rondas + 1) ≤ 32 := by
  have enough := descontado_le_pesoTotal bounded veces found
  have before : s.descontado rondas ≤ s.pesoTotal := by
    rw [descontado_succ] at enough
    omega
  have units := unidadesTras_of_le bounded enough
  rw [descontado_succ] at units
  have step := unidadesTras_of_le bounded before
  have mark := s.descuento_le (s.expulsadoEn rondas)
  have short := veces.2 rondas (Nat.lt_succ_self rondas)
  rw [cabeTras, not_or, Nat.not_le] at short
  rw [cuotaTras_of_pos counted]
  apply Nat.le_of_lt_succ
  rw [Nat.div_lt_iff_lt_mul counted]
  omega

end GroupState

end Expulsados

/-! ## The limit of the group -/

section Grupo

variable {s : GroupState}

theorem limiteConsumo_of_calculo (t : Tick) (inCalculo : s.controlGrupoState = .calculo) :
    limiteConsumo t s = tickCalculo s := by
  rw [limiteConsumo, inCalculo]

/-- A tick that evicts everybody leaves no setpoints. -/
theorem consigna_tickCalculo_of_all (bounded : s.chargerNumber ≤ maxGroupSize) {rondas : Nat}
    (veces : s.expulsaVeces rondas) (found : rondas ≤ #s.candidatos)
    (all : rondas = s.numConectados) {i : Nat} (below : i < s.chargerNumber)
    (takes : ((tickCalculo s).chargerTable i).hpt.recibe = true) :
    ((tickCalculo s).chargerTable i).consigna = 0 := by
  have empty := (GroupState.conexTras_eq_zero_iff bounded found).mpr all
  rw [tickCalculo_chargerTable_of_eq_zero bounded veces empty] at takes ⊢
  exact GroupState.consigna_tablaTras_of_all found all below takes

/-- A charger with a positive setpoint after the tick took its share in the
table the evictions left. -/
theorem tickCalculo_of_pos (bounded : s.chargerNumber ≤ maxGroupSize) {rondas : Nat}
    (veces : s.expulsaVeces rondas) (present : s.conexTras rondas ≠ 0) {i : Nat}
    (below : i < s.chargerNumber)
    (positive : 0 < ((tickCalculo s).chargerTable i).consigna.toNat) :
    ((tickCalculo s).chargerTable i).hpt = (s.tablaTras rondas i).hpt ∧
      ((tickCalculo s).chargerTable i).unidades = (s.tablaTras rondas i).unidades := by
  rw [tickCalculo_chargerTable_of_ne_zero bounded veces present below] at positive ⊢
  rcases CaracCharger.asignado_of_pos positive with ⟨sameHpt, sameThreePhase⟩
  exact ⟨sameHpt, by rw [CaracCharger.unidades, CaracCharger.unidades, sameThreePhase]⟩

/-- Who takes a share takes at most the group's share and 32 A. -/
theorem consigna_tickCalculo_le (bounded : s.chargerNumber ≤ maxGroupSize) {rondas : Nat}
    (veces : s.expulsaVeces rondas) (present : s.conexTras rondas ≠ 0) {i : Nat}
    (below : i < s.chargerNumber) (takes : (s.tablaTras rondas i).hpt.recibe = true) :
    ((tickCalculo s).chargerTable i).consigna.toNat ≤ min (s.cuotaTras rondas) 32 := by
  rw [tickCalculo_chargerTable_of_ne_zero bounded veces present below]
  exact (CaracCharger.asignado_consigna_le (Hpt.assigned_of_recibe takes)).trans
    (min_le_min_right _ (min_le_right _ _))

/-- The contribution of one charger to the sum of the setpoints. -/
theorem consigna_mul_unidades_le (bounded : s.chargerNumber ≤ maxGroupSize) {rondas : Nat}
    (veces : s.expulsaVeces rondas) (present : s.conexTras rondas ≠ 0) {i : Nat}
    (below : i < s.chargerNumber) :
    (if ((tickCalculo s).chargerTable i).hpt.recibe then
        ((tickCalculo s).chargerTable i).consigna.toNat *
          ((tickCalculo s).chargerTable i).unidades
      else 0) ≤
      (if (s.tablaTras rondas i).hpt.recibe then (s.tablaTras rondas i).unidades else 0) *
        min (s.cuotaTras rondas) 32 := by
  rcases Nat.eq_zero_or_pos ((tickCalculo s).chargerTable i).consigna.toNat with none | positive
  · simp [none]
  · rcases tickCalculo_of_pos bounded veces present below positive with ⟨sameHpt, sameUnidades⟩
    rw [sameHpt, sameUnidades]
    split_ifs with takes
    · rw [Nat.mul_comm]
      exact Nat.mul_le_mul_left _ (consigna_tickCalculo_le bounded veces present below takes)
    · exact Nat.zero_le _

/-- The setpoints of a tick, bounded by the units that take a share. -/
theorem consignaTotal_tickCalculo_le (bounded : s.chargerNumber ≤ maxGroupSize) {rondas : Nat}
    (veces : s.expulsaVeces rondas) (present : s.conexTras rondas ≠ 0) :
    (tickCalculo s).consignaTotal ≤
      s.unidadesAsignadas rondas * min (s.cuotaTras rondas) 32 := by
  rw [GroupState.consignaTotal, tickCalculo_chargerNumber, sum_filter,
    GroupState.unidadesAsignadas, sum_filter, sum_mul]
  exact sum_le_sum fun i member =>
    consigna_mul_unidades_le bounded veces present (mem_range.mp member)

/-- A tick that evicts everybody leaves nothing to add up. -/
theorem consignaTotal_tickCalculo_of_all (bounded : s.chargerNumber ≤ maxGroupSize)
    {rondas : Nat} (veces : s.expulsaVeces rondas) (found : rondas ≤ #s.candidatos)
    (all : rondas = s.numConectados) :
    (tickCalculo s).consignaTotal = 0 := by
  rw [GroupState.consignaTotal, tickCalculo_chargerNumber]
  apply sum_eq_zero
  intro i member
  rcases mem_filter.mp member with ⟨below, takes⟩
  rw [consigna_tickCalculo_of_all bounded veces found all (mem_range.mp below) takes]
  exact Nat.zero_mul _

/-- When no phase gives less than the group, each charger takes the group's
share in full. -/
theorem consignaTotal_tickCalculo_eq (bounded : s.chargerNumber ≤ maxGroupSize)
    (wired : s.cableado) {rondas : Nat} (veces : s.expulsaVeces rondas)
    (present : s.conexTras rondas ≠ 0) (roomy : s.holgado rondas) :
    (tickCalculo s).consignaTotal =
      s.unidadesAsignadas rondas * min (s.cuotaTras rondas) 32 := by
  obtain ⟨counted, phases⟩ := roomy
  have share : 6 ≤ s.cuotaTras rondas := by
    rw [GroupState.cuotaTras_of_pos counted, Share.le_share_iff counted]
    exact veces.1.resolve_left counted.ne'
  rw [GroupState.consignaTotal, tickCalculo_chargerNumber, sum_filter,
    GroupState.unidadesAsignadas, sum_filter, sum_mul]
  apply sum_congr rfl
  intro i member
  have below := mem_range.mp member
  have own := disponibleFase_eq_cuotaPropia bounded (wired i below)
  by_cases takes : (s.tablaTras rondas i).hpt.recibe = true
  · have phaseRoom := phases i below (GroupState.tablaTras_recibe.mp takes)
    have least : min (min (s.cuotaPropia i) (s.cuotaTras rondas)) 32 =
        min (s.cuotaTras rondas) 32 := by
      omega
    have stays : (s.tablaTras rondas i).cae (s.cuotaPropia i) (s.cuotaTras rondas) = false :=
      CaracCharger.cae_eq_false fun _ => by omega
    have final := tickCalculo_chargerTable_of_ne_zero bounded veces present below
    rw [own, CaracCharger.asignado_consigna_eq (Hpt.assigned_of_recibe takes) stays,
      least] at final
    have small : min (s.cuotaTras rondas) 32 % 2 ^ 16 = min (s.cuotaTras rondas) 32 :=
      Nat.mod_eq_of_lt (by omega)
    rw [final]
    simp only [takes, if_true, CaracCharger.unidades, CaracCharger.threePhase,
      UInt16.toNat_ofNat', small]
    exact Nat.mul_comm _ _
  · have bound := consigna_mul_unidades_le bounded veces present below
    rw [if_neg takes, Nat.zero_mul] at bound ⊢
    exact Nat.le_zero.mp bound

/-- The setpoints of a tick fit in its current when no more units take a share than were
counted. -/
theorem consignaTotal_le_of_vueltas (bounded : s.chargerNumber ≤ maxGroupSize) {rondas : Nat}
    (veces : s.expulsaVeces rondas) (found : rondas ≤ #s.candidatos)
    (present : s.conexTras rondas ≠ 0)
    (vuelven : s.unidadesVueltas rondas ≤ s.unidadesSinConsigna rondas) :
    (tickCalculo s).consignaTotal ≤ s.corrienteGrupo := by
  have balance := GroupState.unidadesAsignadas_add bounded veces found
  have fewer : s.unidadesAsignadas rondas ≤ s.unidadesTras rondas := by omega
  rcases Nat.eq_zero_or_pos (s.unidadesTras rondas) with none | counted
  · have nobody : s.unidadesAsignadas rondas = 0 := by omega
    have bound := consignaTotal_tickCalculo_le bounded veces present
    rw [nobody, Nat.zero_mul] at bound
    exact bound.trans (Nat.zero_le _)
  · calc
      (tickCalculo s).consignaTotal
          ≤ s.unidadesAsignadas rondas * min (s.cuotaTras rondas) 32 :=
        consignaTotal_tickCalculo_le bounded veces present
      _ ≤ s.unidadesTras rondas * s.cuotaTras rondas :=
        Nat.mul_le_mul fewer (min_le_left _ _)
      _ ≤ s.corrienteGrupo := by
        rw [GroupState.cuotaTras_of_pos counted]
        exact Nat.mul_div_le _ _

/-- Where no phase gives less than the group, the setpoints fit exactly when the shares of
the units that were not counted fit in what the division leaves over. -/
theorem consignaTotal_le_iff_of_holgado (bounded : s.chargerNumber ≤ maxGroupSize)
    (wired : s.cableado) {rondas : Nat} (veces : s.expulsaVeces rondas)
    (found : rondas ≤ #s.candidatos) (present : s.conexTras rondas ≠ 0)
    (roomy : s.holgado rondas) :
    (tickCalculo s).consignaTotal ≤ s.corrienteGrupo ↔
      (s.unidadesVueltas rondas - s.unidadesSinConsigna rondas) * s.cuotaTras rondas ≤
        s.corrienteGrupo % s.unidadesTras rondas := by
  have balance := GroupState.unidadesAsignadas_add bounded veces found
  cases rondas with
  | zero =>
      have nobody : s.unidadesVueltas 0 = 0 := by simp [GroupState.unidadesVueltas]
      refine iff_of_true ?_ ?_
      · exact consignaTotal_le_of_vueltas bounded veces found present (by omega)
      · rw [nobody, Nat.zero_sub, Nat.zero_mul]
        exact Nat.zero_le _
  | succ rondas =>
      rw [consignaTotal_tickCalculo_eq bounded wired veces present roomy,
        Nat.min_eq_left (GroupState.cuotaTras_le bounded veces found roomy.1),
        GroupState.cuotaTras_of_pos roomy.1]
      generalize s.unidadesTras (rondas + 1) = units at balance ⊢
      have division := Nat.div_add_mod s.corrienteGrupo units
      rcases Nat.le_total (s.unidadesVueltas (rondas + 1))
        (s.unidadesSinConsigna (rondas + 1)) with enough | more
      · have fewer : s.unidadesAsignadas (rondas + 1) ≤ units := by omega
        rw [Nat.sub_eq_zero_of_le enough, Nat.zero_mul]
        refine iff_of_true ?_ (Nat.zero_le _)
        exact (Nat.mul_le_mul_right _ fewer).trans (Nat.mul_div_le _ _)
      · obtain ⟨extra, exceeds⟩ := Nat.exists_eq_add_of_le more
        have all : s.unidadesAsignadas (rondas + 1) = units + extra := by omega
        rw [exceeds, Nat.add_sub_cancel_left, all, Nat.add_mul]
        omega

/-- The setpoints of a tick stay within the current the tick shares out when
the chargers that stay in `C1` make up for those evicted; where no phase gives
less than the group, exactly when the shares of the units in excess fit in what
the division leaves over. -/
theorem consignaTotal_le_limitada (t : Tick) (inCalculo : s.controlGrupoState = .calculo)
    (bounded : s.chargerNumber ≤ maxGroupSize) (wired : s.cableado) :
    (s.repartoSeguro →
      (limiteConsumo t s).consignaTotal ≤ (limiteConsumo t s).corrienteDisponibleLimitada) ∧
    (∀ rondas, s.expulsaVeces rondas → rondas ≤ #s.candidatos → s.holgado rondas →
      ((limiteConsumo t s).consignaTotal ≤ (limiteConsumo t s).corrienteDisponibleLimitada ↔
        (s.unidadesVueltas rondas - s.unidadesSinConsigna rondas) * s.cuotaTras rondas ≤
          s.corrienteGrupo % s.unidadesTras rondas)) := by
  rw [limiteConsumo_of_calculo t inCalculo, tickCalculo_limitada bounded]
  constructor
  · rintro ⟨rondas, veces, found, safe⟩
    by_cases all : rondas = s.numConectados
    · rw [consignaTotal_tickCalculo_of_all bounded veces found all]
      exact Nat.zero_le _
    · have present : s.conexTras rondas ≠ 0 :=
        fun empty => all ((GroupState.conexTras_eq_zero_iff bounded found).mp empty)
      exact consignaTotal_le_of_vueltas bounded veces found present (safe.resolve_left all)
  · intro rondas veces found roomy
    have present : s.conexTras rondas ≠ 0 := by
      intro empty
      have all := (GroupState.conexTras_eq_zero_iff bounded found).mp empty
      exact roomy.1.ne' (GroupState.unidadesTras_of_all bounded veces found all)
    exact consignaTotal_le_iff_of_holgado bounded wired veces found present roomy

end Grupo

/-- Two chargers with 11 A between them: one is evicted, and then both get
11 A. -/
def dosConOnceAmperios : GroupState :=
  { GroupState.inicio (.conPotencia 26) [.enEstado 'C' '2' 1, .enEstado 'C' '2' 2] [32] with
    controlGrupoState := .calculo }

theorem consignaTotal_dosConOnceAmperios :
    dosConOnceAmperios.controlGrupoState = .calculo ∧
      dosConOnceAmperios.chargerNumber ≤ maxGroupSize ∧ dosConOnceAmperios.cableado ∧
      (limiteConsumo ⟨true, 0⟩ dosConOnceAmperios).corrienteDisponibleLimitada = 11 ∧
      (limiteConsumo ⟨true, 0⟩ dosConOnceAmperios).consignaTotal = 22 := by
  decide

/-- Of 8 A for two chargers one in `C1` needs none, so that the evicted one may
take them. -/
def unoEnC1 : GroupState :=
  { GroupState.inicio (.conPotencia 20) [.enEstado 'C' '1' 1, .enEstado 'C' '2' 2] [32] with
    controlGrupoState := .calculo }

theorem consignaTotal_unoEnC1 :
    (limiteConsumo ⟨true, 0⟩ unoEnC1).consignaTotal ≤
        (limiteConsumo ⟨true, 0⟩ unoEnC1).corrienteDisponibleLimitada ∧
      ¬ (limiteConsumo ⟨true, 0⟩ dosConOnceAmperios).consignaTotal ≤
        (limiteConsumo ⟨true, 0⟩ dosConOnceAmperios).corrienteDisponibleLimitada := by
  constructor
  · exact (consignaTotal_le_limitada ⟨true, 0⟩ (s := unoEnC1) rfl (by decide) (by decide)).1
      ⟨1, by decide, by decide, .inr (by decide)⟩
  · have limit := consignaTotal_le_limitada ⟨true, 0⟩ (s := dosConOnceAmperios) rfl (by decide)
      (by decide)
    exact fun kept =>
      absurd ((limit.2 1 (by decide) (by decide) (by decide)).mp kept) (by decide)

/-! ## The limits of the phases -/

/-- The setpoint of a charger of circuit `k` flows on phase `f`: on its own
phase, or on all three. -/
def CaracCharger.cargaEn (charger : CaracCharger) (k f : Nat) : Prop :=
  charger.circuitoIdx = k ∧ (charger.threePhase = true ∨ charger.faseA = f)

instance (charger : CaracCharger) (k f : Nat) : Decidable (charger.cargaEn k f) :=
  inferInstanceAs (Decidable (_ ∧ _))

namespace GroupState

/-- The current the setpoints add up to on phase `f` of circuit `k`. -/
def consignaFase (s : GroupState) (k f : Nat) : Nat :=
  ∑ i ∈ range s.chargerNumber with
      (s.chargerTable i).hpt.recibe ∧ (s.chargerTable i).cargaEn k f,
    (s.chargerTable i).consigna.toNat

/-- What its shares allow a charger after `rondas` evictions: that of its phase,
that of the group, and 32 A. -/
def alcanzan (s : GroupState) (rondas i : Nat) : Nat :=
  min (min (s.cuotaPropia i) (s.cuotaTras rondas)) 32

/-- A charger takes a share after `rondas` evictions: it is evicted, or its pilot
state lets it, and it is not a three-phase one for which there are less than 6 A. -/
def toma (s : GroupState) (rondas i : Nat) : Prop :=
  s.expulsadoTras rondas i ∨
    (s.chargerTable i).hpt.recibe = true ∧
      ((s.chargerTable i).threePhase = true → 6 ≤ s.alcanzan rondas i)

instance (s : GroupState) (rondas : Nat) : DecidablePred (s.toma rondas) :=
  fun _ => inferInstanceAs (Decidable (_ ∨ _ ∧ _))

/-- A charger loads phase `f` of circuit `k` after `rondas` evictions: its own, or
all three unless its currents have been cleared. -/
def cargaTras (s : GroupState) (rondas k f i : Nat) : Prop :=
  (s.chargerTable i).circuitoIdx = k ∧
    ((s.chargerTable i).faseA = f ∨
      ¬ s.expulsadoTras rondas i ∧ (s.chargerTable i).threePhase = true)

instance (s : GroupState) (rondas k f : Nat) : DecidablePred (s.cargaTras rondas k f) :=
  fun _ => inferInstanceAs (Decidable (_ ∧ _))

/-- The chargers that take a share on phase `f` of circuit `k` after `rondas`
evictions. -/
def tomanFase (s : GroupState) (rondas k f : Nat) : Finset Nat :=
  {i ∈ range s.chargerNumber | s.toma rondas i ∧ s.cargaTras rondas k f i}

/-- An equal share of phase `f` of circuit `k` for each of them. -/
def partesIguales (s : GroupState) (rondas k f : Nat) : Nat :=
  (s.circuitos k).limiteCorriente.toNat / #(s.tomanFase rondas k f)

/-- The pass evicts everybody, or its evictions leave somebody and no charger has shares
above the equal one of a phase that it loads. -/
def fasesSeguras (s : GroupState) : Prop :=
  ∃ rondas, s.expulsaVeces rondas ∧
    (rondas ≤ #s.candidatos ∧ rondas = s.numConectados ∨
      s.conexTras rondas ≠ 0 ∧ ∀ k, k < s.circuitNumber → ∀ f, f < 3 →
        ∀ i ∈ s.tomanFase rondas k f, s.alcanzan rondas i ≤ s.partesIguales rondas k f)

end GroupState

section Fases

variable {s : GroupState}

section Reparto

variable {rondas i : Nat} (takes : (s.tablaTras rondas i).hpt.recibe = true)

include takes

/-- A charger whose state lets it takes a share unless the assignment drops it. -/
theorem toma_iff_cae : s.toma rondas i ↔
    (s.tablaTras rondas i).cae (s.cuotaPropia i) (s.cuotaTras rondas) = false := by
  have receives := GroupState.tablaTras_recibe.mp takes
  have threePhase := tablaTras_threePhase
    (receives.imp_right fun before => Hpt.assigned_of_recibe before)
  rw [CaracCharger.cae, Hpt.assigned_of_recibe takes, consignaRepartida_eq, Bool.true_and,
    Bool.and_eq_false_imp, threePhase]
  simp only [decide_eq_false_iff_not, Nat.not_lt]
  constructor
  · rintro (gone | ⟨-, enough⟩) ⟨stays, isThreePhase⟩
    · exact absurd gone stays
    · exact enough isThreePhase
  · intro enough
    by_cases gone : s.expulsadoTras rondas i
    · exact .inl gone
    · exact .inr ⟨receives.resolve_left gone, fun isThreePhase => enough ⟨gone, isThreePhase⟩⟩

/-- After the pass it loads the phases that are counted for it. -/
theorem cargaEn_tablaTras (k f : Nat) :
    (s.tablaTras rondas i).cargaEn k f ↔ s.cargaTras rondas k f i := by
  have threePhase := tablaTras_threePhase
    ((GroupState.tablaTras_recibe.mp takes).imp_right fun before =>
      Hpt.assigned_of_recibe before)
  change (s.tablaTras rondas i).circuitoIdx = k ∧
    ((s.tablaTras rondas i).threePhase = true ∨ (s.tablaTras rondas i).faseA = f) ↔ _
  rw [threePhase, CaracCharger.circuitoIdx, GroupState.tablaTras_circuito, CaracCharger.faseA,
    GroupState.tablaTras_fase, or_comm]
  rfl

end Reparto

/-- The setpoint of a wired charger on a phase, if it takes a share there. -/
theorem consigna_tickCalculo_fase (bounded : s.chargerNumber ≤ maxGroupSize)
    (wired : s.cableado) {rondas : Nat} (veces : s.expulsaVeces rondas)
    (present : s.conexTras rondas ≠ 0) (k f : Nat) {i : Nat} (below : i < s.chargerNumber) :
    (if ((tickCalculo s).chargerTable i).hpt.recibe = true ∧
        ((tickCalculo s).chargerTable i).cargaEn k f then
      ((tickCalculo s).chargerTable i).consigna.toNat else 0) =
      if s.toma rondas i ∧ s.cargaTras rondas k f i then s.alcanzan rondas i else 0 := by
  have cell := tickCalculo_chargerTable_of_ne_zero bounded veces present below
  rw [disponibleFase_eq_cuotaPropia bounded (wired i below)] at cell
  rw [cell]
  by_cases takes : (s.tablaTras rondas i).hpt.recibe = true
  · have isAssigned := Hpt.assigned_of_recibe takes
    cases falls : (s.tablaTras rondas i).cae (s.cuotaPropia i) (s.cuotaTras rondas) with
    | true =>
        -- a three-phase charger without 6 A is left without a setpoint
        have none : ((s.tablaTras rondas i).asignado (s.cuotaPropia i)
            (s.cuotaTras rondas)).consigna = 0 := by
          rw [CaracCharger.asignado, if_pos isAssigned, if_pos falls]
          rfl
        have notTaking : ¬ s.toma rondas i := fun taking =>
          Bool.false_ne_true (((toma_iff_cae takes).mp taking).symm.trans falls)
        rw [none, @if_neg (s.toma rondas i ∧ _) _ fun both => notTaking both.1]
        exact ite_self 0
    | false =>
        have small : s.alcanzan rondas i % 2 ^ 16 = s.alcanzan rondas i := by
          apply Nat.mod_eq_of_lt
          unfold GroupState.alcanzan
          omega
        rw [CaracCharger.asignado_consigna_eq isAssigned falls]
        refine if_ctx_congr (and_congr ?_ (cargaEn_tablaTras takes k f)) (fun _ => ?_)
          fun _ => rfl
        · exact iff_of_true takes ((toma_iff_cae takes).mpr falls)
        · exact (UInt16.toNat_ofNat' ..).trans small
  · have notTaking : ¬ s.toma rondas i := by
      rintro (gone | ⟨before, -⟩)
      · exact takes (GroupState.tablaTras_recibe.mpr (.inl gone))
      · exact takes (GroupState.tablaTras_recibe.mpr (.inr before))
    rw [@if_neg (s.toma rondas i ∧ _) _ fun both => notTaking both.1]
    split_ifs with both
    · by_contra positive
      have kept := CaracCharger.asignado_of_pos (Nat.pos_of_ne_zero positive)
      rw [kept.1] at both
      exact takes both.1
    · rfl

/-- The setpoints on a phase are what its shares allow each charger that takes one there. -/
theorem consignaFase_tickCalculo_eq (bounded : s.chargerNumber ≤ maxGroupSize)
    (wired : s.cableado) {rondas : Nat} (veces : s.expulsaVeces rondas)
    (present : s.conexTras rondas ≠ 0) (k f : Nat) :
    (tickCalculo s).consignaFase k f =
      ∑ i ∈ s.tomanFase rondas k f, s.alcanzan rondas i := by
  rw [GroupState.consignaFase, tickCalculo_chargerNumber, GroupState.tomanFase, sum_filter,
    sum_filter]
  exact sum_congr rfl fun i member =>
    consigna_tickCalculo_fase bounded wired veces present k f (mem_range.mp member)

/-- The setpoints of a tick stay within the limit of each phase of each circuit when
nobody's shares are above the equal one of a phase that it loads; where the equal shares
leave nothing over and nobody's shares are below, only then. -/
theorem consignaFase_le_limite (t : Tick) (inCalculo : s.controlGrupoState = .calculo)
    (bounded : s.chargerNumber ≤ maxGroupSize) (wired : s.cableado) :
    (s.fasesSeguras → ∀ k, k < s.circuitNumber → ∀ f, f < 3 →
      (limiteConsumo t s).consignaFase k f ≤ (s.circuitos k).limiteCorriente.toNat) ∧
    (∀ rondas, s.expulsaVeces rondas → s.conexTras rondas ≠ 0 → ∀ k f,
      #(s.tomanFase rondas k f) ∣ (s.circuitos k).limiteCorriente.toNat →
      (∀ i ∈ s.tomanFase rondas k f, s.partesIguales rondas k f ≤ s.alcanzan rondas i) →
      ((limiteConsumo t s).consignaFase k f ≤ (s.circuitos k).limiteCorriente.toNat ↔
        ∀ i ∈ s.tomanFase rondas k f, s.alcanzan rondas i ≤ s.partesIguales rondas k f)) := by
  rw [limiteConsumo_of_calculo t inCalculo]
  constructor
  · rintro ⟨rondas, veces, ⟨found, all⟩ | ⟨present, equal⟩⟩ k circuit f phase
    · rw [GroupState.consignaFase, tickCalculo_chargerNumber, sum_eq_zero]
      · exact Nat.zero_le _
      · intro i member
        rcases mem_filter.mp member with ⟨inRange, takes, _⟩
        rw [consigna_tickCalculo_of_all bounded veces found all (mem_range.mp inRange) takes]
        rfl
    · rw [consignaFase_tickCalculo_eq bounded wired veces present]
      exact Share.sum_le_of_le_div (fun _ => #(s.tomanFase rondas k f))
        (equal k circuit f phase) fun _ _ => Nat.le_refl _
  · intro rondas veces present k f divides least
    rw [consignaFase_tickCalculo_eq bounded wired veces present]
    constructor
    · intro kept i member
      by_contra above
      have total : ∑ i ∈ s.tomanFase rondas k f, s.partesIguales rondas k f =
          (s.circuitos k).limiteCorriente.toNat := by
        rw [sum_const, Nat.nsmul_eq_mul, GroupState.partesIguales]
        exact Nat.mul_div_cancel' divides
      have more := sum_lt_sum least ⟨i, member, Nat.lt_of_not_le above⟩
      omega
    · exact fun equal => Share.sum_le_of_le_div (fun _ => #(s.tomanFase rondas k f)) equal
        fun _ _ => Nat.le_refl _

end Fases

/-- A three-phase charger on phase 1 takes the share of a phase it has for
itself, and loads phase 2 with it. -/
def trifasicoYMonofasico : GroupState :=
  { GroupState.inicio (.conPotencia 400)
      [{ CaracCharger.enEstado 'C' '2' 1 with currentB := 300, currentC := 300 },
        { CaracCharger.enEstado 'C' '2' 2 with fase := 2 }] [32] with
    controlGrupoState := .calculo }

theorem consignaFase_trifasicoYMonofasico :
    trifasicoYMonofasico.controlGrupoState = .calculo ∧
      trifasicoYMonofasico.chargerNumber ≤ maxGroupSize ∧ trifasicoYMonofasico.cableado ∧
      (trifasicoYMonofasico.circuitos 0).limiteCorriente = 32 ∧
      (limiteConsumo ⟨true, 0⟩ trifasicoYMonofasico).consignaFase 0 1 = 48 := by
  decide

/-- With both chargers on phase 1 they share it. -/
def ambosEnFaseUno : GroupState :=
  { GroupState.inicio (.conPotencia 400)
      [{ CaracCharger.enEstado 'C' '2' 1 with currentB := 300, currentC := 300 },
        .enEstado 'C' '2' 2] [32] with
    controlGrupoState := .calculo }

theorem consignaFase_ambosEnFaseUno :
    (limiteConsumo ⟨true, 0⟩ ambosEnFaseUno).consignaFase 0 1 ≤ 32 ∧
      ¬ (limiteConsumo ⟨true, 0⟩ trifasicoYMonofasico).consignaFase 0 1 ≤ 32 := by
  constructor
  · exact (consignaFase_le_limite ⟨true, 0⟩ (s := ambosEnFaseUno) rfl (by decide)
      (by decide)).1 ⟨0, by decide, .inr ⟨by decide, by decide⟩⟩ 0 (by decide) 1 (by decide)
  · have limit := (consignaFase_le_limite ⟨true, 0⟩ (s := trifasicoYMonofasico) rfl (by decide)
      (by decide)).2 0 (by decide) (by decide) 0 1 (by decide) (by decide)
    exact fun kept => absurd (limit.mp kept) (by decide)

end VeltiumCharger.Group
