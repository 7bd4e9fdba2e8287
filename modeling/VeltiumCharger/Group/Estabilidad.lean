import VeltiumCharger.Group.Asignacion

/-!
# Calling the pass twice

An evicted charger is in `B1`, which the next pass counts again as one unit.
Whether a pass leaves a table that the next one accepts is therefore a
condition on the table after the evictions.
-/

namespace VeltiumCharger.Group

open Finset VeltiumCharger.Loop

/-! ## The table seen by the next pass -/

namespace CaracCharger

/-- Of a connected charger's record counting changes the mark only. -/
theorem exists_contado_eq {charger : CaracCharger}
    (connected : charger.hpt.connected = true) :
    ∃ trifasico, charger.contado = { charger with trifasico } := by
  rw [contado_of_connected connected]
  split_ifs
  · exact ⟨1, rfl⟩
  · exact ⟨charger.trifasico, rfl⟩

@[simp]
theorem contado_corrienteContada (charger : CaracCharger) :
    charger.contado.corrienteContada = charger.corrienteContada := by
  by_cases connected : charger.hpt.connected = true
  · rcases exists_contado_eq connected with ⟨_, equal⟩
    rw [equal]
    rfl
  · simp [corrienteContada, connected]

@[simp]
theorem contado_carga (charger : CaracCharger) (k f : Nat) :
    charger.contado.carga k f = charger.carga k f := by
  by_cases connected : charger.hpt.connected = true
  · rcases exists_contado_eq connected with ⟨_, equal⟩
    rw [equal]
    rfl
  · simp [carga, connected]

end CaracCharger

namespace GroupState

section Congruencia

variable {s s' : GroupState} (number : s'.chargerNumber = s.chargerNumber)

include number

theorem pesoTotal_congr
    (same : ∀ i, i < s.chargerNumber → (s'.chargerTable i).peso = (s.chargerTable i).peso) :
    s'.pesoTotal = s.pesoTotal := by
  unfold pesoTotal
  rw [number]
  exact sum_congr rfl fun i member => same i (mem_range.mp member)

/-- The current to share out depends only on what is counted and on the limits. -/
theorem corrienteGrupo_congr (params : s'.params = s.params)
    (contador : s'.contadorExt = s.contadorExt)
    (peso : s'.pesoTotal = s.pesoTotal)
    (corriente : ∀ i, i < s.chargerNumber →
      (s'.chargerTable i).corrienteContada = (s.chargerTable i).corrienteContada)
    (conected : ∀ i, i < s.chargerNumber →
      (s'.chargerTable i).conected = (s.chargerTable i).conected) :
    s'.corrienteGrupo = s.corrienteGrupo := by
  have total : s'.corrienteTotal = s.corrienteTotal := by
    unfold corrienteTotal
    rw [number]
    exact sum_congr rfl fun i member => corriente i (mem_range.mp member)
  have reporting : s'.numInformando = s.numInformando := by
    unfold numInformando
    rw [number]
    exact sum_congr rfl fun i member => by rw [conected i (mem_range.mp member)]
  unfold corrienteGrupo consumo limitadaPorPotencia
  rw [params, contador, peso, total, reporting, number]

end Congruencia

variable {s : GroupState}

theorem unidadesTras_zero (bounded : s.chargerNumber ≤ maxGroupSize) :
    s.unidadesTras 0 = s.pesoTotal := by
  rw [← trasRondas_conexConTri]
  exact recuento_conexConTri_eq bounded

/-- A pass starts without evictions exactly when 6 A fit for each unit of the
table. -/
theorem cabeTras_zero_iff (bounded : s.chargerNumber ≤ maxGroupSize) :
    s.cabeTras 0 ↔ s.pesoTotal = 0 ∨ 6 * s.pesoTotal ≤ s.corrienteGrupo := by
  rw [cabeTras, unidadesTras_zero bounded]

theorem expulsaVeces_zero_iff : s.expulsaVeces 0 ↔ s.cabeTras 0 :=
  ⟨fun veces => veces.1, fun fits => ⟨fits, fun _ below => absurd below (Nat.not_lt_zero _)⟩⟩

variable (s) in
/-- The group after a pass that evicted `rondas` times, with all else as
before. -/
def trasPasada (rondas : Nat) : GroupState :=
  { s with chargerTable := s.tablaTras rondas }

/-- A pass without evictions leaves a table that counts the same. -/
theorem cabeTras_trasPasada_zero (bounded : s.chargerNumber ≤ maxGroupSize)
    (fits : s.cabeTras 0) : (s.trasPasada 0).cabeTras 0 := by
  have counted : ∀ i, i < s.chargerNumber →
      (s.trasPasada 0).chargerTable i = (s.chargerTable i).contado := by
    intro i below
    simp [trasPasada, tablaContada, below]
  have units : (s.trasPasada 0).pesoTotal = s.pesoTotal :=
    pesoTotal_congr rfl fun i below => by rw [counted i below, CaracCharger.contado_peso]
  have current : (s.trasPasada 0).corrienteGrupo = s.corrienteGrupo :=
    corrienteGrupo_congr rfl rfl rfl units
      (fun i below => by rw [counted i below, CaracCharger.contado_corrienteContada])
      (fun i below => by rw [counted i below, CaracCharger.contado_conected])
  rw [cabeTras_zero_iff bounded] at fits
  rw [cabeTras_zero_iff (s := s.trasPasada 0) bounded, units, current]
  exact fits

/-- The next pass sees the table after the evictions. -/
theorem cabeTras_calculoGeneral (bounded : s.chargerNumber ≤ maxGroupSize) {rondas : Nat}
    (veces : s.expulsaVeces rondas) :
    (calculoGeneral s).estado.cabeTras 0 ↔ (s.trasPasada rondas).cabeTras 0 := by
  have table := calculoGeneral_chargerTable bounded veces
  have units : (calculoGeneral s).estado.pesoTotal = (s.trasPasada rondas).pesoTotal :=
    pesoTotal_congr rfl fun i _ => by rw [table]; rfl
  have current : (calculoGeneral s).estado.corrienteGrupo =
      (s.trasPasada rondas).corrienteGrupo :=
    corrienteGrupo_congr rfl rfl rfl units (fun i _ => by rw [table]; rfl)
      (fun i _ => by rw [table]; rfl)
  rw [cabeTras_zero_iff (by exact bounded), cabeTras_zero_iff (by exact bounded), units, current]

end GroupState

/-! ## Counting evictions -/

/-- An eviction. -/
def Suceso.esExpulsion : Suceso → Bool
  | .expulsion _ => true
  | _ => false

/-- The evictions a history records. -/
def GroupState.numExpulsiones (s : GroupState) : Nat :=
  s.historial.countP Suceso.esExpulsion

section Numero

variable {s : GroupState}

/-- The counting loop evicts nobody. -/
theorem countP_recuento_historial :
    (recuento s).historial.countP Suceso.esExpulsion = s.numExpulsiones := by
  apply forUpTo_unchanged (fun r : Recuento => r.historial.countP Suceso.esExpulsion)
  intro i _ r
  unfold contar
  dsimp only
  split_ifs <;> simp [Suceso.esExpulsion]

/-- A pass records its evictions. -/
theorem numExpulsiones_calculoGeneral (bounded : s.chargerNumber ≤ maxGroupSize)
    {rondas : Nat} (veces : s.expulsaVeces rondas) :
    (calculoGeneral s).estado.numExpulsiones = s.numExpulsiones + rondas := by
  have all : ((List.range rondas).reverse.map
      (fun ronda => Suceso.expulsion (s.expulsadoEn ronda))).countP Suceso.esExpulsion =
        rondas := by
    rw [List.countP_eq_length.mpr]
    · simp
    · intro event member
      rcases List.mem_map.mp member with ⟨_, _, rfl⟩
      rfl
  rw [GroupState.numExpulsiones, calculoGeneral_historial bounded veces, List.countP_append,
    all, countP_recuento_historial, Nat.add_comm]

/-- The pass evicts nobody, and leaves the pilot states and the requests, exactly
when 6 A fit for each unit of its table. -/
theorem sin_expulsiones_iff (bounded : s.chargerNumber ≤ maxGroupSize) :
    ((calculoGeneral s).estado.numExpulsiones = s.numExpulsiones ∧
      ∀ i, ((calculoGeneral s).estado.chargerTable i).hpt = (s.chargerTable i).hpt ∧
        ((calculoGeneral s).estado.chargerTable i).chargeReq =
          (s.chargerTable i).chargeReq) ↔
      s.cabeTras 0 := by
  constructor
  · rintro ⟨nobody, _⟩
    rcases s.exists_expulsaVeces with ⟨rondas, _, veces⟩
    rw [numExpulsiones_calculoGeneral bounded veces] at nobody
    obtain rfl : rondas = 0 := by omega
    exact veces.1
  · intro fits
    have veces := GroupState.expulsaVeces_zero_iff.mpr fits
    refine ⟨numExpulsiones_calculoGeneral bounded veces, fun i => ?_⟩
    rw [calculoGeneral_chargerTable bounded veces, GroupState.tablaTras_zero,
      GroupState.tablaContada]
    split_ifs <;> simp

end Numero

/-! ## Minimal and stable evictions -/

/-- The units of the chargers that are really charging. -/
def unidadesCargando (chargerNumber : Nat) (chargerTable : Nat → CaracCharger) : Nat :=
  ∑ i ∈ range chargerNumber with (chargerTable i).hpt.charging, (chargerTable i).unidades

/-- Calling the pass again after one that reached 6 A evicts nobody and keeps
the pilot states and the requests. -/
def GroupState.pasadaEstable (s : GroupState) : Prop :=
  6 ≤ (calculoGeneral s).estado.corrienteDisponibleTotal →
    (calculoGeneral (calculoGeneral s).estado).estado.numExpulsiones =
        (calculoGeneral s).estado.numExpulsiones ∧
      ∀ i, ((calculoGeneral (calculoGeneral s).estado).estado.chargerTable i).hpt =
          ((calculoGeneral s).estado.chargerTable i).hpt ∧
        ((calculoGeneral (calculoGeneral s).estado).estado.chargerTable i).chargeReq =
          ((calculoGeneral s).estado.chargerTable i).chargeReq

/-- Every round of the eviction loop that is entered finds less than 6 A for
each unit of the chargers that are really charging. -/
def GroupState.expulsionMinima (s : GroupState) : Prop :=
  ∀ e, Heads sigueExpulsando (expulsarUltimo s.chargerNumber (limitada s))
      (expulsionInicial s) e → sigueExpulsando e = true →
    limitada s < 6 * unidadesCargando s.chargerNumber e.chargerTable

/-! ## On the table before the pass -/

namespace GroupState

variable (s : GroupState)

/-- The units counted for the chargers that wait in `B1`, evicted ones apart. -/
def pesoEspera (rondas : Nat) : Nat :=
  ∑ i ∈ range s.chargerNumber with (s.chargerTable i).hpt.is 'B' '1' ∧ ¬ s.expulsadoTras rondas i,
    (s.chargerTable i).peso

/-- The units counted for the first `rondas` evicted. -/
def pesoExpulsado (rondas : Nat) : Nat :=
  ∑ i ∈ range s.chargerNumber with s.expulsadoTras rondas i, (s.chargerTable i).peso

/-- The number of chargers among the first `rondas` evicted. -/
def numEchados (rondas : Nat) : Nat :=
  #{i ∈ range s.chargerNumber | s.expulsadoTras rondas i}

/-- The current counted for the others, in hundredths of an ampere. -/
def corrienteRestante (rondas : Nat) : Nat :=
  ∑ i ∈ range s.chargerNumber with ¬ s.expulsadoTras rondas i,
    (s.chargerTable i).corrienteContada

/-- The current there is to share out when the first `rondas` evicted take none. -/
def corrienteSin (rondas : Nat) : Nat :=
  if s.params.contadorConfigurado ∧ s.contadorExt.gatewayConectado then
    limitadaPorContador (corrienteLimiteCdp s.params s.contadorExt.power
      (s.corrienteRestante rondas % 65536 / 100 % 256)) s.numInformando s.chargerNumber
  else limitadaPorPotencia s s.numInformando

/-- Should the pass evict anybody, then without those that wait and those evicted before,
6 A for each unit would still not have fitted at the last eviction; and unless nobody is
left, 6 A do fit for each unit when those evicted are counted as one each. -/
def expulsionFundada : Prop :=
  ∀ rondas, s.expulsaVeces (rondas + 1) →
    s.corrienteGrupo + 6 * (s.pesoEspera rondas + s.pesoExpulsado rondas) < 6 * s.pesoTotal ∧
      (0 < s.unidadesTras (rondas + 1) →
        6 * (s.pesoTotal + s.numEchados (rondas + 1)) ≤
          s.corrienteSin (rondas + 1) + 6 * s.pesoExpulsado (rondas + 1))

variable {s} {rondas : Nat}

/-- Every unit counted is that of a charger really charging, waiting or evicted. -/
theorem unidadesCargando_add (rondas : Nat) :
    unidadesCargando s.chargerNumber (s.tablaTras rondas) + s.pesoEspera rondas +
      s.pesoExpulsado rondas = s.pesoTotal := by
  unfold unidadesCargando pesoEspera pesoExpulsado pesoTotal
  simp only [sum_filter]
  rw [← sum_add_distrib, ← sum_add_distrib]
  refine sum_congr rfl fun i member => ?_
  have below := mem_range.mp member
  by_cases gone : s.expulsadoTras rondas i
  · have charges : ¬ (s.tablaTras rondas i).hpt.charging = true :=
      fun charges => (tablaTras_charging_iff.mp charges).2 gone
    simp [charges, gone]
  · simp only [tablaTras_charging_iff, gone, not_false_eq_true, and_true, if_false, Nat.add_zero]
    have units : (s.chargerTable i).hpt.connected = true →
        (s.tablaTras rondas i).unidades = (s.chargerTable i).peso := by
      intro connected
      rw [tablaTras, if_neg gone, tablaContada, if_pos below, CaracCharger.unidades,
        CaracCharger.contado_threePhase_of_connected connected, CaracCharger.peso,
        if_pos connected]
    have kind := Hpt.connected_eq_charging_or (s.chargerTable i).hpt
    cases isB1 : (s.chargerTable i).hpt.is 'B' '1' with
    | true =>
        rw [Hpt.charging_eq_false_of_isB1 isB1]
        simp
    | false =>
        rw [isB1, Bool.or_false] at kind
        cases charges : (s.chargerTable i).hpt.charging with
        | true =>
            rw [charges] at kind
            simp [units kind]
        | false =>
            rw [charges] at kind
            simp [CaracCharger.peso, kind]

/-- A round evicts three units at most. -/
theorem pesoExpulsado_succ_le : s.pesoExpulsado (rondas + 1) ≤ s.pesoExpulsado rondas + 3 := by
  unfold pesoExpulsado
  have grows : {i ∈ range s.chargerNumber | s.expulsadoTras (rondas + 1) i} ⊆
      insert (s.expulsadoEn rondas) {i ∈ range s.chargerNumber | s.expulsadoTras rondas i} := by
    intro i member
    obtain ⟨below, gone⟩ := mem_filter.mp member
    rcases expulsadoTras_succ_iff.mp gone with before | rfl
    · exact mem_insert_of_mem (mem_filter.mpr ⟨below, before⟩)
    · exact mem_insert_self _ _
  refine (sum_le_sum_of_subset grows).trans ?_
  by_cases again : s.expulsadoEn rondas ∈ {i ∈ range s.chargerNumber | s.expulsadoTras rondas i}
  · rw [insert_eq_of_mem again]
    exact Nat.le_add_right _ _
  · rw [sum_insert again, Nat.add_comm]
    exact Nat.add_le_add_left (CaracCharger.peso_le _) _

/-- In the table after the evictions each charger evicted counts one unit. -/
theorem pesoTotal_trasPasada (rondas : Nat) :
    (s.trasPasada rondas).pesoTotal + s.pesoExpulsado rondas =
      s.pesoTotal + s.numEchados rondas := by
  unfold pesoExpulsado numEchados
  rw [card_filter]
  unfold pesoTotal
  have number : (s.trasPasada rondas).chargerNumber = s.chargerNumber := rfl
  rw [sum_filter, number, ← sum_add_distrib, ← sum_add_distrib]
  refine sum_congr rfl fun i member => ?_
  have cell : (s.trasPasada rondas).chargerTable i = s.tablaTras rondas i := rfl
  rw [cell, tablaTras]
  split_ifs with gone
  · exact Nat.add_comm _ _
  · rw [tablaContada, if_pos (mem_range.mp member), CaracCharger.contado_peso]

/-- What is counted of the current in the table after the evictions. -/
theorem corrienteTotal_trasPasada (rondas : Nat) :
    (s.trasPasada rondas).corrienteTotal = s.corrienteRestante rondas := by
  unfold corrienteTotal corrienteRestante
  rw [sum_filter]
  refine sum_congr rfl fun i member => ?_
  have cell : (s.trasPasada rondas).chargerTable i = s.tablaTras rondas i := rfl
  rw [cell, tablaTras]
  split_ifs with gone
  · rfl
  · rw [tablaContada, if_pos (mem_range.mp member), CaracCharger.contado_corrienteContada]

theorem numInformando_trasPasada (rondas : Nat) :
    (s.trasPasada rondas).numInformando = s.numInformando := by
  refine sum_congr rfl fun i member => ?_
  have same : ((s.trasPasada rondas).chargerTable i).conected = (s.chargerTable i).conected := by
    change (s.tablaTras rondas i).conected = _
    unfold tablaTras tablaContada
    split_ifs <;> simp [CaracCharger.expulsar]
  rw [same]

/-- The current that the next pass shares out, while there is somebody to count. -/
theorem corrienteGrupo_trasPasada (counted : 0 < (s.trasPasada rondas).pesoTotal) :
    (s.trasPasada rondas).corrienteGrupo = s.corrienteSin rondas := by
  unfold corrienteGrupo corrienteSin consumo limitadaPorPotencia
  rw [corrienteTotal_trasPasada, numInformando_trasPasada]
  simp only [counted, true_and]
  rfl

end GroupState

section Estabilidad

variable {s : GroupState}

theorem GroupState.expulsadoTras_mono {rondas more i : Nat} (le : rondas ≤ more)
    (gone : s.expulsadoTras rondas i) : s.expulsadoTras more i := by
  rcases gone with ⟨member, below⟩ | ⟨rfl, below⟩
  · exact .inl ⟨member, by omega⟩
  · exact .inr ⟨rfl, by omega⟩

/-- Evictions only take units away from the chargers really charging. -/
theorem unidadesCargando_antitone {rondas more : Nat} (le : rondas ≤ more) :
    unidadesCargando s.chargerNumber (s.tablaTras more) ≤
      unidadesCargando s.chargerNumber (s.tablaTras rondas) := by
  unfold unidadesCargando
  rw [sum_filter, sum_filter]
  apply sum_le_sum
  intro i _
  by_cases charges : (s.tablaTras more i).hpt.charging = true
  · rcases GroupState.tablaTras_charging_iff.mp charges with ⟨charging, stays⟩
    have stayed : ¬ s.expulsadoTras rondas i :=
      fun gone => stays (GroupState.expulsadoTras_mono le gone)
    have same : s.tablaTras more i = s.tablaTras rondas i := by
      simp only [GroupState.tablaTras, if_neg stays, if_neg stayed]
    rw [same]
  · rw [if_neg charges]
    exact Nat.zero_le _

/-- A charger that has been evicted counts in the table it leaves. -/
theorem GroupState.pesoTotal_trasPasada_pos {rondas : Nat}
    (veces : s.expulsaVeces (rondas + 1)) : 0 < (s.trasPasada (rondas + 1)).pesoTotal := by
  have number : 0 < s.chargerNumber := by
    by_contra none
    have empty : s.candidatos = ∅ := by
      rw [GroupState.candidatos, Nat.eq_zero_of_not_pos none, range_zero, filter_empty]
    have nothing : s.pesoTotal = 0 := by
      rw [GroupState.pesoTotal, Nat.eq_zero_of_not_pos none, range_zero, sum_empty]
    apply veces.2 0 (Nat.succ_pos _)
    left
    simp [GroupState.unidadesTras, GroupState.descontado, nothing, empty]
  have last := GroupState.expulsadoTras_succ_iff.mpr
    (.inr rfl : s.expulsadoTras rondas (s.expulsadoEn rondas) ∨ _)
  have below : s.expulsadoEn rondas < s.chargerNumber := by
    rcases last with ⟨member, -⟩ | ⟨first, -⟩
    · exact (GroupState.mem_candidatos.mp member).1
    · rw [first]
      exact number
  refine sum_pos' (fun _ _ => Nat.zero_le _) ⟨_, mem_range.mpr below, ?_⟩
  change 0 < (s.tablaTras (rondas + 1) (s.expulsadoEn rondas)).peso
  rw [GroupState.tablaTras, if_pos last]
  exact Nat.one_pos

/-- Six amperes are reached by counting, or with nobody counted at all. -/
theorem GroupState.le_cuotaTras_iff {rondas : Nat} (veces : s.expulsaVeces (rondas + 1)) :
    6 ≤ s.cuotaTras (rondas + 1) ↔ 0 < s.unidadesTras (rondas + 1) := by
  constructor
  · intro reaches
    by_contra none
    rw [cuotaTras, if_neg none] at reaches
    have short := veces.2 rondas (Nat.lt_succ_self rondas)
    simp only [cabeTras, not_or] at short
    have counted : 0 < s.unidadesTras rondas := Nat.pos_of_ne_zero short.1
    rw [cuotaTras_of_pos counted, Share.le_share_iff counted] at reaches
    exact short.2 reaches
  · intro counted
    rw [cuotaTras_of_pos counted, Share.le_share_iff counted]
    exact veces.1.resolve_left (by omega)

variable (bounded : s.chargerNumber ≤ maxGroupSize)

include bounded

theorem pasadaEstable_iff {rondas : Nat} (veces : s.expulsaVeces rondas) :
    s.pasadaEstable ↔ (6 ≤ s.cuotaTras rondas → (s.trasPasada rondas).cabeTras 0) := by
  unfold GroupState.pasadaEstable
  rw [sin_expulsiones_iff (s := (calculoGeneral s).estado) bounded,
    GroupState.cabeTras_calculoGeneral bounded veces, calculoGeneral_total bounded veces]

theorem expulsionMinima_iff {rondas : Nat} (veces : s.expulsaVeces rondas) :
    s.expulsionMinima ↔ ∀ menos, menos < rondas →
      s.corrienteGrupo < 6 * unidadesCargando s.chargerNumber (s.tablaTras menos) := by
  unfold GroupState.expulsionMinima
  constructor
  · intro minimal menos below
    have entra := (entra_expulsion_iff bounded veces).mpr ⟨menos, below, rfl⟩
    rw [← trasRondas_chargerTable, ← limitada_eq bounded]
    exact minimal _ entra.1 entra.2
  · intro minimal e head enters
    obtain ⟨menos, below, rfl⟩ := (entra_expulsion_iff bounded veces).mp ⟨head, enters⟩
    rw [trasRondas_chargerTable, limitada_eq bounded]
    exact minimal menos below

omit bounded in
/-- The two conditions, on the table before the pass. -/
theorem GroupState.fundada_iff {rondas : Nat} (veces : s.expulsaVeces (rondas + 1)) :
    (s.corrienteGrupo < 6 * unidadesCargando s.chargerNumber (s.tablaTras rondas) ↔
      s.corrienteGrupo + 6 * (s.pesoEspera rondas + s.pesoExpulsado rondas) <
        6 * s.pesoTotal) ∧
    ((s.trasPasada (rondas + 1)).pesoTotal = 0 ∨
        6 * (s.trasPasada (rondas + 1)).pesoTotal ≤
          (s.trasPasada (rondas + 1)).corrienteGrupo ↔
      6 * (s.pesoTotal + s.numEchados (rondas + 1)) ≤
        s.corrienteSin (rondas + 1) + 6 * s.pesoExpulsado (rondas + 1)) := by
  have charging := s.unidadesCargando_add rondas
  have again := s.pesoTotal_trasPasada (rondas + 1)
  have counted : 0 < (s.trasPasada (rondas + 1)).pesoTotal :=
    GroupState.pesoTotal_trasPasada_pos veces
  rw [GroupState.corrienteGrupo_trasPasada counted]
  constructor
  · omega
  · omega

/-- The pass is stable and its evictions are minimal exactly when they are well
founded in the table it started from. -/
theorem estable_y_minima_iff :
    s.pasadaEstable ∧ s.expulsionMinima ↔ s.expulsionFundada := by
  rcases s.exists_expulsaVeces with ⟨rondas, _, veces⟩
  rw [pasadaEstable_iff bounded veces, expulsionMinima_iff bounded veces]
  cases rondas with
  | zero =>
      constructor
      · intro _ rondas more
        exact absurd (GroupState.expulsaVeces_unique veces more) (by omega)
      · intro _
        refine ⟨fun _ => GroupState.cabeTras_trasPasada_zero bounded veces.1, ?_⟩
        exact fun _ below => absurd below (Nat.not_lt_zero _)
  | succ rondas =>
      rw [GroupState.le_cuotaTras_iff veces,
        GroupState.cabeTras_zero_iff (s := s.trasPasada (rondas + 1)) bounded]
      have before := GroupState.fundada_iff veces
      rw [before.2]
      constructor
      · rintro ⟨stable, minimal⟩ other more
        obtain rfl : rondas = other := by
          have := GroupState.expulsaVeces_unique veces more
          omega
        exact ⟨before.1.mp (minimal rondas (Nat.lt_succ_self rondas)), stable⟩
      · intro founded
        rcases founded rondas veces with ⟨needed, stable⟩
        refine ⟨stable, fun menos below => (before.1.mpr needed).trans_le ?_⟩
        exact Nat.mul_le_mul_left 6 (unidadesCargando_antitone (by omega))

omit bounded in
/-- Without a meter, a pass that evicts somebody and leaves somebody is minimal and stable
only if those evicted and the units of those waiting are two at most. -/
theorem GroupState.expulsionFundada.pocos (founded : s.expulsionFundada) {rondas : Nat}
    (veces : s.expulsaVeces (rondas + 1)) (counted : 0 < s.unidadesTras (rondas + 1))
    (sinContador : s.params.contadorConfigurado = false) :
    s.numEchados (rondas + 1) + s.pesoEspera rondas ≤ 2 := by
  obtain ⟨needed, stable⟩ := founded rondas veces
  have same : s.corrienteSin (rondas + 1) = s.corrienteGrupo := by
    simp [GroupState.corrienteSin, GroupState.corrienteGrupo, sinContador]
  have fits := stable counted
  have last := @GroupState.pesoExpulsado_succ_le s rondas
  rw [same] at fits
  omega

end Estabilidad

/-- Of two chargers with 11 A between them the first pass evicts one, and the
next pass the other. -/
def dosQueNoCaben : GroupState :=
  GroupState.inicio (.conPotencia 26) [.enEstado 'C' '2' 1, .enEstado 'C' '2' 2] [32]

theorem dosQueNoCaben_inestable :
    dosQueNoCaben.chargerNumber ≤ maxGroupSize ∧
      ¬ (dosQueNoCaben.pasadaEstable ∧ dosQueNoCaben.expulsionMinima) := by
  refine ⟨by decide, fun ⟨stable, _⟩ => ?_⟩
  have kept := ((stable (by decide)).2 0).1
  exact absurd kept (by decide)

/-- Evicting a three-phase charger frees two of its three units. -/
def trifasicoQueSobra : GroupState :=
  GroupState.inicio (.conPotencia 46)
    [.enEstado 'C' '2' 1,
      { CaracCharger.enEstado 'C' '2' 2 with currentB := 300, currentC := 300 }] [32]

theorem trifasicoQueSobra_estable :
    trifasicoQueSobra.pasadaEstable ∧ trifasicoQueSobra.expulsionMinima := by
  apply (estable_y_minima_iff (by decide)).mpr
  intro rondas veces
  have una : trifasicoQueSobra.expulsaVeces 1 := by decide
  obtain rfl : rondas = 0 := by
    have := GroupState.expulsaVeces_unique veces una
    omega
  decide

end VeltiumCharger.Group
