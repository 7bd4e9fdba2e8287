import VeltiumCharger.Group.Asignacion
import VeltiumCharger.Group.Equilibrado

/-!
# Which request a balanced tick admits

The admission test adds the requesting charger to counters in which the pass
has usually counted it already.  This file gives the test in terms of the table
and compares it with the capacity that is there when each charger counts once.
-/

namespace VeltiumCharger.Group

open Finset VeltiumCharger.Loop

/-! ## The test in terms of the table -/

namespace GroupState

variable (s : GroupState)

/-- Charger `i` asks to charge, and none of the first `rondas` evictions withdraws
its request. -/
def solicita (rondas i : Nat) : Prop :=
  (s.chargerTable i).chargeReq = true ∧ ¬ s.expulsadoTras rondas i

/-- The test loads phase `f` of the charger's circuit: its own phase, or all
three when it is marked as three-phase. -/
def pruebaFase (i f : Nat) : Prop :=
  (s.tablaContada i).trifasico ≠ 0 ∨ (s.chargerTable i).faseA = f

/-- The limit of the circuit charger `i` is connected to. -/
def limiteDe (i : Nat) : Nat :=
  (s.circuitos (s.chargerTable i).circuitoIdx).limiteCorriente.toNat

/-- The admission test: 6 A for each counted unit and those of the charger, and
more than 6 A of each phase for one charger more than counted. -/
def cabeSolicitud (rondas i : Nat) : Prop :=
  6 * (s.unidadesTras rondas + s.descuento i) ≤ s.corrienteGrupo ∧
    ∀ f, f < 3 → s.pruebaFase i f →
      6 < s.limiteDe i / (s.cargaFase (s.chargerTable i).circuitoIdx f + 1)

/-- There is room for the charger: 6 A of the group and of each phase when the
charger itself is counted exactly once. -/
def cabeUnaVez (rondas i : Nat) : Prop :=
  6 * (s.unidadesTras rondas - (s.chargerTable i).peso + s.descuento i) ≤ s.corrienteGrupo ∧
    ∀ f, f < 3 → s.pruebaFase i f →
      6 ≤ s.limiteDe i / (s.cargaFase (s.chargerTable i).circuitoIdx f -
        (s.chargerTable i).carga (s.chargerTable i).circuitoIdx f + 1)

/-- There is room for the charger over again: 6 A of the group for each unit the
pass has counted and each of the charger's own, and 7 A of each phase for
every charger counted and one more. -/
def cabeOtraVez (rondas i : Nat) : Prop :=
  6 * (s.unidadesTras rondas + s.descuento i) ≤ s.corrienteGrupo ∧
    ∀ f, f < 3 → s.pruebaFase i f →
      7 * (s.cargaFase (s.chargerTable i).circuitoIdx f + 1) ≤ s.limiteDe i

/-- Whoever fits when it is counted once fits over again, and no two chargers
that ask fit. -/
def sitioParaUno (rondas : Nat) : Prop :=
  (∀ i, i < s.chargerNumber → s.solicita rondas i → s.cabeUnaVez rondas i →
      s.cabeOtraVez rondas i) ∧
    ∀ i j, i < s.chargerNumber → j < s.chargerNumber →
      s.solicita rondas i → s.cabeUnaVez rondas i →
      s.solicita rondas j → s.cabeUnaVez rondas j → i = j

instance (rondas : Nat) : DecidablePred (s.solicita rondas) :=
  fun _ => inferInstanceAs (Decidable (_ ∧ ¬ _))

instance (i : Nat) : DecidablePred (s.pruebaFase i) :=
  fun _ => inferInstanceAs (Decidable (_ ∨ _))

instance (rondas : Nat) : DecidablePred (s.cabeSolicitud rondas) :=
  fun _ => inferInstanceAs (Decidable (_ ∧ ∀ f, f < 3 → _))

instance (rondas : Nat) : DecidablePred (s.cabeUnaVez rondas) :=
  fun _ => inferInstanceAs (Decidable (_ ∧ ∀ f, f < 3 → _))

instance (rondas : Nat) : DecidablePred (s.cabeOtraVez rondas) :=
  fun _ => inferInstanceAs (Decidable (_ ∧ ∀ f, f < 3 → _))

variable {s}

theorem tablaTras_chargeReq_iff (rondas i : Nat) :
    (s.tablaTras rondas i).chargeReq = true ↔ s.solicita rondas i := by
  unfold tablaTras solicita
  split_ifs with evicted
  · simp [evicted, CaracCharger.expulsar]
  · simp [evicted, tablaContada_chargeReq]

/-- The test of the program asks for more than 6 A of each phase, rounded down. -/
theorem cabeSolicitud_iff_cabeOtraVez {rondas i : Nat} :
    s.cabeSolicitud rondas i ↔ s.cabeOtraVez rondas i := by
  have phase : ∀ limit others, 6 < limit / (others + 1) ↔ 7 * (others + 1) ≤ limit :=
    fun _ others => Nat.le_div_iff_mul_le others.succ_pos
  simp only [cabeSolicitud, cabeOtraVez, phase]

/-- The test is never more generous than the capacity. -/
theorem cabeUnaVez_of_cabeSolicitud {rondas i : Nat} (fits : s.cabeSolicitud rondas i) :
    s.cabeUnaVez rondas i := by
  refine ⟨by have := fits.1; omega, fun f phase loads => ?_⟩
  have share := fits.2 f phase loads
  exact (Nat.le_of_lt share).trans
    (Nat.div_le_div_left (Nat.succ_le_succ (Nat.sub_le _ _)) (Nat.succ_pos _))

end GroupState

section Prueba

variable {s : GroupState}

/-- The test of the program, after a pass with `rondas` evictions. -/
theorem entra_calculoGeneral_iff (bounded : s.chargerNumber ≤ maxGroupSize) {rondas : Nat}
    (veces : s.expulsaVeces rondas) {i : Nat}
    (wired : (s.chargerTable i).Cableado s.circuitNumber) :
    entra (calculoGeneral s).estado ((calculoGeneral s).estado.chargerTable i) = true ↔
      s.cabeSolicitud rondas i := by
  have circuit := wired.circuitoIdx_lt
  have phase := wired.faseA_lt
  have sameCircuit : (s.tablaTras rondas i).circuitoIdx = (s.chargerTable i).circuitoIdx := by
    rw [CaracCharger.circuitoIdx, GroupState.tablaTras_circuito, CaracCharger.circuitoIdx]
  have samePhase : (s.tablaTras rondas i).faseA = (s.chargerTable i).faseA := by
    rw [CaracCharger.faseA, GroupState.tablaTras_fase, CaracCharger.faseA]
  unfold entra GroupState.cabeSolicitud GroupState.limitePropio GroupState.fasePropia
    GroupState.limiteDe GroupState.pruebaFase GroupState.descuento
  rw [calculoGeneral_chargerTable bounded veces, calculoGeneral_conexConTri bounded veces,
    calculoGeneral_limitada bounded, sameCircuit, samePhase, GroupState.tablaTras_trifasico,
    calculoGeneral_limiteCorriente, calculoGeneral_conexFase circuit (by omega : 0 < 3),
    calculoGeneral_conexFase circuit (by omega : 1 < 3),
    calculoGeneral_conexFase circuit (by omega : 2 < 3),
    calculoGeneral_conexFase circuit phase]
  by_cases marked : (s.tablaContada i).trifasico = 0
  · simp only [marked, ne_eq, not_true, if_false, Bool.and_eq_true, decide_eq_true_eq,
      false_or]
    constructor
    · rintro ⟨group, own⟩
      exact ⟨group, fun f _ isOwn => isOwn ▸ own⟩
    · rintro ⟨group, own⟩
      exact ⟨group, own _ phase rfl⟩
  · simp only [marked, ne_eq, not_false_eq_true, if_true, Bool.and_eq_true, decide_eq_true_eq,
      true_or, forall_const]
    constructor
    · rintro ⟨group, first, second, third⟩
      refine ⟨group, fun f below => ?_⟩
      obtain rfl | rfl | rfl : f = 0 ∨ f = 1 ∨ f = 2 := by omega
      · exact first
      · exact second
      · exact third
    · rintro ⟨group, phases⟩
      exact ⟨group, phases 0 (by omega), phases 1 (by omega), phases 2 (by omega)⟩

end Prueba

/-! ## Admissions in the history -/

section Historia

variable {s : GroupState}

/-- The pass admits nobody. -/
theorem count_admision_calculoGeneral (i : Nat) :
    (calculoGeneral s).estado.historial.count (.admision i) =
      s.historial.count (.admision i) := by
  have counting : (recuento s).historial.count (.admision i) =
      s.historial.count (.admision i) := by
    apply forUpTo_unchanged (fun r : Recuento => r.historial.count (.admision i))
    intro j _ r
    unfold contar
    dsimp only
    split_ifs <;> simp
  rw [← counting]
  have kept : ∀ e, Heads sigueExpulsando (expulsarUltimo s.chargerNumber (limitada s))
      (expulsionInicial s) e →
      e.historial.count (.admision i) = (recuento s).historial.count (.admision i) := by
    intro e head
    induction head with
    | first => rfl
    | round _ _ ih => simpa [expulsarUltimo] using ih
  exact kept _ (whileFuel_heads _ _ _ _)

theorem count_admision_rechazar (hasta i : Nat) :
    (s.rechazar hasta).historial.count (.admision i) = s.historial.count (.admision i) := by
  unfold GroupState.rechazar
  rw [List.count_append, List.count_eq_zero.mpr, Nat.zero_add]
  simp

end Historia

/-! ## The admitted charger -/

/-- Between the two states charger `i` was admitted: it is in `C2` and the
history has one admission of it more. -/
def GroupState.admite (before after : GroupState) (i : Nat) : Prop :=
  (after.chargerTable i).hpt = .ofText 'C' '2' ∧
    before.historial.count (.admision i) < after.historial.count (.admision i)

section Admitido

variable {s : GroupState}

theorem admitir_hpt (i : Nat) :
    ((admitir i s).chargerTable i).hpt = .ofText 'C' '2' := by
  simp [admitir_chargerTable]

variable (bounded : s.chargerNumber ≤ maxGroupSize) (wired : s.cableado) {rondas : Nat}
  (veces : s.expulsaVeces rondas)

include bounded veces

theorem chargeReq_calculoGeneral_iff (i : Nat) :
    ((calculoGeneral s).estado.chargerTable i).chargeReq = true ↔ s.solicita rondas i := by
  rw [calculoGeneral_chargerTable bounded veces, GroupState.tablaTras_chargeReq_iff]

include wired

/-- A balanced tick admits the first charger, in the order of the table, that
asks and passes the test, and nobody else. -/
theorem admite_tickEquilibrado_iff (t : Tick)
    (inEquilibrado : s.controlGrupoState = .equilibrado) (estable : s.Estable) {i : Nat}
    (below : i < s.chargerNumber) (asks : s.solicita rondas i) :
    s.admite (tickEquilibrado t s) i ↔
      s.cabeSolicitud rondas i ∧
        ∀ j, j < i → s.solicita rondas j → ¬ s.cabeSolicitud rondas j := by
  have test : ∀ j, j < s.chargerNumber →
      (entra (calculoGeneral s).estado ((calculoGeneral s).estado.chargerTable j) = true ↔
        s.cabeSolicitud rondas j) :=
    fun j belowJ => entra_calculoGeneral_iff bounded veces (wired j belowJ)
  have request := chargeReq_calculoGeneral_iff bounded veces
  rw [tickEquilibrado_of_estable inEquilibrado estable]
  have search := buscarDeltas_buscaDelta t.transcurrido
    (solicitudes (calculoGeneral s).estado)
  have history : (buscarDeltas t.transcurrido
      (solicitudes (calculoGeneral s).estado)).historial =
        (solicitudes (calculoGeneral s).estado).historial := by
    rw [search.rest]
  rcases search.table i with ⟨_, _, cell⟩
  have final : s.admite (buscarDeltas t.transcurrido (solicitudes (calculoGeneral s).estado)) i ↔
      ((solicitudes (calculoGeneral s).estado).chargerTable i).hpt = .ofText 'C' '2' ∧
        s.historial.count (.admision i) <
          (solicitudes (calculoGeneral s).estado).historial.count (.admision i) := by
    rw [GroupState.admite, history, cell]
  rw [final]
  rcases solicitudes_cases (s := (calculoGeneral s).estado) with
    ⟨k, belowK, asksK, fitsK, firstK, admits⟩ | ⟨nobody, rejects⟩
  · rw [admits]
    by_cases same : i = k
    · subst same
      refine iff_of_true ⟨admitir_hpt i, ?_⟩ ⟨(test i below).mp fitsK, ?_⟩
      · simp [admitir, GroupState.setCharger, count_admision_rechazar,
          count_admision_calculoGeneral]
      · intro j earlier asksJ fitsJ
        have passes := (test j (earlier.trans below)).mpr fitsJ
        rw [firstK j earlier ((request j).mpr asksJ)] at passes
        contradiction
    · refine iff_of_false ?_ ?_
      · rintro ⟨_, more⟩
        have unchanged : (admitir k ((calculoGeneral s).estado.rechazar k)).historial.count
            (.admision i) = s.historial.count (.admision i) := by
          simp [admitir, GroupState.setCharger, count_admision_rechazar,
            count_admision_calculoGeneral, Ne.symm same]
        omega
      · rintro ⟨fitsI, firstI⟩
        rcases Nat.lt_or_gt_of_ne same with before | after
        · have passes := (test i below).mpr fitsI
          rw [firstK i before ((request i).mpr asks)] at passes
          contradiction
        · exact firstI k after ((request k).mp asksK) ((test k belowK).mp fitsK)
  · rw [rejects]
    refine iff_of_false ?_ ?_
    · rintro ⟨_, more⟩
      rw [count_admision_rechazar, count_admision_calculoGeneral] at more
      omega
    · rintro ⟨fitsI, _⟩
      have passes := (test i below).mpr fitsI
      rw [nobody i below ((request i).mpr asks)] at passes
      contradiction

/-- A balanced tick admits just those for whom there is room, counted once,
exactly when there is room for one at most, and for that one over again. -/
theorem admite_iff_cabeUnaVez_iff (t : Tick)
    (inEquilibrado : s.controlGrupoState = .equilibrado) (estable : s.Estable) :
    (∀ i, i < s.chargerNumber → s.solicita rondas i →
        (s.admite (tickEquilibrado t s) i ↔ s.cabeUnaVez rondas i)) ↔
      s.sitioParaUno rondas := by
  have admits := fun i (below : i < s.chargerNumber) (asks : s.solicita rondas i) =>
    admite_tickEquilibrado_iff bounded wired veces t inEquilibrado estable below asks
  constructor
  · intro agrees
    have passes := fun i below asks fits =>
      (admits i below asks).mp ((agrees i below asks).mpr fits)
    refine ⟨fun i below asks fits => ?_, fun i j belowI belowJ asksI fitsI asksJ fitsJ => ?_⟩
    · exact GroupState.cabeSolicitud_iff_cabeOtraVez.mp (passes i below asks fits).1
    · rcases Nat.lt_trichotomy i j with before | same | after
      · have passesI := (passes i belowI asksI fitsI).1
        exact absurd passesI ((passes j belowJ asksJ fitsJ).2 i before asksI)
      · exact same
      · have passesJ := (passes j belowJ asksJ fitsJ).1
        exact absurd passesJ ((passes i belowI asksI fitsI).2 j after asksJ)
  · rintro ⟨again, single⟩ i below asks
    rw [admits i below asks]
    refine ⟨fun ⟨fits, _⟩ => GroupState.cabeUnaVez_of_cabeSolicitud fits, fun once => ?_⟩
    refine ⟨GroupState.cabeSolicitud_iff_cabeOtraVez.mpr (again i below asks once), ?_⟩
    intro j earlier asksJ fitsJ
    have same := single i j below (earlier.trans below) asks once asksJ
      (GroupState.cabeUnaVez_of_cabeSolicitud fitsJ)
    omega

end Admitido

end VeltiumCharger.Group
