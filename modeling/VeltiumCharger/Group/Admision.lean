import VeltiumCharger.Group.CuentaIgual
import VeltiumCharger.Library.Run

/-!
# Admissions that last

An admitted charger keeps asking, so that the test is run again on every
balanced tick.  While no report, parameter or measurement changes, the ticks
only rewrite setpoints, orders and timers: what is counted stays the same, and
with it the outcome of every test.
-/

namespace VeltiumCharger.Group

open Finset VeltiumCharger.Loop VeltiumCharger.Run

/-! ## A sustained admission -/

/-- No three-phase charger that is given a setpoint is left below 6 A by its phase. -/
def GroupState.trifasicosConFase (a : GroupState) : Prop :=
  ∀ j, j < a.chargerNumber → (a.chargerTable j).hpt.assigned = true →
    (a.chargerTable j).contado.threePhase = true → 6 ≤ a.cuotaPropia j

/-- Charger `i` passes the test with itself counted, no earlier charger that
asks does, and no three-phase charger is left below 6 A by its phase. -/
structure GroupState.Sostenible (a : GroupState) (i : Nat) : Prop where
  cabe : a.cabeSolicitud 0 i
  primero : ∀ j, j < i → a.solicita 0 j → ¬ a.cabeSolicitud 0 j
  trifasicos : a.trifasicosConFase

/-- What the ticks after an admission keep: the group still counts as it did,
the task does not rest, nobody has been evicted, and the admitted charger has a
setpoint. -/
structure GroupState.Sostiene (a : GroupState) (i expulsiones : Nat) (b : GroupState) :
    Prop where
  igual : a.CuentaIgual b
  activo : b.controlGrupoState ≠ .reposo
  expulsiones : b.numExpulsiones = expulsiones
  consigna : 6 ≤ (b.chargerTable i).consigna.toNat

section Sostenida

variable {a b : GroupState} {i : Nat} (bounded : a.chargerNumber ≤ maxGroupSize)
  (wired : a.cableado) (below : i < a.chargerNumber)
  (charging : (a.chargerTable i).hpt = .ofText 'C' '2') (sustained : a.Sostenible i)

include bounded sustained in
theorem GroupState.Sostenible.cabeTras (same : a.CuentaIgual b) : b.cabeTras 0 := by
  rw [GroupState.cabeTras_zero_iff (same.chargerNumber ▸ bounded), same.pesoTotal,
    same.corrienteGrupo]
  have fits := sustained.cabe.1
  rw [GroupState.unidadesTras_zero bounded] at fits
  exact .inr (by omega)

include below charging in
theorem GroupState.CuentaIgual.connected (same : a.CuentaIgual b) :
    0 < b.numConectados ∧ 0 < b.pesoTotal := by
  have isConnected : (a.chargerTable i).hpt.connected = true := by
    rw [charging]
    rfl
  rw [same.numConectados, same.pesoTotal]
  constructor
  · unfold GroupState.numConectados
    exact sum_pos' (fun _ _ => Nat.zero_le _)
      ⟨i, mem_range.mpr below, by rw [if_pos isConnected]; exact Nat.one_pos⟩
  · unfold GroupState.pesoTotal
    refine sum_pos' (fun _ _ => Nat.zero_le _) ⟨i, mem_range.mpr below, ?_⟩
    rw [CaracCharger.peso, if_pos isConnected]
    split_ifs <;> omega

include bounded below charging in
theorem GroupState.CuentaIgual.conexTras_ne_zero (same : a.CuentaIgual b) :
    b.conexTras 0 ≠ 0 := by
  have present := (same.connected below charging).1
  have size := b.numConectados_le
  have number := same.chargerNumber
  unfold maxGroupSize at bounded
  unfold GroupState.conexTras
  omega

include wired below sustained in
/-- The phase of the admitted charger leaves it 6 A. -/
theorem GroupState.Sostenible.le_cuotaPropia : 6 ≤ a.cuotaPropia i := by
  have test := sustained.cabe.2 _ (wired i below).faseA_lt (.inr rfl)
  unfold GroupState.limiteDe at test
  unfold GroupState.cuotaPropia GroupState.cuotaFase
  split_ifs with counted
  · exact (Nat.le_of_lt test).trans (Nat.div_le_div_left (Nat.le_succ _) counted)
  · exact (Nat.le_of_lt test).trans (Nat.div_le_self _ _)

include bounded below charging in
/-- The group leaves 6 A for each unit. -/
theorem GroupState.CuentaIgual.le_cuotaTras (same : a.CuentaIgual b) (fits : b.cabeTras 0) :
    6 ≤ b.cuotaTras 0 := by
  have bounded' : b.chargerNumber ≤ maxGroupSize := same.chargerNumber ▸ bounded
  have counted : 0 < b.unidadesTras 0 := by
    rw [GroupState.unidadesTras_zero bounded']
    exact (same.connected below charging).2
  rw [GroupState.cuotaTras_of_pos counted, Share.le_share_iff counted]
  exact fits.resolve_left counted.ne'

include bounded wired in
/-- The share that a tick finds for the phase of a charger. -/
theorem GroupState.CuentaIgual.disponibleFase (same : a.CuentaIgual b) {j : Nat}
    (belowJ : j < a.chargerNumber) :
    (Group.calculoGeneral b).estado.disponibleFase j = a.cuotaPropia j := by
  rw [disponibleFase_eq_cuotaPropia (same.chargerNumber ▸ bounded)
    (same.cableado wired j (same.chargerNumber ▸ belowJ)), same.cuotaPropia belowJ]

include bounded wired below charging in
/-- While there are 6 A for each unit, a tick drops nobody exactly when the phases leave
the three-phase chargers 6 A. -/
theorem GroupState.CuentaIgual.cae_eq_false_iff (same : a.CuentaIgual b) (fits : b.cabeTras 0) :
    (∀ j, j < a.chargerNumber →
      (b.tablaTras 0 j).cae ((Group.calculoGeneral b).estado.disponibleFase j)
        (b.cuotaTras 0) = false) ↔
      a.trifasicosConFase := by
  have share := same.le_cuotaTras bounded below charging fits
  refine forall₂_congr fun j belowJ => ?_
  have pilot : (b.tablaTras 0 j).hpt = (a.chargerTable j).hpt := by
    rw [GroupState.tablaTras_zero, GroupState.tablaContada_hpt, (same.table j belowJ).hpt]
  have phases : (b.tablaTras 0 j).threePhase = (a.chargerTable j).contado.threePhase := by
    rw [GroupState.tablaTras_zero, (same.tablaContada_eq belowJ).1,
      (same.table j belowJ).threePhase]
  rw [same.disponibleFase bounded wired belowJ, ← Bool.not_eq_true, CaracCharger.cae, pilot,
    phases, consignaRepartida_eq]
  simp only [Bool.and_eq_true, decide_eq_true_eq, not_and, Nat.not_lt]
  refine forall₂_congr fun _ _ => ?_
  omega

include bounded below charging in
/-- A `CALCULO` tick that evicts and drops nobody found 6 A for each unit, and dropped
nobody. -/
theorem GroupState.CuentaIgual.of_sin_bajas (same : a.CuentaIgual b)
    (nobody : (tickCalculo b).numExpulsiones = b.numExpulsiones) :
    b.cabeTras 0 ∧ ∀ j, j < a.chargerNumber →
      (b.tablaTras 0 j).cae ((Group.calculoGeneral b).estado.disponibleFase j)
        (b.cuotaTras 0) = false := by
  have bounded' : b.chargerNumber ≤ maxGroupSize := same.chargerNumber ▸ bounded
  obtain ⟨rondas, _, veces⟩ := b.exists_expulsaVeces
  have pass := numExpulsiones_calculoGeneral bounded' veces
  by_cases present : b.conexTras rondas = 0
  · exfalso
    have count : (tickCalculo b).numExpulsiones = b.numExpulsiones + rondas := by
      rw [← calculoGeneral_conex bounded' veces] at present
      rw [tickCalculo_of_conex_eq_zero present]
      exact pass
    obtain rfl : rondas = 0 := by omega
    exact same.conexTras_ne_zero bounded below charging present
  · obtain ⟨_, history⟩ := tickCalculo_of_ne_zero bounded' veces present
    rw [GroupState.numExpulsiones, history, List.countP_append] at nobody
    rw [GroupState.numExpulsiones] at pass
    obtain rfl : rondas = 0 := by omega
    refine ⟨veces.1, fun j belowJ => ?_⟩
    have none : (((List.range b.chargerNumber).reverse.filter fun j =>
        (b.tablaTras 0 j).cae ((Group.calculoGeneral b).estado.disponibleFase j)
          (b.cuotaTras 0)).map Suceso.expulsion).countP Suceso.esExpulsion = 0 := by
      omega
    rw [← Bool.not_eq_true]
    intro falls
    rw [List.countP_eq_zero] at none
    refine none (.expulsion j) (List.mem_map.mpr ⟨j, ?_, rfl⟩) rfl
    simpa [same.chargerNumber, belowJ] using falls

include bounded wired below charging in
/-- A `CALCULO` tick that evicts and drops nobody keeps what is counted. -/
theorem GroupState.CuentaIgual.tickCalculo (same : a.CuentaIgual b) (fits : b.cabeTras 0)
    (phases : a.trifasicosConFase) :
    a.CuentaIgual (tickCalculo b) ∧ (tickCalculo b).controlGrupoState = .equilibrado ∧
      (tickCalculo b).numExpulsiones = b.numExpulsiones := by
  have bounded' : b.chargerNumber ≤ maxGroupSize := same.chargerNumber ▸ bounded
  have veces := GroupState.expulsaVeces_zero_iff.mpr fits
  have present := same.conexTras_ne_zero bounded below charging
  have pass := same.calculoGeneral bounded fits
  have tablePass := calculoGeneral_chargerTable bounded' veces
  have stays := (same.cae_eq_false_iff bounded wired below charging fits).mpr phases
  rcases tickCalculo_of_ne_zero bounded' veces present with ⟨table, history⟩
  refine ⟨pass.ajustar (by rw [tickCalculo_rest]) fun j belowJ => ?_, ?_, ?_⟩
  · rcases CaracCharger.exists_asignado_eq (stays j belowJ) with ⟨consigna, cell⟩
    rw [table j (same.chargerNumber ▸ belowJ), tablePass, cell]
    exact ⟨consigna, _, _, _, rfl⟩
  · rw [← calculoGeneral_conex bounded' veces] at present
    rw [tickCalculo_of_conex_ne_zero present]
  · have nobody : (List.range b.chargerNumber).reverse.filter (fun j =>
        (b.tablaTras 0 j).cae ((Group.calculoGeneral b).estado.disponibleFase j)
          (b.cuotaTras 0)) = [] := by
      rw [List.filter_eq_nil_iff]
      intro j member
      rw [stays j (by simpa [same.chargerNumber] using member)]
      exact Bool.false_ne_true
    have unchanged := numExpulsiones_calculoGeneral bounded' veces
    unfold GroupState.numExpulsiones at unchanged ⊢
    rw [history, nobody]
    exact unchanged

include bounded wired below charging sustained in
/-- A `CALCULO` tick gives the admitted charger its setpoint and drops nobody. -/
theorem sostiene_tickCalculo (same : a.CuentaIgual b) :
    a.Sostiene i b.numExpulsiones (tickCalculo b) := by
  have bounded' : b.chargerNumber ≤ maxGroupSize := same.chargerNumber ▸ bounded
  have fits := sustained.cabeTras bounded same
  have veces := GroupState.expulsaVeces_zero_iff.mpr fits
  have present := same.conexTras_ne_zero bounded below charging
  have share := same.le_cuotaTras bounded below charging fits
  have stays := (same.cae_eq_false_iff bounded wired below charging fits).mpr
    sustained.trifasicos
  obtain ⟨counted, state, nobody⟩ :=
    same.tickCalculo bounded wired below charging fits sustained.trifasicos
  refine ⟨counted, by simp [state], nobody, ?_⟩
  have isAssigned : (b.tablaTras 0 i).hpt.assigned = true := by
    rw [GroupState.tablaTras_zero, GroupState.tablaContada_hpt, (same.table i below).hpt,
      charging]
    rfl
  have phase := sustained.le_cuotaPropia wired below
  rw [(tickCalculo_of_ne_zero bounded' veces present).1 i (same.chargerNumber ▸ below),
    CaracCharger.asignado_consigna_eq isAssigned (stays i below),
    same.disponibleFase bounded wired below, UInt16.toNat_ofNat']
  omega

include bounded in
/-- The pass of a tick keeps what is sustained. -/
theorem GroupState.Sostiene.calculoGeneral {expulsiones : Nat}
    (kept : a.Sostiene i expulsiones b) (sustained : a.Sostenible i)
    (below : i < a.chargerNumber) (charging : (a.chargerTable i).hpt = .ofText 'C' '2') :
    a.Sostiene i expulsiones (calculoGeneral b).estado := by
  have bounded' : b.chargerNumber ≤ maxGroupSize := kept.igual.chargerNumber ▸ bounded
  have fits := sustained.cabeTras bounded kept.igual
  have veces := GroupState.expulsaVeces_zero_iff.mpr fits
  refine ⟨kept.igual.calculoGeneral bounded fits, kept.activo, ?_, ?_⟩
  · rw [numExpulsiones_calculoGeneral bounded' veces]
    exact kept.expulsiones
  · have connected : (b.chargerTable i).hpt.connected = true := by
      rw [(kept.igual.table i below).hpt, charging]
      rfl
    rcases CaracCharger.exists_contado_eq connected with ⟨_, cell⟩
    rw [calculoGeneral_chargerTable bounded' veces, GroupState.tablaTras_zero,
      (kept.igual.tablaContada_eq below).1, cell]
    exact kept.consigna

/-- The table with charger `i` in `C2`. -/
def GroupState.tablaConC2 (s : GroupState) (i : Nat) : Nat → CaracCharger :=
  Function.update s.chargerTable i { s.chargerTable i with hpt := .ofText 'C' '2' }

/-- A balanced tick changes no pilot state but that of the charger it admits, no
setpoint but those it rejects, and evicts nobody. -/
theorem solicitudes_admitir (t : Tick) {s : GroupState} {i : Nat}
    (admits : solicitudes s = admitir i (s.rechazar i)) :
    (∀ j, ∃ consigna order delta deltaTimer,
      (buscarDeltas t.transcurrido (solicitudes s)).chargerTable j =
        { s.tablaConC2 i j with consigna, order, delta, deltaTimer }) ∧
      ((buscarDeltas t.transcurrido (solicitudes s)).chargerTable i).consigna =
        (s.chargerTable i).consigna ∧
      (buscarDeltas t.transcurrido (solicitudes s)).numExpulsiones = s.numExpulsiones ∧
      (buscarDeltas t.transcurrido (solicitudes s)).controlGrupoState = .calculo := by
  have search := buscarDeltas_buscaDelta t.transcurrido (solicitudes s)
  have own : (admitir i (s.rechazar i)).chargerTable i =
      { s.tablaConC2 i i with order := (s.rechazar i).ordenNuevo i } := by
    rw [admitir_chargerTable, Function.update_self, GroupState.rechazar_of_le (Nat.le_refl i),
      GroupState.tablaConC2, Function.update_self]
  refine ⟨fun j => ?_, ?_, ?_, ?_⟩
  · rcases search.table j with ⟨delta, deltaTimer, cell⟩
    rw [cell, admits]
    by_cases here : j = i
    · subst here
      rw [own]
      exact ⟨_, _, delta, deltaTimer, rfl⟩
    · rw [admitir_chargerTable, Function.update_of_ne here, GroupState.tablaConC2,
        Function.update_of_ne here]
      unfold GroupState.rechazar
      dsimp only
      split_ifs
      · exact ⟨_, _, delta, deltaTimer, rfl⟩
      · exact ⟨_, _, delta, deltaTimer, rfl⟩
  · rcases search.table i with ⟨_, _, cell⟩
    rw [cell, admits, own, GroupState.tablaConC2, Function.update_self]
  · have history : (buscarDeltas t.transcurrido (solicitudes s)).historial =
        (solicitudes s).historial := by
      rw [search.rest]
    have rejections : (((List.range i).reverse.filter fun j =>
        (s.chargerTable j).chargeReq).map Suceso.rechazo).countP Suceso.esExpulsion = 0 := by
      rw [List.countP_eq_zero]
      intro event member
      rcases List.mem_map.mp member with ⟨_, _, rfl⟩
      exact Bool.false_ne_true
    rw [GroupState.numExpulsiones, history, admits]
    simp only [admitir, GroupState.setCharger, GroupState.rechazar, List.countP_append,
      List.countP_cons, rejections]
    rw [GroupState.numExpulsiones]
    simp [Suceso.esExpulsion]
  · rcases search.state with same | calculo
    · rw [same, admits]
      rfl
    · exact calculo

include bounded wired below charging sustained in
/-- A balanced tick runs the test again, with the same outcome. -/
theorem GroupState.Sostiene.tickEquilibrado {expulsiones : Nat} (t : Tick)
    (asks : a.solicita 0 i) (kept : a.Sostiene i expulsiones b)
    (inEquilibrado : b.controlGrupoState = .equilibrado) :
    a.Sostiene i expulsiones (tickEquilibrado t b) := by
  have bounded' : b.chargerNumber ≤ maxGroupSize := kept.igual.chargerNumber ▸ bounded
  have fits := sustained.cabeTras bounded kept.igual
  have veces := GroupState.expulsaVeces_zero_iff.mpr fits
  have pass := kept.calculoGeneral bounded sustained below charging
  by_cases estable : b.Estable
  · rw [tickEquilibrado_of_estable inEquilibrado estable]
    have alreadyC2 : (Group.calculoGeneral b).estado.tablaConC2 i =
        (Group.calculoGeneral b).estado.chargerTable := by
      rw [GroupState.tablaConC2, ← charging, ← (pass.igual.table i below).hpt]
      exact Function.update_eq_self i _
    have request := chargeReq_calculoGeneral_iff bounded' veces
    have test : ∀ j, j < a.chargerNumber →
        (entra (Group.calculoGeneral b).estado
            ((Group.calculoGeneral b).estado.chargerTable j) = true ↔
          a.cabeSolicitud 0 j) := by
      intro j belowJ
      rw [entra_calculoGeneral_iff bounded' veces
        (kept.igual.cableado wired j (kept.igual.chargerNumber ▸ belowJ)),
        kept.igual.cabeSolicitud_iff bounded belowJ]
    have asksPass : ((Group.calculoGeneral b).estado.chargerTable i).chargeReq = true :=
      (request i).mpr ((kept.igual.solicita_iff below).mpr asks)
    have passes := (test i below).mpr sustained.cabe
    have admits := solicitudes_of_primero (kept.igual.chargerNumber ▸ below) asksPass passes
      fun k before asksK fitsK =>
        have belowK := before.trans below
        sustained.primero k before
          ((kept.igual.solicita_iff belowK).mp ((request k).mp asksK))
          ((test k belowK).mp fitsK)
    rcases solicitudes_admitir t admits with ⟨table, consigna, nobody, state⟩
    rw [alreadyC2] at table
    have search := buscarDeltas_buscaDelta t.transcurrido
      (solicitudes (Group.calculoGeneral b).estado)
    refine ⟨pass.igual.ajustar ?_ fun j _ => table j, ?_, ?_, ?_⟩
    · rw [search.rest, admits]
      rfl
    · rw [state]
      simp
    · rw [nobody]
      exact pass.expulsiones
    · rw [consigna]
      exact pass.consigna
  · obtain ⟨newData, lastConex, state, final, next⟩ :=
      tickEquilibrado_of_not_estable (t := t) estable
    have active : state ≠ .reposo := by
      rcases next with rfl | ⟨_, empty⟩
      · simp
      · rw [calculoGeneral_conex bounded' veces] at empty
        exact absurd empty (kept.igual.conexTras_ne_zero bounded below charging)
    rw [final]
    refine ⟨pass.igual.ajustar rfl fun j _ => ⟨_, _, _, _, rfl⟩, active, ?_, ?_⟩
    · exact pass.expulsiones
    · exact pass.consigna

include bounded wired below charging sustained in
/-- What is sustained stays so through any number of ticks. -/
theorem GroupState.Sostiene.ticks {expulsiones : Nat} (asks : a.solicita 0 i)
    {first : GroupState} (kept : a.Sostiene i expulsiones first)
    (reached : Reachable (· = first) (ofFunction fun s t => limiteConsumo t s) b) :
    a.Sostiene i expulsiones b := by
  apply reached.invariant _ (fun _ same => same ▸ kept)
  rintro current t _ kept rfl
  change a.Sostiene i expulsiones (limiteConsumo t current)
  cases state : current.controlGrupoState with
  | reposo => exact absurd state kept.activo
  | equilibrado =>
      rw [limiteConsumo, state]
      exact kept.tickEquilibrado bounded wired below charging sustained t asks state
  | calculo =>
      rw [limiteConsumo, state, ← kept.expulsiones]
      exact sostiene_tickCalculo bounded wired below charging sustained kept.igual

include bounded wired below in
/-- A balanced tick that gets to the requests takes the setpoint of a charger that asks
and does not pass the test, unless an earlier one passes it. -/
theorem GroupState.CuentaIgual.rechaza (t : Tick) (same : a.CuentaIgual b)
    (fits : b.cabeTras 0) (inEquilibrado : b.controlGrupoState = .equilibrado)
    (estable : b.Estable) (asks : a.solicita 0 i)
    (none : ∀ j, j ≤ i → a.solicita 0 j → ¬ a.cabeSolicitud 0 j) :
    ((Group.tickEquilibrado t b).chargerTable i).consigna = 0 := by
  have bounded' : b.chargerNumber ≤ maxGroupSize := same.chargerNumber ▸ bounded
  have veces := GroupState.expulsaVeces_zero_iff.mpr fits
  have request := chargeReq_calculoGeneral_iff bounded' veces
  have full : ∀ j, j ≤ i → ((Group.calculoGeneral b).estado.chargerTable j).chargeReq = true →
      entra (Group.calculoGeneral b).estado
        ((Group.calculoGeneral b).estado.chargerTable j) ≠ true := by
    intro j upTo asksJ
    have belowJ := upTo.trans_lt below
    rw [ne_eq, entra_calculoGeneral_iff bounded' veces
      (same.cableado wired j (same.chargerNumber ▸ belowJ)), same.cabeSolicitud_iff bounded belowJ]
    exact none j upTo ((same.solicita_iff belowJ).mp ((request j).mp asksJ))
  have asksB : ((Group.calculoGeneral b).estado.chargerTable i).chargeReq = true :=
    (request i).mpr ((same.solicita_iff below).mpr asks)
  rw [tickEquilibrado_of_estable inEquilibrado estable]
  rcases (buscarDeltas_buscaDelta t.transcurrido
    (solicitudes (Group.calculoGeneral b).estado)).table i with ⟨_, _, cell⟩
  rw [cell]
  have rejected : ∀ hasta, i < hasta →
      (((Group.calculoGeneral b).estado.rechazar hasta).chargerTable i).consigna = 0 := by
    intro hasta before
    unfold GroupState.rechazar
    dsimp only
    rw [if_pos ⟨before, asksB⟩]
  rcases solicitudes_cases (s := (Group.calculoGeneral b).estado) with
    ⟨k, _, asksK, fitsK, _, admits⟩ | ⟨_, rejects⟩
  · have later : i < k := by
      by_contra upTo
      exact full k (Nat.not_lt.mp upTo) asksK fitsK
    rw [admits, admitir_chargerTable, Function.update_of_ne later.ne]
    exact rejected k later
  · rw [rejects]
    exact rejected _ (same.chargerNumber ▸ below)

/-- In any run of ticks, none evicts anybody and each leaves charger `i` a setpoint. -/
def GroupState.Dura (s : GroupState) (i : Nat) : Prop :=
  ∀ t b, Reachable (· = limiteConsumo t s) (ofFunction fun s t => limiteConsumo t s) b →
    b.numExpulsiones = s.numExpulsiones ∧ 0 < (b.chargerTable i).consigna.toNat

include bounded wired below charging in
/-- While nobody is evicted, the ticks keep what is counted until the requests are
looked at. -/
theorem GroupState.Dura.cuentaIgual {c : GroupState} (lasts : c.Dura i)
    (start : a.CuentaIgual c) (inCalculo : c.controlGrupoState = .calculo)
    (fits : c.cabeTras 0) (phases : a.trifasicosConFase) (asks : a.solicita 0 i)
    (none : ∀ j, j ≤ i → a.solicita 0 j → ¬ a.cabeSolicitud 0 j) {t : Tick}
    (reached : Reachable (· = limiteConsumo t c) (ofFunction fun s t => limiteConsumo t s) b) :
    a.CuentaIgual b ∧ b.controlGrupoState ≠ .reposo ∧ b.cabeTras 0 := by
  have room : ∀ c, a.CuentaIgual c → c.cabeTras 0 :=
    fun c same => (same.cabeTras_iff bounded).mpr ((start.cabeTras_iff bounded).mp fits)
  suffices counts : a.CuentaIgual b ∧ b.controlGrupoState ≠ .reposo from
    ⟨counts.1, counts.2, room b counts.1⟩
  induction reached with
  | start isFirst =>
      subst isFirst
      rw [limiteConsumo, inCalculo]
      obtain ⟨counted, next, _⟩ := start.tickCalculo bounded wired below charging fits phases
      exact ⟨counted, by simp [next]⟩
  | @next current t' target before taken ih =>
      have reachedTarget := before.next taken
      obtain rfl : limiteConsumo t' current = target := taken
      obtain ⟨same, running⟩ := ih
      have fitsHere := room current same
      cases state : current.controlGrupoState with
      | reposo => exact absurd state running
      | calculo =>
          rw [limiteConsumo, state]
          obtain ⟨counted, next, _⟩ :=
            same.tickCalculo bounded wired below charging fitsHere phases
          exact ⟨counted, by simp [next]⟩
      | equilibrado =>
          by_cases estable : current.Estable
          · have keeps := (lasts t _ reachedTarget).2
            rw [limiteConsumo, state] at keeps
            dsimp only at keeps
            rw [same.rechaza bounded wired below t' fitsHere state estable asks none] at keeps
            exact absurd keeps (Nat.lt_irrefl 0)
          · rw [limiteConsumo, state]
            dsimp only
            obtain ⟨newData, lastConex, next, final, nextState⟩ :=
              tickEquilibrado_of_not_estable (t := t') estable
            have pass := same.calculoGeneral bounded fitsHere
            have veces := GroupState.expulsaVeces_zero_iff.mpr fitsHere
            rw [final]
            refine ⟨pass.ajustar rfl fun j _ => ⟨_, _, _, _, rfl⟩, ?_⟩
            rcases nextState with rfl | ⟨_, empty⟩
            · simp
            · rw [calculoGeneral_conex (same.chargerNumber ▸ bounded) veces] at empty
              exact absurd empty (same.conexTras_ne_zero bounded below charging)

include bounded wired below charging in
/-- An admission that lasts leaves 6 A for each unit, and 6 A of the phases for the
three-phase chargers. -/
theorem GroupState.Dura.sin_bajas (lasts : b.Dura i) (same : a.CuentaIgual b)
    (inCalculo : b.controlGrupoState = .calculo) : b.cabeTras 0 ∧ a.trifasicosConFase := by
  have nobody := (lasts ⟨true, 0⟩ _ (.start rfl)).1
  rw [limiteConsumo, inCalculo] at nobody
  obtain ⟨fits, stays⟩ := same.of_sin_bajas bounded below charging nobody
  exact ⟨fits, (same.cae_eq_false_iff bounded wired below charging fits).mp stays⟩

include bounded wired below charging in
/-- An admission that lasts, and that the requests come up again for, passes the test. -/
theorem GroupState.Dura.cabeSolicitud (lasts : b.Dura i) (same : a.CuentaIgual b)
    (inCalculo : b.controlGrupoState = .calculo) (asks : a.solicita 0 i)
    (first : ∀ j, j < i → a.solicita 0 j → ¬ a.cabeSolicitud 0 j) {t : Tick} {c : GroupState}
    (reached : Reachable (· = limiteConsumo t b) (ofFunction fun s t => limiteConsumo t s) c)
    (inEquilibrado : c.controlGrupoState = .equilibrado) (estable : c.Estable) :
    a.cabeSolicitud 0 i := by
  by_contra full
  have none : ∀ j, j ≤ i → a.solicita 0 j → ¬ a.cabeSolicitud 0 j := by
    intro j upTo asksJ
    rcases Nat.lt_or_eq_of_le upTo with before | rfl
    · exact first j before asksJ
    · exact full
  obtain ⟨fits, phases⟩ := lasts.sin_bajas bounded wired below charging same inCalculo
  obtain ⟨counts, _, room⟩ := lasts.cuentaIgual bounded wired below charging same inCalculo fits
    phases asks none reached
  have next : Reachable (· = limiteConsumo t b) (ofFunction fun s t => limiteConsumo t s)
      (limiteConsumo t c) :=
    reached.next (Eq.refl _)
  have keeps := (lasts t _ next).2
  rw [limiteConsumo, inEquilibrado] at keeps
  dsimp only at keeps
  rw [counts.rechaza bounded wired below t room inEquilibrado estable asks none] at keeps
  exact absurd keeps (Nat.lt_irrefl 0)

end Sostenida

/-! ## Admission and capacity -/

/-- The requests come up again in some run of ticks. -/
def GroupState.vuelveARevisar (s : GroupState) : Prop :=
  ∃ t b, Reachable (· = limiteConsumo t s) (ofFunction fun s t => limiteConsumo t s) b ∧
    b.controlGrupoState = .equilibrado ∧ b.Estable

section Concuerda

variable {s : GroupState} (bounded : s.chargerNumber ≤ maxGroupSize) (wired : s.cableado)
  {rondas : Nat} (veces : s.expulsaVeces rondas)

theorem GroupState.le_cuotaPropia_iff {a : GroupState} {i : Nat} :
    6 ≤ a.cuotaPropia i ↔
      6 * max 1 (a.cargaFase (a.chargerTable i).circuitoIdx (a.chargerTable i).faseA) ≤
        a.limiteDe i := by
  unfold GroupState.cuotaPropia GroupState.cuotaFase GroupState.limiteDe
  split_ifs with counted
  · rw [max_eq_right counted]
    exact Nat.le_div_iff_mul_le counted
  · rw [Nat.eq_zero_of_not_pos counted]
    rfl

/-- The three-phase chargers right after the admission, on the table before the tick. -/
theorem GroupState.trifasicosCaben_iff {i : Nat} (stays : ¬ s.expulsadoTras rondas i) :
    s.trifasicosCaben rondas i ↔ (s.conAdmitido rondas i).trifasicosConFase := by
  refine forall₂_congr fun j below => ?_
  have share : 6 ≤ (s.conAdmitido rondas i).cuotaPropia j ↔
      6 * max 1 (s.cargaCon rondas i (s.chargerTable j).circuitoIdx (s.chargerTable j).faseA) ≤
        s.limiteDe j := by
    have limit : (s.conAdmitido rondas i).limiteDe j = s.limiteDe j := by
      unfold limiteDe
      rw [circuitoIdx_conAdmitido]
      rfl
    rw [le_cuotaPropia_iff, cargaFase_conAdmitido stays, circuitoIdx_conAdmitido,
      faseA_conAdmitido, limit]
  rw [share]
  rcases conAdmitido_cases stays below with ⟨gone, _, cell⟩ | ⟨kept, cell⟩
  · have alone : (s.tablaContada j).expulsar.contado.threePhase = false := rfl
    rw [cell, alone]
    simp [gone]
  · rw [cell]
    simp only [kept, not_false_eq_true, true_imp_iff]
    split_ifs with here
    · have threePhase : (s.chargerTable j).admitido.contado.threePhase =
          (s.chargerTable j).trifasicoEnC2 := by
        rw [CaracCharger.contado_threePhase_of_connected CaracCharger.admitido_connected,
          CaracCharger.admitido_threePhase]
      have isAssigned : (s.chargerTable j).admitido.hpt.assigned = true := rfl
      rw [threePhase, isAssigned]
      simp
    · rw [CaracCharger.contado_contado, CaracCharger.contado_hpt, and_imp]
      refine forall_congr' fun isAssigned => ?_
      rw [(CaracCharger.contado_of_assigned isAssigned).1]

/-- What makes an admission last, on the table before the tick. -/
theorem GroupState.duradera_iff (bounded : s.chargerNumber ≤ maxGroupSize) {i : Nat}
    (below : i < s.chargerNumber) (asks : s.solicita rondas i) :
    s.Duradera rondas i ↔ (s.conAdmitido rondas i).Sostenible i := by
  have own := cabeSolicitud_conAdmitido asks.2 bounded below below asks.2
  have earlier : (∀ j, j < i → s.solicita rondas j → ¬ s.cabeCon rondas i j) ↔
      ∀ j, j < i → (s.conAdmitido rondas i).solicita 0 j →
        ¬ (s.conAdmitido rondas i).cabeSolicitud 0 j := by
    refine forall₂_congr fun j before => ?_
    have belowJ := before.trans below
    rw [solicita_conAdmitido asks.2 belowJ]
    refine forall_congr' fun asksJ => ?_
    rw [cabeSolicitud_conAdmitido asks.2 bounded below belowJ asksJ.2]
  have phases := trifasicosCaben_iff asks.2
  constructor
  · exact fun lasts => ⟨own.mpr lasts.cabe, earlier.mp lasts.primero, phases.mp lasts.trifasicos⟩
  · exact fun kept => ⟨own.mp kept.cabe, earlier.mpr kept.primero, phases.mpr kept.trifasicos⟩

include bounded wired veces

/-- The tick that admits charger `i`. -/
theorem tickEquilibrado_of_admite (t : Tick)
    (inEquilibrado : s.controlGrupoState = .equilibrado) (estable : s.Estable) {i : Nat}
    (below : i < s.chargerNumber) (asks : s.solicita rondas i)
    (admitted : s.admite (tickEquilibrado t s) i) :
    (s.conAdmitido rondas i).CuentaIgual (tickEquilibrado t s) ∧
      (tickEquilibrado t s).controlGrupoState = .calculo := by
  obtain ⟨fits, first⟩ :=
    (admite_tickEquilibrado_iff bounded wired veces t inEquilibrado estable below asks).mp
      admitted
  have test : ∀ j, j < s.chargerNumber →
      (entra (calculoGeneral s).estado ((calculoGeneral s).estado.chargerTable j) = true ↔
        s.cabeSolicitud rondas j) :=
    fun j belowJ => entra_calculoGeneral_iff bounded veces (wired j belowJ)
  have request := chargeReq_calculoGeneral_iff bounded veces
  have admits := solicitudes_of_primero (s := (calculoGeneral s).estado) below
    ((request i).mpr asks) ((test i below).mpr fits) fun k before asksK fitsK =>
      first k before ((request k).mp asksK) ((test k (before.trans below)).mp fitsK)
  rcases solicitudes_admitir t admits with ⟨table, _, _, state⟩
  have search := buscarDeltas_buscaDelta t.transcurrido (solicitudes (calculoGeneral s).estado)
  rw [tickEquilibrado_of_estable inEquilibrado estable]
  refine ⟨?_, state⟩
  have pass : (s.conAdmitido rondas i).CuentaIgual
      { (calculoGeneral s).estado with
        chargerTable := (s.conAdmitido rondas i).chargerTable } :=
    ⟨rfl, rfl, fun k => calculoGeneral_limiteCorriente k, rfl, rfl,
      fun _ _ => CaracCharger.CuentaIgual.refl _⟩
  refine pass.ajustar ?_ fun j _ => ?_
  · rw [search.rest, admits]
    rfl
  · have cell := table j
    rw [GroupState.tablaConC2, calculoGeneral_chargerTable bounded veces] at cell
    exact cell

section Admitida

variable {t : Tick} (inEquilibrado : s.controlGrupoState = .equilibrado) (estable : s.Estable)
  {i : Nat} (below : i < s.chargerNumber) (asks : s.solicita rondas i)
  (admitted : s.admite (tickEquilibrado t s) i)

include inEquilibrado estable below asks admitted

/-- With room over again nobody is evicted, and the setpoint stays. -/
theorem GroupState.Duradera.ticks (lasting : s.Duradera rondas i) {t' : Tick} {b : GroupState}
    (reached : Reachable (· = limiteConsumo t' (tickEquilibrado t s))
      (ofFunction fun s t => limiteConsumo t s) b) :
    b.numExpulsiones = (tickEquilibrado t s).numExpulsiones ∧
      6 ≤ (b.chargerTable i).consigna.toNat := by
  obtain ⟨same, state⟩ := tickEquilibrado_of_admite bounded wired veces t inEquilibrado
    estable below asks admitted
  have wired' : (s.conAdmitido rondas i).cableado := GroupState.cableado_conAdmitido wired
  have bounded' : (s.conAdmitido rondas i).chargerNumber ≤ maxGroupSize := bounded
  have charging := @GroupState.hpt_conAdmitido s rondas i
  have sustained := (GroupState.duradera_iff bounded below asks).mp lasting
  have asks' := (GroupState.solicita_conAdmitido asks.2 below).mpr asks
  have kept : (s.conAdmitido rondas i).Sostiene i (tickEquilibrado t s).numExpulsiones
      (limiteConsumo t' (tickEquilibrado t s)) := by
    rw [limiteConsumo, state]
    exact sostiene_tickCalculo bounded' wired' below charging sustained same
  have lasts := kept.ticks bounded' wired' below charging sustained asks' reached
  exact ⟨lasts.expulsiones, lasts.consigna⟩

/-- An admission that lasts leaves the three-phase chargers 6 A of their phase. -/
theorem GroupState.Dura.trifasicosCaben (lasts : (tickEquilibrado t s).Dura i) :
    s.trifasicosCaben rondas i := by
  obtain ⟨same, state⟩ := tickEquilibrado_of_admite bounded wired veces t inEquilibrado
    estable below asks admitted
  have wired' : (s.conAdmitido rondas i).cableado := GroupState.cableado_conAdmitido wired
  have bounded' : (s.conAdmitido rondas i).chargerNumber ≤ maxGroupSize := bounded
  exact (GroupState.trifasicosCaben_iff asks.2).mpr
    (lasts.sin_bajas bounded' wired' below (GroupState.hpt_conAdmitido rondas i) same state).2

/-- An admission that lasts until the requests come up again has room over again. -/
theorem GroupState.Dura.duradera (lasts : (tickEquilibrado t s).Dura i)
    (again : (tickEquilibrado t s).vuelveARevisar)
    (first : ∀ j, j < i → s.solicita rondas j → ¬ s.cabeCon rondas i j) :
    s.Duradera rondas i := by
  obtain ⟨same, state⟩ := tickEquilibrado_of_admite bounded wired veces t inEquilibrado
    estable below asks admitted
  have wired' : (s.conAdmitido rondas i).cableado := GroupState.cableado_conAdmitido wired
  have bounded' : (s.conAdmitido rondas i).chargerNumber ≤ maxGroupSize := bounded
  have charging := @GroupState.hpt_conAdmitido s rondas i
  have asks' := (GroupState.solicita_conAdmitido asks.2 below).mpr asks
  obtain ⟨_, b, reached, balanced, stable⟩ := again
  have earlier : ∀ j, j < i → (s.conAdmitido rondas i).solicita 0 j →
      ¬ (s.conAdmitido rondas i).cabeSolicitud 0 j := by
    intro j before asksJ
    have belowJ := before.trans below
    have asksBefore := (GroupState.solicita_conAdmitido asks.2 belowJ).mp asksJ
    rw [GroupState.cabeSolicitud_conAdmitido asks.2 bounded below belowJ asksBefore.2]
    exact first j before asksBefore
  have phases := (lasts.sin_bajas bounded' wired' below charging same state).2
  have fits := lasts.cabeSolicitud bounded' wired' below charging same state asks' earlier
    reached balanced stable
  exact (GroupState.duradera_iff bounded below asks).mpr ⟨fits, earlier, phases⟩

end Admitida

/-- A balanced tick agrees with the capacity exactly when there is room for one request
at most, and for that one over again.  An admission lasts when there is room for it
over again once it is made; it lasts only then if the requests come up again, and that of
a charger counted before exactly when the three-phase ones have 6 A of their phase. -/
theorem admision_concuerda_y_dura (t : Tick)
    (inEquilibrado : s.controlGrupoState = .equilibrado) (estable : s.Estable) :
    ((∀ i, i < s.chargerNumber → s.solicita rondas i →
        (s.admite (limiteConsumo t s) i ↔ s.cabeUnaVez rondas i)) ↔
      s.sitioParaUno rondas) ∧
    ∀ i, i < s.chargerNumber → s.solicita rondas i → s.admite (limiteConsumo t s) i →
      (s.Duradera rondas i →
        ∀ t' b, Reachable (· = limiteConsumo t' (limiteConsumo t s))
            (ofFunction fun s t => limiteConsumo t s) b →
          b.numExpulsiones = (limiteConsumo t s).numExpulsiones ∧
            6 ≤ (b.chargerTable i).consigna.toNat) ∧
      ((limiteConsumo t s).Dura i → (limiteConsumo t s).vuelveARevisar →
        (∀ j, j < i → s.solicita rondas j → ¬ s.cabeCon rondas i j) → s.Duradera rondas i) ∧
      (rondas = 0 → (s.chargerTable i).hpt.connected = true →
        ((limiteConsumo t s).Dura i ↔ s.trifasicosCaben 0 i)) := by
  have tick : limiteConsumo t s = tickEquilibrado t s := by rw [limiteConsumo, inEquilibrado]
  rw [tick]
  refine ⟨admite_iff_cabeUnaVez_iff bounded wired veces t inEquilibrado estable,
    fun i below asks admitted => ?_⟩
  refine ⟨fun lasting t' b reached => lasting.ticks bounded wired veces inEquilibrado estable
      below asks admitted reached,
    fun lasts again first => lasts.duradera bounded wired veces inEquilibrado estable below asks
      admitted again first, ?_⟩
  rintro rfl connected
  constructor
  · exact fun lasts => lasts.trifasicosCaben bounded wired veces inEquilibrado estable below asks
      admitted
  · intro phases
    obtain ⟨fits, first⟩ :=
      (admite_tickEquilibrado_iff bounded wired veces t inEquilibrado estable below asks).mp
        admitted
    have lasting : s.Duradera 0 i :=
      ⟨(GroupState.cabeCon_zero_iff bounded below connected).mpr fits,
        fun j before asksJ => by
          rw [GroupState.cabeCon_zero_iff bounded below connected]
          exact first j before asksJ,
        phases⟩
    intro t' b reached
    obtain ⟨nobody, keeps⟩ := lasting.ticks bounded wired veces inEquilibrado estable below asks
      admitted reached
    exact ⟨nobody, by omega⟩

end Concuerda

/-- A waiting charger alone in a group of 8 A: it fits, but is counted twice. -/
def solicitanteContado : GroupState :=
  { GroupState.inicio (.conPotencia 20)
      [{ CaracCharger.enEstado 'B' '1' 0 with chargeReq := true }] [32] with
    controlGrupoState := .equilibrado
    lastConex := 1 }

theorem solicitanteContado_estable : solicitanteContado.Estable where
  sinRecalcular := by decide
  sinDatos := by decide
  mismos := by decide
  alguien := by decide
  consumo := by decide
  fases := by decide

theorem solicitanteContado_rechazado :
    solicitanteContado.controlGrupoState = .equilibrado ∧
      solicitanteContado.chargerNumber ≤ maxGroupSize ∧ solicitanteContado.cableado ∧
      solicitanteContado.Estable ∧ solicitanteContado.expulsaVeces 0 ∧
      solicitanteContado.solicita 0 0 ∧
      ¬ (solicitanteContado.admite (limiteConsumo ⟨true, 0⟩ solicitanteContado) 0 ↔
        solicitanteContado.cabeUnaVez 0 0) := by
  refine ⟨rfl, by decide, by decide, solicitanteContado_estable, by decide, by decide, ?_⟩
  intro agrees
  have admitted := (agrees.mpr (by decide)).1
  exact absurd admitted (by decide)

/-- The same charger in a group of 26 A. -/
def solicitanteHolgado : GroupState :=
  { solicitanteContado with params := .conPotencia 60 }

theorem solicitanteHolgado_estable : solicitanteHolgado.Estable where
  sinRecalcular := by decide
  sinDatos := by decide
  mismos := by decide
  alguien := by decide
  consumo := by decide
  fases := by decide

theorem solicitanteHolgado_admitido :
    solicitanteHolgado.admite (limiteConsumo ⟨true, 0⟩ solicitanteHolgado) 0 ∧
      6 ≤ ((limiteConsumo ⟨true, 0⟩ (limiteConsumo ⟨true, 0⟩
        (limiteConsumo ⟨true, 0⟩ solicitanteHolgado))).chargerTable 0).consigna.toNat := by
  have veces : solicitanteHolgado.expulsaVeces 0 := by decide
  have concuerda := admision_concuerda_y_dura (s := solicitanteHolgado) (by decide) (by decide)
    veces ⟨true, 0⟩ rfl solicitanteHolgado_estable
  have single : solicitanteHolgado.sitioParaUno 0 := by
    constructor
    · intro i below _ _
      obtain rfl : i = 0 := Nat.lt_one_iff.mp below
      decide
    · intro i j belowI belowJ _ _ _ _
      exact (Nat.lt_one_iff.mp belowI).trans (Nat.lt_one_iff.mp belowJ).symm
  have admitted := (concuerda.1.mpr single 0 (by decide) (by decide)).mpr (by decide)
  have lasting : solicitanteHolgado.Duradera 0 0 :=
    ⟨by decide, fun _ before => absurd before (Nat.not_lt_zero _), by decide⟩
  refine ⟨admitted, ?_⟩
  exact ((concuerda.2 0 (by decide) (by decide) admitted).1 lasting ⟨true, 0⟩ _
    (Reachable.next (Reachable.start (Eq.refl _)) (Eq.refl _))).2

end VeltiumCharger.Group
