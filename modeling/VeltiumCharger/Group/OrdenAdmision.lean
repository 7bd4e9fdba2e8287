import VeltiumCharger.Group.Historia
import VeltiumCharger.Group.Maestro

/-!
# The order of admission

The eviction loop takes the charger with the largest admission order.  That is
the one admitted last as long as each admission gets an order above all others,
which neither of the two places that assign orders makes sure of.
-/

namespace VeltiumCharger.Group

open Finset VeltiumCharger.Loop VeltiumCharger.Run

namespace GroupState

/-- The admission orders follow the history: who has one has been admitted since
it was last idle, and the larger belongs to the later admission. -/
structure Ordenado (s : GroupState) : Prop where
  admitido : ∀ i, i < s.chargerNumber →
    ((s.chargerTable i).order.toNat = 0 ↔ sello i s.historial = 0)
  orden : ∀ i j, i < s.chargerNumber → j < s.chargerNumber →
    ((s.chargerTable i).order.toNat < (s.chargerTable j).order.toNat ↔
      sello i s.historial < sello j s.historial)

variable {before after : GroupState}

/-- A step that keeps the order and the admission of each charger, or clears
both. -/
theorem Ordenado.conservar (ordered : before.Ordenado)
    (chargerNumber : after.chargerNumber = before.chargerNumber)
    (each : ∀ i, i < before.chargerNumber →
      ((after.chargerTable i).order = (before.chargerTable i).order ∧
        sello i after.historial = sello i before.historial) ∨
      ((after.chargerTable i).order = 0 ∧ sello i after.historial = 0)) :
    after.Ordenado := by
  have zero : (0 : UInt8).toNat = 0 := rfl
  constructor
  · intro i below
    rw [chargerNumber] at below
    rcases each i below with ⟨sameOrder, sameSello⟩ | ⟨order, cleared⟩
    · rw [sameOrder, sameSello]
      exact ordered.admitido i below
    · simp [order, cleared]
  · intro i j belowI belowJ
    rw [chargerNumber] at belowI belowJ
    have admittedJ := ordered.admitido j belowJ
    rcases each i belowI with ⟨orderI, selloI⟩ | ⟨orderI, selloI⟩
    · rcases each j belowJ with ⟨orderJ, selloJ⟩ | ⟨orderJ, selloJ⟩
      · rw [orderI, orderJ, selloI, selloJ]
        exact ordered.orden i j belowI belowJ
      · rw [orderJ, selloJ, zero]
        omega
    · rcases each j belowJ with ⟨orderJ, selloJ⟩ | ⟨orderJ, selloJ⟩
      · rw [orderI, selloI, orderJ, selloJ, zero]
        omega
      · rw [orderI, selloI, orderJ, selloJ, zero]

/-- An admission above all orders. -/
theorem Ordenado.admitir (ordered : before.Ordenado) {i : Nat}
    (chargerNumber : after.chargerNumber = before.chargerNumber)
    (historial : after.historial = .admision i :: before.historial)
    (others : ∀ j, j < before.chargerNumber → j ≠ i →
      (after.chargerTable j).order = (before.chargerTable j).order)
    (above : ∀ j, j < before.chargerNumber → j ≠ i →
      (before.chargerTable j).order.toNat < (after.chargerTable i).order.toNat)
    (positive : 0 < (after.chargerTable i).order.toNat) :
    after.Ordenado := by
  have own : sello i after.historial = before.historial.length + 1 := by
    rw [historial, sello, if_pos rfl]
  have other : ∀ j, j ≠ i → sello j after.historial = sello j before.historial := by
    intro j different
    rw [historial, sello, if_neg (Ne.symm different)]
  constructor
  · intro j below
    rw [chargerNumber] at below
    by_cases here : j = i
    · subst here
      omega
    · rw [others j below here, other j here]
      exact ordered.admitido j below
  · intro j k belowJ belowK
    rw [chargerNumber] at belowJ belowK
    have earlierJ := sello_le j before.historial
    have earlierK := sello_le k before.historial
    by_cases hereJ : j = i
    · by_cases hereK : k = i
      · rw [hereJ, hereK]
        simp
      · have less := above k belowK hereK
        rw [others k belowK hereK, other k hereK, hereJ, own]
        omega
    · by_cases hereK : k = i
      · have less := above j belowJ hereJ
        rw [others j belowJ hereJ, other j hereJ, hereK, own]
        omega
      · rw [others j belowJ hereJ, others k belowK hereK, other j hereJ, other k hereK]
        exact ordered.orden j k belowJ belowK

end GroupState

/-! ## The pass and the assignment -/

@[simp]
theorem CaracCharger.asignado_order {charger : CaracCharger}
    (disponibleFase disponibleTotal : Nat) :
    (charger.asignado disponibleFase disponibleTotal).order = charger.order := by
  unfold asignado
  dsimp only
  split_ifs <;> rfl

section Pasada

variable {s : GroupState} (bounded : s.chargerNumber ≤ maxGroupSize)

include bounded

theorem ordenado_calculoGeneral (ordered : s.Ordenado) :
    (calculoGeneral s).estado.Ordenado := by
  rcases s.exists_expulsaVeces with ⟨rondas, _, veces⟩
  refine ordered.conservar rfl fun i below => ?_
  rw [calculoGeneral_chargerTable bounded veces, sello_calculoGeneral bounded veces,
    GroupState.tablaTras_order, GroupState.tablaContada, if_pos below,
    CaracCharger.contado_order]
  by_cases isIdle : (s.chargerTable i).hpt.idle = true
  · exact .inr ⟨by rw [if_pos isIdle], by rw [if_pos ⟨below, isIdle⟩]⟩
  · exact .inl ⟨by rw [if_neg isIdle], by rw [if_neg fun gone => isIdle gone.2]⟩

theorem ordenado_tickCalculo (ordered : s.Ordenado) : (tickCalculo s).Ordenado := by
  rcases s.exists_expulsaVeces with ⟨rondas, _, veces⟩
  have pass := ordenado_calculoGeneral bounded ordered
  by_cases empty : s.conexTras rondas = 0
  · rw [← calculoGeneral_conex bounded veces] at empty
    rw [tickCalculo_of_conex_eq_zero empty]
    exact pass.conservar rfl fun i _ => .inl ⟨rfl, rfl⟩
  · rcases tickCalculo_of_ne_zero bounded veces empty with ⟨table, history⟩
    refine pass.conservar tickCalculo_chargerNumber fun i below => .inl ⟨?_, ?_⟩
    · rw [table i below, CaracCharger.asignado_order, calculoGeneral_chargerTable bounded veces]
    · rw [history, sello_expulsiones]

end Pasada

/-! ## Admissions -/

namespace GroupState

/-- Charger `i` is admitted at rest. -/
def admiteReposo (s : GroupState) (i : Nat) : Prop :=
  (s.chargerTable i).hpt.is 'B' '1' = true ∧ (s.chargerTable i).chargeReq = true ∧
    6 ≤ repartoReposo s.params (s.chargerTable i)

instance (s : GroupState) : DecidablePred s.admiteReposo :=
  fun _ => inferInstanceAs (Decidable (_ ∧ _))

/-- A charger admitted at rest is the only one, and no other has an order. -/
def reposoOrdenado (s : GroupState) : Prop :=
  ∀ i, i < s.chargerNumber → s.admiteReposo i →
    ∀ j, j < s.chargerNumber → j ≠ i →
      ¬ s.admiteReposo j ∧ (s.chargerTable j).order.toNat = 0

instance (s : GroupState) : Decidable s.reposoOrdenado :=
  inferInstanceAs (Decidable (∀ i, i < s.chargerNumber → _))

end GroupState

section Reposo

variable {s : GroupState}

theorem reposoRound_of_admite {i : Nat} (admits : s.admiteReposo i) :
    reposoRound i s =
      { s.setCharger i { s.chargerTable i with order := 1 } with
        controlGrupoState := .calculo
        historial := .admision i :: s.historial } := by
  rcases admits with ⟨isB1, asks, fits⟩
  unfold reposoRound
  dsimp only
  rw [isB1, asks, if_pos (Bool.and_self true), if_pos fits]

theorem reposoRound_of_not {i : Nat} (admits : ¬ s.admiteReposo i) :
    ∃ consigna, reposoRound i s =
      s.setCharger i { s.chargerTable i with consigna } := by
  unfold reposoRound
  dsimp only
  split_ifs with asks fits
  · rw [Bool.and_eq_true] at asks
    exact absurd ⟨asks.1, asks.2, fits⟩ admits
  · refine ⟨(s.chargerTable i).consigna, ?_⟩
    unfold GroupState.setCharger
    rw [Function.update_eq_self]
  · exact ⟨0, rfl⟩

/-- The loop at rest when nobody but `i` is admitted. -/
theorem tickReposo_of_unico {i : Nat}
    (unico : ∀ j, j < s.chargerNumber → s.admiteReposo j → j = i) (t : Tick) :
    (∀ j, ((tickReposo t s).chargerTable j).order =
      if j = i ∧ t.rested = true ∧ i < s.chargerNumber ∧ s.admiteReposo i then 1
      else (s.chargerTable j).order) ∧
    (tickReposo t s).historial =
      if t.rested = true ∧ i < s.chargerNumber ∧ s.admiteReposo i then
        .admision i :: s.historial
      else s.historial := by
  unfold tickReposo
  by_cases rested : t.rested = true
  · have loop := @forUpTo_induction _
      (fun next (current : GroupState) => current.params = s.params ∧
        (∀ j, next ≤ j → current.chargerTable j = s.chargerTable j) ∧
        (∀ j, (current.chargerTable j).order =
          if j = i ∧ i < next ∧ s.admiteReposo i then 1 else (s.chargerTable j).order) ∧
        current.historial =
          if i < next ∧ s.admiteReposo i then .admision i :: s.historial else s.historial)
      s.chargerNumber reposoRound s ⟨rfl, fun _ _ => rfl, by simp, by simp⟩ ?round
    case round =>
      rintro index below current ⟨params, table, orders, history⟩
      have own := table index (Nat.le_refl _)
      have sameTest : current.admiteReposo index ↔ s.admiteReposo index := by
        unfold GroupState.admiteReposo
        rw [own, params]
      by_cases admits : s.admiteReposo index
      · obtain rfl := unico index below admits
        rw [reposoRound_of_admite (sameTest.mpr admits)]
        refine ⟨params, fun j later => ?_, fun j => ?_, ?_⟩
        · simp [GroupState.setCharger, (show j ≠ index by omega), table j (by omega)]
        · by_cases here : j = index
          · subst here
            simp [GroupState.setCharger, admits]
          · simp [GroupState.setCharger, here, orders]
        · simp [history, admits]
      · rcases reposoRound_of_not (mt sameTest.mp admits) with ⟨consigna, same⟩
        have sameSide : i < index + 1 ∧ s.admiteReposo i ↔ i < index ∧ s.admiteReposo i := by
          constructor
          · rintro ⟨le, admitsI⟩
            have different : i ≠ index := fun equal => admits (equal ▸ admitsI)
            exact ⟨by omega, admitsI⟩
          · rintro ⟨lt, admitsI⟩
            exact ⟨Nat.lt_succ_of_lt lt, admitsI⟩
        rw [same]
        refine ⟨params, fun j later => ?_, fun j => ?_, ?_⟩
        · simp [GroupState.setCharger, (show j ≠ index by omega), table j (by omega)]
        · simp only [sameSide]
          rw [← orders j]
          by_cases here : j = index
          · subst here
            simp [GroupState.setCharger]
          · simp [GroupState.setCharger, here]
        · simp only [sameSide]
          exact history
    rw [if_pos rested]
    simp only [rested, true_and]
    exact loop.2.2
  · simp [rested]

/-- A lone admission at rest gets the only order there is. -/
theorem ordenado_tickReposo (t : Tick) (ordered : s.Ordenado)
    (alone : t.rested = true → s.reposoOrdenado) : (tickReposo t s).Ordenado := by
  by_cases rested : t.rested = true
  · have size := tickReposo_chargerNumber t s
    by_cases someone : ∃ i, i < s.chargerNumber ∧ s.admiteReposo i
    · rcases someone with ⟨i, below, admits⟩
      have others := alone rested i below admits
      obtain ⟨orders, history⟩ := tickReposo_of_unico
        (fun j belowJ admitsJ => by_contra fun different =>
          (others j belowJ different).1 admitsJ) t
      have own := orders i
      rw [if_pos ⟨rfl, rested, below, admits⟩] at own
      have one : (1 : UInt8).toNat = 1 := rfl
      refine ordered.admitir size (history.trans (if_pos ⟨rested, below, admits⟩))
        (fun j _ different => ?_) (fun j belowJ different => ?_) ?_
      · rw [orders j, if_neg fun here => different here.1]
      · rw [(others j belowJ different).2, own, one]
        exact Nat.one_pos
      · rw [own, one]
        exact Nat.one_pos
    · obtain ⟨orders, history⟩ := tickReposo_of_unico (i := 0)
        (fun j below admits => absurd ⟨j, below, admits⟩ someone) t
      have nobody : ¬ (t.rested = true ∧ 0 < s.chargerNumber ∧ s.admiteReposo 0) :=
        fun ⟨_, below, admits⟩ => someone ⟨0, below, admits⟩
      rw [if_neg nobody] at history
      refine ordered.conservar size fun j _ => .inl ⟨?_, by rw [history]⟩
      rw [orders j, if_neg fun here => nobody here.2]
  · unfold tickReposo
    rw [if_neg rested]
    exact ordered

end Reposo

namespace GroupState

/-- The largest order among the chargers in `C2` or `B2` once charger `i` is in
`C2` too. -/
def ordenMayor (s : GroupState) (i : Nat) : Nat :=
  lastOrder s.chargerNumber
    (Function.update s.chargerTable i { s.chargerTable i with hpt := .ofText 'C' '2' })

/-- Charger `i` is the one that a loop over the requests would admit. -/
def admitiria (s : GroupState) (i : Nat) : Prop :=
  i < s.chargerNumber ∧ (s.chargerTable i).chargeReq = true ∧
    entra s (s.chargerTable i) = true ∧
    ∀ j, j < i → (s.chargerTable j).chargeReq = true → entra s (s.chargerTable j) = false

/-- The largest order among the chargers in `C2` or `B2` is the largest of all,
and not the largest that fits in a byte. -/
def ordenAlcanza (s : GroupState) (i : Nat) : Prop :=
  s.ordenMayor i < 255 ∧
    ∀ j, j < s.chargerNumber → j ≠ i → (s.chargerTable j).order.toNat ≤ s.ordenMayor i

/-- Whoever the tick admits is ordered after all others. -/
def equilibradoOrdenado (s : GroupState) : Prop :=
  s.Estable → ∀ i, (calculoGeneral s).estado.admitiria i →
    (calculoGeneral s).estado.ordenAlcanza i

end GroupState

section Equilibrado

variable {s : GroupState}

theorem ordenMayor_rechazar (hasta i : Nat) :
    (s.rechazar hasta).ordenMayor i = s.ordenMayor i := by
  have sameHpt : ∀ j, (Function.update (s.rechazar hasta).chargerTable i
      { (s.rechazar hasta).chargerTable i with hpt := .ofText 'C' '2' } j).hpt =
      (Function.update s.chargerTable i
        { s.chargerTable i with hpt := .ofText 'C' '2' } j).hpt := by
    intro j
    by_cases here : j = i
    · subst here
      simp
    · simp [here]
  have sameOrder : ∀ j, (Function.update (s.rechazar hasta).chargerTable i
      { (s.rechazar hasta).chargerTable i with hpt := .ofText 'C' '2' } j).order =
      (Function.update s.chargerTable i
        { s.chargerTable i with hpt := .ofText 'C' '2' } j).order := by
    intro j
    by_cases here : j = i
    · subst here
      simp
    · simp [here]
  unfold GroupState.ordenMayor lastOrder
  simp only [sameHpt, sameOrder]
  rfl

theorem ordenado_rechazar (hasta : Nat) (ordered : s.Ordenado) :
    (s.rechazar hasta).Ordenado := by
  refine ordered.conservar rfl fun i _ => .inl ⟨GroupState.rechazar_order hasta i, ?_⟩
  rw [GroupState.rechazar, sello_rechazos]

theorem ordenado_solicitudes (ordered : s.Ordenado)
    (above : ∀ i, s.admitiria i → s.ordenAlcanza i) : (solicitudes s).Ordenado := by
  rcases solicitudes_cases (s := s) with ⟨i, below, asks, fits, rejected, admits⟩ | ⟨_, none⟩
  · rcases above i ⟨below, asks, fits, rejected⟩ with ⟨small, largest⟩
    have order : ((admitir i (s.rechazar i)).chargerTable i).order.toNat =
        s.ordenMayor i + 1 := by
      rw [admitir_chargerTable, Function.update_self]
      change (UInt8.ofNat ((s.rechazar i).ordenMayor i + 1)).toNat = _
      rw [ordenMayor_rechazar, UInt8.toNat_ofNat']
      omega
    rw [admits]
    refine (ordenado_rechazar i ordered).admitir rfl rfl (fun j _ different => ?_)
      (fun j belowJ different => ?_) (by omega)
    · rw [admitir_chargerTable, Function.update_of_ne different]
    · rw [order, GroupState.rechazar_order]
      exact Nat.lt_succ_of_le (largest j belowJ different)
  · rw [none]
    exact ordenado_rechazar _ ordered

theorem ordenado_tickEquilibrado (t : Tick) (bounded : s.chargerNumber ≤ maxGroupSize)
    (inEquilibrado : s.controlGrupoState = .equilibrado) (ordered : s.Ordenado)
    (above : s.equilibradoOrdenado) : (tickEquilibrado t s).Ordenado := by
  have pass := ordenado_calculoGeneral bounded ordered
  by_cases estable : s.Estable
  · rw [tickEquilibrado_of_estable inEquilibrado estable]
    have search := buscarDeltas_buscaDelta t.transcurrido
      (solicitudes (calculoGeneral s).estado)
    refine (ordenado_solicitudes pass (above estable)).conservar (by rw [search.rest])
      fun i _ => .inl ⟨?_, by rw [search.rest]⟩
    rcases search.table i with ⟨delta, deltaTimer, same⟩
    rw [same]
  · obtain ⟨newData, lastConex, state, same, _⟩ := tickEquilibrado_of_not_estable (t := t) estable
    rw [same]
    exact pass.conservar rfl fun i _ => .inl ⟨rfl, rfl⟩

end Equilibrado

/-! ## Evictions -/

/-- The pass finds a charging charger with an order each time it evicts. -/
def GroupState.encuentraExpulsados (s : GroupState) : Prop :=
  ∃ rondas, rondas ≤ #s.candidatos ∧ s.cabeTras rondas

/-- The condition on a step: an admission is ordered after all others. -/
def ordenaAdmisiones (s : GroupState) : Evento → Prop
  | .tick t =>
      match s.controlGrupoState with
      | .reposo => t.rested = true → s.reposoOrdenado
      | .calculo => True
      | .equilibrado => s.equilibradoOrdenado
  | _ => True

/-- The round evicts the last one admitted of those charging, and rewrites
nobody else. -/
structure Expulsion.ExpulsaUltimo (chargerNumber : Nat) (e : Expulsion) : Prop where
  below : lastIndex chargerNumber e.chargerTable < chargerNumber
  charging : (e.chargerTable (lastIndex chargerNumber e.chargerTable)).hpt.charging = true
  ultimo : ∀ j, j < chargerNumber → j ≠ lastIndex chargerNumber e.chargerTable →
    (e.chargerTable j).hpt.charging = true →
    sello j e.historial < sello (lastIndex chargerNumber e.chargerTable) e.historial
  others : ∀ limitada j, (e.chargerTable j).hpt.charging = false →
    (expulsarUltimo chargerNumber limitada e).chargerTable j = e.chargerTable j

/-- Along a run that orders its admissions the orders follow the history. -/
theorem ordenado_of_reachable {s : GroupState}
    (reached : Reachable GroupState.Arranque
      (guarded ordenaAdmisiones (ofFunction Evento.aplicar)) s) :
    s.chargerNumber ≤ maxGroupSize ∧ s.Ordenado := by
  refine reached.invariant (fun s => s.chargerNumber ≤ maxGroupSize ∧ s.Ordenado) ?base ?step
  case base =>
    intro s start
    refine ⟨start.acotado, fun i below => ?_, fun i j belowI belowJ => ?_⟩
    · simp [start.order i below, start.historial, sello]
    · simp [start.order i belowI, start.order j belowJ, start.historial, sello]
  case step =>
    rintro s evento _ ⟨bounded, ordered⟩ ⟨meets, rfl⟩
    refine ⟨(aplicar_chargerNumber s evento).trans_le bounded, ?_⟩
    by_cases isTick : ∃ t, evento = .tick t
    · rcases isTick with ⟨t, rfl⟩
      unfold ordenaAdmisiones at meets
      unfold Evento.aplicar limiteConsumo
      cases state : s.controlGrupoState with
      | reposo =>
          rw [state] at meets
          exact ordenado_tickReposo t ordered meets
      | calculo => exact ordenado_tickCalculo bounded ordered
      | equilibrado =>
          rw [state] at meets
          exact ordenado_tickEquilibrado t bounded state ordered meets
    · have keeps := aplicar_mantiene s (not_exists.mp isTick)
      exact ordered.conservar keeps.chargerNumber fun i _ =>
        .inl ⟨keeps.order i, by rw [keeps.historial]⟩

/-- No charging charger has a larger order than the one the search finds. -/
theorem order_le_lastIndex {chargerNumber j : Nat} {chargerTable : Nat → CaracCharger}
    (below : j < chargerNumber) (charges : (chargerTable j).hpt.charging = true) :
    (chargerTable j).order.toNat ≤
      (chargerTable (lastIndex chargerNumber chargerTable)).order.toNat := by
  have spec := scanMax_spec (fun j => (chargerTable j).hpt.charging)
    (fun j => (chargerTable j).order.toNat) chargerNumber
  have upper := spec.upper j below charges
  unfold lastIndex
  rcases Nat.eq_zero_or_pos (scanMax (fun j => (chargerTable j).hpt.charging)
    (fun j => (chargerTable j).order.toNat) chargerNumber).1 with zero | positive
  · omega
  · rcases spec.attained positive with ⟨_, _, attains, _⟩
    omega

/-- Along a run that orders its admissions, each round of the eviction loop of a
pass that finds those it evicts takes the last one admitted. -/
theorem expulsa_ultimo_admitido {s : GroupState}
    (reached : Reachable GroupState.Arranque
      (guarded ordenaAdmisiones (ofFunction Evento.aplicar)) s)
    (finds : s.encuentraExpulsados) {e : Expulsion}
    (head : Heads sigueExpulsando (expulsarUltimo s.chargerNumber (limitada s))
      (expulsionInicial s) e)
    (enters : sigueExpulsando e = true) : e.ExpulsaUltimo s.chargerNumber := by
  rcases ordenado_of_reachable reached with ⟨bounded, ordered⟩
  rcases (heads_expulsion_iff bounded).mp head with ⟨rondas, before, rfl⟩
  rcases finds with ⟨enough, found, fits⟩
  -- the loop has not reached the round that ends it
  have remains : rondas < #s.candidatos := by
    have unfit := (sigueExpulsando_trasRondas bounded rondas).mp enters
    by_contra beyond
    rcases Nat.lt_or_ge enough rondas with earlier | later
    · exact before enough earlier fits
    · exact unfit ((show enough = rondas by omega) ▸ fits)
  rcases GroupState.lastIndex_tablaTras remains with ⟨member, position⟩
  rcases GroupState.mem_candidatos.mp member with ⟨below, charges, positive⟩
  have still : (s.tablaTras rondas
      (lastIndex s.chargerNumber (s.tablaTras rondas))).hpt.charging = true := by
    rw [GroupState.tablaTras_charging_iff, GroupState.expulsadoTras_iff_of_le remains.le]
    exact ⟨charges, fun evicted => absurd evicted.2 (by omega)⟩
  have unchanged : ∀ j, (s.tablaTras rondas j).hpt.charging = true →
      (s.tablaTras rondas j).order = (s.chargerTable j).order ∧
        sello j (trasRondas s rondas).historial = sello j s.historial := by
    intro j chargesJ
    have chargedJ := (GroupState.tablaTras_charging_iff.mp chargesJ).1
    have awake := Hpt.idle_eq_false_of_connected (Hpt.connected_of_charging chargedJ)
    rw [GroupState.tablaTras_order, GroupState.tablaContada_order_of_charging chargedJ,
      sello_trasRondas, if_neg (by simp [awake])]
    exact ⟨rfl, rfl⟩
  rw [← trasRondas_chargerTable] at below still member positive
  constructor
  · exact below
  · exact still
  · intro j belowJ different chargesJ
    have le := order_le_lastIndex belowJ chargesJ
    rw [trasRondas_chargerTable] at le chargesJ still below positive different ⊢
    rcases unchanged j chargesJ with ⟨orderJ, selloJ⟩
    rcases unchanged _ still with ⟨order, sello'⟩
    rw [selloJ, sello']
    rw [orderJ, order] at le
    -- equal orders would mean the same admission
    rcases Nat.lt_or_eq_of_le le with less | equal
    · exact (ordered.orden j _ belowJ below).mp less
    · have notLess := (ordered.orden j _ belowJ below).not.mp (by omega)
      have notMore := (ordered.orden _ j below belowJ).not.mp (by omega)
      have admitted := (ordered.admitido j belowJ).not.mp (by omega)
      exact absurd (sello_injective (by omega) (Nat.pos_of_ne_zero admitted)) different
  · intro limitada j idle
    refine Function.update_of_ne ?_ _ _
    rintro rfl
    rw [still] at idle
    exact absurd idle (by simp)

/-- The second charger is admitted at rest, and before it charges the current of
the group falls below 6 A: the search finds nobody and the loop evicts the
first charger, which is not even connected. -/
def nadieCargando : GroupState :=
  [.informe (.enEstado 'B' '1' 2 true), .tick ⟨true, 0⟩, .parametros (some ⟨0, 0, 10⟩)].foldl
    Evento.aplicar (grupoDe 2)

theorem nadieCargando_expulsa_otro :
    Reachable GroupState.Arranque (ofFunction Evento.aplicar) nadieCargando ∧
      Heads sigueExpulsando
        (expulsarUltimo nadieCargando.chargerNumber (limitada nadieCargando))
        (expulsionInicial nadieCargando) (expulsionInicial nadieCargando) ∧
      sigueExpulsando (expulsionInicial nadieCargando) = true ∧
      ¬ (expulsionInicial nadieCargando).ExpulsaUltimo nadieCargando.chargerNumber :=
  ⟨(Reachable.start (grupoDe_arranque (by decide))).foldl _, .first, by decide,
    fun evicts => absurd evicts.charging (by decide)⟩

/-- A charger alone is admitted, charges, and the current of the group falls. -/
def unoCargando : GroupState :=
  [.informe (.enEstado 'B' '1' 1 true), .tick ⟨true, 0⟩, .informe (.enEstado 'C' '2' 1 false),
    .parametros (some ⟨0, 0, 10⟩)].foldl Evento.aplicar (grupoDe 1)

theorem unoCargando_expulsa_ultimo :
    (expulsionInicial unoCargando).ExpulsaUltimo unoCargando.chargerNumber := by
  have start : Reachable GroupState.Arranque
      (guarded ordenaAdmisiones (ofFunction Evento.aplicar)) (grupoDe 1) :=
    .start (grupoDe_arranque (by decide))
  have asked := @Reachable.next _ _ _ _ _ (Evento.informe (.enEstado 'B' '1' 1 true)) _ start
    ⟨trivial, rfl⟩
  have admitted := @Reachable.next _ _ _ _ _ (Evento.tick ⟨true, 0⟩) _ asked
    ⟨fun _ => by decide, rfl⟩
  have charges := @Reachable.next _ _ _ _ _ (Evento.informe (.enEstado 'C' '2' 1 false)) _
    admitted ⟨trivial, rfl⟩
  have reduced := @Reachable.next _ _ _ _ _ (Evento.parametros (some ⟨0, 0, 10⟩)) _ charges
    ⟨trivial, rfl⟩
  exact expulsa_ultimo_admitido reduced ⟨1, by decide, by decide⟩ .first (by decide)

end VeltiumCharger.Group
