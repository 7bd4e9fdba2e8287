import VeltiumCharger.Group.LimiteConsumo

/-!
# What an `EQUILIBRADO` tick can do

The tick runs the pass and returns early when something must be recomputed.
Otherwise it goes through the requests, rejecting those for which there is no
room until it admits one, and then looks for chargers that do not use their
setpoint.
-/

namespace VeltiumCharger.Group

open VeltiumCharger.Loop

/-! ## The check of the phases -/

section Fases

variable (s : GroupState)

/-- Phase `i` of circuit `j` carries, or has been assigned, more than the limit of
the circuit. -/
def GroupState.excede (j i : Nat) : Prop :=
  (s.circuitos j).limiteCorriente.toNat < ((s.circuitos j).fases i).corrienteTotal ∨
    (s.circuitos j).limiteCorriente.toNat < ((s.circuitos j).fases i).consignaTotal

/-- Some phase of a circuit of the group exceeds its limit. -/
def GroupState.faseExcedida : Prop :=
  ∃ j, j < s.circuitNumber ∧ ∃ i, i < 3 ∧ s.excede j i

variable {s}

theorem comprobarFase_of_excede {j i : Nat} (exceeds : s.excede j i) :
    comprobarFase j i s = .done { s with controlGrupoState := .calculo } := by
  unfold comprobarFase
  dsimp only
  rw [if_pos]
  simpa [GroupState.excede] using exceeds

theorem comprobarFase_of_not {j i : Nat} (within : ¬ s.excede j i) :
    comprobarFase j i s = .yield s := by
  unfold comprobarFase
  dsimp only
  rw [if_neg]
  simpa [GroupState.excede] using within

/-- The check of one circuit. -/
theorem comprobarCircuito_cases (s : GroupState) (j : Nat) :
    ((∀ i, i < 3 → ¬ s.excede j i) ∧ result (forBreak 3 (comprobarFase j) s) = s) ∨
      ((∃ i, i < 3 ∧ s.excede j i) ∧
        result (forBreak 3 (comprobarFase j) s) = { s with controlGrupoState := .calculo }) := by
  have loop := @forBreak_induction _
    (fun next current => current = s ∧ ∀ i, i < next → ¬ s.excede j i)
    (fun i left => s.excede j i ∧ left = { s with controlGrupoState := .calculo })
    3 (comprobarFase j) s ⟨rfl, fun _ below => absurd below (Nat.not_lt_zero _)⟩ ?round
  case round =>
    rintro i _ current ⟨same, within⟩
    subst same
    by_cases exceeds : current.excede j i
    · rw [comprobarFase_of_excede exceeds]
      refine ⟨fun _ goesOn => ?_, fun _ breaks => ?_⟩
      · cases goesOn
      · cases breaks
        exact ⟨exceeds, rfl⟩
    · rw [comprobarFase_of_not exceeds]
      refine ⟨fun _ goesOn => ?_, fun _ breaks => ?_⟩
      · cases goesOn
        refine ⟨rfl, fun k below => ?_⟩
        rcases Nat.lt_succ_iff_lt_or_eq.mp below with earlier | rfl
        · exact within k earlier
        · exact exceeds
      · cases breaks
  cases ended : forBreak 3 (comprobarFase j) s with
  | yield final =>
      rcases loop.1 final ended with ⟨rfl, within⟩
      exact .inl ⟨within, rfl⟩
  | done final =>
      rcases loop.2 final ended with ⟨i, below, exceeds, rfl⟩
      exact .inr ⟨⟨i, below, exceeds⟩, rfl⟩

/-- The check sends the task back to `CALCULO` exactly when a phase is exceeded. -/
theorem comprobarFases_cases :
    (¬ s.faseExcedida ∧ comprobarFases s = s) ∨
      (s.faseExcedida ∧ comprobarFases s = { s with controlGrupoState := .calculo }) := by
  have loop := @forUpTo_induction _
    (fun next current => (current = s ∧ ∀ j, j < next → ∀ i, i < 3 → ¬ s.excede j i) ∨
      (s.faseExcedida ∧ current = { s with controlGrupoState := .calculo }))
    s.circuitNumber (fun j current => result (forBreak 3 (comprobarFase j) current)) s
    (.inl ⟨rfl, fun _ below => absurd below (Nat.not_lt_zero _)⟩) ?round
  case round =>
    rintro j below current (⟨rfl, within⟩ | ⟨exceeded, rfl⟩)
    · rcases comprobarCircuito_cases current j with ⟨own, same⟩ | ⟨exceeds, same⟩
      · refine .inl ⟨same, fun k belowK => ?_⟩
        rcases Nat.lt_succ_iff_lt_or_eq.mp belowK with earlier | rfl
        · exact within k earlier
        · exact own
      · exact .inr ⟨⟨j, below, exceeds⟩, same⟩
    · rcases comprobarCircuito_cases { s with controlGrupoState := .calculo } j with
        ⟨_, same⟩ | ⟨_, same⟩ <;> exact .inr ⟨exceeded, same⟩
  rcases loop with ⟨same, within⟩ | exceeded
  · exact .inl ⟨fun ⟨j, belowJ, i, belowI, exceeds⟩ => within j belowJ i belowI exceeds, same⟩
  · exact .inr exceeded

end Fases

/-! ## The loop over the requests -/

/-- The requests below `hasta` have been rejected. -/
def GroupState.rechazar (s : GroupState) (hasta : Nat) : GroupState :=
  { s with
    chargerTable := fun j =>
      if j < hasta ∧ (s.chargerTable j).chargeReq = true then
        { s.chargerTable j with consigna := 0 }
      else s.chargerTable j
    historial :=
      ((List.range hasta).reverse.filter fun j => (s.chargerTable j).chargeReq).map .rechazo ++
        s.historial }

section Solicitudes

variable {s : GroupState}

@[simp]
theorem GroupState.rechazar_zero : s.rechazar 0 = s := by
  simp [rechazar]

theorem GroupState.rechazar_of_le {hasta i : Nat} (le : hasta ≤ i) :
    (s.rechazar hasta).chargerTable i = s.chargerTable i := by
  simp [rechazar, Nat.not_lt.mpr le]

@[simp]
theorem GroupState.rechazar_hpt (hasta i : Nat) :
    ((s.rechazar hasta).chargerTable i).hpt = (s.chargerTable i).hpt := by
  unfold rechazar
  dsimp only
  split_ifs <;> rfl

@[simp]
theorem GroupState.rechazar_order (hasta i : Nat) :
    ((s.rechazar hasta).chargerTable i).order = (s.chargerTable i).order := by
  unfold rechazar
  dsimp only
  split_ifs <;> rfl

theorem GroupState.rechazar_succ_of_not {hasta : Nat}
    (silent : (s.chargerTable hasta).chargeReq = false) :
    s.rechazar (hasta + 1) = s.rechazar hasta := by
  have same : ∀ j, (j < hasta + 1 ∧ (s.chargerTable j).chargeReq = true) ↔
      (j < hasta ∧ (s.chargerTable j).chargeReq = true) := by
    intro j
    constructor
    · rintro ⟨below, asks⟩
      rcases Nat.lt_succ_iff_lt_or_eq.mp below with earlier | rfl
      · exact ⟨earlier, asks⟩
      · exact absurd asks (by simp [silent])
    · exact fun ⟨below, asks⟩ => ⟨Nat.lt_succ_of_lt below, asks⟩
  unfold rechazar
  simp only [same]
  simp [List.range_succ, silent]

theorem GroupState.rechazar_succ_of_asks {hasta : Nat}
    (asks : (s.chargerTable hasta).chargeReq = true) :
    s.rechazar (hasta + 1) =
      { (s.rechazar hasta).setCharger hasta { s.chargerTable hasta with consigna := 0 } with
        historial := .rechazo hasta :: (s.rechazar hasta).historial } := by
  have table : (s.rechazar (hasta + 1)).chargerTable =
      Function.update (s.rechazar hasta).chargerTable hasta
        { s.chargerTable hasta with consigna := 0 } := by
    funext j
    by_cases here : j = hasta
    · subst here
      simp [rechazar, asks]
    · have sameSide : j < hasta + 1 ↔ j < hasta := by omega
      rw [Function.update_of_ne here]
      unfold rechazar
      simp only [sameSide]
  have history : (s.rechazar (hasta + 1)).historial =
      .rechazo hasta :: (s.rechazar hasta).historial := by
    simp [rechazar, List.range_succ, asks]
  unfold setCharger
  rw [← table, ← history]
  rfl

/-- Rejections change nothing that the admission test reads. -/
@[simp]
theorem entra_rechazar (hasta : Nat) (charger : CaracCharger) :
    entra (s.rechazar hasta) charger = entra s charger :=
  rfl

/-- A round that finds room for a request admits it and leaves the loop. -/
theorem solicitudRound_of_entra {i : Nat} (asks : (s.chargerTable i).chargeReq = true)
    (fits : entra s (s.chargerTable i) = true) :
    solicitudRound i (s.rechazar i) = .done (admitir i (s.rechazar i)) := by
  unfold solicitudRound
  dsimp only
  rw [GroupState.rechazar_of_le (Nat.le_refl i), entra_rechazar, if_pos asks, if_pos fits]

/-- Any other round goes on, and rejects the request if there is one. -/
theorem solicitudRound_of_not {i : Nat}
    (full : (s.chargerTable i).chargeReq = true → entra s (s.chargerTable i) = false) :
    solicitudRound i (s.rechazar i) = .yield (s.rechazar (i + 1)) := by
  unfold solicitudRound
  dsimp only
  rw [GroupState.rechazar_of_le (Nat.le_refl i), entra_rechazar]
  by_cases asks : (s.chargerTable i).chargeReq = true
  · rw [if_pos asks, if_neg (by simp [full asks]), GroupState.rechazar_succ_of_asks asks]
  · rw [if_neg asks, GroupState.rechazar_succ_of_not (by simpa using asks)]

/-- The loop rejects requests up to the first for which there is room, and
admits that one. -/
theorem solicitudes_cases :
    (∃ i, i < s.chargerNumber ∧ (s.chargerTable i).chargeReq = true ∧
        entra s (s.chargerTable i) = true ∧
        (∀ j, j < i → (s.chargerTable j).chargeReq = true →
          entra s (s.chargerTable j) = false) ∧
        solicitudes s = admitir i (s.rechazar i)) ∨
      ((∀ j, j < s.chargerNumber → (s.chargerTable j).chargeReq = true →
          entra s (s.chargerTable j) = false) ∧
        solicitudes s = s.rechazar s.chargerNumber) := by
  have loop := @forBreak_induction _
    (fun next current => current = s.rechazar next ∧
      ∀ j, j < next → (s.chargerTable j).chargeReq = true →
        entra s (s.chargerTable j) = false)
    (fun i left => (s.chargerTable i).chargeReq = true ∧
      entra s (s.chargerTable i) = true ∧
      (∀ j, j < i → (s.chargerTable j).chargeReq = true →
        entra s (s.chargerTable j) = false) ∧
      left = admitir i (s.rechazar i))
    s.chargerNumber solicitudRound s
    ⟨s.rechazar_zero.symm, fun _ below => absurd below (Nat.not_lt_zero _)⟩ ?round
  case round =>
    rintro i _ current ⟨same, rejected⟩
    subst same
    by_cases admits : (s.chargerTable i).chargeReq = true ∧ entra s (s.chargerTable i) = true
    · rw [solicitudRound_of_entra admits.1 admits.2]
      constructor
      · intro next yields
        cases yields
      · intro left stops
        cases stops
        exact ⟨admits.1, admits.2, rejected, rfl⟩
    · have full : (s.chargerTable i).chargeReq = true → entra s (s.chargerTable i) = false := by
        simpa using admits
      rw [solicitudRound_of_not full]
      constructor
      · intro next yields
        cases yields
        refine ⟨rfl, fun j below asks => ?_⟩
        rcases Nat.lt_succ_iff_lt_or_eq.mp below with earlier | rfl
        · exact rejected j earlier asks
        · exact full asks
      · intro left stops
        cases stops
  unfold solicitudes
  cases ended : forBreak s.chargerNumber solicitudRound s with
  | done left =>
      rcases loop.2 left ended with ⟨i, below, asks, fits, rejected, rfl⟩
      exact .inl ⟨i, below, asks, fits, rejected, rfl⟩
  | yield final =>
      rcases loop.1 final ended with ⟨rfl, rejected⟩
      exact .inr ⟨rejected, rfl⟩

/-- The loop admits the first charger that asks and for which there is room. -/
theorem solicitudes_of_primero {i : Nat} (below : i < s.chargerNumber)
    (asks : (s.chargerTable i).chargeReq = true)
    (fits : entra s (s.chargerTable i) = true)
    (first : ∀ k, k < i → (s.chargerTable k).chargeReq = true →
      entra s (s.chargerTable k) ≠ true) :
    solicitudes s = admitir i (s.rechazar i) := by
  rcases solicitudes_cases (s := s) with
    ⟨k, _, asksK, fitsK, firstK, admits⟩ | ⟨nobody, _⟩
  · rcases Nat.lt_trichotomy k i with before | rfl | after
    · exact absurd fitsK (first k before asksK)
    · exact admits
    · rw [firstK i after asks] at fits
      contradiction
  · rw [nobody i below asks] at fits
    contradiction

end Solicitudes

/-- The order an admission gives to charger `i`: one more than the largest among
the chargers then in `C2` or `B2`, itself included. -/
def GroupState.ordenNuevo (s : GroupState) (i : Nat) : UInt8 :=
  UInt8.ofNat (lastOrder s.chargerNumber
    (Function.update s.chargerTable i
      { s.chargerTable i with hpt := .ofText 'C' '2' }) + 1)

theorem admitir_chargerTable (s : GroupState) (i : Nat) :
    (admitir i s).chargerTable =
      Function.update s.chargerTable i
        { s.chargerTable i with hpt := .ofText 'C' '2', order := s.ordenNuevo i } := by
  unfold admitir GroupState.setCharger GroupState.ordenNuevo
  simp only [Function.update_self, Function.update_idem]

/-! ## The search for unused current -/

/-- The record differs at most in what the search for unused current keeps. -/
def CaracCharger.SoloDelta (before after : CaracCharger) : Prop :=
  ∃ delta deltaTimer, after = { before with delta := delta, deltaTimer := deltaTimer }

theorem CaracCharger.SoloDelta.refl (charger : CaracCharger) : charger.SoloDelta charger :=
  ⟨charger.delta, charger.deltaTimer, rfl⟩

/-- The search rewrites `Delta` and `Delta_timer` and may ask for a new
assignment. -/
structure GroupState.BuscaDelta (before after : GroupState) : Prop where
  rest : after = { before with
    chargerTable := after.chargerTable, controlGrupoState := after.controlGrupoState }
  table : ∀ i, (before.chargerTable i).SoloDelta (after.chargerTable i)
  state : after.controlGrupoState = before.controlGrupoState ∨
    after.controlGrupoState = .calculo

theorem deltaRound_buscaDelta (transcurrido : UInt16) (i : Nat) (s : GroupState) :
    s.BuscaDelta (deltaRound transcurrido i s) := by
  have one : ∀ charger, (s.chargerTable i).SoloDelta charger →
      ∀ j, (s.chargerTable j).SoloDelta (Function.update s.chargerTable i charger j) := by
    intro charger only j
    by_cases here : j = i
    · subst here
      simpa using only
    · rw [Function.update_of_ne here]
      exact .refl _
  unfold deltaRound GroupState.setCharger
  dsimp only
  split_ifs
  · exact ⟨rfl, one _ ⟨_, _, rfl⟩, .inr rfl⟩
  · exact ⟨rfl, one _ ⟨_, _, rfl⟩, .inl rfl⟩
  · exact ⟨rfl, one _ ⟨_, _, rfl⟩, .inr rfl⟩
  · exact ⟨rfl, one _ ⟨_, _, rfl⟩, .inl rfl⟩
  · exact ⟨rfl, fun _ => .refl _, .inl rfl⟩

theorem GroupState.BuscaDelta.trans {first second third : GroupState}
    (before : first.BuscaDelta second) (after : second.BuscaDelta third) :
    first.BuscaDelta third where
  rest := by rw [after.rest, before.rest]
  table i := by
    rcases before.table i with ⟨_, _, same⟩
    rcases after.table i with ⟨delta, deltaTimer, same'⟩
    exact ⟨delta, deltaTimer, by rw [same', same]⟩
  state := by
    rcases after.state with same | calculo
    · rw [same]
      exact before.state
    · exact .inr calculo

theorem buscarDeltas_buscaDelta (transcurrido : UInt16) (s : GroupState) :
    s.BuscaDelta (buscarDeltas transcurrido s) := by
  unfold buscarDeltas
  split_ifs
  · refine forUpTo_induction (fun _ current => s.BuscaDelta current)
      ⟨rfl, fun _ => .refl _, .inl rfl⟩ ?_
    exact fun i _ current kept => kept.trans (deltaRound_buscaDelta transcurrido i current)
  · exact ⟨rfl, fun _ => .refl _, .inl rfl⟩

/-! ## The tick -/

/-- An `EQUILIBRADO` tick that does not return early: nothing must be
recomputed, nobody has come or gone, and no limit is exceeded. -/
structure GroupState.Estable (s : GroupState) : Prop where
  sinRecalcular : (calculoGeneral s).recalcular = false
  sinDatos : s.newData = false
  mismos : s.lastConex = (calculoGeneral s).estado.conex
  alguien : (calculoGeneral s).estado.conex ≠ 0
  consumo : (calculoGeneral s).estado.consumoTotal ≤
    (calculoGeneral s).estado.corrienteDisponibleLimitada
  fases : (comprobarFases (calculoGeneral s).estado).controlGrupoState ≠ .calculo

section TickEquilibrado

variable {t : Tick} {s : GroupState}

theorem tickEquilibrado_of_estable (inEquilibrado : s.controlGrupoState = .equilibrado)
    (estable : s.Estable) :
    tickEquilibrado t s =
      buscarDeltas t.transcurrido (solicitudes (calculoGeneral s).estado) := by
  have samePhases : comprobarFases (calculoGeneral s).estado = (calculoGeneral s).estado := by
    rcases comprobarFases_cases (s := (calculoGeneral s).estado) with ⟨_, same⟩ | ⟨_, exceeded⟩
    · exact same
    · exact absurd (by rw [exceeded]) estable.fases
  have running : (calculoGeneral s).estado.controlGrupoState = .equilibrado := inEquilibrado
  have sinDatos : (calculoGeneral s).estado.newData = false := estable.sinDatos
  have mismos : (calculoGeneral s).estado.lastConex = (calculoGeneral s).estado.conex :=
    estable.mismos
  unfold tickEquilibrado
  dsimp only
  rw [estable.sinRecalcular, sinDatos, if_neg (by simp), if_neg (by simp [mismos, estable.alguien]),
    if_neg (Nat.not_lt.mpr estable.consumo), samePhases, if_neg (by simp [running])]

/-- Otherwise the tick only runs the pass and decides the next state: a new
assignment, or rest with nobody left. -/
theorem tickEquilibrado_of_not_estable (unstable : ¬ s.Estable) :
    ∃ newData lastConex controlGrupoState, tickEquilibrado t s =
        { (calculoGeneral s).estado with newData, lastConex, controlGrupoState } ∧
      (controlGrupoState = .calculo ∨
        controlGrupoState = .reposo ∧ (calculoGeneral s).estado.conex = 0) := by
  unfold tickEquilibrado
  dsimp only
  split_ifs with recalcula cambia nadie excede fases
  · exact ⟨_, _, _, rfl, .inl rfl⟩
  · exact ⟨_, _, _, rfl, .inr ⟨rfl, nadie⟩⟩
  · exact ⟨_, _, _, rfl, .inl rfl⟩
  · exact ⟨_, _, _, rfl, .inl rfl⟩
  · rcases comprobarFases_cases (s := (calculoGeneral s).estado) with ⟨_, same⟩ | ⟨_, exceeded⟩
    · rw [same] at fases ⊢
      exact ⟨_, _, _, rfl, .inl fases⟩
    · rw [exceeded]
      exact ⟨_, _, _, rfl, .inl rfl⟩
  · simp only [Bool.or_eq_true, not_or, Bool.not_eq_true, ne_eq, not_not] at recalcula cambia
    exact absurd ⟨recalcula.1, recalcula.2, cambia.1, cambia.2, Nat.not_lt.mp excede, fases⟩
      unstable

end TickEquilibrado

end VeltiumCharger.Group
