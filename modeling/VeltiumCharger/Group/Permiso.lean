import VeltiumCharger.Group.Consignas
import VeltiumCharger.Group.Equilibrado
import VeltiumCharger.Group.Historia
import VeltiumCharger.Group.Maestro

/-!
# Permission to charge

The permission sent to a charger is computed from its setpoint when it reports.
A setpoint above zero is meant to say that the charger has been admitted; it
does as long as no assignment gives current to a charger that only waits.
-/

namespace VeltiumCharger.Group

open VeltiumCharger.Loop VeltiumCharger.Run

namespace GroupState

/-- Charger `i` has been admitted, has not been evicted or rejected since, and
has a setpoint of at least 6 A. -/
structure Admitido (s : GroupState) (i : Nat) : Prop where
  vigente : vigente i s.historial = true
  consigna : 6 ≤ (s.chargerTable i).consigna.toNat

/-- Only admitted chargers have a setpoint. -/
def SoloAdmitidos (s : GroupState) : Prop :=
  ∀ i, i < s.chargerNumber → (s.chargerTable i).consigna = 0 ∨ s.Admitido i

/-- A step that keeps or clears each setpoint, and ends no admission whose
setpoint it keeps. -/
theorem SoloAdmitidos.mono {before after : GroupState} (only : before.SoloAdmitidos)
    (chargerNumber : after.chargerNumber = before.chargerNumber)
    (each : ∀ i, i < before.chargerNumber → (after.chargerTable i).consigna = 0 ∨
      ((after.chargerTable i).consigna = (before.chargerTable i).consigna ∧
        (vigente i before.historial = true → vigente i after.historial = true))) :
    after.SoloAdmitidos := by
  intro i below
  rw [chargerNumber] at below
  rcases each i below with cleared | ⟨same, lasts⟩
  · exact .inl cleared
  · rcases only i below with zero | admitted
    · exact .inl (same.trans zero)
    · exact .inr ⟨lasts admitted.vigente, same ▸ admitted.consigna⟩

end GroupState

/-! ## The pass -/

section Pasada

variable {s : GroupState} (bounded : s.chargerNumber ≤ maxGroupSize)

include bounded

theorem soloAdmitidos_calculoGeneral (only : s.SoloAdmitidos) :
    (calculoGeneral s).estado.SoloAdmitidos := by
  rcases s.exists_expulsaVeces with ⟨rondas, _, veces⟩
  refine only.mono rfl fun i below => ?_
  rw [vigente_calculoGeneral bounded veces, calculoGeneral_chargerTable bounded veces,
    GroupState.tablaTras]
  split_ifs with evicted
  · exact .inl rfl
  · rw [GroupState.tablaContada, if_pos below]
    unfold CaracCharger.contado
    split_ifs
    · exact .inr ⟨rfl, fun valid => ⟨valid, evicted⟩⟩
    · exact .inr ⟨rfl, fun valid => ⟨valid, evicted⟩⟩
    · exact .inl rfl
    · exact .inr ⟨rfl, fun valid => ⟨valid, evicted⟩⟩

end Pasada

/-! ## The ticks -/

theorem soloAdmitidos_tickReposo {s : GroupState} (t : Tick) (only : s.SoloAdmitidos) :
    (tickReposo t s).SoloAdmitidos := by
  unfold tickReposo
  split_ifs
  · apply forUpTo_induction (fun _ (current : GroupState) => current.SoloAdmitidos) only
    intro i _ current kept
    unfold reposoRound
    dsimp only
    split_ifs with asks fits
    · -- an admission keeps the setpoint the charger may have
      refine kept.mono rfl fun j _ => .inr ⟨?_, ?_⟩
      · by_cases here : j = i
        · subst here
          simp [GroupState.setCharger]
        · simp [GroupState.setCharger, here]
      · intro valid
        rw [vigente_admision, valid, Bool.or_true]
    · exact kept
    · refine kept.mono rfl fun j _ => ?_
      by_cases here : j = i
      · subst here
        exact .inl (by simp [GroupState.setCharger])
      · exact .inr ⟨by simp [GroupState.setCharger, here], id⟩
  · exact only

namespace GroupState

/-- There is no current for charger `i`: its phase has less than 1 A for it, or the group. -/
def sinCorriente (s : GroupState) (rondas i : Nat) : Prop :=
  s.disponiblePropia i = 0 ∨ s.agotadoSinCuota rondas

instance (s : GroupState) (rondas i : Nat) : Decidable (s.sinCorriente rondas i) :=
  inferInstanceAs (Decidable (_ ∨ _))

/-- What a `CALCULO` tick that goes on to assign meets: the chargers it has just evicted and
those that wait in `C2` or in a `B` state without an admission have no current or are
three-phase ones to be dropped, and no phase leaves a single-phase charger less than 6 A. -/
structure AsignaAdmitidos (s : GroupState) (rondas : Nat) : Prop where
  expulsados : ∀ i, i < s.chargerNumber → s.expulsadoTras rondas i → s.sinCorriente rondas i
  esperan : ∀ i, i < s.chargerNumber → (s.chargerTable i).hpt.assigned = true →
    vigente i s.historial = false → s.sinCorriente rondas i ∨
      (s.chargerTable i).threePhase = true ∧
        (s.unidadesTras rondas = 0 ∨ s.disponiblePropia i < 6)
  rango : ∀ i, i < s.chargerNumber → (s.chargerTable i).hpt.assigned = true →
    (s.chargerTable i).threePhase = true ∨ s.cuotasEnRango rondas i

/-- A `CALCULO` tick goes on to assign only when it meets this. -/
def asignaAdmitidos (s : GroupState) : Prop :=
  ∀ rondas, s.expulsaVeces rondas → s.conexTras rondas ≠ 0 → s.AsignaAdmitidos rondas

section Reparto

variable {s : GroupState} (bounded : s.chargerNumber ≤ maxGroupSize) {rondas : Nat}
  (veces : s.expulsaVeces rondas) (present : s.conexTras rondas ≠ 0)

include bounded veces present

/-- Where there is no current the smaller share is none. -/
theorem sinCorriente.min_eq_zero {i : Nat} (none : s.sinCorriente rondas i) :
    min (s.disponiblePropia i) (s.cuotaTras rondas) = 0 := by
  rcases none with none | none
  · rw [none]
    exact Nat.zero_min _
  · have share := (cuotasEnRango_iff bounded veces present i).mpr (.inr (.inl none))
    rcases cuotaTras_cases bounded veces present with ⟨some, -⟩ | ⟨-, -, -, small⟩
    · exact absurd none.1 some.ne'
    · omega

/-- Whoever is given a setpoint has been admitted, stays, and is given 6 A at least; the
others get none or are dropped. -/
theorem AsignaAdmitidos.reparte (assigns : s.AsignaAdmitidos rondas) {i : Nat}
    (below : i < s.chargerNumber) (isAssigned : (s.tablaTras rondas i).hpt.assigned = true) :
    min (min (s.disponiblePropia i) (s.cuotaTras rondas)) 32 = 0 ∨
      ((s.tablaTras rondas i).threePhase = true ∧
        min (min (s.disponiblePropia i) (s.cuotaTras rondas)) 32 < 6) ∨
      (vigente i s.historial = true ∧ ¬ s.expulsadoTras rondas i ∧
        6 ≤ min (min (s.disponiblePropia i) (s.cuotaTras rondas)) 32) := by
  have receives := tablaTras_assigned.mp isAssigned
  have threePhase := tablaTras_threePhase receives
  by_cases gone : s.expulsadoTras rondas i
  · have none := (assigns.expulsados i below gone).min_eq_zero bounded veces present
    omega
  · have before := receives.resolve_left gone
    cases admitted : vigente i s.historial with
    | false =>
        rcases assigns.esperan i below before admitted with none | ⟨isThreePhase, few⟩
        · have zero := none.min_eq_zero bounded veces present
          omega
        · refine .inr (.inl ⟨threePhase.mpr ⟨gone, isThreePhase⟩, ?_⟩)
          rcases cuotaTras_cases bounded veces present with ⟨some, -⟩ | ⟨-, -, -, small⟩
          · omega
          · omega
    | true =>
        by_cases few : min (min (s.disponiblePropia i) (s.cuotaTras rondas)) 32 < 6
        · rcases assigns.rango i below before with isThreePhase | share
          · exact .inr (.inl ⟨threePhase.mpr ⟨gone, isThreePhase⟩, few⟩)
          · have right := (cuotasEnRango_iff bounded veces present i).mpr share
            omega
        · exact .inr (.inr ⟨rfl, gone, Nat.not_lt.mp few⟩)

end Reparto

end GroupState

/-- Chargers that fall below 6 A in the assignment lose their setpoint with
their admission. -/
theorem soloAdmitidos_tickCalculo {s : GroupState} (bounded : s.chargerNumber ≤ maxGroupSize)
    (only : s.SoloAdmitidos) (assigns : s.asignaAdmitidos) :
    (tickCalculo s).SoloAdmitidos := by
  obtain ⟨rondas, -, veces⟩ := s.exists_expulsaVeces
  have pass := soloAdmitidos_calculoGeneral bounded only
  by_cases empty : s.conexTras rondas = 0
  · rw [← calculoGeneral_conex bounded veces] at empty
    rw [tickCalculo_of_conex_eq_zero empty]
    exact pass.mono rfl fun i _ => .inr ⟨rfl, id⟩
  · have reparte := assigns rondas veces empty
    rcases tickCalculo_of_ne_zero bounded veces empty with ⟨table, history⟩
    intro i below
    rw [tickCalculo_chargerNumber] at below
    have cell := table i below
    rw [disponibleFase_eq bounded] at cell
    -- who falls has no setpoint, and the history tells of nobody else
    by_cases falls : (s.tablaTras rondas i).cae (s.disponiblePropia i) (s.cuotaTras rondas) = true
    · have isAssigned : (s.tablaTras rondas i).hpt.assigned = true := by
        rw [CaracCharger.cae, Bool.and_eq_true] at falls
        exact falls.1
      rw [CaracCharger.asignado, if_pos isAssigned, if_pos falls] at cell
      exact .inl (by rw [cell]; rfl)
    · have lasts : vigente i (calculoGeneral s).estado.historial = true →
          vigente i (tickCalculo s).historial = true := by
        intro valid
        rw [history, vigente_expulsiones, valid, Bool.and_true, decide_eq_true_eq,
          List.mem_filter, disponibleFase_eq bounded]
        exact fun gone => falls gone.2
      by_cases isAssigned : (s.tablaTras rondas i).hpt.assigned = true
      · rw [CaracCharger.asignado_consigna_eq isAssigned (by simpa using falls)] at cell
        have given : (UInt16.ofNat
            (min (min (s.disponiblePropia i) (s.cuotaTras rondas)) 32)).toNat =
            min (min (s.disponiblePropia i) (s.cuotaTras rondas)) 32 := by
          rw [UInt16.toNat_ofNat']
          omega
        rcases reparte.reparte bounded veces empty below isAssigned with
          zero | ⟨threePhase, small⟩ | ⟨valid, stays, enough⟩
        · exact .inl (by rw [cell, zero]; rfl)
        · refine absurd ?_ falls
          rw [CaracCharger.cae, isAssigned, threePhase, consignaRepartida_eq]
          simpa using small
        · refine .inr ⟨lasts ?_, ?_⟩
          · exact (vigente_calculoGeneral bounded veces i).mpr ⟨valid, stays⟩
          · rw [cell, given]
            exact enough
      · rw [CaracCharger.asignado, if_neg isAssigned] at cell
        rcases pass i below with zero | admitted
        · rw [calculoGeneral_chargerTable bounded veces] at zero
          exact .inl (by rw [cell]; exact zero)
        · have enough := admitted.consigna
          rw [calculoGeneral_chargerTable bounded veces, ← cell] at enough
          exact .inr ⟨lasts admitted.vigente, enough⟩

/-- Rejections clear the setpoint of those they concern. -/
theorem soloAdmitidos_rechazar {s : GroupState} (hasta : Nat) (only : s.SoloAdmitidos) :
    (s.rechazar hasta).SoloAdmitidos := by
  refine only.mono rfl fun i _ => ?_
  unfold GroupState.rechazar
  dsimp only
  rw [vigente_rechazos]
  split_ifs with rejected
  · exact .inl rfl
  · refine .inr ⟨rfl, fun valid => ?_⟩
    rw [valid, Bool.and_true, decide_eq_true_eq]
    simpa using rejected

theorem soloAdmitidos_solicitudes {s : GroupState} (only : s.SoloAdmitidos) :
    (solicitudes s).SoloAdmitidos := by
  rcases solicitudes_cases (s := s) with ⟨i, _, _, _, _, admits⟩ | ⟨_, none⟩
  · rw [admits]
    have kept := soloAdmitidos_rechazar i only
    refine kept.mono rfl fun j _ => .inr ⟨?_, ?_⟩
    · rw [admitir_chargerTable]
      by_cases here : j = i
      · subst here
        simp
      · simp [here]
    · intro valid
      change vigente j (.admision i :: (s.rechazar i).historial) = true
      rw [vigente_admision, valid, Bool.or_true]
  · rw [none]
    exact soloAdmitidos_rechazar _ only

theorem soloAdmitidos_tickEquilibrado {s : GroupState} (t : Tick)
    (bounded : s.chargerNumber ≤ maxGroupSize)
    (inEquilibrado : s.controlGrupoState = .equilibrado) (only : s.SoloAdmitidos) :
    (tickEquilibrado t s).SoloAdmitidos := by
  have pass := soloAdmitidos_calculoGeneral bounded only
  by_cases estable : s.Estable
  · rw [tickEquilibrado_of_estable inEquilibrado estable]
    have search := buscarDeltas_buscaDelta t.transcurrido
      (solicitudes (calculoGeneral s).estado)
    refine (soloAdmitidos_solicitudes pass).mono (by rw [search.rest]) fun i _ => .inr ⟨?_, ?_⟩
    · rcases search.table i with ⟨delta, deltaTimer, same⟩
      rw [same]
    · rw [search.rest]
      exact id
  · obtain ⟨newData, lastConex, state, same, _⟩ := tickEquilibrado_of_not_estable (t := t) estable
    rw [same]
    exact pass.mono rfl fun i _ => .inr ⟨rfl, id⟩

/-! ## The answers -/

/-- The condition on a step: a `CALCULO` tick finds only admitted chargers to
give current to. -/
def daSoloAdmitidos (s : GroupState) : Evento → Prop
  | .tick _ => s.controlGrupoState = .calculo → s.asignaAdmitidos
  | _ => True

/-- In every run whose assignments give current to admitted chargers only, every
setpoint belongs to an admitted charger. -/
theorem soloAdmitidos_of_reachable {s : GroupState}
    (reached : Reachable GroupState.Arranque
      (guarded daSoloAdmitidos (ofFunction Evento.aplicar)) s) :
    s.chargerNumber ≤ maxGroupSize ∧ s.SoloAdmitidos := by
  refine reached.invariant (fun s => s.chargerNumber ≤ maxGroupSize ∧ s.SoloAdmitidos) ?base ?step
  case base => exact fun s start => ⟨start.acotado, fun i below => .inl (start.consigna i below)⟩
  case step =>
    rintro s evento _ ⟨bounded, only⟩ ⟨meets, rfl⟩
    refine ⟨(aplicar_chargerNumber s evento).trans_le bounded, ?_⟩
    by_cases isTick : ∃ t, evento = .tick t
    · rcases isTick with ⟨t, rfl⟩
      unfold Evento.aplicar limiteConsumo
      cases state : s.controlGrupoState with
      | reposo => exact soloAdmitidos_tickReposo t only
      | calculo => exact soloAdmitidos_tickCalculo bounded only (meets state)
      | equilibrado => exact soloAdmitidos_tickEquilibrado t bounded state only
    · have keeps := aplicar_mantiene s (not_exists.mp isTick)
      exact only.mono keeps.chargerNumber fun i _ =>
        .inr ⟨keeps.consigna i, by rw [keeps.historial]; exact id⟩

/-- A record with a setpoint that `New_Data` returns is that of an admitted
charger. -/
theorem admitido_of_newData {s : GroupState} (only : s.SoloAdmitidos) {m : Informe}
    (positive : 0 < (newData m s).1.consigna.toNat) :
    ∃ i, checkInGroup m.cargador.name s.chargerTable s.chargerNumber = some i ∧
      (newData m s).2.Admitido i := by
  have keeps := newData_mantiene m s
  unfold newData at positive keeps ⊢
  cases given : m.hpt with
  | none =>
      rw [given] at positive
      exact absurd positive (Nat.lt_irrefl 0)
  | some hpt =>
      rw [given] at positive keeps
      cases found : checkInGroup m.cargador.name s.chargerTable s.chargerNumber with
      | none =>
          rw [found] at positive
          exact absurd positive (Nat.lt_irrefl 0)
      | some i =>
          rw [found] at positive keeps
          have below := (checkInGroup_eq_some_iff.mp found).1
          dsimp only at positive keeps ⊢
          rw [CaracCharger.informado_consigna] at positive
          rcases only i below with zero | admitted
          · rw [zero] at positive
            exact absurd positive (Nat.lt_irrefl 0)
          · exact ⟨i, rfl, keeps.historial ▸ admitted.vigente,
              keeps.consigna i ▸ admitted.consigna⟩

/-- Whoever is answered with a permission, and the master when it gives one to
itself, has been admitted, is not evicted and has a setpoint of at least 6 A,
in every run whose `CALCULO` ticks find only admitted chargers to give current
to. -/
theorem permiso_solo_admitidos {s : GroupState}
    (reached : Reachable GroupState.Arranque
      (guarded daSoloAdmitidos (ofFunction Evento.aplicar)) s) (m : Informe) :
    ((hndEspressifPutData m s).1.p = true →
      ∃ i, checkInGroup m.cargador.name s.chargerTable s.chargerNumber = some i ∧
        (hndEspressifPutData m s).2.Admitido i) ∧
    ∀ askPerm desiredCurrent, (coapPutData askPerm desiredCurrent m s).1.chargPerm = true →
      ∃ i, checkInGroup m.cargador.name s.chargerTable s.chargerNumber = some i ∧
        (coapPutData askPerm desiredCurrent m s).2.Admitido i := by
  have only := (soloAdmitidos_of_reachable reached).2
  constructor
  · intro granted
    apply admitido_of_newData only
    change (newData m s).1.permiso = true at granted
    simp only [CaracCharger.permiso, Bool.and_eq_true, decide_eq_true_eq] at granted
    exact granted.1.1
  · intro askPerm desiredCurrent granted
    apply admitido_of_newData only
    unfold coapPutData at granted
    dsimp only at granted
    split_ifs at granted with asks
    exact of_decide_eq_true granted

/-! ## Two runs -/

/-- The first charger asks and is admitted while the second only waits; the
assignment gives half of the current to each. -/
def esperaConConsigna : GroupState :=
  [.informe (.enEstado 'B' '1' 1 true), .tick ⟨true, 0⟩,
    .informe (.enEstado 'B' '1' 2 false), .tick ⟨true, 0⟩].foldl Evento.aplicar (grupoDe 2)

theorem permiso_esperaConConsigna :
    Reachable GroupState.Arranque (ofFunction Evento.aplicar) esperaConConsigna ∧
      (hndEspressifPutData (.enEstado 'B' '1' 2 true) esperaConConsigna).1.p = true ∧
      ¬ ∃ i, checkInGroup (Informe.enEstado 'B' '1' 2 true).cargador.name
            esperaConConsigna.chargerTable esperaConConsigna.chargerNumber = some i ∧
          (hndEspressifPutData (.enEstado 'B' '1' 2 true) esperaConConsigna).2.Admitido i := by
  refine ⟨?_, by decide, ?_⟩
  · exact (Reachable.start (grupoDe_arranque (by decide))).foldl _
  · rintro ⟨i, found, admitted⟩
    have second : checkInGroup (Informe.enEstado 'B' '1' 2 true).cargador.name
        esperaConConsigna.chargerTable esperaConConsigna.chargerNumber = some 1 := by decide
    obtain rfl : 1 = i := Option.some.inj (second.symm.trans found)
    exact absurd admitted.vigente (by decide)

/-- A charger alone asks, is admitted and gets its setpoint. -/
def admitidaSola : GroupState :=
  [.informe (.enEstado 'B' '1' 1 true), .tick ⟨true, 0⟩, .tick ⟨true, 0⟩].foldl
    Evento.aplicar (grupoDe 1)

theorem permiso_admitidaSola :
    ∃ i, checkInGroup (Informe.enEstado 'B' '1' 1 true).cargador.name
        admitidaSola.chargerTable admitidaSola.chargerNumber = some i ∧
      (hndEspressifPutData (.enEstado 'B' '1' 1 true) admitidaSola).2.Admitido i := by
  have start : Reachable GroupState.Arranque
      (guarded daSoloAdmitidos (ofFunction Evento.aplicar)) (grupoDe 1) :=
    .start (grupoDe_arranque (by decide))
  have asked := @Reachable.next _ _ _ _ _ (Evento.informe (.enEstado 'B' '1' 1 true)) _ start
    ⟨trivial, rfl⟩
  have admitted := @Reachable.next _ _ _ _ _ (Evento.tick ⟨true, 0⟩) _ asked
    ⟨fun inCalculo => absurd inCalculo (by decide), rfl⟩
  have assigned := @Reachable.next _ _ _ _ _ (Evento.tick ⟨true, 0⟩) _ admitted
    ⟨fun _ rondas veces _ => by
      obtain rfl := GroupState.expulsaVeces_unique veces (by decide : GroupState.expulsaVeces _ 0)
      exact ⟨by decide, by decide, by decide⟩, rfl⟩
  exact (permiso_solo_admitidos assigned (.enEstado 'B' '1' 1 true)).1 (by decide)

end VeltiumCharger.Group
