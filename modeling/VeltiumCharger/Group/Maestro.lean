import VeltiumCharger.Group.Asignacion
import VeltiumCharger.Group.Equilibrado
import VeltiumCharger.Group.NewData
import VeltiumCharger.Library.Run

/-!
# The master

Everything that changes the state of group control while the group is the same:
the ticks of its task, the reports, and the changes of parameters, of circuits
and of the meter's readings.
-/

namespace VeltiumCharger.Group

open VeltiumCharger.Loop

/-! ## Parameters and circuits -/

/-- The items of a `PARAMS` message that `New_Params` takes over at once. -/
structure Parametros where
  cdp : UInt8
  contract : UInt16
  potMax : UInt8

/-- `New_Params`; `none` is a message without the item `cdp`. -/
def newParams (m : Option Parametros) (s : GroupState) : GroupState :=
  let s := { s with newData := true }
  match m with
  | none => s
  | some m =>
      if s.params.groupMaster ≠ 0 then
        { s with params := { s.params with
            cdp := m.cdp, contractPower := m.contract, potenciaMax := m.potMax.toUInt16 } }
      else s

/-- `Get_Stored_Group_Params`, from the bytes of `group_data.params`. -/
def getStoredGroupParams (buffer : Nat → UInt8) (s : GroupState) : GroupState :=
  { s with
    newData := true
    params :=
      { groupMaster := buffer 0
        groupActive := buffer 1
        cdp := buffer 2
        contractPower := (buffer 3).toUInt16 + (buffer 4).toUInt16 * 256
        potenciaMax := (buffer 5).toUInt16 + (buffer 6).toUInt16 * 256 } }

/-- A circuit as a list of circuits describes it. -/
def CaracCircuito.numerar (i : Nat) (limite : UInt8) (circuito : CaracCircuito) :
    CaracCircuito :=
  { numero := UInt8.ofNat (i + 1)
    limiteCorriente := limite
    fases := forUpTo 3 (fun f fases =>
      Function.update fases f { fases f with numero := UInt8.ofNat (f + 1) }) circuito.fases }

/-- A new list of `size` circuits: the common part of `New_Circuit` and
`Get_Stored_Group_Circuits`. -/
def ponerCircuitos (size : Nat) (limites : Nat → UInt8) (s : GroupState) : GroupState :=
  { s with
    circuitNumber := size
    circuitos := forUpTo size (fun i circuitos =>
      Function.update circuitos i ((circuitos i).numerar i (limites i))) s.circuitos }

/-! ## Events -/

/-- What happens to the master. -/
inductive Evento
  /-- One pass of the task through its `switch`. -/
  | tick (t : Tick)
  /-- The report of another charger. -/
  | informe (m : Informe)
  /-- The master's own report. -/
  | propio (askPerm : Bool) (desiredCurrent : UInt8) (m : Informe)
  /-- A `PARAMS` message. -/
  | parametros (m : Option Parametros)
  /-- The stored parameters are loaded. -/
  | parametrosGuardados (buffer : Nat → UInt8)
  /-- A list of circuits is received or loaded. -/
  | circuitos (size : Nat) (limites : Nat → UInt8)
  /-- The meter is read. -/
  | contador (lectura : CaracContador)

/-- The effect of an event. -/
def Evento.aplicar (s : GroupState) : Evento → GroupState
  | .tick t => limiteConsumo t s
  | .informe m => (hndEspressifPutData m s).2
  | .propio askPerm desiredCurrent m => (coapPutData askPerm desiredCurrent m s).2
  | .parametros m => newParams m s
  | .parametrosGuardados buffer => getStoredGroupParams buffer s
  | .circuitos size limites => ponerCircuitos size limites s
  | .contador lectura => { s with contadorExt := lectura }

/-- Group control as its task starts: nobody has a setpoint or an admission
order yet. -/
structure GroupState.Arranque (s : GroupState) : Prop where
  acotado : s.chargerNumber ≤ maxGroupSize
  consigna : ∀ i, i < s.chargerNumber → (s.chargerTable i).consigna = 0
  order : ∀ i, i < s.chargerNumber → (s.chargerTable i).order = 0
  reposo : s.controlGrupoState = .reposo
  historial : s.historial = []

/-- A report of the charger all of whose identifying bytes are `id`. -/
def Informe.enEstado (x y : Char) (id : UInt8) (perm : Bool) : Informe where
  hpt := some (.ofText x y)
  deviceId := some fun _ => id
  current := none
  perm := some perm
  currentB := none
  currentC := none
  pila := (fun _ => 0, .ofText '0' '0')

/-- A group of 43 A with `n` chargers. -/
def grupoDe (n : Nat) : GroupState :=
  GroupState.inicio (.conPotencia 100)
    ((List.range n).map fun i =>
      { CaracCharger.default with name := fun _ => UInt8.ofNat (i + 1) }) [32]

theorem grupoDe_arranque {n : Nat} (bounded : n ≤ maxGroupSize) : (grupoDe n).Arranque where
  acotado := by simpa [grupoDe, GroupState.inicio] using bounded
  consigna i below := by
    have inside : i < n := by simpa [grupoDe, GroupState.inicio] using below
    simp [grupoDe, GroupState.inicio, inside, CaracCharger.default]
  order i below := by
    have inside : i < n := by simpa [grupoDe, GroupState.inicio] using below
    simp [grupoDe, GroupState.inicio, inside, CaracCharger.default]
  reposo := rfl
  historial := rfl

/-- What a step other than a tick keeps: the setpoints, the admission orders,
the state of the task and the history. -/
structure GroupState.Mantiene (before after : GroupState) : Prop where
  chargerNumber : after.chargerNumber = before.chargerNumber
  consigna : ∀ i, (after.chargerTable i).consigna = (before.chargerTable i).consigna
  order : ∀ i, (after.chargerTable i).order = (before.chargerTable i).order
  historial : after.historial = before.historial

theorem newData_mantiene (m : Informe) (s : GroupState) : s.Mantiene (newData m s).2 where
  chargerNumber := by rw [newData_rest]
  consigna i := (newData_keeps m s i).1
  order i := (newData_keeps m s i).2
  historial := by rw [newData_rest]

theorem solicitudes_chargerNumber (s : GroupState) :
    (solicitudes s).chargerNumber = s.chargerNumber := by
  rcases solicitudes_cases (s := s) with ⟨i, _, _, _, _, admits⟩ | ⟨_, none⟩
  · rw [admits]
    rfl
  · rw [none]
    rfl

theorem tickReposo_chargerNumber (t : Tick) (s : GroupState) :
    (tickReposo t s).chargerNumber = s.chargerNumber := by
  unfold tickReposo
  split_ifs
  · apply forUpTo_unchanged GroupState.chargerNumber
    intro i _ current
    unfold reposoRound
    dsimp only
    split_ifs <;> rfl
  · rfl

theorem limiteConsumo_chargerNumber (t : Tick) (s : GroupState) :
    (limiteConsumo t s).chargerNumber = s.chargerNumber := by
  unfold limiteConsumo
  cases state : s.controlGrupoState with
  | reposo => exact tickReposo_chargerNumber t s
  | calculo => exact tickCalculo_chargerNumber
  | equilibrado =>
      by_cases estable : s.Estable
      · have search := buscarDeltas_buscaDelta t.transcurrido
          (solicitudes (calculoGeneral s).estado)
        dsimp only
        rw [tickEquilibrado_of_estable state estable, search.rest]
        exact solicitudes_chargerNumber _
      · obtain ⟨_, _, _, same, _⟩ := tickEquilibrado_of_not_estable (t := t) estable
        dsimp only
        rw [same]
        rfl

/-- Events other than ticks decide nothing about admissions. -/
theorem aplicar_mantiene (s : GroupState) {evento : Evento}
    (noTick : ∀ t, evento ≠ .tick t) : s.Mantiene (evento.aplicar s) := by
  cases evento with
  | tick t => exact absurd rfl (noTick t)
  | informe m => exact newData_mantiene m s
  | propio askPerm desiredCurrent m => exact newData_mantiene m s
  | parametros m =>
      unfold Evento.aplicar newParams
      cases m with
      | none => exact ⟨rfl, fun _ => rfl, fun _ => rfl, rfl⟩
      | some m =>
          dsimp only
          split_ifs <;> exact ⟨rfl, fun _ => rfl, fun _ => rfl, rfl⟩
  | parametrosGuardados buffer => exact ⟨rfl, fun _ => rfl, fun _ => rfl, rfl⟩
  | circuitos size limites => exact ⟨rfl, fun _ => rfl, fun _ => rfl, rfl⟩
  | contador lectura => exact ⟨rfl, fun _ => rfl, fun _ => rfl, rfl⟩

/-- Nothing that happens to the master changes the size of its group. -/
theorem aplicar_chargerNumber (s : GroupState) (evento : Evento) :
    (evento.aplicar s).chargerNumber = s.chargerNumber := by
  by_cases isTick : ∃ t, evento = .tick t
  · rcases isTick with ⟨t, rfl⟩
    exact limiteConsumo_chargerNumber t s
  · exact (aplicar_mantiene s (not_exists.mp isTick)).chargerNumber

end VeltiumCharger.Group
