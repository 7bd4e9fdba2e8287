import VeltiumCharger.Group.LimiteConsumo
import VeltiumCharger.Group.Tabla

/-!
# Reports of the chargers

A charger reports its pilot state, its currents and whether it asks to charge;
the master updates its record and answers with the setpoint and the permission.
The reports of the other chargers arrive at `hnd_espressif_put`, the master's
own at `coap_put`.
-/

namespace VeltiumCharger.Group

/-- A report, item by item; a missing item is `none`.  `pila` holds the bytes of
the local record that nothing initialises. -/
structure Informe where
  hpt : Option Hpt
  deviceId : Option Name
  current : Option UInt16
  perm : Option Bool
  currentB : Option UInt16
  currentC : Option UInt16
  pila : Name × Hpt

/-- The local record `Cargador` once the message has been read. -/
def Informe.cargador (m : Informe) : CaracCharger :=
  { CaracCharger.default with
    name := m.deviceId.getD m.pila.1
    hpt := m.hpt.getD m.pila.2
    current := m.current.getD 0
    chargeReq := m.perm.getD false
    currentB := m.currentB.getD 0
    currentC := m.currentC.getD 0 }

/-- Copy the reported measurements and pilot state. -/
def CaracCharger.medir (charger cargador : CaracCharger) : CaracCharger :=
  { charger with
    current := cargador.current, currentB := cargador.currentB
    currentC := cargador.currentC, hpt := cargador.hpt }

/-- The record of a charger that has reported.  While it asks for permission its
pilot state is kept in `B1` and `C2`. -/
def CaracCharger.informado (charger cargador : CaracCharger) : CaracCharger :=
  let charger := { charger with conected := true, chargeReq := cargador.chargeReq }
  let charger :=
    if !cargador.chargeReq then
      if !(cargador.hpt.is 'B' '1' && charger.hpt.is 'C' '2') then charger.medir cargador
      else charger
    else if !charger.hpt.is 'B' '1' && !charger.hpt.is 'C' '2' then charger.medir cargador
    else charger
  { charger with period := 0 }

/-- `New_Data`: the record it returns and the group after it. -/
def newData (m : Informe) (s : GroupState) : CaracCharger × GroupState :=
  match m.hpt with
  | none => ({ CaracCharger.default with name := m.pila.1, hpt := m.pila.2 }, s)
  | some _ =>
      match checkInGroup m.cargador.name s.chargerTable s.chargerNumber with
      | none => (m.cargador, s)
      | some index =>
          ((s.chargerTable index).informado m.cargador,
            s.setCharger index ((s.chargerTable index).informado m.cargador))

/-- The answer to a report: `"N"`, `"DC"` and `"P"`. -/
structure Respuesta where
  n : Name
  dc : UInt16
  p : Bool

/-- `"P"` is 1 with a setpoint, unless the charger is in `C1`, or in `B1` without
asking. -/
def CaracCharger.permiso (charger : CaracCharger) : Bool :=
  decide (0 < charger.consigna.toNat) && !charger.hpt.is 'C' '1' &&
    !(charger.hpt.is 'B' '1' && !charger.chargeReq)

/-- `hnd_espressif_put` for the topic `DATA`. -/
def hndEspressifPutData (m : Informe) (s : GroupState) : Respuesta × GroupState :=
  let (cargador, s) := newData m s
  ({ n := cargador.name, dc := cargador.consigna, p := cargador.permiso }, s)

/-- What the master's own report sets and sends: the flags `ChargPerm` and
`AskPerm`, and the values of `BLOQUEO_CARGA` and of the current command sent to
the other processor. -/
structure DatosPropios where
  chargPerm : Bool
  askPerm : Bool
  bloqueoCarga : Option UInt8
  desiredCurrent : Option UInt8

/-- `coap_put` for the topic `DATA` on the master. -/
def coapPutData (askPerm : Bool) (desiredCurrent : UInt8) (m : Informe) (s : GroupState) :
    DatosPropios × GroupState :=
  let (cargador, s) := newData m s
  let chargPerm := decide (0 < cargador.consigna.toNat)
  let sinMedidor := s.params.contadorConfigurado && !s.contadorExt.medidorConectado
  ({ chargPerm := if askPerm && chargPerm && sinMedidor then false else chargPerm
     askPerm := if askPerm && chargPerm then sinMedidor else askPerm
     bloqueoCarga :=
       if askPerm && chargPerm then some (if sinMedidor then 1 else 0) else none
     desiredCurrent :=
       if cargador.consigna.toUInt8 != desiredCurrent && cargador.consigna != 0 then
         some cargador.consigna.toUInt8
       else none }, s)

/-! ## What a report changes -/

namespace CaracCharger

variable (charger cargador : CaracCharger)

@[simp]
theorem informado_consigna : (charger.informado cargador).consigna = charger.consigna := by
  unfold informado medir
  dsimp only
  split_ifs <;> rfl

@[simp]
theorem informado_order : (charger.informado cargador).order = charger.order := by
  unfold informado medir
  dsimp only
  split_ifs <;> rfl

end CaracCharger

section NewData

variable (m : Informe) (s : GroupState)

/-- A report either concerns nobody in the table and changes nothing, or
rewrites the record of the charger it names. -/
theorem newData_cases :
    ((newData m s).2 = s ∧ (newData m s).1.consigna = 0) ∨
      ∃ i, i < s.chargerNumber ∧ (s.chargerTable i).name = m.cargador.name ∧
        (newData m s).1 = (s.chargerTable i).informado m.cargador ∧
        (newData m s).2 = s.setCharger i ((s.chargerTable i).informado m.cargador) := by
  unfold newData
  cases m.hpt with
  | none => exact .inl ⟨rfl, rfl⟩
  | some hpt =>
      cases found : checkInGroup m.cargador.name s.chargerTable s.chargerNumber with
      | none => exact .inl ⟨rfl, rfl⟩
      | some i =>
          rcases checkInGroup_eq_some_iff.mp found with ⟨below, named, _⟩
          exact .inr ⟨i, below, named, rfl, rfl⟩

/-- A report changes one record of the table at most. -/
theorem newData_rest :
    (newData m s).2 = { s with chargerTable := (newData m s).2.chargerTable } := by
  rcases newData_cases m s with ⟨same, _⟩ | ⟨i, _, _, _, after⟩
  · rw [same]
  · rw [after]
    rfl

/-- A report keeps setpoints and admission orders. -/
theorem newData_keeps (j : Nat) :
    ((newData m s).2.chargerTable j).consigna = (s.chargerTable j).consigna ∧
      ((newData m s).2.chargerTable j).order = (s.chargerTable j).order := by
  rcases newData_cases m s with ⟨same, _⟩ | ⟨i, _, _, _, after⟩
  · rw [same]
    exact ⟨rfl, rfl⟩
  · rw [after]
    by_cases here : j = i
    · subst here
      simp [GroupState.setCharger]
    · simp [GroupState.setCharger, here]

end NewData

end VeltiumCharger.Group
