import VeltiumCharger.Bloqueo.Cargador
import VeltiumCharger.Group.ParamsFlash

/-!
# Group messages as trees

`New_Params`, `New_Data` and `New_Current` parse the text they receive and look the
members of the tree up by their names.  Each tests for one member before the first
change to the group or the first answer; most of the others are read through whatever
pointer the search returns.
-/

namespace VeltiumCharger.Group

open VeltiumCharger.Buffer

/-! ## Trees -/

/-- An item of a tree: a number, a text with the bytes at its address, `true`, or one
of the rest (`false`, `null`, an array, an object). -/
inductive Item
  | number (valueint : Int)
  | string (valuestring : Nat → UInt8)
  | verdadero
  | otro

namespace Item

/-- `valueint`: the parser sets it for a number and for `true`. -/
def valueint : Item → Int
  | number valueint => valueint
  | verdadero => 1
  | string _ => 0
  | otro => 0

/-- `valuestring`: null unless the item is a text. -/
def valuestring : Item → Option (Nat → UInt8)
  | string valuestring => some valuestring
  | number _ => none
  | verdadero => none
  | otro => none

/-- The item is a number. -/
def EsNumero (item : Item) : Prop :=
  ∃ valueint, item = number valueint

/-- The item is a text. -/
def EsTexto (item : Item) : Prop :=
  ∃ valuestring, item = string valuestring

theorem valuestring_eq_some_iff {item : Item} {texto : Nat → UInt8} :
    item.valuestring = some texto ↔ item = string texto := by
  cases item <;> simp [valuestring]

end Item

/-- A tree, as `cJSON_GetObjectItem` finds its members. -/
abbrev CJSON := String → Option Item

namespace CJSON

variable (json : CJSON)

/-- `cJSON_HasObjectItem` of a tree that is not null. -/
def hasObjectItem (name : String) : Bool :=
  (json name).isSome

/-- The member is there, and of the kind. -/
def Miembro (kind : Item → Prop) (name : String) : Prop :=
  ∃ item, json name = some item ∧ kind item

/-- The member is of the kind if it is there. -/
def MiembroSiEsta (kind : Item → Prop) (name : String) : Prop :=
  ∀ item, json name = some item → kind item

/-- The members that `New_Params` reads. -/
def ParamsBien : Prop :=
  ∀ name ∈ ["cdp", "contract", "pot_max", "active"], json.Miembro Item.EsNumero name

/-- The numbers that `New_Data` reads. -/
def MedidasBien : Prop :=
  ∀ name ∈ ["current", "Perm", "currentB", "currentC"], json.MiembroSiEsta Item.EsNumero name

/-- The members that `New_Data` reads. -/
def DataBien : Prop :=
  json.Miembro Item.EsTexto "HPT" ∧ json.MiembroSiEsta Item.EsTexto "device_id" ∧
    json.MedidasBien

/-- The members that `New_Current` reads. -/
def CurrentBien : Prop :=
  json.Miembro Item.EsNumero "DC" ∧ json.Miembro Item.EsTexto "N" ∧
    json.MiembroSiEsta Item.EsNumero "P"

/-- The items that `New_Params` reads; `none` when it reads one through a null pointer.
The item `master` is not read. -/
def params : Option MensajeParams := do
  let active ← json "active"
  let cdp ← json "cdp"
  let contract ← json "contract"
  let potMax ← json "pot_max"
  pure
    { cdp := cdp.valueint
      contract := contract.valueint
      active := active.valueint
      master := (json "master").elim 0 Item.valueint
      potMax := potMax.valueint }

/-- The first bytes of a text, as `memcpy` takes them. -/
def nameDe (texto : Nat → UInt8) : Name :=
  fun i => texto i

/-- The first bytes of a text, as `memcpy` takes them. -/
def hptDe (texto : Nat → UInt8) : Hpt :=
  ⟨texto 0, texto 1, texto 2⟩

/-- `device_id`, if it is there: `none` is a null text. -/
def deviceId : Option (Option Name) :=
  match json "device_id" with
  | none => some none
  | some item => item.valuestring.map fun texto => some (nameDe texto)

/-- The items that `New_Data` reads once it has found `HPT`; `none` when it copies from
a null pointer. -/
def informe (hpt : Item) (pila : Name × Hpt) : Option Informe := do
  let texto ← hpt.valuestring
  let deviceId ← json.deviceId
  pure
    { hpt := some (hptDe texto)
      deviceId := deviceId
      current := (json "current").map fun item => UInt16.ofInt item.valueint
      perm := (json "Perm").map fun item => decide (item.valueint ≠ 0)
      currentB := (json "currentB").map fun item => UInt16.ofInt item.valueint
      currentC := (json "currentC").map fun item => UInt16.ofInt item.valueint
      pila := pila }

end CJSON

/-! ## The handlers -/

/-- What `New_Current` sends to the other processor. -/
inductive Mando
  | bloqueoCarga (valor : Bool)
  | measuresCurrentCommand (desiredCurrent : UInt8)

/-- The value of `BLOQUEO_CARGA`, if it is one. -/
def Mando.valorBloqueo : Mando → Option Bool
  | bloqueoCarga valor => some valor
  | measuresCurrentCommand _ => none

/-- The group with its table, the permission flags, `Configuracion.group_data` and what
has been sent to the other processor; the rest is read only. -/
structure Receptor where
  grupo : GroupState
  chargPerm : Bool
  askPerm : Bool
  groupData : Nat → UInt8
  enviados : List Mando
  deviceId : Nat → UInt8
  hptStatus : Hpt
  desiredCurrent : UInt8
  updateTaskrunning : Bool

namespace Receptor

variable (s : Receptor)

/-- `SendToPSOC5`, which sends nothing during an update. -/
def sendToPSOC5 (mando : Mando) : Receptor :=
  if s.updateTaskrunning then s else { s with enviados := s.enviados ++ [mando] }

/-- The name is the one of the charger: `memcmp` of nine bytes. -/
def esMio (nombre : Nat → UInt8) : Prop :=
  ∀ i, i < 9 → s.deviceId i = nombre i

instance (nombre : Nat → UInt8) : Decidable (s.esMio nombre) :=
  inferInstanceAs (Decidable (∀ i, i < 9 → _))

/-- The permission of `New_Current`. -/
def recibePermiso (p : Option Bool) : Receptor :=
  let s := { s with chargPerm := p.getD s.chargPerm }
  if s.chargPerm then { s with askPerm := false } else s

/-- `New_Current` stops a charge. -/
def detiene (desiredCurrent : UInt8) : Bool :=
  desiredCurrent == 0 && !s.chargPerm && s.hptStatus.is 'C' '2'

/-- `New_Current` sends another current. -/
def corrige (desiredCurrent : UInt8) : Bool :=
  desiredCurrent != s.desiredCurrent && (s.hptStatus.is 'C' '2' || s.chargPerm)

/-- `New_Current`, once the items are read. -/
def recibeCurrent (desiredCurrent : UInt8) (p : Option Bool) : Receptor :=
  let s := s.recibePermiso p
  let s :=
    if s.detiene desiredCurrent then
      (s.sendToPSOC5 (.bloqueoCarga true)).sendToPSOC5 (.measuresCurrentCommand desiredCurrent)
    else s
  if s.corrige desiredCurrent then
    let s := s.sendToPSOC5 (.measuresCurrentCommand desiredCurrent)
    if s.chargPerm then s.sendToPSOC5 (.bloqueoCarga false) else s
  else s

variable (parse : List UInt8 → Option CJSON) (datos : List UInt8)

/-- `New_Params`.  A result `none` is a read through a null pointer, here and below. -/
def newParams : Option Receptor :=
  if datos.length ≤ 0 then some s
  else
    let s := { s with grupo := { s.grupo with newData := true } }
    match parse datos with
    | none => some s
    | some json =>
        if !json.hasObjectItem "cdp" then some s
        else do
          let m ← json.params
          pure { s with
            grupo := Group.newParams (some m.parametros) s.grupo
            groupData := newParamsData m s.grupo s.groupData }

/-- `New_Data`.  `pila` holds the name and the state of the local record before they are
read. -/
def newData (pila : Name × Hpt) : Option Receptor :=
  if datos.length ≤ 0 then some s
  else
    match parse datos with
    | none => some s
    | some json =>
        match json "HPT" with
        | none => some s
        | some hpt => do
            let m ← json.informe hpt pila
            pure { s with grupo := (Group.newData m s.grupo).2 }

/-- `New_Current`. -/
def newCurrent : Option Receptor :=
  if datos.length ≤ 0 then some s
  else
    match parse datos with
    | none => some s
    | some json =>
        match json "DC" with
        | none => some s
        | some dc => do
            let n ← json "N"
            let nombre ← n.valuestring
            if ¬ s.esMio nombre then pure s
            else
              pure (s.recibeCurrent (UInt8.ofInt dc.valueint)
                ((json "P").map fun p => decide (p.valueint ≠ 0)))

/-- The message is well formed, or changes nothing. -/
def Tolera (bien : CJSON → Prop) (despues : Option Receptor) : Prop :=
  (∃ json, parse datos = some json ∧ bien json) ∨ despues = some s

/-- No record changes but one named by `device_id`. -/
def SoloNombrado (despues : Option Receptor) : Prop :=
  ∀ t, despues = some t → ∀ i, t.grupo.chargerTable i ≠ s.grupo.chargerTable i →
    ∃ json texto, parse datos = some json ∧ json "device_id" = some (.string texto) ∧
      (s.grupo.chargerTable i).name = CJSON.nameDe texto

end Receptor

/-! ## What a message leaves as it was -/

namespace CaracCharger

variable {charger cargador : CaracCharger}

/-- The record takes over the currents and the state of a report. -/
def admite (charger cargador : CaracCharger) : Bool :=
  if cargador.chargeReq then !charger.hpt.is 'B' '1' && !charger.hpt.is 'C' '2'
  else !(cargador.hpt.is 'B' '1' && charger.hpt.is 'C' '2')

/-- The record is as the report leaves it. -/
structure AlDia (charger cargador : CaracCharger) : Prop where
  conected : charger.conected = true
  period : charger.period = 0
  chargeReq : charger.chargeReq = cargador.chargeReq
  medidas : charger.admite cargador = true →
    charger.current = cargador.current ∧ charger.currentB = cargador.currentB ∧
      charger.currentC = cargador.currentC ∧ charger.hpt = cargador.hpt

theorem informado_eq : charger.informado cargador =
    { (if charger.admite cargador then charger.medir cargador else charger) with
      conected := true, chargeReq := cargador.chargeReq, period := 0 } := by
  unfold informado admite
  cases cargador.chargeReq with
  | false =>
      simp only [Bool.not_false, if_true, Bool.false_eq_true, if_false]
      split_ifs <;> rfl
  | true =>
      simp only [Bool.not_true, if_true, Bool.false_eq_true, if_false]
      split_ifs <;> rfl

/-- A report leaves a record as it was exactly when the record is up to date. -/
theorem informado_eq_self_iff :
    charger.informado cargador = charger ↔ charger.AlDia cargador := by
  rw [informado_eq]
  constructor
  · intro same
    refine ⟨(congrArg conected same).symm, (congrArg period same).symm,
      (congrArg chargeReq same).symm, fun takes => ?_⟩
    rw [if_pos takes] at same
    exact ⟨(congrArg current same).symm, (congrArg currentB same).symm,
      (congrArg currentC same).symm, (congrArg hpt same).symm⟩
  · rintro ⟨conected, period, chargeReq, medidas⟩
    split_ifs with takes
    · obtain ⟨current, currentB, currentC, hpt⟩ := medidas takes
      unfold medir
      rw [← conected, ← period, ← chargeReq, ← current, ← currentB, ← currentC, ← hpt]
    · rw [← conected, ← period, ← chargeReq]

end CaracCharger

/-- The report is about nobody in the table, or about a record that is up to date. -/
def GroupState.Reflejado (s : GroupState) (m : Informe) : Prop :=
  ∀ i, checkInGroup m.cargador.name s.chargerTable s.chargerNumber = some i →
    (s.chargerTable i).AlDia m.cargador

theorem setCharger_eq_self_iff {s : GroupState} {i : Nat} {charger : CaracCharger} :
    s.setCharger i charger = s ↔ charger = s.chargerTable i := by
  constructor
  · intro same
    have cell := congrFun (congrArg GroupState.chargerTable same) i
    unfold GroupState.setCharger at cell
    exact (Function.update_self i charger s.chargerTable).symm.trans cell
  · intro same
    rw [GroupState.setCharger, same, Function.update_eq_self]

theorem newData_eq_self_iff {s : GroupState} {m : Informe} (conHpt : m.hpt.isSome = true) :
    (newData m s).2 = s ↔ s.Reflejado m := by
  obtain ⟨hpt, isHpt⟩ := Option.isSome_iff_exists.mp conHpt
  unfold newData GroupState.Reflejado
  rw [isHpt]
  cases found : checkInGroup m.cargador.name s.chargerTable s.chargerNumber with
  | none => exact iff_of_true rfl fun i other => absurd other.symm (Option.some_ne_none i)
  | some index =>
      dsimp only
      rw [setCharger_eq_self_iff, CaracCharger.informado_eq_self_iff]
      constructor
      · intro alDia i same
        rwa [← Option.some.inj same]
      · exact fun reflejado => reflejado index rfl

namespace Receptor

variable (s : Receptor)

/-- The master's memory, and the flash, have the values of the message already. -/
structure YaTiene (m : MensajeParams) : Prop where
  newData : s.grupo.newData = true
  memoria : s.grupo.params.groupMaster ≠ 0 →
    s.grupo.params.cdp = m.parametros.cdp ∧
      s.grupo.params.contractPower = m.parametros.contract ∧
      s.grupo.params.potenciaMax = m.parametros.potMax.toUInt16
  flash : Begins (groupParams s.groupData) (m.buffer s.grupo.params.groupMaster)

/-- The order changes neither the permission nor the request for it, and nothing is
sent. -/
structure Quieto (desiredCurrent : UInt8) (p : Option Bool) : Prop where
  chargPerm : p.getD s.chargPerm = s.chargPerm
  askPerm : s.chargPerm = true → s.askPerm = false
  callado : s.updateTaskrunning = true ∨
    s.detiene desiredCurrent = false ∧ s.corrige desiredCurrent = false

variable (parse : List UInt8 → Option CJSON) (datos : List UInt8)

/-- The condition on a `PARAMS` message. -/
def ToleraParams : Prop :=
  datos = [] ∨
    ((∀ json, parse datos = some json → json "cdp" = none) ∧ s.grupo.newData = true) ∨
    ∃ json m, parse datos = some json ∧ json.params = some m ∧ (json.ParamsBien ∨ s.YaTiene m)

/-- The condition on a `DATA` message. -/
def ToleraData (pila : Name × Hpt) : Prop :=
  datos = [] ∨ (∀ json, parse datos = some json → json "HPT" = none) ∨
    ∃ json hpt m, parse datos = some json ∧ json "HPT" = some hpt ∧
      json.informe hpt pila = some m ∧
      (json.hasObjectItem "device_id" = true ∧ json.MedidasBien ∨ s.grupo.Reflejado m)

/-- The condition on a `CURRENT` message. -/
def ToleraCurrent : Prop :=
  datos = [] ∨ (∀ json, parse datos = some json → json "DC" = none) ∨
    ∃ json dc nombre, parse datos = some json ∧ json "DC" = some dc ∧
      json "N" = some (.string nombre) ∧
      (¬ s.esMio nombre ∨ dc.EsNumero ∧ json.MiembroSiEsta Item.EsNumero "P" ∨
        s.Quieto (UInt8.ofInt dc.valueint) ((json "P").map fun p => decide (p.valueint ≠ 0)))

end Receptor

section Manejadores

variable {s : Receptor} {parse : List UInt8 → Option CJSON} {datos : List UInt8}

namespace Receptor

/-- The values of a `PARAMS` message, in the memory of a master and in flash. -/
def conParams (s : Receptor) (m : MensajeParams) : Receptor :=
  { s with
    grupo := Group.newParams (some m.parametros) s.grupo
    groupData := newParamsData m s.grupo s.groupData }

/-- The flag of new data. -/
def conNewData (s : Receptor) : Receptor :=
  { s with grupo := { s.grupo with newData := true } }

theorem conNewData_eq_self_iff : s.conNewData = s ↔ s.grupo.newData = true := by
  constructor
  · exact fun same => (congrArg (fun t : Receptor => t.grupo.newData) same).symm
  · intro set
    unfold conNewData
    rw [← set]

theorem conParams_eq_self_iff {m : MensajeParams} : s.conParams m = s ↔ s.YaTiene m := by
  have flash : newParamsData m s.grupo s.groupData = s.groupData ↔
      Begins (groupParams s.groupData) (m.buffer s.grupo.params.groupMaster) :=
    write_eq_self_iff
  constructor
  · intro same
    refine ⟨?_, fun master => ?_, flash.mp (congrArg groupData same)⟩
    · have set := congrArg (fun t : Receptor => t.grupo.newData) same
      unfold conParams Group.newParams at set
      dsimp only at set
      split_ifs at set
      · exact set.symm
      · exact set.symm
    · have params := congrArg (fun t : Receptor => t.grupo.params) same
      unfold conParams Group.newParams at params
      dsimp only at params
      rw [if_pos master] at params
      exact ⟨(congrArg CaracGroupParams.cdp params).symm,
        (congrArg CaracGroupParams.contractPower params).symm,
        (congrArg CaracGroupParams.potenciaMax params).symm⟩
  · rintro ⟨set, memoria, begins⟩
    unfold conParams Group.newParams
    rw [flash.mpr begins]
    dsimp only
    split_ifs with master
    · obtain ⟨cdp, contract, potMax⟩ := memoria master
      rw [← cdp, ← contract, ← potMax, ← set]
    · rw [← set]

/-- Values sent one after the other. -/
def enviar (s : Receptor) (mandos : List Mando) : Receptor :=
  { s with enviados := s.enviados ++ if s.updateTaskrunning then [] else mandos }

theorem enviar_nil : s.enviar [] = s := by
  unfold enviar
  rw [ite_self, List.append_nil]

theorem enviar_enviar {mandos more : List Mando} :
    (s.enviar mandos).enviar more = s.enviar (mandos ++ more) := by
  unfold enviar
  dsimp only
  split_ifs
  · simp only [List.append_nil]
  · rw [List.append_assoc]

theorem sendToPSOC5_eq (mando : Mando) : s.sendToPSOC5 mando = s.enviar [mando] := by
  unfold sendToPSOC5 enviar
  split_ifs
  · rw [List.append_nil]
  · rfl

/-- What `New_Current` sends to stop a charge. -/
def mandosDetiene (s : Receptor) (desiredCurrent : UInt8) : List Mando :=
  if s.detiene desiredCurrent then
    [.bloqueoCarga true, .measuresCurrentCommand desiredCurrent]
  else []

/-- What `New_Current` sends to set a current. -/
def mandosCorrige (s : Receptor) (desiredCurrent : UInt8) : List Mando :=
  if s.corrige desiredCurrent then
    .measuresCurrentCommand desiredCurrent :: if s.chargPerm then [.bloqueoCarga false] else []
  else []

theorem recibeCurrent_eq (s : Receptor) (desiredCurrent : UInt8) (p : Option Bool) :
    s.recibeCurrent desiredCurrent p =
      (s.recibePermiso p).enviar ((s.recibePermiso p).mandosDetiene desiredCurrent ++
        (s.recibePermiso p).mandosCorrige desiredCurrent) := by
  have stop : ∀ t : Receptor, (if t.detiene desiredCurrent then
      (t.sendToPSOC5 (.bloqueoCarga true)).sendToPSOC5 (.measuresCurrentCommand desiredCurrent)
      else t) = t.enviar (t.mandosDetiene desiredCurrent) := by
    intro t
    unfold mandosDetiene
    split_ifs
    · rw [sendToPSOC5_eq, sendToPSOC5_eq, enviar_enviar]
      rfl
    · rw [enviar_nil]
  have correct : ∀ t : Receptor, (if t.corrige desiredCurrent then
      let t := t.sendToPSOC5 (.measuresCurrentCommand desiredCurrent)
      if t.chargPerm then t.sendToPSOC5 (.bloqueoCarga false) else t
      else t) = t.enviar (t.mandosCorrige desiredCurrent) := by
    intro t
    unfold mandosCorrige
    simp only [sendToPSOC5_eq]
    change (if _ then (if t.chargPerm = true then _ else _) else _) = _
    split_ifs
    · rw [enviar_enviar]
      rfl
    · rfl
    · rw [enviar_nil]
  unfold recibeCurrent
  dsimp only
  rw [stop, correct, enviar_enviar]
  rfl

theorem recibePermiso_eq (s : Receptor) (p : Option Bool) :
    s.recibePermiso p =
      { s with
        chargPerm := p.getD s.chargPerm
        askPerm := if p.getD s.chargPerm then false else s.askPerm } := by
  unfold recibePermiso
  dsimp only
  split_ifs <;> rfl

theorem recibePermiso_eq_self_iff {p : Option Bool} : s.recibePermiso p = s ↔
    p.getD s.chargPerm = s.chargPerm ∧ (s.chargPerm = true → s.askPerm = false) := by
  rw [recibePermiso_eq]
  constructor
  · intro same
    have flag : p.getD s.chargPerm = s.chargPerm := congrArg chargPerm same
    have request := congrArg askPerm same
    dsimp only at request
    refine ⟨flag, fun granted => ?_⟩
    rw [flag, if_pos granted] at request
    exact request.symm
  · rintro ⟨flag, request⟩
    rw [flag]
    split_ifs with granted
    · rw [← request granted]
    · rfl

theorem enviar_eq_self_iff {mandos : List Mando} :
    s.enviar mandos = s ↔ s.updateTaskrunning = true ∨ mandos = [] := by
  have sent : s.enviar mandos = s ↔
      s.enviados ++ (if s.updateTaskrunning then [] else mandos) = s.enviados := by
    constructor
    · exact fun same => congrArg enviados same
    · intro same
      unfold enviar
      rw [same]
  rw [sent, List.append_right_eq_self]
  split_ifs with running
  · exact iff_of_true rfl (.inl running)
  · rw [or_iff_right running]

theorem mandos_eq_nil_iff {desiredCurrent : UInt8} :
    s.mandosDetiene desiredCurrent ++ s.mandosCorrige desiredCurrent = [] ↔
      s.detiene desiredCurrent = false ∧ s.corrige desiredCurrent = false := by
  unfold mandosDetiene mandosCorrige
  cases s.detiene desiredCurrent <;> cases s.corrige desiredCurrent <;> simp

theorem recibeCurrent_eq_self_iff {desiredCurrent : UInt8} {p : Option Bool} :
    s.recibeCurrent desiredCurrent p = s ↔ s.Quieto desiredCurrent p := by
  rw [recibeCurrent_eq]
  constructor
  · intro same
    have permiso : s.recibePermiso p = s := by
      have kept : s.recibePermiso p =
          { s.recibeCurrent desiredCurrent p with enviados := s.enviados } := by
        rw [recibeCurrent_eq, recibePermiso_eq]
        rfl
      rw [kept, recibeCurrent_eq, same]
    rw [permiso, enviar_eq_self_iff, mandos_eq_nil_iff] at same
    obtain ⟨chargPerm, askPerm⟩ := recibePermiso_eq_self_iff.mp permiso
    exact ⟨chargPerm, askPerm, same⟩
  · rintro ⟨chargPerm, askPerm, callado⟩
    rw [recibePermiso_eq_self_iff.mpr ⟨chargPerm, askPerm⟩, enviar_eq_self_iff, mandos_eq_nil_iff]
    exact callado

/-- The variables that the charge lock depends on, and the values of `BLOQUEO_CARGA`
sent, are those of the model of the lock. -/
structure Proyecta (s : Receptor) (c : Bloqueo.Cargador) : Prop where
  chargPerm : c.chargPerm = s.chargPerm
  askPerm : c.askPerm = s.askPerm
  hptStatus : c.hptStatus = s.hptStatus
  desiredCurrent : c.desiredCurrent = s.desiredCurrent
  updateTaskrunning : c.updateTaskrunning = s.updateTaskrunning
  enviados : c.enviados.map Bloqueo.Envio.valor = s.enviados.filterMap Mando.valorBloqueo

theorem Proyecta.recibePermiso {c : Bloqueo.Cargador} (proyecta : s.Proyecta c)
    (p : Option Bool) : (s.recibePermiso p).Proyecta (c.recibePermiso p) := by
  obtain ⟨chargPerm, askPerm, hptStatus, desiredCurrent, running, enviados⟩ := proyecta
  rw [recibePermiso_eq]
  unfold Bloqueo.Cargador.recibePermiso
  cases p with
  | none =>
      dsimp only [Option.getD_none]
      rw [chargPerm]
      split_ifs with granted
      · exact ⟨rfl, rfl, hptStatus, desiredCurrent, running, enviados⟩
      · exact ⟨chargPerm, askPerm, hptStatus, desiredCurrent, running, enviados⟩
  | some p =>
      dsimp only [Option.getD_some]
      split_ifs with granted
      · exact ⟨rfl, rfl, hptStatus, desiredCurrent, running, enviados⟩
      · exact ⟨rfl, askPerm, hptStatus, desiredCurrent, running, enviados⟩

/-- `SendToPSOC5` of a value of `BLOQUEO_CARGA`. -/
theorem Proyecta.sendBloqueo {c : Bloqueo.Cargador} (proyecta : s.Proyecta c) (valor : Bool) :
    (s.sendToPSOC5 (.bloqueoCarga valor)).Proyecta (c.sendToPSOC5 valor) := by
  obtain ⟨chargPerm, askPerm, hptStatus, desiredCurrent, running, enviados⟩ := proyecta
  unfold sendToPSOC5 Bloqueo.Cargador.sendToPSOC5
  rw [running]
  split_ifs with busy
  · exact ⟨chargPerm, askPerm, hptStatus, desiredCurrent, running, enviados⟩
  · refine ⟨chargPerm, askPerm, hptStatus, desiredCurrent, running, ?_⟩
    rw [List.map_append, List.filterMap_append, enviados]
    rfl

/-- `SendToPSOC5` of a current, which the model of the lock leaves out. -/
theorem Proyecta.sendCurrent {c : Bloqueo.Cargador} (proyecta : s.Proyecta c)
    (desiredCurrent : UInt8) :
    (s.sendToPSOC5 (.measuresCurrentCommand desiredCurrent)).Proyecta c := by
  unfold sendToPSOC5
  split_ifs with busy
  · exact proyecta
  · refine { proyecta with enviados := ?_ }
    rw [List.filterMap_append, proyecta.enviados]
    exact (List.append_nil _).symm

/-- `New_Current` of the model of the lock is this one. -/
theorem Proyecta.recibeCurrent {c : Bloqueo.Cargador} (proyecta : s.Proyecta c)
    (desiredCurrent : UInt8) (p : Option Bool) :
    (s.recibeCurrent desiredCurrent p).Proyecta (c.newCurrent desiredCurrent p) := by
  have permiso := proyecta.recibePermiso p
  unfold Receptor.recibeCurrent Bloqueo.Cargador.newCurrent
  generalize s.recibePermiso p = t at permiso
  generalize c.recibePermiso p = d at permiso
  dsimp only
  have detenido : (if t.detiene desiredCurrent then
      (t.sendToPSOC5 (.bloqueoCarga true)).sendToPSOC5 (.measuresCurrentCommand desiredCurrent)
      else t).Proyecta
      (if desiredCurrent == 0 && !d.chargPerm && d.hptStatus.is 'C' '2' then d.sendToPSOC5 true
      else d) := by
    rw [permiso.chargPerm, permiso.hptStatus]
    unfold detiene
    split_ifs
    · exact (permiso.sendBloqueo true).sendCurrent desiredCurrent
    · exact permiso
  revert detenido
  generalize (if t.detiene desiredCurrent then _ else t) = t
  generalize (if desiredCurrent == 0 && !d.chargPerm && d.hptStatus.is 'C' '2' then _ else d) = d
  intro detenido
  have corregido := detenido.sendCurrent desiredCurrent
  have corrige : (desiredCurrent != d.desiredCurrent &&
      (d.hptStatus.is 'C' '2' || d.chargPerm)) = t.corrige desiredCurrent := by
    rw [detenido.desiredCurrent, detenido.hptStatus, detenido.chargPerm]
    rfl
  rw [corrige, ← corregido.chargPerm]
  split_ifs
  · exact corregido.sendBloqueo false
  · exact corregido
  · exact detenido

/-! ## The handlers, case by case -/

variable {json : CJSON} {pila : Name × Hpt}

theorem newParams_nil : s.newParams parse [] = some s :=
  rfl

theorem newParams_sinCdp (lleno : datos ≠ [])
    (sin : ∀ json, parse datos = some json → json "cdp" = none) :
    s.newParams parse datos = some s.conNewData := by
  unfold newParams
  rw [if_neg (by simpa using lleno)]
  cases parsed : parse datos with
  | none => rfl
  | some json =>
      dsimp only
      rw [if_pos (by rw [CJSON.hasObjectItem, sin json parsed]; rfl)]
      rfl

theorem newParams_conCdp (lleno : datos ≠ []) (parsed : parse datos = some json)
    (con : json "cdp" ≠ none) : s.newParams parse datos = json.params.map s.conParams := by
  obtain ⟨cdp, here⟩ := Option.ne_none_iff_exists'.mp con
  unfold newParams
  rw [if_neg (by simpa using lleno), parsed]
  dsimp only
  rw [if_neg (by simp [CJSON.hasObjectItem, here])]
  cases json.params <;> rfl

/-- A message that is not ignored has the member that is looked for. -/
theorem exists_item {clave : String}
    (activo : ¬(datos = [] ∨ ∀ json, parse datos = some json → json clave = none)) :
    datos ≠ [] ∧ ∃ json item, parse datos = some json ∧ json clave = some item := by
  obtain ⟨vacio, sin⟩ := not_or.mp activo
  obtain ⟨json, here⟩ := not_forall.mp sin
  obtain ⟨parsed, con⟩ := Classical.not_imp.mp here
  obtain ⟨item, isItem⟩ := Option.ne_none_iff_exists'.mp con
  exact ⟨vacio, json, item, parsed, isItem⟩

theorem newData_sinHpt (sin : ∀ json, parse datos = some json → json "HPT" = none) :
    s.newData parse datos pila = some s := by
  unfold newData
  split_ifs
  · rfl
  · cases parsed : parse datos with
    | none => rfl
    | some json =>
        dsimp only
        rw [sin json parsed]

theorem newData_conHpt {hpt : Item} (lleno : datos ≠ []) (parsed : parse datos = some json)
    (con : json "HPT" = some hpt) : s.newData parse datos pila =
      (json.informe hpt pila).map fun m => { s with grupo := (Group.newData m s.grupo).2 } := by
  unfold newData
  rw [if_neg (by simpa using lleno), parsed]
  dsimp only
  rw [con]
  dsimp only
  cases json.informe hpt pila <;> rfl

theorem newCurrent_sinDC (sin : ∀ json, parse datos = some json → json "DC" = none) :
    s.newCurrent parse datos = some s := by
  unfold newCurrent
  split_ifs
  · rfl
  · cases parsed : parse datos with
    | none => rfl
    | some json =>
        dsimp only
        rw [sin json parsed]

theorem newCurrent_conDC {dc : Item} (lleno : datos ≠ []) (parsed : parse datos = some json)
    (con : json "DC" = some dc) : s.newCurrent parse datos =
      ((json "N").bind Item.valuestring).map fun nombre =>
        if s.esMio nombre then
          s.recibeCurrent (UInt8.ofInt dc.valueint)
            ((json "P").map fun p => decide (p.valueint ≠ 0))
        else s := by
  unfold newCurrent
  rw [if_neg (by simpa using lleno), parsed]
  dsimp only
  rw [con]
  dsimp only
  cases json "N" with
  | none => rfl
  | some n =>
      simp only [Option.bind_eq_bind, Option.bind_some]
      cases n.valuestring with
      | none => rfl
      | some nombre =>
          simp only [Option.bind_some, Option.map_some, ite_not]
          split_ifs <;> rfl

/-! ## Malformed messages -/

theorem conCdp_of_params {m : MensajeParams} (items : json.params = some m) :
    json "cdp" ≠ none := by
  intro absent
  unfold CJSON.params at items
  rw [absent] at items
  cases active : json "active" with
  | none => simp [active] at items
  | some _ => simp [active] at items

theorem params_of_bien (bien : json.ParamsBien) : ∃ m, json.params = some m := by
  obtain ⟨active, isActive, _⟩ := bien "active" (by decide)
  obtain ⟨cdp, isCdp, _⟩ := bien "cdp" (by decide)
  obtain ⟨contract, isContract, _⟩ := bien "contract" (by decide)
  obtain ⟨potMax, isPotMax, _⟩ := bien "pot_max" (by decide)
  unfold CJSON.params
  rw [isActive, isCdp, isContract, isPotMax]
  exact ⟨_, rfl⟩

theorem tolera_params_iff :
    s.Tolera parse datos CJSON.ParamsBien (s.newParams parse datos) ↔
      s.ToleraParams parse datos := by
  by_cases vacio : datos = []
  · subst vacio
    exact iff_of_true (.inr newParams_nil) (.inl rfl)
  · unfold Tolera ToleraParams
    rw [or_iff_right vacio]
    by_cases sin : ∀ json, parse datos = some json → json "cdp" = none
    · have noItems : ∀ json m, parse datos = some json → json.params ≠ some m :=
        fun json m parsed items => conCdp_of_params items (sin json parsed)
      rw [newParams_sinCdp vacio sin, Option.some_inj, conNewData_eq_self_iff]
      constructor
      · rintro (⟨json, parsed, bien⟩ | set)
        · obtain ⟨m, items⟩ := params_of_bien bien
          exact absurd items (noItems json m parsed)
        · exact .inl ⟨sin, set⟩
      · rintro (⟨_, set⟩ | ⟨json, m, parsed, items, _⟩)
        · exact .inr set
        · exact absurd items (noItems json m parsed)
    · obtain ⟨json, here⟩ := not_forall.mp sin
      obtain ⟨parsed, con⟩ := Classical.not_imp.mp here
      rw [newParams_conCdp vacio parsed con,
        or_iff_right fun both : _ ∧ s.grupo.newData = true => sin both.1]
      constructor
      · rintro (⟨other, same, bien⟩ | after)
        · obtain ⟨m, items⟩ := params_of_bien bien
          exact ⟨other, m, same, items, .inl bien⟩
        · obtain ⟨m, items, same⟩ := Option.map_eq_some_iff.mp after
          exact ⟨json, m, parsed, items, .inr (conParams_eq_self_iff.mp same)⟩
      · rintro ⟨other, m, same, items, bien | tiene⟩
        · exact .inl ⟨other, same, bien⟩
        · obtain rfl := Option.some.inj (parsed.symm.trans same)
          exact .inr (Option.map_eq_some_iff.mpr ⟨m, items, conParams_eq_self_iff.mpr tiene⟩)

theorem deviceId_eq_some_none_iff : json.deviceId = some none ↔ json "device_id" = none := by
  unfold CJSON.deviceId
  cases json "device_id" with
  | none => exact iff_of_true rfl rfl
  | some item => cases item <;> simp [Item.valuestring]

theorem deviceId_eq_some_some_iff {nombre : Name} : json.deviceId = some (some nombre) ↔
    ∃ texto, json "device_id" = some (.string texto) ∧ CJSON.nameDe texto = nombre := by
  unfold CJSON.deviceId
  cases json "device_id" with
  | none => simp
  | some item => cases item <;> simp [Item.valuestring]

/-- What `New_Data` reads of the two texts. -/
theorem informe_spec {hpt : Item} {m : Informe} (items : json.informe hpt pila = some m) :
    m.hpt.isSome = true ∧ hpt.EsTexto ∧ json.deviceId = some m.deviceId := by
  unfold CJSON.informe at items
  simp only [Option.bind_eq_bind, Option.bind_eq_some_iff, Option.pure_def,
    Option.some.injEq] at items
  obtain ⟨texto, isTexto, deviceId, isDeviceId, rfl⟩ := items
  exact ⟨rfl, ⟨texto, Item.valuestring_eq_some_iff.mp isTexto⟩, isDeviceId⟩

theorem informe_of_bien {hpt : Item} (con : json "HPT" = some hpt) (bien : json.DataBien) :
    ∃ m, json.informe hpt pila = some m := by
  obtain ⟨⟨item, same, texto, isTexto⟩, deviceId, _⟩ := bien
  rw [con] at same
  unfold CJSON.informe CJSON.deviceId
  rw [Option.some.inj same, isTexto]
  cases here : json "device_id" with
  | none => exact ⟨_, rfl⟩
  | some item =>
      obtain ⟨nombre, rfl⟩ := deviceId item here
      exact ⟨_, rfl⟩

/-- With a text `device_id` the members are of their types exactly when the numbers are. -/
theorem dataBien_iff {hpt : Item} {m : Informe} (con : json "HPT" = some hpt)
    (items : json.informe hpt pila = some m) : json.DataBien ↔ json.MedidasBien := by
  obtain ⟨_, isTexto, isDeviceId⟩ := informe_spec items
  refine ⟨fun bien => bien.2.2, fun medidas => ⟨⟨hpt, con, isTexto⟩, fun item here => ?_, medidas⟩⟩
  unfold CJSON.deviceId at isDeviceId
  rw [here] at isDeviceId
  obtain ⟨texto, isTexto, _⟩ := Option.map_eq_some_iff.mp isDeviceId
  exact ⟨texto, Item.valuestring_eq_some_iff.mp isTexto⟩

/-- A report changes no record but one with the name it was looked up by. -/
theorem newData_nombrado {m : Informe} {s : GroupState} {i : Nat}
    (changed : (Group.newData m s).2.chargerTable i ≠ s.chargerTable i) :
    (s.chargerTable i).name = m.cargador.name := by
  rcases newData_cases m s with ⟨same, _⟩ | ⟨j, _, named, _, after⟩
  · rw [same] at changed
    exact absurd rfl changed
  · rw [after] at changed
    by_cases here : i = j
    · rw [here, named]
    · exact absurd (Function.update_of_ne here _ _) changed

/-- Without a `device_id` no record may change; with one, none but the one it names
does. -/
theorem soloNombrado_iff {m : Informe} {hpt : Item} (parsed : parse datos = some json)
    (items : json.informe hpt pila = some m) :
    s.SoloNombrado parse datos (some { s with grupo := (Group.newData m s.grupo).2 }) ↔
      json.hasObjectItem "device_id" = true ∨ s.grupo.Reflejado m := by
  obtain ⟨conHpt, _, isDeviceId⟩ := informe_spec items
  constructor
  · intro solo
    by_cases con : json.hasObjectItem "device_id" = true
    · exact .inl con
    · right
      rw [← newData_eq_self_iff conHpt, newData_rest]
      have same : (Group.newData m s.grupo).2.chargerTable = s.grupo.chargerTable := by
        funext i
        by_contra changed
        obtain ⟨other, texto, again, here, _⟩ := solo _ rfl i changed
        obtain rfl := Option.some.inj (parsed.symm.trans again)
        exact con (by rw [CJSON.hasObjectItem, here]; rfl)
      rw [same]
  · rintro (con | reflejado)
    · intro t after i changed
      rw [← Option.some.inj after] at changed
      cases named : m.deviceId with
      | none =>
          rw [named] at isDeviceId
          rw [CJSON.hasObjectItem, deviceId_eq_some_none_iff.mp isDeviceId] at con
          exact absurd con Bool.false_ne_true
      | some nombre =>
          rw [named] at isDeviceId
          obtain ⟨texto, here, same⟩ := deviceId_eq_some_some_iff.mp isDeviceId
          refine ⟨json, texto, parsed, here, (newData_nombrado changed).trans ?_⟩
          rw [Informe.cargador, named, same]
          rfl
    · intro t after i changed
      rw [← Option.some.inj after, (newData_eq_self_iff conHpt).mpr reflejado] at changed
      exact absurd rfl changed

theorem tolera_data_iff :
    s.Tolera parse datos CJSON.DataBien (s.newData parse datos pila) ∧
        s.SoloNombrado parse datos (s.newData parse datos pila) ↔
      s.ToleraData parse datos pila := by
  unfold Tolera ToleraData
  by_cases quieto : datos = [] ∨ ∀ json, parse datos = some json → json "HPT" = none
  · have after : s.newData parse datos pila = some s := by
      rcases quieto with rfl | sin
      · rfl
      · exact newData_sinHpt sin
    rw [after, ← or_assoc]
    refine iff_of_true ⟨.inr rfl, ?_⟩ (.inl quieto)
    rintro t same i changed
    rw [← Option.some.inj same] at changed
    exact absurd rfl changed
  · rw [← or_assoc, or_iff_right quieto]
    obtain ⟨vacio, json, hpt, parsed, isHpt⟩ := exists_item quieto
    rw [newData_conHpt vacio parsed isHpt]
    cases items : json.informe hpt pila with
    | none =>
        constructor
        · rintro ⟨⟨other, same, bien⟩ | after, _⟩
          · obtain rfl := Option.some.inj (parsed.symm.trans same)
            obtain ⟨m, leido⟩ : ∃ m, json.informe hpt pila = some m := informe_of_bien isHpt bien
            rw [items] at leido
            exact absurd leido.symm (Option.some_ne_none m)
          · exact absurd after.symm (Option.some_ne_none s)
        · rintro ⟨other, item, m, same, isItem, leido, _⟩
          obtain rfl := Option.some.inj (parsed.symm.trans same)
          obtain rfl := Option.some.inj (isHpt.symm.trans isItem)
          rw [items] at leido
          exact absurd leido.symm (Option.some_ne_none m)
    | some m =>
        have unchanged : some ({ s with grupo := (Group.newData m s.grupo).2 } : Receptor) =
            some s ↔ s.grupo.Reflejado m := by
          rw [Option.some_inj, ← newData_eq_self_iff (informe_spec items).1]
          constructor
          · exact fun same => congrArg grupo same
          · intro same
            rw [same]
        rw [Option.map_some, soloNombrado_iff parsed items, unchanged]
        constructor
        · rintro ⟨⟨other, same, bien⟩ | reflejado, solo⟩
          · obtain rfl := Option.some.inj (parsed.symm.trans same)
            refine ⟨json, hpt, m, parsed, isHpt, items, ?_⟩
            exact solo.imp_left fun con => ⟨con, bien.2.2⟩
          · exact ⟨json, hpt, m, parsed, isHpt, items, .inr reflejado⟩
        · rintro ⟨other, item, again, same, isItem, leido, holds⟩
          obtain rfl := Option.some.inj (parsed.symm.trans same)
          obtain rfl := Option.some.inj (isHpt.symm.trans isItem)
          obtain rfl := Option.some.inj (items.symm.trans leido)
          rcases holds with ⟨con, medidas⟩ | reflejado
          · exact ⟨.inl ⟨json, parsed, (dataBien_iff isHpt items).mpr medidas⟩, .inl con⟩
          · exact ⟨.inr reflejado, .inr reflejado⟩

theorem tolera_current_iff :
    s.Tolera parse datos CJSON.CurrentBien (s.newCurrent parse datos) ↔
      s.ToleraCurrent parse datos := by
  unfold Tolera ToleraCurrent
  by_cases quieto : datos = [] ∨ ∀ json, parse datos = some json → json "DC" = none
  · have after : s.newCurrent parse datos = some s := by
      rcases quieto with rfl | sin
      · rfl
      · exact newCurrent_sinDC sin
    rw [after, ← or_assoc]
    exact iff_of_true (.inr rfl) (.inl quieto)
  · rw [← or_assoc, or_iff_right quieto]
    obtain ⟨vacio, json, dc, parsed, isDC⟩ := exists_item quieto
    rw [newCurrent_conDC vacio parsed isDC]
    constructor
    · rintro (⟨other, same, ⟨item, isItem, numero⟩, ⟨n, isN, nombre, rfl⟩, permiso⟩ | after)
      · obtain rfl := Option.some.inj (parsed.symm.trans same)
        obtain rfl := Option.some.inj (isDC.symm.trans isItem)
        exact ⟨json, dc, nombre, parsed, isDC, isN, .inr (.inl ⟨numero, permiso⟩)⟩
      · obtain ⟨nombre, found, same⟩ := Option.map_eq_some_iff.mp after
        obtain ⟨n, isN, isTexto⟩ := Option.bind_eq_some_iff.mp found
        rw [Item.valuestring_eq_some_iff.mp isTexto] at isN
        refine ⟨json, dc, nombre, parsed, isDC, isN, ?_⟩
        split_ifs at same with mine
        · exact .inr (.inr (recibeCurrent_eq_self_iff.mp same))
        · exact .inl mine
    · rintro ⟨other, item, nombre, same, isItem, isN, holds⟩
      obtain rfl := Option.some.inj (parsed.symm.trans same)
      obtain rfl := Option.some.inj (isDC.symm.trans isItem)
      rcases holds with ajeno | ⟨numero, permiso⟩ | calma
      · right
        rw [isN, Option.bind_some, Item.valuestring, Option.map_some, if_neg ajeno]
      · exact .inl ⟨json, parsed, ⟨dc, isDC, numero⟩, ⟨_, isN, nombre, rfl⟩, permiso⟩
      · right
        rw [isN, Option.bind_some, Item.valuestring, Option.map_some,
          recibeCurrent_eq_self_iff.mpr calma, ite_self]

/-- A message whose members are not all there, or not of their types, leaves everything
as it was, and a report changes the record it names only: exactly under these
conditions. -/
theorem malformados_iff (s : Receptor) (parse : List UInt8 → Option CJSON)
    (datos : List UInt8) (pila : Name × Hpt) :
    (s.Tolera parse datos CJSON.ParamsBien (s.newParams parse datos) ↔
      s.ToleraParams parse datos) ∧
    (s.Tolera parse datos CJSON.DataBien (s.newData parse datos pila) ∧
        s.SoloNombrado parse datos (s.newData parse datos pila) ↔
      s.ToleraData parse datos pila) ∧
    (s.Tolera parse datos CJSON.CurrentBien (s.newCurrent parse datos) ↔
      s.ToleraCurrent parse datos) :=
  ⟨tolera_params_iff, tolera_data_iff, tolera_current_iff⟩

end Receptor

end Manejadores

/-! ## Texts that are not tolerated -/

/-- The tree of one text. -/
def arbolDe (texto : List UInt8) (members : List (String × Item)) (datos : List UInt8) :
    Option CJSON :=
  if datos = texto then some fun name => members.lookup name else none

/-- A charger that is not a master, with one record in its table. -/
def receptorDeUno : Receptor where
  grupo := GroupState.inicio { CaracGroupParams.conPotencia 100 with groupMaster := 0 }
    [{ CaracCharger.default with name := fun _ => 1 }] [32]
  chargPerm := false
  askPerm := false
  groupData := fun _ => 0
  enviados := []
  deviceId := fun _ => 1
  hptStatus := .ofText 'A' '1'
  desiredCurrent := 0
  updateTaskrunning := false

/-- An empty object, in bytes. -/
def textoVacio : List UInt8 := [0x7B, 0x7D]

/-- An object with the item `cdp` 5, in bytes. -/
def textoCdp : List UInt8 := [0x7B, 0x22, 0x63, 0x64, 0x70, 0x22, 0x3A, 0x35, 0x7D]

/-- An object with the item `HPT` "C2", in bytes. -/
def textoHpt : List UInt8 :=
  [0x7B, 0x22, 0x48, 0x50, 0x54, 0x22, 0x3A, 0x22, 0x43, 0x32, 0x22, 0x7D]

/-- An object with the item `DC` 6, in bytes. -/
def textoDC : List UInt8 := [0x7B, 0x22, 0x44, 0x43, 0x22, 0x3A, 0x36, 0x7D]

/-- An empty `PARAMS` object sets the flag of new data; `cdp` alone, or `DC` alone, is
followed by a read through a null pointer; and a `DATA` object without a name rewrites
the record that the bytes of the stack happen to name. -/
theorem receptorDeUno_noTolera :
    ¬ receptorDeUno.Tolera (arbolDe textoVacio []) textoVacio CJSON.ParamsBien
      (receptorDeUno.newParams (arbolDe textoVacio []) textoVacio) ∧
    receptorDeUno.newParams (arbolDe textoCdp [("cdp", .number 5)]) textoCdp = none ∧
    ¬ receptorDeUno.SoloNombrado
      (arbolDe textoHpt [("HPT", .string fun i => [0x43, 0x32].getD i 0)]) textoHpt
      (receptorDeUno.newData
        (arbolDe textoHpt [("HPT", .string fun i => [0x43, 0x32].getD i 0)]) textoHpt
        (fun _ => 1, ⟨0, 0, 0⟩)) ∧
    receptorDeUno.newCurrent (arbolDe textoDC [("DC", .number 6)]) textoDC = none := by
  refine ⟨fun tolera => ?_, rfl, fun solo => ?_, rfl⟩
  · rcases tolera with ⟨json, parsed, bien⟩ | same
    · obtain ⟨item, here, _⟩ := bien "cdp" (by decide)
      rw [← Option.some.inj parsed] at here
      exact absurd here.symm (Option.some_ne_none item)
    · exact absurd (congrArg (fun t : Receptor => t.grupo.newData) (Option.some.inj same))
        (by decide)
  · obtain ⟨json, texto, parsed, here, _⟩ := solo _ rfl 0 fun same =>
      absurd (congrArg CaracCharger.conected same) (by decide)
    rw [← Option.some.inj parsed] at here
    exact absurd here.symm (Option.some_ne_none _)

end VeltiumCharger.Group
