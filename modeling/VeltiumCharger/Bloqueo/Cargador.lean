import VeltiumCharger.Group.NewData
import VeltiumCharger.Library.Run

/-!
# The charge lock

The other processor locks and unlocks the charge by the values of
`BLOQUEO_CARGA` it is sent.  `procesar_bloque` answers its requests, after the
state of the charger, the permission of the group and the meter; `New_Current`,
`coap_put`, the start of the CoAP server and the handler of the pilot state send
values of their own.

A handler is one step.  What the other tasks do to the flags of the group, to
the meter, to the current and to the BLE connection is left open.
-/

namespace VeltiumCharger.Bloqueo

open VeltiumCharger.Group

/-- The flags of `ChargingGroup` that other handlers write. -/
structure Grupo where
  groupActive : Bool
  groupMaster : Bool
  conected : Bool
  finding : Bool
  cdp : UInt8
  deriving DecidableEq, Repr

/-- `ContadorConfigurado()` -/
def Grupo.contadorConfigurado (grupo : Grupo) : Bool :=
  (grupo.cdp >>> 4) &&& 1 != 0

/-- The variables the lock depends on.  The last two only record: whether the
charger has asked for permission since the vehicle was last disconnected, and
whether the permission it has was granted after that. -/
structure Variables where
  dispositivoInicializado : Nat
  systemStarted : Bool
  updateTaskrunning : Bool
  bleConectado : Bool
  hptStatus : Hpt
  statusHptAnterior : Hpt
  tipoSensor : Bool
  medidorConectado : Bool
  desiredCurrent : UInt8
  grupo : Grupo
  chargPerm : Bool
  askPerm : Bool
  bloqueoDeCarga : Bool
  pedido : Bool
  concedido : Bool

/-- A value of `BLOQUEO_CARGA` sent, and the variables when it was. -/
structure Envio where
  valor : Bool
  estado : Variables

/-- The charger, with what it has sent. -/
structure Cargador extends Variables where
  enviados : List Envio

/-- The charger when its tasks start. -/
def Cargador.inicial (grupo : Grupo) : Cargador where
  dispositivoInicializado := 1
  systemStarted := false
  updateTaskrunning := false
  bleConectado := false
  hptStatus := ⟨0, 0, 0⟩
  statusHptAnterior := .ofText 'F' 'F'
  tipoSensor := false
  medidorConectado := false
  desiredCurrent := 0
  grupo := grupo
  chargPerm := false
  askPerm := false
  bloqueoDeCarga := true
  pedido := false
  concedido := false
  enviados := []

/-- A meter is required for charging. -/
def Variables.medidorRequerido (v : Variables) : Bool :=
  v.tipoSensor || (v.grupo.groupMaster && v.grupo.contadorConfigurado)

/-- The first character of a pilot state. -/
def empieza (hpt : Hpt) (x : Char) : Bool :=
  hpt.c0 == x.toUInt8

/-- A change to a pilot state other than `C2` and `B2` ends a charge, with a
meter or in a group. -/
def Variables.dejaDeCargar (v : Variables) (hpt : Hpt) : Bool :=
  !hpt.is 'C' '2' && !hpt.is 'B' '2' && (v.tipoSensor || v.grupo.conected) &&
    (empieza v.statusHptAnterior 'C' || empieza v.statusHptAnterior 'B')

/-- `HPT_estados` -/
def hptEstados : List Hpt :=
  [.ofText '0' 'V', .ofText 'A' '1', .ofText 'A' '2', .ofText 'B' '1', .ofText 'B' '2',
    .ofText 'C' '1', .ofText 'C' '2', .ofText 'E' '1', .ofText 'F' '1']

/-- The contents of `BLOQUE_INICIALIZACION` that count here: the mark of a
complete block, an authentication mode that has to be corrected first, the
control byte of the meter, the current, and firmware 510 or older. -/
structure Inicializacion where
  marca : Bool
  autenticacionPorDefecto : Bool
  cdp : UInt8
  desiredCurrent : UInt8
  firmwareAntiguo : Bool
  deriving DecidableEq, Repr

namespace Cargador

variable (s : Cargador)

/-- `SendToPSOC5(valor, BLOQUEO_CARGA)`: nothing is sent during an update. -/
def sendToPSOC5 (valor : Bool) : Cargador :=
  if s.updateTaskrunning then s
  else { s with enviados := s.enviados ++ [⟨valor, s.toVariables⟩] }

/-- `ChargPerm` and `AskPerm` are cleared. -/
def retiraPermiso : Cargador :=
  { s with chargPerm := false, askPerm := false, concedido := false }

/-- A control byte of the meter: bit 1 for one in use, bit 4 for its type. -/
def sensorDe (cdp : UInt8) : Bool :=
  (cdp >>> 1) &&& 1 != 0 && (cdp >>> 4) &&& 1 != 0

/-- A meter in use that is not connected locks the charge from the start. -/
def inicializaSensor (cdp : UInt8) : Cargador :=
  let s := { s with tipoSensor := sensorDe cdp }
  if s.tipoSensor && !s.medidorConectado then sendToPSOC5 { s with bloqueoDeCarga := true } true
  else s

/-- The case `BLOQUE_INICIALIZACION` of `procesar_bloque`. -/
def bloqueInicializacion (bloque : Inicializacion) : Cargador :=
  if !s.systemStarted && bloque.marca then
    if bloque.autenticacionPorDefecto then s
    else
      let s := s.inicializaSensor bloque.cdp
      { s with
        desiredCurrent := bloque.desiredCurrent
        dispositivoInicializado :=
          if bloque.firmwareAntiguo then 2 else s.dispositivoInicializado
        systemStarted := true }
  else s

/-- The pilot state has changed, with a BLE client connected. -/
def statusConBle (hpt : Hpt) : Cargador :=
  if s.bleConectado && !empieza hpt 'E' && !empieza hpt 'F' then
    { s with bloqueoDeCarga := true }
  else s

/-- Without a vehicle, or after a start, there is no permission. -/
def statusSinVehiculo (hpt : Hpt) : Cargador :=
  let s := if empieza hpt 'A' then { s with pedido := false, concedido := false } else s
  if empieza hpt 'A' || empieza s.statusHptAnterior '0' then s.retiraPermiso else s

/-- The next charge is locked. -/
def statusSaleDeCarga (hpt : Hpt) : Cargador :=
  if s.dejaDeCargar hpt then
    sendToPSOC5 (retiraPermiso { s with bloqueoDeCarga := true }) true
  else s

/-- The case `BLOQUE_STATUS` of `procesar_bloque`, of a marked block. -/
def bloqueStatus (hpt : Hpt) : Cargador :=
  if s.systemStarted && hptEstados.any fun estado => hpt.c0 == estado.c0 && hpt.c1 == estado.c1 then
    let anterior := s.statusHptAnterior
    let s := { s with hptStatus := hpt }
    if hpt.c0 == anterior.c0 && hpt.c1 == anterior.c1 then s
    else
      let s := { s with dispositivoInicializado := 2 }
      let s := ((s.statusConBle hpt).statusSinVehiculo hpt).statusSaleDeCarga hpt
      { s with statusHptAnterior := hpt }
  else s

/-- The decision of the case `BLOQUEO_CARGA` of `procesar_bloque`. -/
def decideBloqueo : Cargador :=
  let s := { s with bloqueoDeCarga := true }
  if s.dispositivoInicializado ≠ 2 then s
  else if s.grupo.groupActive || s.grupo.finding then
    if s.grupo.conected then
      if s.chargPerm then { s with bloqueoDeCarga := false, askPerm := false }
      else if !s.askPerm then { s with askPerm := true, pedido := true }
      else s
    else s
  else if s.medidorRequerido then
    if s.medidorConectado then { s with bloqueoDeCarga := false } else s
  else { s with bloqueoDeCarga := false }

/-- The case `BLOQUEO_CARGA` of `procesar_bloque`: the decision is sent when it
is another than the last one. -/
def bloqueoCarga : Cargador :=
  let bloqueoDeCargaOld := s.bloqueoDeCarga
  let s := s.decideBloqueo
  if s.bloqueoDeCarga ≠ bloqueoDeCargaOld then s.sendToPSOC5 s.bloqueoDeCarga else s

/-- The case `DOMESTIC_CONSUMPTION_DPC_MODE_CHAR_HANDLE` of `procesar_bloque`. -/
def dpcMode (cdp : UInt8) : Cargador :=
  if sensorDe cdp then { s with tipoSensor := true }
  else { s with tipoSensor := false, medidorConectado := false }

/-- The permission a CURRENT message brings, if it does. -/
def recibePermiso (p : Option Bool) : Cargador :=
  let s := match p with
    | some p => { s with chargPerm := p, concedido := p && s.pedido }
    | none => s
  if s.chargPerm then { s with askPerm := false } else s

/-- `New_Current`, of a message for this charger with a current `"DC"` and
perhaps a permission `"P"`. -/
def newCurrent (desiredCurrent : UInt8) (p : Option Bool) : Cargador :=
  let s := s.recibePermiso p
  let s :=
    if desiredCurrent == 0 && !s.chargPerm && s.hptStatus.is 'C' '2' then s.sendToPSOC5 true
    else s
  if desiredCurrent != s.desiredCurrent && (s.hptStatus.is 'C' '2' || s.chargPerm) then
    if s.chargPerm then s.sendToPSOC5 false else s
  else s

/-- `coap_put` for the topic `DATA`, whose report gets a setpoint; only the
master handles it. -/
def coapPutData (consigna : UInt16) : Cargador :=
  if s.grupo.groupMaster then
    let s := { s with
      chargPerm := decide (0 < consigna.toNat)
      concedido := decide (0 < consigna.toNat) && s.pedido }
    if s.askPerm && s.chargPerm then
      if s.grupo.contadorConfigurado && !s.medidorConectado then
        sendToPSOC5 { s with askPerm := true, chargPerm := false, concedido := false } true
      else sendToPSOC5 { s with askPerm := false } false
    else s
  else s

/-- The beginning of the task `coap_server`. -/
def coapServer : Cargador :=
  sendToPSOC5 { s with grupo := { s.grupo with conected := true } } true

end Cargador

/-- The steps of a run.  The blocks of the other processor come first; then the
CoAP messages and tasks; last, what other tasks change. -/
inductive Evento
  | bloqueInicializacion (bloque : Inicializacion)
  | bloqueStatus (hpt : Hpt)
  | bloqueoCarga
  | dpcMode (cdp : UInt8)
  | searchExternalMeter (encontrado : UInt8)
  | currentCommand (desiredCurrent : UInt8)
  | newCurrent (desiredCurrent : UInt8) (p : Option Bool)
  | coapPutData (consigna : UInt16)
  | coapServer
  | grupo (grupo : Grupo)
  | contador (tipoSensor medidorConectado : Bool)
  | comando (desiredCurrent : UInt8)
  | ble (conectado : Bool)
  | actualizacion (enCurso : Bool)
  | emergencia
  deriving DecidableEq, Repr

/-- One step.  `proceso_recepcion` takes no block during an update. -/
def Cargador.paso (s : Cargador) : Evento → Cargador
  | .bloqueInicializacion bloque => if s.updateTaskrunning then s else s.bloqueInicializacion bloque
  | .bloqueStatus hpt => if s.updateTaskrunning then s else s.bloqueStatus hpt
  | .bloqueoCarga => if s.updateTaskrunning then s else s.bloqueoCarga
  | .dpcMode cdp => if s.updateTaskrunning then s else s.dpcMode cdp
  | .searchExternalMeter encontrado =>
    if s.updateTaskrunning then s else { s with medidorConectado := encontrado != 0 }
  | .currentCommand desiredCurrent =>
    if s.updateTaskrunning then s else { s with desiredCurrent := desiredCurrent }
  | .newCurrent desiredCurrent p => s.newCurrent desiredCurrent p
  | .coapPutData consigna => s.coapPutData consigna
  | .coapServer => s.coapServer
  | .grupo grupo => { s with grupo := grupo }
  | .contador tipoSensor medidorConectado =>
    { s with tipoSensor := tipoSensor, medidorConectado := medidorConectado }
  | .comando desiredCurrent => { s with desiredCurrent := desiredCurrent }
  | .ble conectado => { s with bleConectado := conectado }
  | .actualizacion enCurso => { s with updateTaskrunning := enCurso }
  | .emergencia => { s with dispositivoInicializado := 2 }

/-- What holds before the handler of a block, and after it outside an update,
holds after the step. -/
theorem Cargador.enBloque {s otro : Cargador} {holds : Cargador → Prop} (antes : holds s)
    (despues : s.updateTaskrunning = false → holds otro) :
    holds (if s.updateTaskrunning then s else otro) := by
  split
  case isTrue => exact antes
  case isFalse enMarcha => exact despues (Bool.eq_false_of_not_eq_true enMarcha)

/-- `coap_put` is the one of the model of the group, for the setpoint that
`New_Data` returns there. -/
theorem coapPutData_datosPropios (s : Cargador) (m : Informe) (g : GroupState)
    (master : s.grupo.groupMaster = true) (enMarcha : s.updateTaskrunning = false)
    (contador : g.params.contadorConfigurado = s.grupo.contadorConfigurado)
    (medidor : g.contadorExt.medidorConectado = s.medidorConectado) :
    (s.coapPutData (newData m g).1.consigna).chargPerm =
        (coapPutData s.askPerm s.desiredCurrent m g).1.chargPerm ∧
      (s.coapPutData (newData m g).1.consigna).askPerm =
        (coapPutData s.askPerm s.desiredCurrent m g).1.askPerm ∧
      (s.coapPutData (newData m g).1.consigna).enviados.map Envio.valor =
        s.enviados.map Envio.valor ++
          (coapPutData s.askPerm s.desiredCurrent m g).1.bloqueoCarga.toList.map (· != 0) := by
  have params_eq : (newData m g).2.params = g.params := by
    rw [newData_rest]
  have medidor_eq : (newData m g).2.contadorExt = g.contadorExt := by
    rw [newData_rest]
  unfold Cargador.coapPutData coapPutData
  dsimp only
  rw [if_pos master, params_eq, medidor_eq, contador, medidor]
  cases pendiente : s.askPerm && decide (0 < (newData m g).1.consigna.toNat) with
  | false =>
      rw [if_neg Bool.false_ne_true]
      simp
  | true =>
      rw [if_pos rfl]
      have permiso := (Bool.and_eq_true_iff.mp pendiente).2
      cases falta : s.grupo.contadorConfigurado && !s.medidorConectado with
      | true => simp [Cargador.sendToPSOC5, enMarcha]
      | false => simp [Cargador.sendToPSOC5, enMarcha, permiso]

/-- The charger after some steps. -/
def Cargador.correr (eventos : List Evento) (s : Cargador) : Cargador :=
  eventos.foldl Cargador.paso s

end VeltiumCharger.Bloqueo
