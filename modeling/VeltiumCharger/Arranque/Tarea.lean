import VeltiumCharger.Arranque.Configuracion

/-!
# The control task and the restarts

`controlTask` waits for the other processor, tells it who is connected, sends it the orders
and the requests, and asks it for its boot loader when there is firmware for it.  When the
other processor does not answer, the charger counts a bad restart, tries the firmware it has
kept, and gives up after ten of them: it goes into emergency.

What is counted survives a restart only if `ConfigTask` has stored it.
-/

namespace VeltiumCharger.Arranque

open VeltiumCharger.Bloques VeltiumCharger.Buffer

/-! ## Variables -/

/-- `estado_actual`, but for `ESTADO_CONECTADO`, which nothing sets. -/
inductive Estado
  | arranque
  | inicializacion
  | normal
  deriving DecidableEq, Repr

/-- `Iface_Con` -/
inductive Interfaz
  | ble
  | coms
  deriving DecidableEq, Repr

/-- The variables of `procesar_bloque`, with those that `controlTask` has beside them:
its own, the locals behind `ifaceCon`, and those that other tasks set. -/
structure Placa where
  control : Control
  policy : List UInt8
  deviceSerNumFlash : List UInt8
  estadoActual : Estado
  cntRepeticionesInicio : UInt16
  mainFwUpdateActive : Bool
  emergencyState : Bool
  conexionTrigger : Bool
  ifaceCon : Interfaz
  lastUserCon : Bool
  oldInicializado : UInt8
  clientAuthenticated : Bool
  testing : Bool
  authTimer : UInt32
  authSuccess : Bool
  deviceBleDisconnect : Bool
  reset : Bool
  recordPendingForWrite : Bool
  recordsTrigger : Bool
  askForNewRecordStartTimeout : UInt32

/-- `TIMEOUT_INICIO` -/
def timeoutInicio : UInt8 := 10

/-- `initialSerNum` -/
def initialSerNum : List UInt8 :=
  List.replicate 10 0xFF

/-- `Configuracion.data` -/
def Placa.datos (s : Placa) : Datos :=
  { s.control.configuracion with policy := s.policy }

/-- `Configuracion.data.count_reinicios_malos` -/
def Placa.malos (s : Placa) : UInt8 :=
  s.control.configuracion.countReiniciosMalos

/-- The charger when its tasks are created, with the configuration it has loaded;
`red` has what the network and the libraries return. -/
def Placa.encendida (red : Control) (datos : Datos) : Placa where
  control :=
    { Control.inicial with
      configuracion := datos.toConfiguracion
      deviceID := write 0 ("VCD17010001".toList.map Char.toUInt8) fun _ => 0
      deviceSerNum := initialSerNum
      espVersionFirmware := write 0 ("VBLE3_0619".toList.map Char.toUInt8) fun _ => 0
      comprobarConexion := red.comprobarConexion
      mktime := red.mktime
      parseFirmwareVersion := red.parseFirmwareVersion }
  policy := datos.policy
  deviceSerNumFlash := initialSerNum
  estadoActual := .arranque
  cntRepeticionesInicio := 120
  mainFwUpdateActive := false
  emergencyState := false
  conexionTrigger := false
  ifaceCon := .ble
  lastUserCon := false
  oldInicializado := 0
  clientAuthenticated := false
  testing := false
  authTimer := 0
  authSuccess := false
  deviceBleDisconnect := false
  reset := false
  recordPendingForWrite := false
  recordsTrigger := false
  askForNewRecordStartTimeout := 0

namespace Placa

variable (s : Placa)

/-- `SendToPSOC5` -/
def sendToPSOC5 (data : List UInt8) (attrHandle : UInt16) : Placa :=
  { s with control := s.control.sendToPSOC5 data attrHandle }

/-- `SendStatusToPSOC5` -/
def sendStatusToPSOC5 (connected : Bool) (inicializado commType : UInt8) : Placa :=
  s.sendToPSOC5 [if connected then 1 else 0, inicializado, commType] Handle.bloqueStatus

/-- `MAIN_RESET_Write(0)` and `ESP.restart()` -/
def restart : Placa :=
  { s with control := s.control.anota .restart }

/-! ## `ESTADO_ARRANQUE` -/

/-- `"VELT" + std::to_string(velt_v) + "_0" + std::to_string(FirmwarePSOC)` -/
def versionVelt : List UInt8 :=
  ("VELT" ++ toString s.control.configuracion.veltV.toNat ++ "_0" ++
    toString s.control.configuracion.firmwarePSOC.toNat).toList.map Char.toUInt8

/-- The charger goes into emergency with what it has in flash.  The serial number is copied
before it is converted. -/
def emergencia (pila : List UInt8) : Placa :=
  let conf := s.control.configuracion
  let control := { s.control with
    deviceID := write 0 (bytes conf.deviceID 0 12) s.control.deviceID
    deviceSerNum := s.deviceSerNumFlash }
  let deviceSerNumFlash := convertSN pila conf.deviceSerNum
  let control := control.anota (.changeAdvName control.deviceID)
  let control := control.anota (.devAuthInit deviceSerNumFlash)
  let control := control.modifyCharacteristic ((s.versionVelt ++ pila).take 10)
    Handle.versionesVersionFirmware
  let control := control.modifyCharacteristic (bytes control.espVersionFirmware 0 10)
    Handle.versionesVersionFirmBle
  { s with
    control := { control with dispositivoInicializado := 2 }
    deviceSerNumFlash := deviceSerNumFlash
    estadoActual := .normal
    emergencyState := true }

/-- `UpdateTask` is created to send the firmware that has been kept. -/
def recupera : Placa :=
  { s with
    control := { s.control with updateTaskrunning := true }.anota .updateTask
    mainFwUpdateActive := true }

/-- The other processor has not answered any of the requests. -/
def agota (pila : List UInt8) : Placa :=
  let s := { s with
    cntRepeticionesInicio := 750
    control := { s.control with configuracion := { s.control.configuracion with
      countReiniciosMalos := s.control.configuracion.countReiniciosMalos + 1 } } }
  if s.malos > 10 then s.emergencia pila else s.recupera

/-- Another request to the other processor. -/
def repite (pila : List UInt8) : Placa :=
  let s := s.sendToPSOC5 [0] Handle.bloqueInicializacion
  let s := { s with
    control := { s.control with cntTimeoutInicio := timeoutInicio }
    cntRepeticionesInicio := s.cntRepeticionesInicio - 1 }
  if s.cntRepeticionesInicio = 0 then s.agota pila else s

/-- The case `ESTADO_ARRANQUE`. -/
def arranque (pila : List UInt8) : Placa :=
  if s.control.psocInicializado then { s with estadoActual := .inicializacion }
  else
    let s := { s with control := { s.control with
      cntTimeoutInicio := s.control.cntTimeoutInicio - 1 } }
    if s.control.cntTimeoutInicio = 0 then s.repite pila else s

/-- The case `ESTADO_INICIALIZACION`. -/
def inicializacion : Placa :=
  let conectado := s.control.bleConectado || s.clientAuthenticated
  { s.sendToPSOC5 [if conectado then 1 else 0, s.control.dispositivoInicializado]
      Handle.bloqueStatus with
    estadoActual := .normal }

/-! ## `ESTADO_NORMAL` -/

/-- A client that has not been authenticated in `DEFAULT_BLE_AUTH_TIMEOUT` is disconnected. -/
def compruebaAuth (ahora : UInt32) : Placa :=
  if s.authTimer ≠ 0 ∧ ahora - s.authTimer > 20000 ∧ s.authSuccess = false then
    { s with authTimer := 0, deviceBleDisconnect := true }
  else s

/-- Through what the client is connected. -/
def eligeInterfaz : Placa :=
  if s.control.bleConectado then { s with ifaceCon := .ble }
  else if s.clientAuthenticated then { s with ifaceCon := .coms }
  else s

/-- The other processor is told of the test client. -/
def avisaPruebas : Placa :=
  if s.testing then { s.sendToPSOC5 [1, 4] Handle.bloqueStatus with lastUserCon := true } else s

/-- A change that the other processor has to be told of. -/
def notaCambio : Placa :=
  if s.ifaceCon = .ble ∧ s.lastUserCon ≠ s.control.bleConectado ∨
      s.oldInicializado ≠ s.control.dispositivoInicializado then
    { s with
      lastUserCon := s.control.bleConectado
      oldInicializado := s.control.dispositivoInicializado
      conexionTrigger := true }
  else s

/-- It is told once it has sent the index of the user. -/
def avisaCambio : Placa :=
  if s.conexionTrigger ∧ s.control.userIndexArrived then
    let s := s.sendStatusToPSOC5 s.control.bleConectado s.control.dispositivoInicializado 0
    { s with
      conexionTrigger := false
      control := { s.control with userIndexArrived := false } }
  else if s.ifaceCon = .coms ∧ s.lastUserCon ≠ s.clientAuthenticated then
    let s := s.sendStatusToPSOC5 s.clientAuthenticated s.control.dispositivoInicializado 1
    { s with lastUserCon := s.clientAuthenticated }
  else s

/-- One order. -/
def mandaOrden : Placa :=
  let comands := s.control.comands
  if comands.start then
    let s := s.sendToPSOC5 [1] Handle.chargingBleManualStart
    { s with control := { s.control with comands := { s.control.comands with start := false } } }
  else if comands.stop then s.sendToPSOC5 [1] Handle.chargingBleManualStop
  else if comands.newdata then
    s.sendToPSOC5 [comands.desiredCurrent] Handle.measuresCurrentCommand
  else s

/-- The order to restart comes after the others. -/
def pideReset : Bool :=
  !s.control.comands.start && !s.control.comands.stop && !s.control.comands.newdata && s.reset

/-- A record that has arrived, while the database can be reached. -/
def tomaRegistro : Placa :=
  if s.control.configFirebase.internetConection ∧ s.control.registro.newRecordReceived then
    { s with
      control := { s.control with registro := { s.control.registro with
        newRecordReceived := false } }
      recordPendingForWrite := s.recordPendingForWrite || !s.control.bleConectado }
  else s

/-- The records are asked for again, from the last one on. -/
def reiniciaRegistros : Placa :=
  if s.recordsTrigger then
    { s with
      recordsTrigger := false
      control := { s.control with registro := { s.control.registro with
        recordIndex := s.control.registro.lastRecordInMem
        recordLap := s.control.registro.lastRecordLap
        askForNewRecord := true } } }
  else s

/-- The record that is wanted is asked for every half a second. -/
def pideRegistro (ahora : UInt32) : Placa :=
  if s.control.registro.askForNewRecord ∧ ahora - s.askForNewRecordStartTimeout > 500 then
    { s.sendToPSOC5 [s.control.registro.recordIndex, 0] Handle.recordingRecIndex with
      askForNewRecordStartTimeout := ahora }
  else s

/-- The charger restarts when it has had no status for long. -/
def vigila : Placa :=
  let s := { s with control := { s.control with
    timeoutMainDisconnect := s.control.timeoutMainDisconnect + 1 } }
  if s.control.timeoutMainDisconnect > 100000 then s.restart else s

/-- The case `ESTADO_NORMAL`. -/
def normal (ahora : UInt32) : Placa :=
  let s := (((s.compruebaAuth ahora).eligeInterfaz.avisaPruebas).notaCambio).avisaCambio
  if s.pideReset then s.restart
  else (s.mandaOrden.tomaRegistro.reiniciaRegistros.pideRegistro ahora).vigila

/-! ## The task -/

/-- There is firmware for the other processor, which is asked for its boot loader. -/
def esperaCargador : Placa :=
  if s.control.updateTaskrunning = false ∧ s.control.psocUpdateCounter ≤ 100 then
    let s := s.sendToPSOC5 [0] Handle.bootLoaderLoadSwApp
    { s with control := { s.control with
      psocUpdateCounter := s.control.psocUpdateCounter + 1 } }
  else if s.control.psocUpdateCounter > 100 then
    { s with control := { s.control with
      psocUpdateCounter := 0
      status := { s.control.status with errorCode := 0x08 } } }.restart
  else s

/-- A pass of `controlTask` at a time; `pila` is what stands behind its locals. -/
def controlTask (pila : List UInt8) (ahora : UInt32) : Placa :=
  if s.mainFwUpdateActive = false ∨ s.emergencyState = true then
    match s.estadoActual with
    | .arranque => s.arranque pila
    | .inicializacion => s.inicializacion
    | .normal => s.normal ahora
  else s.esperaCargador

end Placa

end VeltiumCharger.Arranque
