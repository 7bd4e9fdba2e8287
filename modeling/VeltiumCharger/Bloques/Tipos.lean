import VeltiumCharger.Group.Tipos
import VeltiumCharger.Library.Buffer

/-!
# The state behind the blocks of the other processor

The variables that `procesar_bloque` reads or writes, and what it sends: values
published over Bluetooth, notifications, frames to the other processor and calls of
other tasks, in the order of the calls.
-/

namespace VeltiumCharger.Bloques

open VeltiumCharger.Group

/-- `buffer_rx_local`, byte by byte. -/
abbrev Recibido := Nat → UInt8

/-- The bytes from `desde` on that a `memcpy` of `len` bytes takes. -/
def bytes (buffer : Recibido) (desde len : Nat) : List UInt8 :=
  (List.range len).map fun k => buffer (desde + k)

/-- `buffer[i] + buffer[i+1] * 0x100`, of 16 bits. -/
def palabra (buffer : Recibido) (i : Nat) : UInt16 :=
  (buffer i).toUInt16 + (buffer (i + 1)).toUInt16 * 0x100

/-! ## Pairs of bytes -/

/-- The two bytes of an authentication mode, or of a pilot state. -/
structure Modo where
  c0 : UInt8
  c1 : UInt8
  deriving DecidableEq, Repr

namespace Modo

/-- The mode `"xy"`. -/
def ofText (x y : Char) : Modo :=
  ⟨x.toUInt8, y.toUInt8⟩

/-- Not `memcmp("AA", m, 2) && memcmp("WA", m, 2) && memcmp("MA", m, 2)`. -/
def valido (modo : Modo) : Bool :=
  modo == ofText 'A' 'A' || modo == ofText 'W' 'A' || modo == ofText 'M' 'A'

/-- The two bytes of a buffer. -/
def de (buffer : Recibido) (i : Nat) : Modo :=
  ⟨buffer i, buffer (i + 1)⟩

/-- The two bytes, as they are sent. -/
def bytes (modo : Modo) : List UInt8 :=
  [modo.c0, modo.c1]

/-- A pilot state, as the three bytes that `Status.HPT_status` holds. -/
def hpt (modo : Modo) : Hpt :=
  ⟨modo.c0, modo.c1, 0⟩

end Modo

/-! ## Variables -/

/-- `caract_measures`, less the fields that no block sets. -/
structure Measures where
  maxCurrentCable : UInt8
  consumoDomestico : UInt16
  instantCurrent : UInt16
  instantVoltage : UInt16
  activePower : UInt16
  activeEnergy : UInt32

/-- `caract_date_time` -/
structure DateTime where
  hora : UInt8
  actualTime : Int
  connectDateTime : Int
  disconnectDateTime : Int
  chargeStartTime : Int
  chargeStopTime : Int

/-- `carac_Status`, less the fields that no block sets. -/
structure Status where
  icpStatus : Bool
  dcLeackStatus : Bool
  conLock : Bool
  trifasico : Bool
  errorCode : UInt8
  currentLimit : UInt8
  hptStatus : Hpt
  measures : Measures
  measuresB : Measures
  measuresC : Measures
  time : DateTime
  netPower : Int32
  totalPower : Int32
  externalMeterPower : Int32
  photovoltaic : Bool

/-- `carac_Params`, less the fields that no block sets. -/
structure Params where
  tipoSensor : Bool
  fwUpdateMode : Modo
  autenticationMode : Modo
  cdp : UInt8
  installCurrentLimit : UInt8
  potenciaContratada1 : UInt16
  potenciaContratada2 : UInt16

/-- `carac_Comands`, less the fields that no block sets. -/
structure Comands where
  start : Bool
  stop : Bool
  desiredCurrent : UInt8
  newdata : Bool

/-- `carac_config`, less the fields that no block sets. -/
structure Configuracion where
  deviceID : Recibido
  deviceSerNum : List UInt8
  autenticationMode : Modo
  firmwareESP : UInt16
  firmwarePSOC : UInt16
  dataCleared : UInt8
  cdp : UInt8
  installCurrentLimit : UInt8
  countReiniciosMalos : UInt8
  potenciaContratada1 : UInt16
  potenciaContratada2 : UInt16
  veltV : UInt8
  medidor485 : UInt8

/-- An address of four bytes. -/
structure Ip4 where
  a : UInt8
  b : UInt8
  c : UInt8
  d : UInt8
  deriving DecidableEq, Repr

/-- `Coms`: the Ethernet connection and the switch of the wireless one. -/
structure Coms where
  wifiOn : Bool
  on : Bool
  auto : Bool
  dhcp : Bool
  internet : Bool
  wifiPerm : Bool
  restart : Bool
  conectado : Bool
  medidor : Bool
  ip : Ip4
  gateway : Ip4
  mask : Ip4
  startConnection : Bool

/-- `ContadorExt`, less the fields that no block sets. -/
structure ContadorExt where
  gatewayConectado : Bool
  conexionPerdida : Bool
  medidorConectado : Bool
  power : Int32

/-- `ConfigFirebase`, less the fields that no block reads or sets. -/
structure ConfigFirebase where
  writeStatus : Bool
  resetUser : Bool
  userReseted : Bool
  writeUser : Bool
  writeTime : Bool
  deviceSerNum : List UInt8
  deviceId : List UInt8
  deviceDbID : List UInt8
  internetConection : Bool
  firebaseConnState : UInt8
  lastConnState : UInt8

/-- `ChargingGroup`, less the fields that no block reads or sets. -/
structure ChargingGroup where
  askPerm : Bool
  chargPerm : Bool
  conected : Bool
  finding : Bool
  groupMaster : UInt8
  groupActive : UInt8
  cdp : UInt8

/-- `ContadorConfigurado()` -/
def ChargingGroup.contadorConfigurado (grupo : ChargingGroup) : Bool :=
  (grupo.cdp >>> 4) &&& 1 != 0

/-- The variables of the records. -/
structure Registro where
  recordReceivedBuffer : Recibido
  recordReceivedBufferForFb : Recibido
  newRecordReceived : Bool
  askForNewRecord : Bool
  recordIndex : UInt8
  recordLap : UInt8
  lastRecordInMem : UInt8
  lastRecordLap : UInt8

/-- What a block sends or calls. -/
inductive Salida
  | modifyCharacteristic (data : List UInt8) (attrHandle : UInt16)
  | serverbleNotCharacteristic (data : List UInt8) (attrHandle : UInt16)
  | sendToPSOC5 (data : List UInt8) (attrHandle : UInt16)
  | updateStatusComs (code : UInt16) (block : UInt8)
  | changeAdvName (name : Recibido)
  | devAuthInit (serNum : List UInt8)
  | updateTask
  | restart

/-- The fields of `struct tm` that `Convert_To_Epoch` sets. -/
structure Tm where
  year : Nat
  mon : Nat
  mday : Nat
  hour : Nat
  min : Nat
  sec : Nat

/-- The state.  The last fields are what the functions of the network and of the
libraries return: `serverbleGetConnected`, `ComprobarConexion`, `mktime` and
`ParseFirmwareVersion`. -/
structure Control where
  systemStarted : Bool
  psocInicializado : Bool
  dispositivoInicializado : UInt8
  cntTimeoutInicio : UInt8
  timeoutMainDisconnect : Int
  deviceID : Recibido
  deviceSerNum : List UInt8
  espVersionFirmware : Recibido
  psocVersionFirmware : Recibido
  userIndex : UInt8
  userIndexArrived : Bool
  statusHptAnterior : Modo
  instCurrentAnterior : UInt16
  cntDiferencia : UInt16
  autSemilla : Nat
  bloqueoDeCarga : Bool
  bloqueoDeCargaOld : Bool
  globalScheduleBuffer : Recibido
  flagScheduleAck : Bool
  psocUpdateCounter : UInt8
  updateTaskrunning : Bool
  psocUpdateRequest : Bool
  status : Status
  params : Params
  comands : Comands
  configuracion : Configuracion
  coms : Coms
  contadorExt : ContadorExt
  configFirebase : ConfigFirebase
  chargingGroup : ChargingGroup
  registro : Registro
  salida : List Salida
  bleConectado : Bool
  comprobarConexion : Bool
  mktime : Tm → Int
  parseFirmwareVersion : Recibido → UInt16

namespace Control

variable (s : Control)

/-- A call is recorded. -/
def anota (llamada : Salida) : Control :=
  { s with salida := s.salida ++ [llamada] }

/-- `modifyCharacteristic` -/
def modifyCharacteristic (data : List UInt8) (attrHandle : UInt16) : Control :=
  s.anota (.modifyCharacteristic data attrHandle)

/-- `serverbleNotCharacteristic` -/
def serverbleNotCharacteristic (data : List UInt8) (attrHandle : UInt16) : Control :=
  s.anota (.serverbleNotCharacteristic data attrHandle)

/-- `SendToPSOC5`: nothing is sent during an update. -/
def sendToPSOC5 (data : List UInt8) (attrHandle : UInt16) : Control :=
  if s.updateTaskrunning then s else s.anota (.sendToPSOC5 data attrHandle)

/-- `Update_Status_Coms`, whose block is 0 unless given. -/
def updateStatusComs (code : UInt16) (block : UInt8) : Control :=
  s.anota (.updateStatusComs code block)

/-- `SendToPSOC5(Bloqueo_de_carga, BLOQUEO_CARGA)` -/
def enviaBloqueo : Control :=
  s.sendToPSOC5 [if s.bloqueoDeCarga then 1 else 0] 0x00DD

end Control

/-- Measures that have not been set. -/
def Measures.inicial : Measures where
  maxCurrentCable := 0
  consumoDomestico := 0
  instantCurrent := 0
  instantVoltage := 0
  activePower := 0
  activeEnergy := 0

/-- The charger before its first block, with the stored mode `WA`.  A version is read by
its four digits; no date is. -/
def Control.inicial : Control where
  systemStarted := false
  psocInicializado := false
  dispositivoInicializado := 1
  cntTimeoutInicio := 1
  timeoutMainDisconnect := 0
  deviceID := fun _ => 0
  deviceSerNum := List.replicate 10 0xFF
  espVersionFirmware := fun i =>
    [0x56, 0x42, 0x4C, 0x45, 0x30, 0x5F, 0x30, 0x36, 0x31, 0x39].getD i 0
  psocVersionFirmware := fun _ => 0
  userIndex := 0
  userIndexArrived := false
  statusHptAnterior := .ofText 'F' 'F'
  instCurrentAnterior := 0
  cntDiferencia := 1
  autSemilla := 0
  bloqueoDeCarga := true
  bloqueoDeCargaOld := true
  globalScheduleBuffer := fun _ => 0
  flagScheduleAck := false
  psocUpdateCounter := 0
  updateTaskrunning := false
  psocUpdateRequest := false
  status :=
    { icpStatus := false, dcLeackStatus := false, conLock := false, trifasico := false
      errorCode := 0, currentLimit := 0, hptStatus := ⟨0, 0, 0⟩
      measures := .inicial, measuresB := .inicial, measuresC := .inicial
      time :=
        { hora := 0, actualTime := 0, connectDateTime := 0, disconnectDateTime := 0
          chargeStartTime := 0, chargeStopTime := 0 }
      netPower := 0, totalPower := 0, externalMeterPower := 0, photovoltaic := false }
  params :=
    { tipoSensor := false, fwUpdateMode := ⟨0, 0⟩, autenticationMode := ⟨0, 0⟩, cdp := 0
      installCurrentLimit := 0, potenciaContratada1 := 0, potenciaContratada2 := 0 }
  comands := { start := false, stop := false, desiredCurrent := 0, newdata := false }
  configuracion :=
    { deviceID := fun _ => 0, deviceSerNum := [], autenticationMode := .ofText 'W' 'A'
      firmwareESP := 500, firmwarePSOC := 500, dataCleared := 0, cdp := 0
      installCurrentLimit := 32, countReiniciosMalos := 0, potenciaContratada1 := 32
      potenciaContratada2 := 32, veltV := 0, medidor485 := 0 }
  coms :=
    { wifiOn := false, on := false, auto := true, dhcp := false, internet := false
      wifiPerm := false, restart := false, conectado := false, medidor := false
      ip := ⟨0, 0, 0, 0⟩, gateway := ⟨0, 0, 0, 0⟩, mask := ⟨0, 0, 0, 0⟩
      startConnection := false }
  contadorExt :=
    { gatewayConectado := false, conexionPerdida := false, medidorConectado := false, power := 0 }
  configFirebase :=
    { writeStatus := false, resetUser := false, userReseted := true, writeUser := false
      writeTime := false, deviceSerNum := [], deviceId := [], deviceDbID := []
      internetConection := false, firebaseConnState := 0, lastConnState := 0 }
  chargingGroup :=
    { askPerm := false, chargPerm := false, conected := false, finding := false
      groupMaster := 0, groupActive := 0, cdp := 0 }
  registro :=
    { recordReceivedBuffer := fun _ => 0, recordReceivedBufferForFb := fun _ => 0
      newRecordReceived := false, askForNewRecord := false, recordIndex := 0, recordLap := 0
      lastRecordInMem := 0, lastRecordLap := 0 }
  salida := []
  bleConectado := false
  comprobarConexion := false
  mktime := fun _ => 0
  parseFirmwareVersion := fun version =>
    [6, 7, 8, 9].foldl (fun numero i => numero * 10 + ((version i).toUInt16 - 0x30)) 0

end VeltiumCharger.Bloques
