import VeltiumCharger.Bloques.Tipos
import VeltiumCharger.Library.Loop

/-!
# The blocks of the other processor

`procesar_bloque` is given the type of a block and finds its bytes in
`buffer_rx_local`, which keeps those of earlier blocks behind them.  The long cases are
divided into their parts.
-/

namespace VeltiumCharger.Bloques

open VeltiumCharger.Group VeltiumCharger.Loop VeltiumCharger.Buffer

/-! ## Handles

The handles of `tipos.h`, without their `_CHAR_HANDLE`. -/

namespace Handle

def statusHptStatus : UInt16 := 0x000E
def statusIcpStatus : UInt16 := 0x0011
def statusRcdStatus : UInt16 := 0x0015
def statusConnLockStatus : UInt16 := 0x0017
def measuresMaxCurrentCable : UInt16 := 0x001A
def measuresInstalationCurrentLimit : UInt16 := 0x001C
def measuresCurrentCommand : UInt16 := 0x001E
def measuresInstCurrent : UInt16 := 0x0020
def measuresInstVoltage : UInt16 := 0x0023
def measuresActivePower : UInt16 := 0x0025
def measuresActiveEnergy : UInt16 := 0x0029
def measuresApparentPower : UInt16 := 0x002D
def energyRecordRecord : UInt16 := 0x0032
def timeDateDateTime : UInt16 := 0x0039
def timeDateConnectionDateTime : UInt16 := 0x003B
def timeDateDisconnectionDateTime : UInt16 := 0x003D
def timeDateChargingStartTime : UInt16 := 0x0041
def timeDateChargingStopTime : UInt16 := 0x0043
def chargingInstantDelayed : UInt16 := 0x0046
def chargingStartStopStartMode : UInt16 := 0x0048
def chargingBleManualStart : UInt16 := 0x004A
def chargingBleManualStop : UInt16 := 0x004C
def schedChargingScheduleMatrix : UInt16 := 0x004F
def vcdNameUsersChargerDeviceId : UInt16 := 0x0052
def vcdNameUsersUsersNumber : UInt16 := 0x0054
def vcdNameUsersUserType : UInt16 := 0x0056
def vcdNameUsersUserIndex : UInt16 := 0x0058
def testLaunchRcdPeTest : UInt16 := 0x005B
def testRcdPeTestResult : UInt16 := 0x005D
def manLockUnlockLockingMechanismOnOff : UInt16 := 0x0064
def bootLoaderLoadSwApp : UInt16 := 0x0069
def ledLuminColorLuminosityLevel : UInt16 := 0x006F
def resetReset : UInt16 := 0x0078
def recordingRecCapacity : UInt16 := 0x007E
def recordingRecLast : UInt16 := 0x0080
def recordingRecIndex : UInt16 := 0x0082
def recordingRecLaps : UInt16 := 0x0084
def versionesVersionFirmware : UInt16 := 0x0087
def versionesVersionFirmBle : UInt16 := 0x0089
def configuracionAutenticationModes : UInt16 := 0x008C
def domesticConsumptionRealCurrentLimit : UInt16 := 0x0096
def domesticConsumptionDomesticCurrent : UInt16 := 0x0098
def domesticConsumptionPotenciaContratadaP1 : UInt16 := 0x00A0
def domesticConsumptionDpcMode : UInt16 := 0x00A2
def errorStatusErrorCode : UInt16 := 0x00A5
def timeDateCountry : UInt16 := 0x00A9
def timeDateCalendar : UInt16 := 0x00AB
def comsConfigurationWifiOn : UInt16 := 0x00B1
def comsConfigurationEthOn : UInt16 := 0x00B9
def comsConfigurationLanIp : UInt16 := 0x00BB
def comsConfigurationEthAuto : UInt16 := 0x00BC
def groupsParams : UInt16 := 0x00BF
def groupsCircuits : UInt16 := 0x00C1
def domesticConsumptionPotenciaContratadaP2 : UInt16 := 0x00C3
def measuresInstCurrentB : UInt16 := 0x00C5
def measuresInstCurrentC : UInt16 := 0x00C7
def searchExternalMeter : UInt16 := 0x00D2
def comsFwUpdatemode : UInt16 := 0x00D4
def chargeUserId : UInt16 := 0x00D5
def groupsDevicesPart1 : UInt16 := 0x00D6
def groupsDevicesPart2 : UInt16 := 0x00D8
def bloqueoCarga : UInt16 := 0x00DD
def clearFlashSpace : UInt16 := 0x00E5
def photovoltaicTotalPower : UInt16 := 0x00E7
def photovoltaicNetPower : UInt16 := 0x00E9
def externalMeterPower : UInt16 := 0x00EB
def bloqueApn : UInt16 := 0xFFFA
def bloqueDateTime : UInt16 := 0xFFFD
def bloqueStatus : UInt16 := 0xFFFE
def bloqueInicializacion : UInt16 := 0xFFFF

end Handle

namespace Control

variable (buffer : Recibido) (s : Control)

/-! ## Initialisation -/

/-- A digit of `%02X`. -/
def cifraHex (cifra : UInt8) : UInt8 :=
  if cifra < 10 then '0'.toUInt8 + cifra else 'A'.toUInt8 + (cifra - 10)

/-- `startSystem` -/
def startSystem : Control :=
  let s := s.anota (.devAuthInit s.deviceSerNum)
  let firmwarePSOC := s.parseFirmwareVersion s.psocVersionFirmware
  let serNum := s.deviceSerNum.flatMap fun byte : UInt8 =>
    [cifraHex (byte >>> 4), cifraHex (byte &&& 0x0F)]
  let id := bytes s.deviceID 3 8
  { s with
    configuracion := { s.configuracion with
      firmwareESP := s.parseFirmwareVersion s.espVersionFirmware
      firmwarePSOC := firmwarePSOC
      deviceID := write 0 (bytes s.deviceID 0 12) s.configuracion.deviceID
      deviceSerNum := serNum }
    configFirebase := { s.configFirebase with
      deviceDbID := serNum ++ id
      deviceSerNum := serNum
      deviceId := id }
    dispositivoInicializado := if firmwarePSOC ≤ 510 then 2 else s.dispositivoInicializado
    coms := { s.coms with startConnection := true } }

/-- `BLOQUE_INICIALIZACION` up to the authentication mode. -/
def inicioDatos : Control :=
  let s := { s with deviceID := write 0 (bytes buffer 0 11) s.deviceID }
  let s := s.anota (.changeAdvName s.deviceID)
  let s := s.modifyCharacteristic (bytes s.deviceID 0 11) Handle.vcdNameUsersChargerDeviceId
  let s := s.modifyCharacteristic (bytes buffer 11 1) Handle.measuresInstalationCurrentLimit
  let s := s.modifyCharacteristic (bytes buffer 12 6) Handle.timeDateChargingStartTime
  let s := s.modifyCharacteristic (bytes buffer 18 6) Handle.timeDateChargingStopTime
  let s := s.modifyCharacteristic (bytes buffer 24 1) Handle.chargingInstantDelayed
  let s := s.modifyCharacteristic (bytes buffer 25 1) Handle.chargingStartStopStartMode
  let s := s.modifyCharacteristic (bytes buffer 26 168) Handle.schedChargingScheduleMatrix
  let s := s.modifyCharacteristic (bytes buffer 194 1) Handle.vcdNameUsersUsersNumber
  let s := s.modifyCharacteristic (bytes buffer 195 1) Handle.vcdNameUsersUserType
  let s := s.modifyCharacteristic (bytes buffer 196 1) Handle.vcdNameUsersUserIndex
  let s := { s with userIndex := buffer 196 }
  let s := s.modifyCharacteristic (bytes buffer 197 10) Handle.versionesVersionFirmware
  let s := { s with psocVersionFirmware := write 0 (bytes buffer 197 10) s.psocVersionFirmware }
  let s := { s with configuracion := { s.configuracion with
    veltV := s.psocVersionFirmware 4 - 48 } }
  let s := s.modifyCharacteristic (bytes s.espVersionFirmware 0 10) Handle.versionesVersionFirmBle
  let s := s.modifyCharacteristic (bytes buffer 207 2) Handle.recordingRecCapacity
  let s := s.modifyCharacteristic (bytes buffer 209 2) Handle.recordingRecLast
  let last := (palabra buffer 209).toUInt8
  let s := { s with registro := { s.registro with lastRecordInMem := last, recordIndex := last } }
  let s := s.modifyCharacteristic (bytes buffer 211 1) Handle.recordingRecLaps
  { s with registro := { s.registro with
    lastRecordLap := buffer 211, recordLap := buffer 211 } }

/-- The authentication mode at `i`: whether the handler goes on, the buffer and the
state. -/
def modoAutenticacion (i : Nat) : Bool × Recibido × Control :=
  if !(Modo.de buffer i).valido then
    -- the stored mode is taken when it is none of the three, and else the default one sent
    if !s.configuracion.autenticationMode.valido then
      (true, write i s.configuracion.autenticationMode.bytes buffer, s)
    else
      let buffer := write i (Modo.ofText 'W' 'A').bytes buffer
      (false, buffer, s.sendToPSOC5 (bytes buffer i 2) Handle.configuracionAutenticationModes)
  else
    (true, buffer, { s with configuracion := { s.configuracion with
      autenticationMode := Modo.de buffer i } })

/-- `BLOQUE_INICIALIZACION` from the authentication mode to the kind of sensor. -/
def inicioValores : Control :=
  let s := s.modifyCharacteristic (bytes buffer 212 2) Handle.configuracionAutenticationModes
  let s := { s with deviceSerNum := bytes buffer 219 10 }
  let s := s.modifyCharacteristic (bytes buffer 229 2)
    Handle.domesticConsumptionPotenciaContratadaP1
  let s := s.modifyCharacteristic (bytes buffer 231 1) Handle.ledLuminColorLuminosityLevel
  let s := s.modifyCharacteristic (bytes buffer 232 1) Handle.domesticConsumptionDpcMode
  let s := s.modifyCharacteristic (bytes buffer 233 1) Handle.measuresCurrentCommand
  let s := s.modifyCharacteristic (bytes buffer 234 2) Handle.comsFwUpdatemode
  let s := s.modifyCharacteristic (bytes buffer 241 2)
    Handle.domesticConsumptionPotenciaContratadaP2
  let s := s.modifyCharacteristic (bytes buffer 243 2) Handle.timeDateCountry
  let s := { s with configuracion := { s.configuracion with
    potenciaContratada1 := palabra buffer 229
    potenciaContratada2 := palabra buffer 241
    installCurrentLimit := buffer 11
    cdp := buffer 232 } }
  { s with params := { s.params with
    autenticationMode := Modo.de buffer 212
    installCurrentLimit := buffer 11
    potenciaContratada1 := palabra buffer 229
    potenciaContratada2 := palabra buffer 241
    cdp := buffer 232 } }

/-- `Params.Tipo_Sensor` of `BLOQUE_INICIALIZACION`. -/
def inicioTipoSensor : Control :=
  if (buffer 232 >>> 1) &&& 0x01 != 0 then
    { s with params := { s.params with
      tipoSensor := (buffer 232 >>> 4) &&& 0x01 != 0 } }.sendToPSOC5 [1] Handle.searchExternalMeter
  else { s with params := { s.params with tipoSensor := false } }

/-- A sensor that is not connected locks the charge. -/
def inicioBloqueo : Control :=
  if s.params.tipoSensor && !s.contadorExt.medidorConectado then
    let s := { s with coms := { s.coms with medidor := true } }
    let s := s.updateStatusComs 0 0x20
    { s with bloqueoDeCarga := true }.enviaBloqueo
  else s

/-- The sensors of `BLOQUE_INICIALIZACION`. -/
def inicioSensor : Control :=
  let s := s.inicioTipoSensor buffer
  { s with status := { s.status with
    photovoltaic := ((buffer 0 >>> 5) &&& 0x03) > 0 } }.inicioBloqueo

/-- `Params.Fw_Update_mode` of a received mode.  The `'\0'` behind its two bytes is the
first byte of `Params.autentication_mode`. -/
def ponFwUpdateMode (modo : Modo) : Control :=
  { s with params := { s.params with
    fwUpdateMode := modo
    autenticationMode := { s.params.autenticationMode with c0 := 0 } } }

/-- `BLOQUE_INICIALIZACION` from the update mode to the start of the system. -/
def inicioComs : Control :=
  let s := s.ponFwUpdateMode (Modo.de buffer 234)
  let s := s.modifyCharacteristic (bytes buffer 234 2) Handle.comsFwUpdatemode
  let s := { s with comands := { s.comands with desiredCurrent := buffer 233 } }
  let s := { s with coms := { s.coms with wifiOn := buffer 236 != 0, on := buffer 237 != 0 } }
  s.modifyCharacteristic (bytes buffer 236 1) Handle.comsConfigurationWifiOn

/-- `BLOQUE_INICIALIZACION` from the authentication mode to the start of the system. -/
def inicioParams : Control :=
  ((s.inicioValores buffer).inicioSensor buffer).inicioComs buffer

/-- `not_delete_group` -/
def notDeleteGroup : List (List UInt8) :=
  [[0xCD, 0x01, 0x21, 0x07, 0x16, 0x00, 0x00, 0x04, 0x98, 0x08],
    [0xCD, 0x01, 0x21, 0x07, 0x16, 0x00, 0x00, 0x05, 0x29, 0x51],
    [0xCD, 0x01, 0x21, 0x09, 0x16, 0x00, 0x00, 0x06, 0x14, 0x54],
    [0xCD, 0x01, 0x21, 0x09, 0x16, 0x00, 0x00, 0x06, 0x14, 0x58]]

/-- One `SendToPSOC5(..., CLEAR_FLASH_SPACE)` after the other. -/
def borraFlash (espacios : List UInt8) : Control :=
  espacios.foldl (fun s espacio => s.sendToPSOC5 [espacio] Handle.clearFlashSpace) s

/-- The flash of the other processor is cleared once. -/
def inicioFlash : Control :=
  if s.configuracion.dataCleared == 0 then
    let s :=
      if !notDeleteGroup.contains s.deviceSerNum then s.borraFlash [41, 45, 3, 6] else s
    s.borraFlash [46, 47, 48, 23, 24]
  else s

/-- The end of `BLOQUE_INICIALIZACION`: the system is started. -/
def inicioSistema : Control :=
  let s := s.startSystem
  { s with systemStarted := true, cntTimeoutInicio := 10, psocInicializado := true }.inicioFlash

/-- The case `BLOQUE_INICIALIZACION`. -/
def casoInicializacion : Control × Recibido :=
  if !s.systemStarted && (buffer 239 == 0x36 || buffer 238 == 0x36) then
    let s := s.inicioDatos buffer
    let (sigue, buffer, s) := s.modoAutenticacion buffer 212
    if sigue then ((s.inicioParams buffer).inicioSistema, buffer) else (s, buffer)
  else (s, buffer)

/-! ## Status -/

/-- `HPT_estados` -/
def hptEstados : List Modo :=
  [.ofText '0' 'V', .ofText 'A' '1', .ofText 'A' '2', .ofText 'B' '1', .ofText 'B' '2',
    .ofText 'C' '1', .ofText 'C' '2', .ofText 'E' '1', .ofText 'F' '1']

/-- A new state for a BLE client. -/
def hptBle (hpt : Modo) : Control :=
  if s.bleConectado then
    if hpt.c0 ≠ 'E'.toUInt8 ∧ hpt.c0 ≠ 'F'.toUInt8 then
      { s with bloqueoDeCarga := true }.serverbleNotCharacteristic hpt.bytes
        Handle.statusHptStatus
    else s.serverbleNotCharacteristic [hpt.c0] Handle.statusHptStatus
  else s

/-- A new state for the database. -/
def hptFirebase (hpt : Modo) : Control :=
  let s := { s with configFirebase := { s.configFirebase with writeStatus := true } }
  if hpt.c0 = 'C'.toUInt8 ∨ s.statusHptAnterior.c0 = 'B'.toUInt8 then
    { s with configFirebase := { s.configFirebase with writeUser := true, resetUser := false } }
  else s

/-- A new state for the group: the permission ends, and the next charge is locked. -/
def hptGrupo (hpt : Modo) : Control :=
  let anterior := s.statusHptAnterior
  let s :=
    if hpt.c0 = 'A'.toUInt8 ∨ anterior.c0 = '0'.toUInt8 then
      { s with chargingGroup := { s.chargingGroup with chargPerm := false, askPerm := false } }
    else s
  if hpt ≠ .ofText 'C' '2' ∧ hpt ≠ .ofText 'B' '2' then
    if s.params.tipoSensor || s.chargingGroup.conected then
      if anterior.c0 = 'C'.toUInt8 ∨ anterior.c0 = 'B'.toUInt8 then
        { s with
          bloqueoDeCarga := true
          chargingGroup := { s.chargingGroup with chargPerm := false, askPerm := false }
        }.enviaBloqueo
      else s
    else s
  else s

/-- The pilot state of `BLOQUE_STATUS`, when it is a new one. -/
def hiloPiloto (hpt : Modo) : Control :=
  if hpt ≠ s.statusHptAnterior then
    let s :=
      if s.dispositivoInicializado ≠ 2 then
        let s := s.sendToPSOC5 [1] Handle.bloqueApn
        { s with
          dispositivoInicializado := 2
          configuracion := { s.configuracion with countReiniciosMalos := 0 } }
      else s
    let s := s.modifyCharacteristic hpt.bytes Handle.statusHptStatus
    let s := ((s.hptBle hpt).hptFirebase hpt).hptGrupo hpt
    { s with statusHptAnterior := hpt }
  else s

/-- `BLOQUE_STATUS` from the state of the protections to the current of phase A. -/
def statusProtecciones : Control :=
  let s := s.modifyCharacteristic (bytes buffer 3 2) Handle.statusIcpStatus
  let s := s.modifyCharacteristic (bytes buffer 5 2) Handle.statusRcdStatus
  let s := s.modifyCharacteristic (bytes buffer 7 2) Handle.statusConnLockStatus
  let s := s.modifyCharacteristic (bytes buffer 9 1) Handle.measuresMaxCurrentCable
  let s := s.modifyCharacteristic (bytes buffer 10 2) Handle.domesticConsumptionDomesticCurrent
  let s := s.modifyCharacteristic (bytes buffer 12 1) Handle.domesticConsumptionRealCurrentLimit
  let s := s.modifyCharacteristic (bytes buffer 13 1) Handle.errorStatusErrorCode
  { s with status := { s.status with
    currentLimit := buffer 12
    measures := { s.status.measures with
      consumoDomestico := palabra buffer 10
      instantCurrent := palabra buffer 14 } } }

/-- The current of `BLOQUE_STATUS` is published when it has changed, once in
`cnt_diferencia` blocks. -/
def statusCorriente : Control :=
  if s.status.measures.instantCurrent ≠ s.instCurrentAnterior ∧ s.bleConectado then
    let s := { s with cntDiferencia := s.cntDiferencia - 1 }
    if s.cntDiferencia = 0 then
      let s := s.modifyCharacteristic (bytes buffer 14 2) Handle.measuresInstCurrent
      let s := { s with
        cntDiferencia := 2
        instCurrentAnterior := s.status.measures.instantCurrent }
      let s := s.serverbleNotCharacteristic (bytes buffer 14 2) Handle.measuresInstCurrent
      let s :=
        if s.status.trifasico then
          (s.serverbleNotCharacteristic (bytes buffer 24 2)
            Handle.measuresInstCurrentB).serverbleNotCharacteristic (bytes buffer 34 2)
            Handle.measuresInstCurrentC
        else s
      { s with configFirebase := { s.configFirebase with writeStatus := true } }
    else s
  else s

/-- The measures of `BLOQUE_STATUS`, as they are published. -/
def statusPublica : Control :=
  let s := s.modifyCharacteristic (bytes buffer 16 2) Handle.measuresInstVoltage
  let s := s.modifyCharacteristic (bytes buffer 18 2) Handle.measuresActivePower
  let s := s.modifyCharacteristic (bytes buffer 20 4) Handle.measuresActiveEnergy
  let s := s.modifyCharacteristic (bytes buffer 46 4) Handle.photovoltaicTotalPower
  let s := s.modifyCharacteristic (bytes buffer 50 4) Handle.photovoltaicNetPower
  let s := s.modifyCharacteristic (bytes buffer 54 1) Handle.measuresApparentPower
  s.modifyCharacteristic (bytes buffer 55 4) Handle.externalMeterPower

/-- `active_energy` of the four bytes at `i`. -/
def energia (i : Nat) : UInt32 :=
  (buffer i).toUInt32 + (buffer (i + 1)).toUInt32 * 0x100 + (buffer (i + 2)).toUInt32 * 0x1000 +
    (buffer (i + 3)).toUInt32 * 0x10000

/-- `memcpy` of four bytes into an `int32_t`. -/
def entero (i : Nat) : Int32 :=
  ((buffer i).toUInt32 + (buffer (i + 1)).toUInt32 * 0x100 + (buffer (i + 2)).toUInt32 * 0x10000 +
    (buffer (i + 3)).toUInt32 * 0x1000000).toInt32

/-- `memcmp(&buffer_rx_local[5], "TR", 2) > 0` -/
def despuesDeTR (modo : Modo) : Bool :=
  'T'.toUInt8 < modo.c0 || modo.c0 == 'T'.toUInt8 && 'R'.toUInt8 < modo.c1

/-- A phase other than A. -/
def fase (i : Nat) (measures : Measures) : Measures :=
  { measures with
    instantCurrent := palabra buffer i
    instantVoltage := palabra buffer (i + 2)
    activePower := palabra buffer (i + 4)
    activeEnergy := energia buffer (i + 6) }

/-- The measures of `BLOQUE_STATUS`, as they are stored. -/
def statusMedidas : Control :=
  let s := { s with status := { s.status with
    errorCode := buffer 13
    icpStatus := Modo.de buffer 3 == Modo.ofText 'C' 'L'
    dcLeackStatus := despuesDeTR (Modo.de buffer 5)
    -- three bytes are compared: the third one of "UL" is its terminator
    conLock := Modo.de buffer 7 == Modo.ofText 'U' 'L' && buffer 9 == 0
    measures := { s.status.measures with
      maxCurrentCable := buffer 9
      instantVoltage := palabra buffer 16
      activePower := palabra buffer 18
      activeEnergy := energia buffer 20 }
    totalPower := entero buffer 46
    netPower := entero buffer 50
    externalMeterPower := entero buffer 55 } }
  let s := { s with contadorExt := { s.contadorExt with power := s.status.externalMeterPower } }
  let s := { s with status := { s.status with trifasico := buffer 44 == 3 } }
  if s.status.trifasico then
    { s with status := { s.status with
      measuresB := fase buffer 24 s.status.measuresB
      measuresC := fase buffer 34 s.status.measuresC } }
  else s

/-- `BLOQUE_STATUS` once it is accepted. -/
def statusAceptado : Control :=
  let hpt := Modo.de buffer 1
  let s := { s with timeoutMainDisconnect := 0 }
  let s := s.modifyCharacteristic (bytes buffer 0 1) Handle.ledLuminColorLuminosityLevel
  let s := { s with status := { s.status with hptStatus := hpt.hpt } }
  let s := s.hiloPiloto hpt
  let s := s.statusProtecciones buffer
  let s := s.statusCorriente buffer
  let s := s.statusPublica buffer
  s.statusMedidas buffer

/-- The case `BLOQUE_STATUS`. -/
def casoStatus : Control :=
  if buffer 45 == 0x36 && s.systemStarted then
    if !hptEstados.contains (Modo.de buffer 1) then s else s.statusAceptado buffer
  else s

/-! ## Dates -/

/-- `Convert_To_Epoch` of the six bytes at `i`. -/
def convertToEpoch (i : Nat) : Int :=
  s.mktime
    { year := 2000 + (buffer (i + 2)).toNat - 1900
      mon := if buffer (i + 1) ≠ 0 then (buffer (i + 1)).toNat - 1 else 0
      mday := (buffer i).toNat
      hour := (buffer (i + 3)).toNat
      min := (buffer (i + 4)).toNat
      sec := (buffer (i + 5)).toNat }

/-- A date that is not the one in `Status.Time` is stored. -/
def ponTiempo (leer : DateTime → Int) (poner : Int → DateTime → DateTime) (timeStamp : Int) :
    Control :=
  if timeStamp ≠ leer s.status.time then
    { s with
      status := { s.status with time := poner timeStamp s.status.time }
      configFirebase := { s.configFirebase with writeTime := true } }
  else s

/-- The case `BLOQUE_DATE_TIME`. -/
def casoDateTime : Control :=
  let s := s.modifyCharacteristic (bytes buffer 0 6) Handle.timeDateDateTime
  let s := { s with status := { s.status with time := { s.status.time with hora := buffer 3 } } }
  let s := { s with autSemilla := (buffer 4).toNat * 0x100 + (buffer 5).toNat }
  let s := s.modifyCharacteristic (bytes buffer 6 6) Handle.timeDateConnectionDateTime
  let s := s.modifyCharacteristic (bytes buffer 12 6) Handle.timeDateDisconnectionDateTime
  let s := s.modifyCharacteristic (bytes buffer 18 6) Handle.timeDateChargingStartTime
  let s := s.modifyCharacteristic (bytes buffer 24 6) Handle.timeDateChargingStopTime
  let s := s.ponTiempo DateTime.connectDateTime (fun t time => { time with connectDateTime := t })
    (s.convertToEpoch buffer 6)
  let s := s.ponTiempo DateTime.disconnectDateTime
    (fun t time => { time with disconnectDateTime := t }) (s.convertToEpoch buffer 12)
  let s := s.ponTiempo DateTime.chargeStartTime (fun t time => { time with chargeStartTime := t })
    (s.convertToEpoch buffer 18)
  let s := s.ponTiempo DateTime.chargeStopTime (fun t time => { time with chargeStopTime := t })
    (s.convertToEpoch buffer 24)
  -- the present time has no write of its own to the database
  { s with status := { s.status with time := { s.status.time with
    actualTime := s.convertToEpoch buffer 0 } } }

/-! ## Records -/

/-- The loop of an energy record: the next sample to read, whether the end has been seen,
and `record_received_buffer`. -/
structure LecturaRegistro where
  j : Nat
  fin : Bool
  registro : Recibido

/-- One round of the loop, which writes the four bytes from `20 + 4 * ronda` on. -/
def leerMuestra (ronda : Nat) (l : LecturaRegistro) : LecturaRegistro :=
  let i := 20 + 4 * ronda
  if l.j < 252 then
    let fin := l.fin || (buffer l.j == 255 && buffer (l.j + 1) == 255)
    let potLeida := (buffer l.j).toNat * 0x100 + (buffer (l.j + 1)).toNat
    { j := l.j + 2
      fin := fin
      registro :=
        if 0 < potLeida ∧ potLeida < 5900 ∧ fin = false then
          write i [buffer l.j, buffer (l.j + 1), 0, 0] l.registro
        else write i [0, 0, 0, 0] l.registro }
  else { l with registro := write i [0, 0, 0, 0] l.registro }

/-- `record_received_buffer` after the loop, of 123 rounds. -/
def leerRegistro (registro : Recibido) : Recibido :=
  (forUpTo 123 (leerMuestra buffer)
    { j := 20, fin := false, registro := write 0 (bytes buffer 0 20) registro }).registro

/-- The case `ENERGY_RECORD_RECORD_CHAR_HANDLE`. -/
def casoEnergyRecord : Control :=
  let s := { s with registro := { s.registro with
    recordReceivedBuffer := leerRegistro buffer s.registro.recordReceivedBuffer
    recordReceivedBufferForFb := write 0 (bytes buffer 0 256) s.registro.recordReceivedBufferForFb
    newRecordReceived := true
    askForNewRecord := false } }
  let hpt := s.status.hptStatus
  let s :=
    if s.configFirebase.internetConection && (s.coms.on || s.coms.wifiOn) &&
        (hpt.is 'A' '1' || hpt.is 'A' '2' || hpt.is '0' 'V') && !s.configFirebase.userReseted then
      { s with configFirebase := { s.configFirebase with resetUser := true } }
    else s
  s.modifyCharacteristic (bytes s.registro.recordReceivedBuffer 0 512) Handle.energyRecordRecord

/-- The case `RECORDING_REC_LAST_CHAR_HANDLE`. -/
def casoRecLast : Control :=
  let last := (palabra buffer 0).toUInt8
  let s := { s with registro := { s.registro with lastRecordInMem := last, recordIndex := last } }
  s.modifyCharacteristic (bytes buffer 0 2) Handle.recordingRecLast

/-- The case `RECORDING_REC_LAPS_CHAR_HANDLE`. -/
def casoRecLaps : Control :=
  let receivedLap := (palabra buffer 0).toUInt8
  let lastLap :=
    if receivedLap = s.registro.lastRecordLap ∨
        receivedLap.toNat = s.registro.lastRecordLap.toNat + 1 then receivedLap
    else s.registro.lastRecordLap
  let s := { s with registro := { s.registro with lastRecordLap := lastLap, recordLap := lastLap } }
  let s := s.modifyCharacteristic (bytes buffer 0 2) Handle.recordingRecLaps
  s.sendToPSOC5 [s.registro.lastRecordInMem, 0] Handle.recordingRecIndex

/-! ## The meter -/

/-- The case `SEARCH_EXTERNAL_METER`. -/
def casoSearchExternalMeter : Control :=
  let s := { s with
    contadorExt := { s.contadorExt with medidorConectado := true }
    configuracion := { s.configuracion with medidor485 := buffer 0 } }
  if buffer 0 ≠ 0 then
    let s := { s with contadorExt := { s.contadorExt with gatewayConectado := true } }
    ((s.updateStatusComs 0x20 0).updateStatusComs 0x40 0).updateStatusComs 0x80 0
  else
    let s := (s.updateStatusComs 0x20 0).updateStatusComs 0 2
    { s with contadorExt := { s.contadorExt with
      gatewayConectado := false, medidorConectado := false } }

/-- No meter of the RS485 line is used. -/
def sinMedidor485 : Control :=
  { s with
    coms := { s.coms with medidor := false }
    configuracion := { s.configuracion with medidor485 := 0 }
    contadorExt := { s.contadorExt with medidorConectado := false } }

/-- `DOMESTIC_CONSUMPTION_DPC_MODE_CHAR_HANDLE` up to the kind of sensor. -/
def dpcSensor (cdp : UInt8) : Control :=
  if (cdp >>> 1) &&& 0x01 != 0 then
    let s := { s with params := { s.params with tipoSensor := (cdp >>> 4) &&& 0x01 != 0 } }
    if s.params.tipoSensor then
      if s.configuracion.medidor485 = 0 then
        let s := { s with coms := { s.coms with medidor := true } }
        (s.updateStatusComs 0 0x20).sendToPSOC5 [1] Handle.searchExternalMeter
      else s
    else s.sinMedidor485
  else { s with params := { s.params with tipoSensor := false } }.sinMedidor485

/-- The case `DOMESTIC_CONSUMPTION_DPC_MODE_CHAR_HANDLE`. -/
def casoDpcMode : Control :=
  let s := s.modifyCharacteristic (bytes buffer 0 1) Handle.domesticConsumptionDpcMode
  let s := { s with
    configuracion := { s.configuracion with cdp := buffer 0 }
    params := { s.params with cdp := buffer 0 } }
  let s := s.dpcSensor s.params.cdp
  let s := { s with status := { s.status with
    photovoltaic := ((buffer 0 >>> 5) &&& 0x03) > 0 } }
  if !s.params.tipoSensor then
    let s := { s with coms := { s.coms with medidor := false } }
    let s := s.updateStatusComs 0 2
    let s := { s with contadorExt := { s.contadorExt with conexionPerdida := false } }
    if s.coms.dhcp && s.chargingGroup.groupActive == 0 then
      { s with coms := { s.coms with restart := true } }
    else s
  else s

/-- The decision of the case `BLOQUEO_CARGA`. -/
def decideBloqueo : Control :=
  let s := { s with bloqueoDeCarga := true }
  if s.dispositivoInicializado ≠ 2 then { s with bloqueoDeCarga := true }
  else if s.chargingGroup.groupActive ≠ 0 ∨ s.chargingGroup.finding = true then
    if s.chargingGroup.conected then
      if s.chargingGroup.chargPerm then
        { s with
          bloqueoDeCarga := false
          chargingGroup := { s.chargingGroup with askPerm := false } }
      else if !s.chargingGroup.askPerm then
        { s with chargingGroup := { s.chargingGroup with askPerm := true } }
      else s
    else s
  else if s.params.tipoSensor ||
      (s.chargingGroup.groupMaster != 0 && s.chargingGroup.contadorConfigurado) then
    if s.contadorExt.medidorConectado then { s with bloqueoDeCarga := false } else s
  else { s with bloqueoDeCarga := false }

/-- The case `BLOQUEO_CARGA`. -/
def casoBloqueoCarga : Control :=
  let s := { s with bloqueoDeCargaOld := s.bloqueoDeCarga }.decideBloqueo
  if s.bloqueoDeCarga ≠ s.bloqueoDeCargaOld then s.enviaBloqueo else s

/-! ## The rest -/

/-- The case `SCHED_CHARGING_SCHEDULE_MATRIX_CHAR_HANDLE`. -/
def casoScheduleMatrix : Control :=
  let s := { s with
    flagScheduleAck := (List.range 168).all fun i => s.globalScheduleBuffer i == buffer i }
  s.modifyCharacteristic (bytes buffer 0 168) Handle.schedChargingScheduleMatrix

/-- The case `CONFIGURACION_AUTENTICATION_MODES_CHAR_HANDLE`. -/
def casoAutenticationModes : Control × Recibido :=
  let (sigue, buffer, s) := s.modoAutenticacion buffer 0
  if sigue then
    let s := s.modifyCharacteristic (bytes buffer 0 2) Handle.configuracionAutenticationModes
    ({ s with
      configuracion := { s.configuracion with autenticationMode := Modo.de buffer 0 }
      params := { s.params with autenticationMode := Modo.de buffer 0 } }, buffer)
  else (s, buffer)

/-- The case `COMS_CONFIGURATION_ETH_ON`. -/
def casoEthOn : Control :=
  let s :=
    if s.coms.medidor && !s.coms.on && buffer 0 != 0 && !s.coms.conectado then
      { s with coms := { s.coms with restart := true } }
    else if s.coms.medidor && s.coms.on && buffer 0 == 0 && !s.coms.conectado then
      { s with coms := { s.coms with restart := true } }
    else s
  let s := { s with coms := { s.coms with on := buffer 0 != 0 } }
  let ip : Ip4 := if s.coms.on then s.coms.ip else ⟨0, 0, 0, 0⟩
  let s :=
    if s.coms.on then
      if s.comprobarConexion then
        { s with
          configFirebase := { s.configFirebase with
            lastConnState := s.configFirebase.firebaseConnState, firebaseConnState := 0 }
          coms := { s.coms with internet := true, wifiPerm := false } }
      else s
    else
      let s := { s with coms := { s.coms with wifiPerm := true, internet := false } }
      if !s.coms.wifiOn then
        { s with configFirebase := { s.configFirebase with internetConection := false } }
      else s
  let s := s.modifyCharacteristic [ip.a, ip.b, ip.c, ip.d] Handle.comsConfigurationLanIp
  s.modifyCharacteristic (bytes buffer 0 1) Handle.comsConfigurationEthOn

/-- The case `COMS_CONFIGURATION_LAN_IP`. -/
def casoLanIp : Control :=
  { s with coms := { s.coms with
    ip := ⟨buffer 0, buffer 1, buffer 2, buffer 3⟩
    gateway := ⟨buffer 4, buffer 5, buffer 6, buffer 7⟩
    mask := ⟨buffer 8, buffer 9, buffer 10, buffer 11⟩ } }

/-- The case `BOOT_LOADER_LOAD_SW_APP_CHAR_HANDLE`. -/
def casoLoadSwApp : Control :=
  let s := { s with psocUpdateCounter := 0 }
  let s := s.anota .updateTask
  { s with updateTaskrunning := true, psocUpdateRequest := false }

end Control

/-! ## The switch -/

/-- The cases of `procesar_bloque`; `publica` are those that only publish the first bytes
under the handle that is their type. -/
inductive TipoBloque
  | inicializacion
  | status
  | dateTime
  | instalationCurrentLimit
  | currentCommand
  | bleManualStart
  | bleManualStop
  | scheduleMatrix
  | userIndex
  | reset
  | energyRecord
  | recLast
  | recLaps
  | searchExternalMeter
  | autenticationModes
  | potenciaContratadaP1
  | potenciaContratadaP2
  | errorCode
  | loadSwApp
  | dpcMode
  | wifiOn
  | ethOn
  | ethAuto
  | fwUpdatemode
  | lanIp
  | bloqueoCarga
  | clearFlashSpace
  | publica (len : Nat) (attrHandle : UInt16)
  | otro
  deriving DecidableEq, Repr

/-- The `case` labels; the four of the groups do nothing, as the default does. -/
def TipoBloque.casos : List (UInt16 × TipoBloque) :=
  [(Handle.bloqueInicializacion, .inicializacion),
    (Handle.bloqueStatus, .status),
    (Handle.bloqueDateTime, .dateTime),
    (Handle.measuresInstalationCurrentLimit, .instalationCurrentLimit),
    (Handle.measuresCurrentCommand, .currentCommand),
    (Handle.timeDateChargingStartTime, .publica 6 Handle.timeDateChargingStartTime),
    (Handle.timeDateChargingStopTime, .publica 6 Handle.timeDateChargingStopTime),
    (Handle.chargingInstantDelayed, .publica 1 Handle.chargingInstantDelayed),
    (Handle.chargingStartStopStartMode, .publica 1 Handle.chargingStartStopStartMode),
    (Handle.chargingBleManualStart, .bleManualStart),
    (Handle.chargingBleManualStop, .bleManualStop),
    (Handle.schedChargingScheduleMatrix, .scheduleMatrix),
    (Handle.vcdNameUsersUsersNumber, .publica 1 Handle.vcdNameUsersUsersNumber),
    (Handle.vcdNameUsersUserType, .publica 1 Handle.vcdNameUsersUserType),
    (Handle.vcdNameUsersUserIndex, .userIndex),
    (Handle.testLaunchRcdPeTest, .publica 1 Handle.testLaunchRcdPeTest),
    (Handle.testRcdPeTestResult, .publica 1 Handle.testRcdPeTestResult),
    (Handle.manLockUnlockLockingMechanismOnOff,
      .publica 1 Handle.manLockUnlockLockingMechanismOnOff),
    (Handle.resetReset, .reset),
    (Handle.chargeUserId, .publica 1 Handle.chargeUserId),
    (Handle.energyRecordRecord, .energyRecord),
    (Handle.recordingRecLast, .recLast),
    (Handle.recordingRecIndex, .publica 2 Handle.recordingRecIndex),
    (Handle.recordingRecLaps, .recLaps),
    (Handle.searchExternalMeter, .searchExternalMeter),
    (Handle.configuracionAutenticationModes, .autenticationModes),
    (Handle.domesticConsumptionPotenciaContratadaP1, .potenciaContratadaP1),
    (Handle.domesticConsumptionPotenciaContratadaP2, .potenciaContratadaP2),
    (Handle.timeDateCountry, .publica 2 Handle.timeDateCountry),
    (Handle.timeDateCalendar, .publica 41 Handle.timeDateCalendar),
    (Handle.errorStatusErrorCode, .errorCode),
    (Handle.bootLoaderLoadSwApp, .loadSwApp),
    (Handle.domesticConsumptionDpcMode, .dpcMode),
    (Handle.comsConfigurationWifiOn, .wifiOn),
    (Handle.comsConfigurationEthOn, .ethOn),
    (Handle.comsConfigurationEthAuto, .ethAuto),
    (Handle.comsFwUpdatemode, .fwUpdatemode),
    (Handle.comsConfigurationLanIp, .lanIp),
    (Handle.groupsDevicesPart1, .otro),
    (Handle.groupsDevicesPart2, .otro),
    (Handle.groupsParams, .otro),
    (Handle.groupsCircuits, .otro),
    (Handle.bloqueoCarga, .bloqueoCarga),
    (Handle.clearFlashSpace, .clearFlashSpace)]

/-- The case of a type. -/
def TipoBloque.de (tipoBloque : UInt16) : TipoBloque :=
  (TipoBloque.casos.lookup tipoBloque).getD .otro

namespace Control

variable (buffer : Recibido) (s : Control)

/-- A case of `procesar_bloque`: the state and the buffer after it. -/
def procesarCaso : TipoBloque → Control × Recibido
  | .inicializacion => s.casoInicializacion buffer
  | .status => (s.casoStatus buffer, buffer)
  | .dateTime => (s.casoDateTime buffer, buffer)
  | .instalationCurrentLimit =>
    let s := s.modifyCharacteristic (bytes buffer 0 1) Handle.measuresInstalationCurrentLimit
    ({ s with
      configuracion := { s.configuracion with installCurrentLimit := buffer 0 }
      params := { s.params with installCurrentLimit := buffer 0 } }, buffer)
  | .currentCommand =>
    let s := { s with comands := { s.comands with
      desiredCurrent := buffer 0, newdata := false } }
    (s.modifyCharacteristic (bytes buffer 0 1) Handle.measuresCurrentCommand, buffer)
  | .bleManualStart =>
    let s := { s with comands := { s.comands with start := false } }
    (s.modifyCharacteristic (bytes buffer 0 1) Handle.chargingBleManualStart, buffer)
  | .bleManualStop =>
    let s := { s with comands := { s.comands with stop := false } }
    (s.modifyCharacteristic (bytes buffer 0 1) Handle.chargingBleManualStop, buffer)
  | .scheduleMatrix => (s.casoScheduleMatrix buffer, buffer)
  | .userIndex =>
    let s := s.modifyCharacteristic (bytes buffer 0 1) Handle.vcdNameUsersUserIndex
    ({ s with userIndex := buffer 0, userIndexArrived := true }, buffer)
  | .reset => (s.anota .restart, buffer)
  | .energyRecord => (s.casoEnergyRecord buffer, buffer)
  | .recLast => (s.casoRecLast buffer, buffer)
  | .recLaps => (s.casoRecLaps buffer, buffer)
  | .searchExternalMeter => (s.casoSearchExternalMeter buffer, buffer)
  | .autenticationModes => s.casoAutenticationModes buffer
  | .potenciaContratadaP1 =>
    let s := s.modifyCharacteristic (bytes buffer 0 2)
      Handle.domesticConsumptionPotenciaContratadaP1
    ({ s with
      configuracion := { s.configuracion with potenciaContratada1 := palabra buffer 0 }
      params := { s.params with potenciaContratada1 := palabra buffer 0 } }, buffer)
  | .potenciaContratadaP2 =>
    let s := s.modifyCharacteristic (bytes buffer 0 2)
      Handle.domesticConsumptionPotenciaContratadaP2
    ({ s with
      configuracion := { s.configuracion with potenciaContratada2 := palabra buffer 0 }
      params := { s.params with potenciaContratada2 := palabra buffer 0 } }, buffer)
  | .errorCode =>
    let s := s.modifyCharacteristic (bytes buffer 0 1) Handle.errorStatusErrorCode
    ({ s with status := { s.status with errorCode := buffer 0 } }, buffer)
  | .loadSwApp => (s.casoLoadSwApp, buffer)
  | .dpcMode => (s.casoDpcMode buffer, buffer)
  | .wifiOn =>
    let s := { s with coms := { s.coms with wifiOn := buffer 0 != 0 } }
    (s.modifyCharacteristic (bytes buffer 0 1) Handle.comsConfigurationWifiOn, buffer)
  | .ethOn => (s.casoEthOn buffer, buffer)
  | .ethAuto => ({ s with coms := { s.coms with auto := buffer 0 != 0 } }, buffer)
  | .fwUpdatemode => (s.ponFwUpdateMode (Modo.de buffer 0), buffer)
  | .lanIp => (s.casoLanIp buffer, buffer)
  | .bloqueoCarga => (s.casoBloqueoCarga, buffer)
  | .clearFlashSpace =>
    ({ s with configuracion := { s.configuracion with dataCleared := 1 } }, buffer)
  | .publica len attrHandle => (s.modifyCharacteristic (bytes buffer 0 len) attrHandle, buffer)
  | .otro => (s, buffer)

/-- `procesar_bloque` -/
def procesarBloque (tipoBloque : UInt16) : Control × Recibido :=
  s.procesarCaso buffer (TipoBloque.de tipoBloque)

/-! ## What sending keeps -/

section Enviar

variable {s : Control}

theorem sendToPSOC5_eq (data : List UInt8) (attrHandle : UInt16) :
    ∃ nuevos, s.sendToPSOC5 data attrHandle = { s with salida := s.salida ++ nuevos } := by
  unfold sendToPSOC5
  split_ifs
  · exact ⟨[], by rw [List.append_nil]⟩
  · exact ⟨_, rfl⟩

theorem borraFlash_eq (espacios : List UInt8) :
    ∃ nuevos, s.borraFlash espacios = { s with salida := s.salida ++ nuevos } := by
  induction espacios generalizing s with
  | nil => exact ⟨[], by rw [List.append_nil]; rfl⟩
  | cons espacio espacios ih =>
      obtain ⟨first, sent⟩ := @sendToPSOC5_eq s [espacio] Handle.clearFlashSpace
      obtain ⟨rest, same⟩ := @ih (s.sendToPSOC5 [espacio] Handle.clearFlashSpace)
      refine ⟨first ++ rest, same.trans ?_⟩
      rw [sent, List.append_assoc]

theorem inicioFlash_eq : ∃ nuevos, s.inicioFlash = { s with salida := s.salida ++ nuevos } := by
  unfold inicioFlash
  dsimp only
  split_ifs
  · obtain ⟨first, sent⟩ := @borraFlash_eq s [41, 45, 3, 6]
    obtain ⟨rest, same⟩ := @borraFlash_eq (s.borraFlash [41, 45, 3, 6]) [46, 47, 48, 23, 24]
    refine ⟨first ++ rest, same.trans ?_⟩
    rw [sent, List.append_assoc]
  · exact borraFlash_eq _
  · exact ⟨[], by rw [List.append_nil]⟩

/-- The system is started. -/
theorem inicioSistema_iniciado :
    s.inicioSistema.systemStarted = true ∧ s.inicioSistema.psocInicializado = true := by
  unfold inicioSistema
  obtain ⟨nuevos, same⟩ := @inicioFlash_eq
    { s.startSystem with systemStarted := true, cntTimeoutInicio := 10, psocInicializado := true }
  dsimp only
  rw [same]
  exact ⟨rfl, rfl⟩

end Enviar

end Control

end VeltiumCharger.Bloques
