import VeltiumCharger.Ble.Selector
import VeltiumCharger.Group.Chargers
import VeltiumCharger.Library.Checked

/-!
# What a write reads and where it writes

`onWrite` with its accesses: the bytes of the value received and the cells of the arrays
it fills.  A write that leaves one of them has no result.  Sizes come from the tables of
the selector, or from the value itself; the length of the value is looked at once.
-/

namespace VeltiumCharger.Ble

open VeltiumCharger.Actualizacion VeltiumCharger.Group
open VeltiumCharger.Bloques hiding palabra
open VeltiumCharger.Buffer VeltiumCharger.Checked VeltiumCharger.Loop

/-! ## Constants -/

/-- `COMS_CONFIGURATION_WIFI_START_PROV` -/
def comsConfigurationWifiStartProv : UInt16 := 0x00B7

/-- `GROUPS_OPERATIONS` -/
def groupsOperations : UInt16 := 0x00BD

/-- `TEST_LAUNCH_MCB_TEST_CHAR_HANDLE` -/
def testLaunchMcbTest : UInt16 := 0x005F

/-- `BACKDOOR_ACTION_NO_ACTION` -/
def backdoorActionNoAction : UInt8 := 0

/-- `BACKDOOR_ACTION_DELETE_GROUP` -/
def backdoorActionDeleteGroup : UInt8 := 69

/-- `HEADER_TX` -/
def headerTx : UInt8 := ':'.toUInt8

/-- The size of `omnibus_packet_buffer`. -/
def sizeofOmnibusPacketBuffer : Nat := 4 + rcsChrOmnibusSize

/-- The size of `chr_selectable_buffer`. -/
def sizeofChrSelectableBuffer : Nat := (1 + rcsMaxIdx) * rcsChrOmnibusSize

/-- The size of `buffer_tx`. -/
def sizeofBufferTx : Nat := 500

/-- The size of `net_buffer` and `group_buffer`. -/
def sizeofNetBuffer : Nat := 452

/-- The size of `Configuracion.data.policy`. -/
def sizeofPolicy : Nat := 4

/-- The values of `POLICY`. -/
def policies : List (List UInt8) :=
  ["ALL", "AUT", "NON"].map fun texto => texto.toList.map Char.toUInt8

/-! ## The value received -/

/-- `data[i]` -/
abbrev leeByte (valor : List UInt8) (i : Nat) : Option UInt8 :=
  load valor.length (mensaje valor) i

/-- `memcpy(..., &data[start], len)` -/
abbrev leeBytes (valor : List UInt8) (start len : Nat) : Option (List UInt8) :=
  loadMany valor.length (mensaje valor) start len

/-- `strlen(&data[start])`: the text must end inside the value. -/
def strlen (valor : List UInt8) (start : Nat) : Option Nat :=
  (valor.drop start).findIdx? (· == 0)

/-! ## State -/

/-- The characteristics with the arrays and the flags that a write fills. -/
structure Memoria extends Caracteristicas where
  omnibusPacketBuffer : Nat → UInt8
  bufferTx : Nat → UInt8
  dataPolicy : Nat → UInt8
  backdoorSelector : UInt8
  startProvisioning : Bool
  creando : Bool
  sendNewParams : Bool
  groupGuardar : Bool

/-- A write of a client: the value received, with what the hardware, the other tasks and
the stack hold during it. -/
inductive EscrituraCliente
  | selector (valor : List UInt8)
  | omnibus (valor : List UInt8) (hw : Hardware)
  | rcsSchMat (valor : List UInt8) (entretanto : List Horario.Evento)
  | fwData (valor : List UInt8) (hw : Hardware)
  | rcsChargingGroup (valor : List UInt8) (heap : Nat → UInt8) (pila : List UInt8)

/-- `rcs_server_set_chr_value`, in the slot of the index. -/
def guardaChrValue (handle : UInt16) (data : List UInt8) (buffer : Nat → UInt8) :
    Option (Nat → UInt8) := do
  let idx := rcsIdxForHandle handle
  let len := min (data.length % 65536) rcsChrOmnibusSize
  let dst := rcsChrOmnibusSize * idx.toNat
  guard (dst + rcsChrOmnibusSize ≤ sizeofChrSelectableBuffer)
  let buffer ← storeAt dst rcsChrOmnibusSize 0 (List.replicate rcsChrOmnibusSize 0) buffer
  storeAt dst rcsChrOmnibusSize 0 (data.take len) buffer

namespace Memoria

variable (m : Memoria)

/-- `authorizedOK` -/
def authorizedOK : Bool :=
  m.servidor.authorizedOK

/-- Change the values behind the selector. -/
def conValores (buffer : Nat → UInt8) : Memoria :=
  { m with servidor := { m.servidor with chrSelectableBuffer := buffer } }

/-- Change the update. -/
def conActualizador (actualizador : Actualizador) : Memoria :=
  { m with servidor := { m.servidor with actualizador } }

/-- Change the group. -/
def conEquipo (equipo : Equipo) : Memoria :=
  { m with servidor := { m.servidor with equipo } }

/-- A value for a handle: to one of `propias`, or to its slot. -/
def publica (propias : List UInt16) (data : List UInt8) (handle : UInt16) : Option Memoria :=
  if propias.contains handle then
    some { m with toCaracteristicas := m.toCaracteristicas.setValue data handle }
  else (guardaChrValue handle data m.servidor.chrSelectableBuffer).map m.conValores

/-- `serverbleNotCharacteristic` -/
def serverbleNotCharacteristic (data : List UInt8) (handle : UInt16) : Option Memoria :=
  m.publica propiasNot data handle

/-- `serverbleSetCharacteristic` -/
def serverbleSetCharacteristic (data : List UInt8) (handle : UInt16) : Option Memoria :=
  m.publica propiasSet data handle

/-- `modifyCharacteristic` -/
def modifyCharacteristic (data : List UInt8) (handle : UInt16) : Option Memoria :=
  m.serverbleSetCharacteristic data handle

/-- `controlSendToSerialLocal`: nothing is sent during an update. -/
def controlSendToSerialLocal (data : List UInt8) : Memoria :=
  if m.servidor.horario.updateTaskrunning then m
  else { m with servidor := { m.servidor with enviados := m.servidor.enviados ++ [data] } }

/-- `SendToPSOC5` of a byte; what is behind it on the stack goes out too. -/
def sendToPSOC5 (data : UInt8) (attrHandle : UInt16) : Memoria :=
  m.controlSendToSerialLocal
    [headerTx, (attrHandle >>> 8).toUInt8, attrHandle.toUInt8, 1, data]

/-! ## The selector -/

/-- What is copied behind the header of a packet. -/
def payloadSelector (selector : UInt8) (pldsize : Nat) : Option (List UInt8) :=
  if !m.authorizedOK && rcsHandleForIdx selector != autenticacionMatrix then
    some (List.replicate pldsize 0)
  else
    loadMany sizeofChrSelectableBuffer m.servidor.chrSelectableBuffer
      (rcsChrOmnibusSize * min selector.toNat rcsMaxIdx) pldsize

/-- `onWrite` of the selector. -/
def onWriteSelector (valor : List UInt8) : Option Memoria :=
  if valor.length % 65536 < 1 then
    some { m with servidor := { m.servidor with omnibus := [0, 0, 0, 0] } }
  else do
    let selector ← leeByte valor 0
    let pldsize := rcsGetSize selector
    if m.servidor.auth.dispositivoInicializado ≠ 2 then some m
    else
      let packet ← store sizeofOmnibusPacketBuffer 0 [selector, 0, pldsize, 0]
        m.omnibusPacketBuffer
      let payload ← m.payloadSelector selector pldsize.toNat
      let packet ← store sizeofOmnibusPacketBuffer 4 payload packet
      let omnibus ← loadMany sizeofOmnibusPacketBuffer packet 0 (4 + pldsize).toNat
      some { m with
        servidor := { m.servidor with omnibus }
        omnibusPacketBuffer := packet }

/-! ## The omnibus, before the client is checked -/

/-- `setAuthToken`: a token that is refused is printed as a text. -/
def setAuthToken (valor : List UInt8) : Option Memoria :=
  if m.servidor.auth.authSuccess then some m
  else do
    let token ← leeBytes valor 4 8
    if m.servidor.auth.acepta (Servidor.tokenDe (mensaje token)) then
      let auth := m.servidor.auth.setAuthToken (Servidor.tokenDe (mensaje token))
      some { m with servidor := { m.servidor with auth } }
    else (strlen valor 4).map fun _ => m

/-- The case `FWUPDATE_BIRD_PROLOG_PSEUDO_CHAR_HANDLE`. -/
def prolog (valor : List UInt8) (hw : Hardware) : Option Memoria := do
  let payload ← leeBytes valor 4 10
  let signature ← store 11 0 payload fun _ => 0
  let signature ← store 11 10 [0] signature
  let updatefileSize ← leeBytes valor 14 4
  let recibido := (List.range 10).map signature ++ updatefileSize
  some (m.conActualizador (m.servidor.actualizador.prolog hw (mensaje recibido)))

/-- The case `FWUPDATE_BIRD_EPILOG_PSEUDO_CHAR_HANDLE`.  When the charger is restarted
there, nothing follows. -/
def epilog (valor : List UInt8) (hw : Hardware) : Option Memoria := do
  let fullCRC32 ← leeBytes valor 4 4
  some (m.conActualizador (m.servidor.actualizador.epilog hw (mensaje fullCRC32)))

/-! ## The omnibus, for an authorised client -/

/-- The case `GROUPS_PARAMS`. -/
def groupsParams (valor : List UInt8) : Option Memoria := do
  let e := m.servidor.equipo
  let groupActive ← leeByte valor 4
  let groupMaster :=
    if !e.conected && groupActive != 0 then 1 else e.grupo.params.groupMaster
  let groupData ← storeAt maxGroupBufferSize sizeOfGroupParams 0 [groupMaster]
    m.servidor.groupData
  let cdp ← leeByte valor 5
  let contractPower ← leeBytes valor 6 2
  let potenciaMax ← leeBytes valor 8 2
  let params ← leeBytes valor 4 (sizeOfGroupParams - 1)
  let groupData ← storeAt maxGroupBufferSize sizeOfGroupParams 1 params groupData
  let equipo :=
    { e with
      stopOrder := e.stopOrder || e.grupo.params.groupActive != 0 && groupActive == 0
      grupo := { e.grupo with
        params :=
          { groupMaster, groupActive, cdp
            contractPower := palabra (mensaje contractPower) 0
            potenciaMax := palabra (mensaje potenciaMax) 0 }
        newData := true } }
  some { m with
    servidor := { m.servidor with equipo, groupData }
    groupGuardar := true
    sendNewParams := true }

/-- The case `GROUPS_CIRCUITS`: `payload[0]` is the number of circuits. -/
def groupsCircuits (valor : List UInt8) : Option Memoria := do
  let e := m.servidor.equipo
  let circuitNumber ← leeByte valor 4
  let size := circuitNumber + 1
  let circuitos ← tryFor circuitNumber.toNat (fun i circuitos => do
    let limite ← leeByte valor (4 + (i + 1))
    store maxGroupSize i [(circuitos i).numerar i limite] circuitos) e.grupo.circuitos
  let circuits ← leeBytes valor 4 size.toNat
  let groupData ← storeAt (maxGroupBufferSize + sizeOfGroupParams) maxGroupBufferSize 0
    circuits m.servidor.groupData
  let equipo :=
    { e with
      sendNewCircuits := true
      grupo := { e.grupo with
        circuitos, circuitNumber := circuitNumber.toNat, newData := true } }
  some { m with
    servidor := { m.servidor with equipo, groupData }
    groupGuardar := true }

/-- The first `size` bytes of a local buffer are published. -/
def publicaBuffer (propias : List UInt16) (buffer : Nat → UInt8) (size : Nat)
    (handle : UInt16) : Option Memoria := do
  let data ← loadMany sizeofNetBuffer buffer 0 size
  m.publica propias data handle

/-- "Actualizar net devices" -/
def actualizarNetDevices : Option Memoria := do
  let e := m.servidor.equipo
  let buffer ← store sizeofNetBuffer 0 [UInt8.ofNat (e.netGroupSize + 1)] fun _ => 0
  let buffer ← store sizeofNetBuffer 1 (List.ofFn e.deviceId) buffer
  let buffer ← store sizeofNetBuffer 9 [0] buffer
  let buffer ← tryFor e.netGroupSize (fun i buffer => do
    let buffer ← store sizeofNetBuffer (i * 9 + 10) (List.ofFn (e.netGroup i).name) buffer
    store sizeofNetBuffer (i * 9 + 18) [0] buffer) buffer
  m.publicaBuffer propiasNot buffer (e.netGroupSize * 9 + 10) chargingGroupBleNetDevices

/-- "Actualizar group_devices" -/
def actualizarGroupDevices : Option Memoria := do
  let s := m.servidor.equipo.grupo
  let buffer ← store sizeofNetBuffer 0 [UInt8.ofNat s.chargerNumber] fun _ => 0
  let buffer ← tryFor s.chargerNumber (fun i buffer => do
    let charger := s.chargerTable i
    let buffer ← store sizeofNetBuffer (i * 9 + 1) (List.ofFn charger.name) buffer
    store sizeofNetBuffer (i * 9 + 9) [charger.circuito <<< 2 + charger.fase] buffer) buffer
  m.publicaBuffer propiasSet buffer (s.chargerNumber * 9 + 1) chargingGroupBleChargingGroup

/-- "Actualizar params" -/
def actualizarParams : Option Memoria := do
  let params := m.servidor.equipo.grupo.params
  let buffer ← store sizeofNetBuffer 0
    [params.groupActive, params.cdp,
      params.contractPower.toUInt8, (params.contractPower >>> 8).toUInt8,
      params.potenciaMax.toUInt8, (params.potenciaMax >>> 8).toUInt8] fun _ => 0
  m.publicaBuffer propiasSet buffer 6 Handle.groupsParams

/-- "Actualizar circuits": the number of circuits is a byte. -/
def actualizarCircuits : Option Memoria := do
  let s := m.servidor.equipo.grupo
  let circuitNumber := UInt8.ofNat s.circuitNumber
  let buffer ← store sizeofNetBuffer 0 [circuitNumber] fun _ => 0
  let buffer ← tryFor circuitNumber.toNat (fun i buffer =>
    store sizeofNetBuffer (i + 1) [(s.circuitos i).limiteCorriente] buffer) buffer
  m.publicaBuffer propiasSet buffer (circuitNumber.toNat + 1) Handle.groupsCircuits

/-- The order to delete the group: `broadcast_a_grupo` and `New_Control`. -/
def borraGrupo : Memoria :=
  m.conEquipo (newControlDelete (broadcastAGrupo m.servidor.equipo))

/-- A charger without a group becomes its master. -/
def comoMaestro (creando : Bool) : Memoria :=
  if m.servidor.equipo.conected then m
  else { m.conEquipo (m.servidor.equipo.conMaestro 1) with creando := m.creando || creando }

/-- The case `GROUPS_OPERATIONS`. -/
def groupsOperations (valor : List UInt8) : Option Memoria := do
  let operation ← leeByte valor 4
  if operation = 1 then (m.comoMaestro true).actualizarNetDevices
  else if operation = 2 then
    let m ← (m.comoMaestro false).actualizarNetDevices
    let m ← m.actualizarGroupDevices
    let m ← m.actualizarParams
    m.actualizarCircuits
  else if operation = 3 then some m.borraGrupo
  else some m

/-- The case `POLICY`. -/
def nuevaPolicy (valor : List UInt8) : Option Memoria := do
  let payload ← leeBytes valor 4 3
  if !policies.contains payload then some m
  else
    let dataPolicy ← store sizeofPolicy 0 payload m.dataPolicy
    { m with dataPolicy }.modifyCharacteristic payload policy

/-- `GroupActive` and `GroupMaster` are shown where a domestic meter would be. -/
def muestraGrupo : Option Memoria := do
  let params := m.servidor.equipo.grupo.params
  let m ← m.modifyCharacteristic [params.groupActive] domesticConsumptionFct
  m.modifyCharacteristic [params.groupMaster] domesticConsumptionFs

/-- A `backdoor_selector` is chosen. -/
def eligeBackdoor (valor : List UInt8) : Option Memoria := do
  let backdoorSelector ← leeByte valor 4
  let m := { m with backdoorSelector }
  let m ← m.modifyCharacteristic [backdoorSelector] domesticConsumptionKs
  if backdoorSelector = backdoorActionDeleteGroup then m.muestraGrupo else some m

/-- "CONFIRM backdoor selection" -/
def confirmaBackdoor : Option Memoria := do
  let m ← (if m.backdoorSelector = backdoorActionDeleteGroup then m.borraGrupo.muestraGrupo
    else some m)
  let m := { m with backdoorSelector := backdoorActionNoAction }
  m.modifyCharacteristic [backdoorActionNoAction] domesticConsumptionKs

/-- "Send payload downstream": one byte more than there is goes out. -/
def enviaPayload (handle : UInt16) (size : UInt8) (valor : List UInt8) : Option Memoria := do
  let bufferTx ← store sizeofBufferTx 0
    [headerTx, (handle >>> 8).toUInt8, handle.toUInt8, size] m.bufferTx
  let payload ← leeBytes valor 4 size.toNat
  let bufferTx ← store sizeofBufferTx 4 payload bufferTx
  let data ← loadMany sizeofBufferTx bufferTx 0 (size.toNat + 4 + 1)
  some ({ m with bufferTx }.controlSendToSerialLocal data)

/-- The cases that go on to the other processor: two of them do something before. -/
def enviaAbajo (handle : UInt16) (size : UInt8) (valor : List UInt8) : Option Memoria := do
  let m ← (if handle = domesticConsumptionKs then m.eligeBackdoor valor else some m)
  let m ← (if handle = testLaunchMcbTest ∧ m.backdoorSelector ≠ 0 then m.confirmaBackdoor
    else some m)
  m.enviaPayload handle size valor

/-- What the omnibus does for an authorised client. -/
def escribeAutorizada (handle : UInt16) (size : UInt8) (valor : List UInt8) :
    Option Memoria :=
  if handle = comsConfigurationWifiStartProv then some { m with startProvisioning := true }
  else if handle = Handle.comsConfigurationEthOn ∨ handle = Handle.comsConfigurationWifiOn then
    (leeByte valor 4).map fun data => m.sendToPSOC5 data handle
  else if handle = Handle.groupsParams then m.groupsParams valor
  else if handle = Handle.groupsCircuits then m.groupsCircuits valor
  else if handle = Ble.groupsOperations then m.groupsOperations valor
  else if handle = policy then m.nuevaPolicy valor
  else m.enviaAbajo handle size valor

/-- What the omnibus does with the payload for a handle. -/
def escribe (handle : UInt16) (size : UInt8) (valor : List UInt8) (hw : Hardware) :
    Option Memoria :=
  if handle = autenticacionToken then m.setAuthToken valor
  else if handle = fwupdateBirdProlog then m.prolog valor hw
  else if handle = fwupdateBirdEpilog then m.epilog valor hw
  else if !m.authorizedOK then some m
  else m.escribeAutorizada handle size valor

/-- `onWrite` of the omnibus. -/
def onWriteOmnibus (valor : List UInt8) (hw : Hardware) : Option Memoria :=
  let m := { m with servidor := { m.servidor with omnibus := valor } }
  if valor.length % 65536 < 5 then some m
  else do
    let selector ← leeByte valor 0
    m.escribe (rcsHandleForIdx selector) (rcsGetSize selector) valor hw

/-! ## The other characteristics -/

/-- `onWrite` of the schedule: `SendScheduleMatrixToPSOC5` reads the seven days in each
round of its loop, and enters it unless the flag is set already. -/
def onWriteSchMat (valor : List UInt8) (entretanto : List Horario.Evento) :
    Option Memoria := do
  let rondas := if m.servidor.horario.flagScheduleAck then 0 else 7
  let matriz ← tryFor rondas (fun day matriz => do
    let horas ← leeBytes valor (day * 24) 24
    some (matriz ++ horas)) []
  some { m with servidor := m.servidor.onWriteSchMat (mensaje matriz) (.avanza .ble :: entretanto) }

/-- `onWrite` of `FW_DATA`: the size of the part is in the message. -/
def onWriteFwData (valor : List UInt8) (hw : Hardware) : Option Memoria := do
  let partIndex ← leeBytes valor 0 2
  let size ← leeBytes valor 2 2
  let partSize := (palabra (mensaje size) 0).toNat
  let payload ← leeBytes valor 4 partSize
  let _ ← store partSize 0 payload fun _ => 0
  let partCRC32 ← leeBytes valor 260 4
  let data := write 260 partCRC32 (mensaje (partIndex ++ size ++ payload))
  some (m.conActualizador (m.servidor.actualizador.fwData hw data))

/-- The text of an empty group. -/
def cleanGroup : List UInt8 := "00_CLEAN".toList.map Char.toUInt8

/-- The chargers of a list are copied into `group_data.group`. -/
def copiaGrupo (valor : List UInt8) (size : Nat) (group : Nat → UInt8) :
    Option (Nat → UInt8) := do
  let group ← tryFor size (fun i group => do
    let nombre ← leeBytes valor (1 + i * 9) 8
    let group ← store maxGroupBufferSize (2 + i * 9) nombre group
    let cableado ← leeByte valor (9 + i * 9)
    store maxGroupBufferSize (10 + i * 9) [cableado] group) group
  store maxGroupBufferSize (2 + size * 9) [0] group

/-- `group_data.group` is cleared. -/
def limpiaGrupo (group : Nat → UInt8) : Option (Nat → UInt8) := do
  let group ← store maxGroupBufferSize 0 (List.replicate maxGroupBufferSize 0) group
  let group ← store maxGroupBufferSize 0 (cleanGroup ++ [0]) group
  store maxGroupBufferSize 8 [0] group

/-- `onWrite` of the list of chargers: `data[0]` is their number.  The group is stored and
loaded again before the list is taken from it. -/
def onWriteChargingGroup (valor : List UInt8) (heap : Nat → UInt8) (pila : List UInt8) :
    Option Memoria := do
  let size ← leeByte valor 0
  let group ← store maxGroupBufferSize 0 (textoNumero size ++ [0]) m.servidor.groupData
  let group ← (if 0 < size then copiaGrupo valor size.toNat group else limpiaGrupo group)
  let groupData := groupLoad heap (groupStore group) group
  let equipo ← getStoredGroupData ⟨groupData, pila⟩ m.servidor.equipo
  some { m with
    servidor := { m.servidor with equipo := { equipo with sendNewGroup := true }, groupData }
    groupGuardar := true }

/-- `CBCharacteristic::onWrite` -/
def onWrite : EscrituraCliente → Option Memoria
  | .selector valor => m.onWriteSelector valor
  | .omnibus valor hw => m.onWriteOmnibus valor hw
  | .rcsSchMat valor entretanto => m.onWriteSchMat valor entretanto
  | .fwData valor hw => m.onWriteFwData valor hw
  | .rcsChargingGroup valor heap pila => m.onWriteChargingGroup valor heap pila

/-- What is promised: a write of an authorised client stays inside. -/
def Segura (escritura : EscrituraCliente) : Prop :=
  m.authorizedOK = true → (m.onWrite escritura).isSome = true

/-! ## When a write stays inside -/

/-- A token that is not read, that is read and taken, or that is read and printed. -/
def CabeToken (valor : List UInt8) : Prop :=
  m.servidor.auth.authSuccess = true ∨
    12 ≤ valor.length ∧
      (m.servidor.auth.acepta (Servidor.tokenDe fun i => mensaje valor (4 + i)) = true ∨
        0 ∈ valor.drop 4)

/-- The tables an operation on the group publishes fit into its buffers. -/
def CabeOperacion (operation : UInt8) : Prop :=
  (operation = 1 → m.servidor.equipo.netGroupSize ≤ 49) ∧
    (operation = 2 → m.servidor.equipo.netGroupSize ≤ 49 ∧
      m.servidor.equipo.grupo.chargerNumber ≤ 50)

/-- The value has the bytes that its selector takes, and a count within it is not too
large. -/
def CabeAutorizada (handle : UInt16) (size : UInt8) (valor : List UInt8) : Prop :=
  if handle = comsConfigurationWifiStartProv then True
  else if handle = Handle.comsConfigurationEthOn ∨ handle = Handle.comsConfigurationWifiOn then
    True
  else if handle = Handle.groupsParams then 10 ≤ valor.length
  else if handle = Handle.groupsCircuits then
    (mensaje valor 4).toNat ≤ maxGroupSize ∧ 5 + (mensaje valor 4).toNat ≤ valor.length
  else if handle = Ble.groupsOperations then m.CabeOperacion (mensaje valor 4)
  else if handle = policy then 7 ≤ valor.length
  else 4 + size.toNat ≤ valor.length

/-- The same for every handle. -/
def CabePayload (handle : UInt16) (size : UInt8) (valor : List UInt8) : Prop :=
  if handle = autenticacionToken then m.CabeToken valor
  else if handle = fwupdateBirdProlog then 18 ≤ valor.length
  else if handle = fwupdateBirdEpilog then 8 ≤ valor.length
  else if !m.authorizedOK then True
  else m.CabeAutorizada handle size valor

/-- The value is taken for too short, or its handle has enough of it. -/
def CabeOmnibus (valor : List UInt8) : Prop :=
  valor.length % 65536 < 5 ∨
    m.CabePayload (rcsHandleForIdx (mensaje valor 0)) (rcsGetSize (mensaje valor 0)) valor

/-- The chargers announced are in the value, and fit; the number read back, which has no
terminator, fits too. -/
def CabeGrupo (valor pila : List UInt8) : Prop :=
  let size := (mensaje valor 0).toNat
  1 + size * 9 ≤ valor.length ∧ size < maxGroupSize ∧
    (UInt8.ofInt (atoi (textoNumero (mensaje valor 0) ++ pila))).toNat ≤ maxGroupSize

/-- The writes that stay inside. -/
def Cabe : EscrituraCliente → Prop
  | .selector _ => True
  | .omnibus valor _ => m.CabeOmnibus valor
  | .rcsSchMat valor _ => m.servidor.horario.flagScheduleAck = true ∨ 168 ≤ valor.length
  | .fwData valor _ => 264 ≤ valor.length ∧ 4 + (palabra (mensaje valor) 2).toNat ≤ valor.length
  | .rcsChargingGroup valor _ pila => CabeGrupo valor pila

end Memoria

/-! ## The value received -/

section Valor

variable {valor : List UInt8}

theorem isSome_strlen_iff {start : Nat} : (strlen valor start).isSome ↔ 0 ∈ valor.drop start := by
  unfold strlen
  rw [List.findIdx?_isSome, List.any_eq_true]
  simp

/-- Bytes read from the value are its bytes. -/
theorem mensaje_map_range {f : Nat → UInt8} {size k : Nat} (inside : k < size) :
    mensaje ((List.range size).map f) k = f k := by
  rw [mensaje, List.getD_eq_getElem _ _ (by simpa using inside), List.getElem_map,
    List.getElem_range]

end Valor

/-! ## Publishing -/

/-- Every handle has a slot. -/
theorem rcsIdxForHandle_le (handle : UInt16) : (rcsIdxForHandle handle).toNat ≤ rcsMaxIdx := by
  have table : tableIdxForHandle.all (fun idx => decide (idx.toNat ≤ rcsMaxIdx)) = true := by
    decide +kernel
  unfold rcsIdxForHandle
  split_ifs
  · by_cases inside : handle.toNat < tableIdxForHandle.length
    · rw [List.getD_eq_getElem _ _ inside]
      exact of_decide_eq_true (List.all_eq_true.mp table _ (List.getElem_mem inside))
    · rw [List.getD_eq_default _ _ (Nat.le_of_not_lt inside)]
      exact Nat.zero_le _
  · exact Nat.zero_le _

/-- A value written to its slot stays inside it. -/
theorem guardaChrValue_eq (handle : UInt16) (data : List UInt8) (buffer : Nat → UInt8) :
    guardaChrValue handle data buffer = some (rcsServerSetChrValue handle data buffer) := by
  have slot : rcsChrOmnibusSize * (rcsIdxForHandle handle).toNat + rcsChrOmnibusSize ≤
      sizeofChrSelectableBuffer := by
    have le := rcsIdxForHandle_le handle
    unfold sizeofChrSelectableBuffer rcsChrOmnibusSize
    omega
  have cleared : Inside rcsChrOmnibusSize 0 (List.replicate rcsChrOmnibusSize (0 : UInt8)).length :=
    Or.inr (by rw [List.length_replicate, Nat.zero_add])
  have copied : Inside rcsChrOmnibusSize 0
      (data.take (min (data.length % 65536) rcsChrOmnibusSize)).length := by
    refine Or.inr ?_
    rw [List.length_take]
    omega
  simp only [guardaChrValue, storeAt, if_pos cleared, if_pos copied, guard, if_pos slot,
    Option.bind_eq_bind, Option.pure_def, Option.bind_some, Nat.add_zero]
  rfl

namespace Memoria

variable {m : Memoria}

/-- A publication changes the values only. -/
theorem publica_spec (propias : List UInt16) (data : List UInt8) (handle : UInt16) :
    ∃ next, m.publica propias data handle = some next ∧
      next.servidor.equipo = m.servidor.equipo := by
  unfold publica
  split_ifs
  · exact ⟨_, rfl, rfl⟩
  · rw [guardaChrValue_eq]
    exact ⟨_, rfl, rfl⟩

theorem isSome_publica (propias : List UInt16) (data : List UInt8) (handle : UInt16) :
    (m.publica propias data handle).isSome = true := by
  obtain ⟨next, published, -⟩ := @publica_spec m propias data handle
  rw [published]
  rfl

theorem isSome_modifyCharacteristic (data : List UInt8) (handle : UInt16) :
    (m.modifyCharacteristic data handle).isSome = true :=
  isSome_publica propiasSet data handle

theorem isSome_muestraGrupo : m.muestraGrupo.isSome = true := by
  unfold muestraGrupo
  exact (isSome_bind_iff _ fun _ _ => iff_of_true (isSome_modifyCharacteristic _ _) trivial).mpr
    ⟨isSome_modifyCharacteristic _ _, trivial⟩

/-! ## The parts of a write -/

/-- The payload of a packet is the one of the server. -/
theorem payloadSelector_eq (selector : UInt8) :
    m.payloadSelector selector (rcsGetSize selector).toNat =
      some (m.servidor.payloadSelector selector) := by
  have slot : Inside sizeofChrSelectableBuffer (rcsChrOmnibusSize * min selector.toNat rcsMaxIdx)
      (rcsGetSize selector).toNat := by
    have small := rcsGetSize_le selector
    have le := Nat.min_le_right selector.toNat rcsMaxIdx
    unfold sizeofChrSelectableBuffer rcsChrOmnibusSize at *
    omega
  unfold payloadSelector Servidor.payloadSelector authorizedOK
  split_ifs
  · rfl
  · rw [loadMany, if_pos slot]
    simp only [tramo, Servidor.rcsServerGetDataForSelector, Nat.zero_add]

theorem length_payloadSelector (s : Servidor) (selector : UInt8) :
    (s.payloadSelector selector).length = (rcsGetSize selector).toNat := by
  unfold Servidor.payloadSelector tramo
  split_ifs <;> simp

/-- The selector stays inside its packet and its slots, and shows what the server does. -/
theorem onWriteSelector_eq (valor : List UInt8) :
    ∃ packet, m.onWriteSelector valor = some { m with
      servidor := m.servidor.onWriteSelector (valor.length % 65536) (mensaje valor)
      omnibusPacketBuffer := packet } := by
  unfold onWriteSelector Servidor.onWriteSelector
  by_cases empty : valor.length % 65536 < 1
  · rw [if_pos empty, if_pos empty]
    exact ⟨m.omnibusPacketBuffer, rfl⟩
  · rw [if_neg empty, if_neg empty, leeByte, load_of_lt (by omega)]
    simp only [Option.bind_eq_bind, Option.bind_some]
    by_cases ready : m.servidor.auth.dispositivoInicializado = 2
    · have room : 4 + (rcsGetSize (mensaje valor 0)).toNat ≤ sizeofOmnibusPacketBuffer :=
        Nat.add_le_add_left (rcsGetSize_le _) 4
      have size : (4 + rcsGetSize (mensaje valor 0)).toNat =
          4 + (rcsGetSize (mensaje valor 0)).toNat := by
        rw [UInt8.toNat_add]
        exact Nat.mod_eq_of_lt (room.trans_lt (by decide))
      have length := length_payloadSelector m.servidor (mensaje valor 0)
      have packet := (begins_write_zero [mensaje valor 0, 0, rcsGetSize (mensaje valor 0), 0]
        m.omnibusPacketBuffer).write (m.servidor.payloadSelector (mensaje valor 0))
      have whole := packet.eq_map
      rw [List.length_append, length] at whole
      rw [if_neg (not_not.mpr ready), if_neg (not_not.mpr ready),
        store_of_le (show 0 + 4 ≤ sizeofOmnibusPacketBuffer by decide), Option.bind_some,
        payloadSelector_eq, Option.bind_some, store_of_le (by rwa [length]), Option.bind_some,
        size, loadMany_zero room, Option.bind_some]
      exact ⟨_, congrArg some (by rw [← whole]; rfl)⟩
    · rw [if_pos ready, if_pos ready]
      exact ⟨m.omnibusPacketBuffer, rfl⟩

/-! ## Before the client is checked -/

theorem isSome_setAuthToken_iff {valor : List UInt8} :
    (m.setAuthToken valor).isSome ↔ m.CabeToken valor := by
  have token : Servidor.tokenDe (mensaje ((List.range 8).map fun k => mensaje valor (4 + k))) =
      Servidor.tokenDe fun i => mensaje valor (4 + i) :=
    congrArg Vector.ofFn (funext fun i => mensaje_map_range i.isLt)
  unfold setAuthToken CabeToken
  by_cases success : m.servidor.auth.authSuccess = true
  · rw [if_pos success]
    exact iff_of_true rfl (Or.inl success)
  · rw [if_neg success, or_iff_right success, Option.bind_eq_bind, isSome_loadMany_bind, token]
    refine and_congr ⟨fun inside => by omega, fun inside => Or.inr inside⟩ ?_
    by_cases accepted :
        m.servidor.auth.acepta (Servidor.tokenDe fun i => mensaje valor (4 + i)) = true
    · rw [if_pos accepted]
      exact iff_of_true rfl (Or.inl accepted)
    · rw [if_neg accepted, or_iff_right accepted, Option.isSome_map]
      exact isSome_strlen_iff

theorem isSome_prolog_iff {valor : List UInt8} {hw : Hardware} :
    (m.prolog valor hw).isSome ↔ 18 ≤ valor.length := by
  unfold prolog
  simp only [Option.bind_eq_bind, isSome_loadMany_bind, isSome_store_bind, List.length_map,
    List.length_range, List.length_singleton, Option.isSome_some, and_true]
  omega

theorem isSome_epilog_iff {valor : List UInt8} {hw : Hardware} :
    (m.epilog valor hw).isSome ↔ 8 ≤ valor.length := by
  unfold epilog
  simp only [Option.bind_eq_bind, isSome_loadMany_bind, Option.isSome_some, and_true]
  omega

/-! ## For an authorised client -/

theorem isSome_groupsParams_iff {valor : List UInt8} :
    (m.groupsParams valor).isSome ↔ 10 ≤ valor.length := by
  unfold groupsParams sizeOfGroupParams
  simp only [Option.bind_eq_bind, isSome_load_bind, isSome_loadMany_bind, isSome_storeAt_bind,
    List.length_map, List.length_range, List.length_singleton, Option.isSome_some, and_true]
  omega

/-- Each circuit is in the value and in `Circuitos`. -/
theorem isSome_groupsCircuits_iff {valor : List UInt8} :
    (m.groupsCircuits valor).isSome ↔
      4 < valor.length ∧ (mensaje valor 4).toNat ≤ maxGroupSize ∧
        5 + (mensaje valor 4).toNat ≤ valor.length := by
  have byte := (mensaje valor 4).toNat_lt
  have size : (mensaje valor 4 + 1).toNat = ((mensaje valor 4).toNat + 1) % 256 :=
    UInt8.toNat_add _ _
  unfold groupsCircuits
  simp only [Option.bind_eq_bind, isSome_load_bind]
  refine and_congr_right fun one => ?_
  rw [isSome_bind_iff (5 + (mensaje valor 4).toNat ≤ valor.length ∨
      (mensaje valor 4).toNat = 255),
    isSome_tryFor_iff (fun i => 4 + (i + 1) < valor.length ∧ i + 1 ≤ maxGroupSize)]
  · constructor
    · rintro ⟨rounds, copied⟩
      have counted : (mensaje valor 4).toNat ≤ maxGroupSize := by
        by_contra more
        have last := (rounds maxGroupSize (Nat.lt_of_not_le more)).2
        exact absurd last (Nat.not_succ_le_self _)
      unfold maxGroupSize at counted
      exact ⟨counted, by omega⟩
    · rintro ⟨counted, copied⟩
      exact ⟨fun i below => ⟨by omega, by omega⟩, Or.inl copied⟩
  · intro i circuitos
    simp only [isSome_load_bind, isSome_store, List.length_singleton]
    omega
  · intro circuitos _
    unfold maxGroupBufferSize
    simp only [isSome_loadMany_bind, isSome_storeAt_bind, List.length_map, List.length_range,
      Option.isSome_some, and_true, size]
    omega

/-! ### The operations on the group -/

theorem isSome_publicaBuffer_iff {propias : List UInt16} {buffer : Nat → UInt8} {size : Nat}
    {handle : UInt16} :
    (m.publicaBuffer propias buffer size handle).isSome ↔ Inside sizeofNetBuffer 0 size := by
  unfold publicaBuffer
  simp only [Option.bind_eq_bind, isSome_loadMany_bind, isSome_publica, and_true]

theorem equipo_publicaBuffer {propias : List UInt16} {buffer : Nat → UInt8} {size : Nat}
    {handle : UInt16} {next : Memoria}
    (published : m.publicaBuffer propias buffer size handle = some next) :
    next.servidor.equipo = m.servidor.equipo := by
  obtain ⟨data, -, shown⟩ := Option.bind_eq_some_iff.mp published
  obtain ⟨other, same, kept⟩ := publica_spec propias data handle
  exact Option.some.inj (same.symm.trans shown) ▸ kept

theorem isSome_actualizarNetDevices_iff :
    m.actualizarNetDevices.isSome ↔ m.servidor.equipo.netGroupSize ≤ 49 := by
  unfold actualizarNetDevices sizeofNetBuffer
  simp only [Option.bind_eq_bind, isSome_store_bind, List.length_singleton, List.length_ofFn]
  rw [isSome_bind_iff (m.servidor.equipo.netGroupSize ≤ 49),
    isSome_tryFor_iff (fun i => i * 9 + 19 ≤ 452)]
  · constructor
    · exact fun inside => inside.2.2.2.2
    · exact fun fits => ⟨by omega, by omega, by omega, fun i below => by omega, fits⟩
  · intro i buffer
    simp only [isSome_store_bind, isSome_store, List.length_singleton, List.length_ofFn]
    omega
  · intro buffer _
    rw [isSome_publicaBuffer_iff]
    unfold sizeofNetBuffer
    omega

theorem equipo_actualizarNetDevices {next : Memoria} (done : m.actualizarNetDevices = some next) :
    next.servidor.equipo = m.servidor.equipo := by
  unfold actualizarNetDevices at done
  simp only [Option.bind_eq_bind, Option.bind_eq_some_iff] at done
  obtain ⟨_, -, _, -, _, -, _, -, published⟩ := done
  exact equipo_publicaBuffer published

theorem isSome_actualizarGroupDevices_iff :
    m.actualizarGroupDevices.isSome ↔ m.servidor.equipo.grupo.chargerNumber ≤ 50 := by
  unfold actualizarGroupDevices sizeofNetBuffer
  simp only [Option.bind_eq_bind, isSome_store_bind, List.length_singleton]
  rw [isSome_bind_iff (m.servidor.equipo.grupo.chargerNumber ≤ 50),
    isSome_tryFor_iff (fun i => i * 9 + 10 ≤ 452)]
  · constructor
    · exact fun inside => inside.2.2
    · exact fun fits => ⟨by omega, fun i below => by omega, fits⟩
  · intro i buffer
    simp only [isSome_store_bind, isSome_store, List.length_singleton, List.length_ofFn]
    omega
  · intro buffer _
    rw [isSome_publicaBuffer_iff]
    unfold sizeofNetBuffer
    omega

theorem isSome_actualizarParams : m.actualizarParams.isSome = true := by
  unfold actualizarParams
  simp only [Option.bind_eq_bind, isSome_store_bind, isSome_publicaBuffer_iff, List.length_cons,
    List.length_nil]
  decide

/-- A byte counts fewer circuits than the buffer has cells. -/
theorem isSome_actualizarCircuits : m.actualizarCircuits.isSome = true := by
  have byte := (UInt8.ofNat m.servidor.equipo.grupo.circuitNumber).toNat_lt
  unfold actualizarCircuits sizeofNetBuffer
  simp only [Option.bind_eq_bind, isSome_store_bind, List.length_singleton]
  rw [isSome_bind_iff (True), isSome_tryFor_iff (fun i => i + 1 < 452)]
  · exact ⟨by omega, fun i below => by omega, trivial⟩
  · intro i buffer
    rw [isSome_store, List.length_singleton]
    omega
  · intro buffer _
    rw [isSome_publicaBuffer_iff, iff_true]
    unfold sizeofNetBuffer
    omega

theorem comoMaestro_spec (creando : Bool) :
    (m.comoMaestro creando).servidor.equipo.netGroupSize = m.servidor.equipo.netGroupSize ∧
      (m.comoMaestro creando).servidor.equipo.grupo.chargerNumber =
        m.servidor.equipo.grupo.chargerNumber := by
  unfold comoMaestro
  split_ifs <;> exact ⟨rfl, rfl⟩

theorem isSome_groupsOperations_iff {valor : List UInt8} :
    (m.groupsOperations valor).isSome ↔
      4 < valor.length ∧ m.CabeOperacion (mensaje valor 4) := by
  unfold groupsOperations CabeOperacion
  rw [Option.bind_eq_bind, isSome_load_bind]
  refine and_congr_right fun _ => ?_
  by_cases create : mensaje valor 4 = 1
  · have other : mensaje valor 4 ≠ 2 := by rw [create]; decide
    rw [if_pos create, isSome_actualizarNetDevices_iff, (comoMaestro_spec true).1]
    exact ⟨fun fits => ⟨fun _ => fits, fun two => absurd two other⟩, fun fits => fits.1 create⟩
  · rw [if_neg create]
    by_cases modify : mensaje valor 4 = 2
    · rw [if_pos modify, Option.bind_eq_bind,
        isSome_bind_iff (m.servidor.equipo.grupo.chargerNumber ≤ 50),
        isSome_actualizarNetDevices_iff, (comoMaestro_spec false).1]
      · exact ⟨fun fits => ⟨fun one => absurd one create, fun _ => fits⟩, fun fits => fits.2 modify⟩
      · intro next done
        rw [isSome_bind_iff (True), and_true,
          isSome_actualizarGroupDevices_iff, equipo_actualizarNetDevices done,
          (comoMaestro_spec false).2]
        intro next _
        rw [isSome_bind_iff (True), and_true, iff_true]
        · exact isSome_actualizarParams
        · exact fun _ _ => iff_of_true isSome_actualizarCircuits trivial
    · rw [if_neg modify]
      refine iff_of_true ?_ ⟨fun one => absurd one create, fun two => absurd two modify⟩
      split_ifs <;> rfl

/-! ### The other cases -/

theorem isSome_nuevaPolicy_iff {valor : List UInt8} :
    (m.nuevaPolicy valor).isSome ↔ 7 ≤ valor.length := by
  unfold nuevaPolicy
  rw [Option.bind_eq_bind, isSome_loadMany_bind]
  split_ifs
  · simp only [Option.isSome_some, and_true]
    omega
  · unfold sizeofPolicy
    simp only [Option.bind_eq_bind, isSome_store_bind, List.length_map, List.length_range,
      isSome_modifyCharacteristic, and_true]
    omega

theorem isSome_eligeBackdoor_iff {valor : List UInt8} :
    (m.eligeBackdoor valor).isSome ↔ 4 < valor.length := by
  unfold eligeBackdoor
  rw [Option.bind_eq_bind, isSome_load_bind, Option.bind_eq_bind,
    isSome_bind_iff (True), and_true, isSome_modifyCharacteristic]
  · exact and_iff_left rfl
  · intro next _
    split_ifs
    · exact iff_of_true isSome_muestraGrupo trivial
    · exact iff_of_true rfl trivial

theorem isSome_confirmaBackdoor : m.confirmaBackdoor.isSome = true := by
  unfold confirmaBackdoor
  rw [Option.bind_eq_bind, isSome_bind_iff (True)]
  · refine ⟨?_, trivial⟩
    split_ifs
    · exact isSome_muestraGrupo
    · rfl
  · exact fun _ _ => iff_of_true (isSome_modifyCharacteristic _ _) trivial

/-- `buffer_tx` has room for every size. -/
theorem isSome_enviaPayload_iff {handle : UInt16} {size : UInt8} {valor : List UInt8} :
    (m.enviaPayload handle size valor).isSome ↔ size = 0 ∨ 4 + size.toNat ≤ valor.length := by
  have byte := size.toNat_lt
  have zero : size = 0 ↔ size.toNat = 0 := UInt8.toNat_inj.symm
  unfold enviaPayload sizeofBufferTx
  simp only [Option.bind_eq_bind, isSome_store_bind, isSome_loadMany_bind, List.length_map,
    List.length_range, List.length_cons, List.length_nil, Option.isSome_some, and_true, zero]
  omega

theorem isSome_enviaAbajo_iff {handle : UInt16} {size : UInt8} {valor : List UInt8}
    (larga : 5 ≤ valor.length) :
    (m.enviaAbajo handle size valor).isSome ↔ 4 + size.toNat ≤ valor.length := by
  have whole : ∀ next : Memoria, (next.enviaPayload handle size valor).isSome ↔
      4 + size.toNat ≤ valor.length := by
    intro next
    rw [isSome_enviaPayload_iff]
    refine or_iff_right_of_imp fun empty => ?_
    rw [empty]
    exact Nat.le_of_succ_le larga
  unfold enviaAbajo
  rw [Option.bind_eq_bind, isSome_bind_iff (4 + size.toNat ≤ valor.length)]
  · refine and_iff_right ?_
    split_ifs
    · exact isSome_eligeBackdoor_iff.mpr larga
    · rfl
  · intro next _
    rw [isSome_bind_iff _ fun last _ => whole last]
    refine and_iff_right ?_
    split_ifs
    · exact isSome_confirmaBackdoor
    · rfl

theorem isSome_escribeAutorizada_iff {handle : UInt16} {size : UInt8} {valor : List UInt8}
    (larga : 5 ≤ valor.length) :
    (m.escribeAutorizada handle size valor).isSome ↔ m.CabeAutorizada handle size valor := by
  unfold escribeAutorizada CabeAutorizada
  split_ifs
  · exact iff_of_true rfl trivial
  · rw [leeByte, load_of_lt larga]
    exact iff_of_true rfl trivial
  · exact isSome_groupsParams_iff
  · exact isSome_groupsCircuits_iff.trans (and_iff_right larga)
  · exact isSome_groupsOperations_iff.trans (and_iff_right larga)
  · exact isSome_nuevaPolicy_iff
  · exact isSome_enviaAbajo_iff larga

theorem isSome_escribe_iff {handle : UInt16} {size : UInt8} {valor : List UInt8} {hw : Hardware}
    (larga : 5 ≤ valor.length) :
    (m.escribe handle size valor hw).isSome ↔ m.CabePayload handle size valor := by
  unfold escribe CabePayload
  split_ifs
  · exact isSome_setAuthToken_iff
  · exact isSome_prolog_iff
  · exact isSome_epilog_iff
  · exact iff_of_true rfl trivial
  · exact isSome_escribeAutorizada_iff larga

theorem isSome_onWriteOmnibus_iff {valor : List UInt8} {hw : Hardware} :
    (m.onWriteOmnibus valor hw).isSome ↔ m.CabeOmnibus valor := by
  unfold onWriteOmnibus CabeOmnibus
  dsimp only
  by_cases corta : valor.length % 65536 < 5
  · rw [if_pos corta]
    exact iff_of_true rfl (Or.inl corta)
  · rw [if_neg corta, leeByte, load_of_lt (by omega), or_iff_right corta]
    exact isSome_escribe_iff (by omega)

/-! ## The other characteristics -/

theorem isSome_onWriteSchMat_iff {valor : List UInt8} {entretanto : List Horario.Evento} :
    (m.onWriteSchMat valor entretanto).isSome ↔
      m.servidor.horario.flagScheduleAck = true ∨ 168 ≤ valor.length := by
  unfold onWriteSchMat
  rw [Option.bind_eq_bind, isSome_bind_iff (True) fun _ _ => iff_of_true rfl trivial,
    and_true, isSome_tryFor_iff (fun day => day * 24 + 24 ≤ valor.length)]
  · cases m.servidor.horario.flagScheduleAck with
    | true => simp
    | false =>
        simp only [Bool.false_eq_true, if_false, false_or]
        exact ⟨fun days => days 6 (by decide), fun whole day below => by omega⟩
  · intro day matriz
    simp only [Option.bind_eq_bind, isSome_loadMany_bind, Option.isSome_some, and_true]
    omega

theorem isSome_onWriteFwData_iff {valor : List UInt8} {hw : Hardware} :
    (m.onWriteFwData valor hw).isSome ↔
      264 ≤ valor.length ∧ 4 + (palabra (mensaje valor) 2).toNat ≤ valor.length := by
  have size : palabra (mensaje ((List.range 2).map fun k => mensaje valor (2 + k))) 0 =
      palabra (mensaje valor) 2 := by
    unfold palabra
    rw [mensaje_map_range (by decide), mensaje_map_range (by decide)]
  unfold onWriteFwData
  simp only [Option.bind_eq_bind, isSome_loadMany_bind, isSome_store_bind, List.length_map,
    List.length_range, Option.isSome_some, and_true, size]
  omega

end Memoria

/-! ## The list of chargers -/

/-- A list is loaded when it has no more chargers than the table. -/
theorem isSome_getStoredGroupData_iff {b : GrupoGuardado} {e : Equipo} :
    (getStoredGroupData b e).isSome ↔ b.lista.n ≤ maxGroupSize := by
  have body : ∀ temp size i (s : GroupState),
      (cargarRound e b.lista temp size i s).isSome ↔ i < maxGroupSize := by
    intro temp size i s
    unfold cargarRound
    dsimp only
    split_ifs with inside
    · exact iff_of_true rfl inside
    · exact iff_of_false Bool.false_ne_true inside
  unfold getStoredGroupData cargarLista
  rw [Option.isSome_map, Option.isSome_map, forUpTo_bind, isSome_tryFor_iff _ (body _ _)]
  exact ⟨fun below => Nat.le_of_not_lt fun more => Nat.lt_irrefl _ (below _ more),
    fun few i below => below.trans_le few⟩

/-- The text of a byte. -/
theorem length_textoNumero_le (size : UInt8) : (textoNumero size).length ≤ 3 := by
  have digits : (Nat.toDigits 10 size.toNat).length ≤ 3 :=
    (Nat.length_toDigits_le_iff (by decide) (by decide)).mpr (size.toNat_lt.trans (by decide))
  unfold textoNumero
  split_ifs with units
  · have one : Nat.toDigits 10 size.toNat = [Nat.digitChar size.toNat] :=
      Nat.toDigits_of_lt_base (UInt8.lt_iff_toNat_lt.mp units)
    rw [one]
    exact Nat.le_succ 2
  · rwa [List.length_map]

/-- The first two cells hold the text of the number. -/
def Empieza (size : UInt8) (group : Nat → UInt8) : Prop :=
  (textoNumero size)[0]? = some (group 0) ∧ (textoNumero size)[1]? = some (group 1)

section Empieza

variable {size : UInt8} {group : Nat → UInt8}

/-- The number that is read back. -/
theorem Empieza.lista_n (begins : Empieza size group) (small : size.toNat < 100)
    (pila : List UInt8) : (GrupoGuardado.mk group pila).lista.n =
      (UInt8.ofInt (atoi (textoNumero size ++ pila))).toNat := by
  have two : (textoNumero size).length = 2 := by
    have := length_textoNumero small
    rwa [UInt8.ofNat_toNat] at this
  obtain ⟨a, b, digits⟩ := List.length_eq_two.mp two
  obtain ⟨first, second⟩ := begins
  rw [digits] at first second ⊢
  show (UInt8.ofInt (atoi (group 0 :: group 1 :: pila))).toNat = _
  rw [← Option.some.inj first, ← Option.some.inj second]
  rfl

/-- What is written behind the number leaves it. -/
theorem Empieza.store (begins : Empieza size group) {start : Nat} (behind : 2 ≤ start)
    {cells : List UInt8} {next : Nat → UInt8}
    (stored : store maxGroupBufferSize start cells group = some next) : Empieza size next := by
  rw [eq_write_of_store stored]
  unfold Empieza
  rwa [write_of_lt (by omega), write_of_lt (by omega)]

end Empieza

namespace Memoria

theorem empieza_copiaGrupo {size : UInt8} {valor : List UInt8} {chargers : Nat}
    {group final : Nat → UInt8} (begins : Empieza size group)
    (copied : copiaGrupo valor chargers group = some final) : Empieza size final := by
  obtain ⟨current, rounds, last⟩ := Option.bind_eq_some_iff.mp copied
  refine Empieza.store (tryFor_keeps (Empieza size) ?_ begins rounds) (by omega) last
  intro i current next kept stored
  simp only [Option.bind_eq_bind, Option.bind_eq_some_iff] at stored
  obtain ⟨_, -, named, first, _, -, second⟩ := stored
  exact (kept.store (by omega) first).store (by omega) second

/-- The chargers of a list are in the value, and fit into the buffer. -/
theorem isSome_copiaGrupo_iff {valor : List UInt8} {chargers : Nat} (some : 0 < chargers)
    {group : Nat → UInt8} : (copiaGrupo valor chargers group).isSome ↔
      1 + chargers * 9 ≤ valor.length ∧ chargers < maxGroupSize := by
  unfold copiaGrupo maxGroupBufferSize maxGroupSize
  rw [Option.bind_eq_bind, isSome_bind_iff (chargers < 40),
    isSome_tryFor_iff (fun i => 10 + i * 9 ≤ valor.length ∧ 11 + i * 9 ≤ 362)]
  · refine and_congr_left fun few => ⟨fun rounds => ?_, fun whole i below => by omega⟩
    have last := rounds (chargers - 1) (by omega)
    omega
  · intro i current
    simp only [Option.bind_eq_bind, isSome_loadMany_bind, isSome_store_bind, isSome_load_bind,
      isSome_store, List.length_map, List.length_range, List.length_singleton]
    omega
  · intro current _
    rw [isSome_store, List.length_singleton]
    omega

/-- An empty list is the text of one. -/
theorem limpiaGrupo_spec (group : Nat → UInt8) :
    ∃ final, limpiaGrupo group = some final ∧ Empieza 0 final := by
  have zeros : (List.replicate maxGroupBufferSize (0 : UInt8)).length = maxGroupBufferSize :=
    List.length_replicate
  unfold limpiaGrupo
  simp only [Option.bind_eq_bind]
  rw [store_of_le (by omega), Option.bind_some, store_of_le (by decide), Option.bind_some]
  have text := begins_write_zero (cleanGroup ++ [0])
    (write 0 (List.replicate maxGroupBufferSize 0) group)
  have first : (textoNumero 0)[0]? = (cleanGroup ++ [0])[0]? := by decide
  have second : (textoNumero 0)[1]? = (cleanGroup ++ [0])[1]? := by decide
  have begins : Empieza 0 (write 0 (cleanGroup ++ [0]) _) :=
    ⟨first.trans (text 0 (by decide)), second.trans (text 1 (by decide))⟩
  have last : ∀ cells : Nat → UInt8, store maxGroupBufferSize 8 [0] cells =
      some (write 8 [0] cells) := fun _ => store_of_le (by decide)
  exact ⟨_, last _, begins.store (by decide) (last _)⟩

variable {m : Memoria}

/-- The buffer that a list leaves begins with its number. -/
theorem empieza_grupo {size : UInt8} {valor : List UInt8} {group final : Nat → UInt8}
    (stored : (if 0 < size then
        copiaGrupo valor size.toNat (write 0 (textoNumero size ++ [0]) group)
      else limpiaGrupo (write 0 (textoNumero size ++ [0]) group)) = some final) :
    size.toNat < 100 ∧ Empieza size final := by
  split_ifs at stored with some
  · have few := (isSome_copiaGrupo_iff (UInt8.lt_iff_toNat_lt.mp some)).mp
      (Option.isSome_of_mem stored)
    have small : size.toNat < 100 := few.2.trans (by decide)
    have two := length_textoNumero small
    rw [UInt8.ofNat_toNat] at two
    have text := (begins_write_zero (textoNumero size ++ [0]) group).left
    exact ⟨small, empieza_copiaGrupo ⟨text 0 (by omega), text 1 (by omega)⟩ stored⟩
  · have zero : size = 0 := UInt8.le_zero_iff.mp (UInt8.not_lt.mp some)
    obtain ⟨other, cleaned, begins⟩ := limpiaGrupo_spec (write 0 (textoNumero size ++ [0]) group)
    rw [← Option.some.inj (cleaned.symm.trans stored), zero]
    exact ⟨by decide, begins⟩

/-- It holds a terminator. -/
theorem termina_grupo {size : UInt8} {valor : List UInt8} {group final : Nat → UInt8}
    (stored : (if 0 < size then
        copiaGrupo valor size.toNat (write 0 (textoNumero size ++ [0]) group)
      else limpiaGrupo (write 0 (textoNumero size ++ [0]) group)) = some final) :
    ∃ k, k < maxGroupBufferSize ∧ final k = 0 := by
  have ends : ∀ {start : Nat} {current : Nat → UInt8},
      store maxGroupBufferSize start [0] current = some final →
      ∃ k, k < maxGroupBufferSize ∧ final k = 0 := by
    intro start current last
    have inside := isSome_store.mp (Option.isSome_of_mem last)
    rw [List.length_singleton] at inside
    refine ⟨start, by unfold Inside at inside; omega, ?_⟩
    rw [eq_write_of_store last]
    have cell := @write_inside _ start [0] current 0 (by
      rw [List.length_singleton]
      exact Nat.zero_lt_one)
    exact (Option.some.inj cell).symm
  split_ifs at stored with some
  · obtain ⟨_, _, last⟩ := Option.bind_eq_some_iff.mp stored
    exact ends last
  · simp only [limpiaGrupo, Option.bind_eq_bind, Option.bind_eq_some_iff] at stored
    obtain ⟨_, _, _, _, last⟩ := stored
    exact ends last

/-- What is stored and loaded again begins with its number too. -/
theorem Empieza.groupLoad {size : UInt8} {group heap ram : Nat → UInt8}
    (begins : Empieza size group) (small : size.toNat < 100)
    (ends : ∃ k, k < maxGroupBufferSize ∧ group k = 0) :
    Empieza size (groupLoad heap (groupStore group) ram) := by
  obtain ⟨k, inside, zero⟩ := ends
  have two := length_textoNumero small
  obtain ⟨ceros, digits, _⟩ := textoNumero_eq small
  rw [UInt8.ofNat_toNat] at two digits
  have fits : (textoGuardado group).length ≤ maxGroupBufferSize :=
    (length_cString_le zero).trans inside.le
  have text : Begins group (textoNumero size) := by
    intro j below
    obtain rfl | rfl : j = 0 ∨ j = 1 := by omega
    · exact begins.1
    · exact begins.2
  have clean : (0 : UInt8) ∉ textoNumero size := by
    rw [digits]
    exact zero_notMem_map (isDigit_rellenado ceros _)
  have kept : textoNumero size <+: textoGuardado group :=
    prefix_cString text clean (by rw [two]; decide)
  obtain ⟨rest, whole⟩ := kept
  have loaded : Begins (Group.groupLoad heap (groupStore group) ram) (textoGuardado group) :=
    groupLoad_lleno fits
  rw [← whole] at loaded
  exact ⟨loaded.left 0 (by omega), loaded.left 1 (by omega)⟩

theorem isSome_onWriteChargingGroup_iff {valor : List UInt8} {heap : Nat → UInt8}
    {pila : List UInt8} :
    (m.onWriteChargingGroup valor heap pila).isSome ↔ CabeGrupo valor pila := by
  have text := length_textoNumero_le (mensaje valor 0)
  have room : Inside maxGroupBufferSize 0 (textoNumero (mensaje valor 0) ++ [0]).length := by
    rw [List.length_append, List.length_singleton]
    unfold maxGroupBufferSize
    omega
  unfold onWriteChargingGroup CabeGrupo
  rw [Option.bind_eq_bind, isSome_load_bind, Option.bind_eq_bind, isSome_store_bind,
    and_iff_right room, Option.bind_eq_bind,
    isSome_bind_iff ((UInt8.ofInt (atoi (textoNumero (mensaje valor 0) ++ pila))).toNat ≤
      maxGroupSize)]
  · split_ifs with some
    · have positive := UInt8.lt_iff_toNat_lt.mp some
      rw [isSome_copiaGrupo_iff positive, and_assoc]
      exact ⟨fun inside => inside.2, fun inside => ⟨by omega, inside⟩⟩
    · have zero : mensaje valor 0 = 0 := UInt8.le_zero_iff.mp (UInt8.not_lt.mp some)
      obtain ⟨final, cleaned, -⟩ := limpiaGrupo_spec
        (write 0 (textoNumero (mensaje valor 0) ++ [0]) m.servidor.groupData)
      rw [cleaned, zero]
      exact ⟨fun inside => ⟨inside.1, by decide, inside.2.2⟩,
        fun inside => ⟨inside.1, rfl, inside.2.2⟩⟩
  · intro final stored
    obtain ⟨small, begins⟩ := empieza_grupo stored
    have loaded := @Empieza.groupLoad _ _ heap final begins small (termina_grupo stored)
    rw [isSome_bind_iff (True) fun _ _ => iff_of_true rfl trivial, and_true,
      isSome_getStoredGroupData_iff, loaded.lista_n small]

/-! ## Every write -/

theorem isSome_onWrite_iff {escritura : EscrituraCliente} :
    (m.onWrite escritura).isSome ↔ m.Cabe escritura := by
  cases escritura with
  | selector valor =>
      obtain ⟨packet, written⟩ := onWriteSelector_eq (m := m) valor
      exact iff_of_true (Option.isSome_of_mem written) trivial
  | omnibus valor hw => exact isSome_onWriteOmnibus_iff
  | rcsSchMat valor entretanto => exact isSome_onWriteSchMat_iff
  | fwData valor hw => exact isSome_onWriteFwData_iff
  | rcsChargingGroup valor heap pila => exact isSome_onWriteChargingGroup_iff

/-- A write of an authorised client stays inside the value and the arrays exactly when the
value has the bytes that its handle takes, and the counts in it are not too large. -/
theorem segura_iff (m : Memoria) (escritura : EscrituraCliente) :
    m.Segura escritura ↔ (m.authorizedOK = true → m.Cabe escritura) :=
  imp_congr_right fun _ => isSome_onWrite_iff

/-- A charger that has started, with an authenticated client. -/
def autenticada : Memoria where
  servidor :=
    { Servidor.inicial with auth := { Servidor.inicial.auth with authSuccess := true } }
  propias := fun _ => []
  omnibusPacketBuffer := fun _ => 0
  bufferTx := fun _ => 0
  dataPolicy := fun _ => 0
  backdoorSelector := backdoorActionNoAction
  startProvisioning := false
  creando := false
  sendNewParams := false
  groupGuardar := false

/-- Two hundred circuits are announced, and none is sent. -/
theorem circuitos_no_segura :
    ¬autenticada.Segura (.omnibus [72, 0, 1, 0, 200] .sano) := by
  intro segura
  exact absurd (segura rfl) (by decide +kernel)

end Memoria

end VeltiumCharger.Ble
