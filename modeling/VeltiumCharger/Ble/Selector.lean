import VeltiumCharger.Ble.Servidor
import VeltiumCharger.Bloques.Procesar
import VeltiumCharger.Library.LastWrite

/-!
# The values behind the selector

A value published goes to a characteristic of its own, or to the slot of its handle in
`chr_selectable_buffer`, from which a client reads it through the selector.  Slots are
found by two tables, of handles and of indices; a handle that has none is written to the
slot 0.
-/

namespace VeltiumCharger.Ble

open VeltiumCharger.Actualizacion
open VeltiumCharger.Bloques
open VeltiumCharger.Buffer VeltiumCharger.LastWrite

/-! ## The source -/

/-- `RCS_MAX_HANDLE` -/
def rcsMaxHandle : Nat := 0xEB

/-- `table_idx_for_handle` -/
def tableIdxForHandle : List UInt8 :=
  [0, 0, 0, 0, 0, 0, 0, 0, 0, 0, 0, 0, 0, 0, 0, 0,
    0, 1, 0, 2, 0, 3, 0, 4, 0, 0, 5, 0, 6, 0, 7, 0,
    0, 0, 0, 8, 0, 9, 0, 10, 0, 11, 0, 12, 0, 13, 0, 14,
    0, 0, 0, 0, 15, 0, 16, 0, 0, 17, 0, 18, 0, 19, 0, 20,
    0, 21, 0, 22, 0, 0, 23, 0, 24, 0, 25, 0, 26, 0, 0, 0,
    0, 0, 27, 0, 28, 0, 29, 0, 30, 0, 0, 31, 0, 32, 0, 33,
    0, 34, 0, 0, 35, 0, 0, 36, 0, 37, 0, 0, 0, 0, 0, 38,
    0, 39, 0, 40, 0, 41, 0, 0, 42, 0, 0, 43, 0, 0, 44, 0,
    45, 0, 46, 0, 47, 0, 0, 48, 0, 49, 0, 0, 50, 0, 0, 51,
    0, 52, 0, 53, 0, 0, 54, 0, 55, 0, 56, 0, 57, 0, 58, 0,
    59, 0, 60, 0, 0, 61, 0, 0, 0, 0, 0, 0, 0, 62, 0, 63,
    0, 64, 0, 65, 0, 66, 0, 67, 0, 68, 0, 69, 0, 70, 0, 71,
    0, 72, 0, 73, 0, 74, 0, 75, 0, 76, 0, 77, 0, 78, 0, 79,
    0, 80, 0, 81, 0, 82, 0, 83, 0, 0, 0, 0, 0, 0, 0, 0,
    0, 0, 0, 0, 0, 0, 0, 84, 0, 85, 0, 86]

/-- `rcs_idx_for_handle` -/
def rcsIdxForHandle (handle : UInt16) : UInt8 :=
  if handle.toNat ≤ rcsMaxHandle then tableIdxForHandle.getD handle.toNat 0 else 0

/-- `rcs_server_set_chr_value`; the length comes as a `uint16_t`. -/
def rcsServerSetChrValue (handle : UInt16) (data : List UInt8) (buffer : Nat → UInt8) :
    Nat → UInt8 :=
  let idx := rcsIdxForHandle handle
  let len := min (data.length % 65536) rcsChrOmnibusSize
  let dst := rcsChrOmnibusSize * idx.toNat
  let buffer := write dst (List.replicate rcsChrOmnibusSize 0) buffer
  write dst (data.take len) buffer

/-- `FWUPDATE_BIRD_DATA_PSEUDO_CHAR_HANDLE` -/
def fwupdateBirdData : UInt16 := 0x00AE

/-- `CHARGING_GROUP_BLE_NET_DEVICES` -/
def chargingGroupBleNetDevices : UInt16 := 0x00DF

/-- `CHARGING_GROUP_BLE_CHARGING_GROUP` -/
def chargingGroupBleChargingGroup : UInt16 := 0x00E1

/-- `STATUS_COMS` -/
def statusComs : UInt16 := 0x00E3

/-- `DOMESTIC_CONSUMPTION_KS_CHAR_HANDLE` -/
def domesticConsumptionKs : UInt16 := 0x009A

/-- `DOMESTIC_CONSUMPTION_FCT_CHAR_HANDLE` -/
def domesticConsumptionFct : UInt16 := 0x009C

/-- `DOMESTIC_CONSUMPTION_FS_CHAR_HANDLE` -/
def domesticConsumptionFs : UInt16 := 0x009E

/-- `COMS_CONFIGURATION_WIFI_SSID_1` -/
def comsConfigurationWifiSsid1 : UInt16 := 0x00B3

/-- `COMS_CONFIGURATION_WIFI_SSID_2` -/
def comsConfigurationWifiSsid2 : UInt16 := 0x00B5

/-- `POLICY` -/
def policy : UInt16 := 0x00D3

/-- The handles that `serverbleNotCharacteristic` sends to a characteristic of its own. -/
def propiasNot : List UInt16 :=
  [Handle.statusHptStatus, Handle.measuresInstCurrent, Handle.measuresInstCurrentB,
    Handle.measuresInstCurrentC, chargingGroupBleNetDevices, statusComs, fwupdateBirdData]

/-- The handles that `serverbleSetCharacteristic` sends to a characteristic of its own. -/
def propiasSet : List UInt16 :=
  [Handle.statusHptStatus, Handle.measuresInstCurrent, Handle.measuresInstCurrentB,
    Handle.measuresInstCurrentC, chargingGroupBleNetDevices, chargingGroupBleChargingGroup,
    statusComs, Handle.energyRecordRecord, Handle.schedChargingScheduleMatrix]

/-- The server, and the values of the characteristics that have a handle of their own. -/
structure Caracteristicas where
  servidor : Servidor
  propias : UInt16 → List UInt8

/-- A call that publishes a value: `serverbleNotCharacteristic` or
`serverbleSetCharacteristic`.  Every length fits in 16 bits. -/
structure Publicacion where
  notifica : Bool
  attrHandle : UInt16
  data : List UInt8
  corta : data.length < 65536

/-- The value goes to a characteristic of its own. -/
def Publicacion.propia (p : Publicacion) : Bool :=
  if p.notifica then propiasNot.contains p.attrHandle else propiasSet.contains p.attrHandle

namespace Caracteristicas

variable (c : Caracteristicas)

/-- `pbleCharacteristics[...]->setValue` -/
def setValue (data : List UInt8) (handle : UInt16) : Caracteristicas :=
  { c with propias := Function.update c.propias handle data }

/-- `rcs_server_set_chr_value` on the buffer of the server. -/
def setChrValue (data : List UInt8) (handle : UInt16) : Caracteristicas :=
  { c with servidor := { c.servidor with
      chrSelectableBuffer := rcsServerSetChrValue handle data c.servidor.chrSelectableBuffer } }

/-- `serverbleNotCharacteristic` -/
def serverbleNotCharacteristic (data : List UInt8) (handle : UInt16) : Caracteristicas :=
  if propiasNot.contains handle then c.setValue data handle else c.setChrValue data handle

/-- `serverbleSetCharacteristic` -/
def serverbleSetCharacteristic (data : List UInt8) (handle : UInt16) : Caracteristicas :=
  if propiasSet.contains handle then c.setValue data handle else c.setChrValue data handle

/-- A call. -/
def publicar (p : Publicacion) : Caracteristicas :=
  if p.notifica then c.serverbleNotCharacteristic p.data p.attrHandle
  else c.serverbleSetCharacteristic p.data p.attrHandle

end Caracteristicas

/-- The handles that the program publishes, apart from those that have a characteristic of
their own. -/
def publicados : List UInt16 :=
  [Handle.statusIcpStatus, Handle.statusRcdStatus, Handle.statusConnLockStatus,
    Handle.measuresMaxCurrentCable, Handle.measuresInstalationCurrentLimit,
    Handle.measuresCurrentCommand, Handle.measuresInstVoltage, Handle.measuresActivePower,
    Handle.measuresActiveEnergy, Handle.measuresApparentPower, Handle.timeDateDateTime,
    Handle.timeDateConnectionDateTime, Handle.timeDateDisconnectionDateTime,
    Handle.timeDateChargingStartTime, Handle.timeDateChargingStopTime,
    Handle.chargingInstantDelayed, Handle.chargingStartStopStartMode,
    Handle.chargingBleManualStart, Handle.chargingBleManualStop,
    Handle.vcdNameUsersChargerDeviceId, Handle.vcdNameUsersUsersNumber,
    Handle.vcdNameUsersUserType, Handle.vcdNameUsersUserIndex, Handle.testLaunchRcdPeTest,
    Handle.testRcdPeTestResult, Handle.manLockUnlockLockingMechanismOnOff,
    Handle.ledLuminColorLuminosityLevel, Handle.recordingRecCapacity, Handle.recordingRecLast,
    Handle.recordingRecIndex, Handle.recordingRecLaps, Handle.versionesVersionFirmware,
    Handle.versionesVersionFirmBle, Handle.configuracionAutenticationModes,
    autenticacionMatrix, Handle.domesticConsumptionRealCurrentLimit,
    Handle.domesticConsumptionDomesticCurrent,
    domesticConsumptionKs, domesticConsumptionFct, domesticConsumptionFs,
    Handle.domesticConsumptionPotenciaContratadaP1,
    Handle.domesticConsumptionDpcMode, Handle.errorStatusErrorCode, Handle.timeDateCountry,
    Handle.timeDateCalendar, Handle.comsConfigurationWifiOn,
    comsConfigurationWifiSsid1, comsConfigurationWifiSsid2,
    Handle.comsConfigurationEthOn, Handle.comsConfigurationLanIp, Handle.groupsParams,
    Handle.groupsCircuits, Handle.domesticConsumptionPotenciaContratadaP2,
    policy, Handle.comsFwUpdatemode, Handle.chargeUserId,
    Handle.photovoltaicTotalPower, Handle.photovoltaicNetPower, Handle.externalMeterPower]

/-! ## What is promised -/

/-- An authenticated session with a charger that has been initialised: nothing has been
published before it. -/
structure SesionAutenticada where
  inicio : Caracteristicas
  vacia : inicio.servidor.chrSelectableBuffer = fun _ => 0
  autorizada : inicio.servidor.authorizedOK = true
  inicializada : inicio.servidor.auth.dispositivoInicializado = 2

/-- What is read of an index after some calls. -/
def SesionAutenticada.lee (sesion : SesionAutenticada) (publicaciones : List Publicacion)
    (i : UInt8) : List UInt8 :=
  (publicaciones.foldl Caracteristicas.publicar sesion.inicio).servidor.leerSelector i

/-- The data last published for a handle. -/
def ultimaPublicada (publicaciones : List Publicacion) (handle : UInt16) : List UInt8 :=
  ((publicaciones.filter fun p => p.attrHandle == handle).getLast?.map Publicacion.data).getD []

/-- An index reads as the data last published for its handle, cut or filled up to its
size. -/
def SesionAutenticada.LecturaFiel (sesion : SesionAutenticada)
    (publicaciones : List Publicacion) (i : UInt8) : Prop :=
  sesion.lee publicaciones i = [i, 0, rcsGetSize i, 0] ++
    (List.range (rcsGetSize i).toNat).map fun k =>
      (ultimaPublicada publicaciones (rcsHandleForIdx i)).getD k 0

/-- The handle has an index, and no other handle has it. -/
def IndicePropio (handle : UInt16) : Prop :=
  1 ≤ (rcsIdxForHandle handle).toNat ∧
    ∀ otro, rcsIdxForHandle otro = rcsIdxForHandle handle → otro = handle

/-! ## The tables -/

/-- An index other than 0 leads back to its handle. -/
theorem rcsHandleForIdx_of_ne {handle : UInt16} (some : rcsIdxForHandle handle ≠ 0) :
    rcsHandleForIdx (rcsIdxForHandle handle) = handle := by
  have table : ∀ h : Fin (rcsMaxHandle + 1), rcsIdxForHandle (UInt16.ofNat h) ≠ 0 →
      rcsHandleForIdx (rcsIdxForHandle (UInt16.ofNat h)) = UInt16.ofNat h := by
    decide +kernel
  have small : handle.toNat ≤ rcsMaxHandle := by
    by_contra large
    exact some (if_neg large)
  have this := table ⟨handle.toNat, Nat.lt_succ_of_le small⟩
  rw [UInt16.ofNat_toNat] at this
  exact this some

/-- The handle of an index leads back to it. -/
theorem rcsIdxForHandle_rcsHandleForIdx {i : UInt8} (bound : i.toNat ≤ rcsMaxIdx) :
    rcsIdxForHandle (rcsHandleForIdx i) = i := by
  have table : ∀ i : Fin (rcsMaxIdx + 1),
      rcsIdxForHandle (rcsHandleForIdx (UInt8.ofNat i)) = UInt8.ofNat i := by
    decide +kernel
  have this := table ⟨i.toNat, Nat.lt_succ_of_le bound⟩
  rwa [UInt8.ofNat_toNat] at this

/-- Only its handle is written to an index. -/
theorem rcsIdxForHandle_eq_iff {handle : UInt16} {i : UInt8} (some : i ≠ 0)
    (bound : i.toNat ≤ rcsMaxIdx) : rcsIdxForHandle handle = i ↔ handle = rcsHandleForIdx i := by
  constructor
  · rintro rfl
    exact (rcsHandleForIdx_of_ne some).symm
  · rintro rfl
    exact rcsIdxForHandle_rcsHandleForIdx bound

/-- A handle has an index of its own when it has one. -/
theorem indicePropio_iff {handle : UInt16} : IndicePropio handle ↔ rcsIdxForHandle handle ≠ 0 := by
  constructor
  · rintro ⟨one, -⟩ none
    rw [none] at one
    exact absurd one (by decide)
  · intro some
    refine ⟨Nat.pos_of_ne_zero fun zero => some (UInt8.toNat_inj.mp zero), fun otro same => ?_⟩
    rw [← rcsHandleForIdx_of_ne some, ← same]
    exact (rcsHandleForIdx_of_ne (same ▸ some)).symm

/-! ## Slots -/

/-- The slot of an index. -/
def Caracteristicas.slot (c : Caracteristicas) (i : UInt8) (k : Fin rcsChrOmnibusSize) : UInt8 :=
  c.servidor.chrSelectableBuffer (rcsChrOmnibusSize * i.toNat + k)

/-- A value is written to its slot, and to no other. -/
theorem rcsServerSetChrValue_slot {handle : UInt16} {data : List UInt8} {buffer : Nat → UInt8}
    (corta : data.length < 65536) (i : UInt8) (k : Fin rcsChrOmnibusSize) :
    rcsServerSetChrValue handle data buffer (rcsChrOmnibusSize * i.toNat + k) =
      if rcsIdxForHandle handle = i then data.getD k 0
      else buffer (rcsChrOmnibusSize * i.toNat + k) := by
  have bound : k.val < rcsChrOmnibusSize := k.isLt
  have width : (List.replicate rcsChrOmnibusSize (0 : UInt8)).length = rcsChrOmnibusSize :=
    List.length_replicate
  have length : (data.take (min (data.length % 65536) rcsChrOmnibusSize)).length =
      min data.length rcsChrOmnibusSize := by
    rw [List.length_take, Nat.mod_eq_of_lt corta, Nat.min_comm, ← Nat.min_assoc, Nat.min_self]
  unfold rcsServerSetChrValue
  split_ifs with same
  · rw [same]
    by_cases inside : k.val < data.length
    · have cell := @write_inside _ (rcsChrOmnibusSize * i.toNat)
        (data.take (min (data.length % 65536) rcsChrOmnibusSize))
        (write (rcsChrOmnibusSize * i.toNat) (List.replicate rcsChrOmnibusSize 0) buffer) k.val
        (by omega)
      rw [List.getElem?_take_of_lt (by rw [Nat.mod_eq_of_lt corta]; omega)] at cell
      rw [List.getD, cell]
      rfl
    · -- behind the value the slot has been cleared
      rw [write_of_ge (by omega), List.getD_eq_default _ _ (Nat.le_of_not_lt inside)]
      have cell := @write_inside _ (rcsChrOmnibusSize * i.toNat)
        (List.replicate rcsChrOmnibusSize (0 : UInt8)) buffer k.val (by omega)
      rw [List.getElem?_replicate, if_pos bound] at cell
      exact (Option.some.inj cell).symm
  · have other : (rcsIdxForHandle handle).toNat ≠ i.toNat := fun equal =>
      same (UInt8.toNat_inj.mp equal)
    have far : rcsChrOmnibusSize * i.toNat + k <
          rcsChrOmnibusSize * (rcsIdxForHandle handle).toNat ∨
        rcsChrOmnibusSize * (rcsIdxForHandle handle).toNat + rcsChrOmnibusSize ≤
          rcsChrOmnibusSize * i.toNat + k := by
      unfold rcsChrOmnibusSize at bound ⊢
      omega
    rcases far with before | behind
    · rw [write_of_lt before, write_of_lt before]
    · rw [write_of_ge (by omega), write_of_ge (by omega)]

/-- What a call leaves in a slot. -/
def Publicacion.valor (p : Publicacion) (k : Fin rcsChrOmnibusSize) : UInt8 :=
  p.data.getD k 0

/-- A call writes the slot of its handle, unless the handle has a characteristic. -/
theorem slot_publicar (c : Caracteristicas) (p : Publicacion) (i : UInt8) :
    (c.publicar p).slot i =
      if (!p.propia && rcsIdxForHandle p.attrHandle == i) = true then p.valor else c.slot i := by
  have kept : ∀ data handle, (c.setValue data handle).slot i = c.slot i := fun _ _ => rfl
  have written : (c.setChrValue p.data p.attrHandle).slot i =
      if rcsIdxForHandle p.attrHandle = i then p.valor else c.slot i := by
    funext k
    refine (rcsServerSetChrValue_slot p.corta i k).trans ?_
    split_ifs <;> rfl
  have both : ∀ propias : List UInt16,
      (if propias.contains p.attrHandle then c.setValue p.data p.attrHandle
        else c.setChrValue p.data p.attrHandle).slot i =
        if (!propias.contains p.attrHandle && rcsIdxForHandle p.attrHandle == i) = true then p.valor
        else c.slot i := by
    intro propias
    cases own : propias.contains p.attrHandle with
    | true =>
        rw [if_pos rfl, kept]
        rfl
    | false =>
        rw [if_neg Bool.false_ne_true, written]
        exact if_congr beq_iff_eq.symm rfl rfl
  unfold Caracteristicas.publicar Publicacion.propia
  cases p.notifica with
  | true => exact both propiasNot
  | false => exact both propiasSet

/-- A slot after some calls. -/
theorem slot_publicaciones (c : Caracteristicas) (publicaciones : List Publicacion) (i : UInt8) :
    (publicaciones.foldl Caracteristicas.publicar c).slot i =
      lastWrite (fun p i => !p.propia && rcsIdxForHandle p.attrHandle == i) (fun p _ => p.valor)
        publicaciones c.slot i :=
  foldl_cells slot_publicar publicaciones c i

/-! ## Reading -/

/-- The indices whose handle has a characteristic of its own. -/
def indicesPropios : List UInt8 := [74, 75]

/-- A handle with an index is sent to a characteristic of its own by both functions, or by
none. -/
theorem propia_of_indice {p : Publicacion} {i : UInt8} (some : i ≠ 0) (bound : i.toNat ≤ rcsMaxIdx)
    (handle : p.attrHandle = rcsHandleForIdx i) : p.propia = indicesPropios.contains i := by
  have table : ∀ i : Fin (rcsMaxIdx + 1), UInt8.ofNat i ≠ 0 →
      propiasNot.contains (rcsHandleForIdx (UInt8.ofNat i)) =
          indicesPropios.contains (UInt8.ofNat i) ∧
        propiasSet.contains (rcsHandleForIdx (UInt8.ofNat i)) =
          indicesPropios.contains (UInt8.ofNat i) := by
    decide +kernel
  have this := table ⟨i.toNat, Nat.lt_succ_of_le bound⟩
  rw [UInt8.ofNat_toNat] at this
  obtain ⟨byNot, bySet⟩ := this some
  unfold Publicacion.propia
  rw [handle, byNot, bySet, ite_self]

/-- The slot of an index holds the value last published, unless its handle has a
characteristic; then it keeps what it had. -/
theorem slot_ultima (c : Caracteristicas) (vacia : c.servidor.chrSelectableBuffer = fun _ => 0)
    (publicaciones : List Publicacion) {i : UInt8} (some : i ≠ 0) (bound : i.toNat ≤ rcsMaxIdx)
    (k : Fin rcsChrOmnibusSize) :
    (publicaciones.foldl Caracteristicas.publicar c).slot i k =
      if indicesPropios.contains i = true then 0
      else (ultimaPublicada publicaciones (rcsHandleForIdx i)).getD k 0 := by
  have covers : (publicaciones.filter fun p =>
      !p.propia && rcsIdxForHandle p.attrHandle == i) =
      publicaciones.filter fun p =>
        !indicesPropios.contains i && p.attrHandle == rcsHandleForIdx i := by
    refine List.filter_congr fun p _ => ?_
    by_cases handle : p.attrHandle = rcsHandleForIdx i
    · rw [propia_of_indice some bound handle, handle, rcsIdxForHandle_rcsHandleForIdx bound]
      simp
    · have other : rcsIdxForHandle p.attrHandle ≠ i := fun same =>
        handle ((rcsIdxForHandle_eq_iff some bound).mp same)
      rw [beq_false_of_ne other, beq_false_of_ne handle, Bool.and_false, Bool.and_false]
  have empty : c.slot i k = 0 := congrFun vacia _
  rw [slot_publicaciones, lastWrite, covers]
  cases indicesPropios.contains i with
  | true =>
      simp only [Bool.not_true, Bool.false_and, List.filter_false, if_true]
      exact empty
  | false =>
      simp only [Bool.not_false, Bool.true_and, ultimaPublicada]
      cases (publicaciones.filter fun p => p.attrHandle == rcsHandleForIdx i).getLast? with
      | none => exact empty
      | some p => rfl

/-- Calls change the values only. -/
theorem servidor_publicaciones (c : Caracteristicas) (publicaciones : List Publicacion) :
    (publicaciones.foldl Caracteristicas.publicar c).servidor =
      { c.servidor with chrSelectableBuffer :=
          (publicaciones.foldl Caracteristicas.publicar c).servidor.chrSelectableBuffer } := by
  induction publicaciones generalizing c with
  | nil => rfl
  | cons p publicaciones ih =>
      have first : (c.publicar p).servidor =
          { c.servidor with
            chrSelectableBuffer := (c.publicar p).servidor.chrSelectableBuffer } := by
        unfold Caracteristicas.publicar Caracteristicas.serverbleNotCharacteristic
          Caracteristicas.serverbleSetCharacteristic
        split_ifs <;> rfl
      rw [List.foldl_cons, ih, first]

/-- Selected by an authorised client, a value is read as its slot holds it. -/
theorem leerSelector_autorizado {s : Servidor} (autorizada : s.authorizedOK = true)
    (lista : s.auth.dispositivoInicializado = 2) {i : UInt8} (bound : i.toNat ≤ rcsMaxIdx) :
    s.leerSelector i = [i, 0, rcsGetSize i, 0] ++
      (List.range (rcsGetSize i).toNat).map fun k =>
        s.chrSelectableBuffer (rcsChrOmnibusSize * i.toNat + k) := by
  have payload : s.payloadSelector i = tramo (s.rcsServerGetDataForSelector i) 0
      (rcsGetSize i).toNat := by
    unfold Servidor.payloadSelector
    rw [if_neg (by simp [autorizada])]
  have cells : ∀ k, s.rcsServerGetDataForSelector i (0 + k) =
      s.chrSelectableBuffer (rcsChrOmnibusSize * i.toNat + k) := by
    intro k
    rw [Servidor.rcsServerGetDataForSelector, Nat.min_eq_left bound, Nat.zero_add]
  unfold Servidor.leerSelector Servidor.onWriteSelector
  rw [if_neg (by decide), if_neg (not_not.mpr lista), payload]
  simp only [tramo, cells]

namespace SesionAutenticada

variable (sesion : SesionAutenticada) (publicaciones : List Publicacion)

/-- An index is read as its handle was last published, or as zeros if the handle has a
characteristic. -/
theorem lee_eq {i : UInt8} (some : i ≠ 0) (bound : i.toNat ≤ rcsMaxIdx) :
    sesion.lee publicaciones i = [i, 0, rcsGetSize i, 0] ++
      (List.range (rcsGetSize i).toNat).map fun k =>
        if indicesPropios.contains i = true then 0
        else (ultimaPublicada publicaciones (rcsHandleForIdx i)).getD k 0 := by
  unfold lee
  rw [leerSelector_autorizado ?_ ?_ bound]
  · refine congrArg _ (List.map_congr_left fun k mem => ?_)
    have small : k < rcsChrOmnibusSize :=
      (List.mem_range.mp mem).trans_le (rcsGetSize_le i)
    exact slot_ultima sesion.inicio sesion.vacia publicaciones some bound ⟨k, small⟩
  · rw [servidor_publicaciones]
    exact sesion.autorizada
  · rw [servidor_publicaciones]
    exact sesion.inicializada

/-- An index is read right, unless its handle has a characteristic and something other
than zeros has been published. -/
theorem lecturaFiel_iff {i : UInt8} (some : i ≠ 0) (bound : i.toNat ≤ rcsMaxIdx) :
    sesion.LecturaFiel publicaciones i ↔
      (i ∈ indicesPropios → ∀ k < (rcsGetSize i).toNat,
        (ultimaPublicada publicaciones (rcsHandleForIdx i)).getD k 0 = 0) := by
  unfold LecturaFiel
  rw [lee_eq sesion publicaciones some bound, List.append_cancel_left_eq, List.map_inj_left]
  simp only [List.mem_range, List.contains_iff_mem]
  by_cases own : i ∈ indicesPropios
  · simp only [if_pos own]
    exact ⟨fun same _ k small => (same k small).symm, fun zeros k small => (zeros own k small).symm⟩
  · simp only [if_neg own]
    exact iff_of_true (fun _ _ => trivial) fun mem => absurd mem own

end SesionAutenticada

/-- The handles that are published without an index. -/
def sinIndice : List UInt16 :=
  [Handle.timeDateCountry, Handle.timeDateCalendar, Handle.comsFwUpdatemode]

/-- Every index but two reads as its handle was last published, whatever is published for
other handles; every handle but three has an index of its own. -/
theorem selector_iff (sesion : SesionAutenticada) (publicaciones : List Publicacion) :
    (∀ i : UInt8, 1 ≤ i.toNat → i.toNat ≤ rcsMaxIdx →
      (sesion.LecturaFiel publicaciones i ↔
        (i ∈ indicesPropios → ∀ k < (rcsGetSize i).toNat,
          (ultimaPublicada publicaciones (rcsHandleForIdx i)).getD k 0 = 0))) ∧
      ∀ handle ∈ publicados, IndicePropio handle ↔ handle ∉ sinIndice := by
  have table : (publicados.all fun handle =>
      decide (rcsIdxForHandle handle ≠ 0 ↔ handle ∉ sinIndice)) = true := by
    decide +kernel
  refine ⟨fun i one bound => ?_, fun handle mem => indicePropio_iff.trans
    (of_decide_eq_true (List.all_eq_true.mp table handle mem))⟩
  refine sesion.lecturaFiel_iff publicaciones (fun zero => ?_) bound
  rw [zero] at one
  exact absurd one (by decide)

/-- The session of a client whose token has been taken, before anything is published. -/
def SesionAutenticada.recienAbierta : SesionAutenticada where
  inicio :=
    { servidor := { Servidor.inicial with
        auth := { Servidor.inicial.auth with authSuccess := true }
        chrSelectableBuffer := fun _ => 0 }
      propias := fun _ => [] }
  vacia := rfl
  autorizada := rfl
  inicializada := rfl

/-- The limit of the cable is set twice, and the current of the second phase notified. -/
def medidasPublicadas : List Publicacion :=
  [⟨false, Handle.measuresMaxCurrentCable, [16], by decide⟩,
    ⟨true, Handle.measuresInstCurrentB, [0xA0, 0x0F], by decide⟩,
    ⟨false, Handle.measuresMaxCurrentCable, [32], by decide⟩]

/-- The limit is read as it was set last, the current by no selector. -/
theorem selector_iff_medidas :
    SesionAutenticada.recienAbierta.LecturaFiel medidasPublicadas
        (rcsIdxForHandle Handle.measuresMaxCurrentCable) ∧
      ultimaPublicada medidasPublicadas Handle.measuresMaxCurrentCable = [32] ∧
      ¬SesionAutenticada.recienAbierta.LecturaFiel medidasPublicadas 74 := by
  obtain ⟨lecturas, -⟩ := selector_iff SesionAutenticada.recienAbierta medidasPublicadas
  refine ⟨(lecturas _ (by decide) (by decide)).mpr fun own => absurd own (by decide),
    by decide, fun fiel => ?_⟩
  have zeros := (lecturas 74 (by decide) (by decide)).mp fiel (by decide) 0 (by decide)
  exact absurd zeros (by decide)

/-- The country is published, and has no index: its place in the tables is under another
handle. -/
theorem timeDateCountry_sinIndice :
    Handle.timeDateCountry ∈ publicados ∧ ¬IndicePropio Handle.timeDateCountry := by
  refine ⟨by decide, fun ⟨one, _⟩ => ?_⟩
  exact absurd one (by decide +kernel)

end VeltiumCharger.Ble
