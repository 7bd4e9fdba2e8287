import Mathlib.Data.Nat.Digits.Defs
import VeltiumCharger.Bloques.Modo

/-!
# The measures of a status block

A status block brings the measures of the charge as little-endian numbers.  The same bytes
are published over Bluetooth and decoded, weight by weight, into `Status`.
-/

namespace VeltiumCharger.Bloques

open VeltiumCharger.Group VeltiumCharger.Buffer

/-! ## Little-endian numbers -/

/-- The little-endian number of `len` bytes. -/
def valorLE (buffer : Recibido) (i len : Nat) : Nat :=
  Nat.ofDigits 256 ((bytes buffer i len).map UInt8.toNat)

section ValorLE

variable {buffer : Recibido} {i : Nat}

theorem valorLE_two : valorLE buffer i 2 = (buffer i).toNat + 256 * (buffer (i + 1)).toNat := by
  simp [valorLE, bytes, List.range_succ, Nat.ofDigits_cons]

theorem valorLE_four : valorLE buffer i 4 = (buffer i).toNat + 256 * (buffer (i + 1)).toNat +
    65536 * (buffer (i + 2)).toNat + 16777216 * (buffer (i + 3)).toNat := by
  simp only [valorLE, bytes, List.range_succ, Nat.ofDigits_cons, List.map_cons, List.map_nil,
    List.range_zero, List.nil_append, List.cons_append, Nat.ofDigits_nil, Nat.add_zero]
  omega

theorem palabra_toNat : (palabra buffer i).toNat = valorLE buffer i 2 := by
  have first := (buffer i).toNat_lt
  have second := (buffer (i + 1)).toNat_lt
  rw [valorLE_two]
  simp only [palabra, UInt16.toNat_add, UInt16.toNat_mul, UInt8.toNat_toUInt16, UInt16.reduceToNat]
  omega

theorem entero_toNat : (Control.entero buffer i).toUInt32.toNat = valorLE buffer i 4 := by
  have first := (buffer i).toNat_lt
  have second := (buffer (i + 1)).toNat_lt
  have third := (buffer (i + 2)).toNat_lt
  have fourth := (buffer (i + 3)).toNat_lt
  rw [valorLE_four, Control.entero, UInt32.toUInt32_toInt32]
  simp only [UInt32.toNat_add, UInt32.toNat_mul, UInt8.toNat_toUInt32, UInt32.reduceToNat]
  omega

theorem energia_toNat : (Control.energia buffer i).toNat =
    (buffer i).toNat + 256 * (buffer (i + 1)).toNat + 4096 * (buffer (i + 2)).toNat +
      65536 * (buffer (i + 3)).toNat := by
  have first := (buffer i).toNat_lt
  have second := (buffer (i + 1)).toNat_lt
  have third := (buffer (i + 2)).toNat_lt
  have fourth := (buffer (i + 3)).toNat_lt
  rw [Control.energia]
  simp only [UInt32.toNat_add, UInt32.toNat_mul, UInt8.toNat_toUInt32, UInt32.reduceToNat]
  omega

/-- The weights of the third and the fourth byte of an energy are 2^12 and 2^16. -/
theorem energia_toNat_iff : (Control.energia buffer i).toNat = valorLE buffer i 4 ↔
    buffer (i + 2) = 0 ∧ buffer (i + 3) = 0 := by
  rw [valorLE_four, energia_toNat, ← UInt8.toNat_inj, ← UInt8.toNat_inj, UInt8.toNat_zero]
  omega

end ValorLE

/-! ## What is promised -/

/-- The value of a characteristic for a client after a call, which publishes it or
notifies it. -/
def Salida.muestra (attrHandle : UInt16) (valor : Option (List UInt8)) :
    Salida → Option (List UInt8)
  | .modifyCharacteristic data handle => if handle = attrHandle then some data else valor
  | .serverbleNotCharacteristic data handle => if handle = attrHandle then some data else valor
  | _ => valor

/-- The last value for a client under a handle. -/
def mostrado (attrHandle : UInt16) (salida : List Salida) : Option (List UInt8) :=
  salida.foldl (Salida.muestra attrHandle) none

/-- The measures of a phase are those of the ten bytes at `i`. -/
structure FaseFiel (buffer : Recibido) (i : Nat) (measures : Measures) : Prop where
  instantCurrent : measures.instantCurrent.toNat = valorLE buffer i 2
  instantVoltage : measures.instantVoltage.toNat = valorLE buffer (i + 2) 2
  activePower : measures.activePower.toNat = valorLE buffer (i + 4) 2
  activeEnergy : measures.activeEnergy.toNat = valorLE buffer (i + 6) 4

/-- The measures are those of the bytes that the layout gives them. -/
structure Fiel (buffer : Recibido) (status : Status) : Prop where
  consumoDomestico : status.measures.consumoDomestico.toNat = valorLE buffer 10 2
  faseA : FaseFiel buffer 14 status.measures
  faseB : status.trifasico = true → FaseFiel buffer 24 status.measuresB
  faseC : status.trifasico = true → FaseFiel buffer 34 status.measuresC
  totalPower : status.totalPower.toUInt32.toNat = valorLE buffer 46 4
  netPower : status.netPower.toUInt32.toNat = valorLE buffer 50 4
  externalMeterPower : status.externalMeterPower.toUInt32.toNat = valorLE buffer 55 4

/-- The measures that are published with each block: handle, place and length. -/
def publicadas : List (UInt16 × Nat × Nat) :=
  [(Handle.domesticConsumptionDomesticCurrent, 10, 2),
    (Handle.measuresInstVoltage, 16, 2),
    (Handle.measuresActivePower, 18, 2),
    (Handle.measuresActiveEnergy, 20, 4),
    (Handle.photovoltaicTotalPower, 46, 4),
    (Handle.photovoltaicNetPower, 50, 4),
    (Handle.externalMeterPower, 55, 4)]

/-- The currents, which are published when they change. -/
def corrientes : List (UInt16 × Nat × Nat) :=
  [(Handle.measuresInstCurrent, 14, 2),
    (Handle.measuresInstCurrentB, 24, 2),
    (Handle.measuresInstCurrentC, 34, 2)]

/-- The bytes published are the ones that are decoded. -/
structure Publica (buffer : Recibido) (antes despues : List Salida) : Prop where
  siempre : ∀ m ∈ publicadas, mostrado m.1 despues = some (bytes buffer m.2.1 m.2.2)
  corriente : ∀ m ∈ corrientes, mostrado m.1 despues = some (bytes buffer m.2.1 m.2.2) ∨
    mostrado m.1 despues = mostrado m.1 antes

namespace Control

/-- A status block is accepted. -/
def AceptaStatus (s : Control) (buffer : Recibido) : Prop :=
  s.systemStarted = true ∧ buffer 45 = 0x36 ∧ Modo.de buffer 1 ∈ hptEstados

/-- A flag that a block leaves depends on the bytes at `i` only. -/
def DependeSolo (s : Control) (buffer : Recibido) (i len : Nat) (bandera : Status → Bool) :
    Prop :=
  ∀ otro, s.AceptaStatus otro → bytes otro i len = bytes buffer i len →
    bandera (s.casoStatus otro).status = bandera (s.casoStatus buffer).status

/-- Each flag depends on its own bytes. -/
structure Banderas (s : Control) (buffer : Recibido) : Prop where
  icpStatus : s.DependeSolo buffer 3 2 Status.icpStatus
  dcLeackStatus : s.DependeSolo buffer 5 2 Status.dcLeackStatus
  conLock : s.DependeSolo buffer 7 2 Status.conLock
  trifasico : s.DependeSolo buffer 44 1 Status.trifasico

/-- The measures of an accepted block are its own, as published, and each flag depends on
its own bytes. -/
def MedidasCorrectas (s : Control) (buffer : Recibido) : Prop :=
  s.AceptaStatus buffer →
    Fiel buffer (s.casoStatus buffer).status ∧
      Publica buffer s.salida (s.casoStatus buffer).salida ∧ s.Banderas buffer

/-! ## What is shown to a client -/

section Mostrado

variable {s : Control} {buffer : Recibido} {attrHandle : UInt16}

theorem mostrado_append (salida : List Salida) (llamada : Salida) :
    mostrado attrHandle (salida ++ [llamada]) =
      llamada.muestra attrHandle (mostrado attrHandle salida) :=
  List.foldl_append

theorem mostrado_modifyCharacteristic (data : List UInt8) (handle : UInt16) :
    mostrado attrHandle (s.modifyCharacteristic data handle).salida =
      if handle = attrHandle then some data else mostrado attrHandle s.salida :=
  mostrado_append _ _

theorem mostrado_serverbleNotCharacteristic (data : List UInt8) (handle : UInt16) :
    mostrado attrHandle (s.serverbleNotCharacteristic data handle).salida =
      if handle = attrHandle then some data else mostrado attrHandle s.salida :=
  mostrado_append _ _

theorem mostrado_sendToPSOC5 (data : List UInt8) (handle : UInt16) :
    mostrado attrHandle (s.sendToPSOC5 data handle).salida = mostrado attrHandle s.salida := by
  unfold sendToPSOC5
  split_ifs
  · rfl
  · exact mostrado_append _ _

variable (otro : Handle.statusHptStatus ≠ attrHandle)

include otro

theorem mostrado_hptBle (hpt : Modo) :
    mostrado attrHandle (s.hptBle hpt).salida = mostrado attrHandle s.salida := by
  unfold hptBle
  split_ifs
  · exact (mostrado_serverbleNotCharacteristic _ _).trans (if_neg otro)
  · exact (mostrado_serverbleNotCharacteristic _ _).trans (if_neg otro)
  · rfl

theorem mostrado_hiloPiloto (hpt : Modo) :
    mostrado attrHandle (s.hiloPiloto hpt).salida = mostrado attrHandle s.salida := by
  have firebase : ∀ t : Control, (t.hptFirebase hpt).salida = t.salida := by
    intro t
    unfold hptFirebase
    dsimp only
    split_ifs <;> rfl
  have grupo : ∀ t : Control, mostrado attrHandle (t.hptGrupo hpt).salida =
      mostrado attrHandle t.salida := by
    intro t
    unfold hptGrupo enviaBloqueo
    dsimp only
    split_ifs <;> first | rfl | exact mostrado_sendToPSOC5 _ _
  unfold hiloPiloto
  split_ifs
  · dsimp only
    rw [grupo, firebase, mostrado_hptBle otro, mostrado_modifyCharacteristic, if_neg otro]
    exact mostrado_sendToPSOC5 _ _
  · dsimp only
    rw [grupo, firebase, mostrado_hptBle otro, mostrado_modifyCharacteristic, if_neg otro]
  · rfl

end Mostrado

/-! ## The parts of a status block -/

section Partes

variable {s : Control} {buffer : Recibido} {attrHandle : UInt16}

theorem statusCorriente_status : (s.statusCorriente buffer).status = s.status := by
  unfold statusCorriente
  dsimp only
  split_ifs <;> simp only [serverbleNotCharacteristic, modifyCharacteristic, anota]

theorem statusPublica_status : (s.statusPublica buffer).status = s.status := by
  simp only [statusPublica, modifyCharacteristic, anota]

theorem statusProtecciones_status : (s.statusProtecciones buffer).status =
    { s.status with
      currentLimit := buffer 12
      measures := { s.status.measures with
        consumoDomestico := palabra buffer 10
        instantCurrent := palabra buffer 14 } } := by
  simp only [statusProtecciones, modifyCharacteristic, anota]

theorem statusMedidas_salida : (s.statusMedidas buffer).salida = s.salida := by
  unfold statusMedidas
  dsimp only
  split_ifs <;> rfl

/-- A current is shown when it is published, and else what was shown before. -/
theorem mostrado_statusCorriente {m : UInt16 × Nat × Nat} (mem : m ∈ corrientes) :
    mostrado m.1 (s.statusCorriente buffer).salida = some (bytes buffer m.2.1 m.2.2) ∨
      mostrado m.1 (s.statusCorriente buffer).salida = mostrado m.1 s.salida := by
  unfold statusCorriente
  dsimp only
  split_ifs
  · -- all three are notified
    left
    simp only [corrientes, List.mem_cons, List.not_mem_nil, or_false] at mem
    obtain rfl | rfl | rfl := mem <;>
    simp +decide only [mostrado_serverbleNotCharacteristic, if_true, if_false]
  · -- only the first one is
    simp only [corrientes, List.mem_cons, List.not_mem_nil, or_false] at mem
    obtain rfl | rfl | rfl := mem <;>
    simp +decide only [mostrado_serverbleNotCharacteristic, mostrado_modifyCharacteristic, if_true,
      if_false, true_or, or_true]
  · exact Or.inr rfl
  · exact Or.inr rfl

theorem mostrado_statusCorriente_of_ne (otro : ∀ m ∈ corrientes, m.1 ≠ attrHandle) :
    mostrado attrHandle (s.statusCorriente buffer).salida = mostrado attrHandle s.salida := by
  simp only [corrientes, List.forall_mem_cons, List.not_mem_nil, false_implies, implies_true,
    and_true] at otro
  obtain ⟨phaseA, phaseB, phaseC⟩ := otro
  unfold statusCorriente
  dsimp only
  split_ifs
  · simp only [mostrado_serverbleNotCharacteristic, mostrado_modifyCharacteristic, if_neg phaseA,
      if_neg phaseB, if_neg phaseC]
  · simp only [mostrado_serverbleNotCharacteristic, mostrado_modifyCharacteristic, if_neg phaseA]
  · rfl
  · rfl

/-- The handles of `statusProtecciones`. -/
def protecciones : List UInt16 :=
  [Handle.statusIcpStatus, Handle.statusRcdStatus, Handle.statusConnLockStatus,
    Handle.measuresMaxCurrentCable, Handle.domesticConsumptionDomesticCurrent,
    Handle.domesticConsumptionRealCurrentLimit, Handle.errorStatusErrorCode]

theorem mostrado_statusProtecciones_of_notMem (otro : attrHandle ∉ protecciones) :
    mostrado attrHandle (s.statusProtecciones buffer).salida = mostrado attrHandle s.salida := by
  simp only [protecciones, List.mem_cons, List.not_mem_nil, or_false, not_or, ← ne_eq] at otro
  unfold statusProtecciones
  simp only [mostrado_modifyCharacteristic, otro.1.symm, otro.2.1.symm, otro.2.2.1.symm,
    otro.2.2.2.1.symm, otro.2.2.2.2.1.symm, otro.2.2.2.2.2.1.symm, otro.2.2.2.2.2.2.symm, if_false]

theorem mostrado_domestic :
    mostrado Handle.domesticConsumptionDomesticCurrent (s.statusProtecciones buffer).salida =
      some (bytes buffer 10 2) := by
  unfold statusProtecciones
  simp +decide only [mostrado_modifyCharacteristic, if_true, if_false]

/-- The handles of `statusPublica`. -/
def medidas : List UInt16 :=
  [Handle.measuresInstVoltage, Handle.measuresActivePower, Handle.measuresActiveEnergy,
    Handle.photovoltaicTotalPower, Handle.photovoltaicNetPower, Handle.measuresApparentPower,
    Handle.externalMeterPower]

theorem mostrado_statusPublica_of_notMem (otro : attrHandle ∉ medidas) :
    mostrado attrHandle (s.statusPublica buffer).salida = mostrado attrHandle s.salida := by
  simp only [medidas, List.mem_cons, List.not_mem_nil, or_false, not_or, ← ne_eq] at otro
  unfold statusPublica
  simp only [mostrado_modifyCharacteristic, otro.1.symm, otro.2.1.symm, otro.2.2.1.symm,
    otro.2.2.2.1.symm, otro.2.2.2.2.1.symm, otro.2.2.2.2.2.1.symm, otro.2.2.2.2.2.2.symm, if_false]

/-- The domestic current is shown already, and each of the other measures is shown here. -/
theorem mostrado_statusPublica
    (domestic : mostrado Handle.domesticConsumptionDomesticCurrent s.salida =
      some (bytes buffer 10 2)) {m : UInt16 × Nat × Nat} (mem : m ∈ publicadas) :
    mostrado m.1 (s.statusPublica buffer).salida = some (bytes buffer m.2.1 m.2.2) := by
  simp only [publicadas, List.mem_cons, List.not_mem_nil, or_false] at mem
  obtain rfl | rest := mem
  · exact (mostrado_statusPublica_of_notMem (by decide)).trans domestic
  · obtain rfl | rfl | rfl | rfl | rfl | rfl := rest <;>
    simp +decide only [statusPublica, mostrado_modifyCharacteristic, if_true, if_false]

/-- Every accepted block is published byte by byte. -/
theorem publica_statusAceptado : Publica buffer s.salida (s.statusAceptado buffer).salida where
  siempre m mem := by
    unfold statusAceptado
    dsimp only
    rw [statusMedidas_salida]
    refine mostrado_statusPublica ?_ mem
    exact (mostrado_statusCorriente_of_ne (by decide)).trans mostrado_domestic
  corriente m mem := by
    have noPublica : ∀ m ∈ corrientes, m.1 ∉ medidas := by decide
    have noProteccion : ∀ m ∈ corrientes, m.1 ∉ protecciones := by decide
    have noHilo : ∀ m ∈ corrientes,
        Handle.statusHptStatus ≠ m.1 ∧ Handle.ledLuminColorLuminosityLevel ≠ m.1 := by decide
    unfold statusAceptado
    dsimp only
    rw [statusMedidas_salida, mostrado_statusPublica_of_notMem (noPublica m mem)]
    refine (mostrado_statusCorriente mem).imp_right fun kept => kept.trans ?_
    rw [mostrado_statusProtecciones_of_notMem (noProteccion m mem),
      mostrado_hiloPiloto (noHilo m mem).1]
    exact (mostrado_modifyCharacteristic _ _).trans (if_neg (noHilo m mem).2)

/-! ## What is stored -/

/-- A phase is decoded right when the high half of its energy is 0. -/
theorem faseFiel_iff {measures : Measures} {i : Nat}
    (corriente : measures.instantCurrent = palabra buffer i)
    (voltaje : measures.instantVoltage = palabra buffer (i + 2))
    (potencia : measures.activePower = palabra buffer (i + 4))
    (energiaActiva : measures.activeEnergy = energia buffer (i + 6)) :
    FaseFiel buffer i measures ↔ buffer (i + 8) = 0 ∧ buffer (i + 9) = 0 := by
  constructor
  · intro fiel
    exact energia_toNat_iff.mp (energiaActiva ▸ fiel.activeEnergy)
  · intro ceros
    exact ⟨corriente ▸ palabra_toNat, voltaje ▸ palabra_toNat, potencia ▸ palabra_toNat,
      energiaActiva ▸ energia_toNat_iff.mpr ceros⟩

theorem faseFiel_fase_iff {measures : Measures} {i : Nat} :
    FaseFiel buffer i (fase buffer i measures) ↔ buffer (i + 8) = 0 ∧ buffer (i + 9) = 0 :=
  faseFiel_iff rfl rfl rfl rfl

/-- The measures that each block stores. -/
theorem statusMedidas_status :
    let status := (s.statusMedidas buffer).status
    status.measures.consumoDomestico = s.status.measures.consumoDomestico ∧
      status.measures.instantCurrent = s.status.measures.instantCurrent ∧
      status.measures.instantVoltage = palabra buffer 16 ∧
      status.measures.activePower = palabra buffer 18 ∧
      status.measures.activeEnergy = energia buffer 20 ∧
      status.totalPower = entero buffer 46 ∧ status.netPower = entero buffer 50 ∧
      status.externalMeterPower = entero buffer 55 := by
  unfold statusMedidas
  dsimp only
  split_ifs <;> exact ⟨rfl, rfl, rfl, rfl, rfl, rfl, rfl, rfl⟩

/-- The flags that each block stores. -/
theorem statusMedidas_banderas :
    let status := (s.statusMedidas buffer).status
    status.icpStatus = (Modo.de buffer 3 == Modo.ofText 'C' 'L') ∧
      status.dcLeackStatus = despuesDeTR (Modo.de buffer 5) ∧
      status.conLock = (Modo.de buffer 7 == Modo.ofText 'U' 'L' && buffer 9 == 0) ∧
      status.trifasico = (buffer 44 == 3) := by
  unfold statusMedidas
  dsimp only
  split_ifs <;> exact ⟨rfl, rfl, rfl, rfl⟩

/-- The other two phases are stored when there are three. -/
theorem statusMedidas_fases (tres : buffer 44 = 3) :
    let status := (s.statusMedidas buffer).status
    status.measuresB = fase buffer 24 s.status.measuresB ∧
      status.measuresC = fase buffer 34 s.status.measuresC := by
  unfold statusMedidas
  dsimp only
  rw [if_pos (beq_iff_eq.mpr tres)]
  exact ⟨rfl, rfl⟩

/-- The parts before the stored measures leave the two that they have set. -/
theorem statusAceptado_eq : ∃ t : Control, s.statusAceptado buffer = t.statusMedidas buffer ∧
    t.status.measures.consumoDomestico = palabra buffer 10 ∧
    t.status.measures.instantCurrent = palabra buffer 14 := by
  refine ⟨_, rfl, ?_⟩
  rw [statusPublica_status, statusCorriente_status, statusProtecciones_status]
  exact ⟨rfl, rfl⟩

/-- The energies of the phases that the block has fit in 16 bits. -/
def EnergiasCortas (buffer : Recibido) : Prop :=
  buffer 22 = 0 ∧ buffer 23 = 0 ∧
    (buffer 44 = 3 → buffer 32 = 0 ∧ buffer 33 = 0 ∧ buffer 42 = 0 ∧ buffer 43 = 0)

theorem fiel_statusAceptado_iff :
    Fiel buffer (s.statusAceptado buffer).status ↔ EnergiasCortas buffer := by
  obtain ⟨t, same, domestico, corriente⟩ := @statusAceptado_eq s buffer
  rw [same]
  obtain ⟨keepsDomestic, keepsCurrent, voltaje, potencia, energiaA, total, net, external⟩ :=
    @statusMedidas_status t buffer
  obtain ⟨-, -, -, trifasico⟩ := @statusMedidas_banderas t buffer
  have faseA : FaseFiel buffer 14 (t.statusMedidas buffer).status.measures ↔
      buffer 22 = 0 ∧ buffer 23 = 0 :=
    faseFiel_iff (keepsCurrent.trans corriente) voltaje potencia energiaA
  constructor
  · intro fiel
    obtain ⟨low, high⟩ := faseA.mp fiel.faseA
    refine ⟨low, high, fun tres => ?_⟩
    have three : (t.statusMedidas buffer).status.trifasico = true := by
      rw [trifasico, tres]
      rfl
    obtain ⟨phaseB, phaseC⟩ := @statusMedidas_fases t buffer tres
    have second := faseFiel_fase_iff.mp (phaseB ▸ fiel.faseB three)
    have third := faseFiel_fase_iff.mp (phaseC ▸ fiel.faseC three)
    exact ⟨second.1, second.2, third.1, third.2⟩
  · rintro ⟨low, high, others⟩
    have three : (t.statusMedidas buffer).status.trifasico = true → buffer 44 = 3 :=
      fun three => beq_iff_eq.mp (trifasico ▸ three)
    exact {
      consumoDomestico := by rw [keepsDomestic, domestico, palabra_toNat]
      faseA := faseA.mpr ⟨low, high⟩
      faseB := fun tres => by
        obtain ⟨second, third, -, -⟩ := others (three tres)
        rw [(@statusMedidas_fases t buffer (three tres)).1]
        exact faseFiel_fase_iff.mpr ⟨second, third⟩
      faseC := fun tres => by
        obtain ⟨-, -, second, third⟩ := others (three tres)
        rw [(@statusMedidas_fases t buffer (three tres)).2]
        exact faseFiel_fase_iff.mpr ⟨second, third⟩
      totalPower := by rw [total, entero_toNat]
      netPower := by rw [net, entero_toNat]
      externalMeterPower := by rw [external, entero_toNat] }

end Partes

/-! ## Which bytes a flag depends on -/

section Dependencia

variable {s : Control} {buffer otro : Recibido}

theorem casoStatus_of_acepta (acepta : s.AceptaStatus buffer) :
    s.casoStatus buffer = s.statusAceptado buffer := by
  obtain ⟨started, mark, known⟩ := acepta
  unfold casoStatus
  rw [started, mark, List.contains_iff_mem.mpr known]
  rfl

theorem bytes_two {i : Nat} :
    bytes otro i 2 = bytes buffer i 2 ↔ Modo.de otro i = Modo.de buffer i := by
  simp [bytes, List.range_succ, Modo.de]

theorem bytes_one {i : Nat} : bytes otro i 1 = bytes buffer i 1 ↔ otro i = buffer i := by
  simp [bytes]

/-- The flags of an accepted block. -/
theorem banderas_casoStatus (acepta : s.AceptaStatus buffer) :
    let status := (s.casoStatus buffer).status
    status.icpStatus = (Modo.de buffer 3 == Modo.ofText 'C' 'L') ∧
      status.dcLeackStatus = despuesDeTR (Modo.de buffer 5) ∧
      status.conLock = (Modo.de buffer 7 == Modo.ofText 'U' 'L' && buffer 9 == 0) ∧
      status.trifasico = (buffer 44 == 3) := by
  rw [casoStatus_of_acepta acepta]
  exact statusMedidas_banderas

/-- The comparison of `Con_Lock` reads a third byte, which matters behind `UL` only. -/
theorem dependeSolo_conLock_iff (acepta : s.AceptaStatus buffer) :
    s.DependeSolo buffer 7 2 Status.conLock ↔ Modo.de buffer 7 ≠ Modo.ofText 'U' 'L' := by
  constructor
  · intro solo unlocked
    -- the same block with another byte 9
    have accepted : s.AceptaStatus (write 9 [if buffer 9 = 0 then 1 else 0] buffer) := acepta
    have same := solo _ accepted rfl
    rw [(banderas_casoStatus accepted).2.2.1, (banderas_casoStatus acepta).2.2.1, unlocked] at same
    have changed : write 9 [if buffer 9 = 0 then 1 else 0] buffer 9 =
        if buffer 9 = 0 then 1 else 0 := rfl
    have kept : Modo.de (write 9 [if buffer 9 = 0 then 1 else 0] buffer) 7 =
        Modo.ofText 'U' 'L' := unlocked
    rw [kept, changed] at same
    by_cases zero : buffer 9 = 0
    · simp [zero] at same
    · simp [zero] at same
  · intro locked otro accepted equal
    rw [(banderas_casoStatus accepted).2.2.1, (banderas_casoStatus acepta).2.2.1,
      bytes_two.mp equal, beq_false_of_ne locked]
    rfl

theorem banderas_iff (acepta : s.AceptaStatus buffer) :
    s.Banderas buffer ↔ Modo.de buffer 7 ≠ Modo.ofText 'U' 'L' := by
  constructor
  · intro banderas
    exact (dependeSolo_conLock_iff acepta).mp banderas.conLock
  · intro locked
    exact {
      icpStatus := fun otro accepted equal => by
        rw [(banderas_casoStatus accepted).1, (banderas_casoStatus acepta).1, bytes_two.mp equal]
      dcLeackStatus := fun otro accepted equal => by
        rw [(banderas_casoStatus accepted).2.1, (banderas_casoStatus acepta).2.1,
          bytes_two.mp equal]
      conLock := (dependeSolo_conLock_iff acepta).mpr locked
      trifasico := fun otro accepted equal => by
        rw [(banderas_casoStatus accepted).2.2.2, (banderas_casoStatus acepta).2.2.2,
          bytes_one.mp equal] }

end Dependencia

/-! ## The accepted blocks -/

/-- The measures of an accepted block are right when its energies fit in 16 bits and its
cable is not unlocked. -/
theorem medidasCorrectas_iff (s : Control) (buffer : Recibido) :
    s.MedidasCorrectas buffer ↔
      (s.AceptaStatus buffer → EnergiasCortas buffer ∧ Modo.de buffer 7 ≠ Modo.ofText 'U' 'L') := by
  unfold MedidasCorrectas
  refine imp_congr_right fun acepta => ?_
  rw [banderas_iff acepta, casoStatus_of_acepta acepta, fiel_statusAceptado_iff]
  exact ⟨fun ⟨short, _, locked⟩ => ⟨short, locked⟩,
    fun ⟨short, locked⟩ => ⟨short, publica_statusAceptado, locked⟩⟩

/-- A status block in `C2` after 65536 Wh. -/
def bloqueDeEnergia : Recibido
  | 1 => 'C'.toUInt8
  | 2 => '2'.toUInt8
  | 22 => 1
  | 45 => 0x36
  | _ => 0

/-- The energy that is stored is 4096 Wh. -/
theorem bloqueDeEnergia_incorrecto :
    ¬ { Control.inicial with systemStarted := true }.MedidasCorrectas bloqueDeEnergia := by
  intro correctas
  have acepta : { Control.inicial with systemStarted := true }.AceptaStatus bloqueDeEnergia :=
    ⟨rfl, rfl, by decide⟩
  obtain ⟨fiel, -, -⟩ := correctas acepta
  rw [casoStatus_of_acepta acepta, fiel_statusAceptado_iff] at fiel
  exact absurd fiel.1 (by decide)

end Control

end VeltiumCharger.Bloques
