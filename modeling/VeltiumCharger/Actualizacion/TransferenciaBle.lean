import VeltiumCharger.Actualizacion.Almacen
import VeltiumCharger.Library.Run

/-!
# Firmware over BLE

A client announces a file of firmware in a prolog, writes it in parts and ends
with an epilog, which starts the installation.  A part carries its index, its
size and its CRC-32; the prolog carries the size of the file and the epilog its
CRC-32.
-/

namespace VeltiumCharger.Actualizacion

open VeltiumCharger.Run

/-- A 16-bit number of a message, the low byte first. -/
def palabra (data : Nat → UInt8) (start : Nat) : UInt16 :=
  (data start).toUInt16 ||| (data (start + 1)).toUInt16 <<< 8

/-- A 32-bit number of a message, the low byte first. -/
def dobleWord (data : Nat → UInt8) (start : Nat) : UInt32 :=
  (palabra data start).toUInt32 ||| (palabra data (start + 2)).toUInt32 <<< 16

/-- `size` bytes of a message. -/
def tramo (data : Nat → UInt8) (start size : Nat) : List UInt8 :=
  (List.range size).map fun i => data (start + i)

/-- `ESP_UPDATE` -/
def espUpdate : UInt8 := 1

/-- `PSOC_UPDATE` -/
def psocUpdate : UInt8 := 2

/-- The signature of firmware for the charger. -/
def vble : List UInt8 := "VBLE".toList.map Char.toUInt8

/-- The signature of firmware for the other processor. -/
def velt : List UInt8 := "VELT".toList.map Char.toUInt8

/-- `strstr` finds the text. -/
def strstr (texto buscado : List UInt8) : Bool :=
  texto.tails.any buscado.isPrefixOf

/-- A part: its index, its contents and the CRC-32 that came with it. -/
structure Parte where
  index : UInt16
  payload : List UInt8
  partCRC32 : UInt32
  deriving DecidableEq, Repr

/-- An installation started by an epilog: the image that is stored, and what the
client had sent for it. -/
structure Activacion where
  imagen : Option (List UInt8)
  aceptadas : List Parte
  updatefileSize : UInt32
  fullCRC32 : UInt32
  deriving DecidableEq, Repr

/-- The variables of an update over BLE.  The last three only record: the
notifications sent to the client, the parts accepted since the prolog, and the
installations started. -/
structure Actualizador where
  testing : Bool
  emergencyState : Bool
  updateType : UInt8
  updatefileSize : UInt32
  updateFileAbierto : Bool
  spiffs : Spiffs
  update : UpdateClass
  descargandoArchivo : Bool
  instalandoArchivo : Bool
  mainFwUpdateActive : Bool
  reset : Bool
  avisos : List UInt32
  aceptadas : List Parte
  activaciones : List Activacion
  deriving DecidableEq, Repr

/-- The variables when the charger starts. -/
def Actualizador.arranque (spiffs : Spiffs) : Actualizador where
  testing := false
  emergencyState := false
  updateType := 0
  updatefileSize := 0
  updateFileAbierto := false
  spiffs := spiffs
  update := .inicial
  descargandoArchivo := false
  instalandoArchivo := false
  mainFwUpdateActive := false
  reset := false
  avisos := []
  aceptadas := []
  activaciones := []

/-- What the hardware does during a write of the client: whether
`PSOC_UPDATE_FILE` could be created, how many bytes each attempt appends to it,
and whether the flash memory, the heap and the boot loader did as asked. -/
structure Hardware where
  apertura : Bool
  escritos : Nat → Nat
  flashOk : Bool
  memoria : Bool
  verifica : Bool

namespace Actualizador

variable (s : Actualizador) (hw : Hardware)

/-- `ESP.restart()`: the variables are lost, the files are not. -/
def restart : Actualizador :=
  { arranque (s.spiffs.montar false) with
    avisos := s.avisos
    activaciones := s.activaciones }

/-- `serverbleNotCharacteristic` of a code. -/
def notifica (successCode : UInt32) : Actualizador :=
  { s with avisos := s.avisos ++ [successCode] }

/-- The signature of a prolog, up to its terminator. -/
def signature (payload : Nat → UInt8) : List UInt8 :=
  (tramo payload 0 10).takeWhile (· != 0)

/-- A prolog for the charger itself, `VBLE`. -/
def prologEsp : Actualizador :=
  let terminado := s.update.endUpdate hw.verifica
  let empezado := terminado.1.beginUpdate s.updatefileSize.toNat hw.memoria
  if empezado.2 then
    notifica { s with updateType := espUpdate, update := empezado.1, aceptadas := [] } 0
  else
    notifica { s with
      updateType := espUpdate
      update := (empezado.1.endUpdate hw.verifica).1
      aceptadas := [] } 1

/-- A prolog for the other processor, `VELT`: the partition is formatted and the
file created. -/
def prologPsoc : Actualizador :=
  notifica { s with
    updateType := psocUpdate
    updateFileAbierto := hw.apertura
    spiffs := (s.spiffs.montar true).format.abrir hw.apertura
    aceptadas := [] } 0

/-- The case `FWUPDATE_BIRD_PROLOG_PSEUDO_CHAR_HANDLE` of `onWrite`. -/
def prolog (payload : Nat → UInt8) : Actualizador :=
  let s := { s with updatefileSize := dobleWord payload 10, descargandoArchivo := true }
  if strstr (signature payload) vble then s.prologEsp hw
  else if strstr (signature payload) velt then s.prologPsoc hw
  else s.notifica 0x40

/-- The file is closed and removed, and its partition unmounted. -/
def abandona : Actualizador :=
  { s with
    updateFileAbierto := false
    spiffs := s.spiffs.removeUpdateFile.montar false
    descargandoArchivo := false }

/-- The attempts to write a part into the file, until one writes all of it. -/
def escribir (payload : List UInt8) (escritos : Nat → Nat) : Nat → Nat → Spiffs → Spiffs × Bool
  | 0, _, fs => (fs, false)
  | quedan + 1, intento, fs =>
    let n := min (escritos intento) payload.length
    let fs := fs.anadir (payload.take n)
    if n = payload.length then (fs, true)
    else escribir payload escritos quedan (intento + 1) fs

/-- The bytes each attempt appends: a file that is not open takes nothing. -/
def tomados (intento : Nat) : Nat :=
  if s.updateFileAbierto then hw.escritos intento else 0

/-- A part for the other processor: the first write and 15 more attempts. -/
def partePsoc (payload : List UInt8) : Actualizador :=
  let escrito := escribir payload (s.tomados hw) 16 0 s.spiffs
  if escrito.2 then notifica { s with spiffs := escrito.1 } 0
  else notifica (abandona { s with spiffs := escrito.1 }) 2

/-- A part for the charger itself. -/
def parteEsp (payload : List UInt8) : Actualizador :=
  let escrito := s.update.write hw.flashOk payload
  notifica { s with update := escrito.1 } (if escrito.2 then 0 else 2)

/-- A part with a wrong CRC-32. -/
def rechaza : Actualizador :=
  let s := s.notifica 2
  if s.updateType = psocUpdate then s.abandona
  else { s with update := (s.update.endUpdate hw.verifica).1, descargandoArchivo := false }

/-- The part a message carries. -/
def parteDe (data : Nat → UInt8) : Parte where
  index := palabra data 0
  payload := tramo data 4 (palabra data 2).toNat
  partCRC32 := dobleWord data 260

/-- The CRC-32 of a part is right, or it is not looked at. -/
def acepta (parte : Parte) : Bool :=
  s.testing || crc32 parte.payload 0xFFFFFFFF == parte.partCRC32

/-- The case `FW_DATA` of `onWrite`. -/
def fwData (data : Nat → UInt8) : Actualizador :=
  let parte := parteDe data
  if s.acepta parte then
    let s := { s with aceptadas := s.aceptadas ++ [parte] }
    if s.updateType = espUpdate then s.parteEsp hw parte.payload
    else if s.updateType = psocUpdate then s.partePsoc hw parte.payload
    else s.notifica 0
  else s.rechaza hw

/-- An epilog for the charger itself: it is restarted when the image is good. -/
def epilogEsp (fullCRC32 : UInt32) : Actualizador :=
  let terminado := s.update.endUpdate hw.verifica
  if terminado.2 then
    { s with
      update := terminado.1
      reset := true
      activaciones := s.activaciones ++
        [⟨some s.update.flash, s.aceptadas, s.updatefileSize, fullCRC32⟩] }
  else { s with update := terminado.1 }

/-- An epilog for the other processor: its update is activated when the file has
the size announced. -/
def epilogPsoc (fullCRC32 : UInt32) : Actualizador :=
  let s := { s with updateFileAbierto := false }
  if s.updatefileSize.toNat = s.spiffs.size then
    let activado : Actualizador := { s with
      spiffs := s.spiffs.montar false
      mainFwUpdateActive := true
      activaciones := s.activaciones ++
        [⟨s.spiffs.leer, s.aceptadas, s.updatefileSize, fullCRC32⟩] }
    if s.emergencyState then activado.restart else activado
  else restart (notifica { s with spiffs := s.spiffs.removeUpdateFile } 2)

/-- An epilog restarts the charger: the file has another size than the one
announced, or the charger is in its emergency mode. -/
def reinicia : Bool :=
  s.updateType == psocUpdate &&
    (s.updatefileSize.toNat != s.spiffs.size || s.emergencyState)

/-- The case `FWUPDATE_BIRD_EPILOG_PSEUDO_CHAR_HANDLE` of `onWrite`. -/
def epilog (payload : Nat → UInt8) : Actualizador :=
  let fullCRC32 := dobleWord payload 0
  let s := { s.notifica 0 with descargandoArchivo := false, instalandoArchivo := true }
  if s.updateType = espUpdate then s.epilogEsp hw fullCRC32
  else if s.updateType = psocUpdate then s.epilogPsoc fullCRC32
  else s

end Actualizador

/-- The writes of a client. -/
inductive EscrituraBle
  | prolog (payload : Nat → UInt8) (hw : Hardware)
  | fwData (data : Nat → UInt8) (hw : Hardware)
  | epilog (payload : Nat → UInt8) (hw : Hardware)

/-- One write. -/
def Actualizador.paso (s : Actualizador) : EscrituraBle → Actualizador
  | .prolog payload hw => s.prolog hw payload
  | .fwData data hw => s.fwData hw data
  | .epilog payload hw => s.epilog hw payload

/-- The bytes of the parts accepted, in the order they came. -/
def Actualizador.recibido (s : Actualizador) : List UInt8 :=
  (s.aceptadas.map Parte.payload).flatten

/-- What is promised of an installation: the image is made of parts `0 … n - 1`,
all accepted, in this order; it has the size and the CRC-32 announced. -/
def Activacion.Integra (a : Activacion) : Prop :=
  ∃ partes : List (List UInt8),
    a.imagen = some partes.flatten ∧
    (∀ i (menor : i < partes.length),
      ∃ parte ∈ a.aceptadas, parte.index.toNat = i ∧ parte.payload = partes[i] ∧
        crc32 parte.payload 0xFFFFFFFF = parte.partCRC32) ∧
    partes.flatten.length = a.updatefileSize.toNat ∧
    crc32 partes.flatten 0xFFFFFFFF = a.fullCRC32

/-- An image of the file being received could still be installed. -/
def Actualizador.Viva (s : Actualizador) : Prop :=
  s.updateType = espUpdate ∧ s.update.size ≠ 0 ∨
    s.updateType = psocUpdate ∧ s.spiffs.leer.isSome = true

instance (s : Actualizador) : Decidable s.Viva :=
  inferInstanceAs (Decidable (_ ∨ _))

/-- The writes of a transfer without faults: a prolog announces a size for one of
the two processors; parts come in the order of their indices, each once, and
within that size; an attempt to write a part into the file writes all or nothing;
the epilog carries the CRC-32 of the parts. -/
def Actualizador.Limpio (s : Actualizador) : EscrituraBle → Prop
  | .prolog payload _ =>
    (strstr (signature payload) vble || strstr (signature payload) velt) = true ∧
      dobleWord payload 10 ≠ 0 ∧ dobleWord payload 10 ≠ 0xFFFFFFFF
  | .fwData data hw =>
    s.acepta (parteDe data) = true → s.Viva →
      (parteDe data).index.toNat = s.aceptadas.length ∧
        s.recibido.length + (parteDe data).payload.length ≤ s.updatefileSize.toNat ∧
        (s.updateType = psocUpdate →
          ∀ i < 16, hw.escritos i = 0 ∨ (parteDe data).payload.length ≤ hw.escritos i)
  | .epilog payload _ => s.Viva → dobleWord payload 0 = crc32 s.recibido 0xFFFFFFFF

/-- The parts carry the indices `0, 1, …` in the order they came. -/
def EnOrden (aceptadas : List Parte) : Prop :=
  ∀ i (menor : i < aceptadas.length), aceptadas[i].index.toNat = i

/-- The invariant of a transfer without faults: what is stored, as long as
something is, are the parts accepted so far. -/
structure Fiel (s : Actualizador) : Prop where
  integras : ∀ a ∈ s.activaciones, a.Integra
  cliente : s.testing = false
  sano : s.update.error = true → s.update.size = 0
  correctas : ∀ parte ∈ s.aceptadas, crc32 parte.payload 0xFFFFFFFF = parte.partCRC32
  psoc : s.updateType = psocUpdate → s.updatefileSize ≠ 0 ∧
    ∀ imagen, s.spiffs.leer = some imagen → imagen = s.recibido ∧ EnOrden s.aceptadas
  esp : s.updateType = espUpdate → s.update.size ≠ 0 →
    s.update.size = s.updatefileSize.toNat ∧ s.update.datos = s.recibido ∧
      s.recibido.length ≤ s.update.size ∧ EnOrden s.aceptadas

theorem EnOrden.concat {aceptadas : List Parte} (enOrden : EnOrden aceptadas) {parte : Parte}
    (siguiente : parte.index.toNat = aceptadas.length) : EnOrden (aceptadas ++ [parte]) := by
  intro i menor
  by_cases antes : i < aceptadas.length
  · rw [List.getElem_append_left antes]
    exact enOrden i antes
  · have igual : i = aceptadas.length := by
      rw [List.length_append, List.length_singleton] at menor
      omega
    subst igual
    simpa using siguiente

/-- Parts in order make an image that is whole. -/
theorem integra_of_enOrden {s : Actualizador} (fiel : Fiel s) (enOrden : EnOrden s.aceptadas)
    {fullCRC32 : UInt32} (size : s.recibido.length = s.updatefileSize.toNat)
    (crc : fullCRC32 = crc32 s.recibido 0xFFFFFFFF) :
    Activacion.Integra ⟨some s.recibido, s.aceptadas, s.updatefileSize, fullCRC32⟩ := by
  refine ⟨s.aceptadas.map Parte.payload, rfl, ?_, size, crc.symm⟩
  intro i menor
  rw [List.length_map] at menor
  have esta := List.getElem_mem menor
  exact ⟨s.aceptadas[i], esta, enOrden i menor, (List.getElem_map _).symm,
    fiel.correctas _ esta⟩

theorem espUpdate_ne_psocUpdate : espUpdate ≠ psocUpdate := by
  decide

section Prolog

variable {s : Actualizador} {hw : Hardware}

theorem fiel_prologEsp (integras : ∀ a ∈ s.activaciones, a.Integra)
    (cliente : s.testing = false) (sano : s.update.error = true → s.update.size = 0)
    (conocido : s.updatefileSize ≠ 0xFFFFFFFF) : Fiel (s.prologEsp hw) := by
  have libre : (s.update.endUpdate hw.verifica).1.size = 0 :=
    UpdateClass.size_endUpdate hw.verifica sano
  have tamano : ¬ s.updatefileSize.toNat = sizeUnknown := by
    intro igual
    exact conocido (UInt32.toNat_inj.mp igual)
  unfold Actualizador.prologEsp
  dsimp only
  rcases UpdateClass.beginUpdate_cases s.updatefileSize.toNat hw.memoria libre with
    ⟨falla, parado⟩ | empieza
  · rw [falla, if_neg Bool.false_ne_true, UpdateClass.endUpdate_parado hw.verifica parado]
    constructor
    case integras => exact integras
    case cliente => exact cliente
    case sano => exact fun _ => parado
    case correctas => exact fun _ nada => nomatch nada
    case psoc => exact fun otro => absurd otro espUpdate_ne_psocUpdate
    case esp => exact fun _ corre => absurd parado corre
  · rw [empieza, if_pos rfl, if_neg tamano]
    constructor
    case integras => exact integras
    case cliente => exact cliente
    case sano => exact fun error => absurd error Bool.false_ne_true
    case correctas => exact fun _ nada => nomatch nada
    case psoc => exact fun otro => absurd otro espUpdate_ne_psocUpdate
    case esp => exact fun _ _ => ⟨rfl, rfl, Nat.zero_le _, fun _ menor => nomatch menor⟩

theorem fiel_prologPsoc (integras : ∀ a ∈ s.activaciones, a.Integra)
    (cliente : s.testing = false) (sano : s.update.error = true → s.update.size = 0)
    (conocido : s.updatefileSize ≠ 0) : Fiel (s.prologPsoc hw) := by
  constructor
  case integras => exact integras
  case cliente => exact cliente
  case sano => exact sano
  case correctas => exact fun _ nada => nomatch nada
  case psoc =>
    intro _
    refine ⟨conocido, fun imagen leida => ?_⟩
    have vacia : ((s.spiffs.montar true).format.abrir hw.apertura).leer = some imagen := leida
    cases apertura : hw.apertura with
    | true =>
        rw [apertura] at vacia
        cases vacia
        exact ⟨rfl, fun _ menor => nomatch menor⟩
    | false =>
        rw [apertura] at vacia
        cases vacia
  case esp => exact fun otro => absurd otro.symm espUpdate_ne_psocUpdate

theorem Fiel.prolog (fiel : Fiel s) {payload : Nat → UInt8}
    (limpio : s.Limpio (.prolog payload hw)) : Fiel (s.prolog hw payload) := by
  obtain ⟨firma, algo, conocido⟩ := limpio
  unfold Actualizador.prolog
  dsimp only
  split_ifs with esp psoc
  · exact fiel_prologEsp fiel.integras fiel.cliente fiel.sano conocido
  · exact fiel_prologPsoc fiel.integras fiel.cliente fiel.sano algo
  · exact absurd firma (by simp [esp, psoc])

end Prolog

section Partes

variable {s : Actualizador} {hw : Hardware}

/-- The attempts of a part that writes all or nothing: the file grows by the
part, or stays as it is. -/
theorem escribir_cases {payload : List UInt8} {escritos : Nat → Nat} {quedan intento : Nat}
    (enteros : ∀ i, intento ≤ i → i < intento + quedan →
      escritos i = 0 ∨ payload.length ≤ escritos i) (fs : Spiffs) :
    Actualizador.escribir payload escritos quedan intento fs = (fs, false) ∨
      Actualizador.escribir payload escritos quedan intento fs = (fs.anadir payload, true) := by
  induction quedan generalizing intento with
  | zero => exact .inl rfl
  | succ quedan ih =>
      have resto := @ih (intento + 1) fun i desde hasta => enteros i (by omega) (by omega)
      unfold Actualizador.escribir
      dsimp only
      rcases enteros intento (Nat.le_refl _) (by omega) with nada | todo
      · rw [nada, Nat.zero_min, List.take_zero, Spiffs.anadir_nil]
        split_ifs with vacia
        · right
          rw [List.eq_nil_of_length_eq_zero vacia.symm, Spiffs.anadir_nil]
        · exact resto
      · rw [Nat.min_eq_right todo, if_pos rfl, List.take_length]
        exact .inr rfl

/-- A file that cannot be read stays so. -/
theorem escribir_leer_none {payload : List UInt8} {escritos : Nat → Nat} {quedan intento : Nat}
    {fs : Spiffs} (nada : fs.leer = none) :
    (Actualizador.escribir payload escritos quedan intento fs).1.leer = none := by
  induction quedan generalizing intento fs with
  | zero => exact nada
  | succ quedan ih =>
      have sigue (bytes : List UInt8) : (fs.anadir bytes).leer = none := by
        rw [Spiffs.leer_anadir, nada]
        rfl
      unfold Actualizador.escribir
      dsimp only
      split_ifs
      · exact sigue _
      · exact ih (sigue _)

/-- The variables with one more part accepted. -/
def Actualizador.conParte (s : Actualizador) (parte : Parte) : Actualizador :=
  { s with aceptadas := s.aceptadas ++ [parte] }

theorem recibido_conParte (parte : Parte) :
    (s.conParte parte).recibido = s.recibido ++ parte.payload := by
  simp [Actualizador.recibido, Actualizador.conParte]

theorem leer_abandona : s.abandona.spiffs.leer = none := by
  unfold Actualizador.abandona Spiffs.montar Spiffs.leer
  rfl

theorem Fiel.acepta (fiel : Fiel s) {parte : Parte} (acepta : s.acepta parte = true) :
    ∀ otra ∈ (s.conParte parte).aceptadas, crc32 otra.payload 0xFFFFFFFF = otra.partCRC32 := by
  intro otra esta
  rcases List.mem_append.mp esta with antes | nueva
  · exact fiel.correctas otra antes
  · rw [List.mem_singleton.mp nueva]
    rw [Actualizador.acepta, fiel.cliente, Bool.false_or] at acepta
    exact eq_of_beq acepta

/-- A part for the charger. -/
theorem Fiel.parteEsp (fiel : Fiel s) {parte : Parte} (tipo : s.updateType = espUpdate)
    (acepta : s.acepta parte = true)
    (limpio : s.update.size ≠ 0 → parte.index.toNat = s.aceptadas.length ∧
      s.recibido.length + parte.payload.length ≤ s.updatefileSize.toNat) :
    Fiel ((s.conParte parte).parteEsp hw parte.payload) := by
  have noPsoc : s.updateType ≠ psocUpdate := tipo ▸ espUpdate_ne_psocUpdate
  by_cases parado : s.update.size = 0
  · have igual := UpdateClass.write_parado hw.flashOk parte.payload parado
    constructor
    case integras => exact fiel.integras
    case cliente => exact fiel.cliente
    case sano => exact fun _ => (congrArg UpdateClass.size igual).trans parado
    case correctas => exact fiel.acepta acepta
    case psoc => exact fun otro => absurd otro noPsoc
    case esp => exact fun _ corre => absurd ((congrArg UpdateClass.size igual).trans parado) corre
  · have sana : s.update.error = false := by
      cases error : s.update.error with
      | true => exact absurd (fiel.sano error) parado
      | false => rfl
    obtain ⟨size, datos, _, enOrden⟩ := fiel.esp tipo parado
    obtain ⟨siguiente, cabe⟩ := limpio parado
    rcases UpdateClass.write_cases hw.flashOk parte.payload parado sana with
      falla | ⟨size_eq, error_eq, datos_eq⟩
    · constructor
      case integras => exact fiel.integras
      case cliente => exact fiel.cliente
      case sano => exact fun _ => congrArg UpdateClass.size falla
      case correctas => exact fiel.acepta acepta
      case psoc => exact fun otro => absurd otro noPsoc
      case esp => exact fun _ corre => absurd (congrArg UpdateClass.size falla) corre
    · constructor
      case integras => exact fiel.integras
      case cliente => exact fiel.cliente
      case sano => exact fun error => absurd (error_eq.symm.trans error) Bool.false_ne_true
      case correctas => exact fiel.acepta acepta
      case psoc => exact fun otro => absurd otro noPsoc
      case esp =>
        intro _ _
        have recibido := recibido_conParte (s := s) parte
        refine ⟨size_eq.trans size, ?_, ?_, enOrden.concat siguiente⟩
        · exact datos_eq.trans (by rw [datos]; exact recibido.symm)
        · show (s.conParte parte).recibido.length ≤ (s.update.write hw.flashOk parte.payload).1.size
          rw [recibido, List.length_append, size_eq, size]
          exact cabe

/-- A part for the other processor. -/
theorem Fiel.partePsoc (fiel : Fiel s) {parte : Parte} (tipo : s.updateType = psocUpdate)
    (acepta : s.acepta parte = true)
    (limpio : s.spiffs.leer.isSome = true → parte.index.toNat = s.aceptadas.length ∧
      ∀ i < 16, hw.escritos i = 0 ∨ parte.payload.length ≤ hw.escritos i) :
    Fiel ((s.conParte parte).partePsoc hw parte.payload) := by
  have noEsp : s.updateType ≠ espUpdate := tipo ▸ espUpdate_ne_psocUpdate.symm
  obtain ⟨algo, imagenes⟩ := fiel.psoc tipo
  have escrito : ∀ imagen,
      (Actualizador.escribir parte.payload (s.tomados hw) 16 0 s.spiffs).2 = true →
      (Actualizador.escribir parte.payload (s.tomados hw) 16 0 s.spiffs).1.leer = some imagen →
      imagen = (s.conParte parte).recibido ∧ EnOrden (s.conParte parte).aceptadas := by
    intro imagen completa leida
    cases antes : s.spiffs.leer with
    | none =>
        rw [escribir_leer_none antes] at leida
        cases leida
    | some previa =>
        obtain ⟨siguiente, enteros⟩ := limpio (by rw [antes]; rfl)
        obtain ⟨igual, enOrden⟩ := imagenes previa antes
        have enteros' : ∀ i, 0 ≤ i → i < 0 + 16 →
            s.tomados hw i = 0 ∨ parte.payload.length ≤ s.tomados hw i := by
          intro i _ menor
          unfold Actualizador.tomados
          split_ifs
          · exact enteros i (by omega)
          · exact .inl rfl
        rcases escribir_cases enteros' s.spiffs with falla | crece
        · rw [falla] at completa
          cases completa
        · rw [crece, Spiffs.leer_anadir, antes, Option.map_some] at leida
          cases leida
          rw [recibido_conParte, igual]
          exact ⟨rfl, enOrden.concat siguiente⟩
  unfold Actualizador.partePsoc
  dsimp only
  split_ifs with completa
  · constructor
    case integras => exact fiel.integras
    case cliente => exact fiel.cliente
    case sano => exact fiel.sano
    case correctas => exact fiel.acepta acepta
    case psoc => exact fun _ => ⟨algo, fun imagen => escrito imagen completa⟩
    case esp => exact fun otro => absurd otro noEsp
  · constructor
    case integras => exact fiel.integras
    case cliente => exact fiel.cliente
    case sano => exact fiel.sano
    case correctas => exact fiel.acepta acepta
    case psoc =>
      exact fun _ => ⟨algo, fun imagen leida => nomatch leer_abandona.symm.trans leida⟩
    case esp => exact fun otro => absurd otro noEsp

/-- A part with a wrong CRC-32 ends the transfer. -/
theorem Fiel.rechaza (fiel : Fiel s) : Fiel (s.rechaza hw) := by
  unfold Actualizador.rechaza
  dsimp only
  split_ifs with tipo
  · constructor
    case integras => exact fiel.integras
    case cliente => exact fiel.cliente
    case sano => exact fiel.sano
    case correctas => exact fiel.correctas
    case psoc =>
      exact fun _ => ⟨(fiel.psoc tipo).1, fun imagen leida =>
        nomatch leer_abandona.symm.trans leida⟩
    case esp => exact fun otro => absurd (otro.symm.trans tipo) espUpdate_ne_psocUpdate
  · have parado := UpdateClass.size_endUpdate hw.verifica fiel.sano
    constructor
    case integras => exact fiel.integras
    case cliente => exact fiel.cliente
    case sano => exact fun _ => parado
    case correctas => exact fiel.correctas
    case psoc => exact fun otro => absurd otro tipo
    case esp => exact fun _ corre => absurd parado corre

theorem Fiel.fwData (fiel : Fiel s) {data : Nat → UInt8} (limpio : s.Limpio (.fwData data hw)) :
    Fiel (s.fwData hw data) := by
  unfold Actualizador.fwData
  dsimp only
  split_ifs with acepta esp psoc
  · refine fiel.parteEsp esp acepta fun corre => ?_
    obtain ⟨siguiente, cabe, -⟩ := limpio acepta (.inl ⟨esp, corre⟩)
    exact ⟨siguiente, cabe⟩
  · refine fiel.partePsoc psoc acepta fun esta => ?_
    obtain ⟨siguiente, -, enteros⟩ := limpio acepta (.inr ⟨psoc, esta⟩)
    exact ⟨siguiente, enteros psoc⟩
  · constructor
    case integras => exact fiel.integras
    case cliente => exact fiel.cliente
    case sano => exact fiel.sano
    case correctas => exact fiel.acepta acepta
    case psoc => exact fun otro => absurd otro psoc
    case esp => exact fun otro => absurd otro esp
  · exact fiel.rechaza

end Partes

section Epilog

variable {s : Actualizador} {hw : Hardware}

/-- A restart leaves no transfer behind. -/
theorem fiel_restart (integras : ∀ a ∈ s.activaciones, a.Integra) : Fiel s.restart := by
  constructor
  case integras => exact integras
  case cliente => rfl
  case sano => exact fun _ => rfl
  case correctas => exact fun _ nada => nomatch nada
  case psoc => exact fun otro => absurd otro (show (0 : UInt8) ≠ psocUpdate by decide)
  case esp => exact fun otro => absurd otro (show (0 : UInt8) ≠ espUpdate by decide)

theorem integras_concat {a : Activacion} (integras : ∀ a ∈ s.activaciones, a.Integra)
    (integra : a.Integra) : ∀ otra ∈ s.activaciones ++ [a], otra.Integra := by
  intro otra esta
  rcases List.mem_append.mp esta with antes | nueva
  · exact integras otra antes
  · rwa [List.mem_singleton.mp nueva]

/-- An epilog for the charger. -/
theorem Fiel.epilogEsp (fiel : Fiel s) (tipo : s.updateType = espUpdate) {fullCRC32 : UInt32}
    (limpio : s.update.size ≠ 0 → fullCRC32 = crc32 s.recibido 0xFFFFFFFF) :
    Fiel (s.epilogEsp hw fullCRC32) := by
  have noPsoc : s.updateType ≠ psocUpdate := tipo ▸ espUpdate_ne_psocUpdate
  have parado := UpdateClass.size_endUpdate hw.verifica fiel.sano
  unfold Actualizador.epilogEsp
  dsimp only
  rcases @UpdateClass.endUpdate_cases s.update hw.verifica with
    ⟨termina, corre, -, completa, -⟩ | ⟨falla, -⟩
  · obtain ⟨size, datos, cabe, enOrden⟩ := fiel.esp tipo corre
    -- the partition is full, so nothing of what was received is still in the buffer
    have vacio : s.update.buffer = [] := by
      have largo := congrArg List.length datos
      rw [UpdateClass.datos, List.length_append, completa] at largo
      exact List.eq_nil_of_length_eq_zero (by omega)
    have imagen : s.update.flash = s.recibido := by
      rw [← datos, UpdateClass.datos, vacio, List.append_nil]
    rw [if_pos termina]
    constructor
    case integras =>
      refine integras_concat fiel.integras ?_
      rw [imagen]
      refine integra_of_enOrden fiel enOrden ?_ (limpio corre)
      rw [← imagen, completa, size]
    case cliente => exact fiel.cliente
    case sano => exact fun _ => parado
    case correctas => exact fiel.correctas
    case psoc => exact fun otro => absurd otro noPsoc
    case esp => exact fun _ sigue => absurd parado sigue
  · rw [falla, if_neg Bool.false_ne_true]
    constructor
    case integras => exact fiel.integras
    case cliente => exact fiel.cliente
    case sano => exact fun _ => parado
    case correctas => exact fiel.correctas
    case psoc => exact fun otro => absurd otro noPsoc
    case esp => exact fun _ sigue => absurd parado sigue

/-- An epilog for the other processor. -/
theorem Fiel.epilogPsoc (fiel : Fiel s) (tipo : s.updateType = psocUpdate) {fullCRC32 : UInt32}
    (limpio : s.spiffs.leer.isSome = true → fullCRC32 = crc32 s.recibido 0xFFFFFFFF) :
    Fiel (s.epilogPsoc fullCRC32) := by
  have noEsp : s.updateType ≠ espUpdate := tipo ▸ espUpdate_ne_psocUpdate.symm
  obtain ⟨algo, imagenes⟩ := fiel.psoc tipo
  unfold Actualizador.epilogPsoc
  dsimp only
  by_cases entero : s.updatefileSize.toNat = s.spiffs.size
  · rw [if_pos entero]
    have integra : Activacion.Integra
        ⟨s.spiffs.leer, s.aceptadas, s.updatefileSize, fullCRC32⟩ := by
      cases leida : s.spiffs.leer with
      | none =>
          rw [Spiffs.size, leida] at entero
          exact absurd (UInt32.toNat_inj.mp entero) algo
      | some imagen =>
          obtain ⟨rfl, enOrden⟩ := imagenes imagen leida
          refine integra_of_enOrden fiel enOrden ?_ (limpio (by rw [leida]; rfl))
          rw [entero, Spiffs.size, leida]
          rfl
    split_ifs
    · exact fiel_restart (integras_concat fiel.integras integra)
    · constructor
      case integras => exact integras_concat fiel.integras integra
      case cliente => exact fiel.cliente
      case sano => exact fiel.sano
      case correctas => exact fiel.correctas
      case psoc => exact fun _ => ⟨algo, fun _ leida => nomatch leida⟩
      case esp => exact fun otro => absurd otro noEsp
  · rw [if_neg entero]
    exact fiel_restart fiel.integras

theorem Fiel.epilog (fiel : Fiel s) {payload : Nat → UInt8}
    (limpio : s.Limpio (.epilog payload hw)) : Fiel (s.epilog hw payload) := by
  have avisado : Fiel
      { s.notifica 0 with descargandoArchivo := false, instalandoArchivo := true } :=
    ⟨fiel.integras, fiel.cliente, fiel.sano, fiel.correctas, fiel.psoc, fiel.esp⟩
  unfold Actualizador.epilog
  dsimp only
  split_ifs with esp psoc
  · exact avisado.epilogEsp esp fun corre => limpio (.inl ⟨esp, corre⟩)
  · exact avisado.epilogPsoc psoc fun esta => limpio (.inr ⟨psoc, esta⟩)
  · exact avisado

end Epilog

theorem Fiel.paso {s : Actualizador} (fiel : Fiel s) {escritura : EscrituraBle}
    (limpio : s.Limpio escritura) : Fiel (s.paso escritura) := by
  cases escritura with
  | prolog payload hw => exact fiel.prolog limpio
  | fwData data hw => exact fiel.fwData limpio
  | epilog payload hw => exact fiel.epilog limpio

theorem fiel_arranque (spiffs : Spiffs) : Fiel (.arranque spiffs) := by
  constructor
  case integras => exact fun _ nada => nomatch nada
  case cliente => rfl
  case sano => exact fun _ => rfl
  case correctas => exact fun _ nada => nomatch nada
  case psoc => exact fun otro => absurd otro (show (0 : UInt8) ≠ psocUpdate by decide)
  case esp => exact fun otro => absurd otro (show (0 : UInt8) ≠ espUpdate by decide)

/-- In every run of writes without faults, an epilog starts the installation of a
whole image only. -/
theorem transferencia_integra (spiffs : Spiffs) (escrituras : List EscrituraBle)
    (limpias : Along Actualizador.Limpio Actualizador.paso escrituras (.arranque spiffs)) :
    ∀ a ∈ (escrituras.foldl Actualizador.paso (.arranque spiffs)).activaciones, a.Integra := by
  have fiel : Fiel (escrituras.foldl Actualizador.paso (.arranque spiffs)) :=
    limpias.invariant Fiel (fiel_arranque spiffs) fun _ _ fiel limpio => fiel.paso limpio
  exact fiel.integras

instance decidableLimpio (s : Actualizador) : ∀ escritura, Decidable (s.Limpio escritura)
  | .prolog _ _ => inferInstanceAs (Decidable (_ ∧ _))
  | .fwData _ _ => inferInstanceAs (Decidable (_ → _ → _ ∧ _ ∧ _))
  | .epilog _ _ => inferInstanceAs (Decidable (_ → _))

/-- Hardware without faults. -/
def Hardware.sano : Hardware :=
  ⟨true, fun _ => 1024, true, true, true⟩

/-- A message, with what is behind it in memory. -/
def mensaje (bytes : List UInt8) (i : Nat) : UInt8 :=
  bytes.getD i 0

/-- A part of one byte. -/
def parteDeUno (index : UInt8) (byte : UInt8) : EscrituraBle :=
  let crc := crc32 [byte] 0xFFFFFFFF
  .fwData (mensaje ([index, 0, 1, 0, byte] ++ List.replicate 255 (0 : UInt8) ++
    [crc.toUInt8, (crc >>> 8).toUInt8, (crc >>> 16).toUInt8, (crc >>> 24).toUInt8])) .sano

/-- A prolog for a file of two bytes. -/
def prologDeDos : EscrituraBle :=
  .prolog (mensaje (velt ++ List.replicate 6 (0 : UInt8) ++ [2, 0, 0, 0])) .sano

/-- An epilog for the bytes of a file. -/
def epilogDe (bytes : List UInt8) : EscrituraBle :=
  let crc := crc32 bytes 0xFFFFFFFF
  .epilog (mensaje
    [crc.toUInt8, (crc >>> 8).toUInt8, (crc >>> 16).toUInt8, (crc >>> 24).toUInt8]) .sano

/-- Two parts, in order. -/
def enDosPartes : List EscrituraBle :=
  [prologDeDos, parteDeUno 0 0x31, parteDeUno 1 0x32, epilogDe [0x31, 0x32]]

/-- The installation that they start. -/
def activadaEnDosPartes : Activacion :=
  ⟨some [0x31, 0x32], [⟨0, [0x31], crc32 [0x31] 0xFFFFFFFF⟩, ⟨1, [0x32], crc32 [0x32] 0xFFFFFFFF⟩],
    2, crc32 [0x31, 0x32] 0xFFFFFFFF⟩

theorem transferencia_integra_enDosPartes : activadaEnDosPartes.Integra :=
  transferencia_integra ⟨true, none, none⟩ enDosPartes (by decide +kernel) _ (by decide +kernel)

/-- The first part twice and the second one not at all. -/
def repetida : List EscrituraBle :=
  [prologDeDos, parteDeUno 0 0x31, parteDeUno 0 0x31, epilogDe [0x31, 0x32]]

/-- The parts accepted of it. -/
def repetidas : List Parte :=
  List.replicate 2 ⟨0, [0x31], crc32 [0x31] 0xFFFFFFFF⟩

theorem transferencia_repetida :
    ¬ ∀ a ∈ (repetida.foldl Actualizador.paso (.arranque ⟨true, none, none⟩)).activaciones,
      a.Integra := by
  intro integras
  have activada : ⟨some [0x31, 0x31], repetidas, 2, crc32 [0x31, 0x32] 0xFFFFFFFF⟩ ∈
      (repetida.foldl Actualizador.paso (.arranque ⟨true, none, none⟩)).activaciones := by
    decide +kernel
  obtain ⟨partes, imagen, -, -, crc⟩ := integras _ activada
  have stored : crc32 [0x31, 0x31] 0xFFFFFFFF = crc32 [0x31, 0x32] 0xFFFFFFFF := by
    rw [Option.some.inj imagen]
    exact crc
  exact absurd stored (by decide +kernel)

end VeltiumCharger.Actualizacion
