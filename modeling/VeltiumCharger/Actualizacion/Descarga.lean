import VeltiumCharger.Actualizacion.TransferenciaBle

/-!
# Firmware over HTTP

The database tells which firmware is published.  `DownloadFileTask` downloads the
image for one of the two processors, in up to five attempts; the firmware of the
other processor goes into the same file as a transfer over BLE, and is installed
by the same task.  With an image for each processor, the second one is downloaded
when the first one has been installed.

Whatever two statements of different tasks can come between is a step of its own.
-/

namespace VeltiumCharger.Actualizacion

open VeltiumCharger.Run

/-- Where `Firebase_Conn_Task` is: in `CheckForUpdate` before it asks for the second
firmware or behind it, in the states `DOWNLOADING` and `INSTALLING`, before the last
test of the latter, or elsewhere. -/
inductive Fase
  | idle
  | checkEsp (update : Bool)
  | checkResult (update : Bool)
  | downloading
  | installing
  | instalado (creada : Bool)
  deriving DecidableEq, Repr

/-- Where the contents of `PSOC_UPDATE_FILE` come from: the body of a response, or
the parts of a transfer over BLE, with the size announced. -/
inductive Origen
  | http (paraPsoc : Bool) (status size : Int) (cuerpo : List UInt8)
  | ble (size : UInt32) (cuerpo : List UInt8)
  deriving DecidableEq, Repr

/-- The bytes have come in full, for the other processor. -/
def Origen.Entera (imagen : List UInt8) : Origen → Prop
  | .http paraPsoc status size cuerpo =>
    paraPsoc = true ∧ 200 ≤ status ∧ status < 300 ∧ cuerpo = imagen ∧
      (imagen.length : Int) = size
  | .ble size cuerpo => cuerpo = imagen ∧ imagen.length = size.toNat

instance (imagen : List UInt8) : ∀ origen : Origen, Decidable (origen.Entera imagen)
  | .http _ _ _ _ => inferInstanceAs (Decidable (_ ∧ _))
  | .ble _ _ => inferInstanceAs (Decidable (_ ∧ _))

/-- `setMainFwUpdateActive(1)`: the contents of `PSOC_UPDATE_FILE`, and where they
come from. -/
structure Activada where
  fichero : Option (List UInt8)
  origen : Option Origen
  deriving DecidableEq, Repr

/-- What is promised of it: the file is an image that has come in full. -/
def Activada.Valida (a : Activada) : Prop :=
  ∃ imagen origen, a.fichero = some imagen ∧ a.origen = some origen ∧ origen.Entera imagen

/-- An attempt of the download, between the request and the end of the loop. -/
structure Descarga where
  respuesta : Bool
  abierto : Bool
  total : Int
  len : Int
  written : Int
  cortada : Bool
  deriving DecidableEq, Repr

/-- `DownloadFileTask`: whether it has set `DescargandoArchivo`, the URL it has taken, and
whether it has activated the file. -/
structure Tarea where
  marcada : Bool
  urlPsoc : Option Bool
  attempt : Nat
  successPSOC : Bool
  successESP : Bool
  descarga : Option Descarga
  activada : Bool
  deriving DecidableEq, Repr

/-- The task when it is created. -/
def Tarea.nueva : Tarea :=
  ⟨false, none, 1, false, false, none, false⟩

/-- `MAX_RETRIES` -/
def maxRetries : Nat := 5

/-- The charger during an update, with the number of `UpdateTask`s that install and of
those that have cleared their flags.  The last two only record: where the file comes
from, since the last installation, and the activations. -/
structure Cargador where
  act : Actualizador
  fase : Fase
  psocUpdateAvailable : Bool
  espUpdateAvailable : Bool
  dobleUpdate : Bool
  instalan : Nat
  acaban : Nat
  removeUpdateFile : Bool
  tareas : List Tarea
  origen : Option Origen
  activadas : List Activada
  deriving DecidableEq, Repr

/-- The charger when it starts. -/
def Cargador.arranque (act : Actualizador) : Cargador where
  act := act
  fase := .idle
  psocUpdateAvailable := false
  espUpdateAvailable := false
  dobleUpdate := false
  instalan := 0
  acaban := 0
  removeUpdateFile := false
  tareas := []
  origen := none
  activadas := []

/-- What an attempt meets: whether the partition can be mounted and the file
created, what `GET` returns and the size announced, and whether there is memory
for `Update`. -/
structure Intento where
  montado : Bool
  apertura : Bool
  status : Int
  size : Int
  memoria : Bool
  deriving DecidableEq, Repr

/-- A part that is written into the file. -/
def Actualizador.escrita (act : Actualizador) (data : Nat → UInt8) (hw : Hardware) : Bool :=
  act.acepta (parteDe data) && act.updateType == psocUpdate &&
    (escribir (parteDe data).payload (act.tomados hw) 16 0 act.spiffs).2

namespace Cargador

variable (s : Cargador)

/-- `ESP.restart()` -/
def restart : Cargador :=
  { arranque s.act.restart with activadas := s.activadas }

/-- `xTaskCreate(DownloadFileTask, …)`: nothing tells whether the task or its creator goes
on first. -/
def creaTarea : Cargador :=
  { s with tareas := s.tareas ++ [.nueva] }

/-- The states `UPDATING`, `DOWNLOADING` and `INSTALLING`; `publicado` is the answer to what
`CheckForUpdate` asks, and what it finds is added to what was found before. -/
def firebase (publicado : Bool) : Cargador :=
  match s.fase with
  | .idle =>
    { s with
      psocUpdateAvailable := s.psocUpdateAvailable || publicado
      fase := .checkEsp publicado }
  | .checkEsp update =>
    { s with
      espUpdateAvailable := s.espUpdateAvailable || publicado
      fase := .checkResult (update || publicado) }
  | .checkResult update =>
    if update then { s.creaTarea with fase := .downloading } else { s with fase := .idle }
  | .downloading => if s.act.descargandoArchivo then s else { s with fase := .installing }
  | .installing =>
    if s.dobleUpdate then { s.creaTarea with fase := .instalado true }
    else { s with fase := .instalado false }
  | .instalado creada =>
    if s.act.descargandoArchivo || s.act.instalandoArchivo then
      { s with fase := if creada then .downloading else .installing }
    else { s with fase := .idle }

/-- The connection is lost and comes back: the state it was lost in is forgotten. -/
def reconecta : Cargador :=
  match s.fase with
  | .downloading => { s with fase := .idle }
  | .installing => { s with fase := .idle }
  | _ => s

/-- The first statements of the task. -/
def empieza (i : Nat) (tarea : Tarea) : Cargador :=
  if tarea.marcada then
    { s with tareas := s.tareas.set i { tarea with urlPsoc := some s.psocUpdateAvailable } }
  else
    { s with
      act := { s.act with descargandoArchivo := true }
      tareas := s.tareas.set i { tarea with marcada := true } }

/-- The beginning of an attempt, up to the loop. -/
def abre (i : Nat) (tarea : Tarea) (intento : Intento) : Cargador :=
  let respuesta := decide (0 < intento.status)
  let total := if respuesta then intento.size else 0
  let descarga : Descarga := ⟨respuesta, intento.apertura, total, total, 0, false⟩
  if s.psocUpdateAvailable then
    if intento.montado then
      let montada := s.act.spiffs.montar true
      let libre := if montada.updateFile.isSome then montada.format else montada
      { s with
        act := { s.act with spiffs := libre.abrir intento.apertura }
        tareas := s.tareas.set i { tarea with descarga := some descarga }
        origen :=
          if respuesta then
            some (.http (tarea.urlPsoc == some true) intento.status intento.size [])
          else none }
    else
      { s with
        act := { s.act with spiffs := s.act.spiffs.montar false, descargandoArchivo := false }
        tareas := s.tareas.eraseIdx i }
  else
    let update :=
      if respuesta && s.espUpdateAvailable then
        (s.act.update.beginUpdate (total % UInt32.size).toNat intento.memoria).1
      else s.act.update
    { s with
      act := { s.act with update := update }
      tareas := s.tareas.set i { tarea with descarga := some { descarga with abierto := false } } }

/-- `sizeof(buff)` -/
def sizeBuff : Nat := 2048

/-- The counters after `c` bytes. -/
def cuenta (d : Descarga) (c : Nat) : Descarga :=
  if 0 < d.len then { d with written := d.written + c, len := d.len - c } else d

/-- Bytes that are added to the body. -/
def conCuerpo (leidos : List UInt8) : Option Origen → Option Origen
  | some (.http paraPsoc status size cuerpo) => some (.http paraPsoc status size (cuerpo ++ leidos))
  | otro => otro

/-- A turn of the loop in which something is read; a write that fails ends the
loop. -/
def trozo (i : Nat) (tarea : Tarea) (d : Descarga) (leidos : List UInt8) (escritos : Nat)
    (flashOk : Bool) : Cargador :=
  let sigue (completo : Bool) : List Tarea :=
    s.tareas.set i { tarea with
      descarga := some (if completo then cuenta d leidos.length else { d with cortada := true }) }
  if s.psocUpdateAvailable then
    let n := if d.abierto then min escritos leidos.length else 0
    { s with
      act := { s.act with spiffs := s.act.spiffs.anadir (leidos.take n) }
      tareas := sigue (n = leidos.length)
      origen := conCuerpo leidos s.origen }
  else
    let escrito := s.act.update.write flashOk leidos
    { s with
      act := { s.act with update := escrito.1 }
      tareas := sigue escrito.2 }

/-- The end of an attempt, behind the loop. -/
def cierra (i : Nat) (tarea : Tarea) (d : Descarga) (verifica : Bool) : Cargador :=
  let completo := d.respuesta && d.written == d.total
  let successPSOC := completo && s.psocUpdateAvailable && (s.act.spiffs.size : Int) == d.total
  let successESP := completo && !s.psocUpdateAvailable
  let terminado :=
    if s.espUpdateAvailable && !s.psocUpdateAvailable then s.act.update.endUpdate verifica
    else (s.act.update, false)
  let s := { s with act := { s.act with update := terminado.1 } }
  if terminado.2 then s.restart
  else if !successESP && !successPSOC && tarea.attempt == maxRetries then s.restart
  else
    let otro : Tarea := { tarea with
      attempt := tarea.attempt + 1
      successPSOC := successPSOC
      successESP := successESP
      descarga := none }
    { s with tareas := s.tareas.set i otro }

/-- `setMainFwUpdateActive(1)`: what is installed is the file as it is. -/
def activa : Cargador :=
  { s with
    act := { s.act with mainFwUpdateActive := true }
    activadas := s.activadas ++ [⟨s.act.spiffs.updateFile, s.origen⟩] }

/-- The last statements of `DownloadFileTask`. -/
def termina (i : Nat) (tarea : Tarea) : Cargador :=
  if tarea.activada then
    { s with
      act := { s.act with descargandoArchivo := false }
      tareas := s.tareas.eraseIdx i }
  else { s.activa with tareas := s.tareas.set i { tarea with activada := true } }

/-- A prolog for the other processor. -/
def paraPsoc (payload : Nat → UInt8) : Bool :=
  !strstr (Actualizador.signature payload) vble && strstr (Actualizador.signature payload) velt

/-- A part that is added to those of a transfer. -/
def conParte (payload : List UInt8) : Option Origen → Option Origen
  | some (.ble size cuerpo) => some (.ble size (cuerpo ++ payload))
  | otro => otro

/-- A write of the client: a whole transfer is activated by its epilog. -/
def ble (escritura : EscrituraBle) : Cargador :=
  match escritura with
  | .prolog payload _ =>
    { s with
      act := s.act.paso escritura
      origen := if paraPsoc payload then some (.ble (dobleWord payload 10) []) else s.origen }
  | .fwData data hw =>
    { s with
      act := s.act.paso escritura
      origen := if s.act.escrita data hw then conParte (Actualizador.parteDe data).payload s.origen
        else s.origen }
  | .epilog _ _ =>
    let completa :=
      s.act.updateType == psocUpdate && s.act.updatefileSize.toNat == s.act.spiffs.size
    let s' := { (if completa then s.activa else s) with act := s.act.paso escritura }
    if s.act.reinicia then { arranque s'.act with activadas := s'.activadas } else s'

/-- The client disconnects. -/
def desconecta : Cargador :=
  if s.act.descargandoArchivo then
    { s with
      act := { s.act with descargandoArchivo := false }
      removeUpdateFile := s.removeUpdateFile || s.act.updateType == psocUpdate }
  else s

/-- `RemoveUpdateFileTask` -/
def borra : Cargador :=
  if s.removeUpdateFile then
    restart { s with act := { s.act with spiffs := s.act.spiffs.removeUpdateFile } }
  else s

/-- The beginning of `UpdateTask`; `malos` tells that the other processor has
failed to start more than five times: the firmware before is installed. -/
def updateEmpieza (malos : Bool) : Cargador :=
  let spiffs :=
    if malos && s.act.spiffs.montado && s.act.spiffs.oldFile.isSome then
      { s.act.spiffs with updateFile := s.act.spiffs.oldFile, oldFile := none }
    else s.act.spiffs
  { s with
    act := { s.act with spiffs := spiffs, instalandoArchivo := true }
    instalan := s.instalan + 1 }

/-- `UpdateTask` behind the operation, until its flags are clear: firmware that has been
installed is kept as the firmware before the next one. -/
def updateTermina (err : Bool) : Cargador :=
  if 0 < s.instalan then
    let montada := s.act.spiffs.montar true
    { s with
      act := { s.act with
        spiffs := if err then montada
          else { montada with updateFile := none, oldFile := montada.updateFile }
        instalandoArchivo := false
        mainFwUpdateActive := false }
      origen := if err then s.origen else none
      instalan := s.instalan - 1
      acaban := s.acaban + 1 }
  else s

/-- The end of `UpdateTask`: it makes way for the second image.  Without one it restarts the
charger 4.5 s later, a step of its own. -/
def updateSigue : Cargador :=
  if 0 < s.acaban then
    let s := { s with acaban := s.acaban - 1 }
    if s.espUpdateAvailable then { s with psocUpdateAvailable := false, dobleUpdate := true }
    else s
  else s

end Cargador

/-- What the tasks, the client and the servers do. -/
inductive Evento
  | firebase (publicado : Bool)
  | reconecta
  | empieza (i : Nat)
  | abre (i : Nat) (intento : Intento)
  | trozo (i : Nat) (leidos : List UInt8) (escritos : Nat) (flashOk : Bool)
  | cierra (i : Nat) (verifica : Bool)
  | termina (i : Nat)
  | ble (escritura : EscrituraBle)
  | desconecta
  | borra
  | updateEmpieza (malos : Bool)
  | updateTermina (err : Bool)
  | updateSigue
  | restart

/-- There is another attempt. -/
def Tarea.sigue (tarea : Tarea) : Bool :=
  tarea.attempt ≤ maxRetries && !(tarea.successPSOC || tarea.successESP)

/-- The loop has another turn. -/
def Descarga.leyendo (d : Descarga) : Bool :=
  d.respuesta && !d.cortada && (0 < d.len || d.len == -1)

/-- One step; a task that is not where the step begins does nothing. -/
def Cargador.paso (s : Cargador) : Evento → Cargador
  | .firebase publicado => s.firebase publicado
  | .reconecta => s.reconecta
  | .empieza i =>
    match s.tareas[i]? with
    | none => s
    | some tarea => if tarea.urlPsoc.isNone then s.empieza i tarea else s
  | .abre i intento =>
    match s.tareas[i]? with
    | none => s
    | some tarea =>
      if tarea.urlPsoc.isSome && tarea.sigue && tarea.descarga.isNone then s.abre i tarea intento
      else s
  | .trozo i leidos escritos flashOk =>
    match s.tareas[i]? with
    | none => s
    | some tarea =>
      match tarea.descarga with
      | none => s
      | some d =>
        if d.leyendo then s.trozo i tarea d (leidos.take sizeBuff) escritos flashOk else s
  | .cierra i verifica =>
    match s.tareas[i]? with
    | none => s
    | some tarea =>
      match tarea.descarga with
      | none => s
      | some d => s.cierra i tarea d verifica
  | .termina i =>
    match s.tareas[i]? with
    | none => s
    | some tarea => if tarea.sigue || tarea.descarga.isSome then s else s.termina i tarea
  | .ble escritura => s.ble escritura
  | .desconecta => s.desconecta
  | .borra => s.borra
  | .updateEmpieza malos => s.updateEmpieza malos
  | .updateTermina err => s.updateTermina err
  | .updateSigue => s.updateSigue
  | .restart => s.restart

namespace Cargador

/-- The steps of a run without faults: no task is created while another is under way or
the file of a transfer is open; for the other processor the partition can be mounted, at
least when a transfer over BLE has filled it, a response has a status of success, and
the file could be created if no byte is announced; no task comes to its end behind
an image for the charger that was not accepted; while a task is under way no image for
the other processor is found anew, the client neither writes nor disconnects, and no
installation ends; a prolog is for one of the two processors, the attempts to write a
part are all or nothing, and an epilog for no byte finds a file; and the firmware before
is not installed again. -/
def Limpio (s : Cargador) : Evento → Prop
  | .firebase publicado =>
    (s.fase = .idle → publicado = true → s.tareas = [] ∨ s.psocUpdateAvailable = true) ∧
      (s.fase = .checkResult true ∨ s.fase = .installing ∧ s.dobleUpdate = true →
        s.tareas = [] ∧ s.act.updateFileAbierto = false)
  | .reconecta => True
  | .empieza _ => True
  | .abre _ intento =>
    s.psocUpdateAvailable = true →
      (intento.montado = true ∨ s.act.updateType ≠ psocUpdate) ∧
        (0 < intento.status → 200 ≤ intento.status ∧ intento.status < 300 ∧
          (intento.apertura = true ∨ intento.size ≠ 0))
  | .trozo _ _ _ _ => True
  | .cierra _ _ => True
  | .termina _ => ∀ tarea ∈ s.tareas, tarea.successESP = false
  | .ble (.prolog payload _) =>
    s.tareas = [] ∧ (strstr (Actualizador.signature payload) vble ||
      strstr (Actualizador.signature payload) velt) = true
  | .ble (.fwData data hw) =>
    s.tareas = [] ∧ (s.act.acepta (Actualizador.parteDe data) = true →
      s.act.updateType = psocUpdate → ∀ i < 16, s.act.tomados hw i = 0 ∨
        (Actualizador.parteDe data).payload.length ≤ s.act.tomados hw i)
  | .ble (.epilog _ _) =>
    s.tareas = [] ∧ (s.act.updateType = psocUpdate → s.act.updatefileSize = 0 →
      s.act.spiffs.leer.isSome = true)
  | .desconecta => s.tareas = []
  | .borra => True
  | .updateEmpieza malos => malos = false
  | .updateTermina _ => s.tareas = []
  | .updateSigue => s.espUpdateAvailable = true → s.tareas = []
  | .restart => True

/-- What the file holds, outside of a download: what came over BLE so far, or an
image that has come in full. -/
def Transferida (s : Cargador) (imagen : List UInt8) : Prop :=
  s.origen = some (.ble s.act.updatefileSize imagen) ∨
    s.act.updateFileAbierto = false ∧ ∃ origen, s.origen = some origen ∧ origen.Entera imagen

/-- What is known of an attempt for the other processor that has been answered. -/
structure Descargando (s : Cargador) (d : Descarga) (status : Int) (cuerpo : List UInt8) :
    Prop where
  origen : s.origen = some (.http true status d.total cuerpo)
  correcto : 200 ≤ status ∧ status < 300
  len : d.len = d.total - d.written
  cortada : d.cortada = true → d.len ≠ 0
  contado : d.cortada = false → 0 ≤ d.len → (cuerpo.length : Int) = d.written
  fichero : d.cortada = false →
    s.act.spiffs.updateFile = if d.abierto then some cuerpo else none
  sinFichero : d.abierto = false → d.total ≠ 0 ∧ (d.cortada = false → cuerpo = [])

/-- What is known of the task that downloads. -/
structure TareaCorrecta (s : Cargador) (tarea : Tarea) : Prop where
  cerrado : s.act.updateFileAbierto = false
  url : ∀ psoc, tarea.urlPsoc = some psoc → psoc = s.psocUpdateAvailable
  intentos : (tarea.successPSOC || tarea.successESP) = false → tarea.attempt ≤ maxRetries
  completa : tarea.successPSOC = true → ∃ imagen origen,
    s.act.spiffs.updateFile = some imagen ∧ s.origen = some origen ∧ origen.Entera imagen
  sinExito : ∀ d, tarea.descarga = some d → (tarea.successPSOC || tarea.successESP) = false
  descarga : ∀ d, tarea.descarga = some d → d.respuesta = true →
    s.psocUpdateAvailable = true → ∃ status cuerpo, s.Descargando d status cuerpo

/-- The invariant of a run without faults. -/
structure Correcto (s : Cargador) : Prop where
  validas : ∀ a ∈ s.activadas, a.Valida
  transferida : s.tareas = [] → s.act.updateType = psocUpdate → ∀ imagen,
    s.act.spiffs.updateFile = some imagen → s.Transferida imagen
  tarea : ∀ tarea, s.tareas = [tarea] → s.TareaCorrecta tarea
  una : s.tareas.length ≤ 1

end Cargador

section Ble

variable {act : Actualizador} {data : Nat → UInt8} {hw : Hardware}

/-- Nothing is written into a file that is not open. -/
theorem escribir_cerrado {payload : List UInt8} {escritos : Nat → Nat} {quedan intento : Nat}
    {fs : Spiffs} (cerrado : ∀ i, escritos i = 0)
    (escrita : (Actualizador.escribir payload escritos quedan intento fs).2 = true) :
    payload = [] := by
  induction quedan generalizing intento fs with
  | zero => cases escrita
  | succ quedan ih =>
      unfold Actualizador.escribir at escrita
      dsimp only at escrita
      rw [cerrado, Nat.zero_min] at escrita
      by_cases vacia : 0 = payload.length
      · exact List.eq_nil_of_length_eq_zero vacia.symm
      · rw [if_neg vacia] at escrita
        exact ih escrita

theorem payload_of_cerrado (cerrado : act.updateFileAbierto = false)
    (escrita : act.escrita data hw = true) : (Actualizador.parteDe data).payload = [] := by
  have nada (i : Nat) : act.tomados hw i = 0 := by
    rw [Actualizador.tomados, cerrado, if_neg Bool.false_ne_true]
  exact escribir_cerrado nada (Bool.and_eq_true_iff.mp escrita).2

@[simp]
theorem conParte_nil : ∀ origen, Cargador.conParte [] origen = origen
  | none => rfl
  | some (.http _ _ _ _) => rfl
  | some (.ble size cuerpo) => by rw [Cargador.conParte, List.append_nil]

/-- The file of a transfer that is given up is removed, if it can be. -/
theorem updateFile_abandona :
    act.abandona.spiffs.updateFile = none ∨
      act.abandona.spiffs.updateFile = act.spiffs.updateFile := by
  unfold Actualizador.abandona Spiffs.montar Spiffs.removeUpdateFile
  dsimp only
  split_ifs
  · exact .inl rfl
  · exact .inr rfl

/-- A part announces nothing. -/
theorem fwData_anuncio : (act.fwData hw data).updateType = act.updateType ∧
    (act.fwData hw data).updatefileSize = act.updatefileSize := by
  unfold Actualizador.fwData Actualizador.parteEsp Actualizador.partePsoc Actualizador.rechaza
  dsimp only
  split_ifs
  · exact ⟨rfl, rfl⟩
  · exact ⟨rfl, rfl⟩
  · exact ⟨rfl, rfl⟩
  · exact ⟨rfl, rfl⟩
  · exact ⟨rfl, rfl⟩
  · exact ⟨rfl, rfl⟩
  · exact ⟨rfl, rfl⟩

/-- A part is written into the file, or the file is given up. -/
theorem partePsoc_cases {payload : List UInt8}
    (enteros : ∀ i < 16, act.tomados hw i = 0 ∨ payload.length ≤ act.tomados hw i) :
    ((Actualizador.escribir payload (act.tomados hw) 16 0 act.spiffs).2 = true ∧
        (act.partePsoc hw payload).updateFileAbierto = act.updateFileAbierto ∧
        (act.partePsoc hw payload).spiffs = act.spiffs.anadir payload) ∨
      (Actualizador.escribir payload (act.tomados hw) 16 0 act.spiffs).2 = false ∧
        (act.partePsoc hw payload).updateFileAbierto = false ∧
        ((act.partePsoc hw payload).spiffs.updateFile = none ∨
          (act.partePsoc hw payload).spiffs.updateFile = act.spiffs.updateFile) := by
  have enteros' : ∀ i, 0 ≤ i → i < 0 + 16 →
      act.tomados hw i = 0 ∨ payload.length ≤ act.tomados hw i :=
    fun i _ menor => enteros i (by omega)
  unfold Actualizador.partePsoc
  dsimp only
  rcases escribir_cases enteros' act.spiffs with falla | crece
  · rw [falla, if_neg Bool.false_ne_true]
    exact .inr ⟨rfl, rfl, updateFile_abandona⟩
  · rw [crece, if_pos rfl]
    exact .inl ⟨rfl, rfl, rfl⟩

/-- What a part does to the file of a transfer. -/
theorem fwData_psoc (tipo : act.updateType = psocUpdate)
    (enteros : act.acepta (Actualizador.parteDe data) = true →
      ∀ i < 16, act.tomados hw i = 0 ∨
        (Actualizador.parteDe data).payload.length ≤ act.tomados hw i) :
    (act.escrita data hw = true ∧
        (act.fwData hw data).updateFileAbierto = act.updateFileAbierto ∧
        (act.fwData hw data).spiffs = act.spiffs.anadir (Actualizador.parteDe data).payload) ∨
      act.escrita data hw = false ∧ (act.fwData hw data).updateFileAbierto = false ∧
        ((act.fwData hw data).spiffs.updateFile = none ∨
          (act.fwData hw data).spiffs.updateFile = act.spiffs.updateFile) := by
  have noEsp : act.updateType ≠ espUpdate := tipo ▸ espUpdate_ne_psocUpdate.symm
  unfold Actualizador.fwData Actualizador.escrita
  dsimp only
  have psoc : (act.updateType == psocUpdate) = true := beq_iff_eq.mpr tipo
  by_cases acepta : act.acepta (Actualizador.parteDe data) = true
  · rw [if_pos acepta, if_neg noEsp, if_pos tipo, acepta, psoc, Bool.true_and, Bool.true_and]
    exact @partePsoc_cases (act.conParte (Actualizador.parteDe data)) hw _ (enteros acepta)
  · rw [if_neg acepta, Bool.of_not_eq_true acepta, Bool.false_and, Bool.false_and]
    unfold Actualizador.rechaza
    dsimp only
    rw [if_pos (show (act.notifica 2).updateType = psocUpdate from tipo)]
    exact .inr ⟨rfl, rfl, updateFile_abandona⟩

theorem epilog_reinicia {payload : Nat → UInt8} (reinicia : act.reinicia = true) :
    (act.epilog hw payload).updateType = 0 := by
  obtain ⟨tipo, otroTamano⟩ := Bool.and_eq_true_iff.mp reinicia
  rw [beq_iff_eq] at tipo
  have noEsp : act.updateType ≠ espUpdate := tipo ▸ espUpdate_ne_psocUpdate.symm
  unfold Actualizador.epilog
  dsimp only
  rw [if_neg (show (act.notifica 0).updateType ≠ espUpdate from noEsp),
    if_pos (show (act.notifica 0).updateType = psocUpdate from tipo)]
  unfold Actualizador.epilogPsoc
  dsimp only
  split_ifs with mismo emergencia
  · rfl
  · have igual : act.updatefileSize.toNat = act.spiffs.size := mismo
    have calma : act.emergencyState = false := Bool.of_not_eq_true emergencia
    rw [igual, bne_self_eq_false, calma] at otroTamano
    cases otroTamano
  · rfl

/-- An epilog without a restart leaves the file as it is. -/
theorem epilog_psoc {payload : Nat → UInt8}
    (tipo : (act.epilog hw payload).updateType = psocUpdate) :
    act.updateType = psocUpdate ∧ act.updatefileSize.toNat = act.spiffs.size ∧
      (act.epilog hw payload).updateFileAbierto = false ∧
      (act.epilog hw payload).spiffs.updateFile = act.spiffs.updateFile := by
  revert tipo
  unfold Actualizador.epilog Actualizador.epilogEsp Actualizador.epilogPsoc
  dsimp only
  split_ifs with esp completo psoc mismo emergencia
  · exact fun otro => absurd (esp.symm.trans otro) espUpdate_ne_psocUpdate
  · exact fun otro => absurd (esp.symm.trans otro) espUpdate_ne_psocUpdate
  · exact fun otro => absurd otro (show (0 : UInt8) ≠ psocUpdate by decide)
  · exact fun tipo => ⟨tipo, mismo, rfl, rfl⟩
  · exact fun otro => absurd otro (show (0 : UInt8) ≠ psocUpdate by decide)
  · exact fun otro => absurd otro psoc

end Ble

section Escrituras

variable {s : Cargador}

/-- Outside of a download only the file matters. -/
theorem correcto_sinTareas (validas : ∀ a ∈ s.activadas, a.Valida) (sinTareas : s.tareas = [])
    (transferida : s.act.updateType = psocUpdate → ∀ imagen,
      s.act.spiffs.updateFile = some imagen → s.Transferida imagen) : s.Correcto := by
  constructor
  case validas => exact validas
  case transferida => exact fun _ => transferida
  case tarea =>
    intro tarea una
    rw [sinTareas] at una
    cases una
  case una =>
    rw [sinTareas]
    exact Nat.zero_le 1

theorem correcto_restart (validas : ∀ a ∈ s.activadas, a.Valida) : s.restart.Correcto := by
  refine correcto_sinTareas validas rfl fun tipo => ?_
  exact absurd tipo (show (0 : UInt8) ≠ psocUpdate by decide)

theorem validas_activa (validas : ∀ a ∈ s.activadas, a.Valida) {imagen : List UInt8}
    {origen : Origen} (fichero : s.act.spiffs.updateFile = some imagen)
    (suyo : s.origen = some origen) (entera : origen.Entera imagen) :
    ∀ a ∈ s.activa.activadas, a.Valida := by
  intro a esta
  rcases List.mem_append.mp esta with antes | nueva
  · exact validas a antes
  · rw [List.mem_singleton.mp nueva]
    exact ⟨imagen, origen, fichero, suyo, entera⟩

theorem correcto_prolog (correcto : s.Correcto) {payload : Nat → UInt8} {hw : Hardware}
    (limpio : s.Limpio (.ble (.prolog payload hw))) :
    (s.ble (.prolog payload hw)).Correcto := by
  obtain ⟨sinTareas, firma⟩ := limpio
  refine correcto_sinTareas correcto.validas sinTareas ?_
  show (s.act.prolog hw payload).updateType = psocUpdate → ∀ imagen,
    (s.act.prolog hw payload).spiffs.updateFile = some imagen →
      (s.ble (.prolog payload hw)).Transferida imagen
  by_cases esp : strstr (Actualizador.signature payload) vble = true
  · intro tipo
    have suyo : (s.act.prolog hw payload).updateType = espUpdate := by
      unfold Actualizador.prolog Actualizador.prologEsp
      dsimp only
      rw [if_pos esp]
      split_ifs
      · rfl
      · rfl
    exact absurd (suyo.symm.trans tipo) espUpdate_ne_psocUpdate
  · intro _ imagen fichero
    have psoc : strstr (Actualizador.signature payload) velt = true := by
      simpa [Bool.of_not_eq_true esp] using firma
    have prolog : s.act.prolog hw payload = ({ s.act with
        updatefileSize := dobleWord payload 10, descargandoArchivo := true } :
          Actualizador).prologPsoc hw := by
      unfold Actualizador.prolog
      dsimp only
      rw [if_neg esp, if_pos psoc]
    have vacia : imagen = [] := by
      rw [prolog] at fichero
      change (Spiffs.abrir _ hw.apertura).updateFile = some imagen at fichero
      unfold Spiffs.abrir at fichero
      split_ifs at fichero
      · exact (Option.some.inj fichero).symm
      · cases fichero
    have suya : Cargador.paraPsoc payload = true := by
      rw [Cargador.paraPsoc, Bool.of_not_eq_true esp, psoc]
      rfl
    left
    show (if Cargador.paraPsoc payload then some (Origen.ble (dobleWord payload 10) [])
      else s.origen) = some (.ble (s.act.prolog hw payload).updatefileSize imagen)
    rw [if_pos suya, prolog, vacia]
    rfl

theorem correcto_fwData (correcto : s.Correcto) {data : Nat → UInt8} {hw : Hardware}
    (limpio : s.Limpio (.ble (.fwData data hw))) : (s.ble (.fwData data hw)).Correcto := by
  obtain ⟨sinTareas, enteros⟩ := limpio
  obtain ⟨updateType, updatefileSize⟩ := @fwData_anuncio s.act data hw
  refine correcto_sinTareas correcto.validas sinTareas ?_
  show (s.act.fwData hw data).updateType = psocUpdate → ∀ imagen,
    (s.act.fwData hw data).spiffs.updateFile = some imagen →
      (s.ble (.fwData data hw)).Transferida imagen
  rw [updateType]
  intro tipo imagen fichero
  have origen : (s.ble (.fwData data hw)).origen =
      if s.act.escrita data hw then
        Cargador.conParte (Actualizador.parteDe data).payload s.origen
      else s.origen := rfl
  unfold Cargador.Transferida
  rw [origen]
  show _ = some (Origen.ble (s.act.fwData hw data).updatefileSize imagen) ∨
    (s.act.fwData hw data).updateFileAbierto = false ∧ _
  rw [updatefileSize]
  rcases fwData_psoc tipo (enteros · tipo) with
    ⟨escrita, abierto, spiffs⟩ | ⟨noEscrita, cerrado, ninguno | mismo⟩
  · rw [spiffs] at fichero
    obtain ⟨previa, antes, crece⟩ := Option.map_eq_some_iff.mp fichero
    rw [escrita, if_pos rfl, abierto]
    rcases correcto.transferida sinTareas tipo previa antes with
      suyo | ⟨cerrado, otro, suyo, entera⟩
    · left
      rw [suyo, ← crece]
      rfl
    · right
      have vacia := payload_of_cerrado cerrado escrita
      rw [vacia, List.append_nil] at crece
      rw [vacia, conParte_nil, ← crece]
      exact ⟨cerrado, otro, suyo, entera⟩
  · rw [ninguno] at fichero
    cases fichero
  · rw [mismo] at fichero
    rw [noEscrita, if_neg Bool.false_ne_true, cerrado]
    rcases correcto.transferida sinTareas tipo imagen fichero with suyo | ⟨-, completo⟩
    · exact .inl suyo
    · exact .inr ⟨rfl, completo⟩

/-- The file has the size announced, so it holds a whole image. -/
theorem entera_of_completa (correcto : s.Correcto) (sinTareas : s.tareas = [])
    (tipo : s.act.updateType = psocUpdate)
    (hay : s.act.updatefileSize = 0 → s.act.spiffs.leer.isSome = true)
    (completa : s.act.updatefileSize.toNat = s.act.spiffs.size) :
    ∃ imagen origen, s.act.spiffs.updateFile = some imagen ∧ s.origen = some origen ∧
      origen.Entera imagen := by
  cases leida : s.act.spiffs.leer with
  | none =>
      rw [Spiffs.size, leida] at completa
      have sinBytes : s.act.updatefileSize = 0 := UInt32.toNat_inj.mp completa
      rw [leida] at hay
      cases hay sinBytes
  | some imagen =>
      have fichero : s.act.spiffs.updateFile = some imagen := by
        unfold Spiffs.leer at leida
        split_ifs at leida
        exact leida
      rw [Spiffs.size, leida] at completa
      refine ⟨imagen, ?_⟩
      rcases correcto.transferida sinTareas tipo imagen fichero with
        suyo | ⟨-, origen, suyo, entera⟩
      · exact ⟨.ble s.act.updatefileSize imagen, fichero, suyo, rfl, completa.symm⟩
      · exact ⟨origen, fichero, suyo, entera⟩

theorem correcto_epilog (correcto : s.Correcto) {payload : Nat → UInt8} {hw : Hardware}
    (limpio : s.Limpio (.ble (.epilog payload hw))) : (s.ble (.epilog payload hw)).Correcto := by
  obtain ⟨sinTareas, hay⟩ := limpio
  have validas : ∀ a ∈ (if (s.act.updateType == psocUpdate &&
      s.act.updatefileSize.toNat == s.act.spiffs.size) = true then s.activa else s).activadas,
      a.Valida := by
    split_ifs with completa
    · obtain ⟨tipo, igual⟩ := Bool.and_eq_true_iff.mp completa
      obtain ⟨imagen, origen, fichero, suyo, entera⟩ := entera_of_completa correcto sinTareas
        (eq_of_beq tipo) (hay (eq_of_beq tipo)) (eq_of_beq igual)
      exact validas_activa correcto.validas fichero suyo entera
    · exact correcto.validas
  unfold Cargador.ble
  dsimp only
  by_cases reinicia : s.act.reinicia = true
  · rw [if_pos reinicia]
    refine correcto_sinTareas validas rfl fun tipo => ?_
    exact absurd ((epilog_reinicia reinicia).symm.trans tipo)
      (show (0 : UInt8) ≠ psocUpdate by decide)
  · rw [if_neg reinicia]
    refine correcto_sinTareas validas ?_ fun tipo imagen fichero => ?_
    · split_ifs
      · exact sinTareas
      · exact sinTareas
    · obtain ⟨psoc, completa, cerrado, mismo⟩ := epilog_psoc tipo
      obtain ⟨otra, origen, suya, suyo, entera⟩ :=
        entera_of_completa correcto sinTareas psoc (hay psoc) completa
      have igual : otra = imagen := by
        rw [← Option.some_inj, ← suya, ← fichero]
        exact mismo.symm
      refine .inr ⟨cerrado, origen, ?_, igual ▸ entera⟩
      split_ifs
      · exact suyo
      · exact suyo

theorem correcto_ble (correcto : s.Correcto) {escritura : EscrituraBle}
    (limpio : s.Limpio (.ble escritura)) : (s.ble escritura).Correcto := by
  cases escritura with
  | prolog payload hw => exact correcto_prolog correcto limpio
  | fwData data hw => exact correcto_fwData correcto limpio
  | epilog payload hw => exact correcto_epilog correcto limpio

end Escrituras

section Tareas

variable {s : Cargador}

/-- During a download only the task matters. -/
theorem correcto_conTarea {tarea : Tarea} (validas : ∀ a ∈ s.activadas, a.Valida)
    (una : s.tareas = [tarea]) (correcta : s.TareaCorrecta tarea) : s.Correcto := by
  constructor
  case validas => exact validas
  case transferida =>
    intro ninguna
    rw [una] at ninguna
    cases ninguna
  case tarea =>
    intro otra esta
    rw [una] at esta
    cases esta
    exact correcta
  case una => exact Nat.le_of_eq (congrArg List.length una)

theorem correcto_creaTarea (validas : ∀ a ∈ s.activadas, a.Valida) (sinTareas : s.tareas = [])
    (cerrado : s.act.updateFileAbierto = false) : s.creaTarea.Correcto := by
  have una : s.creaTarea.tareas = [.nueva] := by
    rw [Cargador.creaTarea, sinTareas]
    rfl
  refine correcto_conTarea validas una ?_
  constructor
  case cerrado => exact cerrado
  case url => exact fun _ nada => nomatch nada
  case intentos => exact fun _ => Nat.le_of_ble_eq_true rfl
  case completa => exact fun exito => nomatch exito
  case sinExito => exact fun _ _ => rfl
  case descarga => exact fun _ otra => nomatch otra

/-- An attempt cares for its file and what has come. -/
theorem Cargador.Descargando.congr {t : Cargador} {d : Descarga} {status : Int}
    {cuerpo : List UInt8} (descargando : s.Descargando d status cuerpo)
    (fichero : t.act.spiffs.updateFile = s.act.spiffs.updateFile) (origen : t.origen = s.origen) :
    t.Descargando d status cuerpo where
  origen := origen.trans descargando.origen
  correcto := descargando.correcto
  len := descargando.len
  cortada := descargando.cortada
  contado := descargando.contado
  fichero entera := fichero.trans (descargando.fichero entera)
  sinFichero := descargando.sinFichero

/-- So does a task, and for the image that is wanted. -/
theorem Cargador.TareaCorrecta.congr {t : Cargador} {tarea : Tarea}
    (correcta : s.TareaCorrecta tarea)
    (cerrado : t.act.updateFileAbierto = s.act.updateFileAbierto)
    (fichero : t.act.spiffs.updateFile = s.act.spiffs.updateFile) (origen : t.origen = s.origen)
    (psoc : t.psocUpdateAvailable = s.psocUpdateAvailable) : t.TareaCorrecta tarea := by
  constructor
  case cerrado => exact cerrado.trans correcta.cerrado
  case url =>
    rw [psoc]
    exact correcta.url
  case intentos => exact correcta.intentos
  case completa =>
    rw [fichero, origen]
    exact correcta.completa
  case sinExito => exact correcta.sinExito
  case descarga =>
    intro d suya respuesta esPsoc
    obtain ⟨status, cuerpo, descargando⟩ := correcta.descarga d suya respuesta (psoc ▸ esPsoc)
    exact ⟨status, cuerpo, descargando.congr fichero origen⟩

/-- A step of `Firebase_Conn_Task` that creates no task. -/
theorem Cargador.Correcto.congr {t : Cargador} (correcto : s.Correcto) (act : t.act = s.act)
    (origen : t.origen = s.origen) (tareas : t.tareas = s.tareas)
    (activadas : t.activadas = s.activadas)
    (psoc : t.tareas = [] ∨ t.psocUpdateAvailable = s.psocUpdateAvailable) : t.Correcto := by
  constructor
  case validas =>
    rw [activadas]
    exact correcto.validas
  case transferida =>
    rw [tareas, act]
    intro sinTareas tipo imagen fichero
    have transferida := correcto.transferida sinTareas tipo imagen fichero
    unfold Cargador.Transferida at transferida ⊢
    rwa [origen, act]
  case tarea =>
    intro tarea una
    have mismo := psoc.resolve_left (by rw [una]; exact List.cons_ne_nil _ _)
    exact (correcto.tarea tarea (tareas ▸ una)).congr (by rw [act]) (by rw [act]) origen mismo
  case una =>
    rw [tareas]
    exact correcto.una

theorem correcto_firebase (correcto : s.Correcto) {publicado : Bool}
    (limpio : s.Limpio (.firebase publicado)) : (s.firebase publicado).Correcto := by
  obtain ⟨anuncio, creacion⟩ := limpio
  have creada (fase : Fase) (sola : s.tareas = [] ∧ s.act.updateFileAbierto = false) :
      ({ s.creaTarea with fase := fase } : Cargador).Correcto :=
    (correcto_creaTarea correcto.validas sola.1 sola.2).congr rfl rfl rfl rfl (.inr rfl)
  unfold Cargador.firebase
  cases fase : s.fase with
  | idle =>
      refine correcto.congr rfl rfl rfl rfl ?_
      cases publicado with
      | false => exact .inr (Bool.or_false _)
      | true =>
          rcases anuncio fase rfl with sola | antes
          · exact .inl sola
          · exact .inr (by rw [antes]; rfl)
  | checkEsp update => exact correcto.congr rfl rfl rfl rfl (.inr rfl)
  | checkResult update =>
      dsimp only
      split_ifs with encontrada
      · exact creada _ (creacion (.inl (by rw [fase, encontrada])))
      · exact correcto.congr rfl rfl rfl rfl (.inr rfl)
  | downloading =>
      dsimp only
      split_ifs
      · exact correcto
      · exact correcto.congr rfl rfl rfl rfl (.inr rfl)
  | installing =>
      dsimp only
      split_ifs with doble
      · exact creada _ (creacion (.inr ⟨fase, doble⟩))
      · exact correcto.congr rfl rfl rfl rfl (.inr rfl)
  | instalado creada =>
      dsimp only
      split_ifs
      · exact correcto.congr rfl rfl rfl rfl (.inr rfl)
      · exact correcto.congr rfl rfl rfl rfl (.inr rfl)
      · exact correcto.congr rfl rfl rfl rfl (.inr rfl)

theorem correcto_reconecta (correcto : s.Correcto) : s.reconecta.Correcto := by
  unfold Cargador.reconecta
  split
  · exact correcto.congr rfl rfl rfl rfl (.inr rfl)
  · exact correcto.congr rfl rfl rfl rfl (.inr rfl)
  · exact correcto

theorem correcto_desconecta (correcto : s.Correcto) (limpio : s.Limpio .desconecta) :
    s.desconecta.Correcto := by
  have sinTareas : s.tareas = [] := limpio
  unfold Cargador.desconecta
  split_ifs
  · exact correcto_sinTareas correcto.validas sinTareas (correcto.transferida sinTareas)
  · exact correcto

theorem correcto_updateEmpieza (correcto : s.Correcto) : (s.updateEmpieza false).Correcto where
  validas := correcto.validas
  transferida := correcto.transferida
  tarea tarea una := (correcto.tarea tarea una).congr rfl rfl rfl rfl
  una := correcto.una

theorem correcto_updateTermina (correcto : s.Correcto) {err : Bool}
    (limpio : s.Limpio (.updateTermina err)) : (s.updateTermina err).Correcto := by
  have sinTareas : s.tareas = [] := limpio
  unfold Cargador.updateTermina
  dsimp only
  by_cases instala : 0 < s.instalan
  · rw [if_pos instala]
    refine correcto_sinTareas correcto.validas sinTareas fun tipo imagen fichero => ?_
    cases err with
    | true => exact correcto.transferida sinTareas tipo imagen fichero
    | false => cases fichero
  · rw [if_neg instala]
    exact correcto

theorem correcto_updateSigue (correcto : s.Correcto) (limpio : s.Limpio .updateSigue) :
    s.updateSigue.Correcto := by
  unfold Cargador.updateSigue
  dsimp only
  split_ifs with _ esp
  · exact correcto.congr rfl rfl rfl rfl (.inl (limpio esp))
  · exact correcto.congr rfl rfl rfl rfl (.inr rfl)
  · exact correcto

/-- The only task. -/
theorem Cargador.Correcto.unica (correcto : s.Correcto) {i : Nat} {tarea : Tarea}
    (suya : s.tareas[i]? = some tarea) : i = 0 ∧ s.tareas = [tarea] := by
  have menor : i < s.tareas.length := (List.getElem?_eq_some_iff.mp suya).1
  have una := correcto.una
  have cero : i = 0 := by omega
  subst cero
  obtain ⟨otra, igual⟩ := List.length_eq_one_iff.mp (show s.tareas.length = 1 by omega)
  rw [igual] at suya ⊢
  cases suya
  exact ⟨rfl, rfl⟩

/-- A file that is created anew is empty. -/
theorem updateFile_nuevo (fs : Spiffs) (apertura : Bool) :
    ((if fs.updateFile.isSome then fs.format else fs).abrir apertura).updateFile =
      if apertura then some [] else none := by
  have libre : (if fs.updateFile.isSome then fs.format else fs).updateFile = none := by
    split_ifs with existe
    · rfl
    · simpa using existe
  cases apertura with
  | true => rfl
  | false => exact libre

theorem Tarea.sigue_iff {tarea : Tarea} : tarea.sigue = true ↔
    tarea.attempt ≤ maxRetries ∧ (tarea.successPSOC || tarea.successESP) = false := by
  simp [Tarea.sigue]

/-- An attempt begins with what was known of the task. -/
theorem Cargador.TareaCorrecta.conDescarga {t : Cargador} {tarea : Tarea}
    (correcta : s.TareaCorrecta tarea)
    (sinExito : (tarea.successPSOC || tarea.successESP) = false)
    (cerrado : t.act.updateFileAbierto = s.act.updateFileAbierto)
    (psoc : t.psocUpdateAvailable = s.psocUpdateAvailable) {d : Descarga}
    (descargando : d.respuesta = true → s.psocUpdateAvailable = true →
      ∃ status cuerpo, t.Descargando d status cuerpo) :
    t.TareaCorrecta { tarea with descarga := some d } := by
  constructor
  case cerrado => exact cerrado.trans correcta.cerrado
  case url =>
    rw [psoc]
    exact correcta.url
  case intentos => exact correcta.intentos
  case completa =>
    intro exito
    have falta := (Bool.or_eq_false_iff.mp sinExito).1
    exact absurd (falta.symm.trans exito) Bool.false_ne_true
  case sinExito => exact fun _ _ => sinExito
  case descarga =>
    intro otra suya respuesta esPsoc
    cases suya
    exact descargando respuesta (psoc.symm.trans esPsoc)

/-- The task sets its flag, then takes its URL. -/
theorem correcto_empieza (correcto : s.Correcto) {tarea : Tarea} (una : s.tareas = [tarea]) :
    (s.empieza 0 tarea).Correcto := by
  have correcta := correcto.tarea tarea una
  have cambiada (nueva : Tarea) : s.tareas.set 0 nueva = [nueva] := by
    rw [una]
    rfl
  unfold Cargador.empieza
  split_ifs
  · have tomada : s.TareaCorrecta { tarea with urlPsoc := some s.psocUpdateAvailable } :=
      ⟨correcta.cerrado, fun _ suya => (Option.some.inj suya).symm, correcta.intentos,
        correcta.completa, correcta.sinExito, correcta.descarga⟩
    exact correcto_conTarea correcto.validas (cambiada _) (tomada.congr rfl rfl rfl rfl)
  · have marcada : s.TareaCorrecta { tarea with marcada := true } :=
      ⟨correcta.cerrado, correcta.url, correcta.intentos, correcta.completa, correcta.sinExito,
        correcta.descarga⟩
    exact correcto_conTarea correcto.validas (cambiada _) (marcada.congr rfl rfl rfl rfl)

theorem correcto_abre (correcto : s.Correcto) {tarea : Tarea} (una : s.tareas = [tarea])
    (tomada : tarea.urlPsoc.isSome = true) (sigue : tarea.sigue = true) {intento : Intento}
    (limpio : s.Limpio (.abre 0 intento)) : (s.abre 0 tarea intento).Correcto := by
  have sinExito := (Tarea.sigue_iff.mp sigue).2
  have correcta := correcto.tarea tarea una
  have cambiada (nueva : Tarea) : s.tareas.set 0 nueva = [nueva] := by
    rw [una]
    rfl
  unfold Cargador.abre
  dsimp only
  by_cases psoc : s.psocUpdateAvailable = true
  · rw [if_pos psoc]
    obtain ⟨seMonta, responde⟩ := limpio psoc
    by_cases montado : intento.montado = true
    · rw [if_pos montado]
      refine correcto_conTarea correcto.validas (cambiada _) ?_
      refine correcta.conDescarga sinExito ?cerrado ?psoc fun respuesta _ => ?_
      case cerrado => rfl
      case psoc => rfl
      refine ⟨intento.status, [], ?_⟩
      have positivo : 0 < intento.status := of_decide_eq_true respuesta
      obtain ⟨desde, hasta, creado⟩ := responde positivo
      constructor
      case origen =>
        dsimp only
        obtain ⟨urlPsoc, suya⟩ := Option.isSome_iff_exists.mp tomada
        rw [if_pos respuesta, if_pos respuesta, suya, correcta.url urlPsoc suya, psoc]
        rfl
      case correcto => exact ⟨desde, hasta⟩
      case len => exact (Int.sub_zero _).symm
      case cortada => exact fun cortada => nomatch cortada
      case contado => exact fun _ _ => rfl
      case fichero => exact fun _ => updateFile_nuevo _ _
      case sinFichero =>
        intro cerrado
        refine ⟨?_, fun _ => rfl⟩
        dsimp only
        rw [if_pos respuesta]
        exact creado.resolve_left fun abierto => Bool.false_ne_true (cerrado.symm.trans abierto)
    · rw [if_neg montado]
      refine correcto_sinTareas correcto.validas ?_ fun tipo => ?_
      · rw [una]
        rfl
      · exact (seMonta.resolve_left montado tipo).elim
  · rw [if_neg psoc]
    refine correcto_conTarea correcto.validas (cambiada _) ?_
    refine correcta.conDescarga sinExito ?cerrado ?psoc fun _ otro => absurd otro psoc
    case cerrado => rfl
    case psoc => rfl

theorem cuenta_cases (d : Descarga) (c : Nat) :
    (Cargador.cuenta d c).total = d.total ∧ (Cargador.cuenta d c).abierto = d.abierto ∧
      (Cargador.cuenta d c).cortada = d.cortada ∧
      (Cargador.cuenta d c).respuesta = d.respuesta ∧
      (0 < d.len ∧ (Cargador.cuenta d c).written = d.written + c ∧
          (Cargador.cuenta d c).len = d.len - c ∨
        d.len ≤ 0 ∧ Cargador.cuenta d c = d) := by
  unfold Cargador.cuenta
  split_ifs with cuenta
  · exact ⟨rfl, rfl, rfl, rfl, .inl ⟨cuenta, rfl, rfl⟩⟩
  · exact ⟨rfl, rfl, rfl, rfl, .inr ⟨Int.not_lt.mp cuenta, rfl⟩⟩

theorem Descarga.leyendo_iff {d : Descarga} : d.leyendo = true ↔
    d.respuesta = true ∧ d.cortada = false ∧ (0 < d.len ∨ d.len = -1) := by
  simp [Descarga.leyendo, and_assoc]

/-- A turn whose write is complete: the file is what has come. -/
theorem Cargador.Descargando.completo {d : Descarga} {status : Int} {cuerpo : List UInt8}
    (descargando : s.Descargando d status cuerpo) (leyendo : d.leyendo = true)
    {leidos : List UInt8} {t : Cargador} (origen : t.origen = Cargador.conCuerpo leidos s.origen)
    {n : Nat} (escribe : n = leidos.length)
    (fichero : t.act.spiffs = s.act.spiffs.anadir (leidos.take n))
    (cerrado : d.abierto = false → n = 0) :
    t.Descargando (Cargador.cuenta d leidos.length) status (cuerpo ++ leidos) := by
  obtain ⟨-, entera, cuenta⟩ := Descarga.leyendo_iff.mp leyendo
  obtain ⟨total, abierto, cortada, -, contados⟩ := cuenta_cases d leidos.length
  have len := descargando.len
  have sinAbrir : d.abierto = false → leidos = [] := fun otro =>
    List.eq_nil_of_length_eq_zero (escribe.symm.trans (cerrado otro))
  constructor
  case origen =>
    rw [origen, descargando.origen, total]
    rfl
  case correcto => exact descargando.correcto
  case len =>
    rcases contados with ⟨-, written, menos⟩ | ⟨-, igual⟩
    · rw [menos, total, written]
      omega
    · rw [igual]
      exact len
  case cortada =>
    rw [cortada, entera]
    exact fun otro => absurd otro Bool.false_ne_true
  case contado =>
    intro _ quedan
    have antes := descargando.contado entera
    rw [List.length_append]
    rcases contados with ⟨faltan, written, menos⟩ | ⟨nada, igual⟩
    · rw [written]
      have contado := antes (Int.le_of_lt faltan)
      omega
    · rw [igual] at quedan
      omega
  case fichero =>
    intro _
    rw [fichero, escribe, List.take_length, abierto]
    show s.act.spiffs.updateFile.map (· ++ leidos) = _
    rw [descargando.fichero entera]
    split_ifs
    · rfl
    · rfl
  case sinFichero =>
    rw [abierto, total]
    intro otro
    obtain ⟨algo, vacio⟩ := descargando.sinFichero otro
    exact ⟨algo, fun _ => by rw [vacio entera, sinAbrir otro, List.append_nil]⟩

/-- A turn whose write fails: the loop ends before all has come. -/
theorem Cargador.Descargando.cortado {d : Descarga} {status : Int} {cuerpo : List UInt8}
    (descargando : s.Descargando d status cuerpo) (leyendo : d.leyendo = true)
    {leidos : List UInt8} {t : Cargador}
    (origen : t.origen = Cargador.conCuerpo leidos s.origen) :
    t.Descargando { d with cortada := true } status (cuerpo ++ leidos) := by
  obtain ⟨-, -, cuenta⟩ := Descarga.leyendo_iff.mp leyendo
  constructor
  case origen =>
    rw [origen, descargando.origen]
    rfl
  case correcto => exact descargando.correcto
  case len => exact descargando.len
  case cortada =>
    intro _
    show d.len ≠ 0
    omega
  case contado => exact fun otro => nomatch otro
  case fichero => exact fun otro => nomatch otro
  case sinFichero =>
    exact fun otro => ⟨(descargando.sinFichero otro).1, fun cortada => nomatch cortada⟩

theorem correcto_trozo (correcto : s.Correcto) {tarea : Tarea} (una : s.tareas = [tarea])
    {d : Descarga} (suya : tarea.descarga = some d) (leyendo : d.leyendo = true)
    (leidos : List UInt8) (escritos : Nat) (flashOk : Bool) :
    (s.trozo 0 tarea d leidos escritos flashOk).Correcto := by
  have correcta := correcto.tarea tarea una
  have sinExito := correcta.sinExito d suya
  have respuesta := (Descarga.leyendo_iff.mp leyendo).1
  have cambiada (nueva : Tarea) : s.tareas.set 0 nueva = [nueva] := by
    rw [una]
    rfl
  unfold Cargador.trozo
  dsimp only
  by_cases psoc : s.psocUpdateAvailable = true
  · rw [if_pos psoc]
    obtain ⟨status, cuerpo, descargando⟩ := correcta.descarga d suya respuesta psoc
    refine correcto_conTarea correcto.validas (cambiada _) ?_
    refine correcta.conDescarga sinExito ?cerrado ?psoc fun _ _ => ?_
    case cerrado => rfl
    case psoc => rfl
    refine ⟨status, cuerpo ++ leidos, ?_⟩
    generalize escribe : (if d.abierto then min escritos leidos.length else 0) = n
    by_cases todo : n = leidos.length
    · rw [if_pos (decide_eq_true todo)]
      refine descargando.completo leyendo ?origen todo ?fichero ?cerrado
      case origen => rfl
      case fichero => rfl
      case cerrado =>
        intro otro
        rw [← escribe, otro, if_neg Bool.false_ne_true]
    · rw [if_neg (by rw [decide_eq_true_iff]; exact todo)]
      refine descargando.cortado leyendo ?origen
      rfl
  · rw [if_neg psoc]
    refine correcto_conTarea correcto.validas (cambiada _) ?_
    refine correcta.conDescarga sinExito ?cerrado ?psoc fun _ otro => absurd otro psoc
    case cerrado => rfl
    case psoc => rfl

/-- An attempt that ends with every byte counted has left the whole body in the
file. -/
theorem Cargador.Descargando.entera {d : Descarga} {status : Int} {cuerpo : List UInt8}
    (descargando : s.Descargando d status cuerpo) (completo : d.written = d.total) :
    s.act.spiffs.updateFile = some cuerpo ∧
      (Origen.http true status d.total cuerpo).Entera cuerpo := by
  have len := descargando.len
  have cero : d.len = 0 := by omega
  have entera : d.cortada = false := by
    cases cortada : d.cortada with
    | true => exact absurd cero (descargando.cortada cortada)
    | false => rfl
  have contado := descargando.contado entera (Int.le_of_eq cero.symm)
  have abierto : d.abierto = true := by
    cases abierto : d.abierto with
    | true => rfl
    | false =>
        obtain ⟨algo, vacio⟩ := descargando.sinFichero abierto
        rw [vacio entera, completo] at contado
        exact absurd contado.symm algo
  refine ⟨?_, rfl, descargando.correcto.1, descargando.correcto.2, rfl, contado.trans completo⟩
  rw [descargando.fichero entera, if_pos abierto]

theorem correcto_cierra (correcto : s.Correcto) {tarea : Tarea} (una : s.tareas = [tarea])
    {d : Descarga} (suya : tarea.descarga = some d) (verifica : Bool) :
    (s.cierra 0 tarea d verifica).Correcto := by
  have correcta := correcto.tarea tarea una
  have sinExito := correcta.sinExito d suya
  have cambiada (nueva : Tarea) : s.tareas.set 0 nueva = [nueva] := by
    rw [una]
    rfl
  unfold Cargador.cierra
  dsimp only
  generalize (if (s.espUpdateAvailable && !s.psocUpdateAvailable) = true then
    s.act.update.endUpdate verifica else (s.act.update, false)) = terminado
  split_ifs with termina falla
  · exact correcto_restart correcto.validas
  · exact correcto_restart correcto.validas
  · refine correcto_conTarea correcto.validas (cambiada _) ?_
    constructor
    case cerrado => exact correcta.cerrado
    case url => exact correcta.url
    case intentos =>
      intro sinNada
      obtain ⟨noPsoc, noEsp⟩ := Bool.or_eq_false_iff.mp sinNada
      have quedan : tarea.attempt ≠ maxRetries := by
        intro ultimo
        refine falla ?_
        dsimp only at noPsoc noEsp
        rw [noPsoc, noEsp, ultimo]
        rfl
      exact Nat.lt_of_le_of_ne (correcta.intentos sinExito) quedan
    case completa =>
      intro exito
      simp only [Bool.and_eq_true, beq_iff_eq] at exito
      obtain ⟨⟨⟨respuesta, completo⟩, psoc⟩, -⟩ := exito
      obtain ⟨status, cuerpo, descargando⟩ := correcta.descarga d suya respuesta psoc
      obtain ⟨fichero, entera⟩ := descargando.entera completo
      exact ⟨cuerpo, _, fichero, descargando.origen, entera⟩
    case sinExito => exact fun _ otra => nomatch otra
    case descarga => exact fun _ otra => nomatch otra

theorem correcto_termina (correcto : s.Correcto) {tarea : Tarea} (una : s.tareas = [tarea])
    (acaba : tarea.sigue = false) (limpio : s.Limpio (.termina 0)) :
    (s.termina 0 tarea).Correcto := by
  have correcta := correcto.tarea tarea una
  have suya : tarea ∈ s.tareas := by
    rw [una]
    exact List.mem_singleton_self tarea
  have noEsp : tarea.successESP = false := limpio tarea suya
  have exito : tarea.successPSOC = true := by
    cases falta : tarea.successPSOC with
    | true => rfl
    | false =>
        have sinExito : (tarea.successPSOC || tarea.successESP) = false := by
          rw [falta, noEsp]
          rfl
        have sigue := Tarea.sigue_iff.mpr ⟨correcta.intentos sinExito, sinExito⟩
        exact absurd (acaba.symm.trans sigue) Bool.false_ne_true
  obtain ⟨imagen, origen, fichero, suyo, entera⟩ := correcta.completa exito
  unfold Cargador.termina
  split_ifs
  · refine correcto_sinTareas correcto.validas ?_ ?_
    · show s.tareas.eraseIdx 0 = []
      rw [una]
      rfl
    · intro _ otra suya
      have igual : imagen = otra := Option.some.inj (fichero.symm.trans suya)
      exact .inr ⟨correcta.cerrado, origen, suyo, igual ▸ entera⟩
  · refine @correcto_conTarea _ { tarea with activada := true }
      (validas_activa correcto.validas fichero suyo entera) ?_ ?_
    · show s.tareas.set 0 _ = _
      rw [una]
      rfl
    · have correcta' : s.TareaCorrecta { tarea with activada := true } :=
        ⟨correcta.cerrado, correcta.url, correcta.intentos, correcta.completa, correcta.sinExito,
          correcta.descarga⟩
      exact correcta'.congr rfl rfl rfl rfl

theorem correcto_borra (correcto : s.Correcto) : s.borra.Correcto := by
  unfold Cargador.borra
  split_ifs
  · exact correcto_restart correcto.validas
  · exact correcto

/-- One step without faults. -/
theorem Cargador.Correcto.paso (correcto : s.Correcto) {evento : Evento}
    (limpio : s.Limpio evento) : (s.paso evento).Correcto := by
  cases evento with
  | firebase publicado => exact correcto_firebase correcto limpio
  | reconecta => exact correcto_reconecta correcto
  | empieza i =>
      unfold Cargador.paso
      dsimp only
      cases suya : s.tareas[i]? with
      | none => exact correcto
      | some tarea =>
          obtain ⟨rfl, una⟩ := correcto.unica suya
          dsimp only
          split_ifs
          · exact correcto_empieza correcto una
          · exact correcto
  | abre i intento =>
      unfold Cargador.paso
      dsimp only
      cases suya : s.tareas[i]? with
      | none => exact correcto
      | some tarea =>
          obtain ⟨rfl, una⟩ := correcto.unica suya
          dsimp only
          split_ifs with empieza
          · obtain ⟨tomada, sigue⟩ :=
              Bool.and_eq_true_iff.mp (Bool.and_eq_true_iff.mp empieza).1
            exact correcto_abre correcto una tomada sigue limpio
          · exact correcto
  | trozo i leidos escritos flashOk =>
      unfold Cargador.paso
      dsimp only
      cases suya : s.tareas[i]? with
      | none => exact correcto
      | some tarea =>
          obtain ⟨rfl, una⟩ := correcto.unica suya
          dsimp only
          cases descarga : tarea.descarga with
          | none => exact correcto
          | some d =>
              dsimp only
              split_ifs with leyendo
              · exact correcto_trozo correcto una descarga leyendo _ _ _
              · exact correcto
  | cierra i verifica =>
      unfold Cargador.paso
      dsimp only
      cases suya : s.tareas[i]? with
      | none => exact correcto
      | some tarea =>
          obtain ⟨rfl, una⟩ := correcto.unica suya
          dsimp only
          cases descarga : tarea.descarga with
          | none => exact correcto
          | some d =>
              dsimp only
              exact correcto_cierra correcto una descarga verifica
  | termina i =>
      unfold Cargador.paso
      dsimp only
      cases suya : s.tareas[i]? with
      | none => exact correcto
      | some tarea =>
          obtain ⟨rfl, una⟩ := correcto.unica suya
          dsimp only
          split_ifs with ocupada
          · exact correcto
          · have acaba : tarea.sigue = false :=
              (Bool.or_eq_false_iff.mp (Bool.of_not_eq_true ocupada)).1
            exact correcto_termina correcto una acaba limpio
  | ble escritura => exact correcto_ble correcto limpio
  | desconecta => exact correcto_desconecta correcto limpio
  | borra => exact correcto_borra correcto
  | updateEmpieza malos =>
      cases (show malos = false from limpio)
      exact correcto_updateEmpieza correcto
  | updateTermina err => exact correcto_updateTermina correcto limpio
  | updateSigue => exact correcto_updateSigue correcto limpio
  | restart => exact correcto_restart correcto.validas

end Tareas

/-- The charger when it starts, with what its partition holds. -/
def Cargador.encendido (spiffs : Spiffs) : Cargador :=
  .arranque (.arranque spiffs)

/-- In every run without faults the other processor is put in its boot loader for
a whole image only. -/
theorem activacion_valida (spiffs : Spiffs) (eventos : List Evento)
    (limpios : Along Cargador.Limpio Cargador.paso eventos (.encendido spiffs)) :
    ∀ a ∈ (eventos.foldl Cargador.paso (.encendido spiffs)).activadas, a.Valida := by
  have inicial : (Cargador.encendido spiffs).Correcto := by
    refine correcto_sinTareas (fun _ nada => nomatch nada) rfl fun tipo => ?_
    exact absurd tipo (show (0 : UInt8) ≠ psocUpdate by decide)
  have correcto := limpios.invariant Cargador.Correcto inicial
    fun _ _ correcto limpio => correcto.paso limpio
  exact correcto.validas

namespace Cargador

instance decidableLimpio (s : Cargador) : ∀ evento, Decidable (s.Limpio evento)
  | .firebase _ => inferInstanceAs (Decidable ((_ → _ → _ ∨ _) ∧ (_ ∨ _ ∧ _ → _ ∧ _)))
  | .reconecta => inferInstanceAs (Decidable True)
  | .empieza _ => inferInstanceAs (Decidable True)
  | .abre _ _ => inferInstanceAs (Decidable (_ → _ ∧ _))
  | .trozo _ _ _ _ => inferInstanceAs (Decidable True)
  | .cierra _ _ => inferInstanceAs (Decidable True)
  | .termina _ => inferInstanceAs (Decidable (∀ tarea ∈ s.tareas, tarea.successESP = false))
  | .ble (.prolog _ _) => inferInstanceAs (Decidable (_ ∧ _))
  | .ble (.fwData data hw) =>
    inferInstanceAs (Decidable (_ ∧ (_ → _ → ∀ i < 16, s.act.tomados hw i = 0 ∨
      (Actualizador.parteDe data).payload.length ≤ s.act.tomados hw i)))
  | .ble (.epilog _ _) => inferInstanceAs (Decidable (_ ∧ (_ → _ → _)))
  | .desconecta => inferInstanceAs (Decidable (_ = _))
  | .borra => inferInstanceAs (Decidable True)
  | .updateEmpieza _ => inferInstanceAs (Decidable (_ = _))
  | .updateTermina _ => inferInstanceAs (Decidable (_ = _))
  | .updateSigue => inferInstanceAs (Decidable (_ → _))
  | .restart => inferInstanceAs (Decidable True)

end Cargador

/-- An image for the other processor is published, and the task that downloads it begins. -/
def publicada : List Evento :=
  [.firebase true, .firebase false, .firebase false, .empieza 0, .empieza 0]

/-- A download of two bytes, cut once. -/
def enDosIntentos : List Evento :=
  publicada ++ [.abre 0 ⟨true, true, 200, 2, true⟩, .trozo 0 [0x31] 1 true, .cierra 0 true,
    .abre 0 ⟨true, true, 200, 2, true⟩, .trozo 0 [0x31, 0x32] 2 true, .cierra 0 true,
    .termina 0, .termina 0]

/-- What it activates. -/
def activadaEnDosIntentos : Activada :=
  ⟨some [0x31, 0x32], some (.http true 200 2 [0x31, 0x32])⟩

theorem activacion_valida_enDosIntentos : activadaEnDosIntentos.Valida :=
  activacion_valida ⟨true, none, none⟩ enDosIntentos (by decide +kernel) _ (by decide +kernel)

/-- The server answers with an error, and a text of three bytes about it. -/
def noEncontrada : List Evento :=
  publicada ++ [.abre 0 ⟨true, true, 404, 3, true⟩, .trozo 0 [0x34, 0x30, 0x34] 3 true,
    .cierra 0 true, .termina 0, .termina 0]

theorem activacion_noEncontrada :
    ¬ ∀ a ∈ (noEncontrada.foldl Cargador.paso (.encendido ⟨true, none, none⟩)).activadas,
      a.Valida := by
  intro validas
  have activada : ⟨some [0x34, 0x30, 0x34], some (.http true 404 3 [0x34, 0x30, 0x34])⟩ ∈
      (noEncontrada.foldl Cargador.paso (.encendido ⟨true, none, none⟩)).activadas := by
    decide +kernel
  obtain ⟨imagen, origen, -, suyo, entera⟩ := validas _ activada
  cases suyo
  exact absurd entera.2.2.1 (by decide)

end VeltiumCharger.Actualizacion
