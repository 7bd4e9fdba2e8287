import Mathlib.Tactic.Common
import VeltiumCharger.Library.Run

/-!
# The permission to upload a record

`WriteFirebaseHistoric` asks the state machine of the database for permission,
waits for it and uploads a record in the state `WRITING_RECORD`.  Two flags and the
state pass between the function and `Firebase_Conn_Task`, which calls it; the other
tasks may change the state at any moment.  The steps are the tests and assignments
at which the tasks can meet; what a step reads from outside is part of its event.
-/

namespace VeltiumCharger.Registros.Permiso

open VeltiumCharger.Run

/-- The states of the machines, under the names of `control.h`. -/
inductive Estado
  | apagado
  | disconnected
  | disconnecting
  | starting
  | connecting
  | conectado
  | idle
  | userConnected
  | readingControl
  | readingParams
  | readingComs
  | readingGroup
  | writingControl
  | writingStatus
  | writingParams
  | writingComs
  | writingTimes
  | writingRecord
  | downloading
  | updating
  | installing
  | killing
  deriving DecidableEq, Repr

/-- Where `Firebase_Conn_Task` is.  From `historico` on it is at the call of
`WriteFirebaseHistoric` or inside it, with the local variables alive there. -/
inductive Punto
  | cabeza
  | conmuta
  | caso (estado : Estado)
  | historico
  | espera (count : Nat)
  | guarda
  | envio (returnToLastconn : Estado)
  | reintento (returnToLastconn : Estado)
  deriving DecidableEq, Repr

/-- The function has been called and has not returned. -/
def Punto.dentro : Punto → Bool
  | .espera _ | .guarda | .envio _ | .reintento _ => true
  | _ => false

/-- The variables of the task.  `NextState` is 0, the number of `DISCONNECTED`,
when there is none; `resultado` records what `WriteFirebaseHistoric` returned last. -/
structure Tarea where
  firebaseConnState : Estado
  askForPermission : Bool
  givePermission : Bool
  nextState : Estado
  errorCount : UInt8
  nullCount : UInt8
  updateCheckTimeout : UInt32
  lastTsAppReq : Int
  resultado : Option Bool
  punto : Punto
  deriving DecidableEq, Repr

/-- The variables when the task starts. -/
def Tarea.arranque : Tarea where
  firebaseConnState := .disconnected
  askForPermission := false
  givePermission := false
  nextState := .disconnected
  errorCount := 0
  nullCount := 0
  updateCheckTimeout := 0
  lastTsAppReq := 0
  resultado := none
  punto := .cabeza

/-- The end of `Get_Timestamp`: the timestamp, or an error that may be
`ESP_ERR_HTTP_CONNECT`. -/
structure Marca where
  sinConexion : Bool
  valor : Int
  deriving DecidableEq, Repr

/-- The record received from the other processor. -/
abbrev Registro := Vector UInt8 550

/-- What a step reads: the variables of other tasks, the clock, the record and the
ends of the requests.  `errores` counts the requests that add to `Error_Count`. -/
structure Lecturas where
  internetConection : Bool
  bleConectado : Bool
  bleConectadoDespues : Bool
  resetUser : Bool
  clienteIniciado : Bool
  marcas : List Marca
  marca : Marca
  tokenCaducado : Bool
  logIn : Bool
  errores : UInt8
  fwUpdateAuto : Bool
  fwUpdate : Bool
  cargadorLibre : Bool
  plazoUpdate : UInt32
  lastConnAntigua : Bool
  clienteInactivo : Bool
  recordPendingForWrite : Bool
  hayActualizacion : Bool
  descargandoArchivo : Bool
  instalandoArchivo : Bool
  dobleUpdate : Bool
  registro : Registro
  sendCommand : Bool
  deriving DecidableEq, Repr

namespace Tarea

variable (s : Tarea) (l : Lecturas)

/-- "Maquina de estados de Firebase pasa de %i a %i" -/
def pasa (estado : Estado) : Tarea :=
  { s with firebaseConnState := estado }

/-- `Get_Timestamp`, which disconnects when the server cannot be reached. -/
def getTimestamp (marca : Marca) : Tarea × Int :=
  if marca.sinConexion then (s.pasa .disconnecting, -1) else (s, marca.valor)

/-- There is no timestamp: the token has expired, or one more answer is wrong. -/
def sinMarca : Tarea :=
  if l.tokenCaducado then
    if l.logIn then s else s.pasa .disconnecting
  else if 3 ≤ s.nullCount + 1 then
    { s.pasa .disconnecting with nullCount := s.nullCount + 1 }
  else
    { s with nullCount := s.nullCount + 1 }

/-! ## The cases of `Firebase_Conn_Task` -/

/-- `DISCONNECTED` -/
def disconnected : Tarea :=
  if l.internetConection then { s.pasa .connecting with errorCount := 0 } else s

/-- `CONNECTING` -/
def connecting : Tarea :=
  if l.clienteIniciado then s.pasa .conectado else { s with errorCount := s.errorCount + 1 }

/-- `CONECTADO`: after the first timestamps comes the one of `/status`. -/
def conectado : Tarea :=
  let inicio := l.marcas.foldl (fun s marca => (s.getTimestamp marca).1) s
  let (leido, ts) := inicio.getTimestamp l.marca
  let s := { leido with lastTsAppReq := ts, errorCount := leido.errorCount + l.errores }
  if l.fwUpdateAuto then s.pasa .updating else s.pasa .idle

/-- Another firmware is looked for now: the time has passed and nothing is charging. -/
def vence : Bool :=
  decide (l.plazoUpdate < s.updateCheckTimeout + 1) && l.cargadorLibre

/-- A user is looking: the timestamp is newer than the last one. -/
def nueva (ts : Int) : Bool :=
  decide (s.lastTsAppReq < ts) && !l.bleConectadoDespues

/-- `IDLE`, when the timestamp has been read. -/
def idleConMarca (ts : Int) : Tarea :=
  let contado := { s with
    nullCount := 0
    errorCount := 0
    updateCheckTimeout := if s.vence l then 0 else s.updateCheckTimeout + 1 }
  if s.vence l && l.fwUpdateAuto then
    contado.pasa .updating
  else
    let tomado := { contado with lastTsAppReq := if s.nueva l ts then ts else s.lastTsAppReq }
    if s.nueva l ts && l.lastConnAntigua then
      { tomado.pasa .userConnected with errorCount := 0 }
    else if l.recordPendingForWrite then
      { tomado with errorCount := tomado.errorCount + l.errores, punto := .historico }
    else
      { tomado with errorCount := tomado.errorCount + l.errores }

/-- `IDLE` -/
def idle : Tarea :=
  if !l.internetConection || decide (10 < s.errorCount) then
    s.pasa .disconnecting
  else if !l.resetUser && l.bleConectado then
    s
  else
    let (leido, ts) := s.getTimestamp l.marca
    if ts < 1 then leido.sinMarca l else leido.idleConMarca l ts

/-- `USER_CONNECTED`, when the timestamp has been read. -/
def userConnectedConMarca (ts : Int) : Tarea :=
  let s := { s with
    nullCount := 0
    lastTsAppReq := if s.lastTsAppReq < ts then ts else s.lastTsAppReq
    errorCount := s.errorCount + l.errores }
  if l.clienteInactivo then
    s.pasa .idle
  else if l.fwUpdate && l.cargadorLibre then
    { s.pasa .updating with updateCheckTimeout := 0 }
  else
    s

/-- `USER_CONNECTED` -/
def userConnected : Tarea :=
  if s.askForPermission then
    { s with givePermission := true }
  else if l.bleConectado then
    s.pasa .idle
  else
    let (leido, ts) := s.getTimestamp l.marca
    if ts < 1 then leido.sinMarca l else leido.userConnectedConMarca l ts

/-- `WRITING_CONTROL`, `WRITING_COMS`, `WRITING_PARAMS`, `WRITING_TIMES` and
`READING_PARAMS`: one request and back. -/
def unaPeticion : Tarea :=
  { s.pasa .idle with errorCount := s.errorCount + l.errores }

/-- `WRITING_STATUS` -/
def writingStatus : Tarea :=
  let s := { s with errorCount := s.errorCount + l.errores }
  if s.askForPermission then
    { s.pasa .idle with askForPermission := false }
  else
    s.pasa (if s.nextState = .disconnected then .readingControl else s.nextState)

/-- `READING_CONTROL` -/
def readingControl : Tarea :=
  let s := { s with errorCount := s.errorCount + l.errores }
  s.pasa (if s.nextState = .disconnected then .idle else s.nextState)

/-- `READING_COMS` -/
def readingComs : Tarea :=
  { s.unaPeticion l with nextState := .readingParams }

/-- `UPDATING` -/
def updating : Tarea :=
  if l.hayActualizacion then s.pasa .downloading else s.pasa .idle

/-- `DOWNLOADING` -/
def downloading : Tarea :=
  if l.descargandoArchivo then s else s.pasa .installing

/-- `INSTALLING` -/
def installing : Tarea :=
  let s := if l.dobleUpdate then s.pasa .downloading else s
  if !l.descargandoArchivo && !l.instalandoArchivo then s.pasa .idle else s

/-- The `switch`, on the state it has read. -/
def caso : Estado → Tarea
  | .disconnected => s.disconnected l
  | .connecting => s.connecting l
  | .conectado => s.conectado l
  | .idle => s.idle l
  | .userConnected => s.userConnected l
  | .writingControl | .writingComs | .writingParams | .writingTimes | .readingParams =>
    s.unaPeticion l
  | .writingStatus => s.writingStatus l
  | .readingControl => s.readingControl l
  | .readingComs => s.readingComs l
  | .updating => s.updating l
  | .downloading => s.downloading l
  | .installing => s.installing l
  | .writingRecord => s
  | .disconnecting | .apagado | .starting | .readingGroup | .killing => s.pasa .disconnected

end Tarea

/-! ## `WriteFirebaseHistoric` -/

/-- `struct tm` -/
structure Tm where
  tmYear : Int
  tmMon : Int
  tmMday : Int
  tmHour : Int
  tmMin : Int
  tmSec : Int
  deriving DecidableEq, Repr

/-- The connection time of a record. -/
def tmConexion (buffer : Registro) : Tm where
  tmYear := 2000 + buffer[4].toNat - 1900
  tmMon := if buffer[3] ≠ 0 then buffer[3].toNat - 1 else 0
  tmMday := buffer[2].toNat
  tmHour := buffer[5].toNat
  tmMin := buffer[6].toNat
  tmSec := buffer[7].toNat

section Historico

variable (mktime : Tm → Int)

/-- The records of 1/1/2000 00:00:00 and of 3/3/2003 03:03:03 are not written. -/
def bloqueado (buffer : Registro) : Bool :=
  mktime (tmConexion buffer) = 946598400 || mktime (tmConexion buffer) = 1046660583

namespace Tarea

variable (s : Tarea)

/-- `return`, to the caller and to the end of its case. -/
def devuelve (resultado : Bool) : Tarea :=
  { s with resultado := some resultado, punto := .cabeza }

/-- The start: the blocked records, and the permission is asked for. -/
def writeFirebaseHistoric (l : Lecturas) : Tarea :=
  if bloqueado mktime l.registro then
    s.devuelve false
  else
    { s with askForPermission := true, punto := .espera 0 }

/-- One test of the loop that waits for the permission. -/
def esperaPermiso (count : Nat) : Tarea :=
  if s.firebaseConnState ≠ .idle ∧ s.givePermission = false then
    if 1000 < count + 1 then s.devuelve true else { s with punto := .espera (count + 1) }
  else
    { s with punto := .guarda }

/-- The state is kept and changed. -/
def guarda : Tarea :=
  { s.pasa .writingRecord with punto := .envio s.firebaseConnState }

/-- The two exits after the request: the state is restored and the flags are cleared. -/
def restaura (returnToLastconn : Estado) (resultado : Bool) : Tarea :=
  { s.pasa returnToLastconn with
    askForPermission := false
    givePermission := false }.devuelve resultado

/-- `Send_Command` with the record. -/
def envia (returnToLastconn : Estado) (l : Lecturas) : Tarea :=
  if l.sendCommand then
    s.restaura returnToLastconn true
  else
    { s with punto := .reintento returnToLastconn }

/-- The head of the loop of the task. -/
def cabeza (l : Lecturas) : Tarea :=
  let s := { s with punto := .conmuta }
  if l.internetConection = false ∧ s.firebaseConnState ≠ .disconnected then
    s.pasa .disconnecting
  else
    s

/-- One step of the task. -/
def paso (l : Lecturas) : Tarea :=
  match s.punto with
  | .cabeza => s.cabeza l
  | .conmuta => { s with punto := .caso s.firebaseConnState }
  | .caso estado => { s with punto := .cabeza }.caso l estado
  | .historico => s.writeFirebaseHistoric mktime l
  | .espera count => s.esperaPermiso count
  | .guarda => s.guarda
  | .envio returnToLastconn => s.envia returnToLastconn l
  | .reintento returnToLastconn => s.restaura returnToLastconn false

end Tarea

/-- A step of the task, or another task changes the state: `procesar_bloque` sets it
to `DISCONNECTED`, and no other task sets it to `WRITING_RECORD`. -/
inductive Evento
  | tarea (l : Lecturas)
  | otra (estado : Estado) (ajeno : estado ≠ .writingRecord)
  deriving DecidableEq, Repr

/-- What happens to the variables. -/
def siguiente (s : Tarea) : Evento → Tarea
  | .tarea l => s.paso mktime l
  | .otra estado _ => s.pasa estado

end Historico

/-! ## What the cases keep -/

/-- A case of the `switch` does not reach `WRITING_RECORD`, goes on to a record or
ends, never asks for permission and gives it only when it is asked for. -/
structure Conserva (s r : Tarea) : Prop where
  estado : s.nextState ≠ .writingRecord → s.firebaseConnState ≠ .writingRecord →
    r.firebaseConnState ≠ .writingRecord
  nextState : s.nextState ≠ .writingRecord → r.nextState ≠ .writingRecord
  punto : r.punto = s.punto ∨ r.punto = .historico
  pide : s.askForPermission = false → r.askForPermission = false
  da : s.askForPermission = false → s.givePermission = false → r.givePermission = false

namespace Conserva

variable {s r t : Tarea} {l : Lecturas}

theorem refl : Conserva s s :=
  ⟨fun _ estado => estado, id, Or.inl rfl, id, fun _ => id⟩

theorem trans (first : Conserva s r) (second : Conserva r t) : Conserva s t where
  estado next estado := second.estado (first.nextState next) (first.estado next estado)
  nextState next := second.nextState (first.nextState next)
  punto := by
    obtain keeps | record := second.punto
    · rw [keeps]
      exact first.punto
    · exact Or.inr record
  pide pide := second.pide (first.pide pide)
  da pide da := second.da (first.pide pide) (first.da pide da)

/-- It only looks at the variables of the permission. -/
theorem congr (keeps : Conserva s r) (estado : t.firebaseConnState = r.firebaseConnState)
    (next : t.nextState = r.nextState) (punto : t.punto = r.punto)
    (pide : t.askForPermission = r.askForPermission)
    (da : t.givePermission = r.givePermission) : Conserva s t := by
  obtain ⟨h₁, h₂, h₃, h₄, h₅⟩ := keeps
  constructor
  · rwa [estado]
  · rwa [next]
  · rwa [punto]
  · rwa [pide]
  · rwa [da]

/-- The other variables change. -/
theorem locales (estado : t.firebaseConnState = s.firebaseConnState)
    (next : t.nextState = s.nextState) (punto : t.punto = s.punto)
    (pide : t.askForPermission = s.askForPermission)
    (da : t.givePermission = s.givePermission) : Conserva s t :=
  refl.congr estado next punto pide da

theorem pasa {estado : Estado} (ajeno : estado ≠ .writingRecord) : Conserva s (s.pasa estado) where
  estado _ _ := ajeno
  nextState := id
  punto := Or.inl rfl
  pide := id
  da _ := id

theorem pasaDe {estado : Estado} (keeps : Conserva s r) (ajeno : estado ≠ .writingRecord) :
    Conserva s (r.pasa estado) :=
  keeps.trans (pasa ajeno)

theorem si {c : Prop} [Decidable c] (yes : Conserva s r) (no : Conserva s t) :
    Conserva s (if c then r else t) := by
  split_ifs
  · exact yes
  · exact no

theorem getTimestamp (marca : Marca) : Conserva s (s.getTimestamp marca).1 := by
  unfold Tarea.getTimestamp
  split_ifs
  · exact pasa (by decide)
  · exact refl

theorem sinMarca : Conserva s (s.sinMarca l) := by
  have desconecta : Conserva s (s.pasa .disconnecting) := pasa (by decide)
  unfold Tarea.sinMarca
  refine si (si refl desconecta) (si ?_ ?_)
  · exact desconecta.congr rfl rfl rfl rfl rfl
  · exact locales rfl rfl rfl rfl rfl

theorem primerasMarcas (marcas : List Marca) :
    Conserva s (marcas.foldl (fun s marca => (s.getTimestamp marca).1) s) := by
  induction marcas generalizing s with
  | nil => exact refl
  | cons marca rest ih => exact (getTimestamp marca).trans ih

theorem conectado : Conserva s (s.conectado l) := by
  have leido := (primerasMarcas (s := s) l.marcas).trans (getTimestamp l.marca)
  unfold Tarea.conectado
  refine si ?_ ?_
  · exact pasaDe (leido.congr rfl rfl rfl rfl rfl) (by decide)
  · exact pasaDe (leido.congr rfl rfl rfl rfl rfl) (by decide)

theorem idleConMarca (ts : Int) : Conserva s (s.idleConMarca l ts) := by
  unfold Tarea.idleConMarca
  refine si ?_ (si ?_ (si ?_ ?_))
  · exact pasaDe (locales rfl rfl rfl rfl rfl) (by decide)
  · exact (pasa (by decide : Estado.userConnected ≠ .writingRecord)).congr rfl rfl rfl rfl rfl
  · exact ⟨fun _ => id, id, Or.inr rfl, id, fun _ => id⟩
  · exact locales rfl rfl rfl rfl rfl

theorem idle : Conserva s (s.idle l) := by
  unfold Tarea.idle
  refine si (pasa (by decide)) (si refl (si ?_ ?_))
  · exact (getTimestamp l.marca).trans sinMarca
  · exact (getTimestamp l.marca).trans (idleConMarca _)

theorem userConnectedConMarca (ts : Int) : Conserva s (s.userConnectedConMarca l ts) := by
  unfold Tarea.userConnectedConMarca
  refine si ?_ (si ?_ ?_)
  · exact pasaDe (locales rfl rfl rfl rfl rfl) (by decide)
  · exact (pasa (by decide : Estado.updating ≠ .writingRecord)).congr rfl rfl rfl rfl rfl
  · exact locales rfl rfl rfl rfl rfl

theorem userConnected : Conserva s (s.userConnected l) := by
  unfold Tarea.userConnected
  by_cases pide : s.askForPermission = true
  · rw [if_pos pide]
    exact ⟨fun _ => id, id, Or.inl rfl, id, fun libre => absurd pide (by simp [libre])⟩
  · rw [if_neg pide]
    refine si (pasa (by decide)) (si ?_ ?_)
    · exact (getTimestamp l.marca).trans sinMarca
    · exact (getTimestamp l.marca).trans (userConnectedConMarca _)

theorem unaPeticion : Conserva s (s.unaPeticion l) :=
  (pasa (by decide : Estado.idle ≠ .writingRecord)).congr rfl rfl rfl rfl rfl

/-- The state after a reading or a writing is `NextState` when there is one. -/
theorem pasaNext {porDefecto : Estado} (ajeno : porDefecto ≠ .writingRecord) (errorCount : UInt8) :
    Conserva s (Tarea.pasa { s with errorCount := errorCount }
      (if s.nextState = .disconnected then porDefecto else s.nextState)) where
  estado next _ := by
    change (if s.nextState = .disconnected then porDefecto else s.nextState) ≠ .writingRecord
    split_ifs
    · exact ajeno
    · exact next
  nextState := id
  punto := Or.inl rfl
  pide := id
  da _ := id

theorem writingStatus : Conserva s (s.writingStatus l) := by
  unfold Tarea.writingStatus
  refine si ?_ (pasaNext (by decide) _)
  exact ⟨fun _ _ => (by decide : Estado.idle ≠ .writingRecord), id, Or.inl rfl, fun _ => rfl,
    fun _ => id⟩

theorem readingComs : Conserva s (s.readingComs l) :=
  ⟨fun _ _ => (by decide : Estado.idle ≠ .writingRecord),
    fun _ => (by decide : Estado.readingParams ≠ .writingRecord), Or.inl rfl, id, fun _ => id⟩

theorem installing : Conserva s (s.installing l) := by
  have doble : Conserva s (if l.dobleUpdate then s.pasa .downloading else s) :=
    si (pasa (by decide)) refl
  unfold Tarea.installing
  exact si (pasaDe doble (by decide)) doble

theorem caso (estado : Estado) : Conserva s (s.caso l estado) := by
  have ala {estado : Estado} (ajeno : estado ≠ .writingRecord) : Conserva s (s.pasa estado) :=
    pasa ajeno
  cases estado with
  | disconnected =>
    have conecta : Conserva s (s.pasa .connecting) := ala (by decide)
    exact si (conecta.congr rfl rfl rfl rfl rfl) refl
  | connecting => exact si (ala (by decide)) (locales rfl rfl rfl rfl rfl)
  | conectado => exact conectado
  | idle => exact idle
  | userConnected => exact userConnected
  | writingControl | writingComs | writingParams | writingTimes | readingParams =>
    exact unaPeticion
  | writingStatus => exact writingStatus
  | readingControl => exact pasaNext (by decide) _
  | readingComs => exact readingComs
  | updating => exact si (ala (by decide)) (ala (by decide))
  | downloading => exact si refl (ala (by decide))
  | installing => exact installing
  | writingRecord => exact refl
  | disconnecting | apagado | starting | readingGroup | killing => exact ala (by decide)

end Conserva

/-! ## Runs -/

/-- What holds in every state: the permission is asked for while the function waits,
and `WRITING_RECORD` is only the state of an upload. -/
def Coherente (s : Tarea) : Prop :=
  s.nextState ≠ .writingRecord ∧
    match s.punto with
    | .espera _ => s.askForPermission = true ∧ s.firebaseConnState ≠ .writingRecord
    | .envio returnToLastconn | .reintento returnToLastconn => returnToLastconn ≠ .writingRecord
    | _ => s.firebaseConnState ≠ .writingRecord

/-- `USER_CONNECTED` gives permission and does nothing else. -/
def Suspendido (s : Tarea) : Prop :=
  s.punto = .caso .userConnected ∧ s.askForPermission = true

/-- When `WriteFirebaseHistoric` has returned nothing of it is left. -/
def Devuelto (s : Tarea) : Prop :=
  s.punto.dentro = false →
    s.askForPermission = false ∧ s.givePermission = false ∧
      s.firebaseConnState ≠ .writingRecord

/-- What is promised of a state. -/
def Libre (s : Tarea) : Prop :=
  Devuelto s ∧ ¬ Suspendido s

/-- The step is not the test at which the wait ends in vain: the last one comes with
permission or finds `IDLE`. -/
def NoVence (s : Tarea) : Evento → Prop
  | .tarea _ => ∀ count, s.punto = .espera count → 1000 ≤ count →
      s.firebaseConnState = .idle ∨ s.givePermission = true
  | .otra _ _ => True

theorem libre_iff_devuelto {s : Tarea} : Libre s ↔ Devuelto s := by
  refine ⟨And.left, fun devuelto => ⟨devuelto, ?_⟩⟩
  rintro ⟨caso, pide⟩
  have libre := devuelto (by rw [caso]; rfl)
  exact absurd libre.1 (by simp [pide])

theorem coherente_arranque : Coherente .arranque :=
  ⟨by decide, (by decide : Estado.disconnected ≠ .writingRecord)⟩

theorem libre_arranque : Libre .arranque :=
  libre_iff_devuelto.mpr fun _ => by decide

section Pasos

variable {mktime : Tm → Int} {s : Tarea}

/-- Outside the function, `WRITING_RECORD` is not the state. -/
theorem Coherente.estado (coherente : Coherente s) (fuera : s.punto.dentro = false) :
    s.firebaseConnState ≠ .writingRecord := by
  obtain ⟨-, coherente⟩ := coherente
  cases punto : s.punto with
  | cabeza | conmuta | caso | historico => simpa [punto] using coherente
  | espera | guarda | envio | reintento => simp [punto, Punto.dentro] at fuera

theorem coherente_otra (coherente : Coherente s) {estado : Estado}
    (ajeno : estado ≠ .writingRecord) : Coherente (s.pasa estado) := by
  obtain ⟨next, dentro⟩ := coherente
  refine ⟨next, ?_⟩
  cases punto : s.punto with
  | cabeza | conmuta | caso | historico | guarda => simpa [Tarea.pasa, punto] using ajeno
  | espera => simpa [Tarea.pasa, punto] using ⟨by simp_all, ajeno⟩
  | envio | reintento => simpa [Tarea.pasa, punto] using dentro

/-- The part of the invariant that does not look at where the task is. -/
theorem coherente_fuera (next : s.nextState ≠ .writingRecord)
    (estado : s.firebaseConnState ≠ .writingRecord)
    (fuera : s.punto.dentro = false ∨ s.punto = .guarda) : Coherente s := by
  refine ⟨next, ?_⟩
  cases punto : s.punto with
  | cabeza | conmuta | caso | historico | guarda => exact estado
  | espera | envio | reintento => simp [punto, Punto.dentro] at fuera

theorem coherente_paso (l : Lecturas) (coherente : Coherente s) : Coherente (s.paso mktime l) := by
  obtain ⟨next, dentro⟩ := coherente
  unfold Tarea.paso
  cases punto : s.punto with
  | cabeza =>
    rw [punto] at dentro
    dsimp only [Tarea.cabeza]
    split_ifs
    · exact coherente_fuera next (by simp [Tarea.pasa]) (Or.inl rfl)
    · exact coherente_fuera next dentro (Or.inl rfl)
  | conmuta =>
    rw [punto] at dentro
    exact coherente_fuera next dentro (Or.inl rfl)
  | caso estado =>
    rw [punto] at dentro
    have keeps := Conserva.caso (s := { s with punto := .cabeza }) (l := l) estado
    refine coherente_fuera (keeps.nextState next) (keeps.estado next dentro) (Or.inl ?_)
    obtain cabeza | historico := keeps.punto
    · simp [cabeza, Punto.dentro]
    · simp [historico, Punto.dentro]
  | historico =>
    rw [punto] at dentro
    dsimp only [Tarea.writeFirebaseHistoric]
    split_ifs
    · exact coherente_fuera next dentro (Or.inl rfl)
    · exact ⟨next, rfl, dentro⟩
  | espera count =>
    rw [punto] at dentro
    dsimp only [Tarea.esperaPermiso]
    split_ifs
    · exact coherente_fuera next dentro.2 (Or.inl rfl)
    · exact ⟨next, dentro⟩
    · exact coherente_fuera next dentro.2 (Or.inr rfl)
  | guarda =>
    rw [punto] at dentro
    exact ⟨next, dentro⟩
  | envio returnToLastconn =>
    rw [punto] at dentro
    dsimp only [Tarea.envia]
    split_ifs
    · exact coherente_fuera next dentro (Or.inl rfl)
    · exact ⟨next, dentro⟩
  | reintento returnToLastconn =>
    rw [punto] at dentro
    exact coherente_fuera next dentro (Or.inl rfl)

theorem coherente_siguiente (evento : Evento) (coherente : Coherente s) :
    Coherente (siguiente mktime s evento) := by
  cases evento with
  | tarea l => exact coherente_paso l coherente
  | otra estado ajeno => exact coherente_otra coherente ajeno

/-- Every way back to the caller but the one of the vain wait clears the flags. -/
theorem devuelto_paso {l : Lecturas} (coherente : Coherente s) (devuelto : Devuelto s)
    (noVence : NoVence s (.tarea l)) : Devuelto (s.paso mktime l) := by
  intro fuera
  suffices flags : (s.paso mktime l).askForPermission = false ∧
      (s.paso mktime l).givePermission = false from
    ⟨flags.1, flags.2, (coherente_paso l coherente).estado fuera⟩
  revert fuera
  unfold Tarea.paso
  cases punto : s.punto with
  | cabeza =>
    obtain ⟨pide, da, -⟩ := devuelto (by rw [punto]; rfl)
    dsimp only [Tarea.cabeza]
    split_ifs
    · exact fun _ => ⟨pide, da⟩
    · exact fun _ => ⟨pide, da⟩
  | conmuta =>
    obtain ⟨pide, da, -⟩ := devuelto (by rw [punto]; rfl)
    exact fun _ => ⟨pide, da⟩
  | caso estado =>
    obtain ⟨pide, da, -⟩ := devuelto (by rw [punto]; rfl)
    have keeps := Conserva.caso (s := { s with punto := .cabeza }) (l := l) estado
    exact fun _ => ⟨keeps.pide pide, keeps.da pide da⟩
  | historico =>
    obtain ⟨pide, da, -⟩ := devuelto (by rw [punto]; rfl)
    dsimp only [Tarea.writeFirebaseHistoric]
    split_ifs
    · exact fun _ => ⟨pide, da⟩
    · exact fun fuera => by simp [Punto.dentro] at fuera
  | espera count =>
    dsimp only [Tarea.esperaPermiso]
    split_ifs with falla ultima
    · obtain idle | da := noVence count punto (by omega)
      · exact absurd idle falla.1
      · exact absurd da (by simp [falla.2])
    · exact fun fuera => by simp [Punto.dentro] at fuera
    · exact fun fuera => by simp [Punto.dentro] at fuera
  | guarda => exact fun fuera => by simp [Tarea.guarda, Punto.dentro] at fuera
  | envio returnToLastconn =>
    dsimp only [Tarea.envia]
    split_ifs
    · exact fun _ => ⟨rfl, rfl⟩
    · exact fun fuera => by simp [Punto.dentro] at fuera
  | reintento returnToLastconn => exact fun _ => ⟨rfl, rfl⟩

/-- The vain wait returns with the permission still asked for. -/
theorem paso_vence {l : Lecturas} {count : Nat} (punto : s.punto = .espera count)
    (ultima : 1000 ≤ count) (estado : s.firebaseConnState ≠ .idle)
    (da : s.givePermission = false) : s.paso mktime l = s.devuelve true := by
  unfold Tarea.paso Tarea.esperaPermiso
  rw [punto]
  simp [estado, da, Nat.lt_succ_of_le ultima]

theorem noVence_of_devuelto {l : Lecturas} (coherente : Coherente s)
    (devuelto : Devuelto (s.paso mktime l)) : NoVence s (.tarea l) := by
  intro count punto ultima
  by_contra vence
  obtain ⟨estado, da⟩ := not_or.mp vence
  rw [paso_vence punto ultima estado (by simpa using da)] at devuelto
  have pide : s.askForPermission = true := by
    have dentro := coherente.2
    rw [punto] at dentro
    exact dentro.1
  have libre := (devuelto rfl).1
  exact absurd (pide.symm.trans libre) (by decide)

theorem libre_siguiente_iff (evento : Evento) (coherente : Coherente s) (libre : Libre s) :
    Libre (siguiente mktime s evento) ↔ NoVence s evento := by
  rw [libre_iff_devuelto]
  cases evento with
  | tarea l => exact ⟨noVence_of_devuelto coherente, devuelto_paso coherente libre.1⟩
  | otra estado ajeno =>
    refine ⟨fun _ => trivial, fun _ fuera => ?_⟩
    obtain ⟨pide, da, -⟩ := libre.1 fuera
    exact ⟨pide, da, ajeno⟩

end Pasos

/-- A run of the tasks is free of the permission in all its states exactly when no
wait of `WriteFirebaseHistoric` ends in vain. -/
theorem libre_siempre_iff (mktime : Tm → Int) (eventos : List Evento) :
    (∀ n, Libre ((eventos.take n).foldl (siguiente mktime) .arranque)) ↔
      Along NoVence (siguiente mktime) eventos .arranque :=
  forall_take_iff_along coherente_arranque libre_arranque
    (fun _ evento coherente => coherente_siguiente evento coherente)
    fun _ evento coherente libre => libre_siguiente_iff evento coherente libre

section Atasco

variable {mktime : Tm → Int}

/-- The waits before the last one only count. -/
theorem foldl_espera (l : Lecturas) {s : Tarea} (estado : s.firebaseConnState ≠ .idle)
    (da : s.givePermission = false) (veces : Nat) {count : Nat} (punto : s.punto = .espera count)
    (quedan : count + veces ≤ 1000) :
    (List.replicate veces (Evento.tarea l)).foldl (siguiente mktime) s =
      { s with punto := .espera (count + veces) } := by
  induction veces generalizing s count with
  | zero => simp [← punto]
  | succ veces ih =>
    have cuenta : s.paso mktime l = { s with punto := .espera (count + 1) } := by
      unfold Tarea.paso Tarea.esperaPermiso
      rw [punto]
      simp [estado, da, show ¬ 1000 < count + 1 by omega]
    have resto := ih (s := { s with punto := .espera (count + 1) }) estado da rfl (by omega)
    rw [List.replicate_succ, List.foldl_cons]
    change (List.replicate veces _).foldl _ (s.paso mktime l) = _
    rw [cuenta, resto, Nat.add_right_comm, Nat.add_assoc]

/-- The machine is in `USER_CONNECTED` between two passes, and the permission is
asked for. -/
def Atascado (s : Tarea) : Prop :=
  s.punto = .cabeza ∧ s.firebaseConnState = .userConnected ∧ s.askForPermission = true

/-- The three steps of a pass. -/
def pasada (primera segunda tercera : Lecturas) : List Evento :=
  [.tarea primera, .tarea segunda, .tarea tercera]

/-- A pass gives the permission and leaves the machine where it is. -/
theorem Atascado.foldl_pasada {s : Tarea} (atascado : Atascado s) {primera : Lecturas}
    (internet : primera.internetConection = true) (segunda tercera : Lecturas) :
    (pasada primera segunda tercera).foldl (siguiente mktime) s =
      { s with givePermission := true } := by
  obtain ⟨punto, estado, pide⟩ := atascado
  simp [pasada, siguiente, Tarea.paso, Tarea.cabeza, Tarea.caso, Tarea.userConnected, punto,
    internet, estado, pide]

/-- It stays there while there is a connection and no other task changes the state. -/
theorem Atascado.foldl_pasadas {s : Tarea} (atascado : Atascado s)
    (lecturas : List (Lecturas × Lecturas × Lecturas))
    (internet : ∀ l ∈ lecturas, l.1.internetConection = true) :
    Atascado ((lecturas.flatMap fun l => pasada l.1 l.2.1 l.2.2).foldl (siguiente mktime) s) := by
  induction lecturas generalizing s with
  | nil => exact atascado
  | cons l rest ih =>
    rw [List.flatMap_cons, List.foldl_append,
      atascado.foldl_pasada (internet l List.mem_cons_self)]
    exact ih atascado fun l mem => internet l (List.mem_cons_of_mem _ mem)

end Atasco

/-- A reading on which every request succeeds and a record waits. -/
def alDia : Lecturas where
  internetConection := true
  bleConectado := false
  bleConectadoDespues := false
  resetUser := false
  clienteIniciado := true
  marcas := List.replicate 4 ⟨false, 1⟩
  marca := ⟨false, 1⟩
  tokenCaducado := false
  logIn := true
  errores := 0
  fwUpdateAuto := false
  fwUpdate := false
  cargadorLibre := false
  plazoUpdate := 2880
  lastConnAntigua := true
  clienteInactivo := false
  recordPendingForWrite := true
  hayActualizacion := false
  descargandoArchivo := false
  instalandoArchivo := false
  dobleUpdate := false
  registro := ((Vector.replicate 550 0).set 2 1).set 4 24
  sendCommand := true

/-- A user looks at the charger. -/
def conUsuario : Lecturas :=
  { alDia with marca := ⟨false, 2⟩ }

/-- Up to `IDLE`, where another task disconnects before the record is written. -/
def hastaLaEspera : List Evento :=
  List.replicate 11 (.tarea alDia) ++ .otra .disconnected (by decide) ::
    List.replicate 2 (.tarea alDia)

/-- From there up to `USER_CONNECTED`. -/
def hastaUserConnected : List Evento :=
  List.replicate 9 (.tarea alDia) ++ List.replicate 5 (.tarea conUsuario)

/-- The connection over Ethernet comes back while a record is about to be written:
the wait ends in vain and `USER_CONNECTED` is suspended without an upload. -/
theorem not_libre_desconectado :
    ¬ Libre ((hastaLaEspera ++ List.replicate 1001 (Evento.tarea alDia) ++
      hastaUserConnected).foldl (siguiente fun _ => 1704067200) .arranque) := by
  have antes : hastaLaEspera.foldl (siguiente fun _ => 1704067200) .arranque =
      ⟨.disconnected, true, false, .disconnected, 0, 0, 1, 1, none, .espera 0⟩ := by
    decide
  have espera := @foldl_espera (fun _ => 1704067200) alDia
    ⟨.disconnected, true, false, .disconnected, 0, 0, 1, 1, none, .espera 0⟩
    (by decide) rfl 1000 0 rfl (by decide)
  rw [List.foldl_append, List.foldl_append, antes, List.replicate_succ', List.foldl_append, espera]
  refine fun libre => libre.2 ?_
  unfold Suspendido
  decide

end VeltiumCharger.Registros.Permiso
