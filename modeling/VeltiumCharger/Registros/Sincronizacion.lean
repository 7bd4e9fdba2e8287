import Mathlib.Tactic.Common
import VeltiumCharger.Library.Run

/-!
# Synchronisation of the records

The other processor keeps the records of the charges in a ring of 200 slots and
announces each new one by its index and its lap.  A record is asked for by its
index and uploaded with the index and the lap that the charger has in its
variables.  From the newest record the charger goes back, record by record, until
it finds the one behind the marker in the database, and then advances the marker.

A record is known here by its number, counted through all the laps: its index is
the number modulo 200 and its lap the quotient.  The tasks meet at the requests to
the database, each of which is a step of its own.
-/

namespace VeltiumCharger.Registros

open VeltiumCharger.Run

/-- A record in the database, with the index and the lap it was uploaded with. -/
structure Subida where
  index : Nat
  lap : Nat
  registro : Nat
  deriving DecidableEq, Repr

/-- It has its own index and lap. -/
def Subida.Propia (subida : Subida) : Prop :=
  subida.index = subida.registro % 200 ∧ subida.lap = subida.registro / 200 % 256

instance (subida : Subida) : Decidable subida.Propia :=
  inferInstanceAs (Decidable (_ ∧ _))

/-- The record is in the database under its own index and lap. -/
def Subido (subidas : List Subida) (registro : Nat) : Prop :=
  ∃ subida ∈ subidas, subida.registro = registro ∧ subida.Propia

/-- The slots from one index forward to another, in ring order. -/
def distancia (desde hasta : Nat) : Nat :=
  (hasta + 400 - desde) % 200

/-- `older_record_in_fb` is advanced: its value before, the new one and the newest
record announced with that index, with the records that are in the database. -/
structure Avance where
  anterior : Nat
  m : Nat
  hasta : Nat
  subidas : List Subida
  deriving DecidableEq, Repr

/-- What is promised of it: no record between the two is missing. -/
def Avance.Completo (a : Avance) : Prop :=
  ∀ registro ≤ a.hasta, a.hasta < registro + distancia a.anterior a.m →
    Subido a.subidas registro

/-- Where `Firebase_Conn_Task` is: what it has asked of the database. -/
inductive Fb
  | reposo
  | esperaPermiso
  | historico (subida : Subida)
  | historicoOtraVez (subida : Subida)
  | lastSynced
  | lastSyncedTs
  | readOlder
  | olderPorDefecto
  | olderPorDefectoTs
  | writeOlder (m hasta : Nat)
  | writeOlderTs
  deriving DecidableEq, Repr

/-- The variables of the tasks and `/records_sync/older_record_in_fb`.  The last
five only record: the newest record announced, whether its lap has come too,
whether a request waits for its answer, the requests since the last announcement,
and how the marker was advanced. -/
structure Sincronizacion where
  lastRecordInMem : Nat
  lastRecordLap : Nat
  recordIndex : Nat
  recordLap : Nat
  buffer : Nat
  newRecordReceived : Bool
  recordPendingForWrite : Bool
  askForNewRecord : Bool
  recordsTrigger : Bool
  retryEnable : Bool
  olderRecordInFb : Nat
  fb : Fb
  older : Option Nat
  subidas : List Subida
  anunciado : Nat
  vueltaAnunciada : Bool
  pedido : Bool
  peticiones : Nat
  avances : List Avance
  deriving DecidableEq, Repr

/-- The variables when the charger starts, with what is in the database. -/
def Sincronizacion.arranque (older : Option Nat) (subidas : List Subida) : Sincronizacion where
  lastRecordInMem := 0
  lastRecordLap := 0
  recordIndex := 0
  recordLap := 0
  buffer := 0
  newRecordReceived := false
  recordPendingForWrite := false
  askForNewRecord := false
  recordsTrigger := false
  retryEnable := true
  olderRecordInFb := 0
  fb := .reposo
  older := older
  subidas := subidas
  anunciado := 0
  vueltaAnunciada := false
  pedido := false
  peticiones := 0
  avances := []

/-- The end of a request: whether what is asked has been done, what `Send_Command` returns,
which is `true` for any answer of the server and `false` also behind a request that has been
done, and the marker in the document that a read leaves, which is that of the database or
none in an answer with an error. -/
structure Respuesta where
  aplicado : Bool
  ok : Bool
  marca : Option Nat
  deriving DecidableEq, Repr

namespace Sincronizacion

variable (s : Sincronizacion)

/-! ## The blocks of the other processor -/

/-- `ENERGY_RECORD_RECORD_CHAR_HANDLE`, with the contents of a record. -/
def energyRecord (registro : Nat) : Sincronizacion :=
  { s with
    buffer := registro
    newRecordReceived := true
    askForNewRecord := false
    pedido := false }

/-- `RECORDING_REC_LAST_CHAR_HANDLE`, with the index of a record. -/
def recLast (registro : Nat) : Sincronizacion :=
  { s with
    lastRecordInMem := registro % 200
    recordIndex := registro % 200
    anunciado := registro
    vueltaAnunciada := false
    peticiones := 0 }

/-- `RECORDING_REC_LAPS_CHAR_HANDLE`, with the lap of a record: the newest record is
asked for. -/
def recLaps (registro : Nat) : Sincronizacion :=
  let receivedLap := registro / 200 % 256
  let lastRecordLap :=
    if receivedLap = s.lastRecordLap ∨ receivedLap = s.lastRecordLap + 1 then receivedLap
    else s.lastRecordLap
  { s with
    lastRecordLap := lastRecordLap
    recordLap := lastRecordLap
    vueltaAnunciada := true
    pedido := true
    peticiones := 0 }

/-- `BLOQUE_INICIALIZACION`, with the newest record. -/
def inicializacion (registro : Nat) : Sincronizacion :=
  { s with
    lastRecordInMem := registro % 200
    recordIndex := registro % 200
    lastRecordLap := registro / 200 % 256
    recordLap := registro / 200 % 256
    anunciado := registro
    vueltaAnunciada := true
    peticiones := 0 }

/-! ## `controlTask` -/

/-- A record received is to be written, unless a client is connected over BLE. -/
def toma (ble : Bool) : Sincronizacion :=
  if s.newRecordReceived then
    { s with
      newRecordReceived := false
      recordPendingForWrite := s.recordPendingForWrite || !ble }
  else s

/-- `records_trigger` -/
def tomaTrigger : Sincronizacion :=
  if s.recordsTrigger then
    { s with
      recordsTrigger := false
      recordIndex := s.lastRecordInMem
      recordLap := s.lastRecordLap
      askForNewRecord := true
      peticiones := 0 }
  else s

/-- The record `record_index` is asked for. -/
def pide : Sincronizacion :=
  if s.askForNewRecord then { s with pedido := true } else s

/-! ## `Firebase_Conn_Task` -/

/-- `ReadFirebaseRecordsTrigger` has read a value. -/
def trigger (valor : Bool) : Sincronizacion :=
  if s.fb = .reposo then { s with recordsTrigger := valor } else s

/-- `WriteFirebaseHistoric` returns `false`. -/
def fracasa : Sincronizacion :=
  if s.retryEnable then
    { s with
      fb := .reposo
      retryEnable := false
      askForNewRecord := true
      peticiones := s.peticiones + 1 }
  else { s with fb := .reposo }

/-- `WriteFirebaseHistoric` returns `true`. -/
def escrito : Sincronizacion :=
  { s with fb := .lastSynced, retryEnable := true }

/-- The beginning of `WriteFirebaseHistoric`: a record with one of two connection
times is not written; outside of the state `IDLE` a permission is needed. -/
def empieza (bloqueado idle : Bool) : Sincronizacion :=
  if s.fb = .reposo ∧ s.recordPendingForWrite = true then
    let s := { s with recordPendingForWrite := false }
    if bloqueado then s.fracasa
    else if idle then { s with fb := .historico ⟨s.recordIndex, s.recordLap, s.buffer⟩ }
    else { s with fb := .esperaPermiso }
  else s

/-- Nobody has given the permission for ten seconds. -/
def caduca : Sincronizacion :=
  if s.fb = .esperaPermiso then s.escrito else s

/-- The record is in the database if the request was done. -/
def sube (subida : Subida) (r : Respuesta) : Sincronizacion :=
  { s with subidas := if r.aplicado then s.subidas ++ [subida] else s.subidas }

/-- The newest record announced with an index. -/
def posicion (m : Nat) : Nat :=
  s.anunciado - distancia m (s.anunciado % 200)

/-- The first request of `WriteFirebaseOlderSyncRecord`. -/
def escribeOlder (m : Nat) : Sincronizacion :=
  { s with fb := .writeOlder m (s.posicion m) }

/-- The record before is asked for, unless it is in the page of the newest one. -/
def continua : Sincronizacion :=
  if s.recordIndex < s.lastRecordInMem ∨ s.recordIndex / 8 > s.lastRecordInMem / 8 then
    { s with fb := .reposo, askForNewRecord := true, peticiones := s.peticiones + 1 }
  else s.escribeOlder s.lastRecordInMem

/-- What follows `ReadFirebaseOlderSyncRecord`. -/
def compara : Sincronizacion :=
  if s.recordIndex = s.olderRecordInFb + 1 then s.escribeOlder s.lastRecordInMem
  else if 0 < s.recordIndex then continua { s with recordIndex := s.recordIndex - 1 }
  else if 1 ≤ s.lastRecordLap then
    continua { s with recordIndex := 199, recordLap := s.lastRecordLap - 1 }
  else escribeOlder { s with askForNewRecord := false } s.lastRecordInMem

/-- The marker has its new value if the request was done. -/
def avanza (m hasta : Nat) (r : Respuesta) : Sincronizacion :=
  if r.aplicado then
    { s with
      older := some m
      avances := match s.older with
        | some anterior => s.avances ++ [⟨anterior, m, hasta, s.subidas⟩]
        | none => s.avances }
  else s

/-- The end of the request that the task is waiting for. -/
def responde (r : Respuesta) : Sincronizacion :=
  match s.fb with
  | .reposo => s
  | .esperaPermiso => s
  | .historico subida =>
    let s := s.sube subida r
    if r.ok then s.escrito else { s with fb := .historicoOtraVez subida }
  | .historicoOtraVez subida => (s.sube subida r).fracasa
  | .lastSynced => { s with fb := if r.ok then .lastSyncedTs else .reposo }
  | .lastSyncedTs => { s with fb := if r.ok then .readOlder else .reposo }
  | .readOlder =>
    if r.ok then
      match r.marca with
      | some older => compara { s with olderRecordInFb := older }
      | none => { s with olderRecordInFb := 0, fb := .olderPorDefecto }
    else s.escribeOlder s.recordIndex
  | .olderPorDefecto =>
    let s := s.avanza 0 (s.posicion 0) r
    if r.ok then { s with fb := .olderPorDefectoTs } else s.compara
  | .olderPorDefectoTs => s.compara
  | .writeOlder m hasta =>
    let s := s.avanza m hasta r
    { s with fb := if r.ok then .writeOlderTs else .reposo }
  | .writeOlderTs => { s with fb := .reposo }

end Sincronizacion

/-- What the other processor, the database and the tasks do. -/
inductive Evento
  | energyRecord (registro : Nat)
  | recLast (registro : Nat)
  | recLaps (registro : Nat)
  | inicializacion (registro : Nat)
  | toma (ble : Bool)
  | tomaTrigger
  | pide
  | trigger (valor : Bool)
  | empieza (bloqueado idle : Bool)
  | caduca
  | responde (r : Respuesta)
  deriving DecidableEq, Repr

/-- One step. -/
def Sincronizacion.paso (s : Sincronizacion) : Evento → Sincronizacion
  | .energyRecord registro => s.energyRecord registro
  | .recLast registro => s.recLast registro
  | .recLaps registro => s.recLaps registro
  | .inicializacion registro => s.inicializacion registro
  | .toma ble => s.toma ble
  | .tomaTrigger => s.tomaTrigger
  | .pide => s.pide
  | .trigger valor => s.trigger valor
  | .empieza bloqueado idle => s.empieza bloqueado idle
  | .caduca => s.caduca
  | .responde r => s.responde r

/-- The task has nothing to do with the record that `record_index` names. -/
def Fb.libre : Fb → Bool
  | .reposo => true
  | .writeOlder _ _ => true
  | .writeOlderTs => true
  | _ => false

/-- A record is being uploaded. -/
def Fb.subiendo : Fb → Bool
  | .historico _ => true
  | _ => false

namespace Sincronizacion

/-- No record is on its way between the other processor and the database. -/
def Libre (s : Sincronizacion) : Prop :=
  s.newRecordReceived = false ∧ s.recordPendingForWrite = false ∧ s.fb.libre = true

instance (s : Sincronizacion) : Decidable s.Libre :=
  inferInstanceAs (Decidable (_ ∧ _))

/-- The steps of a run without faults.  A record comes once for a request, when the
newest one has been announced with its lap, and is the one that `record_index` and
`record_lap` name.  Announcements and triggers come when no record is on its way;
the lap is that of the newest record, at most one more than the lap before, and
comes before the charger has gone back over the beginning of the ring.  Nothing is
written outside of the state `IDLE`.  A record whose upload is answered is in the
database.  The marker can be read, at least when it is not right behind the record that
has been written, an answer has the one of the database, and that is not ahead of the
newest record in its page. -/
def Limpio (s : Sincronizacion) : Evento → Prop
  | .energyRecord registro =>
    s.pedido = true ∧ s.vueltaAnunciada = true ∧ registro % 200 = s.recordIndex ∧
      registro / 200 = s.recordLap
  | .recLast _ => s.Libre
  | .recLaps registro =>
    s.Libre ∧ registro = s.anunciado ∧ registro / 200 < 256 ∧
      (registro / 200 = s.lastRecordLap ∨ registro / 200 = s.lastRecordLap + 1) ∧
      s.recordIndex ≤ s.lastRecordInMem
  | .inicializacion registro => s.Libre ∧ registro / 200 < 256
  | .toma _ => True
  | .tomaTrigger => s.recordsTrigger = true → s.Libre
  | .pide => True
  | .trigger _ => True
  | .empieza bloqueado idle =>
    s.fb = .reposo → s.recordPendingForWrite = true → (bloqueado || idle) = true
  | .caduca => True
  | .responde r =>
    (s.fb.subiendo = true → r.ok = true → r.aplicado = true) ∧
      (s.fb = .readOlder → (r.ok = true → r.marca = s.older) ∧ ∀ anterior ∈ s.older,
        if r.ok then
          anterior < 200 ∧ ¬ (s.lastRecordInMem < anterior ∧
            anterior / 8 = s.lastRecordInMem / 8 ∧ anterior % 8 ≠ 7)
        else distancia anterior s.recordIndex ≤ 1)

/-- The record that `record_index` and `record_lap` name. -/
def cursor (s : Sincronizacion) : Nat :=
  200 * s.recordLap + s.recordIndex

/-- The newest record is known, and all behind `record_index` have been uploaded. -/
structure AlDia (s : Sincronizacion) : Prop where
  vuelta : s.lastRecordLap = s.anunciado / 200
  byte : s.lastRecordLap < 256
  detras : s.cursor ≤ s.anunciado
  subidos : ∀ registro, s.cursor < registro → registro ≤ s.anunciado →
    Subido s.subidas registro

/-- The charger goes back along the ring. -/
def EnCadena (s : Sincronizacion) : Prop :=
  s.anunciado < s.cursor + 200 ∧
    s.peticiones ≤ 2 * (s.anunciado - s.cursor) + if s.retryEnable then 0 else 1

/-- The record that `record_index` names has been uploaded. -/
def CursorSubido (s : Sincronizacion) : Prop :=
  Subido s.subidas s.cursor ∧ s.anunciado < s.cursor + 200 ∧
    s.peticiones ≤ 2 * (s.anunciado - s.cursor) + 1

/-- What is known while the task waits for the database. -/
def Promesa (s : Sincronizacion) : Fb → Prop
  | .reposo => True
  | .esperaPermiso => False
  | .historico subida => subida = ⟨s.recordIndex, s.recordLap, s.cursor⟩ ∧ s.EnCadena
  | .historicoOtraVez subida => subida = ⟨s.recordIndex, s.recordLap, s.cursor⟩ ∧ s.EnCadena
  | .lastSynced => s.CursorSubido
  | .lastSyncedTs => s.CursorSubido
  | .readOlder => s.CursorSubido
  | .olderPorDefecto => s.CursorSubido ∧ s.olderRecordInFb = 0 ∧ s.older = none
  | .olderPorDefectoTs =>
    s.CursorSubido ∧ s.olderRecordInFb = 0 ∧ ∀ anterior ∈ s.older, anterior = 0
  | .writeOlder m hasta =>
    ∀ anterior ∈ s.older, Avance.Completo ⟨anterior, m, hasta, s.subidas⟩
  | .writeOlderTs => True

/-- The invariant of a run without faults. -/
structure Correcto (s : Sincronizacion) : Prop where
  completos : ∀ a ∈ s.avances, a.Completo
  acaba : s.peticiones ≤ 399
  indice : s.lastRecordInMem = s.anunciado % 200
  rango : s.recordIndex < 200
  sinVuelta : s.vueltaAnunciada = false → s.recordIndex = s.lastRecordInMem
  alDia : s.vueltaAnunciada = true → s.AlDia
  espera : s.vueltaAnunciada = true → s.pedido = true ∨ s.askForNewRecord = true → s.EnCadena
  ocupado : ¬ s.Libre → s.vueltaAnunciada = true ∧ s.pedido = false ∧ s.askForNewRecord = false
  bloque : s.newRecordReceived = true ∨ s.recordPendingForWrite = true →
    s.buffer = s.cursor ∧ s.EnCadena ∧ s.fb.libre = true
  unico : s.newRecordReceived = true → s.recordPendingForWrite = false
  promesa : s.Promesa s.fb

/-- Only the task of the database has something to do. -/
structure Sola (s : Sincronizacion) : Prop where
  completos : ∀ a ∈ s.avances, a.Completo
  acaba : s.peticiones ≤ 399
  indice : s.lastRecordInMem = s.anunciado % 200
  rango : s.recordIndex < 200
  vuelta : s.vueltaAnunciada = true
  alDia : s.AlDia
  pedido : s.pedido = false
  ask : s.askForNewRecord = false
  nuevo : s.newRecordReceived = false
  pendiente : s.recordPendingForWrite = false

end Sincronizacion

section Anillo

variable {subidas : List Subida}

/-- The interval of an advance lies among the records that have been uploaded. -/
theorem completo_of_subidos {anterior m hasta desde : Nat}
    (subidos : ∀ registro, desde ≤ registro → registro ≤ hasta → Subido subidas registro)
    (cabe : distancia anterior m + desde ≤ hasta + 1) :
    Avance.Completo ⟨anterior, m, hasta, subidas⟩ := by
  intro registro menor dentro
  refine subidos registro ?_ menor
  change hasta < registro + distancia anterior m at dentro
  omega

theorem distancia_self (i : Nat) : distancia i i = 0 := by
  unfold distancia
  omega

theorem posicion_last {s : Sincronizacion} (indice : s.lastRecordInMem = s.anunciado % 200) :
    s.posicion s.lastRecordInMem = s.anunciado := by
  rw [Sincronizacion.posicion, ← indice, distancia_self, Nat.sub_zero]

/-- The record that `record_index` names is the newest one with its index. -/
theorem posicion_cursor {s : Sincronizacion} (rango : s.recordIndex < 200)
    (detras : s.cursor ≤ s.anunciado) (cerca : s.anunciado < s.cursor + 200) :
    s.posicion s.recordIndex = s.cursor := by
  unfold Sincronizacion.cursor at *
  unfold Sincronizacion.posicion distancia
  omega

theorem Subido.mono {registro : Nat} (subido : Subido subidas registro) (otras : List Subida) :
    Subido (subidas ++ otras) registro := by
  obtain ⟨subida, esta, suya, propia⟩ := subido
  exact ⟨subida, List.mem_append_left _ esta, suya, propia⟩

end Anillo

section Pasos

variable {s : Sincronizacion}

/-- With no record on its way, only what has been asked for matters. -/
theorem Sincronizacion.Libre.correcto (libre : s.Libre)
    (completos : ∀ a ∈ s.avances, a.Completo) (acaba : s.peticiones ≤ 399)
    (indice : s.lastRecordInMem = s.anunciado % 200) (rango : s.recordIndex < 200)
    (sinVuelta : s.vueltaAnunciada = false → s.recordIndex = s.lastRecordInMem)
    (alDia : s.vueltaAnunciada = true → s.AlDia)
    (espera : s.vueltaAnunciada = true → s.pedido = true ∨ s.askForNewRecord = true → s.EnCadena)
    (promesa : s.Promesa s.fb) : s.Correcto := by
  constructor
  case completos => exact completos
  case acaba => exact acaba
  case indice => exact indice
  case rango => exact rango
  case sinVuelta => exact sinVuelta
  case alDia => exact alDia
  case espera => exact espera
  case ocupado => exact fun ocupada => absurd libre ocupada
  case bloque =>
    rintro (nuevo | pendiente)
    · exact absurd (libre.1.symm.trans nuevo) Bool.false_ne_true
    · exact absurd (libre.2.1.symm.trans pendiente) Bool.false_ne_true
  case unico => exact fun _ => libre.2.1
  case promesa => exact promesa

/-- What is promised of a marker that is being advanced does not depend on the rest. -/
theorem promesa_of_libre {t : Sincronizacion} {fb : Fb} (promesa : s.Promesa fb)
    (libre : fb.libre = true) (older : t.older = s.older) (subidas : t.subidas = s.subidas) :
    t.Promesa fb := by
  cases fb with
  | reposo => trivial
  | writeOlderTs => trivial
  | writeOlder m hasta =>
      intro anterior esta
      rw [subidas]
      exact promesa anterior (older ▸ esta)
  | esperaPermiso => cases libre
  | historico subida => cases libre
  | historicoOtraVez subida => cases libre
  | lastSynced => cases libre
  | lastSyncedTs => cases libre
  | readOlder => cases libre
  | olderPorDefecto => cases libre
  | olderPorDefectoTs => cases libre

theorem Sincronizacion.Sola.correcto (sola : s.Sola) (promesa : s.Promesa s.fb) :
    s.Correcto := by
  constructor
  case completos => exact sola.completos
  case acaba => exact sola.acaba
  case indice => exact sola.indice
  case rango => exact sola.rango
  case sinVuelta => exact fun falta => absurd (falta.symm.trans sola.vuelta) Bool.false_ne_true
  case alDia => exact fun _ => sola.alDia
  case espera =>
    intro _ algo
    rw [sola.pedido, sola.ask] at algo
    simp at algo
  case ocupado => exact fun _ => ⟨sola.vuelta, sola.pedido, sola.ask⟩
  case bloque =>
    intro algo
    rw [sola.nuevo, sola.pendiente] at algo
    simp at algo
  case unico => exact fun _ => sola.pendiente
  case promesa => exact promesa

theorem Sincronizacion.Correcto.sola (correcto : s.Correcto) (ocupada : s.fb.libre = false) :
    s.Sola := by
  have noLibre : ¬ s.Libre := fun libre => by
    have otra := libre.2.2
    rw [ocupada] at otra
    cases otra
  have sinBloque (algo : s.newRecordReceived = true ∨ s.recordPendingForWrite = true) : False := by
    have libre := (correcto.bloque algo).2.2
    rw [ocupada] at libre
    cases libre
  obtain ⟨vuelta, pedido, ask⟩ := correcto.ocupado noLibre
  constructor
  case completos => exact correcto.completos
  case acaba => exact correcto.acaba
  case indice => exact correcto.indice
  case rango => exact correcto.rango
  case vuelta => exact vuelta
  case alDia => exact correcto.alDia vuelta
  case pedido => exact pedido
  case ask => exact ask
  case nuevo => exact Bool.of_not_eq_true fun nuevo => sinBloque (.inl nuevo)
  case pendiente => exact Bool.of_not_eq_true fun pendiente => sinBloque (.inr pendiente)

/-- What the task of the database has of its own does not matter. -/
theorem Sincronizacion.Sola.propias (sola : s.Sola) (fb : Fb) (retryEnable : Bool)
    (olderRecordInFb : Nat) (older : Option Nat) :
    Sincronizacion.Sola { s with
      fb := fb
      retryEnable := retryEnable
      olderRecordInFb := olderRecordInFb
      older := older } := by
  obtain ⟨completos, acaba, indice, rango, vuelta, alDia, pedido, ask, nuevo, pendiente⟩ := sola
  obtain ⟨lap, byte, detras, subidos⟩ := alDia
  exact ⟨completos, acaba, indice, rango, vuelta, ⟨lap, byte, detras, subidos⟩, pedido, ask, nuevo,
    pendiente⟩

/-- So it does to upload a record. -/
theorem Sincronizacion.Sola.sube (sola : s.Sola) (subida : Subida) (r : Respuesta) :
    (s.sube subida r).Sola := by
  obtain ⟨completos, acaba, indice, rango, vuelta, alDia, pedido, ask, nuevo, pendiente⟩ := sola
  obtain ⟨lap, byte, detras, subidos⟩ := alDia
  refine ⟨completos, acaba, indice, rango, vuelta, ⟨lap, byte, detras, ?_⟩, pedido, ask, nuevo,
    pendiente⟩
  intro registro desde hasta
  have antes := subidos registro desde hasta
  show Subido (if r.aplicado then s.subidas ++ [subida] else s.subidas) registro
  split_ifs
  · exact antes.mono _
  · exact antes

/-- A record that is written under the names of `record_index` and `record_lap`. -/
theorem Sincronizacion.Sola.subido (sola : s.Sola) {r : Respuesta} (hecho : r.aplicado = true) :
    Subido (s.sube ⟨s.recordIndex, s.recordLap, s.cursor⟩ r).subidas s.cursor := by
  have detras := sola.alDia.detras
  have byte := sola.alDia.byte
  have vuelta := sola.alDia.vuelta
  have rango := sola.rango
  show Subido (if r.aplicado then s.subidas ++ [_] else s.subidas) s.cursor
  rw [if_pos hecho]
  refine ⟨_, List.mem_append_right _ List.mem_cons_self, rfl, ?_⟩
  unfold Subida.Propia
  unfold Sincronizacion.cursor at *
  dsimp only
  omega

/-- A record is asked for. -/
theorem Sincronizacion.Sola.pregunta (sola : s.Sola) {retryEnable : Bool} {peticiones : Nat}
    (acaba : peticiones ≤ 399)
    (cadena : s.anunciado < s.cursor + 200 ∧
      peticiones ≤ 2 * (s.anunciado - s.cursor) + if retryEnable then 0 else 1) :
    Sincronizacion.Correcto { s with
      fb := .reposo
      retryEnable := retryEnable
      askForNewRecord := true
      peticiones := peticiones } := by
  have libre : Sincronizacion.Libre { s with
      fb := .reposo
      retryEnable := retryEnable
      askForNewRecord := true
      peticiones := peticiones } := ⟨sola.nuevo, sola.pendiente, rfl⟩
  have alDia := sola.alDia
  refine libre.correcto sola.completos acaba sola.indice sola.rango ?_ ?_ ?_ trivial
  · exact fun falta => absurd (falta.symm.trans sola.vuelta) Bool.false_ne_true
  · exact fun _ => ⟨alDia.vuelta, alDia.byte, alDia.detras, alDia.subidos⟩
  · exact fun _ _ => cadena

/-- The marker is about to be advanced. -/
theorem Sincronizacion.Sola.escribeOlder (sola : s.Sola) {m : Nat}
    (completo : ∀ anterior ∈ s.older,
      Avance.Completo ⟨anterior, m, s.posicion m, s.subidas⟩) :
    (s.escribeOlder m).Correcto :=
  (sola.propias _ s.retryEnable s.olderRecordInFb s.older).correcto completo

/-- All from the record that `record_index` names have been uploaded. -/
theorem Sincronizacion.Sola.desdeCursor (sola : s.Sola) (subido : Subido s.subidas s.cursor) :
    ∀ registro, s.cursor ≤ registro → registro ≤ s.anunciado → Subido s.subidas registro := by
  intro registro desde hasta
  by_cases suyo : registro = s.cursor
  · rw [suyo]
    exact subido
  · exact sola.alDia.subidos registro (by omega) hasta

/-- One record back. -/
theorem Sincronizacion.Sola.atras (sola : s.Sola) (subido : Subido s.subidas s.cursor)
    {index lap : Nat} (rango : index < 200) (antes : 200 * lap + index + 1 = s.cursor) :
    Sincronizacion.Sola { s with recordIndex := index, recordLap := lap } := by
  have desdeCursor := sola.desdeCursor subido
  obtain ⟨completos, acaba, indice, -, vuelta, alDia, pedido, ask, nuevo, pendiente⟩ := sola
  obtain ⟨vueltas, byte, detras, -⟩ := alDia
  refine ⟨completos, acaba, indice, rango, vuelta, ⟨vueltas, byte, ?_, ?_⟩, pedido, ask, nuevo,
    pendiente⟩
  · show 200 * lap + index ≤ s.anunciado
    omega
  · intro registro desde hasta
    change 200 * lap + index < registro at desde
    exact desdeCursor registro (by omega) hasta

/-- The marker that has been read. -/
def Sincronizacion.Leido (s : Sincronizacion) : Prop :=
  ∀ anterior ∈ s.older, anterior < 200 ∧ ¬ (s.lastRecordInMem < anterior ∧
    anterior / 8 = s.lastRecordInMem / 8 ∧ anterior % 8 ≠ 7)

theorem correcto_continua (sola : s.Sola) (subido : s.CursorSubido) (leido : s.Leido)
    {index lap : Nat} (rango : index < 200) (antes : 200 * lap + index + 1 = s.cursor) :
    (Sincronizacion.continua { s with recordIndex := index, recordLap := lap }).Correcto := by
  obtain ⟨suyo, cerca, cuenta⟩ := subido
  have atras := sola.atras suyo rango antes
  have detras := sola.alDia.detras
  have indice := sola.indice
  unfold Sincronizacion.continua
  dsimp only
  by_cases sigue : index < s.lastRecordInMem ∨ index / 8 > s.lastRecordInMem / 8
  · rw [if_pos sigue]
    -- the newest record lies less than a whole lap ahead
    have dentro : s.anunciado < 200 * lap + index + 200 := by
      omega
    have menos : s.peticiones + 1 ≤ 2 * (s.anunciado - (200 * lap + index)) := by
      omega
    have acaba : s.peticiones + 1 ≤ 399 := by
      omega
    exact atras.pregunta acaba ⟨dentro, Nat.le_trans menos (Nat.le_add_right _ _)⟩
  · rw [if_neg sigue]
    refine atras.escribeOlder fun anterior esta => ?_
    obtain ⟨enRango, noDelante⟩ := leido anterior esta
    have hasta := posicion_last atras.indice
    rw [hasta]
    refine completo_of_subidos (sola.desdeCursor suyo) ?_
    unfold distancia
    dsimp only
    omega

/-- Behind a record that has been written, the charger goes one record back, or
advances the marker. -/
theorem correcto_compara (sola : s.Sola) (subido : s.CursorSubido) (leido : s.Leido)
    (suyo : ∀ anterior ∈ s.older, anterior = s.olderRecordInFb) : s.compara.Correcto := by
  have detras := sola.alDia.detras
  have vuelta := sola.alDia.vuelta
  have indice := sola.indice
  have rango := sola.rango
  have desdeCursor := sola.desdeCursor subido.1
  have cerca := subido.2.1
  have cursor : s.cursor = 200 * s.recordLap + s.recordIndex := rfl
  have hasta := posicion_last indice
  unfold Sincronizacion.compara
  by_cases siguiente : s.recordIndex = s.olderRecordInFb + 1
  · rw [if_pos siguiente]
    refine sola.escribeOlder fun anterior esta => ?_
    rw [hasta]
    refine completo_of_subidos desdeCursor ?_
    have igual := suyo anterior esta
    unfold distancia
    omega
  · rw [if_neg siguiente]
    by_cases positivo : 0 < s.recordIndex
    · rw [if_pos positivo]
      exact correcto_continua sola subido leido (by omega) (by omega)
    · rw [if_neg positivo]
      by_cases otraVuelta : 1 ≤ s.lastRecordLap
      · rw [if_pos otraVuelta]
        exact correcto_continua sola subido leido (by decide) (by omega)
      · rw [if_neg otraVuelta]
        have sigue : { s with askForNewRecord := false } = s := by
          rw [← sola.ask]
        rw [sigue]
        refine sola.escribeOlder fun anterior _ => ?_
        rw [hasta]
        -- all records of the first lap have been uploaded
        have primero : s.cursor = 0 := by
          omega
        refine fun registro menor _ => desdeCursor registro ?_ menor
        rw [primero]
        exact Nat.zero_le _

/-- There was no marker, and it was taken for zero. -/
theorem correcto_compara_cero (sola : s.Sola) (subido : s.CursorSubido)
    (cero : s.olderRecordInFb = 0) (older : ∀ anterior ∈ s.older, anterior = 0) :
    s.compara.Correcto := by
  refine correcto_compara sola subido ?_ ?_
  · intro anterior esta
    rw [older anterior esta]
    exact ⟨by decide, fun delante => Nat.not_lt_zero _ delante.1⟩
  · intro anterior esta
    rw [older anterior esta, cero]

theorem correcto_fracasa (sola : s.Sola) (cadena : s.EnCadena) : s.fracasa.Correcto := by
  obtain ⟨cerca, cuenta⟩ := cadena
  unfold Sincronizacion.fracasa
  by_cases retry : s.retryEnable = true
  · rw [if_pos retry]
    rw [if_pos retry] at cuenta
    have acaba : s.peticiones + 1 ≤ 399 := by
      omega
    exact sola.pregunta acaba ⟨cerca, Nat.add_le_add_right cuenta 1⟩
  · rw [if_neg retry]
    exact (sola.propias _ s.retryEnable s.olderRecordInFb s.older).correcto trivial

/-- The request for a record ends. -/
theorem correcto_historico (sola : s.Sola) {subida : Subida}
    (suya : subida = ⟨s.recordIndex, s.recordLap, s.cursor⟩) (cadena : s.EnCadena)
    {r : Respuesta} (aplicado : r.ok = true → r.aplicado = true) :
    Sincronizacion.Correcto (if r.ok then (s.sube subida r).escrito
      else { s.sube subida r with fb := .historicoOtraVez subida }) := by
  have sube := sola.sube subida r
  by_cases hecho : r.ok = true
  · rw [if_pos hecho]
    refine (sube.propias .lastSynced true s.olderRecordInFb s.older).correcto ?_
    have subido := sola.subido (aplicado hecho)
    rw [← suya] at subido
    refine ⟨subido, cadena.1, Nat.le_trans cadena.2 (Nat.add_le_add_left ?_ _)⟩
    split_ifs
    · exact Nat.zero_le 1
    · exact Nat.le_refl 1
  · rw [if_neg hecho]
    exact (sube.propias (.historicoOtraVez subida) s.retryEnable s.olderRecordInFb s.older).correcto
      ⟨suya, cadena⟩

/-- The task is through with the marker. -/
theorem Sincronizacion.Correcto.conLibre (correcto : s.Correcto)
    {fb : Fb} (libre : fb = .writeOlderTs ∨ fb = .reposo) (older : Option Nat)
    {avances : List Avance} (completos : ∀ a ∈ avances, a.Completo) :
    Sincronizacion.Correcto { s with fb := fb, older := older, avances := avances } := by
  have despues : fb.libre = true := by
    rcases libre with rfl | rfl
    · rfl
    · rfl
  constructor
  case completos => exact completos
  case acaba => exact correcto.acaba
  case indice => exact correcto.indice
  case rango => exact correcto.rango
  case sinVuelta => exact correcto.sinVuelta
  case alDia =>
    intro vuelta
    obtain ⟨lap, byte, detras, subidos⟩ := correcto.alDia vuelta
    exact ⟨lap, byte, detras, subidos⟩
  case espera => exact correcto.espera
  case ocupado =>
    intro ocupada
    refine correcto.ocupado fun libre => ocupada ⟨libre.1, libre.2.1, despues⟩
  case bloque =>
    intro algo
    obtain ⟨buffer, cadena, -⟩ := correcto.bloque algo
    exact ⟨buffer, cadena, despues⟩
  case unico => exact correcto.unico
  case promesa =>
    rcases libre with rfl | rfl
    · trivial
    · trivial

/-- The marker is advanced, or not. -/
theorem correcto_avanza (correcto : s.Correcto) {m hasta : Nat} (fb : s.fb = .writeOlder m hasta)
    (r : Respuesta) {libre : Fb} (queda : libre = .writeOlderTs ∨ libre = .reposo) :
    Sincronizacion.Correcto { s.avanza m hasta r with fb := libre } := by
  have promesa := correcto.promesa
  rw [fb] at promesa
  unfold Sincronizacion.avanza
  by_cases hecho : r.aplicado = true
  · rw [if_pos hecho]
    refine correcto.conLibre queda (some m) ?_
    cases older : s.older with
    | none => exact correcto.completos
    | some anterior =>
        intro a esta
        rcases List.mem_append.mp esta with otro | nuevo
        · exact correcto.completos a otro
        · rw [List.mem_singleton.mp nuevo]
          exact promesa anterior older
  · rw [if_neg hecho]
    exact correcto.conLibre queda s.older correcto.completos

/-- A request in a row of requests ends: the next one follows, or none. -/
theorem Sincronizacion.Sola.sigue (sola : s.Sola) (fb : Fb) (promesa : s.Promesa fb)
    (r : Respuesta) : Sincronizacion.Correcto { s with fb := if r.ok then fb else .reposo } := by
  refine (sola.propias _ s.retryEnable s.olderRecordInFb s.older).correcto ?_
  dsimp only
  split_ifs
  · exact promesa
  · trivial

/-- The marker is read: behind it the charger goes back, or takes it for zero.  When
it cannot be read it gets the record that has been written. -/
theorem correcto_readOlder (sola : s.Sola) (subido : s.CursorSubido) {r : Respuesta}
    (real : r.ok = true → r.marca = s.older)
    (leido : ∀ anterior ∈ s.older,
      if r.ok then
        anterior < 200 ∧ ¬ (s.lastRecordInMem < anterior ∧
          anterior / 8 = s.lastRecordInMem / 8 ∧ anterior % 8 ≠ 7)
      else distancia anterior s.recordIndex ≤ 1) :
    Sincronizacion.Correcto (if r.ok then
        match r.marca with
        | some older => Sincronizacion.compara { s with olderRecordInFb := older }
        | none => { s with olderRecordInFb := 0, fb := .olderPorDefecto }
      else s.escribeOlder s.recordIndex) := by
  by_cases hecho : r.ok = true
  · rw [if_pos hecho, real hecho]
    cases older : s.older with
    | none =>
        exact (sola.propias .olderPorDefecto s.retryEnable 0 none).correcto ⟨subido, rfl, rfl⟩
    | some anterior =>
        have aqui := leido anterior older
        rw [if_pos hecho] at aqui
        refine correcto_compara (sola.propias s.fb s.retryEnable anterior (some anterior))
          subido ?_ ?_
        · intro otro esta
          cases esta
          exact aqui
        · intro otro esta
          cases esta
          rfl
  · rw [if_neg hecho]
    refine sola.escribeOlder fun anterior esta => ?_
    have cabe := leido anterior esta
    rw [if_neg hecho] at cabe
    rw [posicion_cursor sola.rango sola.alDia.detras subido.2.1]
    refine completo_of_subidos (fun registro desde hasta => ?_)
      (show distancia anterior s.recordIndex + s.cursor ≤ s.cursor + 1 by omega)
    rw [Nat.le_antisymm hasta desde]
    exact subido.1

/-- The marker that was missing is written. -/
theorem correcto_olderPorDefecto (sola : s.Sola) (subido : s.CursorSubido)
    (cero : s.olderRecordInFb = 0) (older : s.older = none) (r : Respuesta) :
    Sincronizacion.Correcto (if r.ok then
        { s.avanza 0 (s.posicion 0) r with fb := .olderPorDefectoTs }
      else (s.avanza 0 (s.posicion 0) r).compara) := by
  obtain ⟨otro, avanza, suyo⟩ : ∃ otro, s.avanza 0 (s.posicion 0) r = { s with older := otro } ∧
      ∀ anterior ∈ otro, anterior = 0 := by
    unfold Sincronizacion.avanza
    split_ifs
    · exact ⟨some 0, by rw [older], fun _ esta => (Option.mem_some_iff.mp esta).symm⟩
    · exact ⟨none, by rw [← older], fun _ nada => nomatch nada⟩
  rw [avanza]
  split_ifs
  · exact (sola.propias .olderPorDefectoTs s.retryEnable s.olderRecordInFb otro).correcto
      ⟨subido, cero, suyo⟩
  · exact correcto_compara_cero (sola.propias s.fb s.retryEnable s.olderRecordInFb otro) subido
      cero suyo

theorem correcto_responde (correcto : s.Correcto) {r : Respuesta}
    (limpio : s.Limpio (.responde r)) : (s.responde r).Correcto := by
  have promesa := correcto.promesa
  have sola := correcto.sola
  unfold Sincronizacion.responde
  cases fb : s.fb with
  | reposo => exact correcto
  | esperaPermiso => exact correcto
  | historico subida =>
      rw [fb] at promesa sola
      exact correcto_historico (sola rfl) promesa.1 promesa.2 (limpio.1 (by rw [fb]; rfl))
  | historicoOtraVez subida =>
      rw [fb] at promesa sola
      exact correcto_fracasa ((sola rfl).sube subida r) promesa.2
  | lastSynced =>
      rw [fb] at promesa sola
      exact (sola rfl).sigue .lastSyncedTs promesa r
  | lastSyncedTs =>
      rw [fb] at promesa sola
      exact (sola rfl).sigue .readOlder promesa r
  | readOlder =>
      rw [fb] at promesa sola
      obtain ⟨real, leido⟩ := limpio.2 fb
      exact correcto_readOlder (sola rfl) promesa real leido
  | olderPorDefecto =>
      rw [fb] at promesa sola
      obtain ⟨subido, cero, older⟩ := promesa
      exact correcto_olderPorDefecto (sola rfl) subido cero older r
  | olderPorDefectoTs =>
      rw [fb] at promesa sola
      obtain ⟨subido, cero, older⟩ := promesa
      exact correcto_compara_cero (sola rfl) subido cero older
  | writeOlder m hasta =>
      refine correcto_avanza correcto fb r ?_
      split_ifs
      · exact .inl rfl
      · exact .inr rfl
  | writeOlderTs => exact correcto.conLibre (.inr rfl) s.older correcto.completos

theorem correcto_energyRecord (correcto : s.Correcto) {registro : Nat}
    (limpio : s.Limpio (.energyRecord registro)) : (s.energyRecord registro).Correcto := by
  obtain ⟨pedido, vuelta, index, lap⟩ := limpio
  have libre : s.Libre := by
    by_contra ocupada
    obtain ⟨-, otra, -⟩ := correcto.ocupado ocupada
    exact Bool.false_ne_true (otra.symm.trans pedido)
  have alDia := correcto.alDia vuelta
  have suyo : registro = s.cursor := by
    unfold Sincronizacion.cursor
    omega
  constructor
  case completos => exact correcto.completos
  case acaba => exact correcto.acaba
  case indice => exact correcto.indice
  case rango => exact correcto.rango
  case sinVuelta => exact correcto.sinVuelta
  case alDia => exact fun _ => ⟨alDia.vuelta, alDia.byte, alDia.detras, alDia.subidos⟩
  case espera =>
    rintro - (otro | otro)
    · cases otro
    · cases otro
  case ocupado => exact fun _ => ⟨vuelta, rfl, rfl⟩
  case bloque => exact fun _ => ⟨suyo, correcto.espera vuelta (.inl pedido), libre.2.2⟩
  case unico => exact fun _ => libre.2.1
  case promesa => exact promesa_of_libre correcto.promesa libre.2.2 rfl rfl

theorem correcto_recLast (correcto : s.Correcto) {registro : Nat}
    (limpio : s.Limpio (.recLast registro)) : (s.recLast registro).Correcto := by
  have libre : (s.recLast registro).Libre := limpio
  refine libre.correcto correcto.completos (Nat.zero_le _) rfl (Nat.mod_lt _ (by decide))
    (fun _ => rfl) ?_ ?_ ?_
  · exact fun falta => nomatch falta
  · exact fun falta => nomatch falta
  · exact promesa_of_libre correcto.promesa limpio.2.2 rfl rfl

theorem correcto_inicializacion (correcto : s.Correcto) {registro : Nat}
    (limpio : s.Limpio (.inicializacion registro)) : (s.inicializacion registro).Correcto := by
  obtain ⟨libre, byte⟩ := limpio
  have libre' : (s.inicializacion registro).Libre := libre
  have cursor : (s.inicializacion registro).cursor = registro := by
    show 200 * (registro / 200 % 256) + registro % 200 = registro
    omega
  have vuelta : registro / 200 % 256 = registro / 200 := Nat.mod_eq_of_lt byte
  refine libre'.correcto correcto.completos (Nat.zero_le _) rfl (Nat.mod_lt _ (by decide))
    (fun _ => rfl) ?_ ?_ ?_
  · intro _
    refine ⟨vuelta, Nat.mod_lt _ (by decide), Nat.le_of_eq cursor, ?_⟩
    intro otro desde hasta
    change otro ≤ registro at hasta
    omega
  · intro _ _
    refine ⟨?_, Nat.zero_le _⟩
    show registro < (s.inicializacion registro).cursor + 200
    omega
  · exact promesa_of_libre correcto.promesa libre.2.2 rfl rfl

theorem correcto_recLaps (correcto : s.Correcto) {registro : Nat}
    (limpio : s.Limpio (.recLaps registro)) : (s.recLaps registro).Correcto := by
  obtain ⟨libre, rfl, byte, vuelta, detras⟩ := limpio
  have libre' : (s.recLaps s.anunciado).Libre := libre
  have indice := correcto.indice
  have lap : (s.recLaps s.anunciado).lastRecordLap = s.anunciado / 200 := by
    show (if s.anunciado / 200 % 256 = s.lastRecordLap ∨
      s.anunciado / 200 % 256 = s.lastRecordLap + 1 then s.anunciado / 200 % 256
      else s.lastRecordLap) = s.anunciado / 200
    rw [Nat.mod_eq_of_lt byte, if_pos vuelta]
  have cursor : (s.recLaps s.anunciado).cursor = 200 * (s.anunciado / 200) + s.recordIndex := by
    rw [← lap]
    rfl
  refine libre'.correcto correcto.completos (Nat.zero_le _) indice correcto.rango ?_ ?_ ?_ ?_
  · exact fun falta => nomatch falta
  · intro _
    refine ⟨lap, lap ▸ byte, ?_, ?_⟩
    · show (s.recLaps s.anunciado).cursor ≤ s.anunciado
      omega
    · intro otro desde hasta
      change otro ≤ s.anunciado at hasta
      show Subido s.subidas otro
      cases antes : s.vueltaAnunciada with
      | false =>
          have igual := correcto.sinVuelta antes
          omega
      | true =>
          have alDia := correcto.alDia antes
          have menor := alDia.detras
          refine alDia.subidos otro ?_ hasta
          have abierto : s.cursor = 200 * s.recordLap + s.recordIndex := rfl
          omega
  · intro _ _
    refine ⟨?_, Nat.zero_le _⟩
    show s.anunciado < (s.recLaps s.anunciado).cursor + 200
    omega
  · exact promesa_of_libre correcto.promesa libre.2.2 rfl rfl

theorem correcto_toma (correcto : s.Correcto) {ble : Bool} : (s.toma ble).Correcto := by
  unfold Sincronizacion.toma
  by_cases nuevo : s.newRecordReceived = true
  · rw [if_pos nuevo]
    have ocupada : ¬ s.Libre := fun libre => Bool.false_ne_true (libre.1.symm.trans nuevo)
    have alDia := correcto.alDia (correcto.ocupado ocupada).1
    have bloque := correcto.bloque (.inl nuevo)
    constructor
    case completos => exact correcto.completos
    case acaba => exact correcto.acaba
    case indice => exact correcto.indice
    case rango => exact correcto.rango
    case sinVuelta => exact correcto.sinVuelta
    case alDia => exact fun _ => ⟨alDia.vuelta, alDia.byte, alDia.detras, alDia.subidos⟩
    case espera => exact correcto.espera
    case ocupado => exact fun _ => correcto.ocupado ocupada
    case bloque => exact fun _ => bloque
    case unico => exact fun otro => nomatch otro
    case promesa => exact promesa_of_libre correcto.promesa bloque.2.2 rfl rfl
  · rw [if_neg nuevo]
    exact correcto

theorem correcto_tomaTrigger (correcto : s.Correcto) (limpio : s.Limpio .tomaTrigger) :
    s.tomaTrigger.Correcto := by
  unfold Sincronizacion.tomaTrigger
  by_cases trigger : s.recordsTrigger = true
  · rw [if_pos trigger]
    have libre := limpio trigger
    have indice := correcto.indice
    have libre' : Sincronizacion.Libre { s with
        recordsTrigger := false
        recordIndex := s.lastRecordInMem
        recordLap := s.lastRecordLap
        askForNewRecord := true
        peticiones := 0 } := libre
    have cursor (vuelta : s.vueltaAnunciada = true) :
        200 * s.lastRecordLap + s.lastRecordInMem = s.anunciado := by
      have lap := (correcto.alDia vuelta).vuelta
      omega
    refine libre'.correcto correcto.completos (Nat.zero_le _) indice ?_ (fun _ => rfl) ?_ ?_ ?_
    · show s.lastRecordInMem < 200
      omega
    · intro vuelta
      have alDia := correcto.alDia vuelta
      refine ⟨alDia.vuelta, alDia.byte, Nat.le_of_eq (cursor vuelta), ?_⟩
      intro registro desde hasta
      change 200 * s.lastRecordLap + s.lastRecordInMem < registro at desde
      rw [cursor vuelta] at desde
      exact absurd hasta (Nat.not_le.mpr desde)
    · intro vuelta _
      refine ⟨?_, Nat.zero_le _⟩
      show s.anunciado < 200 * s.lastRecordLap + s.lastRecordInMem + 200
      rw [cursor vuelta]
      omega
    · exact promesa_of_libre correcto.promesa libre.2.2 rfl rfl
  · rw [if_neg trigger]
    exact correcto

theorem correcto_pide (correcto : s.Correcto) : s.pide.Correcto := by
  unfold Sincronizacion.pide
  by_cases ask : s.askForNewRecord = true
  · rw [if_pos ask]
    have libre : s.Libre := by
      by_contra ocupada
      exact Bool.false_ne_true ((correcto.ocupado ocupada).2.2.symm.trans ask)
    have libre' : Sincronizacion.Libre { s with pedido := true } := libre
    refine libre'.correcto correcto.completos correcto.acaba correcto.indice correcto.rango
      correcto.sinVuelta ?_ ?_ ?_
    · intro vuelta
      have alDia := correcto.alDia vuelta
      exact ⟨alDia.vuelta, alDia.byte, alDia.detras, alDia.subidos⟩
    · exact fun vuelta _ => correcto.espera vuelta (.inr ask)
    · exact promesa_of_libre correcto.promesa libre.2.2 rfl rfl
  · rw [if_neg ask]
    exact correcto

theorem correcto_trigger (correcto : s.Correcto) {valor : Bool} : (s.trigger valor).Correcto := by
  unfold Sincronizacion.trigger
  by_cases reposo : s.fb = .reposo
  · rw [if_pos reposo]
    have libre : s.fb.libre = true := by
      rw [reposo]
      rfl
    constructor
    case completos => exact correcto.completos
    case acaba => exact correcto.acaba
    case indice => exact correcto.indice
    case rango => exact correcto.rango
    case sinVuelta => exact correcto.sinVuelta
    case alDia =>
      intro vuelta
      have alDia := correcto.alDia vuelta
      exact ⟨alDia.vuelta, alDia.byte, alDia.detras, alDia.subidos⟩
    case espera => exact correcto.espera
    case ocupado => exact correcto.ocupado
    case bloque => exact correcto.bloque
    case unico => exact correcto.unico
    case promesa => exact promesa_of_libre correcto.promesa libre rfl rfl
  · rw [if_neg reposo]
    exact correcto

theorem correcto_empieza (correcto : s.Correcto) {bloqueado idle : Bool}
    (limpio : s.Limpio (.empieza bloqueado idle)) : (s.empieza bloqueado idle).Correcto := by
  unfold Sincronizacion.empieza
  by_cases empieza : s.fb = .reposo ∧ s.recordPendingForWrite = true
  · rw [if_pos empieza]
    obtain ⟨reposo, pendiente⟩ := empieza
    have ocupada : ¬ s.Libre := fun libre => Bool.false_ne_true (libre.2.1.symm.trans pendiente)
    obtain ⟨vuelta, pedido, ask⟩ := correcto.ocupado ocupada
    obtain ⟨buffer, cadena, -⟩ := correcto.bloque (.inr pendiente)
    have alDia := correcto.alDia vuelta
    have nuevo : s.newRecordReceived = false := Bool.of_not_eq_true fun nuevo =>
      Bool.false_ne_true ((correcto.unico nuevo).symm.trans pendiente)
    have sola : Sincronizacion.Sola { s with recordPendingForWrite := false } :=
      ⟨correcto.completos, correcto.acaba, correcto.indice, correcto.rango, vuelta,
        ⟨alDia.vuelta, alDia.byte, alDia.detras, alDia.subidos⟩, pedido, ask, nuevo, rfl⟩
    dsimp only
    split_ifs with noEscribe escribe
    · exact correcto_fracasa sola cadena
    · refine (sola.propias (.historico ⟨s.recordIndex, s.recordLap, s.buffer⟩) s.retryEnable
        s.olderRecordInFb s.older).correcto ⟨?_, cadena⟩
      rw [buffer]
      rfl
    · have alguno := limpio reposo pendiente
      rw [Bool.of_not_eq_true noEscribe, Bool.of_not_eq_true escribe] at alguno
      cases alguno
  · rw [if_neg empieza]
    exact correcto

theorem correcto_caduca (correcto : s.Correcto) : s.caduca.Correcto := by
  unfold Sincronizacion.caduca
  by_cases espera : s.fb = .esperaPermiso
  · have promesa := correcto.promesa
    rw [espera] at promesa
    exact promesa.elim
  · rw [if_neg espera]
    exact correcto

/-- One step without faults. -/
theorem Sincronizacion.Correcto.paso (correcto : s.Correcto) {evento : Evento}
    (limpio : s.Limpio evento) : (s.paso evento).Correcto := by
  cases evento with
  | energyRecord registro => exact correcto_energyRecord correcto limpio
  | recLast registro => exact correcto_recLast correcto limpio
  | recLaps registro => exact correcto_recLaps correcto limpio
  | inicializacion registro => exact correcto_inicializacion correcto limpio
  | toma ble => exact correcto_toma correcto
  | tomaTrigger => exact correcto_tomaTrigger correcto limpio
  | pide => exact correcto_pide correcto
  | trigger valor => exact correcto_trigger correcto
  | empieza bloqueado idle => exact correcto_empieza correcto limpio
  | caduca => exact correcto_caduca correcto
  | responde r => exact correcto_responde correcto limpio

end Pasos

theorem correcto_arranque (older : Option Nat) (subidas : List Subida) :
    (Sincronizacion.arranque older subidas).Correcto := by
  have libre : (Sincronizacion.arranque older subidas).Libre := ⟨rfl, rfl, rfl⟩
  refine libre.correcto (fun _ nada => nomatch nada) (Nat.zero_le _) rfl
    (Nat.zero_lt_succ 199) (fun _ => rfl) ?_ ?_ trivial
  · exact fun falta => nomatch falta
  · exact fun falta => nomatch falta

instance decidableLimpio (s : Sincronizacion) : ∀ evento, Decidable (s.Limpio evento)
  | .energyRecord _ => inferInstanceAs (Decidable (_ ∧ _))
  | .recLast _ => inferInstanceAs (Decidable s.Libre)
  | .recLaps _ => inferInstanceAs (Decidable (_ ∧ _))
  | .inicializacion _ => inferInstanceAs (Decidable (_ ∧ _))
  | .toma _ => inferInstanceAs (Decidable True)
  | .tomaTrigger => inferInstanceAs (Decidable (_ → _))
  | .pide => inferInstanceAs (Decidable True)
  | .trigger _ => inferInstanceAs (Decidable True)
  | .empieza _ _ => inferInstanceAs (Decidable (_ → _ → _))
  | .caduca => inferInstanceAs (Decidable True)
  | .responde r => inferInstanceAs (Decidable ((_ → _ → _) ∧ (_ → (_ → _) ∧
      ∀ anterior ∈ s.older, if r.ok then anterior < 200 ∧ ¬ (s.lastRecordInMem < anterior ∧
        anterior / 8 = s.lastRecordInMem / 8 ∧ anterior % 8 ≠ 7)
      else distancia anterior s.recordIndex ≤ 1)))

/-- A record comes, and every request about it is answered. -/
def llegaYSeEscribe (registro : Nat) : List Evento :=
  [.energyRecord registro, .toma false, .empieza false true, .responde ⟨true, true, none⟩,
    .responde ⟨true, true, none⟩, .responde ⟨true, true, none⟩, .responde ⟨true, true, some 2⟩]

/-- Record 5 is announced when the marker is at 2. -/
def tresRegistros : List Evento :=
  [.recLast 5, .recLaps 5] ++ llegaYSeEscribe 5 ++ [.pide] ++ llegaYSeEscribe 4 ++ [.pide] ++
    llegaYSeEscribe 3 ++ [.responde ⟨true, true, none⟩]

/-- The same announcement; the marker cannot be read, but it can be written. -/
def sinLeerMarca : List Evento :=
  [.recLast 5, .recLaps 5, .energyRecord 5, .toma false, .empieza false true,
    .responde ⟨true, true, none⟩, .responde ⟨true, true, none⟩, .responde ⟨true, true, none⟩,
    .responde ⟨false, false, none⟩, .responde ⟨true, true, none⟩]

end VeltiumCharger.Registros
