import Mathlib.Tactic.Common
import VeltiumCharger.Library.Run

/-!
# Commands from the database

An application writes its orders into `/control` and then a larger `ts_app_req`.
The charger reads the timestamp; when it is new it reads the orders, takes them into
`Comands`, resets `/control` with a request of its own and acknowledges.  The
application, the requests of the charger and its other tasks come in any order.  A
request of the charger may fail, a read takes whatever the answer leaves in the
document, which nothing checks, and the reset may be done late or never.
-/

namespace VeltiumCharger.Nube

open VeltiumCharger.Run

/-- The orders of the application: the flags, and a `desired_current` above 6. -/
inductive Orden
  | start
  | stop
  | reset
  | fwUpdate
  | corriente (desiredCurrent : Nat) (alto : 6 < desiredCurrent)
  deriving DecidableEq, Repr

/-- `/control` in the database. -/
structure Control where
  start : Bool
  stop : Bool
  reset : Bool
  fwUpdate : Bool
  connLock : Bool
  desiredCurrent : Nat
  tsAppReq : Nat
  deriving DecidableEq, Repr

/-- `Comands` -/
structure Comands where
  start : Bool
  stop : Bool
  reset : Bool
  fwUpdate : Bool
  connLock : Bool
  desiredCurrent : Nat
  newdata : Bool
  deriving DecidableEq, Repr

/-- `Comands` when the charger starts. -/
def Comands.inicial : Comands :=
  ⟨false, false, false, false, false, 0, false⟩

/-- The application writes an order. -/
def Control.escribe (db : Control) : Orden → Control
  | .start => { db with start := true }
  | .stop => { db with stop := true }
  | .reset => { db with reset := true }
  | .fwUpdate => { db with fwUpdate := true }
  | .corriente desiredCurrent _ => { db with desiredCurrent := desiredCurrent }

/-- The body of `WriteFirebaseControl`, with the setpoint of the charger. -/
def Control.borra (db : Control) (desiredCurrent : Nat) : Control :=
  { db with
    start := false
    stop := false
    reset := false
    fwUpdate := false
    desiredCurrent := desiredCurrent }

/-- The order is in the database. -/
def Orden.presente (db : Control) : Orden → Bool
  | .start => db.start
  | .stop => db.stop
  | .reset => db.reset
  | .fwUpdate => db.fwUpdate
  | .corriente desiredCurrent _ => db.desiredCurrent == desiredCurrent

/-- The order is in `Comands`: its flag is set, or the setpoint is there with
`Newdata`. -/
def Orden.tomada (comands : Comands) : Orden → Bool
  | .start => comands.start
  | .stop => comands.stop
  | .reset => comands.reset
  | .fwUpdate => comands.fwUpdate
  | .corriente desiredCurrent _ => comands.desiredCurrent == desiredCurrent && comands.newdata

/-- A number of the database as a byte. -/
def comoByte (valor : Nat) : Nat :=
  if valor < 256 then valor else 0

/-- What `ReadFirebaseControl` takes of the orders it has read. -/
def Comands.lee (c : Comands) (groupActive : Bool) (lectura : Control) : Comands :=
  let nueva := c.desiredCurrent ≠ lectura.desiredCurrent ∧ c.newdata = false ∧
    6 < lectura.desiredCurrent ∧ groupActive = false
  { start := lectura.start || c.start
    stop := lectura.stop || c.stop
    reset := lectura.reset || c.reset
    fwUpdate := lectura.fwUpdate || c.fwUpdate
    connLock := lectura.connLock || c.connLock
    desiredCurrent := if nueva then comoByte lectura.desiredCurrent else c.desiredCurrent
    newdata := if nueva then true else c.newdata }

/-- A request of the application; whether its timestamp has been written, and
whether the charger has taken it. -/
structure Peticion where
  orden : Orden
  firmada : Bool
  tomada : Bool
  deriving DecidableEq, Repr

/-- The setpoint of an order. -/
def Orden.consigna : Orden → Option Nat
  | .corriente desiredCurrent _ => some desiredCurrent
  | _ => none

/-- The order is a setpoint, and so is the request, that has no timestamp yet. -/
def Peticion.sustituye (peticion : Peticion) (orden : Orden) : Bool :=
  !peticion.firmada && peticion.orden.consigna.isSome && orden.consigna.isSome

/-- Where `ReadFirebaseControl` is: what it has asked of the database. -/
inductive Fb
  | reposo
  | readControl (tsAppReq : Nat)
  | writeControl
  | controlEnviado
  | tsDevAck
  deriving DecidableEq, Repr

/-- A document without orders, such as that of an error: every field reads as `false`
or 0. -/
def Control.vacio : Control :=
  ⟨false, false, false, false, false, 0, 0⟩

/-- The database, the charger, and the resets of `/control` that are on their way,
with the setpoint they carry.  The requests of the application only record. -/
structure Mando where
  db : Control
  comands : Comands
  clientAuthenticated : Bool
  groupActive : Bool
  lastTsAppReq : Nat
  fb : Fb
  enVuelo : List Nat
  peticiones : List Peticion
  deriving DecidableEq, Repr

/-- A charger without a group when it starts, before the first request. -/
def Mando.inicial (db : Control) : Mando where
  db := db
  comands := .inicial
  clientAuthenticated := false
  groupActive := false
  lastTsAppReq := 0
  fb := .reposo
  enVuelo := []
  peticiones := []

namespace Mando

variable (s : Mando)

/-! ## The application -/

/-- An order is written.  A setpoint takes the place of one without its timestamp. -/
def escribe (orden : Orden) : Mando :=
  { s with
    db := s.db.escribe orden
    peticiones := s.peticiones.filter (fun peticion => !peticion.sustituye orden) ++
      [⟨orden, false, false⟩] }

/-- A timestamp is written, larger than the one before: that of all that has been
written. -/
def firma (mas : Nat) : Mando :=
  { s with
    db := { s.db with tsAppReq := s.db.tsAppReq + mas + 1 }
    peticiones := s.peticiones.map fun peticion => { peticion with firmada := true } }

/-! ## `ReadFirebaseControl` -/

/-- `Get_Timestamp`: the number that the answer begins with, 0 for none. -/
def leeTs (tsAppReq : Nat) : Mando :=
  if s.fb = .reposo ∧ s.lastTsAppReq < tsAppReq then
    { s with fb := .readControl tsAppReq }
  else s

/-- What has been read is taken. -/
def toma (tsAppReq : Nat) (lectura : Control) : Mando :=
  let comands := s.comands.lee s.groupActive lectura
  { s with
    lastTsAppReq := tsAppReq
    comands := comands
    clientAuthenticated := comands.start
    fb := .writeControl
    peticiones := s.peticiones.map fun peticion => { peticion with
      tomada := peticion.tomada ||
        peticion.orden.presente lectura && peticion.orden.tomada comands } }

/-- The end of the request for the orders: it fails, or leaves a document.  That has
the orders of the database, or what is left of them in an answer that is cut, or none
in an answer with an error. -/
def leeControl (lectura : Option Control) : Mando :=
  match s.fb with
  | .readControl tsAppReq =>
    match lectura with
    | none => { s with fb := .reposo }
    | some lectura => s.toma tsAppReq lectura
  | _ => s

/-- The reset is sent; then it ends, done or not, and so does the acknowledgement. -/
def sigue : Mando :=
  match s.fb with
  | .writeControl =>
    { s with fb := .controlEnviado, enVuelo := s.enVuelo ++ [s.comands.desiredCurrent] }
  | .controlEnviado => { s with fb := .tsDevAck }
  | .tsDevAck => { s with fb := .reposo }
  | _ => s

/-! ## The database -/

/-- A reset on its way is done. -/
def aplica (i : Nat) : Mando :=
  match s.enVuelo[i]? with
  | some desiredCurrent =>
    { s with db := s.db.borra desiredCurrent, enVuelo := s.enVuelo.eraseIdx i }
  | none => s

/-- A reset on its way is lost. -/
def pierde (i : Nat) : Mando :=
  { s with enVuelo := s.enVuelo.eraseIdx i }

/-! ## The other tasks -/

/-- `ESP.restart()` -/
def restart : Mando :=
  { s with
    comands := .inicial
    clientAuthenticated := false
    lastTsAppReq := 0
    fb := .reposo }

/-- `controlTask` sends an order to the other processor; a stop and a setpoint stay
until they are echoed. -/
def controlTask : Mando :=
  if s.comands.start then { s with comands := { s.comands with start := false } }
  else if s.comands.stop then s
  else if s.comands.newdata then s
  else if s.comands.reset then s.restart
  else s

/-- `CHARGING_BLE_MANUAL_START_CHAR_HANDLE` -/
def ecoStart : Mando :=
  { s with comands := { s.comands with start := false } }

/-- `CHARGING_BLE_MANUAL_STOP_CHAR_HANDLE` -/
def ecoStop : Mando :=
  { s with comands := { s.comands with stop := false } }

/-- `MEASURES_CURRENT_COMMAND_CHAR_HANDLE` -/
def currentCommand (corriente : UInt8) : Mando :=
  { s with comands := { s.comands with desiredCurrent := corriente.toNat, newdata := false } }

/-- `BLOQUE_INICIALIZACION` -/
def inicializacion (corriente : UInt8) : Mando :=
  { s with comands := { s.comands with desiredCurrent := corriente.toNat } }

/-- A flag set by the internal server, or by an update over BLE. -/
def ponFlag (orden : Orden) : Mando :=
  { s with comands := match orden with
      | .start => { s.comands with start := true }
      | .stop => { s.comands with stop := true }
      | .reset => { s.comands with reset := true }
      | .fwUpdate => { s.comands with fwUpdate := true }
      | .corriente _ _ => s.comands }

/-- `Firebase_Conn_Task` goes to `UPDATING`. -/
def empiezaUpdate : Mando :=
  { s with comands := { s.comands with fwUpdate := false } }

end Mando

/-- What the application, the database and the tasks do. -/
inductive Evento
  | escribe (orden : Orden)
  | firma (mas : Nat)
  | leeTs (tsAppReq : Nat)
  | leeControl (lectura : Option Control)
  | sigue
  | aplica (i : Nat)
  | pierde (i : Nat)
  | restart
  | controlTask
  | ecoStart
  | ecoStop
  | currentCommand (corriente : UInt8)
  | inicializacion (corriente : UInt8)
  | ponFlag (orden : Orden)
  | empiezaUpdate
  deriving DecidableEq, Repr

/-- One step. -/
def Mando.paso (s : Mando) : Evento → Mando
  | .escribe orden => s.escribe orden
  | .firma mas => s.firma mas
  | .leeTs tsAppReq => s.leeTs tsAppReq
  | .leeControl lectura => s.leeControl lectura
  | .sigue => s.sigue
  | .aplica i => s.aplica i
  | .pierde i => s.pierde i
  | .restart => s.restart
  | .controlTask => s.controlTask
  | .ecoStart => s.ecoStart
  | .ecoStop => s.ecoStop
  | .currentCommand corriente => s.currentCommand corriente
  | .inicializacion corriente => s.inicializacion corriente
  | .ponFlag orden => s.ponFlag orden
  | .empiezaUpdate => s.empiezaUpdate

/-- What is promised of a request of the application, once it has its timestamp: the
charger has taken it, or it is still in the database with a timestamp that the
charger has not recorded. -/
def Mando.Conservada (s : Mando) (peticion : Peticion) : Prop :=
  peticion.firmada = true → peticion.tomada = true ∨
    peticion.orden.presente s.db = true ∧ s.lastTsAppReq < s.db.tsAppReq

/-- No request is lost. -/
def Mando.Integro (s : Mando) : Prop :=
  ∀ peticion ∈ s.peticiones, s.Conservada peticion

/-- The request has its timestamp and has not been taken. -/
def Peticion.pendiente (peticion : Peticion) : Bool :=
  peticion.firmada && !peticion.tomada

/-- The least timestamp that the request has, or may still get. -/
def Peticion.ts (peticion : Peticion) (tsAppReq : Nat) : Nat :=
  if peticion.firmada then tsAppReq else tsAppReq + 1

/-- The charger takes an order that is in the database: any flag; a setpoint when none
is pending and it is a byte and another one than its own, or when the same one is
pending. -/
def Orden.admitida (comands : Comands) : Orden → Bool
  | .corriente desiredCurrent _ =>
    if comands.newdata then comands.desiredCurrent == desiredCurrent
    else comands.desiredCurrent != desiredCurrent && decide (desiredCurrent < 256)
  | _ => true

/-- The steps of a run without faults.  When an order is written the charger has not
recorded a timestamp ahead of the one in the database, and a setpoint is not written
over another one that is pending.  When the charger reads the orders, those that its
timestamp covers and that it has not taken are all in the document, and admitted.  A
reset is done when there is nothing that has not been taken but its own setpoint. -/
def Mando.Limpio (s : Mando) : Evento → Prop
  | .escribe orden =>
    s.lastTsAppReq ≤ s.db.tsAppReq ∧
      ∀ peticion ∈ s.peticiones, peticion.pendiente = true →
        ∀ nueva ∈ orden.consigna, ∀ vieja ∈ peticion.orden.consigna, vieja = nueva
  | .leeControl (some lectura) =>
    ∀ tsAppReq, s.fb = .readControl tsAppReq → ∀ peticion ∈ s.peticiones,
      peticion.tomada = false → peticion.ts s.db.tsAppReq ≤ tsAppReq →
        peticion.orden.presente lectura = true ∧ peticion.orden.admitida s.comands = true
  | .aplica i =>
    ∀ desiredCurrent ∈ s.enVuelo[i]?, ∀ peticion ∈ s.peticiones,
      peticion.tomada = false → peticion.orden.consigna = some desiredCurrent
  | _ => True

/-! ## What one step does -/

theorem Peticion.pendiente_iff {peticion : Peticion} :
    peticion.pendiente = true ↔ peticion.firmada = true ∧ peticion.tomada = false := by
  simp [pendiente]

namespace Mando

variable {s t : Mando}

/-- No request is lost, nor would be if its timestamp came now: those that have not been
taken are in the database, and the charger has not recorded their timestamp. -/
def Entero (s : Mando) : Prop :=
  ∀ peticion ∈ s.peticiones, peticion.tomada = false →
    peticion.orden.presente s.db = true ∧ s.lastTsAppReq < peticion.ts s.db.tsAppReq

theorem presente_firma (s : Mando) (mas : Nat) (orden : Orden) :
    orden.presente (s.firma mas).db = orden.presente s.db := by
  cases orden <;> rfl

theorem entero_iff : s.Entero ↔ s.Integro ∧ (s.firma 0).Integro := by
  constructor
  · intro entero
    constructor
    · intro peticion esta firmada
      cases tomada : peticion.tomada with
      | true => exact .inl rfl
      | false =>
        have sigue := entero peticion esta tomada
        rw [Peticion.ts, if_pos firmada] at sigue
        exact .inr sigue
    · intro peticion' esta' _
      obtain ⟨peticion, esta, rfl⟩ := List.mem_map.mp esta'
      cases tomada : peticion.tomada with
      | true => exact .inl rfl
      | false =>
        have ⟨presente, antes⟩ := entero peticion esta tomada
        refine .inr ⟨(presente_firma s 0 _).trans presente, Nat.lt_of_lt_of_le antes ?_⟩
        unfold Peticion.ts
        split_ifs
        · exact Nat.le_succ _
        · exact Nat.le_refl _
  · rintro ⟨integro, alFirmar⟩ peticion esta sinTomar
    unfold Peticion.ts
    split_ifs with firmada
    · exact (integro peticion esta firmada).resolve_left (by simp [sinTomar])
    · have ⟨presente, antes⟩ := (alFirmar _ (List.mem_map_of_mem esta) rfl).resolve_left
        (by simp [sinTomar])
      exact ⟨(presente_firma s 0 _).symm.trans presente, antes⟩

/-- A step that leaves the requests and the database; it may forget the last
timestamp. -/
structure Quieto (s t : Mando) : Prop where
  peticiones : t.peticiones = s.peticiones
  db : t.db = s.db
  groupActive : t.groupActive = s.groupActive
  ultimo : t.lastTsAppReq ≤ s.lastTsAppReq

theorem Quieto.refl (s : Mando) : s.Quieto s :=
  ⟨rfl, rfl, rfl, Nat.le_refl _⟩

theorem Quieto.entero (quieto : s.Quieto t) (entero : s.Entero) : t.Entero := by
  intro peticion esta sinTomar
  rw [quieto.peticiones] at esta
  rw [quieto.db]
  have ⟨presente, antes⟩ := entero peticion esta sinTomar
  exact ⟨presente, Nat.lt_of_le_of_lt quieto.ultimo antes⟩

theorem quieto_leeTs (s : Mando) (tsAppReq : Nat) : s.Quieto (s.leeTs tsAppReq) := by
  unfold leeTs
  split_ifs
  · exact ⟨rfl, rfl, rfl, Nat.le_refl _⟩
  · exact .refl s

theorem quieto_sigue (s : Mando) : s.Quieto s.sigue := by
  unfold sigue
  split
  · exact ⟨rfl, rfl, rfl, Nat.le_refl _⟩
  · exact ⟨rfl, rfl, rfl, Nat.le_refl _⟩
  · exact ⟨rfl, rfl, rfl, Nat.le_refl _⟩
  · exact .refl s

theorem quieto_restart (s : Mando) : s.Quieto s.restart :=
  ⟨rfl, rfl, rfl, Nat.zero_le _⟩

theorem quieto_controlTask (s : Mando) : s.Quieto s.controlTask := by
  unfold controlTask
  split_ifs
  · exact ⟨rfl, rfl, rfl, Nat.le_refl _⟩
  · exact .refl s
  · exact .refl s
  · exact quieto_restart s
  · exact .refl s

/-- A write leaves the flags where they are, and the setpoint if it is the same one. -/
theorem presente_escribe {db : Control} {otra : Orden} (presente : otra.presente db = true)
    (orden : Orden) :
    otra.presente (db.escribe orden) = true ↔
      ∀ nueva ∈ orden.consigna, ∀ vieja ∈ otra.consigna, vieja = nueva := by
  cases orden <;> cases otra <;>
    simp_all [Orden.presente, Control.escribe, Orden.consigna]
  exact ⟨Eq.symm, Eq.symm⟩

/-- An order that is written is in the database. -/
theorem presente_escribe_self (db : Control) (orden : Orden) :
    orden.presente (db.escribe orden) = true := by
  cases orden <;> simp [Orden.presente, Control.escribe]

theorem escribe_tsAppReq (s : Mando) (orden : Orden) :
    (s.escribe orden).db.tsAppReq = s.db.tsAppReq := by
  cases orden <;> rfl

/-- A request that no order takes the place of has its timestamp, or no setpoint, or the
order has none. -/
theorem not_sustituye_iff {peticion : Peticion} {orden : Orden} :
    peticion.sustituye orden = false ↔ (peticion.firmada = false →
      ∀ nueva ∈ orden.consigna, ∀ vieja ∈ peticion.orden.consigna, False) := by
  unfold Peticion.sustituye
  cases peticion.firmada <;> cases orden.consigna <;> cases peticion.orden.consigna <;> simp

theorem entero_escribe (entero : s.Entero) (orden : Orden) :
    (s.escribe orden).Entero ↔ s.Limpio (.escribe orden) := by
  have quedan (peticion : Peticion) (esta : peticion ∈ s.peticiones)
      (otra : peticion.sustituye orden = false) : peticion ∈ (s.escribe orden).peticiones :=
    List.mem_append_left _ (List.mem_filter.mpr ⟨esta, by simp [otra]⟩)
  constructor
  · intro despues
    obtain ⟨-, nuevo⟩ := despues ⟨orden, false, false⟩
      (List.mem_append_right _ (List.mem_singleton_self _)) rfl
    rw [escribe_tsAppReq] at nuevo
    refine ⟨Nat.le_of_lt_succ nuevo, fun peticion esta pendiente => ?_⟩
    obtain ⟨firmada, sinTomar⟩ := Peticion.pendiente_iff.mp pendiente
    have otra : peticion.sustituye orden = false :=
      not_sustituye_iff.mpr fun sinFirmar => by simp [firmada] at sinFirmar
    have presente := (entero peticion esta sinTomar).1
    exact (presente_escribe presente orden).mp
      (despues peticion (quedan peticion esta otra) sinTomar).1
  · rintro ⟨ultimo, iguales⟩ peticion esta sinTomar
    rw [escribe_tsAppReq]
    rcases List.mem_append.mp esta with vieja | nueva
    · obtain ⟨esta, otra⟩ := List.mem_filter.mp vieja
      have ⟨presente, antes⟩ := entero peticion esta sinTomar
      refine ⟨(presente_escribe presente orden).mpr ?_, antes⟩
      by_cases firmada : peticion.firmada = true
      · exact iguales peticion esta (Peticion.pendiente_iff.mpr ⟨firmada, sinTomar⟩)
      · intro nueva suya vieja otraSuya
        exact (not_sustituye_iff.mp (by simpa using otra) (by simpa using firmada)
          nueva suya vieja otraSuya).elim
    · rw [List.mem_singleton.mp nueva]
      exact ⟨presente_escribe_self s.db orden, Nat.lt_succ_of_le ultimo⟩

/-- A timestamp that comes is ahead of the one that has been recorded. -/
theorem entero_firma (entero : s.Entero) (mas : Nat) : (s.firma mas).Entero := by
  intro peticion' esta' sinTomar
  obtain ⟨peticion, esta, rfl⟩ := List.mem_map.mp esta'
  have ⟨presente, antes⟩ := entero peticion esta sinTomar
  refine ⟨(presente_firma s mas _).trans presente, Nat.lt_of_lt_of_le antes ?_⟩
  show peticion.ts s.db.tsAppReq ≤ s.db.tsAppReq + mas + 1
  unfold Peticion.ts
  split_ifs
  · omega
  · omega

/-- An order that is read is taken exactly when it is admitted. -/
theorem tomada_lee {lectura : Control} {orden : Orden} (presente : orden.presente lectura = true)
    (comands : Comands) :
    orden.tomada (comands.lee false lectura) = orden.admitida comands := by
  cases orden with
  | corriente desiredCurrent alto =>
    have esta : lectura.desiredCurrent = desiredCurrent := by simpa [Orden.presente] using presente
    cases pendiente : comands.newdata with
    | true => simp [Orden.tomada, Orden.admitida, Comands.lee, pendiente]
    | false =>
      by_cases misma : comands.desiredCurrent = desiredCurrent
      · simp [Orden.tomada, Orden.admitida, Comands.lee, esta, misma, pendiente]
      · -- what is stored is another number when it is not a byte
        by_cases byte : desiredCurrent < 256
        · simp [Orden.tomada, Orden.admitida, Comands.lee, comoByte, esta, misma, alto, byte,
            pendiente]
        · have otra : 0 ≠ desiredCurrent := by omega
          simp [Orden.tomada, Orden.admitida, Comands.lee, comoByte, esta, misma, alto, byte,
            pendiente, otra]
  | _ => simp_all [Orden.presente, Orden.tomada, Orden.admitida, Comands.lee]

/-- What a read with a timestamp leaves: the requests that it does not take are safe
only behind a newer timestamp. -/
theorem entero_toma (sinGrupo : s.groupActive = false) (entero : s.Entero) (tsAppReq : Nat)
    (lectura : Control) :
    (s.toma tsAppReq lectura).Entero ↔
      ∀ peticion ∈ s.peticiones, peticion.tomada = false →
        peticion.ts s.db.tsAppReq ≤ tsAppReq →
          peticion.orden.presente lectura = true ∧ peticion.orden.admitida s.comands = true := by
  have atendida (peticion : Peticion) :
      (peticion.orden.presente lectura &&
          peticion.orden.tomada (s.comands.lee s.groupActive lectura)) = true ↔
        peticion.orden.presente lectura = true ∧ peticion.orden.admitida s.comands = true := by
    rw [Bool.and_eq_true, sinGrupo]
    refine and_congr_right fun presente => ?_
    rw [tomada_lee presente]
  constructor
  · intro despues peticion esta sinTomar cubierta
    by_contra sinAtender
    rw [← atendida peticion, Bool.not_eq_true] at sinAtender
    obtain ⟨-, antes⟩ := despues _ (List.mem_map_of_mem esta) (by simp [sinTomar, sinAtender])
    exact absurd cubierta (Nat.not_le_of_lt antes)
  · intro atendidas peticion' esta' sinTomar'
    obtain ⟨peticion, esta, rfl⟩ := List.mem_map.mp esta'
    obtain ⟨sinTomar, sinAtender⟩ := Bool.or_eq_false_iff.mp sinTomar'
    refine ⟨(entero peticion esta sinTomar).1, ?_⟩
    by_contra cubierta
    rw [(atendida peticion).mpr (atendidas peticion esta sinTomar (Nat.le_of_not_lt cubierta))]
      at sinAtender
    cases sinAtender

theorem entero_leeControl (sinGrupo : s.groupActive = false) (entero : s.Entero)
    (lectura : Option Control) :
    (s.leeControl lectura).Entero ↔ s.Limpio (.leeControl lectura) := by
  cases enFb : s.fb with
  | readControl tsAppReq =>
    cases lectura with
    | none =>
      have queda : (s.leeControl none).Entero := by
        simp only [leeControl, enFb]
        exact entero
      exact iff_of_true queda trivial
    | some lectura =>
      simp only [leeControl, Limpio, enFb, Fb.readControl.injEq, forall_eq']
      exact entero_toma sinGrupo entero tsAppReq lectura
  | _ =>
    have queda : (s.leeControl lectura).Entero := by
      simp only [leeControl, enFb]
      exact entero
    refine iff_of_true queda ?_
    cases lectura <;> simp [Limpio, enFb]

/-- A reset leaves the setpoint that it carries, and nothing else. -/
theorem presente_borra (db : Control) (desiredCurrent : Nat) (orden : Orden) :
    orden.presente (db.borra desiredCurrent) = true ↔ orden.consigna = some desiredCurrent := by
  cases orden <;> simp [Orden.presente, Control.borra, Orden.consigna]
  exact ⟨Eq.symm, Eq.symm⟩

theorem entero_aplica (entero : s.Entero) (i : Nat) :
    (s.aplica i).Entero ↔ s.Limpio (.aplica i) := by
  cases carga : s.enVuelo[i]? with
  | none =>
    have queda : (s.aplica i).Entero := by
      simp only [aplica, carga]
      exact entero
    exact iff_of_true queda (by simp [Limpio, carga])
  | some desiredCurrent =>
    simp only [aplica, Limpio, carga, Option.mem_some_iff, forall_eq']
    constructor
    · intro despues peticion esta sinTomar
      exact (presente_borra s.db desiredCurrent peticion.orden).mp
        (despues peticion esta sinTomar).1
    · intro suya peticion esta sinTomar
      exact ⟨(presente_borra s.db desiredCurrent peticion.orden).mpr
        (suya peticion esta sinTomar), (entero peticion esta sinTomar).2⟩

theorem paso_groupActive (s : Mando) (evento : Evento) :
    (s.paso evento).groupActive = s.groupActive := by
  cases evento with
  | leeTs tsAppReq => exact (quieto_leeTs s tsAppReq).groupActive
  | sigue => exact (quieto_sigue s).groupActive
  | controlTask => exact (quieto_controlTask s).groupActive
  | leeControl lectura =>
    simp only [Mando.paso, leeControl]
    split
    · cases lectura with
      | none => rfl
      | some lectura => rfl
    · rfl
  | aplica i =>
    simp only [Mando.paso, aplica]
    split
    · rfl
    · rfl
  | _ => rfl

theorem entero_paso (sinGrupo : s.groupActive = false) (entero : s.Entero) (evento : Evento) :
    (s.paso evento).Entero ↔ s.Limpio evento := by
  cases evento with
  | escribe orden => exact entero_escribe entero orden
  | firma mas => exact iff_of_true (entero_firma entero mas) trivial
  | leeControl lectura => exact entero_leeControl sinGrupo entero lectura
  | aplica i => exact entero_aplica entero i
  | leeTs tsAppReq => exact iff_of_true ((quieto_leeTs s tsAppReq).entero entero) trivial
  | sigue => exact iff_of_true ((quieto_sigue s).entero entero) trivial
  | restart => exact iff_of_true ((quieto_restart s).entero entero) trivial
  | controlTask => exact iff_of_true ((quieto_controlTask s).entero entero) trivial
  | _ => exact iff_of_true entero trivial

end Mando

/-- The state after the first `n` events. -/
def trasEventos (db : Control) (eventos : List Evento) (n : Nat) : Mando :=
  (eventos.take n).foldl Mando.paso (.inicial db)

/-- No request is lost in a run, at whatever moment its timestamp comes, exactly when it
is a run without faults. -/
theorem ordenes_conservadas (db : Control) (eventos : List Evento) :
    (∀ n, (trasEventos db eventos n).Integro ∧ ((trasEventos db eventos n).firma 0).Integro) ↔
      Along Mando.Limpio Mando.paso eventos (.inicial db) := by
  simp only [← Mando.entero_iff]
  have sinPeticiones : (Mando.inicial db).Entero :=
    fun _ ninguna => absurd ninguna List.not_mem_nil
  have sinGrupo : (Mando.inicial db).groupActive = false := rfl
  exact forall_take_iff_along sinGrupo sinPeticiones
    (fun s evento sinGrupo => (s.paso_groupActive evento).trans sinGrupo)
    (fun _ evento sinGrupo entero => Mando.entero_paso sinGrupo entero evento)

/-- A setpoint of 10 is taken; another of 16 comes before the first one is echoed. -/
def segundaConsigna : List Evento :=
  [.escribe (.corriente 10 (by decide)), .firma 0, .leeTs 1,
    .leeControl (some { Control.vacio with desiredCurrent := 10, tsAppReq := 1 }), .sigue,
    .aplica 0, .sigue, .sigue, .escribe (.corriente 16 (by decide)), .firma 0, .leeTs 2,
    .leeControl (some { Control.vacio with desiredCurrent := 16, tsAppReq := 2 }), .sigue,
    .aplica 0]

/-- The second setpoint is refused, and the reset writes the first one over it. -/
theorem ordenes_perdidas_segundaConsigna :
    ¬ ∀ n, (trasEventos .vacio segundaConsigna n).Integro := by
  intro integro
  have perdida := integro 14 ⟨.corriente 16 (by decide), true, false⟩ (by decide +kernel) rfl
  exact absurd perdida (by decide +kernel)

end VeltiumCharger.Nube
