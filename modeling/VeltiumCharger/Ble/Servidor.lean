import Mathlib.Data.List.GetD
import VeltiumCharger.Actualizacion.TransferenciaBle
import VeltiumCharger.Ble.Autenticacion
import VeltiumCharger.Group.GrupoBle
import VeltiumCharger.Horario.Envio

/-!
# The BLE server

`onWrite` takes every write of a client.  Reads go through a selector: a write
to the selector characteristic puts the value selected into the omnibus
characteristic, zeros for a client that is not authorised.  Writes go through
the omnibus characteristic, behind a selector and a size; three of them are
handled before the client is checked.  The schedule, the firmware and the list
of chargers have characteristics of their own.

What a write does once the client is known to be authorised is a parameter here.
-/

namespace VeltiumCharger.Ble

open VeltiumCharger.Actualizacion
open VeltiumCharger.Group

/-! ## The reduced set of characteristics -/

/-- `RCS_MAX_IDX` -/
def rcsMaxIdx : Nat := 86

/-- `RCS_CHR_OMNIBUS_SIZE` -/
def rcsChrOmnibusSize : Nat := 64

/-- `table_handle_for_idx` -/
def tableHandleForIdx : List UInt16 :=
  [0, 17, 19, 21, 23, 26, 28, 30, 35, 37, 39, 41, 43, 45, 47, 52,
    54, 57, 59, 61, 63, 65, 67, 70, 72, 74, 76, 82, 84, 86, 88, 91,
    93, 95, 97, 100, 103, 105, 111, 113, 115, 117, 120, 123, 126, 128, 130, 132,
    135, 137, 140, 143, 145, 147, 150, 152, 154, 156, 158, 160, 162, 165, 173, 175,
    177, 179, 181, 183, 185, 187, 189, 191, 193, 195, 197, 199, 201, 203, 205, 207,
    209, 211, 213, 215, 231, 233, 235]

/-- `table_size_for_idx` -/
def tableSizeForIdx : List UInt8 :=
  [2, 2, 2, 2, 2, 1, 1, 1, 2, 2, 2, 4, 4, 4, 1, 1,
    1, 6, 6, 6, 2, 6, 6, 1, 1, 1, 1, 11, 1, 1, 1, 1,
    1, 1, 1, 1, 1, 1, 1, 1, 1, 1, 1, 6, 2, 2, 2, 2,
    10, 10, 2, 10, 8, 8, 1, 2, 1, 1, 1, 2, 1, 1, 16, 4,
    1, 16, 16, 1, 1, 4, 1, 6, 41, 2, 2, 41, 32, 32, 32, 4,
    1, 3, 1, 8, 4, 4, 4]

/-- `rcs_handle_for_idx` -/
def rcsHandleForIdx (idx : UInt8) : UInt16 :=
  if idx.toNat ≤ rcsMaxIdx then tableHandleForIdx.getD idx.toNat 0 else 0

/-- `rcs_get_size` -/
def rcsGetSize (idx : UInt8) : UInt8 :=
  if idx.toNat ≤ rcsMaxIdx then tableSizeForIdx.getD idx.toNat 0 else 0

/-- No value is larger than its place in the buffer. -/
theorem rcsGetSize_le (idx : UInt8) : (rcsGetSize idx).toNat ≤ rcsChrOmnibusSize := by
  have todas : ∀ size ∈ tableSizeForIdx, size.toNat ≤ rcsChrOmnibusSize := by
    decide +kernel
  unfold rcsGetSize
  split_ifs with menor
  · have dentro : idx.toNat < tableSizeForIdx.length := Nat.lt_succ_of_le menor
    rw [List.getD_eq_getElem _ _ dentro]
    exact todas _ (List.getElem_mem dentro)
  · exact Nat.zero_le _

/-- `AUTENTICACION_MATRIX_CHAR_HANDLE` -/
def autenticacionMatrix : UInt16 := 0x0091

/-- `AUTENTICACION_TOKEN_CHAR_HANDLE` -/
def autenticacionToken : UInt16 := 0x0093

/-- `FWUPDATE_BIRD_PROLOG_PSEUDO_CHAR_HANDLE` -/
def fwupdateBirdProlog : UInt16 := 0x00AD

/-- `FWUPDATE_BIRD_EPILOG_PSEUDO_CHAR_HANDLE` -/
def fwupdateBirdEpilog : UInt16 := 0x00AF

/-! ## The server -/

/-- The variables the server reads and writes; `omnibus` is the value of the
omnibus characteristic and `enviados` what has been sent to the other processor
apart from schedules. -/
structure Servidor where
  auth : Autenticacion
  actualizador : Actualizador
  horario : Horario.Estado
  equipo : Equipo
  groupData : Nat → UInt8
  chrSelectableBuffer : Nat → UInt8
  omnibus : List UInt8
  enviados : List (List UInt8)

/-- A write of a client.  `data` is what follows in memory from the first byte
written on; the last arguments are what the hardware, the other processor and
the memory do during it. -/
inductive Escritura
  | selector (dlen : Nat) (data : Nat → UInt8)
  | omnibus (dlen : Nat) (data : Nat → UInt8) (hw : Hardware)
  | rcsSchMat (data : Nat → UInt8) (entretanto : List Horario.Evento)
  | fwData (data : Nat → UInt8) (hw : Hardware)
  | rcsChargingGroup (data heap : Nat → UInt8) (pila : List UInt8)
  | otra

namespace Servidor

variable (s : Servidor)

/-- `authorizedOK` -/
def authorizedOK : Bool :=
  s.auth.authSuccess || s.actualizador.mainFwUpdateActive

/-- `rcs_server_get_data_for_selector` -/
def rcsServerGetDataForSelector (selector : UInt8) (i : Nat) : UInt8 :=
  s.chrSelectableBuffer (rcsChrOmnibusSize * min selector.toNat rcsMaxIdx + i)

/-- The payload of a value selected: zeros without authorisation, except for the
challenge. -/
def payloadSelector (selector : UInt8) : List UInt8 :=
  if !s.authorizedOK && rcsHandleForIdx selector != autenticacionMatrix then
    List.replicate (rcsGetSize selector).toNat 0
  else tramo (s.rcsServerGetDataForSelector selector) 0 (rcsGetSize selector).toNat

/-- `onWrite` of the selector. -/
def onWriteSelector (dlen : Nat) (data : Nat → UInt8) : Servidor :=
  if dlen < 1 then { s with omnibus := [0, 0, 0, 0] }
  else if s.auth.dispositivoInicializado ≠ 2 then s
  else
    { s with
      omnibus := [data 0, 0, rcsGetSize (data 0), 0] ++ s.payloadSelector (data 0) }

/-- The token at the beginning of a payload. -/
def tokenDe (payload : Nat → UInt8) : Vec8 :=
  Vector.ofFn fun i : Fin 8 => payload i

/-- `onWrite` of the omnibus; an epilog that restarts the charger ends the run. -/
def onWriteOmnibus (autorizada : Servidor → UInt8 → (Nat → UInt8) → Option Servidor)
    (dlen : Nat) (data : Nat → UInt8) (hw : Hardware) : Option Servidor :=
  let s := { s with omnibus := tramo data 0 dlen }
  if dlen < 5 then some s
  else
    let handle := rcsHandleForIdx (data 0)
    let payload := fun i => data (4 + i)
    if handle = autenticacionToken then
      some { s with auth := s.auth.setAuthToken (tokenDe payload) }
    else if handle = fwupdateBirdProlog then
      some { s with actualizador := s.actualizador.prolog hw payload }
    else if handle = fwupdateBirdEpilog then
      if s.actualizador.reinicia then none
      else some { s with actualizador := s.actualizador.epilog hw payload }
    else if !s.authorizedOK then some s
    else autorizada s (data 0) payload

/-- The matrix at the beginning of a value. -/
def matrizDe (data : Nat → UInt8) : Horario.Matriz :=
  Vector.ofFn fun day => Vector.ofFn fun hora => data (day.val * 24 + hora.val)

/-- `onWrite` of the schedule: the call runs to its end. -/
def onWriteSchMat (data : Nat → UInt8) (entretanto : List Horario.Evento) : Servidor :=
  { s with horario := (s.horario.paso (.llama .ble (matrizDe data))).correr entretanto }

/-- `onWrite` of the list of chargers. -/
def onWriteChargingGroup (data heap : Nat → UInt8) (pila : List UInt8) : Option Servidor :=
  (bleGrupo data s.groupData heap pila s.equipo).map fun equipo =>
    { s with equipo, groupData := grupoBle data s.groupData heap }

/-- `CBCharacteristic::onWrite` -/
def onWrite (autorizada : Servidor → UInt8 → (Nat → UInt8) → Option Servidor) :
    Escritura → Option Servidor
  | .selector dlen data => some (s.onWriteSelector dlen data)
  | .omnibus dlen data hw => s.onWriteOmnibus autorizada dlen data hw
  | .rcsSchMat data entretanto => some (s.onWriteSchMat data entretanto)
  | .fwData data hw => some { s with actualizador := s.actualizador.fwData hw data }
  | .rcsChargingGroup data heap pila => s.onWriteChargingGroup data heap pila
  | .otra => some s

/-- A sequence of writes. -/
def escribir (autorizada : Servidor → UInt8 → (Nat → UInt8) → Option Servidor)
    (escrituras : List Escritura) : Option Servidor :=
  escrituras.foldlM (fun s escritura => s.onWrite autorizada escritura) s

/-- The value a client reads after selecting it. -/
def leerSelector (selector : UInt8) : List UInt8 :=
  (s.onWriteSelector 1 fun _ => selector).omnibus

end Servidor

/-! ## What a client must not change -/

/-- What is observed of the charger. -/
structure Observable where
  enviados : List (List UInt8)
  tramasHorario : List (List UInt8)
  groupData : Nat → UInt8
  equipo : Equipo
  ficheros : Spiffs
  update : UpdateClass
  descargandoArchivo : Bool
  instalandoArchivo : Bool
  mainFwUpdateActive : Bool
  authorizedOK : Bool

/-- The frames of schedules written so far. -/
def tramasHorario (horario : Horario.Estado) : List (List UInt8) :=
  [.firebase, .ble].flatMap fun tarea =>
    (horario.terminadas tarea ++ (horario.llamada tarea).toList).flatMap Horario.Llamada.tramas

def Servidor.observable (s : Servidor) : Observable where
  enviados := s.enviados
  tramasHorario := tramasHorario s.horario
  groupData := s.groupData
  equipo := s.equipo
  ficheros := s.actualizador.spiffs
  update := s.actualizador.update
  descargandoArchivo := s.actualizador.descargandoArchivo
  instalandoArchivo := s.actualizador.instalandoArchivo
  mainFwUpdateActive := s.actualizador.mainFwUpdateActive
  authorizedOK := s.authorizedOK

/-- The write is not a valid token. -/
def Servidor.SinToken (s : Servidor) : Escritura → Prop
  | .omnibus dlen data _ =>
    5 ≤ dlen → rcsHandleForIdx (data 0) = autenticacionToken →
      s.auth.acepta (Servidor.tokenDe fun i => data (4 + i)) = false
  | _ => True

/-- The write goes to the selector, to the omnibus and there neither to the
prolog nor to the epilog of a transfer, or to a characteristic without a
handler. -/
def Escritura.Comprobada : Escritura → Prop
  | .selector _ _ => True
  | .omnibus dlen data _ =>
    dlen < 5 ∨ rcsHandleForIdx (data 0) ≠ fwupdateBirdProlog ∧
      rcsHandleForIdx (data 0) ≠ fwupdateBirdEpilog
  | .rcsSchMat _ _ => False
  | .fwData _ _ => False
  | .rcsChargingGroup _ _ _ => False
  | .otra => True

section Escrituras

variable {s : Servidor} {autorizada : Servidor → UInt8 → (Nat → UInt8) → Option Servidor}

/-- A token that is not taken changes nothing. -/
theorem setAuthToken_eq_self {a : Autenticacion} {data : Vec8} (rechaza : a.acepta data = false) :
    a.setAuthToken data = a := by
  unfold Autenticacion.setAuthToken
  rw [rechaza, Bool.and_false]
  exact if_neg Bool.false_ne_true

/-- What a write of an unauthorised client leaves as it was. -/
structure Intacto (s t : Servidor) : Prop where
  auth : t.auth = s.auth
  observable : t.observable = s.observable
  valores : t.chrSelectableBuffer = s.chrSelectableBuffer

theorem intacto_onWriteSelector (dlen : Nat) (data : Nat → UInt8) :
    Intacto s (s.onWriteSelector dlen data) := by
  unfold Servidor.onWriteSelector
  split_ifs
  · exact ⟨rfl, rfl, rfl⟩
  · exact ⟨rfl, rfl, rfl⟩
  · exact ⟨rfl, rfl, rfl⟩

/-- Without authorisation the omnibus comes to its check, or ends before it. -/
theorem intacto_onWriteOmnibus (sinAutorizar : s.authorizedOK = false) {dlen : Nat}
    {data : Nat → UInt8} {hw : Hardware} (sinToken : s.SinToken (.omnibus dlen data hw))
    (comprobada : (Escritura.omnibus dlen data hw).Comprobada) :
    ∃ t, s.onWriteOmnibus autorizada dlen data hw = some t ∧ Intacto s t := by
  have escrita : Intacto s { s with omnibus := tramo data 0 dlen } := ⟨rfl, rfl, rfl⟩
  unfold Servidor.onWriteOmnibus
  dsimp only
  by_cases corta : dlen < 5
  · rw [if_pos corta]
    exact ⟨_, rfl, escrita⟩
  · rcases comprobada with otra | ⟨noProlog, noEpilog⟩
    · exact absurd otra corta
    · rw [if_neg corta]
      by_cases token : rcsHandleForIdx (data 0) = autenticacionToken
      · have rechaza := sinToken (Nat.not_lt.mp corta) token
        rw [if_pos token, setAuthToken_eq_self rechaza]
        exact ⟨_, rfl, escrita⟩
      · have fuera : (!s.authorizedOK) = true := by rw [sinAutorizar]; rfl
        rw [if_neg token, if_neg noProlog, if_neg noEpilog]
        exact ⟨_, if_pos fuera, escrita⟩

variable (autorizada) in
/-- A write that meets the check leaves everything as it was. -/
theorem intacto_onWrite (sinAutorizar : s.authorizedOK = false) {escritura : Escritura}
    (sinToken : s.SinToken escritura) (comprobada : escritura.Comprobada) :
    ∃ t, s.onWrite autorizada escritura = some t ∧ Intacto s t := by
  cases escritura with
  | selector dlen data => exact ⟨_, rfl, intacto_onWriteSelector dlen data⟩
  | omnibus dlen data hw => exact intacto_onWriteOmnibus sinAutorizar sinToken comprobada
  | rcsSchMat data entretanto => exact comprobada.elim
  | fwData data hw => exact comprobada.elim
  | rcsChargingGroup data heap pila => exact comprobada.elim
  | otra => exact ⟨s, rfl, rfl, rfl, rfl⟩

theorem Intacto.trans {t u : Servidor} (primero : Intacto s t) (despues : Intacto t u) :
    Intacto s u :=
  ⟨despues.auth.trans primero.auth, despues.observable.trans primero.observable,
    despues.valores.trans primero.valores⟩

theorem Intacto.authorizedOK {t : Servidor} (intacto : Intacto s t) :
    t.authorizedOK = s.authorizedOK :=
  congrArg Observable.authorizedOK intacto.observable

theorem Intacto.sinToken {t : Servidor} (intacto : Intacto s t) {escritura : Escritura}
    (sinToken : s.SinToken escritura) : t.SinToken escritura := by
  cases escritura with
  | omnibus dlen data hw =>
      intro larga token
      rw [intacto.auth]
      exact sinToken larga token
  | _ => trivial

variable (autorizada) in
/-- So does a sequence of them. -/
theorem intacto_escribir (sinAutorizar : s.authorizedOK = false) {escrituras : List Escritura}
    (sinToken : ∀ escritura ∈ escrituras, s.SinToken escritura)
    (comprobadas : ∀ escritura ∈ escrituras, escritura.Comprobada) :
    ∃ t, s.escribir autorizada escrituras = some t ∧ Intacto s t := by
  induction escrituras generalizing s with
  | nil => exact ⟨s, rfl, rfl, rfl, rfl⟩
  | cons escritura resto ih =>
      obtain ⟨t, escrita, intacto⟩ := intacto_onWrite autorizada sinAutorizar
        (sinToken escritura List.mem_cons_self) (comprobadas escritura List.mem_cons_self)
      obtain ⟨u, escritas, sigue⟩ := ih (s := t) (intacto.authorizedOK.trans sinAutorizar)
        (fun una esta => intacto.sinToken (sinToken una (List.mem_cons_of_mem _ esta)))
        fun una esta => comprobadas una (List.mem_cons_of_mem _ esta)
      refine ⟨u, ?_, intacto.trans sigue⟩
      rw [Servidor.escribir, List.foldlM_cons, escrita]
      exact escritas

end Escrituras

/-- Selected without authorisation, a value is read as zeros once the charger has
been initialised. -/
theorem leerSelector_ceros {s : Servidor} (sinAutorizar : s.authorizedOK = false)
    (lista : s.auth.dispositivoInicializado = 2) {selector : UInt8}
    (otro : rcsHandleForIdx selector ≠ autenticacionMatrix) :
    s.leerSelector selector = [selector, 0, rcsGetSize selector, 0] ++
      List.replicate (rcsGetSize selector).toNat 0 := by
  have payload : s.payloadSelector selector =
      List.replicate (rcsGetSize selector).toNat 0 := by
    unfold Servidor.payloadSelector
    rw [if_pos (by simp [sinAutorizar, otro])]
  unfold Servidor.leerSelector Servidor.onWriteSelector
  rw [if_neg (by decide), if_neg (by simp [lista]), payload]

/-- Writes of a client that is not authorised have no effect, as long as they come
to the check, and it reads nothing but the challenge. -/
theorem sin_autorizar_sin_efecto
    (autorizada : Servidor → UInt8 → (Nat → UInt8) → Option Servidor) (s : Servidor)
    (sinExito : s.auth.authSuccess = false)
    (sinActualizar : s.actualizador.mainFwUpdateActive = false) (escrituras : List Escritura)
    (sinToken : ∀ escritura ∈ escrituras, s.SinToken escritura)
    (comprobadas : ∀ escritura ∈ escrituras, escritura.Comprobada) :
    ∃ t, s.escribir autorizada escrituras = some t ∧ t.observable = s.observable ∧
      (t.auth.dispositivoInicializado = 2 → ∀ selector,
        rcsHandleForIdx selector ≠ autenticacionMatrix →
        t.leerSelector selector = [selector, 0, rcsGetSize selector, 0] ++
          List.replicate (rcsGetSize selector).toNat 0) := by
  have sinAutorizar : s.authorizedOK = false := by
    rw [Servidor.authorizedOK, sinExito, sinActualizar]
    rfl
  obtain ⟨t, escritas, intacto⟩ :=
    intacto_escribir autorizada sinAutorizar sinToken comprobadas
  refine ⟨t, escritas, intacto.observable, fun lista selector otro => ?_⟩
  exact leerSelector_ceros (intacto.authorizedOK.trans sinAutorizar) lista otro

/-- A charger that has started, in a group of none. -/
def Servidor.inicial : Servidor where
  auth := { Autenticacion.inicial (Vector.replicate 10 0) with dispositivoInicializado := 2 }
  actualizador := .arranque ⟨true, none, none⟩
  horario := .inicial
  equipo :=
    { grupo := GroupState.inicio (.conPotencia 100) [] []
      deviceId := fun _ => 0
      conected := false
      deleteOrder := false
      stopOrder := false
      sendNewGroup := false
      sendNewCircuits := false
      netGroup := fun _ => CaracCharger.default
      netGroupSize := 0 }
  groupData := fun _ => 0
  chrSelectableBuffer := fun _ => 7
  omnibus := []
  enviados := []

/-- The writes of a client that selects the current, orders another one and
tries a token. -/
def tanteo : List Escritura :=
  [.selector 1 fun _ => 7, .omnibus 5 (mensaje [7, 0, 1, 0, 32]) .sano,
    .omnibus 12 (mensaje [53, 0, 8, 0, 1, 2, 3, 4, 5, 6, 7, 8]) .sano, .otra]

theorem sin_autorizar_sin_efecto_tanteo :
    ∃ t, Servidor.inicial.escribir (fun s _ _ => some s) tanteo = some t ∧
      t.observable = Servidor.inicial.observable ∧
      (t.auth.dispositivoInicializado = 2 → ∀ selector,
        rcsHandleForIdx selector ≠ autenticacionMatrix →
        t.leerSelector selector = [selector, 0, rcsGetSize selector, 0] ++
          List.replicate (rcsGetSize selector).toNat 0) :=
  sin_autorizar_sin_efecto (fun s _ _ => some s) Servidor.inicial rfl rfl tanteo
    (by
      simp only [tanteo, List.forall_mem_cons, Servidor.SinToken]
      exact ⟨trivial, fun _ otra => absurd otra (by decide), fun _ _ => by decide, trivial,
        fun _ nada => nomatch nada⟩)
    (by
      simp only [tanteo, List.forall_mem_cons, Escritura.Comprobada]
      exact ⟨trivial, .inr (by decide), .inr (by decide), trivial, fun _ nada => nomatch nada⟩)

/-- A schedule is sent to the other processor for any client. -/
theorem sin_autorizar_horario :
    ¬ ∀ t, Servidor.inicial.escribir (fun s _ _ => some s)
        [.rcsSchMat (fun _ => 16) (List.replicate 50 (.avanza .ble))] = some t →
      t.observable = Servidor.inicial.observable := by
  intro intacto
  have igual := congrArg Observable.tramasHorario (intacto _ rfl)
  exact absurd (congrArg List.length igual) (by decide +kernel)

end VeltiumCharger.Ble
