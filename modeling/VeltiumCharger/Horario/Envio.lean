import VeltiumCharger.Library.Run

/-!
# Sending the schedule

`SendScheduleMatrixToPSOC5` sends the seven days of a schedule matrix to the
other processor, up to three times, until `procesar_bloque` has set
`flag_schedule_ack`: it does so for a block that repeats `global_schedule_buffer`,
the copy the sender made of what it sends.  The flag and the copy are shared and
outlive the call.

Two tasks call the function, that of Firebase and that of the BLE server, and
nothing keeps one from calling while the other's call is in progress.  Each call
advances by one statement of its loops at a time; the statements of the other,
and blocks, come in between.
-/

namespace VeltiumCharger.Horario

open VeltiumCharger.Run

/-- The 24 hours of a day. -/
abbrev Dia := Vector UInt8 24

/-- A schedule matrix: a row for each day. -/
abbrev Matriz := Vector Dia 7

/-- The frame of a day: `HEADER_TX`, the handle of the matrix, the size, the day
and its hours.  The length handed to `controlSendToSerialLocal` leaves out one
byte, which it adds. -/
def trama (day : Fin 7) (dia : Dia) : List UInt8 :=
  [58, 0x00, 0x4F, 25, day.val.toUInt8] ++ dia.toList

/-- Where a call is: at the test of the `while`, at the copy of a day of the `for` or
at its frame, in the wait for the answer, or behind the loop. -/
inductive Punto
  | mientras
  | dia (day : Fin 7)
  | manda (day : Fin 7)
  | espera
  | salida
  deriving DecidableEq, Repr

/-- A call of `SendScheduleMatrixToPSOC5`.  The last two fields only record: the
frames written on the line, and whether a block equal to the matrix has arrived
since the call began. -/
structure Llamada where
  data : Matriz
  attempts : UInt8
  punto : Punto
  tramas : List (List UInt8)
  eco : Bool

/-- The call when it begins. -/
def Llamada.nueva (data : Matriz) : Llamada :=
  ⟨data, 0, .mientras, [], false⟩

/-- The tasks that send a schedule: `ReadFirebaseControl` and `onWrite`. -/
inductive Tarea
  | firebase
  | ble
  deriving DecidableEq, Repr

theorem Tarea.forall_iff {p : Tarea → Prop} : (∀ tarea, p tarea) ↔ p .firebase ∧ p .ble :=
  ⟨fun all => ⟨all _, all _⟩, fun ⟨first, second⟩ tarea => by cases tarea <;> assumption⟩

instance Tarea.decidableForall {p : Tarea → Prop} [DecidablePred p] :
    Decidable (∀ tarea, p tarea) :=
  decidable_of_iff _ Tarea.forall_iff.symm

/-- The variables the tasks share, and of each task its call in progress and its calls
that have returned. -/
structure Estado where
  flagScheduleAck : Bool
  globalScheduleBuffer : Matriz
  updateTaskrunning : Bool
  llamada : Tarea → Option Llamada
  terminadas : Tarea → List Llamada

/-- The charger when its tasks start. -/
def Estado.inicial : Estado :=
  ⟨false, Vector.replicate 7 (Vector.replicate 24 0), false, fun _ => none, fun _ => []⟩

/-- A call, a statement of a sender, a block of the other processor, and the
beginning or the end of an update of its firmware. -/
inductive Evento
  | llama (tarea : Tarea) (data : Matriz)
  | avanza (tarea : Tarea)
  | bloque (buffer : Matriz)
  | actualizacion (enCurso : Bool)
  deriving DecidableEq

namespace Estado

/-- The task goes on with a call. -/
def sigue (s : Estado) (tarea : Tarea) (llamada : Llamada) : Estado :=
  { s with llamada := Function.update s.llamada tarea (some llamada) }

/-- The call behind the frame of a day; nothing is sent during an update. -/
def trasDia (s : Estado) (llamada : Llamada) (day : Fin 7) : Llamada :=
  { llamada with
    punto := if more : day.val + 1 < 7 then .dia ⟨day.val + 1, more⟩ else .espera
    tramas :=
      if s.updateTaskrunning then llamada.tramas
      else llamada.tramas ++ [trama day (llamada.data[day])] }

/-- The call behind the test of the `while`. -/
def trasTest (s : Estado) (llamada : Llamada) : Llamada :=
  { llamada with
    punto := if !s.flagScheduleAck && llamada.attempts < 3 then .dia 0 else .salida }

/-- One statement of a sender.  The body of the `for` copies the day, then sends it. -/
def avanzaLlamada (s : Estado) (tarea : Tarea) (llamada : Llamada) : Estado :=
  match llamada.punto with
  | .mientras => s.sigue tarea (s.trasTest llamada)
  | .dia day =>
    { s.sigue tarea { llamada with punto := .manda day } with
      globalScheduleBuffer := s.globalScheduleBuffer.set day (llamada.data[day]) }
  | .manda day => s.sigue tarea (s.trasDia llamada day)
  | .espera =>
    s.sigue tarea { llamada with punto := .mientras, attempts := llamada.attempts + 1 }
  | .salida =>
    { s with
      flagScheduleAck := false
      llamada := Function.update s.llamada tarea none
      terminadas := Function.update s.terminadas tarea (s.terminadas tarea ++ [llamada]) }

/-- The case `SCHED_CHARGING_SCHEDULE_MATRIX_CHAR_HANDLE` of `procesar_bloque`. -/
def recibeBloque (s : Estado) (buffer : Matriz) : Estado :=
  { s with
    flagScheduleAck := s.globalScheduleBuffer == buffer
    llamada := fun tarea => (s.llamada tarea).map fun llamada =>
      { llamada with eco := llamada.eco || buffer == llamada.data } }

/-- One step.  A task makes its calls one after the other, and blocks are not read
during an update. -/
def paso (s : Estado) : Evento → Estado
  | .llama tarea data =>
    if (s.llamada tarea).isNone then s.sigue tarea (.nueva data) else s
  | .avanza tarea => ((s.llamada tarea).map (s.avanzaLlamada tarea)).getD s
  | .bloque buffer => if s.updateTaskrunning then s else s.recibeBloque buffer
  | .actualizacion enCurso => { s with updateTaskrunning := enCurso }

/-- A whole run. -/
def correr (s : Estado) (eventos : List Evento) : Estado :=
  eventos.foldl paso s

end Estado

/-- What is promised of a call: the frames of all days have been written, and
fewer than three attempts only with an echo of the matrix. -/
def Llamada.Entregada (llamada : Llamada) : Prop :=
  (∀ day : Fin 7, trama day llamada.data[day] ∈ llamada.tramas) ∧
    (llamada.attempts < 3 → llamada.eco = true)

instance (llamada : Llamada) : Decidable llamada.Entregada :=
  inferInstanceAs (Decidable (_ ∧ _))

/-- The days of the matrix have not all been copied yet. -/
def Llamada.copiando (llamada : Llamada) : Bool :=
  llamada.attempts == 0 &&
    match llamada.punto with
    | .mientras => true
    | .dia _ => true
    | .manda _ => true
    | .espera => false
    | .salida => false

/-- The call has come to its loop. -/
def Llamada.probada (llamada : Llamada) : Bool :=
  !(llamada.attempts == 0 && llamada.punto == .mientras)

/-- The steps of senders that are not misled: a loop is entered with the flag clear, its
first frames are sent with no update, and no block that repeats the copy is of another
matrix than that of a call in its loop. -/
def Estado.Limpio (s : Estado) : Evento → Prop
  | .avanza tarea => ∀ llamada ∈ s.llamada tarea, llamada.copiando = true →
      (llamada.punto = .mientras → s.flagScheduleAck = false) ∧
        ∀ day, llamada.punto = .manda day → s.updateTaskrunning = false
  | .bloque buffer => s.updateTaskrunning = false → buffer = s.globalScheduleBuffer →
      ∀ tarea, ∀ llamada ∈ s.llamada tarea, llamada.probada = true → buffer = llamada.data
  | .llama _ _ => True
  | .actualizacion _ => True

instance decidableLimpio (s : Estado) : ∀ evento, Decidable (s.Limpio evento)
  | .avanza _ => inferInstanceAs (Decidable (∀ llamada ∈ s.llamada _, _))
  | .bloque _ =>
    inferInstanceAs (Decidable (_ → _ → ∀ tarea, ∀ llamada ∈ s.llamada tarea, _))
  | .llama _ _ => isTrue trivial
  | .actualizacion _ => isTrue trivial

/-- The frame of the day has been written. -/
def Llamada.hecho (llamada : Llamada) (day : Fin 7) : Prop :=
  llamada.copiando = true →
    ∃ ahora : Fin 7, (llamada.punto = .dia ahora ∨ llamada.punto = .manda ahora) ∧ day < ahora

/-- The invariant of a call that has not been misled, by the flag. -/
structure EnCurso (flag : Bool) (llamada : Llamada) : Prop where
  acotada : llamada.attempts ≤ 3
  dentro : llamada.punto ≠ .mientras → llamada.punto ≠ .salida → llamada.attempts < 3
  enviada : ∀ day, llamada.hecho day → trama day llamada.data[day] ∈ llamada.tramas
  confirmada : llamada.probada = true → flag = true → llamada.eco = true
  acabada : llamada.punto = .salida → llamada.copiando = false ∧
    (llamada.attempts < 3 → llamada.eco = true)

/-- Every call that has returned kept the promise, and those in progress are not
misled. -/
structure Fiel (s : Estado) : Prop where
  entregadas : ∀ tarea, ∀ llamada ∈ s.terminadas tarea, llamada.Entregada
  enCurso : ∀ tarea, ∀ llamada ∈ s.llamada tarea, EnCurso s.flagScheduleAck llamada

section Pasos

variable {s : Estado} {flag : Bool} {llamada : Llamada}

theorem enCurso_nueva (data : Matriz) : EnCurso flag (.nueva data) where
  acotada := UInt8.zero_le
  dentro fuera := absurd rfl fuera
  enviada _ hecho := by
    obtain ⟨_, otro | otro, -⟩ := hecho rfl <;> cases otro
  confirmada probada := absurd probada Bool.false_ne_true
  acabada sale := by cases sale

/-- A call that goes on is still the task's. -/
theorem probada_of_ne (fuera : llamada.punto ≠ .mientras) : llamada.probada = true := by
  simp [Llamada.probada, fuera]

/-- The other task may clear the flag. -/
theorem EnCurso.sinFlag (enCurso : EnCurso flag llamada) : EnCurso false llamada where
  acotada := enCurso.acotada
  dentro := enCurso.dentro
  enviada := enCurso.enviada
  confirmada _ flag := absurd flag Bool.false_ne_true
  acabada := enCurso.acabada

/-- A block answers a call in its loop only with its matrix. -/
theorem EnCurso.recibeBloque (enCurso : EnCurso flag llamada) {buffer : Matriz} {next : Bool}
    (limpio : llamada.probada = true → next = true → buffer = llamada.data) :
    EnCurso next { llamada with eco := llamada.eco || buffer == llamada.data } where
  acotada := enCurso.acotada
  dentro := enCurso.dentro
  enviada := enCurso.enviada
  confirmada probada flag := by simp [limpio probada flag]
  acabada sale := by
    obtain ⟨copiada, confirmada⟩ := enCurso.acabada sale
    exact ⟨copiada, fun pocos => by simp [confirmada pocos]⟩

/-- A day behind the loop, or in a later pass, is done. -/
theorem hecho_of_not_copiando (copiada : llamada.copiando = false) (day : Fin 7) :
    llamada.hecho day :=
  fun copiando => absurd (copiada.symm.trans copiando) Bool.false_ne_true

/-- The first pass ends with the last day. -/
theorem copiando_eq_false (posterior : llamada.attempts ≠ 0) : llamada.copiando = false := by
  simp [Llamada.copiando, posterior]

/-- The test of the `while`. -/
theorem EnCurso.mientras (enCurso : EnCurso s.flagScheduleAck llamada)
    (punto : llamada.punto = .mientras)
    (limpio : llamada.copiando = true → s.flagScheduleAck = false) :
    EnCurso s.flagScheduleAck (s.trasTest llamada) := by
  unfold Estado.trasTest
  by_cases primera : llamada.attempts = 0
  · have flag : s.flagScheduleAck = false :=
      limpio (by simp [Llamada.copiando, primera, punto])
    have nada : ∀ day, ¬ Llamada.hecho { llamada with punto := .dia 0 } day := by
      intro day hecho
      obtain ⟨ahora, igual | igual, menor⟩ := hecho (by simp [Llamada.copiando, primera])
      · cases igual
        exact absurd menor (Fin.not_lt_zero day)
      · cases igual
    have entra : (!s.flagScheduleAck && decide (llamada.attempts < 3)) = true := by
      simp [flag, primera]
    rw [if_pos entra]
    constructor
    case acotada => exact enCurso.acotada
    case dentro => exact fun _ _ => by simp [primera]
    case enviada => exact fun day hecho => absurd hecho (nada day)
    case confirmada =>
      exact fun _ confirmado => absurd (flag.symm.trans confirmado) Bool.false_ne_true
    case acabada =>
      intro sale
      cases sale
  · have copiada : llamada.copiando = false := copiando_eq_false primera
    have probada : llamada.probada = true := by simp [Llamada.probada, primera]
    constructor
    case acotada => exact enCurso.acotada
    case dentro =>
      intro _ fuera
      by_cases entra : (!s.flagScheduleAck && decide (llamada.attempts < 3)) = true
      · rw [Bool.and_eq_true, decide_eq_true_iff] at entra
        exact entra.2
      · exact absurd (if_neg entra) fuera
    case enviada => exact fun day _ => enCurso.enviada day (hecho_of_not_copiando copiada day)
    case confirmada => exact fun _ => enCurso.confirmada probada
    case acabada =>
      intro sale
      constructor
      · exact copiando_eq_false primera
      · intro pocos
        cases flag : s.flagScheduleAck with
        | true => exact enCurso.confirmada probada flag
        | false =>
            have pocos' : llamada.attempts < 3 := pocos
            simp [flag, pocos'] at sale

/-- The copy of a day. -/
theorem EnCurso.copia (enCurso : EnCurso flag llamada) {day : Fin 7}
    (punto : llamada.punto = .dia day) :
    EnCurso flag { llamada with punto := .manda day } := by
  have fuera : llamada.punto ≠ .mientras := by
    rw [punto]
    nofun
  constructor
  case acotada => exact enCurso.acotada
  case dentro => exact fun _ _ => enCurso.dentro fuera (by rw [punto]; nofun)
  case enviada =>
    intro otro hecho
    apply enCurso.enviada otro
    intro copiando
    obtain ⟨ahora, igual | igual, menor⟩ :=
      hecho (by simpa [Llamada.copiando, punto] using copiando)
    · cases igual
    · cases igual
      exact ⟨day, .inl punto, menor⟩
  case confirmada => exact fun _ => enCurso.confirmada (probada_of_ne fuera)
  case acabada =>
    intro sale
    cases sale

/-- The days done behind the frame of a day: one more than before it. -/
theorem hecho_of_trasDia {day : Fin 7} (punto : llamada.punto = .manda day) {otro : Fin 7}
    (hecho : (s.trasDia llamada day).hecho otro) : llamada.hecho otro ∨ otro = day := by
  by_cases igual : otro = day
  · exact .inr igual
  · left
    intro copiando
    refine ⟨day, .inr punto, ?_⟩
    have distinto := Fin.val_ne_of_ne igual
    by_cases more : day.val + 1 < 7
    · obtain ⟨ahora, aqui, menor⟩ :=
        hecho (by simpa [Estado.trasDia, Llamada.copiando, punto, more] using copiando)
      simp only [Estado.trasDia, more, dite_true, Punto.dia.injEq, reduceCtorEq, or_false] at aqui
      rw [← aqui, Fin.lt_def] at menor
      rw [Fin.lt_def]
      dsimp only at menor
      omega
    · rw [Fin.lt_def]
      omega

/-- The frame of a day. -/
theorem EnCurso.dia (enCurso : EnCurso flag llamada) {day : Fin 7}
    (punto : llamada.punto = .manda day)
    (limpio : llamada.copiando = true → s.updateTaskrunning = false) :
    EnCurso flag (s.trasDia llamada day) := by
  have fuera : llamada.punto ≠ .mientras := by
    rw [punto]
    nofun
  constructor
  case acotada => exact enCurso.acotada
  case dentro => exact fun _ _ => enCurso.dentro fuera (by rw [punto]; nofun)
  case enviada =>
    intro otro hecho
    show trama otro llamada.data[otro] ∈ if s.updateTaskrunning = true then llamada.tramas
      else llamada.tramas ++ [trama day llamada.data[day]]
    cases copiando : llamada.copiando with
    | true =>
        rw [limpio copiando, if_neg Bool.false_ne_true]
        rcases hecho_of_trasDia punto hecho with antes | rfl
        · exact List.mem_append_left _ (enCurso.enviada otro antes)
        · exact List.mem_append_right _ (List.mem_singleton_self _)
    | false =>
        have antes := enCurso.enviada otro (hecho_of_not_copiando copiando otro)
        split
        · exact antes
        · exact List.mem_append_left _ antes
  case confirmada => exact fun _ => enCurso.confirmada (probada_of_ne fuera)
  case acabada =>
    intro sale
    unfold Estado.trasDia at sale
    dsimp only at sale
    split at sale <;> cases sale

/-- The wait for the answer. -/
theorem EnCurso.espera (enCurso : EnCurso flag llamada) (punto : llamada.punto = .espera) :
    EnCurso flag { llamada with punto := .mientras, attempts := llamada.attempts + 1 } := by
  have fuera : llamada.punto ≠ .mientras := by
    rw [punto]
    nofun
  have menos : llamada.attempts < 3 := enCurso.dentro fuera (by rw [punto]; nofun)
  have copiada : llamada.copiando = false := by simp [Llamada.copiando, punto]
  constructor
  case acotada =>
    show llamada.attempts + 1 ≤ 3
    rw [UInt8.lt_iff_toNat_lt] at menos
    rw [UInt8.le_iff_toNat_le, UInt8.toNat_add]
    simp at menos ⊢
    omega
  case dentro => exact fun fuera => absurd rfl fuera
  case enviada => exact fun day _ => enCurso.enviada day (hecho_of_not_copiando copiada day)
  case confirmada => exact fun _ => enCurso.confirmada (probada_of_ne fuera)
  case acabada =>
    intro sale
    cases sale

/-- A call returns with its promise kept. -/
theorem EnCurso.entregada (enCurso : EnCurso flag llamada) (punto : llamada.punto = .salida) :
    llamada.Entregada := by
  obtain ⟨copiada, confirmada⟩ := enCurso.acabada punto
  exact ⟨fun day => enCurso.enviada day (hecho_of_not_copiando copiada day), confirmada⟩

end Pasos

namespace Fiel

variable {s : Estado}

/-- A call that goes on unmisled, with the flag as it was. -/
theorem sigue (fiel : Fiel s) {tarea : Tarea} {llamada : Llamada}
    (enCurso : EnCurso s.flagScheduleAck llamada) : Fiel (s.sigue tarea llamada) where
  entregadas := fiel.entregadas
  enCurso otra := by
    intro suya esta
    by_cases misma : otra = tarea
    · subst misma
      change suya ∈ Function.update s.llamada otra (some llamada) otra at esta
      rw [Function.update_self] at esta
      cases esta
      exact enCurso
    · change suya ∈ Function.update s.llamada tarea (some llamada) otra at esta
      rw [Function.update_of_ne misma] at esta
      exact fiel.enCurso otra suya esta

/-- A call that returns clears the flag. -/
theorem sale (fiel : Fiel s) {tarea : Tarea} {llamada : Llamada} (suya : llamada ∈ s.llamada tarea)
    (punto : llamada.punto = .salida) : Fiel (s.avanzaLlamada tarea llamada) := by
  unfold Estado.avanzaLlamada
  rw [punto]
  constructor
  case entregadas =>
    intro otra vuelta esta
    by_cases misma : otra = tarea
    · subst misma
      dsimp only at esta
      rw [Function.update_self] at esta
      rcases List.mem_append.mp esta with antes | ahora
      · exact fiel.entregadas otra vuelta antes
      · rw [List.mem_singleton.mp ahora]
        exact (fiel.enCurso otra llamada suya).entregada punto
    · dsimp only at esta
      rw [Function.update_of_ne misma] at esta
      exact fiel.entregadas otra vuelta esta
  case enCurso =>
    intro otra queda esta
    by_cases misma : otra = tarea
    · subst misma
      dsimp only at esta
      rw [Function.update_self] at esta
      cases esta
    · dsimp only at esta
      rw [Function.update_of_ne misma] at esta
      exact (fiel.enCurso otra queda esta).sinFlag

/-- A statement of a sender. -/
theorem avanza (fiel : Fiel s) {tarea : Tarea} {llamada : Llamada}
    (suya : llamada ∈ s.llamada tarea) (limpio : s.Limpio (.avanza tarea)) :
    Fiel (s.avanzaLlamada tarea llamada) := by
  have enCurso := fiel.enCurso tarea llamada suya
  cases punto : llamada.punto with
  | salida => exact fiel.sale suya punto
  | mientras =>
      unfold Estado.avanzaLlamada
      rw [punto]
      exact fiel.sigue (enCurso.mientras punto fun copiando =>
        (limpio llamada suya copiando).1 punto)
  | espera =>
      unfold Estado.avanzaLlamada
      rw [punto]
      exact fiel.sigue (enCurso.espera punto)
  | dia day =>
      have copiado : Fiel (s.sigue tarea { llamada with punto := .manda day }) :=
        fiel.sigue (enCurso.copia punto)
      unfold Estado.avanzaLlamada
      rw [punto]
      exact ⟨copiado.entregadas, copiado.enCurso⟩
  | manda day =>
      unfold Estado.avanzaLlamada
      rw [punto]
      exact fiel.sigue (enCurso.dia punto fun copiando =>
        (limpio llamada suya copiando).2 day punto)

/-- A clean step keeps the promises. -/
theorem paso (fiel : Fiel s) {evento : Evento} (limpio : s.Limpio evento) :
    Fiel (s.paso evento) := by
  cases evento with
  | llama tarea data =>
      unfold Estado.paso
      dsimp only
      split_ifs
      · exact fiel.sigue (enCurso_nueva data)
      · exact fiel
  | avanza tarea =>
      cases llamada_eq : s.llamada tarea with
      | none => rwa [Estado.paso, llamada_eq]
      | some llamada =>
          rw [Estado.paso, llamada_eq]
          exact fiel.avanza llamada_eq limpio
  | bloque buffer =>
      unfold Estado.paso
      dsimp only
      by_cases enCurso : s.updateTaskrunning = true
      · rwa [if_pos enCurso]
      · rw [if_neg enCurso]
        constructor
        case entregadas => exact fiel.entregadas
        case enCurso =>
          intro tarea otra despues
          obtain ⟨llamada, suya, rfl⟩ := Option.map_eq_some_iff.mp despues
          refine (fiel.enCurso tarea llamada suya).recibeBloque fun probada flag => ?_
          exact limpio (Bool.of_not_eq_true enCurso) (eq_of_beq flag).symm tarea llamada suya
            probada
  | actualizacion enCurso => exact ⟨fiel.entregadas, fiel.enCurso⟩

theorem inicial : Fiel Estado.inicial where
  entregadas _ _ nada := nomatch nada
  enCurso _ _ nada := nomatch nada

end Fiel

/-! ## The sender returns -/

/-- The statements left until a call returns. -/
def Llamada.restante (llamada : Llamada) : Nat :=
  match llamada.punto with
  | .mientras => 16 * (3 - llamada.attempts.toNat) + 2
  | .dia day => 16 * (3 - llamada.attempts.toNat) + 1 - 2 * day
  | .manda day => 16 * (3 - llamada.attempts.toNat) - 2 * day
  | .espera => 16 * (3 - llamada.attempts.toNat) - 13
  | .salida => 1

/-- The attempts of a call in progress are within their bound. -/
def Llamada.Acotada (llamada : Llamada) : Prop :=
  llamada.attempts.toNat ≤ 3 ∧
    (llamada.punto ≠ .mientras → llamada.punto ≠ .salida → llamada.attempts.toNat < 3)

/-- A statement of a sender is one less to go, or the return; it leaves the other task's
calls alone. -/
theorem avanzaLlamada_cases (s : Estado) (tarea : Tarea) {llamada : Llamada}
    (acotada : llamada.Acotada) :
    (s.avanzaLlamada tarea llamada).llamada = Function.update s.llamada tarea none ∧
        (s.avanzaLlamada tarea llamada).terminadas =
          Function.update s.terminadas tarea (s.terminadas tarea ++ [llamada]) ∨
      (s.avanzaLlamada tarea llamada).terminadas = s.terminadas ∧
        ∃ otra, (s.avanzaLlamada tarea llamada).llamada =
            Function.update s.llamada tarea (some otra) ∧
          otra.data = llamada.data ∧ otra.Acotada ∧ otra.restante < llamada.restante := by
  rcases acotada with ⟨cota, dentro⟩
  unfold Estado.avanzaLlamada
  cases punto : llamada.punto with
  | mientras =>
      right
      refine ⟨rfl, s.trasTest llamada, rfl, rfl, ⟨cota, ?_⟩, ?_⟩
      · intro _ fuera
        by_cases entra : (!s.flagScheduleAck && decide (llamada.attempts < 3)) = true
        · rw [Bool.and_eq_true, decide_eq_true_iff, UInt8.lt_iff_toNat_lt] at entra
          exact entra.2
        · exact absurd (if_neg entra) fuera
      · simp only [Llamada.restante, punto, Estado.trasTest]
        split
        case h_1 otro => split at otro <;> cases otro
        case h_2 => omega
        case h_3 otro => split at otro <;> cases otro
        case h_4 otro => split at otro <;> cases otro
        case h_5 => omega
  | dia day =>
      right
      have menos := dentro (by rw [punto]; nofun) (by rw [punto]; nofun)
      refine ⟨rfl, _, rfl, rfl, ⟨cota, fun _ _ => menos⟩, ?_⟩
      simp only [Llamada.restante, punto]
      omega
  | manda day =>
      right
      have menos := dentro (by rw [punto]; nofun) (by rw [punto]; nofun)
      refine ⟨rfl, s.trasDia llamada day, rfl, rfl, ⟨cota, fun _ _ => menos⟩, ?_⟩
      simp only [Llamada.restante, punto, Estado.trasDia]
      by_cases more : day.val + 1 < 7
      · simp only [dif_pos more]
        omega
      · simp only [dif_neg more]
        omega
  | espera =>
      right
      have menos := dentro (by rw [punto]; nofun) (by rw [punto]; nofun)
      have otro_intento : (llamada.attempts + 1).toNat = llamada.attempts.toNat + 1 := by
        rw [UInt8.toNat_add]
        exact Nat.mod_eq_of_lt (by simp; omega)
      refine ⟨rfl, _, rfl, rfl, ⟨?_, fun fuera => absurd rfl fuera⟩, ?_⟩
      · dsimp only
        omega
      · simp only [Llamada.restante, punto, otro_intento]
        omega
  | salida => exact .inl ⟨rfl, rfl⟩

/-- A statement of another task. -/
theorem paso_avanza_otra {s : Estado} {tarea otra : Tarea} (distinta : otra ≠ tarea) :
    (s.paso (.avanza otra)).llamada tarea = s.llamada tarea ∧
      (s.paso (.avanza otra)).terminadas tarea = s.terminadas tarea := by
  cases llamada_eq : s.llamada otra with
  | none =>
      rw [Estado.paso, llamada_eq]
      exact ⟨rfl, rfl⟩
  | some llamada =>
      rw [Estado.paso, llamada_eq]
      change (s.avanzaLlamada otra llamada).llamada tarea = _ ∧
        (s.avanzaLlamada otra llamada).terminadas tarea = _
      unfold Estado.avanzaLlamada Estado.sigue
      split
      all_goals
        dsimp only
        simp [Function.update_of_ne distinta.symm]

/-- What a step leaves of a call in progress: it is still there and no longer to
go, or it has returned. -/
theorem paso_llamada {s : Estado} {tarea : Tarea} {llamada : Llamada}
    (suya : s.llamada tarea = some llamada) (acotada : llamada.Acotada) (evento : Evento) :
    (∃ vuelta, (s.paso evento).terminadas tarea = s.terminadas tarea ++ [vuelta] ∧
        vuelta.data = llamada.data) ∨
      (s.paso evento).terminadas tarea = s.terminadas tarea ∧
        ∃ otra, (s.paso evento).llamada tarea = some otra ∧ otra.data = llamada.data ∧
          otra.Acotada ∧
          otra.restante + [evento].count (.avanza tarea) ≤ llamada.restante := by
  cases evento with
  | llama otra data =>
      right
      by_cases misma : otra = tarea
      · subst misma
        have ocupada : s.paso (.llama otra data) = s :=
          if_neg (by rw [suya]; exact Bool.false_ne_true)
        rw [ocupada]
        exact ⟨rfl, llamada, suya, rfl, acotada, by simp⟩
      · have queda : (s.paso (.llama otra data)).llamada tarea = s.llamada tarea ∧
            (s.paso (.llama otra data)).terminadas tarea = s.terminadas tarea := by
          unfold Estado.paso Estado.sigue
          dsimp only
          split_ifs
          · exact ⟨Function.update_of_ne (Ne.symm misma) _ _, rfl⟩
          · exact ⟨rfl, rfl⟩
        exact ⟨queda.2, llamada, queda.1.trans suya, rfl, acotada, by simp⟩
  | avanza otra =>
      by_cases misma : otra = tarea
      · subst misma
        have avanza : s.paso (.avanza otra) = s.avanzaLlamada otra llamada := by
          rw [Estado.paso, suya]
          rfl
        rw [avanza]
        rcases avanzaLlamada_cases s otra acotada with
          ⟨_, vuelve⟩ | ⟨mismas, next, sigue, data, acotada', menos⟩
        · exact .inl ⟨llamada, by rw [vuelve, Function.update_self], rfl⟩
        · exact .inr ⟨by rw [mismas], next, by rw [sigue, Function.update_self], data, acotada',
            by rw [List.count_singleton_self]; exact menos⟩
      · obtain ⟨queda, mismas⟩ := paso_avanza_otra (s := s) misma
        exact .inr ⟨mismas, llamada, queda.trans suya, rfl, acotada, by simp [misma]⟩
  | bloque buffer =>
      right
      unfold Estado.paso
      dsimp only
      split_ifs
      · exact ⟨rfl, llamada, suya, rfl, acotada, by simp⟩
      · exact ⟨rfl, _, congrArg (Option.map _) suya, rfl, acotada, by simp [Llamada.restante]⟩
  | actualizacion enCurso => exact .inr ⟨rfl, llamada, suya, rfl, acotada, by simp⟩

/-- The calls that have returned stay as they are. -/
theorem prefijo_terminadas (s : Estado) (tarea : Tarea) (evento : Evento) :
    s.terminadas tarea <+: (s.paso evento).terminadas tarea := by
  cases evento with
  | llama otra data =>
      unfold Estado.paso
      dsimp only
      split_ifs <;> exact List.prefix_rfl
  | avanza otra =>
      by_cases misma : otra = tarea
      · subst misma
        cases llamada_eq : s.llamada otra with
        | none => rw [Estado.paso, llamada_eq]; exact List.prefix_rfl
        | some llamada =>
            rw [Estado.paso, llamada_eq]
            show s.terminadas otra <+: (s.avanzaLlamada otra llamada).terminadas otra
            unfold Estado.avanzaLlamada
            split
            case h_5 =>
              dsimp only
              rw [Function.update_self]
              exact List.prefix_append _ _
            all_goals exact List.prefix_rfl
      · exact (paso_avanza_otra misma).2 ▸ List.prefix_rfl
  | bloque buffer =>
      unfold Estado.paso
      dsimp only
      split_ifs <;> exact List.prefix_rfl
  | actualizacion enCurso => exact List.prefix_rfl

theorem prefijo_terminadas_correr (s : Estado) (tarea : Tarea) (eventos : List Evento) :
    s.terminadas tarea <+: (s.correr eventos).terminadas tarea := by
  induction eventos generalizing s with
  | nil => exact List.prefix_rfl
  | cons evento resto ih => exact (prefijo_terminadas s tarea evento).trans (ih (s.paso evento))

theorem restante_pos {llamada : Llamada} (acotada : llamada.Acotada) : 0 < llamada.restante := by
  rcases acotada with ⟨-, dentro⟩
  unfold Llamada.restante
  split
  case h_1 => omega
  case h_2 day punto =>
    have := dentro (by rw [punto]; nofun) (by rw [punto]; nofun)
    omega
  case h_3 day punto =>
    have := dentro (by rw [punto]; nofun) (by rw [punto]; nofun)
    omega
  case h_4 punto =>
    have := dentro (by rw [punto]; nofun) (by rw [punto]; nofun)
    omega
  case h_5 => omega

theorem restante_le (llamada : Llamada) : llamada.restante ≤ 50 := by
  unfold Llamada.restante
  split <;> omega

/-- A call in progress returns after the statements that were left, whatever
arrives between them and whatever the other task does. -/
theorem vuelve {s : Estado} {tarea : Tarea} {llamada : Llamada}
    (suya : s.llamada tarea = some llamada) (acotada : llamada.Acotada) (eventos : List Evento)
    (suficientes : llamada.restante ≤ eventos.count (.avanza tarea)) :
    ∃ vuelta, ((s.correr eventos).terminadas tarea)[(s.terminadas tarea).length]? = some vuelta ∧
      vuelta.data = llamada.data := by
  induction eventos generalizing s llamada with
  | nil => exact absurd suficientes (Nat.not_le.mpr (restante_pos acotada))
  | cons evento resto ih =>
      have cuenta : ([evento] ++ resto).count (.avanza tarea) =
          [evento].count (.avanza tarea) + resto.count (.avanza tarea) := List.count_append
      rw [List.singleton_append] at cuenta
      rw [cuenta] at suficientes
      rcases paso_llamada suya acotada evento with
        ⟨vuelta, terminadas, data⟩ | ⟨mismas, otra, sigue, data, acotada', menos⟩
      · obtain ⟨mas, final⟩ := prefijo_terminadas_correr (s.paso evento) tarea resto
        refine ⟨vuelta, ?_, data⟩
        show (((s.paso evento).correr resto).terminadas tarea)[(s.terminadas tarea).length]? =
          some vuelta
        rw [← final, terminadas]
        simp
      · obtain ⟨vuelta, esta, data'⟩ := ih sigue acotada' (by omega)
        rw [mismas] at esta
        exact ⟨vuelta, esta, data'.trans data⟩

/-- In every run whose steps are clean, a call that has returned has written the
frames of all seven days and has retried until an echo of its matrix; and every
call returns. -/
theorem horario_entregado (eventos : List Evento)
    (limpios : Along Estado.Limpio Estado.paso eventos Estado.inicial) (tarea : Tarea) :
    (∀ llamada ∈ (Estado.inicial.correr eventos).terminadas tarea, llamada.Entregada) ∧
      ∀ llamada ∈ (Estado.inicial.correr eventos).llamada tarea, ∀ siguen : List Evento,
        50 ≤ siguen.count (.avanza tarea) →
        ∃ vuelta,
          (((Estado.inicial.correr eventos).correr siguen).terminadas tarea)[
            ((Estado.inicial.correr eventos).terminadas tarea).length]? = some vuelta ∧
          vuelta.data = llamada.data := by
  have fiel : Fiel (Estado.inicial.correr eventos) :=
    limpios.invariant Fiel Fiel.inicial fun _ _ fiel limpio => fiel.paso limpio
  constructor
  · exact fiel.entregadas tarea
  · intro llamada suya siguen suficientes
    have enCurso := fiel.enCurso tarea llamada suya
    have acotada : llamada.Acotada :=
      ⟨UInt8.le_iff_toNat_le.mp enCurso.acotada,
        fun fuera dentro => UInt8.lt_iff_toNat_lt.mp (enCurso.dentro fuera dentro)⟩
    exact vuelve suya acotada siguen (Nat.le_trans (restante_le llamada) suficientes)

/-- A matrix with one value in all hours. -/
def constante (corriente : UInt8) : Matriz :=
  Vector.replicate 7 (Vector.replicate 24 corriente)

/-- A call whose matrix is echoed once. -/
def unaLlamada (tarea : Tarea) (data : Matriz) : List Evento :=
  .llama tarea data :: List.replicate 15 (.avanza tarea) ++
    [.bloque data, .avanza tarea, .avanza tarea, .avanza tarea]

/-- Both tasks send a schedule, one after the other. -/
def dosLlamadas : List Evento :=
  unaLlamada .firebase (constante 16) ++ unaLlamada .ble (constante 6)

theorem horario_entregado_dosLlamadas :
    (∀ llamada ∈ (Estado.inicial.correr dosLlamadas).terminadas .ble, llamada.Entregada) ∧
      ∀ llamada ∈ (Estado.inicial.correr dosLlamadas).llamada .ble,
        ∀ siguen : List Evento, 50 ≤ siguen.count (.avanza .ble) →
        ∃ vuelta,
          (((Estado.inicial.correr dosLlamadas).correr siguen).terminadas .ble)[
            ((Estado.inicial.correr dosLlamadas).terminadas .ble).length]? = some vuelta ∧
          vuelta.data = llamada.data :=
  horario_entregado dosLlamadas (by decide +kernel) .ble

/-- The echo comes twice, the second time behind the call: the next call sends
nothing of its matrix. -/
theorem horario_perdido :
    ¬ ∀ llamada ∈ (Estado.inicial.correr (unaLlamada .ble (constante 16) ++
        .bloque (constante 16) :: .llama .ble (constante 6) ::
          List.replicate 2 (.avanza .ble))).terminadas .ble, llamada.Entregada := by
  decide +kernel

/-! ## What goes wrong otherwise -/

/-- A flag left over from an earlier call: the call returns with nothing sent. -/
theorem perdida {s : Estado} {tarea : Tarea} {llamada : Llamada}
    (suya : s.llamada tarea = some llamada) (punto : llamada.punto = .mientras)
    (nada : llamada.tramas = []) (flag : s.flagScheduleAck = true) :
    ∃ vuelta ∈ (s.correr [.avanza tarea, .avanza tarea]).terminadas tarea,
      vuelta.data = llamada.data ∧ ¬ vuelta.Entregada := by
  have primero : s.paso (.avanza tarea) = s.sigue tarea { llamada with punto := .salida } := by
    simp [Estado.paso, suya, Estado.avanzaLlamada, punto, Estado.trasTest, flag]
  refine ⟨{ llamada with punto := .salida }, ?_, rfl, ?_⟩
  · show _ ∈ ((s.paso (.avanza tarea)).paso (.avanza tarea)).terminadas tarea
    rw [primero]
    simp [Estado.paso, Estado.sigue, Estado.avanzaLlamada]
  · rintro ⟨todas, -⟩
    have primera := todas 0
    rw [nada] at primera
    exact absurd primera List.not_mem_nil

/-- The call in progress is in its first pass, or at its end, with the flag set
and no echo of its matrix. -/
def Confundido (s : Estado) (llamada : Llamada) : Prop :=
  s.flagScheduleAck = true ∧ llamada.eco = false ∧
    match llamada.punto with
    | .mientras => llamada.attempts = 1
    | .dia _ => llamada.attempts = 0
    | .manda _ => llamada.attempts = 0
    | .espera => llamada.attempts = 0
    | .salida => llamada.attempts = 1

/-- A confused call that goes on is confused still, and has not returned. -/
theorem Confundido.sigue {s : Estado} {llamada : Llamada} (tarea : Tarea)
    (confundido : Confundido s llamada) :
    (∀ otra ∈ (s.sigue tarea llamada).llamada tarea, Confundido (s.sigue tarea llamada) otra) ∧
      (s.sigue tarea llamada).terminadas tarea = s.terminadas tarea := by
  unfold Estado.sigue
  dsimp only
  rw [Function.update_self]
  constructor
  · rintro _ ⟨⟩
    exact confundido
  · rfl

theorem Confundido.avanza {s : Estado} {llamada : Llamada} (tarea : Tarea)
    (confundido : Confundido s llamada) :
    (∀ otra ∈ (s.avanzaLlamada tarea llamada).llamada tarea,
        Confundido (s.avanzaLlamada tarea llamada) otra) ∧
      ((s.avanzaLlamada tarea llamada).terminadas tarea = s.terminadas tarea ∨
        ∃ vuelta,
          (s.avanzaLlamada tarea llamada).terminadas tarea = s.terminadas tarea ++ [vuelta] ∧
            ¬ vuelta.Entregada) := by
  rcases confundido with ⟨flag, eco, intento⟩
  unfold Estado.avanzaLlamada
  cases punto : llamada.punto with
  | mientras =>
      rw [punto] at intento
      have igual : Confundido s (s.trasTest llamada) :=
        ⟨flag, eco, by simpa [Estado.trasTest, flag] using intento⟩
      exact (igual.sigue tarea).imp_right .inl
  | dia day =>
      rw [punto] at intento
      have igual : Confundido
          { s with globalScheduleBuffer := s.globalScheduleBuffer.set day (llamada.data[day]) }
          { llamada with punto := .manda day } := ⟨flag, eco, intento⟩
      exact (igual.sigue tarea).imp_right .inl
  | manda day =>
      rw [punto] at intento
      have igual : Confundido s (s.trasDia llamada day) := by
        refine ⟨flag, eco, ?_⟩
        by_cases more : day.val + 1 < 7
        · simpa [Estado.trasDia, more] using intento
        · simpa [Estado.trasDia, more] using intento
      exact (igual.sigue tarea).imp_right .inl
  | espera =>
      rw [punto] at intento
      have igual : Confundido s
          { llamada with punto := .mientras, attempts := llamada.attempts + 1 } := by
        refine ⟨flag, eco, ?_⟩
        show llamada.attempts + 1 = 1
        rw [show llamada.attempts = 0 from intento]
        rfl
      exact (igual.sigue tarea).imp_right .inl
  | salida =>
      rw [punto] at intento
      dsimp only
      rw [Function.update_self, Function.update_self]
      constructor
      · exact fun _ nada => nomatch nada
      · right
        refine ⟨llamada, rfl, ?_⟩
        rintro ⟨-, confirmada⟩
        have pocos : llamada.attempts < 3 := by
          rw [show llamada.attempts = 1 from intento]
          decide
        exact absurd (eco.symm.trans (confirmada pocos)) Bool.false_ne_true

/-- The call of the task is confused, and its calls that have returned since the
first `antes` of them have broken the promise. -/
structure Confundidos (antes : Nat) (tarea : Tarea) (s : Estado) : Prop where
  enCurso : ∀ llamada ∈ s.llamada tarea, Confundido s llamada
  cota : antes ≤ (s.terminadas tarea).length
  fallan : ∀ vuelta ∈ (s.terminadas tarea).drop antes, ¬ vuelta.Entregada

theorem Confundidos.paso {antes : Nat} {tarea : Tarea} {s : Estado}
    (confundidos : Confundidos antes tarea s) :
    Confundidos antes tarea (s.paso (.avanza tarea)) := by
  cases llamada_eq : s.llamada tarea with
  | none => rwa [Estado.paso, llamada_eq]
  | some llamada =>
      rw [Estado.paso, llamada_eq]
      obtain ⟨siguen, mismas | ⟨vuelta, terminadas, falla⟩⟩ :=
        (confundidos.enCurso llamada llamada_eq).avanza tarea
      · exact ⟨siguen, mismas ▸ confundidos.cota, mismas ▸ confundidos.fallan⟩
      · constructor
        case enCurso => exact siguen
        case cota =>
          show antes ≤ ((s.avanzaLlamada tarea llamada).terminadas tarea).length
          rw [terminadas, List.length_append]
          exact Nat.le_add_right_of_le confundidos.cota
        case fallan =>
          show ∀ vuelta ∈ ((s.avanzaLlamada tarea llamada).terminadas tarea).drop antes,
            ¬ vuelta.Entregada
          rw [terminadas, List.drop_append_of_le_length confundidos.cota]
          intro otra esta
          rcases List.mem_append.mp esta with anterior | nueva
          · exact confundidos.fallan otra anterior
          · rwa [List.mem_singleton.mp nueva]

theorem Confundidos.correr {antes : Nat} {tarea : Tarea} {s : Estado}
    (confundidos : Confundidos antes tarea s) (n : Nat) :
    Confundidos antes tarea (s.correr (List.replicate n (.avanza tarea))) := by
  induction n generalizing s with
  | zero => exact confundidos
  | succ n ih => exact ih confundidos.paso

/-- An echo of another matrix while the days are being copied: the call, if the other
task does not go on, returns after one pass, and no echo of its matrix has arrived. -/
theorem confundida {s : Estado} {tarea : Tarea} {llamada : Llamada}
    (suya : s.llamada tarea = some llamada) (acotada : llamada.Acotada)
    (confundido : Confundido s llamada) :
    ∃ vuelta ∈ (s.correr (List.replicate 50 (.avanza tarea))).terminadas tarea,
      vuelta.data = llamada.data ∧ ¬ vuelta.Entregada := by
  have empieza : Confundidos (s.terminadas tarea).length tarea s := by
    constructor
    case enCurso =>
      intro otra esta
      rwa [← Option.some.inj (suya.symm.trans esta)]
    case cota => exact Nat.le_refl _
    case fallan => simp
  obtain ⟨vuelta, esta, data⟩ :=
    vuelve suya acotada (List.replicate 50 (.avanza tarea))
      (by rw [List.count_replicate_self]; exact restante_le llamada)
  refine ⟨vuelta, List.mem_of_getElem? esta, data, (empieza.correr 50).fallan vuelta ?_⟩
  apply List.mem_of_getElem? (i := 0)
  rw [List.getElem?_drop]
  exact esta

end VeltiumCharger.Horario
