import VeltiumCharger.Library.Checked
import VeltiumCharger.Library.Run

/-!
# The answers of the database

The HTTP client hands the answer to a request over piece by piece, and the handler
appends the pieces in `TotalResponse`, a buffer that all the requests share.  Some
requests parse what is there, others only clear it, and some do neither.  A run is a
list of requests, each with the events that the client delivers and its result.
-/

namespace VeltiumCharger.Nube.Respuestas

open VeltiumCharger.Run VeltiumCharger.Checked VeltiumCharger.Buffer

/-- Bytes by their places. -/
abbrev Memoria := Nat → UInt8

/-- An event of the client; with a connection, what is in the new buffer that the
handler takes. -/
inductive Suceso
  | onConnected (basura : Memoria)
  | onData (chunk : List UInt8)
  | onFinish
  | otro

/-- `FinishReading`, `Readed` and `TotalResponse`. -/
structure Recepcion where
  finishReading : Bool
  readed : Nat
  totalResponse : Memoria

/-- When the program starts. -/
def Recepcion.inicial (basura : Memoria) : Recepcion :=
  ⟨false, 0, basura⟩

namespace Recepcion

variable (s : Recepcion)

/-- `HTTP_EVENT_ON_DATA`: `esp_http_client_read` copies the piece to `Respuesta`, of 512
bytes, and `memcpy` from there to `TotalResponse`, of 1500. -/
def onData (chunk : List UInt8) : Option Recepcion :=
  if chunk = [] then
    some s
  else
    (store 512 0 chunk fun _ => 0).bind fun respuesta =>
      (loadMany 512 respuesta 0 chunk.length).bind fun bytes =>
        (store 1500 s.readed bytes s.totalResponse).map fun totalResponse =>
          { s with totalResponse := totalResponse, readed := s.readed + chunk.length }

/-- `_http_event_handle`, which has no result when it writes outside a buffer. -/
def httpEventHandle : Suceso → Option Recepcion
  | .onConnected basura => some ⟨false, 0, basura⟩
  | .onData chunk => s.onData chunk
  | .onFinish => some { s with finishReading := true }
  | .otro => some s

/-- `esp_http_client_perform`, with the events it delivers. -/
def perform (s : Recepcion) : List Suceso → Option Recepcion
  | [] => some s
  | suceso :: rest => (s.httpEventHandle suceso).bind fun s => s.perform rest

end Recepcion

/-- The result of `esp_http_client_perform`. -/
inductive Err
  | ok
  | httpConnect
  | otro
  deriving DecidableEq, Repr

/-- The commands of `Send_Command`. -/
inductive Command
  | write
  | update
  | timestamp
  | read
  | readRoot
  deriving DecidableEq, Repr

/-- `FB_WRITE`, `FB_UPDATE`, `FB_TIMESTAMP`, `FB_READ` and `FB_READ_ROOT`. -/
def Command.valor : Command → Nat
  | .write => 0
  | .update => 1
  | .timestamp => 4
  | .read => 5
  | .readRoot => 6

/-- The requests of the database client. -/
inductive Consulta
  | sendCommand (command : Command)
  | getTimestamp
  | checkPermisions
  deriving DecidableEq, Repr

/-- What a request parses: nothing, a text, or memory in which no end of the text is
found. -/
inductive Leido
  | nada
  | cadena (bytes : List UInt8)
  | sinFinal

namespace Recepcion

variable (s : Recepcion)

/-- The two variables are cleared. -/
def limpia : Recepcion :=
  { s with finishReading := false, readed := 0 }

/-- The loop that waits for `FinishReading`, which only the handler sets, and the text
`std::string s(TotalResponse, TotalResponse+Readed)`. -/
def espera : Recepcion × Leido :=
  if s.finishReading then
    (s.limpia, .cadena ((List.range s.readed).map s.totalResponse))
  else
    (s, .nada)

/-- What follows `esp_http_client_perform`. -/
def trasConsulta : Consulta → Err → Recepcion × Leido
  | .sendCommand command, .ok => if command.valor < 5 then (s.limpia, .nada) else s.espera
  | .getTimestamp, .ok | .checkPermisions, .ok => s.espera
  | .getTimestamp, .httpConnect => (s.limpia, .nada)
  | _, _ => (s, .nada)

/-- `LogIn` parses `TotalResponse` up to its first NUL. -/
def leeCadena : Leido :=
  if 0 ∈ (List.range 1500).map s.totalResponse then
    .cadena (cString 0 1500 s.totalResponse)
  else
    .sinFinal

/-- What follows it in `LogIn`; the texts that are parsed are written over the buffer. -/
def trasLogIn (reescrito : Memoria) : Err → Recepcion × Leido
  | .ok => ({ s with totalResponse := reescrito }, s.leeCadena)
  | _ => (s, .nada)

end Recepcion

/-- A request, with the events that its client delivers and the result.  `LogIn` makes
a client of its own, which connects first or delivers nothing, and what it parses leaves
the buffer rewritten. -/
inductive Peticion
  | consulta (consulta : Consulta) (sucesos : List Suceso) (err : Err)
  | logIn (basura : Memoria) (sucesos : List Suceso) (err : Err) (reescrito : Memoria)
  | logInSinConexion

/-- The events of a request. -/
def Peticion.sucesos : Peticion → List Suceso
  | .consulta _ sucesos _ => sucesos
  | .logIn basura sucesos _ _ => .onConnected basura :: sucesos
  | .logInSinConexion => []

/-- What follows them. -/
def Recepcion.tras (s : Recepcion) : Peticion → Recepcion × Leido
  | .consulta consulta _ err => s.trasConsulta consulta err
  | .logIn _ _ err reescrito => s.trasLogIn reescrito err
  | .logInSinConexion => s.trasLogIn s.totalResponse .httpConnect

/-- A request, with what it parses. -/
def Recepcion.pide (s : Recepcion) (peticion : Peticion) : Option (Recepcion × Leido) :=
  (s.perform peticion.sucesos).map fun s => s.tras peticion

/-- The state after a request.  After a write outside the buffers nothing is known, and
the state is left as it is. -/
def siguiente (s : Recepcion) (peticion : Peticion) : Recepcion :=
  ((s.pide peticion).map Prod.fst).getD s

/-! ## What is promised -/

/-- The bytes of an event. -/
def Suceso.datos : Suceso → List UInt8
  | .onData chunk => chunk
  | _ => []

/-- The pieces of an answer, one after the other. -/
def datos (sucesos : List Suceso) : List UInt8 :=
  sucesos.flatMap Suceso.datos

/-- The request stays inside the buffers, and what it parses is its own answer. -/
def Bien (s : Recepcion) (peticion : Peticion) : Prop :=
  ∃ despues leido, s.pide peticion = some (despues, leido) ∧
    (leido = .nada ∨ leido = .cadena (datos peticion.sucesos))

/-! ## When it is kept -/

/-- It connects. -/
def Suceso.conecta : Suceso → Bool
  | .onConnected _ => true
  | _ => false

/-- The pieces fit, the first one behind `readed` bytes. -/
def Cabe : Nat → List Suceso → Prop
  | _, [] => True
  | _, .onConnected _ :: rest => Cabe 0 rest
  | readed, .onData chunk :: rest =>
      (chunk = [] ∨ chunk.length ≤ 512 ∧ readed + chunk.length ≤ 1500) ∧
        Cabe (readed + chunk.length) rest
  | readed, .onFinish :: rest | readed, .otro :: rest => Cabe readed rest

/-- The bytes that come before a connection of the same request. -/
def perdidos : List Suceso → List UInt8
  | [] => []
  | suceso :: rest => if rest.any Suceso.conecta then suceso.datos ++ perdidos rest else []

/-- The bytes behind the last connection. -/
def recibidos : List Suceso → List UInt8
  | [] => []
  | suceso :: rest =>
      if rest.any Suceso.conecta then recibidos rest else suceso.datos ++ datos rest

/-- The buffer of the last connection, or the one there was. -/
def fondo : Memoria → List Suceso → Memoria
  | mem, [] => mem
  | _, .onConnected basura :: rest => fondo basura rest
  | mem, _ :: rest => fondo mem rest

/-- `FinishReading` behind the events. -/
def acaba : Bool → List Suceso → Bool
  | fin, [] => fin
  | _, .onConnected _ :: rest => acaba false rest
  | _, .onFinish :: rest => acaba true rest
  | fin, _ :: rest => acaba fin rest

/-- The request parses what it has received. -/
def Analiza (fin : Bool) : Consulta → Err → Prop
  | .sendCommand command, .ok => 5 ≤ command.valor ∧ fin = true
  | .getTimestamp, .ok | .checkPermisions, .ok => fin = true
  | _, _ => False

/-- The answer to `LogIn` has no NUL, and one stands behind it in the buffer, which
holds what a connection lost, if anything. -/
def Terminada (basura : Memoria) (sucesos : List Suceso) : Prop :=
  0 ∉ datos sucesos ∧ (datos sucesos).length < 1500 ∧
    ∃ falta, datos sucesos = recibidos sucesos ++ falta ∧
      Begins (fun k => fondo basura sucesos ((recibidos sucesos).length + k)) (falta ++ [0])

/-- The condition on a request and on the state before it: the pieces fit; a request of
the database that is parsed loses nothing at a connection, and it connects or `Readed`
is 0; and `LogIn`, when it succeeds, finds the end of its answer. -/
def Cumple (s : Recepcion) : Peticion → Prop
  | .consulta consulta sucesos err =>
      Cabe s.readed sucesos ∧
        (Analiza (acaba s.finishReading sucesos) consulta err →
          perdidos sucesos = [] ∧ (sucesos.any Suceso.conecta = true ∨ s.readed = 0))
  | .logIn basura sucesos err _ => Cabe 0 sucesos ∧ (err = .ok → Terminada basura sucesos)
  | .logInSinConexion => True

section Sucesos

variable {sucesos rest : List Suceso} {suceso : Suceso} {mem other : Memoria}

theorem datos_cons : datos (suceso :: rest) = suceso.datos ++ datos rest :=
  List.flatMap_cons

theorem recibidos_of_not_conecta (sin : sucesos.any Suceso.conecta = false) :
    recibidos sucesos = datos sucesos := by
  cases sucesos with
  | nil => rfl
  | cons suceso rest =>
    have sinRest : ¬ rest.any Suceso.conecta = true := by simp_all
    rw [recibidos, if_neg sinRest, datos_cons]

theorem recibidos_cons (vacio : suceso.datos = []) :
    recibidos (suceso :: rest) = recibidos rest := by
  rw [recibidos, vacio, List.nil_append]
  split_ifs with con
  · rfl
  · exact (recibidos_of_not_conecta (Bool.not_eq_true _ ▸ con)).symm

theorem perdidos_of_not_conecta (sin : sucesos.any Suceso.conecta = false) :
    perdidos sucesos = [] := by
  cases sucesos with
  | nil => rfl
  | cons suceso rest =>
    have sinRest : ¬ rest.any Suceso.conecta = true := by simp_all
    rw [perdidos, if_neg sinRest]

/-- Every byte is lost at a connection or behind the last one. -/
theorem datos_eq : datos sucesos = perdidos sucesos ++ recibidos sucesos := by
  induction sucesos with
  | nil => rfl
  | cons suceso rest ih =>
    rw [datos_cons, perdidos, recibidos]
    split_ifs
    · rw [ih, List.append_assoc]
    · rw [List.nil_append]

theorem fondo_of_conecta (con : sucesos.any Suceso.conecta = true) :
    fondo mem sucesos = fondo other sucesos := by
  induction sucesos with
  | nil => simp at con
  | cons suceso rest ih =>
    cases suceso with
    | onConnected => rfl
    | onData | onFinish | otro => exact ih (by simpa [Suceso.conecta] using con)

theorem fondo_of_not_conecta (sin : sucesos.any Suceso.conecta = false) :
    fondo mem sucesos = mem := by
  induction sucesos with
  | nil => rfl
  | cons suceso rest ih =>
    cases suceso with
    | onConnected => simp [Suceso.conecta] at sin
    | onData | onFinish | otro => exact ih (by simpa [Suceso.conecta] using sin)

end Sucesos

/-! ## The handler -/

section Handler

variable {s : Recepcion} {sucesos : List Suceso}

/-- Where the bytes behind the last connection start. -/
def inicio (readed : Nat) (sucesos : List Suceso) : Nat :=
  if sucesos.any Suceso.conecta then 0 else readed

theorem inicio_cons {suceso : Suceso} {rest : List Suceso} {readed : Nat}
    (sin : suceso.conecta = false) : inicio readed (suceso :: rest) = inicio readed rest := by
  rw [inicio, inicio, List.any_cons, sin, Bool.false_or]

/-- The state behind the events, when nothing is written outside. -/
def recibe (s : Recepcion) (sucesos : List Suceso) : Recepcion where
  finishReading := acaba s.finishReading sucesos
  readed := inicio s.readed sucesos + (recibidos sucesos).length
  totalResponse :=
    write (inicio s.readed sucesos) (recibidos sucesos) (fondo s.totalResponse sucesos)

theorem onData_eq_some {chunk : List UInt8}
    (fits : chunk = [] ∨ chunk.length ≤ 512 ∧ s.readed + chunk.length ≤ 1500) :
    s.onData chunk = some { s with
      totalResponse := write s.readed chunk s.totalResponse
      readed := s.readed + chunk.length } := by
  unfold Recepcion.onData
  by_cases vacio : chunk = []
  · rw [if_pos vacio, vacio, write_nil]
    rfl
  · obtain ⟨trozo, total⟩ := fits.resolve_left vacio
    have copia := (begins_write_zero chunk fun _ => 0).eq_map
    rw [if_neg vacio, store_of_le (by omega), Option.bind_some,
      loadMany_zero (by omega), Option.bind_some, copia, store_of_le total, Option.map_some]

theorem onData_eq_none {chunk : List UInt8}
    (fuera : ¬ (chunk = [] ∨ chunk.length ≤ 512 ∧ s.readed + chunk.length ≤ 1500)) :
    s.onData chunk = none := by
  obtain ⟨lleno, fuera⟩ := not_or.mp fuera
  have largo : chunk.length ≠ 0 := by simpa using lleno
  unfold Recepcion.onData
  rw [if_neg lleno, ← Option.not_isSome_iff_eq_none]
  intro dentro
  simp only [isSome_store_bind, isSome_loadMany_bind, Option.isSome_map, isSome_store,
    List.length_map, List.length_range] at dentro
  omega

theorem perform_onData {chunk : List UInt8} {rest : List Suceso}
    (fits : chunk = [] ∨ chunk.length ≤ 512 ∧ s.readed + chunk.length ≤ 1500) :
    s.perform (.onData chunk :: rest) = Recepcion.perform { s with
      totalResponse := write s.readed chunk s.totalResponse
      readed := s.readed + chunk.length } rest := by
  rw [Recepcion.perform, Recepcion.httpEventHandle, onData_eq_some fits, Option.bind_some]

/-- A piece and what comes behind it, when there is a connection between them or not. -/
theorem recibe_onData {chunk : List UInt8} {rest : List Suceso} :
    recibe { s with
      totalResponse := write s.readed chunk s.totalResponse
      readed := s.readed + chunk.length } rest = recibe s (.onData chunk :: rest) := by
  cases con : rest.any Suceso.conecta with
  | true =>
    have same := @fondo_of_conecta rest (write s.readed chunk s.totalResponse) s.totalResponse con
    simp [recibe, inicio, recibidos, fondo, acaba, Suceso.conecta, con, same]
  | false =>
    simp only [recibe, inicio, recibidos, fondo, acaba, Suceso.conecta, Suceso.datos,
      fondo_of_not_conecta con, recibidos_of_not_conecta con, con, List.any_cons, Bool.or_self,
      Bool.false_eq_true, if_false, List.length_append, Nat.add_assoc, write_append]

/-- What the events leave when the pieces fit: the bytes behind the last connection,
at its start or behind what there was. -/
theorem perform_of_cabe (cabe : Cabe s.readed sucesos) :
    s.perform sucesos = some (recibe s sucesos) := by
  induction sucesos generalizing s with
  | nil => simp [Recepcion.perform, recibe, acaba, inicio, recibidos, fondo, write_nil]
  | cons suceso rest ih =>
    cases suceso with
    | onConnected basura =>
      have resto : recibe ⟨false, 0, basura⟩ rest = recibe s (.onConnected basura :: rest) := by
        have sale : inicio 0 rest = inicio s.readed (.onConnected basura :: rest) := by
          simp [inicio, Suceso.conecta]
        unfold recibe
        rw [recibidos_cons rfl, ← sale]
        rfl
      rw [Recepcion.perform, Recepcion.httpEventHandle, Option.bind_some, ih cabe, resto]
    | onData chunk => rw [perform_onData cabe.1, ih cabe.2, recibe_onData]
    | onFinish =>
      have resto : recibe { s with finishReading := true } rest = recibe s (.onFinish :: rest) := by
        unfold recibe
        rw [inicio_cons rfl, recibidos_cons rfl]
        rfl
      rw [Recepcion.perform, Recepcion.httpEventHandle, Option.bind_some,
        ih (s := { s with finishReading := true }) cabe, resto]
    | otro =>
      have resto : recibe s rest = recibe s (.otro :: rest) := by
        unfold recibe
        rw [inicio_cons rfl, recibidos_cons rfl]
        rfl
      rw [Recepcion.perform, Recepcion.httpEventHandle, Option.bind_some, ih cabe, resto]

/-- A piece that does not fit is written outside. -/
theorem cabe_of_perform (dentro : (s.perform sucesos).isSome) : Cabe s.readed sucesos := by
  induction sucesos generalizing s with
  | nil => trivial
  | cons suceso rest ih =>
    cases suceso with
    | onConnected basura => exact ih (s := ⟨false, 0, basura⟩) dentro
    | onData chunk =>
      by_cases fits : chunk = [] ∨ chunk.length ≤ 512 ∧ s.readed + chunk.length ≤ 1500
      · rw [perform_onData fits] at dentro
        exact ⟨fits, ih dentro⟩
      · rw [Recepcion.perform, Recepcion.httpEventHandle, onData_eq_none fits] at dentro
        exact absurd dentro (by simp)
    | onFinish => exact ih (s := { s with finishReading := true }) dentro
    | otro => exact ih (s := s) dentro

theorem perform_eq_some_iff {despues : Recepcion} :
    s.perform sucesos = some despues ↔ Cabe s.readed sucesos ∧ recibe s sucesos = despues := by
  constructor
  · intro hecho
    have cabe := cabe_of_perform (by rw [hecho]; rfl)
    rw [perform_of_cabe cabe] at hecho
    exact ⟨cabe, Option.some.inj hecho⟩
  · rintro ⟨cabe, rfl⟩
    exact perform_of_cabe cabe

/-- There are never more than 1500 bytes, so that the texts are read inside. -/
theorem readed_perform_le {despues : Recepcion} (hecho : s.perform sucesos = some despues)
    (antes : s.readed ≤ 1500) : despues.readed ≤ 1500 := by
  induction sucesos generalizing s with
  | nil => exact Option.some.inj hecho ▸ antes
  | cons suceso rest ih =>
    cases suceso with
    | onConnected basura => exact ih (s := ⟨false, 0, basura⟩) hecho (Nat.zero_le _)
    | onData chunk =>
      obtain ⟨fits, -⟩ := cabe_of_perform (by rw [hecho]; rfl)
      rw [perform_onData fits] at hecho
      refine ih hecho ?_
      obtain rfl | ⟨-, cabe⟩ := fits
      · exact antes
      · exact cabe
    | onFinish => exact ih (s := { s with finishReading := true }) hecho antes
    | otro => exact ih (s := s) hecho antes

end Handler

/-! ## What is parsed -/

section Lectura

variable {s : Recepcion} {sucesos : List Suceso}

/-- The text of the database requests: what was there before, and then what has come
behind the last connection. -/
theorem cadena_recibe :
    (List.range (recibe s sucesos).readed).map (recibe s sucesos).totalResponse =
      (List.range (inicio s.readed sucesos)).map (fondo s.totalResponse sucesos) ++
        recibidos sucesos := by
  have begins := (begins_map_range (fondo s.totalResponse sucesos)
    (inicio s.readed sucesos)).write (recibidos sucesos)
  have cadena := begins.eq_map
  simpa [recibe] using cadena

theorem cadena_eq_datos_iff :
    (List.range (recibe s sucesos).readed).map (recibe s sucesos).totalResponse = datos sucesos ↔
      perdidos sucesos = [] ∧ (sucesos.any Suceso.conecta = true ∨ s.readed = 0) := by
  rw [cadena_recibe, datos_eq, List.append_left_inj]
  cases con : sucesos.any Suceso.conecta with
  | true => simp [inicio, con]
  | false => simp [inicio, con, perdidos_of_not_conecta con]

/-- A text is what `LogIn` parses when it has no NUL and one stands behind it. -/
theorem leeCadena_eq_iff {bytes : List UInt8} :
    s.leeCadena = .cadena bytes ↔
      0 ∉ bytes ∧ bytes.length < 1500 ∧ Begins s.totalResponse (bytes ++ [0]) := by
  unfold Recepcion.leeCadena
  split_ifs with final
  · rw [Leido.cadena.injEq]
    exact cString_eq_iff final
  · refine iff_of_false id ?_
    rintro ⟨-, corto, begins⟩
    exact final (stop_mem_of_begins begins corto)

end Lectura

/-! ## Requests -/

section Peticiones

variable {s : Recepcion} {sucesos : List Suceso}

theorem bien_iff_tras {peticion : Peticion} :
    Bien s peticion ↔ Cabe s.readed peticion.sucesos ∧
      (((recibe s peticion.sucesos).tras peticion).2 = .nada ∨
        ((recibe s peticion.sucesos).tras peticion).2 = .cadena (datos peticion.sucesos)) := by
  unfold Bien Recepcion.pide
  constructor
  · rintro ⟨despues, leido, hecho, bien⟩
    obtain ⟨recibido, entero, tras⟩ := Option.map_eq_some_iff.mp hecho
    obtain ⟨cabe, rfl⟩ := perform_eq_some_iff.mp entero
    rw [tras]
    exact ⟨cabe, bien⟩
  · rintro ⟨cabe, bien⟩
    exact ⟨_, _, by rw [perform_of_cabe cabe]; rfl, bien⟩

theorem espera_iff {bytes : List UInt8} :
    (s.espera.2 = .nada ∨ s.espera.2 = .cadena bytes) ↔
      (s.finishReading = true → (List.range s.readed).map s.totalResponse = bytes) := by
  unfold Recepcion.espera
  split_ifs with fin
  · simp [fin]
  · simp [fin]

/-- What a database request parses. -/
theorem trasConsulta_iff {consulta : Consulta} {err : Err} {bytes : List UInt8} :
    ((s.trasConsulta consulta err).2 = .nada ∨ (s.trasConsulta consulta err).2 = .cadena bytes) ↔
      (Analiza s.finishReading consulta err →
        (List.range s.readed).map s.totalResponse = bytes) := by
  have calla {r : Recepcion} {p : Prop} :
      ((r, Leido.nada).2 = .nada ∨ (r, Leido.nada).2 = .cadena bytes) ↔ (False → p) :=
    iff_of_true (Or.inl rfl) False.elim
  cases consulta with
  | sendCommand command =>
    cases err with
    | ok =>
      unfold Recepcion.trasConsulta Analiza
      dsimp only
      split_ifs with corto
      · exact iff_of_true (Or.inl rfl) fun analiza => absurd analiza.1 (by omega)
      · exact espera_iff.trans ⟨fun lee analiza => lee analiza.2,
          fun lee fin => lee ⟨by omega, fin⟩⟩
    | httpConnect | otro => exact calla
  | getTimestamp | checkPermisions =>
    cases err with
    | ok => exact espera_iff
    | httpConnect | otro => exact calla

theorem bien_consulta_iff {consulta : Consulta} {err : Err} :
    Bien s (.consulta consulta sucesos err) ↔ Cumple s (.consulta consulta sucesos err) := by
  rw [bien_iff_tras]
  exact and_congr_right fun _ =>
    trasConsulta_iff.trans (imp_congr_right fun _ => cadena_eq_datos_iff)

/-- The buffer of `LogIn`: the text behind the last connection and what the new buffer
held. -/
theorem begins_recibe_iff {basura : Memoria} {final : List UInt8} :
    Begins (recibe s (.onConnected basura :: sucesos)).totalResponse (datos sucesos ++ final) ↔
      ∃ falta, datos sucesos = recibidos sucesos ++ falta ∧
        Begins (fun k => fondo basura sucesos ((recibidos sucesos).length + k))
          (falta ++ final) := by
  have total : (recibe s (.onConnected basura :: sucesos)).totalResponse =
      write 0 (recibidos sucesos) (fondo basura sucesos) := by
    have sale : inicio s.readed (.onConnected basura :: sucesos) = 0 := by
      simp [inicio, Suceso.conecta]
    unfold recibe
    rw [recibidos_cons rfl, sale]
    rfl
  have empieza := begins_write_zero (recibidos sucesos) (fondo basura sucesos)
  have detras : (fun k => write 0 (recibidos sucesos) (fondo basura sucesos)
        ((recibidos sucesos).length + k)) =
      fun k => fondo basura sucesos ((recibidos sucesos).length + k) :=
    funext fun k => write_of_ge (by omega)
  rw [total]
  constructor
  · intro begins
    have corto : (recibidos sucesos).length ≤ (datos sucesos).length := by
      rw [datos_eq, List.length_append]
      omega
    have partido := begins.left.eq_map.symm.trans (map_range_of_begins empieza corto)
    rw [partido, List.append_assoc, begins_append_iff, detras] at begins
    simp only [congrFun detras] at partido
    exact ⟨_, partido, begins.2⟩
  · rintro ⟨falta, partido, begins⟩
    rw [partido, List.append_assoc, begins_append_iff, detras]
    exact ⟨empieza, begins⟩

theorem tras_logIn_ok {basura reescrito : Memoria} :
    (s.tras (.logIn basura sucesos .ok reescrito)).2 = s.leeCadena := by
  rw [Recepcion.tras, Recepcion.trasLogIn]

theorem bien_logIn_iff {basura reescrito : Memoria} {err : Err} :
    Bien s (.logIn basura sucesos err reescrito) ↔
      Cumple s (.logIn basura sucesos err reescrito) := by
  have propios : datos (.onConnected basura :: sucesos) = datos sucesos := datos_cons
  rw [bien_iff_tras]
  refine and_congr_right fun _ => ?_
  cases err with
  | ok =>
    have calla : (recibe s (.onConnected basura :: sucesos)).leeCadena ≠ .nada := by
      unfold Recepcion.leeCadena
      split_ifs
      · exact Leido.noConfusion
      · exact Leido.noConfusion
    rw [Peticion.sucesos, tras_logIn_ok, or_iff_right calla, propios, leeCadena_eq_iff,
      begins_recibe_iff]
    exact ⟨fun bien _ => bien, fun terminada => terminada rfl⟩
  | httpConnect | otro => exact iff_of_true (Or.inl rfl) Err.noConfusion

theorem bien_iff (peticion : Peticion) : Bien s peticion ↔ Cumple s peticion := by
  cases peticion with
  | consulta => exact bien_consulta_iff
  | logIn => exact bien_logIn_iff
  | logInSinConexion => exact iff_of_true ⟨_, _, rfl, Or.inl rfl⟩ trivial

end Peticiones

/-- In a run of requests, whatever the client delivers, the handler stays inside its
buffers and every text that is parsed is the answer to its request exactly when every
request meets the condition. -/
theorem bien_siempre_iff (basura : Memoria) (peticiones : List Peticion) :
    Along Bien siguiente peticiones (.inicial basura) ↔
      Along Cumple siguiente peticiones (.inicial basura) :=
  ⟨fun bien => bien.imp fun _ peticion => (bien_iff peticion).mp,
    fun cumple => cumple.imp fun _ peticion => (bien_iff peticion).mpr⟩

/-- `{"error":"Auth token is expired"}` -/
def tokenCaducado : List UInt8 :=
  [123, 34, 101, 114, 114, 111, 114, 34, 58, 34, 65, 117, 116, 104, 32, 116, 111, 107, 101,
    110, 32, 105, 115, 32, 101, 120, 112, 105, 114, 101, 100, 34, 125]

/-- `{"idToken":"a"}` -/
def tokenNuevo : List UInt8 :=
  [123, 34, 105, 100, 84, 111, 107, 101, 110, 34, 58, 34, 97, 34, 125]

/-- What the parser leaves of it: the two texts with their ends, and the rest. -/
def tokenReescrito : List UInt8 :=
  [105, 100, 84, 111, 107, 101, 110, 0, 97, 0, 58, 34, 97, 34, 125]

/-- `1700000000000` -/
def marcaDeTiempo : List UInt8 :=
  [49, 55, 48, 48, 48, 48, 48, 48, 48, 48, 48, 48, 48]

/-- The token has expired and is renewed; then the timestamp is read over the first
connection. -/
def tokenRenovado : List Peticion :=
  [.consulta .getTimestamp [.onConnected fun _ => 0, .onData tokenCaducado, .onFinish] .ok,
    .logIn (fun _ => 0) [.onData tokenNuevo, .onFinish] .ok (write 0 tokenReescrito fun _ => 0),
    .consulta .getTimestamp [.onData marcaDeTiempo, .onFinish] .ok]

/-- The timestamp is parsed behind the answer to `LogIn`. -/
theorem not_bien_tokenRenovado :
    ¬ Along Bien siguiente tokenRenovado (.inicial fun _ => 0) := by
  rintro ⟨-, -, bien, -⟩
  obtain ⟨-, sola⟩ := bien_consulta_iff.mp bien
  obtain con | nada := (sola rfl).2
  · exact absurd con (by decide)
  · exact absurd nada (by decide)

end VeltiumCharger.Nube.Respuestas
