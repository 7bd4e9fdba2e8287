import VeltiumCharger.Library.Run
import VeltiumCharger.Registros.Permiso

/-!
# The object of the database and its clients

`Firebase_Conn_Task` creates the object `Database` when there is Internet, makes its requests
through it and destroys it when the connection ends; `procesar_bloque` may set the state to
`DISCONNECTED` at any moment.  The object holds two clients of `esp_http_client`, which have to
be initialised and cleaned up: its constructor and its destructor do neither.

A run fails when it goes through a null pointer.  The clients that are open are counted, those
of them that nothing refers to any more (another one has taken their place in the object, or
the object has been deleted), and the cleanups of a client that nothing has initialised.
-/

namespace VeltiumCharger.Nube.Clientes

open VeltiumCharger.Registros.Permiso VeltiumCharger.Run

/-- What a member of type `esp_http_client_handle_t` holds. -/
inductive Cliente
  | sinIniciar
  | nulo
  | abierto
  deriving DecidableEq, Repr

/-- The open clients among one. -/
def Cliente.cuenta : Cliente → Nat
  | .abierto => 1
  | _ => 0

/-- `Real_Time_Database` -/
structure BaseDatos where
  rtdbClient : Cliente
  authClient : Cliente
  deriving DecidableEq, Repr

/-- `new Real_Time_Database()` -/
def BaseDatos.nueva : BaseDatos where
  rtdbClient := .sinIniciar
  authClient := .sinIniciar

/-- The open clients of an object. -/
def BaseDatos.tenidos (db : BaseDatos) : Nat :=
  db.rtdbClient.cuenta + db.authClient.cuenta

/-- The end of `LogIn`: with a token, with `ESP_ERR_HTTP_CONNECT` or otherwise. -/
inductive LogIn
  | entra
  | sinServidor
  | falla
  deriving DecidableEq, Repr

/-- The ends of `LogIn` and of `begin`, which may find no memory for its client. -/
structure Acceso where
  logIn : LogIn
  iniciado : Bool
  deriving DecidableEq, Repr

/-- What the task reads of them. -/
def Acceso.leido (acceso : Acceso) (l : Lecturas) : Lecturas :=
  { l with
    clienteIniciado := acceso.logIn == .entra && acceso.iniciado
    logIn := acceso.logIn == .entra }

/-- The pointer `Database`, the clients that are open, those whose place another one has taken,
those of an object that has been deleted, and the cleanups of one that had not been
initialised. -/
structure Memoria where
  database : Option BaseDatos
  abiertos : Nat
  pisados : Nat
  borrados : Nat
  danados : Nat
  deriving DecidableEq, Repr

/-- When the program starts. -/
def Memoria.arranque : Memoria where
  database := some .nueva
  abiertos := 0
  pisados := 0
  borrados := 0
  danados := 0

namespace Memoria

variable (m : Memoria) (acceso : Acceso)

/-- The clients that the object holds. -/
def tenidos : Nat :=
  m.database.elim 0 BaseDatos.tenidos

/-- `esp_http_client_cleanup` -/
def cleanup : Cliente → Memoria
  | .sinIniciar => { m with danados := m.danados + 1 }
  | .nulo => m
  | .abierto => { m with abiertos := m.abiertos - 1 }

/-- Requests through the pointer.  One that fails puts a new client in the place of the
old one, which it cleans up. -/
def usa : Option Memoria :=
  m.database.map fun _ => m

/-- `configAuth`: the client that was there is not cleaned up. -/
def configAuth (db : BaseDatos) : Memoria :=
  { m with
    database := some { db with authClient := .abierto }
    abiertos := m.abiertos + 1
    pisados := m.pisados + db.authClient.cuenta }

/-- `endAuth` -/
def endAuth (db : BaseDatos) : Memoria :=
  { m.cleanup db.authClient with database := some { db with authClient := .nulo } }

/-- `LogIn`, which cleans its client up when the server cannot be reached. -/
def logIn : Option Memoria :=
  m.database.map fun db =>
    if acceso.logIn = .sinServidor then
      (m.configAuth db).endAuth { db with authClient := .abierto }
    else m.configAuth db

/-- `begin` -/
def empieza : Option Memoria :=
  m.database.map fun db =>
    if acceso.iniciado then
      { m with
        database := some { db with rtdbClient := .abierto }
        abiertos := m.abiertos + 1
        pisados := m.pisados + db.rtdbClient.cuenta }
    else
      { m with
        database := some { db with rtdbClient := .nulo }
        pisados := m.pisados + db.rtdbClient.cuenta }

/-- `initFirebaseClient` -/
def initFirebaseClient : Option Memoria :=
  (m.logIn acceso).bind fun m =>
    if acceso.logIn = .entra then m.empieza acceso else some m

/-- `delete` and `new` in `DISCONNECTED`. -/
def crea : Memoria :=
  { m with database := some .nueva, borrados := m.borrados + m.tenidos }

/-- `end`, `endAuth` and `delete` in `DISCONNECTING`. -/
def cierra : Option Memoria :=
  m.database.map fun db =>
    { (m.cleanup db.rtdbClient).cleanup db.authClient with database := none }

/-- The timestamp of `/status`, and another `LogIn` when the token has expired. -/
def lee (s : Tarea) (l : Lecturas) : Option Memoria :=
  m.usa.bind fun m =>
    if (s.getTimestamp l.marca).2 < 1 && l.tokenCaducado then m.logIn acceso else some m

/-- `IDLE` -/
def idle (s : Tarea) (l : Lecturas) : Option Memoria :=
  if !l.internetConection || decide (10 < s.errorCount) then some m
  else if !l.resetUser && l.bleConectado then some m
  else m.lee acceso s l

/-- `USER_CONNECTED` -/
def userConnected (s : Tarea) (l : Lecturas) : Option Memoria :=
  if s.askForPermission || l.bleConectado then some m else m.lee acceso s l

/-- The `switch` of the task. -/
def caso (s : Tarea) (l : Lecturas) : Estado → Option Memoria
  | .disconnected => some (if l.internetConection then m.crea else m)
  | .connecting => m.initFirebaseClient acceso
  | .idle => m.idle acceso s l
  | .userConnected => m.userConnected acceso s l
  | .conectado | .writingControl | .writingStatus | .writingComs | .writingParams
  | .writingTimes | .readingControl | .readingParams | .readingComs | .updating => m.usa
  | .downloading | .installing | .writingRecord => some m
  | .disconnecting | .apagado | .starting | .readingGroup | .killing => m.cierra

/-- A step of the task: a case, or a request with the record. -/
def paso (s : Tarea) (l : Lecturas) : Option Memoria :=
  match s.punto with
  | .caso estado => m.caso acceso s l estado
  | .envio _ | .reintento _ => m.usa
  | _ => some m

end Memoria

/-- The task and its memory. -/
structure Conexion where
  tarea : Tarea
  memoria : Memoria
  deriving DecidableEq, Repr

/-- When the task starts. -/
def Conexion.arranque : Conexion where
  tarea := .arranque
  memoria := .arranque

/-- A step of the task, or `procesar_bloque` disconnects it. -/
inductive Evento
  | tarea (l : Lecturas) (acceso : Acceso)
  | procesarBloque
  deriving DecidableEq, Repr

/-- What happens to the task and to its memory. -/
def Conexion.paso (mktime : Tm → Int) (c : Conexion) : Evento → Option Conexion
  | .tarea l acceso =>
    (c.memoria.paso acceso c.tarea (acceso.leido l)).map fun memoria =>
      ⟨c.tarea.paso mktime (acceso.leido l), memoria⟩
  | .procesarBloque => some { c with tarea := c.tarea.pasa .disconnected }

/-- A run. -/
def Conexion.corre (mktime : Tm → Int) (c : Conexion) : List Evento → Option Conexion
  | [] => some c
  | evento :: resto => (c.paso mktime evento).bind fun c => c.corre mktime resto

/-! ## The open clients -/

namespace Memoria

/-- Every open client is one of the object, or another one has its place, or its object has
been deleted. -/
def Cuadra (m : Memoria) : Prop :=
  m.abiertos = m.tenidos + (m.pisados + m.borrados)

/-- There is an object before and after, and the account is kept. -/
def Sigue (m : Memoria) (hecho : Option Memoria) : Prop :=
  ∃ tras, hecho = some tras ∧ tras.database.isSome = true ∧ (m.Cuadra → tras.Cuadra)

variable {m : Memoria} {db : BaseDatos} {acceso : Acceso} {s : Tarea} {l : Lecturas}

theorem tenidos_eq (viva : m.database = some db) : m.tenidos = db.tenidos := by
  rw [tenidos, viva]
  rfl

theorem sigue_self (viva : m.database = some db) : m.Sigue (some m) :=
  ⟨m, rfl, by simp [viva], id⟩

theorem sigue_usa (viva : m.database = some db) : m.Sigue m.usa := by
  rw [usa, viva]
  exact sigue_self viva

/-- One after the other. -/
theorem Sigue.bind {hecho : Option Memoria} (primero : m.Sigue hecho)
    {resto : Memoria → Option Memoria}
    (segundo : ∀ (tras : Memoria) db, tras.database = some db → tras.Sigue (resto tras)) :
    m.Sigue (hecho.bind resto) := by
  obtain ⟨tras, rfl, viva, cuadra⟩ := primero
  obtain ⟨db, igual⟩ := Option.isSome_iff_exists.mp viva
  obtain ⟨fin, hecho, sigue, cuadraFin⟩ := segundo tras db igual
  exact ⟨fin, hecho, sigue, cuadraFin ∘ cuadra⟩

/-- The client that `configAuth` opens takes the place of the one that was there. -/
theorem cuadra_configAuth (viva : m.database = some db) (cuadra : m.Cuadra) :
    (m.configAuth db).Cuadra := by
  unfold Cuadra at cuadra ⊢
  rw [tenidos_eq viva] at cuadra
  simp only [configAuth, tenidos, Option.elim, BaseDatos.tenidos, Cliente.cuenta] at cuadra ⊢
  omega

theorem sigue_logIn (viva : m.database = some db) : m.Sigue (m.logIn acceso) := by
  rw [logIn, viva, Option.map_some]
  refine ⟨_, rfl, ?_, fun cuadra => ?_⟩
  · split_ifs <;> rfl
  · have abierto := cuadra_configAuth viva cuadra
    split_ifs
    · unfold Cuadra at abierto ⊢
      simp only [configAuth, endAuth, cleanup, tenidos, Option.elim, BaseDatos.tenidos,
        Cliente.cuenta] at abierto ⊢
      omega
    · exact abierto

theorem sigue_empieza (viva : m.database = some db) : m.Sigue (m.empieza acceso) := by
  rw [empieza, viva, Option.map_some]
  refine ⟨_, rfl, ?_, fun cuadra => ?_⟩
  · split_ifs <;> rfl
  · unfold Cuadra at cuadra ⊢
    rw [tenidos_eq viva] at cuadra
    split_ifs
    · simp only [tenidos, Option.elim, BaseDatos.tenidos, Cliente.cuenta] at cuadra ⊢
      omega
    · simp only [tenidos, Option.elim, BaseDatos.tenidos, Cliente.cuenta] at cuadra ⊢
      omega

theorem sigue_initFirebaseClient (viva : m.database = some db) :
    m.Sigue (m.initFirebaseClient acceso) := by
  refine (sigue_logIn viva).bind fun tras db viva => ?_
  split_ifs
  · exact sigue_empieza viva
  · exact sigue_self viva

theorem sigue_lee (viva : m.database = some db) : m.Sigue (m.lee acceso s l) := by
  refine (sigue_usa viva).bind fun tras db viva => ?_
  split_ifs
  · exact sigue_logIn viva
  · exact sigue_self viva

theorem sigue_idle (viva : m.database = some db) : m.Sigue (m.idle acceso s l) := by
  unfold idle
  split_ifs
  · exact sigue_self viva
  · exact sigue_self viva
  · exact sigue_lee viva

theorem sigue_userConnected (viva : m.database = some db) :
    m.Sigue (m.userConnected acceso s l) := by
  unfold userConnected
  split_ifs
  · exact sigue_self viva
  · exact sigue_lee viva

/-- A new object holds nothing: what the old one held goes with it. -/
theorem cuadra_crea (cuadra : m.Cuadra) : m.crea.Cuadra := by
  unfold Cuadra at cuadra ⊢
  simp only [crea, tenidos, Option.elim, BaseDatos.tenidos, BaseDatos.nueva, Cliente.cuenta]
    at cuadra ⊢
  omega

/-- A client that is cleaned up is not open any more. -/
theorem abiertos_cleanup (cliente : Cliente) (alguno : cliente.cuenta ≤ m.abiertos) :
    (m.cleanup cliente).abiertos + cliente.cuenta = m.abiertos := by
  cases cliente with
  | sinIniciar => rfl
  | nulo => rfl
  | abierto => exact Nat.sub_add_cancel alguno

theorem pisados_cleanup (cliente : Cliente) : (m.cleanup cliente).pisados = m.pisados := by
  cases cliente <;> rfl

theorem borrados_cleanup (cliente : Cliente) : (m.cleanup cliente).borrados = m.borrados := by
  cases cliente <;> rfl

/-- The object is destroyed with its clients cleaned up. -/
theorem cierra_eq (viva : m.database = some db) :
    ∃ tras, m.cierra = some tras ∧ tras.database = none ∧ (m.Cuadra → tras.Cuadra) := by
  rw [cierra, viva, Option.map_some]
  refine ⟨_, rfl, rfl, fun cuadra => ?_⟩
  unfold Cuadra at cuadra ⊢
  rw [tenidos_eq viva, BaseDatos.tenidos] at cuadra
  have primero := abiertos_cleanup (m := m) db.rtdbClient (by omega)
  have segundo := abiertos_cleanup (m := m.cleanup db.rtdbClient) db.authClient (by omega)
  change ((m.cleanup db.rtdbClient).cleanup db.authClient).abiertos =
    0 + (((m.cleanup db.rtdbClient).cleanup db.authClient).pisados +
      ((m.cleanup db.rtdbClient).cleanup db.authClient).borrados)
  rw [pisados_cleanup, pisados_cleanup, borrados_cleanup, borrados_cleanup]
  omega

end Memoria

/-- The cases that destroy the object. -/
def destruye : Estado → Bool
  | .disconnecting | .apagado | .starting | .readingGroup | .killing => true
  | _ => false

theorem Memoria.sigue_caso {m : Memoria} {db : BaseDatos} (viva : m.database = some db)
    (acceso : Acceso) (s : Tarea) (l : Lecturas) {estado : Estado}
    (abre : destruye estado = false) :
    m.Sigue (m.caso acceso s l estado) := by
  cases estado with
  | disconnected =>
    unfold caso
    dsimp only
    split_ifs
    · exact ⟨_, rfl, rfl, cuadra_crea⟩
    · exact sigue_self viva
  | connecting => exact sigue_initFirebaseClient viva
  | idle => exact sigue_idle viva
  | userConnected => exact sigue_userConnected viva
  | conectado | writingControl | writingStatus | writingComs | writingParams | writingTimes
  | readingControl | readingParams | readingComs | updating => exact sigue_usa viva
  | downloading | installing | writingRecord => exact sigue_self viva
  | disconnecting | apagado | starting | readingGroup | killing => cases abre

/-! ## Runs -/

/-- Without an object the task is on its way to `DISCONNECTED`, which looks at the pointer;
and the account of the clients is kept. -/
structure Sana (c : Conexion) : Prop where
  viva : c.memoria.database = none → c.tarea.firebaseConnState = .disconnected ∧
    (c.tarea.punto = .cabeza ∨ c.tarea.punto = .conmuta ∨ c.tarea.punto = .caso .disconnected)
  cuadra : c.memoria.Cuadra

theorem sana_arranque : Sana .arranque where
  viva nada := nomatch nada
  cuadra := rfl

section Corre

variable {mktime : Tm → Int} {c : Conexion}

/-- With an object the step goes on, and destroys it only on the way to `DISCONNECTED`. -/
theorem Sana.tarea_viva (sana : Sana c) {db : BaseDatos} (viva : c.memoria.database = some db)
    (l : Lecturas) (acceso : Acceso) :
    ∃ tras, c.memoria.paso acceso c.tarea l = some tras ∧ Sana ⟨c.tarea.paso mktime l, tras⟩ := by
  have sigue {hecho : Option Memoria} (igual : c.memoria.paso acceso c.tarea l = hecho)
      (bien : c.memoria.Sigue hecho) :
      ∃ tras, c.memoria.paso acceso c.tarea l = some tras ∧
        Sana ⟨c.tarea.paso mktime l, tras⟩ := by
    obtain ⟨tras, rfl, queda, cuadra⟩ := bien
    have hay : tras.database ≠ none := fun nada => by simp [nada] at queda
    exact ⟨tras, igual, fun nada => absurd nada hay, cuadra sana.cuadra⟩
  cases punto : c.tarea.punto with
  | cabeza | conmuta | historico | espera | guarda =>
    exact sigue (by rw [Memoria.paso, punto]) (Memoria.sigue_self viva)
  | envio | reintento => exact sigue (by rw [Memoria.paso, punto]) (Memoria.sigue_usa viva)
  | caso estado =>
    have igual : c.memoria.paso acceso c.tarea l = c.memoria.caso acceso c.tarea l estado := by
      rw [Memoria.paso, punto]
    cases abre : destruye estado with
    | false => exact sigue igual (Memoria.sigue_caso viva acceso c.tarea l abre)
    | true =>
      obtain ⟨tras, hecho, -, cuadra⟩ := Memoria.cierra_eq viva
      have cerrado : c.memoria.caso acceso c.tarea l estado = c.memoria.cierra := by
        cases estado <;> first | rfl | cases abre
      have fin : c.tarea.paso mktime l =
          Tarea.pasa { c.tarea with punto := .cabeza } .disconnected := by
        rw [Tarea.paso, punto]
        cases estado <;> first | rfl | cases abre
      refine ⟨tras, (igual.trans cerrado).trans hecho, fun _ => ?_, cuadra sana.cuadra⟩
      rw [fin]
      exact ⟨rfl, .inl rfl⟩

/-- Without an object no request is made. -/
theorem Sana.tarea_muerta (sana : Sana c) (muerta : c.memoria.database = none) (l : Lecturas)
    (acceso : Acceso) :
    ∃ tras, c.memoria.paso acceso c.tarea l = some tras ∧ Sana ⟨c.tarea.paso mktime l, tras⟩ := by
  obtain ⟨estado, cabeza | conmuta | caso⟩ := sana.viva muerta
  · refine ⟨c.memoria, by rw [Memoria.paso, cabeza], fun _ => ?_, sana.cuadra⟩
    simp [Tarea.paso, Tarea.cabeza, cabeza, estado]
  · refine ⟨c.memoria, by rw [Memoria.paso, conmuta], fun _ => ?_, sana.cuadra⟩
    simp [Tarea.paso, conmuta, estado]
  · by_cases internet : l.internetConection = true
    · have hay : c.memoria.crea.database ≠ none := Option.some_ne_none _
      refine ⟨c.memoria.crea, ?_, fun nada => absurd nada hay, Memoria.cuadra_crea sana.cuadra⟩
      simp [Memoria.paso, Memoria.caso, caso, internet]
    · refine ⟨c.memoria, ?_, fun _ => ?_, sana.cuadra⟩
      · simp [Memoria.paso, Memoria.caso, caso, internet]
      · simp [Tarea.paso, Tarea.caso, Tarea.disconnected, caso, internet, estado]

/-- A step goes on. -/
theorem Sana.paso (sana : Sana c) (evento : Evento) :
    ∃ tras, c.paso mktime evento = some tras ∧ Sana tras := by
  cases evento with
  | tarea l acceso =>
    obtain ⟨tras, hecho, bien⟩ : ∃ tras,
        c.memoria.paso acceso c.tarea (acceso.leido l) = some tras ∧
          Sana ⟨c.tarea.paso mktime (acceso.leido l), tras⟩ := by
      cases vida : c.memoria.database with
      | none => exact sana.tarea_muerta vida _ acceso
      | some db => exact sana.tarea_viva vida _ acceso
    exact ⟨_, by rw [Conexion.paso, hecho, Option.map_some], bien⟩
  | procesarBloque =>
    exact ⟨_, rfl, fun nada => ⟨rfl, (sana.viva nada).2⟩, sana.cuadra⟩

theorem Sana.corre (sana : Sana c) (eventos : List Evento) :
    ∃ fin, c.corre mktime eventos = some fin ∧ Sana fin := by
  induction eventos generalizing c with
  | nil => exact ⟨c, rfl, sana⟩
  | cons evento resto ih =>
    obtain ⟨tras, hecho, bien⟩ : ∃ tras, c.paso mktime evento = some tras ∧ Sana tras :=
      sana.paso evento
    rw [Conexion.corre, hecho, Option.bind_some]
    exact ih bien

end Corre

/-! ## The client of the requests -/

/-- The states whose cases make requests, or lead to those that do. -/
def conectado : Estado → Bool
  | .disconnected | .connecting => false
  | estado => !destruye estado

namespace Memoria

/-- The object can make requests. -/
def Lista (m : Memoria) : Prop :=
  ∃ db, m.database = some db ∧ db.rtdbClient = .abierto

/-- No member of the object is as the constructor left it. -/
def Iniciada (m : Memoria) : Prop :=
  ∀ db, m.database = some db → db.rtdbClient ≠ .sinIniciar ∧ db.authClient ≠ .sinIniciar

/-- At most `LogIn` has been called: the client of the requests is the same one. -/
structure SoloLogIn (m tras : Memoria) : Prop where
  rtdb : tras.database.map BaseDatos.rtdbClient = m.database.map BaseDatos.rtdbClient
  auth : tras.database = m.database ∨ ∀ db, tras.database = some db → db.authClient ≠ .sinIniciar
  danados : tras.danados = m.danados

variable {m tras : Memoria} {acceso : Acceso} {s : Tarea} {l : Lecturas}

theorem SoloLogIn.lista (solo : m.SoloLogIn tras) (lista : m.Lista) : tras.Lista := by
  obtain ⟨db, viva, abierto⟩ := lista
  have rtdb := solo.rtdb
  rw [viva, Option.map_some, abierto] at rtdb
  exact Option.map_eq_some_iff.mp rtdb

theorem SoloLogIn.iniciada (solo : m.SoloLogIn tras) (iniciada : m.Iniciada) :
    tras.Iniciada := by
  intro db viva
  have rtdb := solo.rtdb
  rw [viva, Option.map_some] at rtdb
  obtain ⟨antes, vivaAntes, mismo⟩ := Option.map_eq_some_iff.mp rtdb.symm
  obtain ⟨rtdbAntes, authAntes⟩ := iniciada antes vivaAntes
  refine ⟨mismo ▸ rtdbAntes, ?_⟩
  rcases solo.auth with igual | entra
  · rw [viva, vivaAntes] at igual
    rw [Option.some.inj igual]
    exact authAntes
  · exact entra db viva

theorem soloLogIn_self : m.SoloLogIn m :=
  ⟨rfl, .inl rfl, rfl⟩

theorem soloLogIn_usa (hecho : m.usa = some tras) : m.SoloLogIn tras := by
  obtain ⟨-, -, rfl⟩ := Option.map_eq_some_iff.mp hecho
  exact soloLogIn_self

theorem soloLogIn_logIn (hecho : m.logIn acceso = some tras) : m.SoloLogIn tras := by
  obtain ⟨db, viva, rfl⟩ := Option.map_eq_some_iff.mp hecho
  split_ifs
  · constructor
    · rw [viva]
      rfl
    · refine .inr fun otra igual => ?_
      obtain rfl := Option.some.inj igual
      exact Cliente.noConfusion
    · rfl
  · constructor
    · rw [viva]
      rfl
    · refine .inr fun otra igual => ?_
      obtain rfl := Option.some.inj igual
      exact Cliente.noConfusion
    · rfl

theorem soloLogIn_lee (hecho : m.lee acceso s l = some tras) : m.SoloLogIn tras := by
  obtain ⟨otra, usada, hecho⟩ := Option.bind_eq_some_iff.mp hecho
  obtain ⟨-, -, rfl⟩ := Option.map_eq_some_iff.mp usada
  split_ifs at hecho
  · exact soloLogIn_logIn hecho
  · obtain rfl := Option.some.inj hecho
    exact soloLogIn_self

/-- The cases after `CONNECTING`. -/
theorem soloLogIn_caso {estado : Estado} (dentro : conectado estado = true)
    (hecho : m.caso acceso s l estado = some tras) : m.SoloLogIn tras := by
  cases estado with
  | disconnected | connecting | disconnecting | apagado | starting | readingGroup | killing =>
    cases dentro
  | idle =>
    unfold Memoria.caso Memoria.idle at hecho
    dsimp only at hecho
    split_ifs at hecho
    · obtain rfl := Option.some.inj hecho
      exact soloLogIn_self
    · obtain rfl := Option.some.inj hecho
      exact soloLogIn_self
    · exact soloLogIn_lee hecho
  | userConnected =>
    unfold Memoria.caso Memoria.userConnected at hecho
    dsimp only at hecho
    split_ifs at hecho
    · obtain rfl := Option.some.inj hecho
      exact soloLogIn_self
    · exact soloLogIn_lee hecho
  | conectado | writingControl | writingStatus | writingComs | writingParams | writingTimes
  | readingControl | readingParams | readingComs | updating => exact soloLogIn_usa hecho
  | downloading | installing | writingRecord =>
    obtain rfl := Option.some.inj hecho
    exact soloLogIn_self

/-- The first `LogIn` that works opens it. -/
theorem lista_initFirebaseClient (entra : acceso.logIn = .entra) (iniciado : acceso.iniciado = true)
    (hecho : m.initFirebaseClient acceso = some tras) : tras.Lista := by
  obtain ⟨otra, -, hecho⟩ := Option.bind_eq_some_iff.mp hecho
  rw [if_pos entra, empieza, Option.map_eq_some_iff] at hecho
  obtain ⟨db, -, rfl⟩ := hecho
  rw [if_pos iniciado]
  exact ⟨_, rfl, rfl⟩

end Memoria

/-- Where the task is about to make requests. -/
def pide : Punto → Bool
  | .caso estado => conectado estado
  | .historico | .espera _ | .guarda | .envio _ | .reintento _ => true
  | .cabeza | .conmuta => false

/-- The task has a client wherever it makes requests, and goes there only with one. -/
structure Provista (c : Conexion) : Prop where
  estado : conectado c.tarea.firebaseConnState = true → c.memoria.Lista
  punto : pide c.tarea.punto = true → c.memoria.Lista
  caso : ∀ estado, c.tarea.punto = .caso estado →
    c.tarea.firebaseConnState = estado ∨ c.tarea.firebaseConnState = .disconnected

theorem provista_arranque : Provista .arranque where
  estado otro := nomatch otro
  punto otro := nomatch otro
  caso _ otro := nomatch otro

/-- The task has a client and is in no case. -/
theorem Provista.fuera {s : Tarea} {m : Memoria} (lista : m.Lista)
    (fuera : ∀ estado, s.punto ≠ .caso estado) : Provista ⟨s, m⟩ where
  estado _ := lista
  punto _ := lista
  caso estado otro := absurd otro (fuera estado)

theorem Provista.procesarBloque {c : Conexion} (provista : Provista c) :
    Provista { c with tarea := c.tarea.pasa .disconnected } where
  estado otro := nomatch otro
  punto := provista.punto
  caso _ _ := .inr rfl

/-- Without a case to run nor a request to make, what counts is the state. -/
theorem Provista.enCabeza {s : Tarea} {m : Memoria} (punto : s.punto = .cabeza)
    (estado : conectado s.firebaseConnState = false) : Provista ⟨s, m⟩ where
  estado otro := absurd (estado.symm.trans otro) Bool.false_ne_true
  punto otro := by simp [punto, pide] at otro
  caso _ otro := by simp [punto] at otro

section Peticiones

variable {mktime : Tm → Int} {c : Conexion} {tras : Memoria}

/-- A case of the `switch`. -/
theorem Provista.tareaCaso (provista : Provista c) {estado : Estado}
    (punto : c.tarea.punto = .caso estado) (l : Lecturas) (acceso : Acceso)
    (hecho : c.memoria.caso acceso c.tarea (acceso.leido l) estado = some tras) :
    Provista ⟨Tarea.caso { c.tarea with punto := .cabeza } (acceso.leido l) estado, tras⟩ := by
  have antes := provista.caso estado punto
  cases dentro : conectado estado with
  | true =>
    have lista : tras.Lista :=
      (Memoria.soloLogIn_caso dentro hecho).lista (provista.punto (by rw [punto]; exact dentro))
    have destino := (Conserva.caso (s := { c.tarea with punto := .cabeza }) (l := acceso.leido l)
      estado).punto
    refine Provista.fuera lista fun otro esta => ?_
    rcases destino with cabeza | historico
    · rw [cabeza] at esta
      cases esta
    · rw [historico] at esta
      cases esta
  | false =>
    cases estado with
    | disconnected =>
      unfold Tarea.caso Tarea.disconnected
      dsimp only
      split_ifs
      · exact Provista.enCabeza rfl rfl
      · refine Provista.enCabeza rfl ?_
        rcases antes with mismo | mismo <;> exact congrArg conectado mismo
    | connecting =>
      unfold Tarea.caso Tarea.connecting
      dsimp only
      split_ifs with iniciado
      · obtain ⟨entra, hay⟩ := Bool.and_eq_true_iff.mp iniciado
        have lista := Memoria.lista_initFirebaseClient (eq_of_beq entra) hay hecho
        exact Provista.fuera lista fun _ otro => by cases otro
      · refine Provista.enCabeza rfl ?_
        rcases antes with mismo | mismo
        · exact congrArg conectado mismo
        · exact congrArg conectado mismo
    | disconnecting | apagado | starting | readingGroup | killing =>
      exact Provista.enCabeza rfl rfl
    | conectado | idle | userConnected | readingControl | readingParams | readingComs
    | writingControl | writingStatus | writingParams | writingComs | writingTimes | writingRecord
    | downloading | updating | installing => cases dentro

theorem Provista.tarea (provista : Provista c) (l : Lecturas) (acceso : Acceso)
    (hecho : c.memoria.paso acceso c.tarea (acceso.leido l) = some tras) :
    Provista ⟨c.tarea.paso mktime (acceso.leido l), tras⟩ := by
  unfold Memoria.paso at hecho
  unfold Tarea.paso
  cases punto : c.tarea.punto with
  | cabeza =>
    rw [punto] at hecho
    obtain rfl := Option.some.inj hecho
    dsimp only [Tarea.cabeza]
    split_ifs
    · exact ⟨(nomatch ·), (nomatch ·), fun _ otro => nomatch otro⟩
    · exact ⟨provista.estado, (nomatch ·), fun _ otro => nomatch otro⟩
  | conmuta =>
    rw [punto] at hecho
    obtain rfl := Option.some.inj hecho
    exact ⟨provista.estado, provista.estado, fun _ mismo => .inl (Punto.caso.inj mismo)⟩
  | caso estado =>
    rw [punto] at hecho
    exact provista.tareaCaso punto l acceso hecho
  | historico =>
    have lista := provista.punto (by rw [punto]; rfl)
    rw [punto] at hecho
    obtain rfl := Option.some.inj hecho
    dsimp only [Tarea.writeFirebaseHistoric]
    split_ifs
    · exact Provista.fuera lista fun _ otro => by cases otro
    · exact Provista.fuera lista fun _ otro => by cases otro
  | espera count =>
    have lista := provista.punto (by rw [punto]; rfl)
    rw [punto] at hecho
    obtain rfl := Option.some.inj hecho
    dsimp only [Tarea.esperaPermiso]
    split_ifs
    · exact Provista.fuera lista fun _ otro => by cases otro
    · exact Provista.fuera lista fun _ otro => by cases otro
    · exact Provista.fuera lista fun _ otro => by cases otro
  | guarda =>
    have lista := provista.punto (by rw [punto]; rfl)
    rw [punto] at hecho
    obtain rfl := Option.some.inj hecho
    exact Provista.fuera lista fun _ otro => by cases otro
  | envio returnToLastconn =>
    have lista := provista.punto (by rw [punto]; rfl)
    rw [punto] at hecho
    have sigue := (Memoria.soloLogIn_usa hecho).lista lista
    dsimp only [Tarea.envia]
    split_ifs
    · exact Provista.fuera sigue fun _ otro => by cases otro
    · exact Provista.fuera sigue fun _ otro => by cases otro
  | reintento returnToLastconn =>
    have lista := provista.punto (by rw [punto]; rfl)
    rw [punto] at hecho
    have sigue := (Memoria.soloLogIn_usa hecho).lista lista
    exact Provista.fuera sigue fun _ otro => by cases otro

/-- A step leaves the task with a client wherever it makes requests. -/
theorem Provista.paso (provista : Provista c) (evento : Evento) {fin : Conexion}
    (hecho : c.paso mktime evento = some fin) : Provista fin := by
  cases evento with
  | tarea l acceso =>
    obtain ⟨tras, memoria, rfl⟩ := Option.map_eq_some_iff.mp hecho
    exact provista.tarea l acceso memoria
  | procesarBloque =>
    obtain rfl := Option.some.inj hecho
    exact provista.procesarBloque

theorem Provista.corre (provista : Provista c) (eventos : List Evento) {fin : Conexion}
    (hecho : c.corre mktime eventos = some fin) : Provista fin := by
  induction eventos generalizing c with
  | nil =>
    obtain rfl := Option.some.inj hecho
    exact provista
  | cons evento resto ih =>
    obtain ⟨tras, primero, hecho⟩ := Option.bind_eq_some_iff.mp hecho
    exact ih (provista.paso evento primero) hecho

end Peticiones

/-! ## The objects that are deleted -/

namespace Memoria

variable {m tras : Memoria} {acceso : Acceso} {s : Tarea} {l : Lecturas}

theorem tenidos_le (m : Memoria) : m.tenidos ≤ 2 := by
  have uno (cliente : Cliente) : cliente.cuenta ≤ 1 := by cases cliente <;> decide
  unfold tenidos
  cases m.database with
  | none => exact Nat.zero_le _
  | some db => exact Nat.add_le_add (uno db.rtdbClient) (uno db.authClient)

theorem borrados_logIn (hecho : m.logIn acceso = some tras) : tras.borrados = m.borrados := by
  obtain ⟨db, -, rfl⟩ := Option.map_eq_some_iff.mp hecho
  split_ifs <;> rfl

theorem borrados_usa (hecho : m.usa = some tras) : tras.borrados = m.borrados := by
  obtain ⟨-, -, rfl⟩ := Option.map_eq_some_iff.mp hecho
  rfl

theorem borrados_initFirebaseClient (hecho : m.initFirebaseClient acceso = some tras) :
    tras.borrados = m.borrados := by
  obtain ⟨otra, entra, hecho⟩ := Option.bind_eq_some_iff.mp hecho
  rw [← borrados_logIn entra]
  split_ifs at hecho
  · obtain ⟨db, -, rfl⟩ := Option.map_eq_some_iff.mp hecho
    split_ifs <;> rfl
  · rw [← Option.some.inj hecho]

theorem borrados_lee (hecho : m.lee acceso s l = some tras) : tras.borrados = m.borrados := by
  obtain ⟨otra, usada, hecho⟩ := Option.bind_eq_some_iff.mp hecho
  rw [← borrados_usa usada]
  split_ifs at hecho
  · exact borrados_logIn hecho
  · rw [← Option.some.inj hecho]

theorem borrados_cierra (hecho : m.cierra = some tras) : tras.borrados = m.borrados := by
  obtain ⟨db, -, rfl⟩ := Option.map_eq_some_iff.mp hecho
  exact (borrados_cleanup _).trans (borrados_cleanup _)

/-- Only `DISCONNECTED` deletes an object with its clients. -/
theorem borrados_caso {estado : Estado} (otro : estado ≠ .disconnected)
    (hecho : m.caso acceso s l estado = some tras) : tras.borrados = m.borrados := by
  cases estado with
  | disconnected => exact absurd rfl otro
  | connecting => exact borrados_initFirebaseClient hecho
  | idle =>
    unfold Memoria.caso Memoria.idle at hecho
    dsimp only at hecho
    split_ifs at hecho
    · rw [← Option.some.inj hecho]
    · rw [← Option.some.inj hecho]
    · exact borrados_lee hecho
  | userConnected =>
    unfold Memoria.caso Memoria.userConnected at hecho
    dsimp only at hecho
    split_ifs at hecho
    · rw [← Option.some.inj hecho]
    · exact borrados_lee hecho
  | conectado | writingControl | writingStatus | writingComs | writingParams | writingTimes
  | readingControl | readingParams | readingComs | updating => exact borrados_usa hecho
  | downloading | installing | writingRecord => rw [← Option.some.inj hecho]
  | disconnecting | apagado | starting | readingGroup | killing => exact borrados_cierra hecho

end Memoria

/-- The state after it is `DISCONNECTED` only if it was before. -/
def SinCorte (s t : Tarea) : Prop :=
  t.firebaseConnState = .disconnected → s.firebaseConnState = .disconnected

namespace SinCorte

variable {s t u : Tarea} {l : Lecturas}

theorem trans (primero : SinCorte s t) (segundo : SinCorte t u) : SinCorte s u :=
  fun corte => primero (segundo corte)

theorem locales (mismo : t.firebaseConnState = s.firebaseConnState) : SinCorte s t :=
  fun corte => mismo.symm.trans corte

theorem pasa {estado : Estado} (otro : estado ≠ .disconnected) : SinCorte s (t.pasa estado) :=
  fun corte => absurd corte otro

theorem si {c : Prop} [Decidable c] (yes : SinCorte s t) (no : SinCorte s u) :
    SinCorte s (if c then t else u) := by
  split_ifs
  · exact yes
  · exact no

theorem getTimestamp (marca : Marca) : SinCorte s (s.getTimestamp marca).1 := by
  unfold Tarea.getTimestamp
  split_ifs
  · exact pasa (by decide)
  · exact locales rfl

theorem marcas (marcas : List Marca) :
    SinCorte s (marcas.foldl (fun s marca => (s.getTimestamp marca).1) s) := by
  induction marcas generalizing s with
  | nil => exact locales rfl
  | cons marca rest ih => exact (getTimestamp marca).trans ih

theorem sinMarca : SinCorte s (s.sinMarca l) := by
  have corta : SinCorte s (s.pasa .disconnecting) := pasa (by decide)
  exact si (si (locales rfl) corta) (si (corta.trans (locales rfl)) (locales rfl))

theorem idle : SinCorte s (s.idle l) := by
  have leido : SinCorte s (s.getTimestamp l.marca).1 := getTimestamp l.marca
  refine si (pasa (by decide)) (si (locales rfl) (si (leido.trans sinMarca) ?_))
  refine si (pasa (by decide)) (si ?_ (si ?_ ?_))
  · exact fun corte => nomatch corte
  · exact leido.trans (locales rfl)
  · exact leido.trans (locales rfl)

theorem userConnected : SinCorte s (s.userConnected l) := by
  have leido : SinCorte s (s.getTimestamp l.marca).1 := getTimestamp l.marca
  refine si (locales rfl) (si (pasa (by decide)) (si (leido.trans sinMarca) ?_))
  refine si (pasa (by decide)) (si ?_ ?_)
  · exact fun corte => nomatch corte
  · exact leido.trans (locales rfl)

/-- The cases that keep the object. -/
theorem caso {estado : Estado} (abre : destruye estado = false) : SinCorte s (s.caso l estado) := by
  cases estado with
  | disconnected => exact si (fun corte => nomatch corte) (locales rfl)
  | connecting => exact si (pasa (by decide)) (locales rfl)
  | conectado => exact si (pasa (by decide)) (pasa (by decide))
  | idle => exact idle
  | userConnected => exact userConnected
  | writingStatus =>
    refine si (fun corte => nomatch corte) (pasa ?_)
    split_ifs with ninguno
    · decide
    · exact ninguno
  | readingControl =>
    refine pasa ?_
    split_ifs with ninguno
    · decide
    · exact ninguno
  | updating => exact si (pasa (by decide)) (pasa (by decide))
  | downloading => exact si (locales rfl) (pasa (by decide))
  | installing =>
    have doble : SinCorte s (if l.dobleUpdate then s.pasa .downloading else s) :=
      si (pasa (by decide)) (locales rfl)
    exact si (pasa (by decide)) doble
  | writingControl | writingComs | writingParams | writingTimes | readingParams | readingComs =>
    exact fun corte => nomatch corte
  | writingRecord => exact locales rfl
  | disconnecting | apagado | starting | readingGroup | killing => cases abre

end SinCorte

/-- The state is `DISCONNECTED`, or a case has read it, or it comes back after a record. -/
def Cortada (s : Tarea) : Prop :=
  s.firebaseConnState = .disconnected ∨ s.punto = .caso .disconnected ∨
    s.punto = .envio .disconnected ∨ s.punto = .reintento .disconnected

/-- What may be deleted when `procesar_bloque` has disconnected the task `cortes` times: two
clients for each.  While the state is `DISCONNECTED` those of the last time have not been
deleted, or the task has come there by itself, without clients. -/
structure Saldo (cortes : Nat) (c : Conexion) : Prop where
  borrados : c.memoria.borrados ≤ 2 * cortes
  cortada : Cortada c.tarea → c.memoria.borrados + 2 ≤ 2 * cortes ∨
    c.memoria.tenidos = 0 ∧ c.tarea.firebaseConnState = .disconnected ∧
      (c.tarea.punto = .cabeza ∨ c.tarea.punto = .conmuta ∨ c.tarea.punto = .caso .disconnected)

theorem saldo_arranque : Saldo 0 .arranque where
  borrados := Nat.le_refl 0
  cortada _ := .inr ⟨rfl, rfl, .inl rfl⟩

theorem Saldo.procesarBloque {c : Conexion} {cortes : Nat} (saldo : Saldo cortes c) :
    Saldo (cortes + 1) { c with tarea := c.tarea.pasa .disconnected } where
  borrados := Nat.le_trans saldo.borrados (Nat.mul_le_mul_left 2 (Nat.le_succ cortes))
  cortada _ := .inl (Nat.add_le_add_right saldo.borrados 2)

section Borrados

variable {mktime : Tm → Int} {c : Conexion} {tras : Memoria} {cortes : Nat}

/-- A step that deletes nothing, after which the state is `DISCONNECTED` only if it was before. -/
theorem Saldo.quieto {s : Tarea} (saldo : Saldo cortes c)
    (mismos : tras.borrados = c.memoria.borrados)
    (dentro : ¬(c.tarea.punto = .cabeza ∨ c.tarea.punto = .conmuta ∨
      c.tarea.punto = .caso .disconnected))
    (queda : Cortada s → Cortada c.tarea) : Saldo cortes ⟨s, tras⟩ where
  borrados := mismos ▸ saldo.borrados
  cortada corte := by
    rcases saldo.cortada (queda corte) with quedan | ⟨-, -, aqui⟩
    · exact .inl (mismos ▸ quedan)
    · exact absurd aqui dentro

/-- A step between the head of the loop and the `switch`, which changes no memory. -/
theorem Saldo.vuelta {s : Tarea} (saldo : Saldo cortes c)
    (queda : Cortada s → c.tarea.firebaseConnState = .disconnected ∧
      s.firebaseConnState = .disconnected ∧
      (s.punto = .cabeza ∨ s.punto = .conmuta ∨ s.punto = .caso .disconnected)) :
    Saldo cortes ⟨s, c.memoria⟩ where
  borrados := saldo.borrados
  cortada corte := by
    obtain ⟨antes, despues⟩ := queda corte
    rcases saldo.cortada (.inl antes) with quedan | ⟨ninguno, -, -⟩
    · exact .inl quedan
    · exact .inr ⟨ninguno, despues⟩

/-- `DISCONNECTED` deletes the object. -/
theorem Saldo.disconnected (saldo : Saldo cortes c) (punto : c.tarea.punto = .caso .disconnected)
    (l : Lecturas) (acceso : Acceso)
    (hecho : c.memoria.caso acceso c.tarea l .disconnected = some tras) :
    Saldo cortes ⟨Tarea.caso { c.tarea with punto := .cabeza } l .disconnected, tras⟩ := by
  have credito := saldo.cortada (.inr (.inl punto))
  have dos := c.memoria.tenidos_le
  obtain rfl := Option.some.inj hecho
  unfold Tarea.caso Tarea.disconnected
  dsimp only
  split_ifs
  · constructor
    · change c.memoria.borrados + c.memoria.tenidos ≤ 2 * cortes
      have antes := saldo.borrados
      rcases credito with quedan | ⟨ninguno, -, -⟩
      · omega
      · omega
    · rintro (corte | corte | corte | corte) <;> cases corte
  · refine ⟨saldo.borrados, fun _ => ?_⟩
    rcases credito with quedan | ⟨ninguno, estado, -⟩
    · exact .inl quedan
    · exact .inr ⟨ninguno, estado, .inl rfl⟩

/-- A case of the `switch`. -/
theorem Saldo.tareaCaso (saldo : Saldo cortes c) {estado : Estado}
    (punto : c.tarea.punto = .caso estado) (l : Lecturas) (acceso : Acceso)
    (hecho : c.memoria.caso acceso c.tarea l estado = some tras) :
    Saldo cortes ⟨Tarea.caso { c.tarea with punto := .cabeza } l estado, tras⟩ := by
  by_cases corta : estado = .disconnected
  · subst corta
    exact saldo.disconnected punto l acceso hecho
  have mismos := Memoria.borrados_caso corta hecho
  cases abre : destruye estado with
  | true =>
    have cerrado : c.memoria.caso acceso c.tarea l estado = c.memoria.cierra := by
      cases estado <;> first | rfl | cases abre
    have fin : Tarea.caso { c.tarea with punto := .cabeza } l estado =
        Tarea.pasa { c.tarea with punto := .cabeza } .disconnected := by
      cases estado <;> first | rfl | cases abre
    rw [fin]
    refine ⟨mismos ▸ saldo.borrados, fun _ => .inr ⟨?_, rfl, .inl rfl⟩⟩
    obtain ⟨db, -, rfl⟩ := Option.map_eq_some_iff.mp (cerrado.symm.trans hecho)
    rfl
  | false =>
    have destino := (Conserva.caso (s := { c.tarea with punto := .cabeza }) (l := l) estado).punto
    refine saldo.quieto mismos (by simp [punto, corta]) fun corte => .inl ?_
    refine SinCorte.caso (s := { c.tarea with punto := .cabeza }) (l := l) abre ?_
    rcases corte with estado | corte
    · exact estado
    · rcases destino with cabeza | historico
      · simp [cabeza] at corte
      · simp [historico] at corte

/-- The head of the loop. -/
theorem Saldo.tareaCabeza (saldo : Saldo cortes c) (l : Lecturas) :
    Saldo cortes ⟨c.tarea.cabeza l, c.memoria⟩ := by
  refine saldo.vuelta fun corte => ?_
  unfold Tarea.cabeza at corte ⊢
  dsimp only at corte ⊢
  split_ifs at corte ⊢ with sinRed
  · rcases corte with corte | corte | corte | corte <;> cases corte
  · rcases corte with corte | corte | corte | corte
    · exact ⟨corte, corte, .inr (.inl rfl)⟩
    · cases corte
    · cases corte
    · cases corte

/-- The `switch`. -/
theorem Saldo.tareaConmuta (saldo : Saldo cortes c) :
    Saldo cortes ⟨{ c.tarea with punto := .caso c.tarea.firebaseConnState }, c.memoria⟩ := by
  refine saldo.vuelta fun corte => ?_
  have antes : c.tarea.firebaseConnState = .disconnected := by
    rcases corte with corte | corte | corte | corte
    · exact corte
    · exact Punto.caso.inj corte
    · cases corte
    · cases corte
  exact ⟨antes, antes, .inr (.inr (congrArg Punto.caso antes))⟩

theorem Saldo.tarea (saldo : Saldo cortes c) (l : Lecturas) (acceso : Acceso)
    (hecho : c.memoria.paso acceso c.tarea l = some tras) :
    Saldo cortes ⟨c.tarea.paso mktime l, tras⟩ := by
  unfold Memoria.paso at hecho
  unfold Tarea.paso
  cases punto : c.tarea.punto with
  | cabeza =>
    rw [punto] at hecho
    obtain rfl := Option.some.inj hecho
    exact saldo.tareaCabeza l
  | conmuta =>
    rw [punto] at hecho
    obtain rfl := Option.some.inj hecho
    exact saldo.tareaConmuta
  | caso estado =>
    rw [punto] at hecho
    exact saldo.tareaCaso punto l acceso hecho
  | historico =>
    rw [punto] at hecho
    obtain rfl := Option.some.inj hecho
    refine saldo.quieto rfl (by simp [punto]) fun corte => .inl ?_
    dsimp only [Tarea.writeFirebaseHistoric] at corte
    split_ifs at corte
    · simpa [Cortada, Tarea.devuelve] using corte
    · simpa [Cortada] using corte
  | espera count =>
    rw [punto] at hecho
    obtain rfl := Option.some.inj hecho
    refine saldo.quieto rfl (by simp [punto]) fun corte => .inl ?_
    dsimp only [Tarea.esperaPermiso] at corte
    split_ifs at corte
    · simpa [Cortada, Tarea.devuelve] using corte
    · simpa [Cortada] using corte
    · simpa [Cortada] using corte
  | guarda =>
    rw [punto] at hecho
    obtain rfl := Option.some.inj hecho
    refine saldo.quieto rfl (by simp [punto]) fun corte => .inl ?_
    simpa [Cortada, Tarea.guarda, Tarea.pasa] using corte
  | envio returnToLastconn =>
    rw [punto] at hecho
    refine saldo.quieto (Memoria.borrados_usa hecho) (by simp [punto]) fun corte => ?_
    have vuelve : returnToLastconn = .disconnected ∨ c.tarea.firebaseConnState = .disconnected := by
      dsimp only [Tarea.envia] at corte
      split_ifs at corte
      · simpa [Cortada, Tarea.restaura, Tarea.devuelve, Tarea.pasa] using Or.inl corte
      · simpa [Cortada, or_comm] using corte
    rcases vuelve with vuelve | estado
    · exact .inr (.inr (.inl (by rw [punto, vuelve])))
    · exact .inl estado
  | reintento returnToLastconn =>
    rw [punto] at hecho
    refine saldo.quieto (Memoria.borrados_usa hecho) (by simp [punto]) fun corte => ?_
    have vuelve : returnToLastconn = .disconnected := by
      simpa [Cortada, Tarea.restaura, Tarea.devuelve, Tarea.pasa] using corte
    exact .inr (.inr (.inr (by rw [punto, vuelve])))

theorem Saldo.corre (saldo : Saldo cortes c) (eventos : List Evento) {fin : Conexion}
    (hecho : c.corre mktime eventos = some fin) :
    Saldo (cortes + eventos.count .procesarBloque) fin := by
  induction eventos generalizing c cortes with
  | nil =>
    obtain rfl := Option.some.inj hecho
    exact saldo
  | cons evento resto ih =>
    obtain ⟨tras, primero, hecho⟩ := Option.bind_eq_some_iff.mp hecho
    cases evento with
    | tarea l acceso =>
      obtain ⟨memoria, suya, rfl⟩ := Option.map_eq_some_iff.mp primero
      rw [List.count_cons_of_ne Evento.noConfusion]
      exact ih (saldo.tarea _ acceso suya) hecho
    | procesarBloque =>
      obtain rfl := Option.some.inj primero
      rw [List.count_cons_self, Nat.add_comm (resto.count _), ← Nat.add_assoc]
      exact ih saldo.procesarBloque hecho

end Borrados

/-- Whenever the task is disconnected, it never goes through a null pointer and makes its requests
through an open client.  Every open client is one of the object, or another one has taken its
place, or it went with its object; of these there are two at most for each time that
`procesar_bloque` disconnects the task. -/
theorem clientes_run (mktime : Tm → Int) (eventos : List Evento) :
    ∃ fin, Conexion.arranque.corre mktime eventos = some fin ∧
      (pide fin.tarea.punto = true → fin.memoria.Lista) ∧
      fin.memoria.abiertos =
        fin.memoria.tenidos + (fin.memoria.pisados + fin.memoria.borrados) ∧
      fin.memoria.borrados ≤ 2 * eventos.count .procesarBloque := by
  obtain ⟨fin, hecho, sana⟩ : ∃ fin, Conexion.arranque.corre mktime eventos = some fin ∧
      Sana fin := sana_arranque.corre eventos
  refine ⟨fin, hecho, (provista_arranque.corre eventos hecho).punto, sana.cuadra, ?_⟩
  have saldo := (saldo_arranque.corre eventos hecho).borrados
  rwa [Nat.zero_add] at saldo

/-! ## The cleanups -/

/-- What happens to the task, whatever becomes of its memory. -/
def siguiente (mktime : Tm → Int) (s : Tarea) : Evento → Tarea
  | .tarea l acceso => s.paso mktime (acceso.leido l)
  | .procesarBloque => s.pasa .disconnected

/-- The loop does not find the Internet lost in `CONNECTING`. -/
def NoCae (s : Tarea) : Evento → Prop
  | .tarea l _ => s.punto = .cabeza → s.firebaseConnState = .connecting →
      l.internetConection = true
  | .procesarBloque => True

instance (s : Tarea) : ∀ evento, Decidable (NoCae s evento)
  | .tarea _ _ => inferInstanceAs (Decidable (_ → _ → _))
  | .procesarBloque => isTrue trivial

/-- The states before there is a client for the requests. -/
def inicial : Estado → Bool
  | .disconnected | .connecting => true
  | _ => false

/-- The task is in a case that comes after them, or in a request. -/
def despues : Punto → Bool
  | .caso estado => !inicial estado
  | .historico | .espera _ | .guarda | .envio _ | .reintento _ => true
  | .cabeza | .conmuta => false

/-- No client has been cleaned up before it was initialised, and only up to `CONNECTING` has
the object one that is not. -/
structure Limpia (c : Conexion) : Prop where
  danados : c.memoria.danados = 0
  estado : inicial c.tarea.firebaseConnState = false → c.memoria.Iniciada
  punto : despues c.tarea.punto = true → c.memoria.Iniciada

theorem limpia_arranque : Limpia .arranque where
  danados := rfl
  estado otro := nomatch otro
  punto otro := nomatch otro

namespace Memoria

variable {m tras : Memoria} {acceso : Acceso}

/-- The destructor of an object whose clients have been initialised. -/
theorem danados_cierra (iniciada : m.Iniciada) (hecho : m.cierra = some tras) :
    tras.danados = m.danados := by
  obtain ⟨db, viva, rfl⟩ := Option.map_eq_some_iff.mp hecho
  obtain ⟨rtdb, auth⟩ := iniciada db viva
  have cuenta {m : Memoria} {cliente : Cliente} (iniciado : cliente ≠ .sinIniciar) :
      (m.cleanup cliente).danados = m.danados := by
    cases cliente with
    | sinIniciar => exact absurd rfl iniciado
    | nulo | abierto => rfl
  exact (cuenta auth).trans (cuenta rtdb)

theorem danados_empieza (hecho : m.empieza acceso = some tras) : tras.danados = m.danados := by
  obtain ⟨db, -, rfl⟩ := Option.map_eq_some_iff.mp hecho
  split_ifs <;> rfl

theorem danados_initFirebaseClient (hecho : m.initFirebaseClient acceso = some tras) :
    tras.danados = m.danados := by
  obtain ⟨otra, entra, hecho⟩ := Option.bind_eq_some_iff.mp hecho
  rw [← (soloLogIn_logIn entra).danados]
  split_ifs at hecho
  · exact danados_empieza hecho
  · rw [← Option.some.inj hecho]

/-- When the first `LogIn` works no member is as it was. -/
theorem iniciada_initFirebaseClient (entra : acceso.logIn = .entra)
    (hecho : m.initFirebaseClient acceso = some tras) : tras.Iniciada := by
  obtain ⟨otra, hecha, hecho⟩ := Option.bind_eq_some_iff.mp hecho
  obtain ⟨db, -, rfl⟩ := Option.map_eq_some_iff.mp hecha
  have abierto : ¬ acceso.logIn = .sinServidor := by simp [entra]
  rw [if_pos entra, if_neg abierto] at hecho
  obtain ⟨otra, viva, rfl⟩ := Option.map_eq_some_iff.mp hecho
  obtain rfl := Option.some.inj viva
  intro fin igual
  split_ifs at igual
  · obtain rfl := Option.some.inj igual
    exact ⟨Cliente.noConfusion, Cliente.noConfusion⟩
  · obtain rfl := Option.some.inj igual
    exact ⟨Cliente.noConfusion, Cliente.noConfusion⟩

end Memoria

section Limpieza

variable {mktime : Tm → Int} {c : Conexion} {tras : Memoria}

/-- The object has its clients. -/
theorem Limpia.iniciada {s : Tarea} (danados : tras.danados = 0) (iniciada : tras.Iniciada) :
    Limpia ⟨s, tras⟩ where
  danados := danados
  estado _ := iniciada
  punto _ := iniciada

/-- The task is at the head of its loop, before there is a client. -/
theorem Limpia.enCabeza {s : Tarea} (danados : tras.danados = 0) (punto : s.punto = .cabeza)
    (estado : inicial s.firebaseConnState = true) : Limpia ⟨s, tras⟩ where
  danados := danados
  estado otro := absurd (estado.symm.trans otro) Bool.noConfusion
  punto otro := by simp [punto, despues] at otro

/-- A case of the `switch`. -/
theorem Limpia.tareaCaso (limpia : Limpia c) (provista : Provista c) {estado : Estado}
    (punto : c.tarea.punto = .caso estado) (l : Lecturas) (acceso : Acceso)
    (hecho : c.memoria.caso acceso c.tarea (acceso.leido l) estado = some tras) :
    Limpia ⟨Tarea.caso { c.tarea with punto := .cabeza } (acceso.leido l) estado, tras⟩ := by
  have antes := provista.caso estado punto
  cases dentro : conectado estado with
  | true =>
    have solo := Memoria.soloLogIn_caso dentro hecho
    have tras : despues c.tarea.punto = true := by
      rw [punto]
      cases estado <;> first | rfl | cases dentro
    exact Limpia.iniciada (solo.danados.trans limpia.danados) (solo.iniciada (limpia.punto tras))
  | false =>
    cases estado with
    | disconnected =>
      have queda : inicial c.tarea.firebaseConnState = true := by
        rcases antes with mismo | mismo <;> exact congrArg inicial mismo
      obtain rfl := Option.some.inj hecho
      unfold Tarea.caso Tarea.disconnected
      dsimp only
      split_ifs
      · exact Limpia.enCabeza limpia.danados rfl rfl
      · exact Limpia.enCabeza limpia.danados rfl queda
    | connecting =>
      have queda : inicial c.tarea.firebaseConnState = true := by
        rcases antes with mismo | mismo <;> exact congrArg inicial mismo
      have danados := (Memoria.danados_initFirebaseClient hecho).trans limpia.danados
      unfold Tarea.caso Tarea.connecting
      dsimp only
      split_ifs with iniciado
      · obtain ⟨entra, -⟩ := Bool.and_eq_true_iff.mp iniciado
        have iniciada := Memoria.iniciada_initFirebaseClient (eq_of_beq entra) hecho
        exact Limpia.iniciada danados iniciada
      · exact Limpia.enCabeza danados rfl queda
    | disconnecting | apagado | starting | readingGroup | killing =>
      have iniciada := limpia.punto (by rw [punto]; rfl)
      exact Limpia.enCabeza ((Memoria.danados_cierra iniciada hecho).trans limpia.danados) rfl rfl
    | conectado | idle | userConnected | readingControl | readingParams | readingComs
    | writingControl | writingStatus | writingParams | writingComs | writingTimes | writingRecord
    | downloading | updating | installing => cases dentro

/-- A request with the record, or none. -/
theorem Limpia.dentro {s : Tarea} (limpia : Limpia c) (dentro : despues c.tarea.punto = true)
    (solo : c.memoria.SoloLogIn tras) : Limpia ⟨s, tras⟩ :=
  Limpia.iniciada (solo.danados.trans limpia.danados) (solo.iniciada (limpia.punto dentro))

theorem Limpia.tarea (limpia : Limpia c) (provista : Provista c) (l : Lecturas) (acceso : Acceso)
    (noCae : NoCae c.tarea (.tarea l acceso))
    (hecho : c.memoria.paso acceso c.tarea (acceso.leido l) = some tras) :
    Limpia ⟨c.tarea.paso mktime (acceso.leido l), tras⟩ := by
  unfold Memoria.paso at hecho
  cases punto : c.tarea.punto with
  | cabeza =>
    rw [punto] at hecho
    obtain rfl := Option.some.inj hecho
    unfold Tarea.paso
    rw [punto]
    dsimp only [Tarea.cabeza]
    split_ifs with sinRed
    · refine ⟨limpia.danados, fun _ => limpia.estado ?_, (nomatch ·)⟩
      have lejos : c.tarea.firebaseConnState ≠ .connecting := fun conecta =>
        absurd ((noCae punto conecta).symm.trans sinRed.1) Bool.noConfusion
      unfold inicial
      split
      · exact absurd ‹_› sinRed.2
      · exact absurd ‹_› lejos
      · rfl
    · exact ⟨limpia.danados, limpia.estado, (nomatch ·)⟩
  | conmuta =>
    rw [punto] at hecho
    obtain rfl := Option.some.inj hecho
    unfold Tarea.paso
    rw [punto]
    refine ⟨limpia.danados, limpia.estado, fun tras => limpia.estado ?_⟩
    exact Bool.not_eq_true' _ ▸ tras
  | caso estado =>
    rw [punto] at hecho
    unfold Tarea.paso
    rw [punto]
    exact limpia.tareaCaso provista punto l acceso hecho
  | historico | espera | guarda =>
    rw [punto] at hecho
    obtain rfl := Option.some.inj hecho
    exact limpia.dentro (by rw [punto]; rfl) Memoria.soloLogIn_self
  | envio | reintento =>
    rw [punto] at hecho
    exact limpia.dentro (by rw [punto]; rfl) (Memoria.soloLogIn_usa hecho)

/-- The task takes its step whatever becomes of the memory. -/
theorem tarea_paso {evento : Evento} {fin : Conexion} (hecho : c.paso mktime evento = some fin) :
    fin.tarea = siguiente mktime c.tarea evento := by
  cases evento with
  | tarea l acceso =>
    obtain ⟨tras, -, rfl⟩ := Option.map_eq_some_iff.mp hecho
    rfl
  | procesarBloque =>
    obtain rfl := Option.some.inj hecho
    rfl

theorem Limpia.paso (limpia : Limpia c) (provista : Provista c) {evento : Evento}
    (noCae : NoCae c.tarea evento) {fin : Conexion} (hecho : c.paso mktime evento = some fin) :
    Limpia fin := by
  cases evento with
  | tarea l acceso =>
    obtain ⟨tras, memoria, rfl⟩ := Option.map_eq_some_iff.mp hecho
    exact limpia.tarea provista l acceso noCae memoria
  | procesarBloque =>
    obtain rfl := Option.some.inj hecho
    exact ⟨limpia.danados, (nomatch ·), limpia.punto⟩

theorem Limpia.corre (limpia : Limpia c) (provista : Provista c) {eventos : List Evento}
    (noCae : Along NoCae (siguiente mktime) eventos c.tarea) {fin : Conexion}
    (hecho : c.corre mktime eventos = some fin) : Limpia fin := by
  induction eventos generalizing c with
  | nil =>
    obtain rfl := Option.some.inj hecho
    exact limpia
  | cons evento resto ih =>
    obtain ⟨tras, primero, hecho⟩ := Option.bind_eq_some_iff.mp hecho
    have sigue := noCae.2
    rw [← tarea_paso primero] at sigue
    exact ih (limpia.paso provista noCae.1 primero) (provista.paso evento primero) sigue hecho

end Limpieza

/-- As long as the loop does not find the Internet lost while it connects, the task cleans up
only clients that it has initialised. -/
theorem danados_run (mktime : Tm → Int) (eventos : List Evento)
    (noCae : Along NoCae (siguiente mktime) eventos .arranque) :
    ∃ fin, Conexion.arranque.corre mktime eventos = some fin ∧ fin.memoria.danados = 0 := by
  obtain ⟨fin, hecho, -⟩ : ∃ fin, Conexion.arranque.corre mktime eventos = some fin ∧
      Sana fin := sana_arranque.corre eventos
  exact ⟨fin, hecho, (limpia_arranque.corre provista_arranque noCae hecho).danados⟩

/-- A reading without Internet. -/
def sinInternet : Lecturas :=
  { alDia with internetConection := false }

/-- The first connection: the `LogIn` ends as is said, and in the next pass there is Internet
or not. -/
def conexion (logIn : LogIn) (segunda : Lecturas) : List Evento :=
  List.replicate 6 (.tarea alDia ⟨logIn, true⟩) ++ List.replicate 3 (.tarea segunda ⟨.entra, true⟩)

theorem danados_run_conexion :
    ∃ fin, Conexion.arranque.corre (fun _ => 0) (conexion .entra sinInternet) = some fin ∧
      fin.memoria.danados = 0 :=
  danados_run (fun _ => 0) (conexion .entra sinInternet) (by decide)

/-- The `LogIn` fails and then the Internet does: `end` cleans up a client that `begin` has not
initialised. -/
example : (Conexion.arranque.corre (fun _ => 0) (conexion .falla sinInternet)).map
    (·.memoria.danados) = some 1 := by
  decide

/-! ## The cases that are run -/

/-- The states that the machine goes through. -/
def alcanza : Estado → Bool
  | .disconnected | .disconnecting | .connecting | .conectado | .idle | .userConnected
  | .updating | .downloading | .installing => true
  | _ => false

/-- The state is one of them, and none waits in `NextState`. -/
structure Alcanzable (s : Tarea) : Prop where
  estado : alcanza s.firebaseConnState = true
  next : s.nextState = .disconnected

namespace Alcanzable

variable {s t : Tarea} {l : Lecturas}

theorem pasa (alcanzable : Alcanzable s) {estado : Estado} (bien : alcanza estado = true) :
    Alcanzable (s.pasa estado) :=
  ⟨bien, alcanzable.next⟩

theorem si {c : Prop} [Decidable c] (yes : Alcanzable s) (no : Alcanzable t) :
    Alcanzable (if c then s else t) := by
  split_ifs
  · exact yes
  · exact no

/-- The other variables change. -/
theorem locales (alcanzable : Alcanzable s) (estado : t.firebaseConnState = s.firebaseConnState)
    (next : t.nextState = s.nextState) : Alcanzable t :=
  ⟨estado ▸ alcanzable.estado, next ▸ alcanzable.next⟩

theorem getTimestamp (alcanzable : Alcanzable s) (marca : Marca) :
    Alcanzable (s.getTimestamp marca).1 := by
  unfold Tarea.getTimestamp
  split_ifs
  · exact alcanzable.pasa rfl
  · exact alcanzable

theorem marcas (alcanzable : Alcanzable s) (marcas : List Marca) :
    Alcanzable (marcas.foldl (fun s marca => (s.getTimestamp marca).1) s) := by
  induction marcas generalizing s with
  | nil => exact alcanzable
  | cons marca rest ih => exact ih (alcanzable.getTimestamp marca)

theorem sinMarca (alcanzable : Alcanzable s) : Alcanzable (s.sinMarca l) := by
  have corta : Alcanzable (s.pasa .disconnecting) := alcanzable.pasa rfl
  exact si (si alcanzable corta) (si (corta.locales rfl rfl) (alcanzable.locales rfl rfl))

theorem idle (alcanzable : Alcanzable s) : Alcanzable (s.idle l) := by
  have leido := alcanzable.getTimestamp l.marca
  refine si (alcanzable.pasa rfl) (si alcanzable (si leido.sinMarca ?_))
  refine si ?_ (si ?_ (si ?_ ?_))
  · exact ⟨rfl, leido.next⟩
  · exact ⟨rfl, leido.next⟩
  · exact leido.locales rfl rfl
  · exact leido.locales rfl rfl

theorem userConnected (alcanzable : Alcanzable s) : Alcanzable (s.userConnected l) := by
  have leido := alcanzable.getTimestamp l.marca
  refine si (alcanzable.locales rfl rfl) (si (alcanzable.pasa rfl) (si leido.sinMarca ?_))
  refine si ?_ (si ?_ ?_)
  · exact ⟨rfl, leido.next⟩
  · exact ⟨rfl, leido.next⟩
  · exact leido.locales rfl rfl

/-- These cases lead to one another. -/
theorem caso (alcanzable : Alcanzable s) {estado : Estado} (bien : alcanza estado = true) :
    Alcanzable (s.caso l estado) := by
  cases estado with
  | disconnected => exact si ⟨rfl, alcanzable.next⟩ alcanzable
  | connecting => exact si (alcanzable.pasa rfl) (alcanzable.locales rfl rfl)
  | conectado =>
    have leido := (alcanzable.marcas l.marcas).getTimestamp l.marca
    exact si ⟨rfl, leido.next⟩ ⟨rfl, leido.next⟩
  | idle => exact alcanzable.idle
  | userConnected => exact alcanzable.userConnected
  | updating => exact si (alcanzable.pasa rfl) (alcanzable.pasa rfl)
  | downloading => exact si alcanzable (alcanzable.pasa rfl)
  | installing =>
    have doble : Alcanzable (if l.dobleUpdate then s.pasa .downloading else s) :=
      si (alcanzable.pasa rfl) alcanzable
    exact si (doble.pasa rfl) doble
  | disconnecting => exact alcanzable.pasa rfl
  | readingControl | readingParams | readingComs | writingControl | writingStatus | writingParams
  | writingComs | writingTimes | writingRecord | apagado | starting | readingGroup | killing =>
    cases bien

end Alcanzable

/-- What a step finds: the state is one that is gone through, unless a record is being sent,
and so is the one that a case has read or that comes back after the record. -/
def Recorrida (s : Tarea) : Prop :=
  s.nextState = .disconnected ∧
    match s.punto with
    | .caso estado => alcanza estado = true ∧ alcanza s.firebaseConnState = true
    | .envio estado | .reintento estado => alcanza estado = true
    | _ => alcanza s.firebaseConnState = true

theorem recorrida_pasa {mktime : Tm → Int} {s : Tarea} (recorrida : Recorrida s) (evento : Evento) :
    Recorrida (siguiente mktime s evento) := by
  obtain ⟨next, dentro⟩ := recorrida
  cases evento with
  | procesarBloque =>
    refine ⟨next, ?_⟩
    unfold siguiente Tarea.pasa
    dsimp only
    cases punto : s.punto with
    | cabeza | conmuta | historico | espera | guarda => rfl
    | caso estado =>
      rw [punto] at dentro
      exact ⟨dentro.1, rfl⟩
    | envio | reintento =>
      rw [punto] at dentro
      exact dentro
  | tarea l acceso =>
    unfold siguiente Tarea.paso
    dsimp only
    cases punto : s.punto with
    | cabeza =>
      rw [punto] at dentro
      dsimp only [Tarea.cabeza]
      split_ifs
      · exact ⟨next, rfl⟩
      · exact ⟨next, dentro⟩
    | conmuta =>
      rw [punto] at dentro
      exact ⟨next, dentro, dentro⟩
    | caso estado =>
      rw [punto] at dentro
      have libre : Alcanzable { s with punto := .cabeza } := ⟨dentro.2, next⟩
      obtain ⟨fin, nextFin⟩ := libre.caso (l := acceso.leido l) dentro.1
      have destino := (Conserva.caso (s := { s with punto := .cabeza }) (l := acceso.leido l)
        estado).punto
      refine ⟨nextFin, ?_⟩
      rcases destino with cabeza | historico
      · simpa [cabeza] using fin
      · simpa [historico] using fin
    | historico =>
      rw [punto] at dentro
      dsimp only [Tarea.writeFirebaseHistoric]
      split_ifs
      · exact ⟨next, dentro⟩
      · exact ⟨next, dentro⟩
    | espera count =>
      rw [punto] at dentro
      dsimp only [Tarea.esperaPermiso]
      split_ifs
      · exact ⟨next, dentro⟩
      · exact ⟨next, dentro⟩
      · exact ⟨next, dentro⟩
    | guarda =>
      rw [punto] at dentro
      exact ⟨next, dentro⟩
    | envio estado =>
      rw [punto] at dentro
      dsimp only [Tarea.envia]
      split_ifs
      · exact ⟨next, dentro⟩
      · exact ⟨next, dentro⟩
    | reintento estado =>
      rw [punto] at dentro
      exact ⟨next, dentro⟩

/-- The states of the cases that read or write the control, the status, the parameters, the
communications and the times, of a record, and those that the machine does not know. -/
def sinUso : List Estado :=
  [.readingControl, .readingParams, .readingComs, .readingGroup, .writingControl, .writingStatus,
    .writingParams, .writingComs, .writingTimes, .writingRecord, .apagado, .starting, .killing]

/-- Their cases are never run. -/
theorem casos_run (mktime : Tm → Int) (eventos : List Evento) :
    (eventos.foldl (siguiente mktime) .arranque).punto ∉ sinUso.map Punto.caso := by
  have recorrida : Recorrida (eventos.foldl (siguiente mktime) .arranque) :=
    List.foldlRecOn eventos _ ⟨rfl, rfl⟩ fun s dentro evento _ => recorrida_pasa dentro evento
  intro esta
  obtain ⟨estado, muerto, punto⟩ := List.mem_map.mp esta
  have vivo := recorrida.2
  rw [← punto] at vivo
  have nunca : ∀ estado ∈ sinUso, alcanza estado = false := by decide
  exact Bool.false_ne_true ((nunca estado muerto).symm.trans vivo.1)

end VeltiumCharger.Nube.Clientes
