import Mathlib.Logic.Equiv.Defs
import VeltiumCharger.Library.Run

/-!
# Authentication over BLE

On a connection the charger draws a challenge and keeps the reply it expects:
the challenge encrypted under a key made of its serial number.  The client is
authenticated when it writes that reply.  The challenge is drawn only once the
charger has been initialised; a disconnection clears challenge and reply.

The cipher is a permutation of pairs of 32-bit words.
-/

namespace VeltiumCharger.Ble

open VeltiumCharger.Run

/-- A challenge, a reply or a token. -/
abbrev Vec8 := Vector UInt8 8

/-- The word at `start`, the high byte first: `ul1BE_for_vec8` and
`ul2BE_for_vec8`, the ones a little-endian processor selects. -/
def ulBEForVec8 (vec : Vec8) (start : Nat) (menor : start + 3 < 8) : UInt32 :=
  vec[start].toUInt32 <<< 24 ||| vec[start + 1].toUInt32 <<< 16 |||
    vec[start + 2].toUInt32 <<< 8 ||| vec[start + 3].toUInt32

/-- The byte of a word that `ul1BE_to_vec8` and `ul2BE_to_vec8` put at `i`. -/
def byteBE (val : UInt32) (i : Nat) : UInt8 :=
  (val >>> (24 - 8 * i).toUInt32).toUInt8

/-- `encrypt_vec` -/
def encryptVec (blowfishEncrypt : Equiv.Perm (UInt32 × UInt32)) (inputVec : Vec8) : Vec8 :=
  let io := blowfishEncrypt
    (ulBEForVec8 inputVec 0 (by decide), ulBEForVec8 inputVec 4 (by decide))
  Vector.ofFn fun i : Fin 8 => if i.val < 4 then byteBE io.1 i.val else byteBE io.2 (i.val - 4)

/-- `dev_auth_challenge` -/
def devAuthChallenge (blowfishEncrypt : Equiv.Perm (UInt32 × UInt32)) (challengeInput : Vec8) :
    Vec8 :=
  encryptVec blowfishEncrypt challengeInput

/-- Eight bytes of zero. -/
def ceros : Vec8 :=
  Vector.replicate 8 0

/-- `initialSerNum` -/
def initialSerNum : Vector UInt8 10 :=
  Vector.replicate 10 0xFF

/-- `RaspberryTest` and `RaspberryTest2` -/
def raspberryTests : List (Vector UInt8 6) :=
  [#v[139, 96, 111, 50, 166, 220], #v[179, 186, 112, 1, 95, 228]]

/-- The variables of the authentication. -/
structure Autenticacion where
  dispositivoInicializado : UInt8
  deviceSerNum : Vector UInt8 10
  testing : Bool
  deviceBleConnected : Bool
  authSuccess : Bool
  authChallengeQuery : Vec8
  authChallengeReply : Vec8
  deriving DecidableEq

/-- The variables when `controlInit` has run. -/
def Autenticacion.inicial (deviceSerNum : Vector UInt8 10) : Autenticacion where
  dispositivoInicializado := 1
  deviceSerNum := deviceSerNum
  testing := false
  deviceBleConnected := false
  authSuccess := false
  authChallengeQuery := ceros
  authChallengeReply := ceros

namespace Autenticacion

variable (blowfishEncrypt : Equiv.Perm (UInt32 × UInt32)) (a : Autenticacion)

/-- A token that `setAuthToken` takes. -/
def acepta (data : Vec8) : Bool :=
  a.authChallengeReply == data || a.deviceSerNum == initialSerNum

/-- `setAuthToken` -/
def setAuthToken (data : Vec8) : Autenticacion :=
  if !a.authSuccess && a.acepta data then
    { a with deviceBleConnected := true, authSuccess := true }
  else a

/-- The challenge made of four random words. -/
def query (random : Fin 4 → UInt32) : Vec8 :=
  Vector.ofFn fun i : Fin 8 =>
    let palabra := random ⟨i.val / 2, by omega⟩
    if i.val % 2 = 0 then palabra.toUInt8 else (palabra >>> 8).toUInt8

/-- `deviceConnectInd` -/
def deviceConnectInd (random : Fin 4 → UInt32) : Autenticacion :=
  if a.dispositivoInicializado = 2 then
    { a with
      authChallengeQuery := query random
      authChallengeReply := devAuthChallenge blowfishEncrypt (query random) }
  else a

/-- `onConnect` -/
def onConnect (peerAddress : Vector UInt8 6) (random : Fin 4 → UInt32) : Autenticacion :=
  if raspberryTests.contains peerAddress then
    setAuthToken { a with testing := true } a.authChallengeReply
  else deviceConnectInd blowfishEncrypt { a with testing := false } random

/-- The challenge a connection draws. -/
def sortea (peerAddress : Vector UInt8 6) (random : Fin 4 → UInt32) : Option Vec8 :=
  if !raspberryTests.contains peerAddress && a.dispositivoInicializado == 2 then
    some (query random)
  else none

/-- `onDisconnect`, with `deviceDisconnectInd` -/
def onDisconnect : Autenticacion :=
  { a with
    testing := false
    deviceBleConnected := false
    authSuccess := false
    authChallengeQuery := ceros
    authChallengeReply := ceros }

end Autenticacion

/-! ## Sessions -/

/-- What a client and the charger do; there is one client at a time. -/
inductive Evento
  | connect (peerAddress : Vector UInt8 6) (random : Fin 4 → UInt32)
  | disconnect
  | token (data : Vec8)
  | inicializa

/-- A success of `setAuthToken`: the token, and the challenge drawn in the
connection it was written in, if one was. -/
structure Exito where
  token : Vec8
  sorteada : Option Vec8
  deriving DecidableEq

/-- The authentication with its history: whether a client is connected, the
challenge drawn in this connection, and the times `authSuccess` became 1. -/
structure Sesion extends Autenticacion where
  conectado : Bool
  sorteada : Option Vec8
  exitos : List Exito
  deriving DecidableEq

/-- The charger before any connection. -/
def Sesion.inicial (deviceSerNum : Vector UInt8 10) : Sesion where
  toAutenticacion := .inicial deviceSerNum
  conectado := false
  sorteada := none
  exitos := []

/-- The authentication has become another one, by a token that was written. -/
def Sesion.tras (s : Sesion) (a : Autenticacion) (token : Vec8) : Sesion :=
  { s with
    toAutenticacion := a
    exitos :=
      if a.authSuccess && !s.authSuccess then s.exitos ++ [⟨token, s.sorteada⟩] else s.exitos }

/-- One step.  A client connects when none is, and the others need one. -/
def Sesion.paso (blowfishEncrypt : Equiv.Perm (UInt32 × UInt32)) (s : Sesion) : Evento → Sesion
  | .connect peerAddress random =>
    if s.conectado then s
    else
      let conectada : Sesion := { s with
        conectado := true
        sorteada := s.sortea peerAddress random }
      conectada.tras (s.onConnect blowfishEncrypt peerAddress random) s.authChallengeReply
  | .disconnect =>
    if s.conectado then
      { s with toAutenticacion := s.onDisconnect, conectado := false, sorteada := none }
    else s
  | .token data => if s.conectado then s.tras (s.setAuthToken data) data else s
  | .inicializa => { s with dispositivoInicializado := 2 }

/-- A success is due to a challenge drawn in the same connection. -/
def Exito.Legitimo (blowfishEncrypt : Equiv.Perm (UInt32 × UInt32)) (exito : Exito) : Prop :=
  ∃ query, exito.sorteada = some query ∧ exito.token = devAuthChallenge blowfishEncrypt query

/-- The client is not one of the two that test the charger. -/
def Evento.SinPruebas : Evento → Prop
  | .connect peerAddress _ => peerAddress ∉ raspberryTests
  | _ => True

/-- In a connection without a challenge, no token of zeros is written. -/
def Sesion.ConReto (s : Sesion) : Evento → Prop
  | .token data => s.conectado = true → s.authSuccess = false → s.sorteada = none → data ≠ ceros
  | _ => True

instance (s : Sesion) : ∀ evento, Decidable (s.ConReto evento)
  | .token _ => inferInstanceAs (Decidable (_ → _ → _ → _))
  | .connect _ _ => isTrue trivial
  | .disconnect => isTrue trivial
  | .inicializa => isTrue trivial

/-- The expected reply is that of the challenge of this connection, or zeros. -/
structure Coherente (blowfishEncrypt : Equiv.Perm (UInt32 × UInt32)) (s : Sesion) : Prop where
  serie : s.deviceSerNum ≠ initialSerNum
  conReto : ∀ query, s.sorteada = some query →
    s.authChallengeReply = devAuthChallenge blowfishEncrypt query
  sinReto : s.sorteada = none → s.authChallengeReply = ceros
  sinCliente : s.conectado = false →
    s.sorteada = none ∧ s.authSuccess = false ∧ s.authChallengeReply = ceros

section Pasos

variable {blowfishEncrypt : Equiv.Perm (UInt32 × UInt32)} {s : Sesion}

/-- Every success so far is legitimate. -/
def Legitimos (blowfishEncrypt : Equiv.Perm (UInt32 × UInt32)) (s : Sesion) : Prop :=
  ∀ exito ∈ s.exitos, exito.Legitimo blowfishEncrypt

theorem coherente_inicial {deviceSerNum : Vector UInt8 10} (serie : deviceSerNum ≠ initialSerNum) :
    Coherente blowfishEncrypt (.inicial deviceSerNum) where
  serie := serie
  conReto _ otra := nomatch otra
  sinReto _ := rfl
  sinCliente _ := ⟨rfl, rfl, rfl⟩

/-- A token is taken when it is the expected reply. -/
theorem acepta_iff (coherente : Coherente blowfishEncrypt s) (data : Vec8) :
    s.acepta data = true ↔ s.authChallengeReply = data := by
  unfold Autenticacion.acepta
  rw [Bool.or_eq_true, beq_iff_eq, beq_iff_eq]
  exact or_iff_left coherente.serie

/-- A connection draws a challenge once the charger has been initialised. -/
theorem paso_connect (coherente : Coherente blowfishEncrypt s) {peerAddress : Vector UInt8 6}
    (random : Fin 4 → UInt32) (cliente : peerAddress ∉ raspberryTests) :
    Coherente blowfishEncrypt (s.paso blowfishEncrypt (.connect peerAddress random)) ∧
      (s.paso blowfishEncrypt (.connect peerAddress random)).exitos = s.exitos := by
  unfold Sesion.paso
  dsimp only
  by_cases conectado : s.conectado = true
  · rw [if_pos conectado]
    exact ⟨coherente, rfl⟩
  · obtain ⟨-, fuera, nada⟩ := coherente.sinCliente (Bool.of_not_eq_true conectado)
    have sinPruebas : raspberryTests.contains peerAddress = false := by
      simpa using cliente
    rw [if_neg conectado]
    unfold Autenticacion.onConnect
    rw [sinPruebas, if_neg Bool.false_ne_true]
    unfold Autenticacion.deviceConnectInd
    dsimp only
    by_cases lista : s.dispositivoInicializado = 2
    · have sorteo : s.sortea peerAddress random = some (Autenticacion.query random) := by
        simp [Autenticacion.sortea, cliente, lista]
      rw [if_pos lista, sorteo]
      constructor
      · constructor
        case serie => exact coherente.serie
        case conReto =>
          rintro _ ⟨⟩
          rfl
        case sinReto => exact fun otra => nomatch otra
        case sinCliente => exact fun otro => absurd otro.symm Bool.false_ne_true
      · simp [Sesion.tras, fuera]
    · have sorteo : s.sortea peerAddress random = none := by
        simp [Autenticacion.sortea, lista]
      rw [if_neg lista, sorteo]
      constructor
      · constructor
        case serie => exact coherente.serie
        case conReto => exact fun _ otra => nomatch otra
        case sinReto => exact fun _ => nada
        case sinCliente => exact fun otro => absurd otro.symm Bool.false_ne_true
      · simp [Sesion.tras, fuera]

theorem legitimos_concat {otra : Sesion} {exito : Exito}
    (exitos : otra.exitos = s.exitos ++ [exito]) :
    Legitimos blowfishEncrypt otra ↔
      Legitimos blowfishEncrypt s ∧ exito.Legitimo blowfishEncrypt := by
  unfold Legitimos
  rw [exitos]
  simp only [List.mem_append, List.mem_singleton, or_imp, forall_and, forall_eq]

/-- A success of the expected reply is legitimate when there was a challenge. -/
theorem legitimo_iff (coherente : Coherente blowfishEncrypt s) {data : Vec8}
    (esperada : s.authChallengeReply = data) :
    Exito.Legitimo blowfishEncrypt ⟨data, s.sorteada⟩ ↔ (s.sorteada = none → data ≠ ceros) := by
  cases sorteada : s.sorteada with
  | none =>
      constructor
      · rintro ⟨_, otra, -⟩
        cases otra
      · intro distinto
        exact absurd (esperada.symm.trans (coherente.sinReto sorteada)) (distinto rfl)
  | some query =>
      constructor
      · exact fun _ otra => nomatch otra
      · exact fun _ => ⟨query, rfl, esperada.symm.trans (coherente.conReto query sorteada)⟩

/-- A token that is not taken, whether the session is authenticated or not. -/
theorem paso_token_rechazado (coherente : Coherente blowfishEncrypt s) {data : Vec8}
    (conectado : s.conectado = true) (igual : s.setAuthToken data = s.toAutenticacion)
    (conReto : s.ConReto (.token data)) :
    Coherente blowfishEncrypt (s.paso blowfishEncrypt (.token data)) ∧
      (Legitimos blowfishEncrypt (s.paso blowfishEncrypt (.token data)) ↔
        Legitimos blowfishEncrypt s ∧ s.ConReto (.token data)) := by
  unfold Sesion.paso
  dsimp only
  rw [if_pos conectado, igual]
  constructor
  · exact ⟨coherente.serie, coherente.conReto, coherente.sinReto, coherente.sinCliente⟩
  · have exitos : (s.tras s.toAutenticacion data).exitos = s.exitos := by
      simp [Sesion.tras]
    unfold Legitimos
    rw [exitos]
    exact (and_iff_left conReto).symm

/-- The token that is expected, which authenticates the session. -/
theorem paso_token_esperado (coherente : Coherente blowfishEncrypt s) {data : Vec8}
    (conectado : s.conectado = true) (pendiente : s.authSuccess = false)
    (esperada : s.authChallengeReply = data) :
    Coherente blowfishEncrypt (s.paso blowfishEncrypt (.token data)) ∧
      (Legitimos blowfishEncrypt (s.paso blowfishEncrypt (.token data)) ↔
        Legitimos blowfishEncrypt s ∧ s.ConReto (.token data)) := by
  have entra : (!s.authSuccess && s.acepta data) = true := by
    rw [pendiente, (acepta_iff coherente data).mpr esperada]
    rfl
  have toma : s.setAuthToken data =
      { s.toAutenticacion with deviceBleConnected := true, authSuccess := true } :=
    if_pos entra
  unfold Sesion.paso
  dsimp only
  rw [if_pos conectado, toma]
  constructor
  · constructor
    case serie => exact coherente.serie
    case conReto => exact coherente.conReto
    case sinReto => exact coherente.sinReto
    case sinCliente => exact fun otro => absurd (otro.symm.trans conectado) Bool.false_ne_true
  · have exitos : (s.tras { s.toAutenticacion with
        deviceBleConnected := true, authSuccess := true } data).exitos =
        s.exitos ++ [⟨data, s.sorteada⟩] := by
      simp [Sesion.tras, pendiente]
    rw [legitimos_concat exitos, legitimo_iff coherente esperada]
    refine and_congr_right fun _ => ?_
    constructor
    · exact fun conReto _ _ => conReto
    · exact fun conReto => conReto conectado pendiente

/-- A token authenticates legitimately, unless it is zeros in a connection
without a challenge. -/
theorem paso_token (coherente : Coherente blowfishEncrypt s) (data : Vec8) :
    Coherente blowfishEncrypt (s.paso blowfishEncrypt (.token data)) ∧
      (Legitimos blowfishEncrypt (s.paso blowfishEncrypt (.token data)) ↔
        Legitimos blowfishEncrypt s ∧ s.ConReto (.token data)) := by
  by_cases conectado : s.conectado = true
  · cases autenticado : s.authSuccess with
    | true =>
        refine paso_token_rechazado coherente conectado ?_ ?_
        · simp [Autenticacion.setAuthToken, autenticado]
        · exact fun _ fuera => absurd (fuera.symm.trans autenticado) Bool.false_ne_true
    | false =>
        by_cases esperada : s.authChallengeReply = data
        · exact paso_token_esperado coherente conectado autenticado esperada
        · have fuera : ¬ (!s.authSuccess && s.acepta data) = true := by
            rw [Bool.and_eq_true, acepta_iff coherente data]
            exact fun ambos => esperada ambos.2
          refine paso_token_rechazado coherente conectado (if_neg fuera) ?_
          exact fun _ _ sinReto nulo => esperada ((coherente.sinReto sinReto).trans nulo.symm)
  · unfold Sesion.paso
    dsimp only
    rw [if_neg conectado]
    exact ⟨coherente, (and_iff_left fun otro => absurd otro conectado).symm⟩

/-- One step, and whether its success, if there is one, is legitimate. -/
theorem paso_coherente (coherente : Coherente blowfishEncrypt s) {evento : Evento}
    (cliente : evento.SinPruebas) :
    Coherente blowfishEncrypt (s.paso blowfishEncrypt evento) ∧
      (Legitimos blowfishEncrypt (s.paso blowfishEncrypt evento) ↔
        Legitimos blowfishEncrypt s ∧ s.ConReto evento) := by
  cases evento with
  | connect peerAddress random =>
      obtain ⟨sigue, exitos⟩ := paso_connect coherente random cliente
      refine ⟨sigue, ?_⟩
      unfold Legitimos
      rw [exitos]
      exact (and_iff_left trivial).symm
  | disconnect =>
      unfold Sesion.paso
      dsimp only
      split_ifs
      · constructor
        · constructor
          case serie => exact coherente.serie
          case conReto => exact fun _ otra => nomatch otra
          case sinReto => exact fun _ => rfl
          case sinCliente => exact fun _ => ⟨rfl, rfl, rfl⟩
        · exact (and_iff_left trivial).symm
      · exact ⟨coherente, (and_iff_left trivial).symm⟩
  | token data => exact paso_token coherente data
  | inicializa =>
      constructor
      · exact ⟨coherente.serie, coherente.conReto, coherente.sinReto, coherente.sinCliente⟩
      · exact (and_iff_left trivial).symm

end Pasos

/-- In a run of clients that are not the test ones, every success is due to a
challenge of its connection if and only if no token of zeros is written in a
connection without one. -/
theorem autenticacion_legitima (blowfishEncrypt : Equiv.Perm (UInt32 × UInt32))
    (deviceSerNum : Vector UInt8 10) (serie : deviceSerNum ≠ initialSerNum)
    (eventos : List Evento) (clientes : ∀ evento ∈ eventos, evento.SinPruebas) :
    (∀ exito ∈ (eventos.foldl (Sesion.paso blowfishEncrypt) (.inicial deviceSerNum)).exitos,
        exito.Legitimo blowfishEncrypt) ↔
      Along Sesion.ConReto (Sesion.paso blowfishEncrypt) eventos (.inicial deviceSerNum) := by
  have desde : ∀ s, Coherente blowfishEncrypt s →
      (Legitimos blowfishEncrypt (eventos.foldl (Sesion.paso blowfishEncrypt) s) ↔
        Legitimos blowfishEncrypt s ∧
          Along Sesion.ConReto (Sesion.paso blowfishEncrypt) eventos s) := by
    induction eventos with
    | nil => exact fun s _ => (and_iff_left trivial).symm
    | cons evento resto ih =>
        intro s coherente
        obtain ⟨sigue, paso_iff⟩ := paso_coherente coherente (clientes evento List.mem_cons_self)
        have resto_iff := ih (fun otro esta => clientes otro (List.mem_cons_of_mem _ esta))
          (s.paso blowfishEncrypt evento) sigue
        rw [paso_iff, and_assoc] at resto_iff
        exact resto_iff
  exact (desde _ (coherente_inicial serie)).trans
    (and_iff_right fun _ nada => nomatch nada)

/-- A client that connects once the charger has been initialised. -/
def clienteConReto (token : Vec8) : List Evento :=
  [.inicializa, .connect #v[1, 2, 3, 4, 5, 6] (fun _ => 0x0201), .token token]

theorem autenticacion_legitima_clienteConReto :
    (∀ exito ∈ ((clienteConReto #v[1, 2, 1, 2, 1, 2, 1, 2]).foldl
        (Sesion.paso (Equiv.refl _)) (.inicial (Vector.replicate 10 0))).exitos,
        exito.Legitimo (Equiv.refl _)) ↔
      Along Sesion.ConReto (Sesion.paso (Equiv.refl _))
        (clienteConReto #v[1, 2, 1, 2, 1, 2, 1, 2]) (.inicial (Vector.replicate 10 0)) :=
  autenticacion_legitima (Equiv.refl _) (Vector.replicate 10 0) (by decide)
    (clienteConReto #v[1, 2, 1, 2, 1, 2, 1, 2]) (by simp [clienteConReto, Evento.SinPruebas,
      raspberryTests])

/-- A client that connects before the charger has been initialised is
authenticated by zeros. -/
theorem autenticacion_ceros :
    ¬ ∀ exito ∈ ([Evento.connect #v[1, 2, 3, 4, 5, 6] (fun _ => 0x0201), .token ceros].foldl
        (Sesion.paso (Equiv.refl _)) (.inicial (Vector.replicate 10 0))).exitos,
        exito.Legitimo (Equiv.refl _) := by
  intro legitimos
  obtain ⟨_, otra, -⟩ := legitimos ⟨ceros, none⟩ (by decide +kernel)
  cases otra

end VeltiumCharger.Ble
