import VeltiumCharger.Acuerdo.Maestro
import VeltiumCharger.Library.Substitution

/-!
# The datagrams on the wire

The texts of `Gestion_Grupo.cpp` are enciphered letter by letter.  What comes is
deciphered up to its first zero and compared with the beginnings of the known texts; a
datagram of eight bytes or less is the name of a charger.

With the cipher the members go through the same states as without it.
-/

namespace VeltiumCharger.Acuerdo

open VeltiumCharger.Peers VeltiumCharger.Run VeltiumCharger.Substitution

/-- The bytes of a text. -/
def bytes (texto : String) : List UInt8 :=
  texto.toList.map Char.toUInt8

/-! ## The cipher -/

/-- `Cipher` -/
def cipher (input oldAlphabet newAlphabet : List UInt8) : List UInt8 :=
  input.map (letter oldAlphabet newAlphabet)

/-- `plainAlphabet` -/
def plainAlphabet : List UInt8 :=
  bytes "ABCDEFGHIJKLMNOPQRSTUVWXYZ1234567890abcdefghijklmnopqrstuvwxyz"

/-- `cipherAlphabet` -/
def cipherAlphabet : List UInt8 :=
  bytes "y5aPZAjw067QklpgMLW4qOf3SbXm9IErcvK1DhNCxsFJdunViR2eotTUYGH8zB"

/-- `Encipher` -/
def encipher (input : List UInt8) : List UInt8 :=
  cipher input plainAlphabet cipherAlphabet

/-- `Decipher` -/
def decipher (input : List UInt8) : List UInt8 :=
  cipher input cipherAlphabet plainAlphabet

/-! ## What is sent -/

/-- `write` of the text of a `String` to an `AsyncUDPMessage` with room for `size` bytes. -/
def escrito (size len : Nat) (cadena : List UInt8) : List UInt8 :=
  (cadena ++ [0]).take (min size len)

/-- The datagram of `broadcast_a_grupo`. -/
def broadcastAGrupo (mensaje : List UInt8) (size : Nat) : List UInt8 :=
  escrito size size (encipher mensaje)

/-- The datagram of `send_to`, which writes 13 bytes whatever the text. -/
def sendTo (mensaje : List UInt8) : List UInt8 :=
  escrito mensaje.length 13 (encipher mensaje)

/-- The messages: the name with which a charger makes itself known or answers, the orders to
the group, and the ones to a single charger. -/
inductive Mensaje
  | deviceId (id : List UInt8)
  | deviceIdRespuesta (id : List UInt8)
  | startClient
  | startClientPresente
  | startClientSinOir
  | masterHere
  | yesMasterHere
  | deleteGroup
  | pauseGroup
  deriving DecidableEq

/-- The bytes that are sent. -/
def Mensaje.enviado : Mensaje → List UInt8
  | .deviceId id => escrito 8 8 (encipher id)
  | .deviceIdRespuesta id => encipher id
  | .startClient => broadcastAGrupo (bytes "Start client") 12
  | .startClientPresente => escrito 13 13 (encipher (bytes "Start client"))
  | .startClientSinOir => sendTo (bytes "Start client")
  | .masterHere => broadcastAGrupo (bytes "Master here?") 12
  | .yesMasterHere => encipher (bytes "Yes, Master here")
  | .deleteGroup => broadcastAGrupo (bytes "Delete group") 12
  | .pauseGroup => broadcastAGrupo (bytes "Pause group") 11

/-- The message that a member sends for a datagram: an order goes to the group, and the
answer only to who asked. -/
def Datagrama.mensaje : Datagrama → Mensaje
  | .startClient => .startClient
  | .masterHere => .masterHere
  | .yesMasterHere => .yesMasterHere

/-- Its bytes. -/
def Datagrama.enviado (d : Datagrama) : List UInt8 :=
  d.mensaje.enviado

/-! ## What is received -/

/-- What the handler of a datagram takes it for. -/
inductive Recibido
  | presencia (id : List UInt8)
  | datagrama (d : Datagrama)
  | deleteGroup
  | pauseGroup
  | nada
  deriving DecidableEq

/-- The comparisons of the handler, on the text. -/
def clasifica (desencriptado : List UInt8) : Recibido :=
  if bytes "Start client" <+: desencriptado then .datagrama .startClient
  else if bytes "Master here?" <+: desencriptado then .datagrama .masterHere
  else if bytes "Yes, Master here" <+: desencriptado then .datagrama .yesMasterHere
  else if bytes "Delete group" <+: desencriptado then .deleteGroup
  else if bytes "Pause group" <+: desencriptado then .pauseGroup
  else .nada

/-- `String(buffer)` -/
def cadena (buffer : List UInt8) : List UInt8 :=
  buffer.takeWhile (· ≠ 0)

/-- The start of the handler of `start_udp`. -/
def recibe (datos : List UInt8) : Recibido :=
  let desencriptado := decipher (cadena datos)
  if datos.length ≤ 8 then .presencia desencriptado else clasifica desencriptado

/-- What a message means. -/
def Mensaje.sentido : Mensaje → Recibido
  | .deviceId id | .deviceIdRespuesta id => .presencia id
  | .startClient | .startClientPresente | .startClientSinOir => .datagrama .startClient
  | .masterHere => .datagrama .masterHere
  | .yesMasterHere => .datagrama .yesMasterHere
  | .deleteGroup => .deleteGroup
  | .pauseGroup => .pauseGroup

/-- The names of the chargers have eight characters. -/
def Mensaje.Bueno : Mensaje → Prop
  | .deviceId id | .deviceIdRespuesta id => id.length = 8 ∧ 0 ∉ id
  | _ => True

/-! ## The cipher and the text -/

theorem alfabetos : plainAlphabet.Perm cipherAlphabet := by
  decide +kernel

theorem distintas : plainAlphabet.Nodup := by
  decide +kernel

theorem sinCero : (0 : UInt8) ∉ plainAlphabet := by
  decide +kernel

/-- `Decipher` undoes `Encipher`. -/
theorem decipher_encipher (input : List UInt8) : decipher (encipher input) = input :=
  map_letter_map alfabetos distintas input

@[simp]
theorem length_encipher (input : List UInt8) : (encipher input).length = input.length :=
  List.length_map _

/-- No letter is enciphered as a zero. -/
theorem letter_eq_zero_iff {x : UInt8} : letter plainAlphabet cipherAlphabet x = 0 ↔ x = 0 := by
  constructor
  · intro cero
    by_contra distinta
    have present : x ∉ plainAlphabet := by
      rw [← letter_mem_iff alfabetos distintas, cero]
      exact sinCero
    exact distinta ((letter_of_notMem present).symm.trans cero)
  · rintro rfl
    exact letter_of_notMem sinCero

theorem zero_mem_encipher {input : List UInt8} : 0 ∈ encipher input ↔ 0 ∈ input := by
  simp [encipher, cipher, letter_eq_zero_iff]

/-- A text without zeros is read whole, with a zero after it or without. -/
theorem cadena_append {texto : List UInt8} (sin : 0 ∉ texto) (resto : List UInt8)
    (acaba : ∀ x ∈ resto, x = 0) : cadena (texto ++ resto) = texto := by
  induction texto with
  | nil =>
    cases resto with
    | nil => rfl
    | cons x resto => simp [cadena, acaba x List.mem_cons_self]
  | cons x texto ih =>
    have primero : x ≠ 0 := fun cero => sin (cero ▸ List.mem_cons_self)
    simpa [cadena, primero] using ih fun esta => sin (List.mem_cons_of_mem _ esta)

/-- The text of a datagram is deciphered. -/
theorem decipher_cadena {texto : List UInt8} (sin : 0 ∉ texto) (resto : List UInt8)
    (acaba : ∀ x ∈ resto, x = 0) : decipher (cadena (encipher texto ++ resto)) = texto := by
  rw [cadena_append (zero_mem_encipher.not.mpr sin) resto acaba, decipher_encipher]

/-- A text of more than eight letters is taken for what it says. -/
theorem recibe_orden (texto : List UInt8) (sin : 0 ∉ texto) (largo : 8 < texto.length)
    (resto : List UInt8) (acaba : ∀ x ∈ resto, x = 0) :
    recibe (encipher texto ++ resto) = clasifica texto := by
  have fuera : ¬ (encipher texto ++ resto).length ≤ 8 := by
    rw [List.length_append, length_encipher]
    omega
  rw [recibe, if_neg fuera, decipher_cadena sin resto acaba]

/-- A name is taken for a name. -/
theorem recibe_presencia {id : List UInt8} (sin : 0 ∉ id) (corto : id.length ≤ 8) :
    recibe (encipher id) = .presencia id := by
  have texto := decipher_cadena sin [] (by simp)
  rw [List.append_nil] at texto
  rw [recibe, if_pos (by simpa using corto), texto]

/-- With room for the letters only, the zero is not sent. -/
theorem escrito_length (texto : List UInt8) {len : Nat} (bastan : texto.length ≤ len) :
    escrito texto.length len (encipher texto) = encipher texto := by
  rw [escrito, min_eq_left bastan, List.take_append_of_le_length (by simp),
    List.take_of_length_le (by simp)]

theorem recibe_escrito (texto : List UInt8) (sin : 0 ∉ texto) (largo : 8 < texto.length)
    {len : Nat} (bastan : texto.length ≤ len) :
    recibe (escrito texto.length len (encipher texto)) = clasifica texto := by
  rw [escrito_length texto bastan]
  simpa using recibe_orden texto sin largo [] (by simp)

/-- The three datagrams of the search are taken for themselves. -/
theorem recibe_datagrama (d : Datagrama) : recibe d.enviado = .datagrama d := by
  cases d with
  | startClient =>
    exact (recibe_escrito (bytes "Start client") (by decide) (by decide) le_rfl).trans (by decide)
  | masterHere =>
    exact (recibe_escrito (bytes "Master here?") (by decide) (by decide) le_rfl).trans (by decide)
  | yesMasterHere =>
    have texto := recibe_orden (bytes "Yes, Master here") (by decide) (by decide) [] (by simp)
    rw [List.append_nil] at texto
    exact texto.trans (by decide)

/-- What a charger sends is received as what it means. -/
theorem recibe_enviado (m : Mensaje) (bueno : m.Bueno) : recibe m.enviado = m.sentido := by
  cases m with
  | deviceId id =>
    obtain ⟨largo, sin⟩ := bueno
    have entero := escrito_length id le_rfl
    rw [largo] at entero
    rw [Mensaje.enviado, entero]
    exact recibe_presencia sin largo.le
  | deviceIdRespuesta id => exact recibe_presencia bueno.2 bueno.1.le
  | startClient => exact recibe_datagrama .startClient
  | startClientPresente =>
    exact (recibe_orden (bytes "Start client") (by decide) (by decide) [0] (by simp)).trans
      (by decide)
  | startClientSinOir =>
    exact (recibe_escrito (bytes "Start client") (by decide) (by decide) (by decide)).trans
      (by decide)
  | masterHere => exact recibe_datagrama .masterHere
  | yesMasterHere => exact recibe_datagrama .yesMasterHere
  | deleteGroup =>
    exact (recibe_escrito (bytes "Delete group") (by decide) (by decide) le_rfl).trans (by decide)
  | pauseGroup =>
    exact (recibe_escrito (bytes "Pause group") (by decide) (by decide) le_rfl).trans (by decide)

/-- A charger with eight digits for a name. -/
theorem recibe_enviado_nombre :
    recibe (Mensaje.deviceId (bytes "17010001")).enviado = .presencia (bytes "17010001") :=
  recibe_enviado (.deviceId (bytes "17010001")) (by decide : _ ∧ _)

/-- The text of a datagram. -/
def Datagrama.texto : Datagrama → List UInt8
  | .startClient => bytes "Start client"
  | .masterHere => bytes "Master here?"
  | .yesMasterHere => bytes "Yes, Master here"

/-- The text that a question, its answer or an order is known by. -/
def Recibido.texto : Recibido → Option (List UInt8)
  | .datagrama d => some d.texto
  | .deleteGroup => some (bytes "Delete group")
  | .pauseGroup => some (bytes "Pause group")
  | .presencia _ | .nada => none

/-- A text does not begin as two texts of which neither begins as the other. -/
theorem not_prefix_of_prefix {texto primero : List UInt8} (segundo : List UInt8)
    (empieza : primero <+: texto) (distintos : ¬ primero <+: segundo ∧ ¬ segundo <+: primero) :
    ¬ segundo <+: texto := by
  intro otro
  rcases List.prefix_or_prefix_of_prefix empieza otro with antes | antes
  · exact distintos.1 antes
  · exact distintos.2 antes

theorem clasifica_eq_of_prefix {texto suyo : List UInt8} {r : Recibido} (es : suyo ∈ r.texto)
    (empieza : suyo <+: texto) : clasifica texto = r := by
  cases r with
  | presencia id => cases es
  | nada => cases es
  | datagrama d =>
    cases es
    cases d with
    | startClient => exact if_pos empieza
    | masterHere =>
      have start := not_prefix_of_prefix (bytes "Start client") empieza (by decide)
      rw [clasifica, if_neg start]
      exact if_pos empieza
    | yesMasterHere =>
      have start := not_prefix_of_prefix (bytes "Start client") empieza (by decide)
      have master := not_prefix_of_prefix (bytes "Master here?") empieza (by decide)
      rw [clasifica, if_neg start, if_neg master]
      exact if_pos empieza
  | deleteGroup =>
    cases es
    have start := not_prefix_of_prefix (bytes "Start client") empieza (by decide)
    have master := not_prefix_of_prefix (bytes "Master here?") empieza (by decide)
    have yes := not_prefix_of_prefix (bytes "Yes, Master here") empieza (by decide)
    rw [clasifica, if_neg start, if_neg master, if_neg yes]
    exact if_pos empieza
  | pauseGroup =>
    cases es
    have start := not_prefix_of_prefix (bytes "Start client") empieza (by decide)
    have master := not_prefix_of_prefix (bytes "Master here?") empieza (by decide)
    have yes := not_prefix_of_prefix (bytes "Yes, Master here") empieza (by decide)
    have delete := not_prefix_of_prefix (bytes "Delete group") empieza (by decide)
    rw [clasifica, if_neg start, if_neg master, if_neg yes, if_neg delete]
    exact if_pos empieza

theorem clasifica_eq_iff {texto suyo : List UInt8} {r : Recibido} (es : suyo ∈ r.texto) :
    clasifica texto = r ↔ suyo <+: texto := by
  refine ⟨?_, clasifica_eq_of_prefix es⟩
  rintro rfl
  unfold clasifica at es
  split_ifs at es with start master yes delete pause
  · cases es
    exact start
  · cases es
    exact master
  · cases es
    exact yes
  · cases es
    exact delete
  · cases es
    exact pause
  · cases es

/-- A text that begins so when it has been deciphered begins with the enciphered one. -/
theorem prefix_decipher_iff {texto cifrado : List UInt8} :
    texto <+: decipher cifrado ↔ encipher texto <+: cifrado := by
  constructor
  · intro empieza
    have cifra := empieza.map (letter plainAlphabet cipherAlphabet)
    have vuelve := map_letter_map alfabetos.symm (alfabetos.nodup_iff.mp distintas) cifrado
    rw [decipher, cipher, vuelve] at cifra
    exact cifra
  · intro empieza
    have descifra := empieza.map (letter cipherAlphabet plainAlphabet)
    rw [encipher, cipher, map_letter_map alfabetos distintas] at descifra
    exact descifra

/-- A datagram is taken for a question, its answer or an order exactly when it has more than
eight bytes and begins with their enciphered text. -/
theorem recibe_eq_iff {datos texto : List UInt8} {r : Recibido} (es : texto ∈ r.texto) :
    recibe datos = r ↔ 8 < datos.length ∧ encipher texto <+: cadena datos := by
  unfold recibe
  dsimp only
  split_ifs with corto
  · constructor
    · rintro rfl
      cases es
    · exact fun largo => absurd corto (by omega)
  · rw [clasifica_eq_iff es, prefix_decipher_iff]
    exact (and_iff_right (by omega)).symm

/-- Two orders, one behind the other, are taken for the first one. -/
theorem recibe_pauseGroup_deleteGroup :
    recibe (encipher (bytes "Pause group") ++ encipher (bytes "Delete group")) =
      .pauseGroup :=
  (@recibe_eq_iff _ (bytes "Pause group") .pauseGroup rfl).mpr (by decide +kernel)

/-! ## The members with the bytes -/

theorem enviado_injective : Function.Injective Datagrama.enviado := by
  intro d otro mismos
  have recibidos := congrArg recibe mismos
  rw [recibe_datagrama, recibe_datagrama] at recibidos
  exact Recibido.datagrama.inj recibidos

/-- The datagrams of a member, enciphered. -/
def cifrados (envios : List (UInt32 × Datagrama)) : List (UInt32 × List UInt8) :=
  envios.map fun envio => (envio.1, envio.2.enviado)

/-- The handler of the datagrams, on the bytes.  A name and the orders to delete or to pause
the group do not change these variables. -/
def Miembro.onPacketBytes (m : Miembro) (remoteIP : UInt32) (datos : List UInt8) :
    Miembro × List (UInt32 × List UInt8) :=
  match recibe datos with
  | .datagrama d => ((m.onPacket remoteIP d).1, cifrados (m.onPacket remoteIP d).2)
  | _ => (m, [])

/-- The members, with bytes on their way. -/
abbrev SistemaBytes := Pair Miembro (List UInt8)

/-- What may happen to a member. -/
inductive EventoBytes
  | llega (lado : Side) (datos : List UInt8)
  | coapStartServer (lado : Side)
  | ethLoop (lado : Side)
  | coapClient (lado : Side)

/-- The datagrams sent to an address, of each content. -/
def enviadosBytes (envios : List (UInt32 × List UInt8)) (ip : UInt32) (datos : List UInt8) : Nat :=
  envios.count (ip, datos)

/-- A step, as `paso`, with the bytes. -/
def pasoBytes (red : Side → Entorno) (s : SistemaBytes) : EventoBytes → SistemaBytes
  | .llega lado datos =>
      if s.inFlight lado datos = 0 then s
      else
        let hecho := (s.member lado).onPacketBytes (red lado.other).ip datos
        (s.take lado datos).act lado hecho.1 (enviadosBytes hecho.2 (red lado.other).ip)
  | .coapStartServer lado =>
      let hecho := (s.member lado).coapStartServer (red lado)
      s.act lado hecho.1 (enviadosBytes (cifrados hecho.2) (red lado.other).ip)
  | .ethLoop lado => s.act lado (s.member lado).ethLoop (enviadosBytes [] (red lado.other).ip)
  | .coapClient lado =>
      s.act lado (s.member lado).coapClient (enviadosBytes [] (red lado.other).ip)

/-- The bytes are those of the datagrams of the other system. -/
def Cifra (conBytes : SistemaBytes) (s : Sistema) : Prop :=
  conBytes.Codes Datagrama.enviado s

/-- The same event with the datagram in its bytes. -/
def Evento.cifrado : Evento → EventoBytes
  | .llega lado d => .llega lado d.enviado
  | .coapStartServer lado => .coapStartServer lado
  | .ethLoop lado => .ethLoop lado
  | .coapClient lado => .coapClient lado

section Simulacion

variable {red : Side → Entorno} {conBytes : SistemaBytes} {s : Sistema}

theorem enviadosBytes_cifrados (envios : List (UInt32 × Datagrama)) (ip : UInt32) (d : Datagrama) :
    enviadosBytes (cifrados envios) ip d.enviado = enviados envios ip d := by
  have injective : Function.Injective fun envio : UInt32 × Datagrama =>
      (envio.1, envio.2.enviado) := by
    intro envio otro mismos
    obtain ⟨ip, bytes⟩ := Prod.mk.inj mismos
    exact Prod.ext ip (enviado_injective bytes)
  exact List.count_map_of_injective envios _ injective (ip, d)

/-- Only bytes of datagrams are sent. -/
theorem enviadosBytes_otros (envios : List (UInt32 × Datagrama)) (ip : UInt32)
    {datos : List UInt8} (ajenos : ∀ d : Datagrama, d.enviado ≠ datos) :
    enviadosBytes (cifrados envios) ip datos = 0 := by
  rw [enviadosBytes, List.count_eq_zero]
  intro esta
  obtain ⟨envio, -, mismos⟩ := List.mem_map.mp esta
  exact ajenos envio.2 (congrArg Prod.snd mismos)

/-- The same member goes to the same state and sends the same datagrams. -/
theorem Cifra.act (cifra : Cifra conBytes s) (lado : Side) (m : Miembro)
    (envios : List (UInt32 × Datagrama)) (ip : UInt32) :
    Cifra (conBytes.act lado m (enviadosBytes (cifrados envios) ip))
      (s.act lado m (enviados envios ip)) :=
  Pair.Codes.act cifra lado m (enviadosBytes_cifrados envios ip)
    fun _ ajenos => enviadosBytes_otros envios ip ajenos

/-- A step without bytes and the same one with them. -/
theorem cifra_paso (cifra : Cifra conBytes s) (evento : Evento) :
    Cifra (pasoBytes red conBytes evento.cifrado) (paso red s evento) := by
  have miembros : conBytes.member = s.member := cifra.member
  cases evento with
  | llega lado d =>
    unfold Evento.cifrado pasoBytes paso
    dsimp only
    rw [cifra.inFlight]
    split_ifs
    · exact cifra
    · have recibido : (conBytes.member lado).onPacketBytes (red lado.other).ip d.enviado =
          (((s.member lado).onPacket (red lado.other).ip d).1,
            cifrados ((s.member lado).onPacket (red lado.other).ip d).2) := by
        rw [Miembro.onPacketBytes, recibe_datagrama, miembros]
      rw [recibido]
      exact Cifra.act (Pair.Codes.take cifra enviado_injective lado d) lado _ _ _
  | coapStartServer lado =>
    unfold Evento.cifrado pasoBytes paso
    dsimp only
    rw [miembros]
    exact Cifra.act cifra lado _ _ _
  | ethLoop lado =>
    unfold Evento.cifrado pasoBytes paso
    dsimp only
    rw [miembros]
    exact Cifra.act cifra lado _ [] _
  | coapClient lado =>
    unfold Evento.cifrado pasoBytes paso
    dsimp only
    rw [miembros]
    exact Cifra.act cifra lado _ [] _

/-- Bytes that no member has sent do not come. -/
theorem pasoBytes_ajenos (cifra : Cifra conBytes s) (lado : Side) {datos : List UInt8}
    (ajenos : ∀ d : Datagrama, d.enviado ≠ datos) :
    pasoBytes red conBytes (.llega lado datos) = conBytes :=
  if_pos (cifra.nothingElse lado datos ajenos)

/-- A step with bytes is a step without them, or none. -/
theorem pasoBytes_cifra (cifra : Cifra conBytes s) (evento : EventoBytes) :
    ∃ eventos : List Evento,
      Cifra (pasoBytes red conBytes evento) (eventos.foldl (paso red) s) := by
  cases evento with
  | llega lado datos =>
    by_cases propios : ∃ d : Datagrama, d.enviado = datos
    · obtain ⟨d, rfl⟩ := propios
      exact ⟨[.llega lado d], cifra_paso cifra (.llega lado d)⟩
    · refine ⟨[], ?_⟩
      rw [pasoBytes_ajenos cifra lado (not_exists.mp propios)]
      exact cifra
  | coapStartServer lado =>
    exact ⟨[.coapStartServer lado], cifra_paso cifra (.coapStartServer lado)⟩
  | ethLoop lado => exact ⟨[.ethLoop lado], cifra_paso cifra (.ethLoop lado)⟩
  | coapClient lado => exact ⟨[.coapClient lado], cifra_paso cifra (.coapClient lado)⟩

/-- A run without bytes and the same one with them. -/
theorem cifra_run (cifra : Cifra conBytes s) (planos : List Evento) :
    Cifra ((planos.map Evento.cifrado).foldl (pasoBytes red) conBytes)
      (planos.foldl (paso red) s) := by
  induction planos generalizing conBytes s with
  | nil => exact cifra
  | cons evento resto ih => exact ih (cifra_paso cifra evento)

end Simulacion

/-- The enciphered datagrams are as good as the plain ones.  From members with nothing on its
way, every run with bytes goes through the states of a run without them, and every run without
them through those of one with bytes. -/
theorem cifrado_bisimula (red : Side → Entorno) (miembros : Side → Miembro) :
    (∀ eventos : List EventoBytes, ∃ planos : List Evento,
        Cifra (eventos.foldl (pasoBytes red) ⟨miembros, fun _ _ => 0⟩)
          (planos.foldl (paso red) ⟨miembros, fun _ _ => 0⟩)) ∧
      ∀ planos : List Evento,
        Cifra ((planos.map Evento.cifrado).foldl (pasoBytes red) ⟨miembros, fun _ _ => 0⟩)
          (planos.foldl (paso red) ⟨miembros, fun _ _ => 0⟩) := by
  have nada : Cifra ⟨miembros, fun _ _ => 0⟩ ⟨miembros, fun _ _ => 0⟩ :=
    ⟨rfl, fun _ _ => rfl, fun _ _ _ => rfl⟩
  constructor
  · intro eventos
    exact exists_run_of_simulation Cifra (fun _ _ evento cifra => pasoBytes_cifra cifra evento)
      eventos nada
  · exact cifra_run nada

end VeltiumCharger.Acuerdo
