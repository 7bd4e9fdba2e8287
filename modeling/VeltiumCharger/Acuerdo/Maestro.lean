import VeltiumCharger.Acuerdo.Miembros

/-!
# One master

Two members that are both master come out of the search with one master, which
the other follows, as long as one of them has still to ask, no question is
answered while an answer is on its way to the same member, and the flags are not
written between a test and what follows from it.  Nothing in the code sees to
these: questions that cross leave no master.
-/

namespace VeltiumCharger.Acuerdo

open VeltiumCharger.Group VeltiumCharger.Peers VeltiumCharger.Run

/-- The member has a question to ask before it leaves the loop. -/
def Fase.porPreguntar : Fase → Bool
  | .pregunta i => decide (i < 10)
  | .espera i => decide (i + 1 < 10)
  | _ => false

/-- The member will broadcast "Start client" if it stays master. -/
def Fase.porAnunciar : Fase → Bool
  | .fuera | .arranca => false
  | _ => true

/-- The member has tested `GroupMaster` for the last time, and has yet to write
`MasterIP`. -/
def Fase.decidida : Fase → Bool
  | .anuncia | .arranca => true
  | _ => false

namespace Miembro

/-- `GroupMaster` and `Conected`, with no client about to start. -/
structure EsMaestro (m : Miembro) : Prop where
  groupMaster : m.groupMaster = true
  conected : m.conected = true
  sinCliente : m.cliente ≠ .creada

/-- Not master, and past the point where it would write its own address into
`MasterIP`. -/
structure Retirado (m : Miembro) : Prop where
  groupMaster : m.groupMaster = false
  fase : m.fase.decidida = false

/-- A client of the master at `ip`. -/
structure Sigue (m : Miembro) (ip : UInt32) : Prop where
  startClient : m.startClient = true
  masterIP : m.masterIP = ip

/-- A client that has been stopped and may be started again. -/
structure Parado (m : Miembro) : Prop where
  conected : m.conected = false
  startClient : m.startClient = false
  sinCliente : m.cliente = .ninguna

end Miembro

variable (red : Side → Entorno)

/-- The broadcasts of a member reach the other. -/
def Alcanza (lado : Side) : Prop :=
  (red lado.other).ip ∈ (red lado).destinos

instance (lado : Side) : Decidable (Alcanza red lado) :=
  inferInstanceAs (Decidable (_ ∈ _))

/-- The member asks, its question is on its way, or the answer is. -/
def Pendiente (s : Sistema) (lado : Side) : Prop :=
  (s.member lado).fase.porPreguntar = true ∧ Alcanza red lado ∨
    0 < s.inFlight lado.other .masterHere ∨ 0 < s.inFlight lado .yesMasterHere

/-- The other member is told "Start client" once more. -/
def LeAvisa (s : Sistema) (lado : Side) : Prop :=
  0 < s.inFlight lado.other .startClient ∨
    (s.member lado).fase.porAnunciar = true ∧ Alcanza red lado

/-- Both are master, and one of them, not both, is about to learn it. -/
structure Disputa (s : Sistema) : Prop where
  maestros : ∀ lado, (s.member lado).EsMaestro
  sinCruce : ∃ lado, s.inFlight lado .yesMasterHere = 0
  pendiente : ∃ lado, Pendiente red s lado

/-- One is master; the other follows it, or will be told to. -/
structure Resuelta (s : Sistema) (lado : Side) : Prop where
  maestro : (s.member lado).EsMaestro
  sinRespuesta : s.inFlight lado .yesMasterHere = 0
  retirado : (s.member lado.other).Retirado
  cliente : (s.member lado.other).Sigue (red lado).ip ∨
    (s.member lado.other).Parado ∧ LeAvisa red s lado

/-- Exactly one has `GroupMaster`, and the other has `StartClient` with its
address in `MasterIP`. -/
def UnMaestro (s : Sistema) : Prop :=
  ∃ lado, (s.member lado).groupMaster = true ∧ (s.member lado.other).groupMaster = false ∧
    (s.member lado.other).Sigue (red lado).ip

/-- The datagram is handled in a state in which the code handles it well. -/
def LlegaBien (s : Sistema) (lado : Side) : Datagrama → Prop
  -- the questions have not crossed
  | .masterHere => (s.member lado).conected = true → (s.member lado).groupMaster = true →
      s.inFlight lado .yesMasterHere = 0
  -- the master that steps down is not past its last test
  | .yesMasterHere => (s.member lado).conected = true → (s.member lado).groupMaster = true →
      (s.member lado).fase.decidida = false
  -- a master does not become a client without an address
  | .startClient => (s.member lado).conected = true → (s.member lado).pararCliente = true →
      (s.member lado).groupMaster = false

/-- The step is taken in a state in which the code takes it well. -/
def Bien (s : Sistema) : Evento → Prop
  | .llega lado d => 0 < s.inFlight lado d → LlegaBien s lado d
  | .coapStartServer lado => (s.member lado).fase = .tras → (s.member lado).groupMaster = true →
      (red lado).enGrupo (red lado).deviceId = true
  | .ethLoop _ => True
  -- a client that is stopped is told to start again
  | .coapClient lado => (s.member lado).cliente = .enMarcha → (s.member lado).pararCliente = true →
      (s.member lado).groupMaster = false ∧ LeAvisa red s lado.other

instance (s : Sistema) (lado : Side) : Decidable (LeAvisa red s lado) :=
  inferInstanceAs (Decidable (_ ∨ _))

instance (s : Sistema) (lado : Side) : ∀ d, Decidable (LlegaBien s lado d)
  | .masterHere | .yesMasterHere | .startClient => inferInstanceAs (Decidable (_ → _ → _))

instance (s : Sistema) : ∀ evento, Decidable (Bien red s evento)
  | .llega .. => inferInstanceAs (Decidable (_ → _))
  | .coapStartServer _ => inferInstanceAs (Decidable (_ → _ → _))
  | .ethLoop _ => isTrue trivial
  | .coapClient _ => inferInstanceAs (Decidable (_ → _ → _))

/-! ## What a step does to one member -/

namespace Miembro

variable {m : Miembro} {e : Entorno}

/-- What a step of `coap_start_server` keeps of a master. -/
structure Continua (m : Miembro) (e : Entorno) (hecho : Miembro × List (UInt32 × Datagrama)) :
    Prop where
  esMaestro : hecho.1.EsMaestro
  porPreguntar : m.fase.porPreguntar = true →
    hecho.1.fase.porPreguntar = true ∨ hecho.2 = e.difusion .masterHere
  porAnunciar : m.fase.porAnunciar = true →
    hecho.1.fase.porAnunciar = true ∨ hecho.2 = e.difusion .startClient

section EsMaestro

variable (maestro : m.EsMaestro)

include maestro

theorem EsMaestro.ethLoop : m.ethLoop = m := by
  unfold Miembro.ethLoop
  rw [if_neg]
  rintro ⟨_, desconectado, _⟩
  exact Bool.false_ne_true (desconectado.symm.trans maestro.conected)

theorem EsMaestro.coapClient
    (sigue : m.cliente = .enMarcha → m.pararCliente = true → m.groupMaster = false) :
    m.coapClient = m := by
  unfold Miembro.coapClient
  cases tarea : m.cliente with
  | ninguna => rfl
  | creada => exact absurd tarea maestro.sinCliente
  | enMarcha =>
      refine if_neg fun parar => ?_
      exact Bool.false_ne_true ((sigue tarea parar).symm.trans maestro.groupMaster)

/-- A master that is in its own table goes on: it stays master, and to leave the
loop or the function it must have asked or announced itself. -/
theorem EsMaestro.continua
    (propio : m.fase = .tras → m.groupMaster = true → e.enGrupo e.deviceId = true) :
    m.Continua e (m.coapStartServer e) := by
  rcases maestro with ⟨groupMaster, conected, sinCliente⟩
  have sigue : ∀ fase, { m with fase }.EsMaestro :=
    fun _ => ⟨groupMaster, conected, sinCliente⟩
  unfold Miembro.coapStartServer
  cases fase : m.fase with
  | fuera =>
      exact ⟨⟨groupMaster, conected, sinCliente⟩, fun asks => .inl asks, fun tells => .inl tells⟩
  | pregunta i =>
      dsimp only
      by_cases queda : i < 10
      · rw [if_pos queda]
        exact ⟨sigue _, fun _ => .inr rfl, fun _ => .inl rfl⟩
      · rw [if_neg queda]
        refine ⟨sigue _, fun asks => ?_, fun _ => .inl rfl⟩
        rw [fase] at asks
        exact absurd (of_decide_eq_true asks) queda
  | espera i =>
      dsimp only
      rw [if_neg (by simp [groupMaster])]
      refine ⟨sigue _, fun asks => .inl ?_, fun _ => .inl rfl⟩
      rw [fase] at asks
      exact asks
  | tras =>
      have present := propio fase groupMaster
      dsimp only
      rw [if_pos groupMaster, if_pos (by simp [present, Equipo.pos_of_enGrupo present])]
      refine ⟨sigue _, fun asks => ?_, fun _ => .inl rfl⟩
      rw [fase] at asks
      exact absurd asks Bool.false_ne_true
  | anuncia =>
      refine ⟨sigue _, fun asks => ?_, fun _ => .inr rfl⟩
      rw [fase] at asks
      exact absurd asks Bool.false_ne_true
  | arranca =>
      refine ⟨⟨groupMaster, rfl, sinCliente⟩, fun asks => ?_, fun tells => ?_⟩
      · rw [fase] at asks
        exact absurd asks Bool.false_ne_true
      · rw [fase] at tells
        exact absurd tells Bool.false_ne_true

end EsMaestro

/-- `coap_start_server` answers no question. -/
theorem enviados_coapStartServer (m : Miembro) (e : Entorno) (ip : UInt32) :
    enviados (m.coapStartServer e).2 ip .yesMasterHere = 0 := by
  unfold Miembro.coapStartServer enviados
  split
  · rfl
  · split_ifs
    · exact e.count_difusion_of_ne (by decide)
    · rfl
  · split_ifs <;> rfl
  · split_ifs <;> rfl
  · exact e.count_difusion_of_ne (by decide)
  · rfl

/-- What a step keeps of a member that is not master any more. -/
structure Permanece (m tras : Miembro) : Prop where
  retirado : tras.Retirado
  sigue : ∀ ip, m.Sigue ip → tras.Sigue ip
  parado : m.Parado → tras.Parado

section Retirado

variable (retirado : m.Retirado)

include retirado

theorem Retirado.permanece : m.Permanece m :=
  ⟨retirado, fun _ sigue => sigue, fun parado => parado⟩

/-- The member leaves `coap_start_server`. -/
theorem Retirado.coapStartServer : m.Permanece (m.coapStartServer e).1 := by
  have groupMaster := retirado.groupMaster
  have decidida := retirado.fase
  have otraFase : ∀ fase : Fase, fase.decidida = false → m.Permanece { m with fase } :=
    fun fase sinDecidir => ⟨⟨groupMaster, sinDecidir⟩,
      fun ip sigue => ⟨sigue.startClient, sigue.masterIP⟩,
      fun parado => ⟨parado.conected, parado.startClient, parado.sinCliente⟩⟩
  unfold Miembro.coapStartServer
  cases fase : m.fase with
  | fuera => exact retirado.permanece
  | pregunta i =>
      dsimp only
      split_ifs <;> exact otraFase _ rfl
  | espera i =>
      dsimp only
      rw [if_pos (by simp [groupMaster])]
      exact ⟨⟨groupMaster, rfl⟩, fun ip sigue => ⟨sigue.startClient, sigue.masterIP⟩,
        fun parado => ⟨rfl, parado.startClient, parado.sinCliente⟩⟩
  | tras =>
      dsimp only
      rw [if_neg (by simp [groupMaster])]
      exact otraFase _ rfl
  | anuncia | arranca =>
      rw [fase] at decidida
      exact absurd decidida.symm Bool.false_ne_true

/-- `Eth_Loop` starts the client of a member that is to be one. -/
theorem Retirado.ethLoop : m.Permanece m.ethLoop := by
  unfold Miembro.ethLoop
  split_ifs with listo cliente maestro
  · refine ⟨⟨rfl, retirado.fase⟩, fun ip sigue => ⟨sigue.startClient, sigue.masterIP⟩, ?_⟩
    intro parado
    exact absurd (parado.startClient.symm.trans cliente) Bool.false_ne_true
  · exact absurd (retirado.groupMaster.symm.trans maestro) Bool.false_ne_true
  · exact retirado.permanece
  · exact retirado.permanece

/-- A client goes on, or is stopped. -/
theorem Retirado.coapClient : m.coapClient.Retirado ∧
    ((m.cliente = .enMarcha ∧ m.pararCliente = true ∧ m.coapClient.Parado) ∨
      m.Permanece m.coapClient) := by
  unfold Miembro.coapClient
  cases tarea : m.cliente with
  | ninguna => exact ⟨retirado, .inr retirado.permanece⟩
  | creada =>
      refine ⟨⟨rfl, retirado.fase⟩, .inr ⟨⟨rfl, retirado.fase⟩, ?_, ?_⟩⟩
      · exact fun ip sigue => ⟨sigue.startClient, sigue.masterIP⟩
      · intro parado
        exact absurd (tarea.symm.trans parado.sinCliente) (by decide)
  | enMarcha =>
      dsimp only
      split_ifs with parar
      · exact ⟨⟨retirado.groupMaster, retirado.fase⟩, .inl ⟨rfl, parar, rfl, rfl, rfl⟩⟩
      · exact ⟨retirado, .inr retirado.permanece⟩

/-- A member that is not master answers no question and takes no answer. -/
theorem Retirado.onPacket_of_ne {d : Datagrama} (otro : d ≠ .startClient) (remoteIP : UInt32) :
    m.onPacket remoteIP d = (m, []) := by
  have noContesta : ¬ (m.conected && m.groupMaster) = true := by
    simp [retirado.groupMaster]
  cases d with
  | startClient => exact absurd rfl otro
  | masterHere | yesMasterHere => exact if_neg noContesta

/-- "Start client" starts a stopped client again. -/
theorem Retirado.onPacket_startClient (remoteIP : UInt32) :
    (m.onPacket remoteIP .startClient).1.Retirado ∧
      (m.onPacket remoteIP .startClient).2 = [] ∧
      (∀ ip, m.Sigue ip → (m.onPacket remoteIP .startClient).1.Sigue ip) ∧
      (m.Parado → (m.onPacket remoteIP .startClient).1.Sigue remoteIP) := by
  have groupMaster := retirado.groupMaster
  have decidida := retirado.fase
  unfold onPacket
  dsimp only
  split_ifs with nuevo conectado parar
  · refine ⟨⟨rfl, decidida⟩, rfl, fun ip sigue => ?_, fun _ => ⟨rfl, rfl⟩⟩
    simp [sigue.startClient] at nuevo
  · refine ⟨⟨rfl, decidida⟩, rfl, fun ip sigue => ⟨sigue.startClient, sigue.masterIP⟩, ?_⟩
    intro parado
    exact absurd (parado.conected.symm.trans conectado) Bool.false_ne_true
  · refine ⟨⟨groupMaster, decidida⟩, rfl, fun ip sigue => ⟨sigue.startClient, sigue.masterIP⟩, ?_⟩
    intro parado
    exact absurd (parado.conected.symm.trans conectado) Bool.false_ne_true
  · refine ⟨retirado, rfl, fun ip sigue => sigue, fun parado => ?_⟩
    simp [parado.conected, parado.startClient] at nuevo

end Retirado

/-! ## Nobody becomes master -/

theorem groupMaster_onPacket {remoteIP : UInt32} {d : Datagrama} :
    (m.onPacket remoteIP d).1.groupMaster = true → m.groupMaster = true := by
  unfold onPacket
  cases d with
  | startClient =>
      dsimp only
      split_ifs <;> simp [coapStartClient]
  | masterHere =>
      dsimp only
      split_ifs <;> exact id
  | yesMasterHere =>
      dsimp only
      split_ifs <;> simp

theorem groupMaster_coapStartServer :
    (m.coapStartServer e).1.groupMaster = true → m.groupMaster = true := by
  unfold Miembro.coapStartServer
  split
  · exact id
  · split_ifs <;> exact id
  · split_ifs <;> exact id
  · split_ifs with maestro
    · exact id
    · exact fun _ => maestro
    · exact id
  · exact id
  · exact id

/-- `Eth_Loop` starts the server of a master only. -/
theorem groupMaster_ethLoop : m.ethLoop.groupMaster = true → m.groupMaster = true := by
  unfold Miembro.ethLoop
  split_ifs with listo cliente maestro
  · simp [coapStartClient]
  · exact id
  · exact id
  · exact id

theorem groupMaster_coapClient : m.coapClient.groupMaster = true → m.groupMaster = true := by
  unfold Miembro.coapClient
  split
  · exact id
  · simp
  · split_ifs <;> exact id

/-! ## What a datagram does to a master -/

section

variable (maestro : m.EsMaestro) (remoteIP : UInt32)

include maestro

/-- "Start client" is not for a master: it only sets `PARAR_CLIENTE`. -/
theorem EsMaestro.onPacket_startClient
    (sinParar : m.conected = true → m.pararCliente = true → m.groupMaster = false) :
    m.onPacket remoteIP .startClient = ({ m with pararCliente := true }, []) := by
  have noPara : ¬ m.pararCliente = true := fun parar =>
    Bool.false_ne_true ((sinParar maestro.conected parar).symm.trans maestro.groupMaster)
  unfold onPacket
  simp [maestro.conected, noPara]

/-- A master answers. -/
theorem EsMaestro.onPacket_masterHere :
    m.onPacket remoteIP .masterHere = (m, [(remoteIP, .yesMasterHere)]) :=
  if_pos (by simp [maestro.conected, maestro.groupMaster])

/-- A master steps down for the one that answers. -/
theorem EsMaestro.onPacket_yesMasterHere :
    m.onPacket remoteIP .yesMasterHere =
      ({ m with
          startClient := true, groupMaster := false, groupActive := true
          masterIP := remoteIP }, []) :=
  if_pos (by simp [maestro.conected, maestro.groupMaster])

end

end Miembro

/-! ## While both are master -/

section Disputa

variable {red} {s : Sistema} {lado : Side}

/-- A master goes on, and answers nothing. -/
theorem Disputa.act (disputa : Disputa red s) {m : Miembro} {sent : Datagrama → Nat}
    (maestro : m.EsMaestro) (callado : sent .yesMasterHere = 0)
    (pregunta : (s.member lado).fase.porPreguntar = true → Alcanza red lado →
      m.fase.porPreguntar = true ∨ 0 < sent .masterHere) :
    Disputa red (s.act lado m sent) := by
  constructor
  case maestros =>
    intro k
    rcases Side.eq_or_eq_other k lado with rfl | rfl
    · rwa [Pair.act_member_self]
    · rw [Pair.act_member_other]
      exact disputa.maestros _
  case sinCruce =>
    rcases disputa.sinCruce with ⟨k, ninguna⟩
    exists k
    rcases Side.eq_or_eq_other k lado with rfl | rfl
    · rwa [Pair.act_inFlight_self]
    · rw [Pair.act_inFlight_other, ninguna, callado]
  case pendiente =>
    rcases disputa.pendiente with ⟨k, pendiente⟩
    exists k
    unfold Pendiente at pendiente ⊢
    rcases Side.eq_or_eq_other k lado with rfl | rfl
    · rw [Pair.act_member_self, Pair.act_inFlight_other, Pair.act_inFlight_self]
      rcases pendiente with ⟨asks, alcanza⟩ | preguntado | contestado
      · rcases pregunta asks alcanza with sigue | enviada
        · exact .inl ⟨sigue, alcanza⟩
        · exact .inr (.inl (by omega))
      · exact .inr (.inl (by omega))
      · exact .inr (.inr contestado)
    · rw [Pair.act_member_other, Side.other_other, Pair.act_inFlight_self,
        Pair.act_inFlight_other]
      rcases pendiente with asks | preguntado | contestado
      · exact .inl asks
      · rw [Side.other_other] at preguntado
        exact .inr (.inl preguntado)
      · exact .inr (.inr (by omega))

/-- A question is answered. -/
theorem Disputa.contesta (disputa : Disputa red s)
    (sinRespuesta : s.inFlight lado .yesMasterHere = 0) :
    Disputa red ((s.take lado .masterHere).act lado (s.member lado)
      (enviados [((red lado.other).ip, .yesMasterHere)] (red lado.other).ip)) := by
  constructor
  case maestros =>
    intro k
    rcases Side.eq_or_eq_other k lado with rfl | rfl
    · rw [Pair.act_member_self]
      exact disputa.maestros _
    · rw [Pair.act_member_other]
      exact disputa.maestros _
  case sinCruce =>
    exists lado
    rw [Pair.act_inFlight_self, Pair.take_inFlight_of_ne _ _ (by decide)]
    exact sinRespuesta
  case pendiente =>
    -- the other is the one that learns it
    exists lado.other
    right
    right
    rw [Pair.act_inFlight_other]
    simp [enviados]

/-- "Start client" comes to a master. -/
theorem Disputa.take (disputa : Disputa red s) : Disputa red (s.take lado .startClient) := by
  have igual : ∀ {d : Datagrama}, d ≠ .startClient → ∀ k,
      (s.take lado .startClient).inFlight k d = s.inFlight k d :=
    fun otro k => Pair.take_inFlight_of_ne _ _ otro k
  constructor
  case maestros => exact disputa.maestros
  case sinCruce =>
    rcases disputa.sinCruce with ⟨k, ninguna⟩
    exact ⟨k, (igual (by decide) k).trans ninguna⟩
  case pendiente =>
    rcases disputa.pendiente with ⟨k, pendiente⟩
    exists k
    unfold Pendiente
    rwa [igual (by decide), igual (by decide)]

/-- The master that gets an answer follows the one that sent it. -/
theorem Disputa.resuelve (disputa : Disputa red s)
    (contestado : 0 < s.inFlight lado .yesMasterHere)
    (sinDecidir : (s.member lado).fase.decidida = false) :
    Resuelta red ((s.take lado .yesMasterHere).act lado
      { s.member lado with
        startClient := true, groupMaster := false, groupActive := true
        masterIP := (red lado.other).ip }
      (enviados [] (red lado.other).ip)) lado.other := by
  have sinRespuesta : s.inFlight lado.other .yesMasterHere = 0 := by
    rcases disputa.sinCruce with ⟨k, ninguna⟩
    rcases Side.eq_or_eq_other k lado with rfl | rfl
    · exact absurd ninguna contestado.ne'
    · exact ninguna
  constructor
  case maestro =>
    rw [Pair.act_member_other]
    exact disputa.maestros _
  case sinRespuesta =>
    rw [Pair.act_inFlight_other, Pair.take_inFlight_other, sinRespuesta]
    rfl
  case retirado =>
    rw [Side.other_other, Pair.act_member_self]
    exact ⟨rfl, sinDecidir⟩
  case cliente =>
    left
    rw [Side.other_other, Pair.act_member_self]
    exact ⟨rfl, rfl⟩

/-- A step of two masters leaves two masters, or one. -/
theorem disputa_paso (disputa : Disputa red s) {evento : Evento} (bien : Bien red s evento) :
    Disputa red (paso red s evento) ∨ ∃ lado, Resuelta red (paso red s evento) lado := by
  cases evento with
  | llega lado d =>
      have maestro := disputa.maestros lado
      unfold paso
      dsimp only
      split_ifs with nada
      · exact .inl disputa
      have viene : 0 < s.inFlight lado d := Nat.pos_of_ne_zero nada
      have llegaBien := bien viene
      cases d with
      | startClient =>
          left
          rw [maestro.onPacket_startClient _ llegaBien]
          apply disputa.take.act
          · exact ⟨maestro.groupMaster, maestro.conected, maestro.sinCliente⟩
          · rfl
          · exact fun asks _ => .inl asks
      | masterHere =>
          left
          rw [maestro.onPacket_masterHere]
          exact disputa.contesta (llegaBien maestro.conected maestro.groupMaster)
      | yesMasterHere =>
          right
          exists lado.other
          rw [maestro.onPacket_yesMasterHere]
          exact disputa.resuelve viene (llegaBien maestro.conected maestro.groupMaster)
  | coapStartServer lado =>
      have continua := (disputa.maestros lado).continua bien
      left
      apply disputa.act continua.esMaestro (Miembro.enviados_coapStartServer _ _ _)
      intro asks alcanza
      rcases continua.porPreguntar asks with sigue | pregunta
      · exact .inl sigue
      · right
        rw [pregunta]
        exact (red lado).count_difusion_pos alcanza
  | ethLoop lado =>
      left
      unfold paso
      dsimp only
      rw [(disputa.maestros lado).ethLoop]
      exact disputa.act (disputa.maestros lado) rfl fun asks _ => .inl asks
  | coapClient lado =>
      left
      unfold paso
      dsimp only
      rw [(disputa.maestros lado).coapClient fun tarea parar => (bien tarea parar).1]
      exact disputa.act (disputa.maestros lado) rfl fun asks _ => .inl asks

end Disputa

/-! ## Once one is master -/

section Resuelta

variable {red} {s : Sistema} {lado : Side}

/-- The master goes on. -/
theorem Resuelta.actMaestro (resuelta : Resuelta red s lado) {m : Miembro}
    {sent : Datagrama → Nat} (maestro : m.EsMaestro)
    (anuncio : (s.member lado).fase.porAnunciar = true → Alcanza red lado →
      m.fase.porAnunciar = true ∨ 0 < sent .startClient) :
    Resuelta red (s.act lado m sent) lado := by
  have avisa : LeAvisa red s lado → LeAvisa red (s.act lado m sent) lado := by
    unfold LeAvisa
    rw [Pair.act_inFlight_other, Pair.act_member_self]
    rintro (avisado | ⟨tells, alcanza⟩)
    · exact .inl (Nat.add_pos_left avisado _)
    · rcases anuncio tells alcanza with sigue | enviado
      · exact .inr ⟨sigue, alcanza⟩
      · exact .inl (Nat.add_pos_right _ enviado)
  constructor
  case maestro => rwa [Pair.act_member_self]
  case sinRespuesta =>
    rw [Pair.act_inFlight_self]
    exact resuelta.sinRespuesta
  case retirado =>
    rw [Pair.act_member_other]
    exact resuelta.retirado
  case cliente =>
    rw [Pair.act_member_other]
    exact resuelta.cliente.imp_right (And.imp_right avisa)

/-- The other goes on. -/
theorem resuelta_actRetirado (maestro : (s.member lado).EsMaestro)
    (sinRespuesta : s.inFlight lado .yesMasterHere = 0) {m : Miembro} {sent : Datagrama → Nat}
    (retirado : m.Retirado) (callado : sent .yesMasterHere = 0)
    (cliente : m.Sigue (red lado).ip ∨ m.Parado ∧ LeAvisa red s lado) :
    Resuelta red (s.act lado.other m sent) lado := by
  constructor
  case maestro => rwa [Pair.act_other_member]
  case sinRespuesta => rw [Pair.act_other_inFlight, sinRespuesta, callado]
  case retirado => rwa [Pair.act_member_self]
  case cliente =>
    rw [Pair.act_member_self]
    unfold LeAvisa
    rwa [Pair.act_inFlight_self, Pair.act_other_member]

/-- A datagram has come to the master. -/
theorem Resuelta.takeMaestro (resuelta : Resuelta red s lado) (d : Datagrama) :
    Resuelta red (s.take lado d) lado := by
  constructor
  case maestro => exact resuelta.maestro
  case sinRespuesta =>
    have menos := s.take_inFlight_le lado d .yesMasterHere lado
    rw [resuelta.sinRespuesta] at menos
    exact Nat.le_zero.mp menos
  case retirado => exact resuelta.retirado
  case cliente =>
    unfold LeAvisa
    rw [Pair.take_inFlight_other]
    exact resuelta.cliente

/-- A datagram other than "Start client" has come to the other. -/
theorem Resuelta.takeRetirado (resuelta : Resuelta red s lado) {d : Datagrama}
    (otro : d ≠ .startClient) : Resuelta red (s.take lado.other d) lado := by
  constructor
  case maestro => exact resuelta.maestro
  case sinRespuesta =>
    rw [Pair.take_other_inFlight]
    exact resuelta.sinRespuesta
  case retirado => exact resuelta.retirado
  case cliente =>
    unfold LeAvisa
    rw [Pair.take_inFlight_of_ne _ _ otro.symm]
    exact resuelta.cliente

/-- What the other keeps is enough. -/
theorem Resuelta.permanece (resuelta : Resuelta red s lado) {m : Miembro}
    {sent : Datagrama → Nat} (permanece : (s.member lado.other).Permanece m)
    (callado : sent .yesMasterHere = 0) : Resuelta red (s.act lado.other m sent) lado := by
  apply resuelta_actRetirado resuelta.maestro resuelta.sinRespuesta permanece.retirado callado
  exact resuelta.cliente.imp (permanece.sigue _) (And.imp_left permanece.parado)

/-- "Start client" has come to the other, which is a client from then on. -/
theorem Resuelta.avisa (resuelta : Resuelta red s lado) :
    Resuelta red ((s.take lado.other .startClient).act lado.other
      ((s.member lado.other).onPacket (red lado).ip .startClient).1
      (enviados [] (red lado).ip)) lado := by
  rcases resuelta.retirado.onPacket_startClient (red lado).ip with ⟨retirado, _, sigue, empieza⟩
  apply resuelta_actRetirado
  · exact resuelta.maestro
  · rw [Pair.take_other_inFlight]
    exact resuelta.sinRespuesta
  · exact retirado
  · rfl
  · rcases resuelta.cliente with cliente | ⟨parado, _⟩
    · exact .inl (sigue _ cliente)
    · exact .inl (empieza parado)

/-- A step of the master. -/
theorem Resuelta.paso_maestro (resuelta : Resuelta red s lado) {evento : Evento}
    (suyo : evento.lado = lado) (bien : Bien red s evento) :
    Resuelta red (paso red s evento) lado := by
  have maestro := resuelta.maestro
  cases evento with
  | llega quien d =>
      obtain rfl : quien = lado := suyo
      unfold paso
      dsimp only
      split_ifs with nada
      · exact resuelta
      have llegaBien := bien (Nat.pos_of_ne_zero nada)
      cases d with
      | startClient =>
          rw [maestro.onPacket_startClient _ llegaBien]
          apply (resuelta.takeMaestro .startClient).actMaestro
          · exact ⟨maestro.groupMaster, maestro.conected, maestro.sinCliente⟩
          · exact fun tells _ => .inl tells
      | masterHere =>
          rw [maestro.onPacket_masterHere]
          exact (resuelta.takeMaestro .masterHere).actMaestro maestro fun tells _ => .inl tells
      | yesMasterHere => exact absurd resuelta.sinRespuesta nada
  | coapStartServer quien =>
      obtain rfl : quien = lado := suyo
      have continua := maestro.continua bien
      apply resuelta.actMaestro continua.esMaestro
      intro tells alcanza
      rcases continua.porAnunciar tells with sigue | anuncio
      · exact .inl sigue
      · right
        rw [anuncio]
        exact (red quien).count_difusion_pos alcanza
  | ethLoop quien =>
      obtain rfl : quien = lado := suyo
      unfold paso
      dsimp only
      rw [maestro.ethLoop]
      exact resuelta.actMaestro maestro fun tells _ => .inl tells
  | coapClient quien =>
      obtain rfl : quien = lado := suyo
      unfold paso
      dsimp only
      rw [maestro.coapClient fun tarea parar => (bien tarea parar).1]
      exact resuelta.actMaestro maestro fun tells _ => .inl tells

/-- A step of the other. -/
theorem Resuelta.paso_retirado (resuelta : Resuelta red s lado) {evento : Evento}
    (suyo : evento.lado = lado.other) (bien : Bien red s evento) :
    Resuelta red (paso red s evento) lado := by
  have retirado := resuelta.retirado
  cases evento with
  | llega quien d =>
      obtain rfl : quien = lado.other := suyo
      unfold paso
      dsimp only
      split_ifs with nada
      · exact resuelta
      by_cases otro : d = .startClient
      · subst otro
        rw [(retirado.onPacket_startClient _).2.1, Side.other_other]
        exact resuelta.avisa
      · rw [retirado.onPacket_of_ne otro]
        exact (resuelta.takeRetirado otro).permanece retirado.permanece rfl
  | coapStartServer quien =>
      obtain rfl : quien = lado.other := suyo
      exact resuelta.permanece retirado.coapStartServer (Miembro.enviados_coapStartServer _ _ _)
  | ethLoop quien =>
      obtain rfl : quien = lado.other := suyo
      exact resuelta.permanece retirado.ethLoop rfl
  | coapClient quien =>
      obtain rfl : quien = lado.other := suyo
      rcases retirado.coapClient with ⟨sigue, ⟨tarea, parar, parado⟩ | permanece⟩
      · have avisa := (bien tarea parar).2
        rw [Side.other_other] at avisa
        exact resuelta_actRetirado resuelta.maestro resuelta.sinRespuesta sigue rfl
          (.inr ⟨parado, avisa⟩)
      · exact resuelta.permanece permanece rfl

theorem Resuelta.paso (resuelta : Resuelta red s lado) {evento : Evento}
    (bien : Bien red s evento) : Resuelta red (paso red s evento) lado := by
  rcases Side.eq_or_eq_other evento.lado lado with suyo | suyo
  · exact resuelta.paso_maestro suyo bien
  · exact resuelta.paso_retirado suyo bien

end Resuelta

/-! ## The whole search -/

variable {red} {s : Sistema}

/-- Two masters with nothing on its way, one of which has still to ask and has
seen the other, a charger of its group, on the network. -/
theorem disputa_of_porPreguntar (maestros : ∀ lado, (s.member lado).EsMaestro)
    (entregado : s.Delivered) {lado : Side}
    (asks : (s.member lado).fase.porPreguntar = true)
    (enGrupo : (red lado).enGrupo (red lado.other).deviceId = true) {i : Nat}
    (visto : i < (red lado).netGroupSize)
    (name : ((red lado).netGroup i).name = (red lado.other).deviceId)
    (ip : ((red lado).netGroup i).ip = (red lado.other).ip)
    (conIP : (red lado.other).ip ≠ inaddrNone ∧ (red lado.other).ip ≠ ipaddrAny) :
    Disputa red s := by
  refine ⟨maestros, ⟨lado, entregado _ _⟩, ⟨lado, .inl ⟨asks, ?_⟩⟩⟩
  refine (red lado).mem_destinos_iff.mpr ⟨i, visto, ?_, ip⟩
  unfold Equipo.recibe
  rw [name, ip, enGrupo]
  simp [conIP.1, conIP.2]

/-- With nothing on its way and both out of `coap_start_server`, nobody is to
learn anything, and the other is a client. -/
theorem unMaestro_of_entregado (entregado : s.Delivered)
    (fuera : ∀ lado, (s.member lado).fase = .fuera)
    (estado : Disputa red s ∨ ∃ lado, Resuelta red s lado) : UnMaestro red s := by
  rcases estado with disputa | ⟨lado, resuelta⟩
  · rcases disputa.pendiente with ⟨lado, ⟨asks, _⟩ | preguntado | contestado⟩
    · rw [fuera] at asks
      exact absurd asks Bool.false_ne_true
    · rw [entregado] at preguntado
      omega
    · rw [entregado] at contestado
      omega
  · refine ⟨lado, resuelta.maestro.groupMaster, resuelta.retirado.groupMaster, ?_⟩
    rcases resuelta.cliente with sigue | ⟨_, avisado | ⟨tells, _⟩⟩
    · exact sigue
    · rw [entregado] at avisado
      omega
    · rw [fuera] at tells
      exact absurd tells Bool.false_ne_true

/-- Two masters, of which one has still to ask, come out of the search with one
master, whatever the order of the datagrams and of the steps, if each of them
finds a state the code handles well. -/
theorem unMaestro_run (disputa : Disputa red s) (eventos : List Evento)
    (bien : Along (Bien red) (paso red) eventos s)
    (entregado : (eventos.foldl (paso red) s).Delivered)
    (fuera : ∀ lado, ((eventos.foldl (paso red) s).member lado).fase = .fuera) :
    UnMaestro red (eventos.foldl (paso red) s) := by
  apply unMaestro_of_entregado entregado fuera
  apply bien.invariant (fun s => Disputa red s ∨ ∃ lado, Resuelta red s lado) (.inl disputa)
  rintro s evento (disputa | ⟨lado, resuelta⟩) bien
  · exact disputa_paso disputa bien
  · exact .inr ⟨lado, resuelta.paso bien⟩

/-! ## No way back -/

/-- No step makes a member master that was not. -/
theorem groupMaster_paso {evento : Evento} {k : Side}
    (maestro : ((paso red s evento).member k).groupMaster = true) :
    (s.member k).groupMaster = true := by
  have delMismo : ∀ (base : Sistema) (lado : Side) (m : Miembro) (sent : Datagrama → Nat),
      base.member = s.member → (m.groupMaster = true → (s.member lado).groupMaster = true) →
      ((base.act lado m sent).member k).groupMaster = true →
      (s.member k).groupMaster = true := by
    intro base lado m sent igual antes ahora
    rcases Side.eq_or_eq_other k lado with rfl | rfl
    · rw [Pair.act_member_self] at ahora
      exact antes ahora
    · rwa [Pair.act_member_other, igual] at ahora
  revert maestro
  cases evento with
  | llega lado d =>
      unfold paso
      dsimp only
      split_ifs
      · exact id
      · exact delMismo _ _ _ _ rfl Miembro.groupMaster_onPacket
  | coapStartServer lado => exact delMismo _ _ _ _ rfl Miembro.groupMaster_coapStartServer
  | ethLoop lado => exact delMismo _ _ _ _ rfl Miembro.groupMaster_ethLoop
  | coapClient lado => exact delMismo _ _ _ _ rfl Miembro.groupMaster_coapClient

/-- A group without a master stays without. -/
theorem sinMaestro_run (sin : ∀ lado, (s.member lado).groupMaster = false)
    (eventos : List Evento) (lado : Side) :
    ((eventos.foldl (paso red) s).member lado).groupMaster = false := by
  induction eventos generalizing s with
  | nil => exact sin lado
  | cons evento resto ih =>
      refine ih fun k => ?_
      rw [Bool.eq_false_iff]
      exact fun maestro => Bool.false_ne_true ((sin k).symm.trans (groupMaster_paso maestro))

/-- The answer takes `GroupMaster` from a master. -/
theorem paso_yesMasterHere {k : Side} (maestro : (s.member k).EsMaestro)
    (contestado : 0 < s.inFlight k .yesMasterHere) :
    paso red s (.llega k .yesMasterHere) =
      (s.take k .yesMasterHere).act k
        { s.member k with
          startClient := true, groupMaster := false, groupActive := true
          masterIP := (red k.other).ip }
        (enviados [] (red k.other).ip) := by
  unfold paso
  dsimp only
  rw [if_neg contestado.ne', maestro.onPacket_yesMasterHere]

/-- Two masters that have both been answered both step down, and whatever
happens then, none of them is master again. -/
theorem cruce_sin_maestro (maestros : ∀ lado, (s.member lado).EsMaestro)
    (contestados : ∀ lado, 0 < s.inFlight lado .yesMasterHere) (primero : Side)
    (eventos : List Evento) (lado : Side) :
    ((eventos.foldl (paso red) (paso red (paso red s (.llega primero .yesMasterHere))
      (.llega primero.other .yesMasterHere))).member lado).groupMaster = false := by
  refine sinMaestro_run (fun k => ?_) eventos lado
  rw [paso_yesMasterHere (maestros primero) (contestados primero), paso_yesMasterHere]
  · rcases Side.eq_or_eq_other k primero with rfl | rfl
    · rw [Pair.act_other_member, Pair.take_member, Pair.act_member_self]
    · rw [Pair.act_member_self]
  · rw [Pair.act_member_other]
    exact maestros primero.other
  · rw [Pair.act_inFlight_other, Pair.take_inFlight_other]
    exact Nat.lt_add_right _ (contestados primero.other)

/-! ## Two chargers that start at the same time -/

/-- The group of the chargers `1` and `2`. -/
def grupoDeDos : GroupState :=
  GroupState.inicio (.conPotencia 100)
    [{ CaracCharger.default with name := fun _ => 1 },
      { CaracCharger.default with name := fun _ => 2 }] [32]

/-- A charger with a name and an address, which knows another. -/
def cargador (id ip otro otraIP : UInt8) : Entorno where
  toEquipo :=
    { equipoVacio with
      grupo := grupoDeDos, deviceId := fun _ => id
      netGroup := fun _ =>
        { CaracCharger.default with name := fun _ => otro, ip := otraIP.toUInt32 }
      netGroupSize := 1 }
  ip := ip.toUInt32

/-- The charger `1` at address 11 and the charger `2` at address 12. -/
def dosCargadores : Side → Entorno
  | .left => cargador 1 11 2 12
  | .right => cargador 2 12 1 11

/-- A master in a phase of `coap_start_server`. -/
def maestroEn (fase : Fase) : Miembro where
  groupMaster := true
  groupActive := true
  conected := true
  startClient := false
  masterIP := 0
  pararCliente := false
  cliente := .ninguna
  fase := fase

/-- One is about to ask, and the other in the given phase. -/
def preguntaUno (fase : Fase) : Sistema where
  member
    | .left => maestroEn (.pregunta 0)
    | .right => maestroEn fase
  inFlight _ _ := 0

instance (s : Sistema) : Decidable s.Delivered :=
  inferInstanceAs (Decidable (∀ lado d, s.inFlight lado d = 0))

/-- One asks the other, which has its server running, and follows it. -/
def preguntaYSigue : List Evento :=
  [.coapStartServer .left, .llega .right .masterHere, .llega .left .yesMasterHere,
    .coapStartServer .left, .coapStartServer .left, .ethLoop .left, .coapClient .left]

theorem unMaestro_run_preguntaYSigue :
    (∀ lado, ((preguntaUno .fuera).member lado).groupMaster = true) ∧
      UnMaestro dosCargadores (preguntaYSigue.foldl (paso dosCargadores) (preguntaUno .fuera)) := by
  refine ⟨by decide, unMaestro_run ⟨?_, ⟨.left, rfl⟩, ⟨.left, .inl (by decide)⟩⟩ _ (by decide)
    (by decide) (by decide)⟩
  rintro (_ | _) <;> exact ⟨rfl, rfl, by decide⟩

/-- Both ask, both answer, and both step down. -/
def cruzadas : List Evento :=
  [.coapStartServer .left, .coapStartServer .right,
    .llega .left .masterHere, .llega .right .masterHere,
    .llega .left .yesMasterHere, .llega .right .yesMasterHere,
    .coapStartServer .left, .coapStartServer .right,
    .coapStartServer .left, .coapStartServer .right]

/-- Questions that cross leave no master. -/
theorem cruzadas_sin_acuerdo :
    (∀ lado, ((preguntaUno (.pregunta 0)).member lado).groupMaster = true ∧
        ((preguntaUno (.pregunta 0)).member lado).conected = true ∧
        (dosCargadores lado).enGrupo (dosCargadores lado.other).deviceId = true) ∧
      (cruzadas.foldl (paso dosCargadores) (preguntaUno (.pregunta 0))).Delivered ∧
      (∀ lado, ((cruzadas.foldl (paso dosCargadores) (preguntaUno (.pregunta 0))).member
        lado).fase = .fuera) ∧
      ¬ UnMaestro dosCargadores
        (cruzadas.foldl (paso dosCargadores) (preguntaUno (.pregunta 0))) := by
  refine ⟨by decide, by decide, by decide, ?_⟩
  rintro ⟨lado, maestro, _⟩
  cases lado <;> exact absurd maestro (by decide)

end VeltiumCharger.Acuerdo
