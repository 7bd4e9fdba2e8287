import VeltiumCharger.Group.BienFormada
import VeltiumCharger.Library.Peers
import VeltiumCharger.Library.Run

/-!
# Two members in search of a master

The datagrams of `Gestion_Grupo.cpp` between two members of a group, and the
tasks that send them: `coap_start_server`, which asks ten times for a master and
then takes the group, and `coap_client`.

The handler of a datagram is one step.  `coap_start_server` takes one step from
each broadcast or test of `GroupMaster` to the next, so that datagrams may be
handled between any two of them.  "Start client" is also sent on a presence
packet and by a server to a charger it does not hear, and `coap_client` also ends
by orders and for want of a server; these are left out.
-/

namespace VeltiumCharger.Acuerdo

open VeltiumCharger.Group VeltiumCharger.Peers

/-- The texts of the datagrams. -/
inductive Datagrama
  | startClient
  | masterHere
  | yesMasterHere
  deriving DecidableEq

instance (holds : Datagrama → Prop) [DecidablePred holds] : Decidable (∀ d, holds d) :=
  decidable_of_iff (holds .startClient ∧ holds .masterHere ∧ holds .yesMasterHere) <| by
    constructor
    · rintro ⟨startClient, masterHere, yesMasterHere⟩ (_ | _ | _) <;> assumption
    · exact fun all => ⟨all _, all _, all _⟩

/-- `IPADDR_ANY` -/
def ipaddrAny : UInt32 := 0

/-- A member of the group, and its address. -/
structure Entorno extends Equipo where
  ip : UInt32

end VeltiumCharger.Acuerdo

namespace VeltiumCharger.Group.Equipo

open VeltiumCharger.Acuerdo VeltiumCharger.Loop VeltiumCharger.Rotate

variable (e : Equipo)

/-- The charger with this name is in the group. -/
def enGrupo (id : Name) : Bool :=
  (checkInGroup id e.grupo.chargerTable e.grupo.chargerNumber).isSome

/-- `broadcast_a_grupo` sends to this entry of `net_group`. -/
def recibe (charger : CaracCharger) : Bool :=
  e.enGrupo charger.name && charger.ip != inaddrNone && charger.ip != ipaddrAny

/-- The addresses `broadcast_a_grupo` sends to, in order. -/
def destinos : List UInt32 :=
  (((List.range e.netGroupSize).map e.netGroup).filter e.recibe).map CaracCharger.ip

/-- The datagrams of `broadcast_a_grupo`. -/
def difusion (d : Datagrama) : List (UInt32 × Datagrama) :=
  e.destinos.map fun ip => (ip, d)

theorem mem_destinos_iff {ip : UInt32} :
    ip ∈ e.destinos ↔
      ∃ i, i < e.netGroupSize ∧ e.recibe (e.netGroup i) = true ∧ (e.netGroup i).ip = ip := by
  simp only [destinos, List.mem_map, List.mem_filter, List.mem_range]
  constructor
  · rintro ⟨_, ⟨⟨i, below, rfl⟩, recibe⟩, rfl⟩
    exact ⟨i, below, recibe, rfl⟩
  · rintro ⟨i, below, recibe, rfl⟩
    exact ⟨_, ⟨⟨i, below, rfl⟩, recibe⟩, rfl⟩

/-- A broadcast sends at least one datagram to each of its addresses. -/
theorem count_difusion_pos {ip : UInt32} {d : Datagrama} (destino : ip ∈ e.destinos) :
    0 < (e.difusion d).count (ip, d) :=
  List.count_pos_iff.mpr (List.mem_map_of_mem destino)

/-- A broadcast sends no other datagram. -/
theorem count_difusion_of_ne {ip : UInt32} {d otro : Datagrama} (distinto : otro ≠ d) :
    (e.difusion d).count (ip, otro) = 0 := by
  rw [List.count_eq_zero]
  intro enviado
  rcases List.mem_map.mp enviado with ⟨_, _, same⟩
  exact distinto (congrArg Prod.snd same).symm

/-! ## The table during the search -/

variable {e}

theorem enGrupo_iff {id : Name} :
    e.enGrupo id = true ↔
      ∃ j, j < e.grupo.chargerNumber ∧ (e.grupo.chargerTable j).name = id := by
  unfold enGrupo
  rw [Option.isSome_iff_ne_none, ne_eq, checkInGroup_eq_none_iff]
  simp only [not_forall, ne_eq, not_not, exists_prop]

theorem pos_of_enGrupo {id : Name} (present : e.enGrupo id = true) :
    0 < e.grupo.chargerNumber :=
  Nat.zero_lt_of_lt (enGrupo_iff.mp present).choose_spec.1

/-- Another state of the device, with the same chargers to send to. -/
structure MismosDestinos (before after : Equipo) : Prop where
  deviceId : after.deviceId = before.deviceId
  netGroup : after.netGroup = before.netGroup
  netGroupSize : after.netGroupSize = before.netGroupSize
  enGrupo : ∀ id, after.enGrupo id = before.enGrupo id

theorem MismosDestinos.trans {before between after : Equipo}
    (first : before.MismosDestinos between) (second : between.MismosDestinos after) :
    before.MismosDestinos after where
  deviceId := second.deviceId.trans first.deviceId
  netGroup := second.netGroup.trans first.netGroup
  netGroupSize := second.netGroupSize.trans first.netGroupSize
  enGrupo id := (second.enGrupo id).trans (first.enGrupo id)

/-- The addresses depend on the names of the group only. -/
theorem MismosDestinos.destinos {before after : Equipo} (mismos : before.MismosDestinos after) :
    after.destinos = before.destinos := by
  unfold Equipo.destinos
  rw [mismos.netGroup, mismos.netGroupSize, show after.recibe = before.recibe by
    funext charger
    unfold recibe
    rw [mismos.enGrupo]]

/-- A broadcast writes addresses only. -/
theorem enGrupo_broadcastAGrupo (id : Name) : (broadcastAGrupo e).enGrupo id = e.enGrupo id := by
  have same := broadcastAGrupo_mismaTabla e
  rw [Bool.eq_iff_iff, enGrupo_iff, enGrupo_iff, same.chargerNumber]
  simp only [same.name]

/-- The rotation that puts the own charger first keeps the names. -/
theorem enGrupo_maestroPrimero {rounds : Nat} (bounded : e.grupo.chargerNumber ≤ maxGroupSize)
    (distintos : Distintos e.grupo.chargerTable e.grupo.chargerNumber)
    (found : e.lugar = some rounds) (id : Name) :
    (e.conTabla (maestroPrimero restaurarCableado e.deviceId e.grupo.chargerTable
        e.grupo.chargerNumber)).enGrupo id = e.enGrupo id := by
  have below := (checkInGroup_eq_some_iff.mp found).1
  rw [maestroPrimero_eq conserva_restaurarCableado.name bounded distintos found,
    Bool.eq_iff_iff, enGrupo_iff, enGrupo_iff]
  dsimp only [conTabla]
  constructor
  · rintro ⟨j, inside, rfl⟩
    rw [rotate_iterate_observe CaracCharger.name conserva_restaurarCableado.name below inside]
    exact ⟨_, Nat.mod_lt _ (by omega), rfl⟩
  · rintro ⟨j, inside, rfl⟩
    -- the place from which `rounds` moves bring the charger to `j`
    refine ⟨(j + (e.grupo.chargerNumber - rounds)) % e.grupo.chargerNumber,
      Nat.mod_lt _ (by omega), ?_⟩
    rw [rotate_iterate_observe CaracCharger.name conserva_restaurarCableado.name below
      (Nat.mod_lt _ (by omega)), Nat.mod_add_mod,
      show j + (e.grupo.chargerNumber - rounds) + rounds = j + e.grupo.chargerNumber by omega,
      Nat.add_mod_right, Nat.mod_eq_of_lt inside]

/-- The questions of the search for a master go to the same addresses. -/
theorem mismosDestinos_preguntas (rounds : Nat) :
    e.MismosDestinos (forUpTo rounds (fun _ => broadcastAGrupo) e.comoMaestro) := by
  refine forUpTo_induction (fun _ now => e.MismosDestinos now) ?_ fun _ _ now mismos =>
    mismos.trans ⟨rfl, rfl, rfl, fun _ => enGrupo_broadcastAGrupo _⟩
  unfold comoMaestro
  split_ifs <;> exact ⟨rfl, rfl, rfl, fun _ => rfl⟩

/-- The search for a master and the start of the server send to the same
addresses from the first broadcast to the last. -/
theorem mismosDestinos_coapStartServer {circuitNumber : Nat}
    (correct : e.grupo.TablaCorrecta circuitNumber) (otroMaestro : Option Nat) :
    e.MismosDestinos (Group.coapStartServer otroMaestro e) := by
  have table : e.comoMaestro.grupo.TablaCorrecta circuitNumber := by
    unfold comoMaestro
    split_ifs
    · exact correct
    · exact ⟨correct.acotada, correct.distintos, correct.cableado⟩
  unfold Group.coapStartServer
  cases otroMaestro with
  | some round => exact (mismosDestinos_preguntas (round + 1)).trans ⟨rfl, rfl, rfl, fun _ => rfl⟩
  | none =>
      have mismos := mismosDestinos_preguntas (e := e) 10
      have asked := forUpTo_induction
        (fun _ (now : Equipo) => now.grupo.TablaCorrecta circuitNumber) table
        (@fun _ (_ : _ < 10) now (correct : now.grupo.TablaCorrecta circuitNumber) =>
          correct.congr (broadcastAGrupo_mismaTabla now))
      dsimp only
      generalize forUpTo 10 (fun _ => broadcastAGrupo) e.comoMaestro = now at mismos asked ⊢
      split_ifs with present
      · rcases Option.isSome_iff_exists.mp present.2 with ⟨rounds, found⟩
        refine mismos.trans ⟨rfl, rfl, rfl, fun id => ?_⟩
        rw [enGrupo_broadcastAGrupo, enGrupo_maestroPrimero asked.acotada asked.distintos found]
      · exact mismos.trans ⟨rfl, rfl, rfl, fun _ => rfl⟩

end VeltiumCharger.Group.Equipo

namespace VeltiumCharger.Acuerdo

open VeltiumCharger.Group VeltiumCharger.Loop VeltiumCharger.Peers

/-- The task of `coap_client`: none, created, or past its first lines. -/
inductive Tarea
  | ninguna
  | creada
  | enMarcha
  deriving DecidableEq

/-- Where a member is in `coap_start_server`. -/
inductive Fase
  /-- not in it -/
  | fuera
  /-- at the head of the loop -/
  | pregunta (i : Nat)
  /-- in the delay after the question -/
  | espera (i : Nat)
  /-- past the loop -/
  | tras
  /-- about to broadcast "Start client" -/
  | anuncia
  /-- about to write `MasterIP` and start the server -/
  | arranca
  deriving DecidableEq

/-- The variables of a member that decide who is master. -/
structure Miembro where
  groupMaster : Bool
  groupActive : Bool
  conected : Bool
  startClient : Bool
  masterIP : UInt32
  pararCliente : Bool
  cliente : Tarea
  fase : Fase
  deriving DecidableEq

namespace Miembro

/-- `coap_start_client` -/
def coapStartClient (m : Miembro) : Miembro :=
  { m with groupMaster := false, cliente := .creada }

/-- The handler of the datagrams: the member, and what it sends. -/
def onPacket (m : Miembro) (remoteIP : UInt32) : Datagrama → Miembro × List (UInt32 × Datagrama)
  | .startClient =>
      if !m.conected && !m.startClient then
        ({ m with
            startClient := true, groupMaster := false, groupActive := true
            masterIP := remoteIP }, [])
      else if m.conected then
        if m.pararCliente then ({ m.coapStartClient with pararCliente := false }, [])
        else ({ m with pararCliente := true }, [])
      else (m, [])
  | .masterHere =>
      if m.conected && m.groupMaster then (m, [(remoteIP, .yesMasterHere)]) else (m, [])
  | .yesMasterHere =>
      if m.conected && m.groupMaster then
        ({ m with
            startClient := true, groupMaster := false, groupActive := true
            masterIP := remoteIP }, [])
      else (m, [])

/-- The next step of `coap_start_server`, if the member is in it.  The rotation
of the table and the flash are left out. -/
def coapStartServer (e : Entorno) (m : Miembro) : Miembro × List (UInt32 × Datagrama) :=
  match m.fase with
  | .fuera => (m, [])
  | .pregunta i =>
      if i < 10 then ({ m with fase := .espera i }, e.difusion .masterHere)
      else ({ m with fase := .tras }, [])
  | .espera i =>
      if !m.groupMaster then ({ m with conected := false, fase := .tras }, [])
      else ({ m with fase := .pregunta (i + 1) }, [])
  | .tras =>
      if m.groupMaster then
        if 0 < e.grupo.chargerNumber && e.enGrupo e.deviceId then
          ({ m with fase := .anuncia }, [])
        else
          ({ m with
              groupMaster := false, groupActive := false, conected := false, fase := .fuera }, [])
      else ({ m with fase := .fuera }, [])
  | .anuncia => ({ m with fase := .arranca }, e.difusion .startClient)
  -- `start_server` creates `coap_server`, which sets `Conected`
  | .arranca => ({ m with masterIP := e.ip, conected := true, fase := .fuera }, [])

/-- `Eth_Loop` starts the group; it does not run during `coap_start_server`,
which it calls. -/
def ethLoop (m : Miembro) : Miembro :=
  if m.fase = .fuera ∧ m.conected = false ∧ m.groupActive = true then
    if m.startClient then m.coapStartClient
    else if m.groupMaster then { m with conected := true, fase := .pregunta 0 }
    else m
  else m

/-- The next step of the task of `coap_client`: its first lines, then a round of
its loop, which ends the task when it finds `PARAR_CLIENTE` set. -/
def coapClient (m : Miembro) : Miembro :=
  match m.cliente with
  | .ninguna => m
  | .creada => { m with conected := true, groupMaster := false, cliente := .enMarcha }
  | .enMarcha =>
      if m.pararCliente then
        { m with
          pararCliente := false, conected := false, startClient := false, cliente := .ninguna }
      else m

end Miembro

/-! ## The search with nothing or an answer in between -/

namespace Miembro

/-- The flags of the device are those of the member. -/
structure Refleja (m : Miembro) (e : Equipo) : Prop where
  groupMaster : m.groupMaster = e.esMaestro
  groupActive : m.groupActive = (e.grupo.params.groupActive != 0)
  conected : m.conected = e.conected

variable {e : Entorno} {m : Miembro}

/-- The member after so many steps of `coap_start_server`, with no datagram in
between. -/
def pasos (e : Entorno) (n : Nat) (m : Miembro) : Miembro :=
  (fun m => (m.coapStartServer e).1)^[n] m

/-- A master comes to the head of the loop again, up to ten times. -/
theorem pasos_rondas (maestro : m.groupMaster = true) (dentro : m.fase = .pregunta 0)
    {ronda : Nat} (hasta : ronda ≤ 10) :
    m.pasos e (2 * ronda) = { m with fase := .pregunta ronda } := by
  induction ronda with
  | zero =>
      rw [← dentro]
      rfl
  | succ ronda ih =>
      have primeras := ih (by omega)
      have queda : ronda < 10 := hasta
      unfold pasos at primeras ⊢
      rw [show 2 * (ronda + 1) = 2 * ronda + 1 + 1 by omega, Function.iterate_succ_apply',
        Function.iterate_succ_apply', primeras]
      simp [coapStartServer, queda, maestro]

theorem pasos_add (first second : Nat) :
    m.pasos e (second + first) = (m.pasos e first).pasos e second :=
  Function.iterate_add_apply ..

/-- A broadcast leaves the flags of the device alone. -/
theorem Refleja.broadcastAGrupo {e : Equipo} (refleja : m.Refleja e) :
    m.Refleja (broadcastAGrupo e) := by
  have params := (broadcastAGrupo_mismaTabla e).params
  refine ⟨refleja.groupMaster.trans ?_, refleja.groupActive.trans ?_, refleja.conected⟩
  · unfold Equipo.esMaestro
    rw [params]
  · rw [params]

theorem Refleja.preguntas {e : Equipo} (refleja : m.Refleja e) (rounds : Nat) :
    m.Refleja (forUpTo rounds (fun _ => Group.broadcastAGrupo) e) :=
  forUpTo_induction (fun _ now => m.Refleja now) refleja fun _ _ _ same => same.broadcastAGrupo

theorem esMaestro_comoMaestro (e : Equipo) : e.comoMaestro.esMaestro = true := by
  unfold Equipo.comoMaestro
  split_ifs with maestro
  · exact maestro
  · rfl

/-- A master that has asked ten times takes the group, if it is in it. -/
theorem pasos_final (maestro : m.groupMaster = true) (dentro : m.fase = .pregunta 10) :
    m.pasos e 4 =
      if e.enGrupo e.deviceId then { m with masterIP := e.ip, conected := true, fase := .fuera }
      else
        { m with
          groupMaster := false, groupActive := false, conected := false, fase := .fuera } := by
  unfold pasos
  simp only [Function.iterate_succ_apply, Function.iterate_zero_apply]
  split_ifs with propio
  · have algunos := Equipo.pos_of_enGrupo propio
    simp [coapStartServer, dentro, maestro, propio, algunos]
  · simp [coapStartServer, dentro, maestro, propio]

/-- Without an answer the member ends as the device does. -/
theorem refleja_coapStartServer (dentro : m.fase = .pregunta 0)
    (refleja : m.Refleja e.comoMaestro) :
    (m.pasos e 24).Refleja (Group.coapStartServer none e.toEquipo) ∧
      (m.pasos e 24).fase = .fuera := by
  have maestro : m.groupMaster = true := refleja.groupMaster.trans (esMaestro_comoMaestro _)
  have conectado : m.conected = true := refleja.conected
  have mismos := Equipo.mismosDestinos_preguntas (e := e.toEquipo) 10
  have tras := refleja.preguntas 10
  rw [show 24 = 4 + 2 * 10 from rfl, pasos_add, pasos_rondas maestro dentro (Nat.le_refl _),
    pasos_final (m := { m with fase := .pregunta 10 }) maestro rfl]
  unfold Group.coapStartServer
  dsimp only
  generalize forUpTo 10 (fun _ => broadcastAGrupo) e.comoMaestro = preguntado at mismos tras ⊢
  by_cases propio : e.enGrupo e.deviceId = true
  · rw [if_pos propio, if_pos]
    · refine ⟨Refleja.broadcastAGrupo ⟨tras.groupMaster, tras.groupActive, ?_⟩, rfl⟩
      exact conectado.symm.trans tras.conected
    · rw [← mismos.enGrupo, ← mismos.deviceId] at propio
      exact ⟨Equipo.pos_of_enGrupo propio, propio⟩
  · rw [if_neg propio, if_neg]
    · exact ⟨⟨rfl, rfl, rfl⟩, rfl⟩
    · rintro ⟨_, hay⟩
      rw [← mismos.enGrupo, ← mismos.deviceId] at propio
      exact propio hay

/-- With an answer in the delay of a round the member ends as the device does
that another master answers in that round. -/
theorem refleja_coapStartServer_respuesta (dentro : m.fase = .pregunta 0)
    (refleja : m.Refleja e.comoMaestro) {ronda : Nat} (durante : ronda < 10) (remoteIP : UInt32) :
    let tras := ((m.pasos e (2 * ronda + 1)).onPacket remoteIP .yesMasterHere).1.pasos e 2
    tras.groupMaster = (Group.coapStartServer (some ronda) e.toEquipo).esMaestro ∧
      tras.conected = (Group.coapStartServer (some ronda) e.toEquipo).conected ∧
      tras.fase = .fuera := by
  have maestro : m.groupMaster = true := refleja.groupMaster.trans (esMaestro_comoMaestro _)
  have conectado : m.conected = true := refleja.conected
  have espera : m.pasos e (2 * ronda + 1) = { m with fase := .espera ronda } := by
    rw [show 2 * ronda + 1 = 1 + 2 * ronda by omega, pasos_add,
      pasos_rondas maestro dentro durante.le]
    simp [pasos, coapStartServer, durante]
  rw [espera]
  simp [onPacket, maestro, conectado, pasos, coapStartServer, Group.coapStartServer,
    Equipo.conMaestro, Equipo.esMaestro]

end Miembro

/-- The two members and the datagrams on their way. -/
abbrev Sistema := Pair Miembro Datagrama

/-- What may happen to a member. -/
inductive Evento
  /-- a datagram arrives -/
  | llega (lado : Side) (d : Datagrama)
  | coapStartServer (lado : Side)
  | ethLoop (lado : Side)
  | coapClient (lado : Side)

/-- The member it happens to. -/
def Evento.lado : Evento → Side
  | llega lado _ | coapStartServer lado | ethLoop lado | coapClient lado => lado

/-- The datagrams sent to an address, of each kind. -/
def enviados (envios : List (UInt32 × Datagrama)) (ip : UInt32) (d : Datagrama) : Nat :=
  envios.count (ip, d)

/-- A step.  A datagram for another address than that of the other member goes
to a third charger, or to nobody. -/
def paso (red : Side → Entorno) (s : Sistema) : Evento → Sistema
  | .llega lado d =>
      if s.inFlight lado d = 0 then s
      else
        let hecho := (s.member lado).onPacket (red lado.other).ip d
        (s.take lado d).act lado hecho.1 (enviados hecho.2 (red lado.other).ip)
  | .coapStartServer lado =>
      let hecho := (s.member lado).coapStartServer (red lado)
      s.act lado hecho.1 (enviados hecho.2 (red lado.other).ip)
  | .ethLoop lado => s.act lado (s.member lado).ethLoop (enviados [] (red lado.other).ip)
  | .coapClient lado => s.act lado (s.member lado).coapClient (enviados [] (red lado.other).ip)

end VeltiumCharger.Acuerdo
