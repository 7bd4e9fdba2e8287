import VeltiumCharger.Acuerdo.Miembros

/-!
# Broadcasts and recruiting

`broadcast_a_grupo` goes through the chargers of the network and, for each one,
through the table; the test inside does not mention the place of the table.  The
handler of a presence packet looks for the sender in as many places of
`charger_table` as `net_group` has.
-/

namespace VeltiumCharger.Acuerdo

open VeltiumCharger.Group VeltiumCharger.Loop

/-! ## The code -/

/-- An address a datagram can be sent to. -/
def esDestino (ip : UInt32) : Bool :=
  ip != inaddrNone && ip != ipaddrAny

/-- The test in `broadcast_a_grupo`. -/
def enTabla (charger : CaracCharger) (s : GroupState) : Bool :=
  (checkInGroup charger.name s.chargerTable s.chargerNumber).isSome

/-- `udp.sendTo` if there is an address, and the address goes to a record. -/
def enviar (charger : CaracCharger) (j : Nat) (state : GroupState × List UInt32) :
    GroupState × List UInt32 :=
  (state.1.setCharger j { state.1.chargerTable j with ip := charger.ip },
    if esDestino charger.ip then state.2 ++ [charger.ip] else state.2)

/-- One charger of the network in `broadcast_a_grupo`: the loop over the table, with the
addresses the message has been sent to. -/
def difundirRound (e : Equipo) (i : Nat) (state : GroupState × List UInt32) :
    GroupState × List UInt32 :=
  result (forBreak state.1.chargerNumber (fun j state =>
    if enTabla (e.netGroup i) state.1 then .done (enviar (e.netGroup i) j state)
    else .yield state) state)

/-- `broadcast_a_grupo`: the table it leaves and the addresses it sends to. -/
def difundir (e : Equipo) : GroupState × List UInt32 :=
  forUpTo e.netGroupSize (difundirRound e) (e.grupo, [])

/-- The device when the sender of a presence packet has entered `net_group` anew. -/
def conPresente (id : Name) (remoteIP : UInt32) (e : Equipo) : Equipo :=
  let net := removeFromGroup id e.netGroup e.netGroupSize
  let net := addToGroup id remoteIP net.1 net.2
  { e with netGroup := net.1, netGroupSize := net.2 }

/-- The addresses that "Start client" is sent to when a presence packet comes. -/
def avisados (id : Name) (remoteIP : UInt32) (e : Equipo) : List UInt32 :=
  if remoteIP = 0 then []
  else
    let e := conPresente id remoteIP e
    if e.esMaestro && e.conected &&
        (checkInGroup id e.grupo.chargerTable e.netGroupSize).isSome then
      (difundir e).2 ++ [remoteIP]
    else []

/-! ## What is promised -/

/-- Two chargers of the network have different addresses, if they have one. -/
def DireccionesDistintas (e : Equipo) : Prop :=
  ∀ i, i < e.netGroupSize → ∀ j, j < e.netGroupSize → esDestino (e.netGroup i).ip = true →
    (e.netGroup i).ip = (e.netGroup j).ip → i = j

/-- The charger of the network in place `i` has the name of the one in place `k` of the
table. -/
def Nombra (e : Equipo) (i k : Nat) : Prop :=
  i < e.netGroupSize ∧ k < e.grupo.chargerNumber ∧
    (e.netGroup i).name = (e.grupo.chargerTable k).name

/-- What is promised of a broadcast: the message goes once to every charger of the
network that has an address and is in the group, and to nobody else; every charger of
the table that is named gets its address, and the others keep theirs. -/
structure BuenaDifusion (e : Equipo) : Prop where
  unaVez : ∀ i, i < e.netGroupSize → e.recibe (e.netGroup i) = true →
    (difundir e).2.count (e.netGroup i).ip = 1
  nadieMas : ∀ ip ∈ (difundir e).2,
    ∃ i, i < e.netGroupSize ∧ e.recibe (e.netGroup i) = true ∧ (e.netGroup i).ip = ip
  nombrados : ∀ i k, Nombra e i k → ((difundir e).1.chargerTable k).ip = (e.netGroup i).ip
  otros : ∀ k, (∀ i, ¬ Nombra e i k) →
    ((difundir e).1.chargerTable k).ip = (e.grupo.chargerTable k).ip

/-- A master answers a presence packet exactly when the sender is in its group. -/
def BuenaRespuesta (e : Equipo) (id : Name) (remoteIP : UInt32) : Prop :=
  remoteIP ∈ avisados id remoteIP e ↔ e.enGrupo id = true

/-! ## The loops -/

/-- The chargers among the first of the network that are in the group. -/
def reconocidos (e : Equipo) (hasta : Nat) : List CaracCharger :=
  ((List.range hasta).map e.netGroup).filter fun charger => e.enGrupo charger.name

/-- The first record of the table gets the address of a charger. -/
def conDireccion (charger : Option CaracCharger) (s : GroupState) : GroupState :=
  match charger with
  | none => s
  | some charger => s.setCharger 0 { s.chargerTable 0 with ip := charger.ip }

section Bucles

variable {e : Equipo} {s : GroupState}

theorem conDireccion_name (charger : Option CaracCharger) (k : Nat) :
    ((conDireccion charger s).chargerTable k).name = (s.chargerTable k).name := by
  cases charger with
  | none => rfl
  | some charger =>
    by_cases first : k = 0
    · simp [conDireccion, GroupState.setCharger, first]
    · simp [conDireccion, GroupState.setCharger, first]

theorem conDireccion_chargerNumber (charger : Option CaracCharger) :
    (conDireccion charger s).chargerNumber = s.chargerNumber := by
  cases charger <;> rfl

/-- Only the last address stays. -/
theorem conDireccion_conDireccion (charger : CaracCharger) (antes : Option CaracCharger) :
    conDireccion (some charger) (conDireccion antes s) = conDireccion (some charger) s := by
  cases antes <;> simp [conDireccion, GroupState.setCharger]

/-- A charger is found in the group, whatever address the first record has. -/
theorem enTabla_conDireccion (antes : Option CaracCharger) (charger : CaracCharger) :
    enTabla charger (conDireccion antes e.grupo) = e.enGrupo charger.name := by
  rw [enTabla, conDireccion_chargerNumber, Equipo.enGrupo,
    checkInGroup_congr fun j _ => conDireccion_name antes j]

theorem difundirRound_eq (i : Nat) (state : GroupState × List UInt32) :
    difundirRound e i state =
      if 0 < state.1.chargerNumber ∧ enTabla (e.netGroup i) state.1 = true then
        enviar (e.netGroup i) 0 state
      else state := by
  have bucle := @forBreak_of_test _ state.1.chargerNumber
    (fun state => enTabla (e.netGroup i) state.1) (enviar (e.netGroup i)) state
  rw [difundirRound, bucle]
  split_ifs <;> rfl

/-- One charger of the network: it gets the message and gives its address to the first
record if it is in the group. -/
theorem difundirRound_conDireccion (i : Nat) (antes : Option CaracCharger)
    (enviados : List UInt32) :
    difundirRound e i (conDireccion antes e.grupo, enviados) =
      if e.enGrupo (e.netGroup i).name = true then
        (conDireccion (some (e.netGroup i)) (conDireccion antes e.grupo),
          if esDestino (e.netGroup i).ip then enviados ++ [(e.netGroup i).ip] else enviados)
      else (conDireccion antes e.grupo, enviados) := by
  rw [difundirRound_eq]
  dsimp only
  rw [enTabla_conDireccion, conDireccion_chargerNumber]
  by_cases present : e.enGrupo (e.netGroup i).name = true
  · rw [if_pos present, if_pos ⟨Equipo.pos_of_enGrupo present, present⟩]
    rfl
  · rw [if_neg present, if_neg fun both => present both.2]

theorem reconocidos_succ (i : Nat) :
    reconocidos e (i + 1) =
      if e.enGrupo (e.netGroup i).name = true then reconocidos e i ++ [e.netGroup i]
      else reconocidos e i := by
  unfold reconocidos
  rw [List.range_succ, List.map_append, List.filter_append]
  split_ifs with present
  · simp [present]
  · simp [present]

theorem difundir_eq (e : Equipo) :
    difundir e =
      (conDireccion (reconocidos e e.netGroupSize).getLast? e.grupo,
        ((reconocidos e e.netGroupSize).map CaracCharger.ip).filter esDestino) := by
  refine forUpTo_induction (fun i state => state =
    (conDireccion (reconocidos e i).getLast? e.grupo,
      ((reconocidos e i).map CaracCharger.ip).filter esDestino)) rfl ?_
  rintro i _ _ rfl
  rw [difundirRound_conDireccion, reconocidos_succ]
  split_ifs with present destino
  · rw [conDireccion_conDireccion, List.getLast?_append_of_ne_nil _ (by simp)]
    simp [destino]
  · rw [conDireccion_conDireccion, List.getLast?_append_of_ne_nil _ (by simp)]
    simp [destino]
  · rfl

/-- The table that a broadcast leaves is the one of the group's model. -/
theorem difundir_fst (e : Equipo) : (difundir e).1 = (broadcastAGrupo e).grupo := by
  unfold difundir broadcastAGrupo
  dsimp only
  generalize e.netGroupSize = size
  induction size with
  | zero => rfl
  | succ i ih =>
    rw [forUpTo_succ, forUpTo_succ, difundirRound_eq, ← ih]
    generalize forUpTo i (difundirRound e) (e.grupo, []) = state
    have bucle := @forBreak_of_test _ state.1.chargerNumber (enTabla (e.netGroup i))
      (fun j s => s.setCharger j { s.chargerTable j with ip := (e.netGroup i).ip }) state.1
    refine Eq.trans ?_ (congrArg result bucle.symm)
    split_ifs <;> rfl

theorem recibe_eq (charger : CaracCharger) :
    e.recibe charger = (esDestino charger.ip && e.enGrupo charger.name) := by
  rw [Bool.and_comm]
  exact Bool.and_assoc _ _ _

/-- The message is sent to the addresses of the group's model. -/
theorem difundir_snd (e : Equipo) : (difundir e).2 = e.destinos := by
  rw [difundir_eq, Equipo.destinos, show e.recibe = _ from funext recibe_eq]
  dsimp only
  rw [List.filter_map, reconocidos, List.filter_filter]
  rfl

theorem mem_reconocidos_iff {charger : CaracCharger} :
    charger ∈ reconocidos e e.netGroupSize ↔ ∃ i k, Nombra e i k ∧ e.netGroup i = charger := by
  simp only [reconocidos, List.mem_filter, List.mem_map, List.mem_range, Equipo.enGrupo_iff]
  constructor
  · rintro ⟨⟨i, inside, rfl⟩, k, below, same⟩
    exact ⟨i, k, ⟨inside, below, same.symm⟩, rfl⟩
  · rintro ⟨i, k, ⟨inside, below, same⟩, rfl⟩
    exact ⟨⟨i, inside, rfl⟩, k, below, same.symm⟩

/-- Every record but the first keeps its address. -/
theorem difundir_ip_of_pos {k : Nat} (pos : 0 < k) :
    ((difundir e).1.chargerTable k).ip = (e.grupo.chargerTable k).ip := by
  have other : k ≠ 0 := Nat.ne_of_gt pos
  rw [difundir_eq]
  cases (reconocidos e e.netGroupSize).getLast? with
  | none => rfl
  | some charger => simp [conDireccion, GroupState.setCharger, other]

/-- The first record has the address of the last charger of the network that is in the
group. -/
theorem difundir_ip_zero :
    ((difundir e).1.chargerTable 0).ip =
      (((reconocidos e e.netGroupSize).getLast?.map CaracCharger.ip).getD
        (e.grupo.chargerTable 0).ip) := by
  rw [difundir_eq]
  cases (reconocidos e e.netGroupSize).getLast? with
  | none => rfl
  | some charger => simp [conDireccion, GroupState.setCharger]

end Bucles

/-! ## When it does what is promised -/

/-- Every record that is named, but the first, has its address already, and the last
charger of the network that is in the group has the address the first record is to
have: its own, or the one it has. -/
structure DireccionesAlDia (e : Equipo) : Prop where
  resto : ∀ i k, Nombra e i k → 0 < k → (e.grupo.chargerTable k).ip = (e.netGroup i).ip
  primera : ∀ charger ∈ (reconocidos e e.netGroupSize).getLast?,
    (∀ i, Nombra e i 0 → charger.ip = (e.netGroup i).ip) ∧
      ((∀ i, ¬ Nombra e i 0) → charger.ip = (e.grupo.chargerTable 0).ip)

/-- A master that serves looks for the sender among the first records of its table, as
many as `net_group` has with the sender, and finds it there only if it is in the group
and whenever it is; one that does not serve, or a sender without address, is not to be
answered. -/
def RemitenteAlAlcance (e : Equipo) (id : Name) (remoteIP : UInt32) : Prop :=
  if remoteIP = 0 ∨ e.conected = false then e.enGrupo id = false
  else (checkInGroup id e.grupo.chargerTable (conPresente id remoteIP e).netGroupSize).isSome =
    e.enGrupo id

section Promesa

variable {e : Equipo}

/-- No address is sent to twice. -/
theorem nodup_destinos (distintas : DireccionesDistintas e) : e.destinos.Nodup := by
  rw [Equipo.destinos, List.filter_map, List.map_map]
  refine List.Nodup.map_on ?_ (List.nodup_range.filter _)
  intro i memberI j memberJ same
  obtain ⟨insideI, recibe⟩ := List.mem_filter.mp memberI
  obtain ⟨insideJ, -⟩ := List.mem_filter.mp memberJ
  have destino : esDestino (e.netGroup i).ip = true := by
    have both := (recibe_eq (e.netGroup i)).symm.trans recibe
    exact (Bool.and_eq_true_iff.mp both).1
  exact distintas i (List.mem_range.mp insideI) j (List.mem_range.mp insideJ) destino same

theorem alDia_of_buenaDifusion (buena : BuenaDifusion e) : DireccionesAlDia e := by
  constructor
  · intro i k nombra pos
    rw [← difundir_ip_of_pos pos]
    exact buena.nombrados i k nombra
  · intro charger ultimo
    have primera : ((difundir e).1.chargerTable 0).ip = charger.ip := by
      rw [difundir_ip_zero, ultimo]
      rfl
    rw [← primera]
    exact ⟨fun i nombra => buena.nombrados i 0 nombra, fun ninguno => buena.otros 0 ninguno⟩

/-- The record of a charger that is named. -/
theorem DireccionesAlDia.nombrado (alDia : DireccionesAlDia e) {i k : Nat}
    (nombra : Nombra e i k) : ((difundir e).1.chargerTable k).ip = (e.netGroup i).ip := by
  rcases Nat.eq_zero_or_pos k with rfl | pos
  · have esta : e.netGroup i ∈ reconocidos e e.netGroupSize :=
      mem_reconocidos_iff.mpr ⟨i, 0, nombra, rfl⟩
    cases ultimo : (reconocidos e e.netGroupSize).getLast? with
    | none =>
      rw [List.getLast?_eq_none_iff.mp ultimo] at esta
      cases esta
    | some charger =>
      rw [difundir_ip_zero, ultimo]
      exact (alDia.primera charger ultimo).1 i nombra
  · rw [difundir_ip_of_pos pos]
    exact alDia.resto i k nombra pos

/-- The record of a charger that is not. -/
theorem DireccionesAlDia.otro (alDia : DireccionesAlDia e) {k : Nat}
    (ninguno : ∀ i, ¬ Nombra e i k) :
    ((difundir e).1.chargerTable k).ip = (e.grupo.chargerTable k).ip := by
  rcases Nat.eq_zero_or_pos k with rfl | pos
  · rw [difundir_ip_zero]
    cases ultimo : (reconocidos e e.netGroupSize).getLast? with
    | none => rfl
    | some charger => exact (alDia.primera charger ultimo).2 ninguno
  · exact difundir_ip_of_pos pos

theorem buenaDifusion_iff (distintas : DireccionesDistintas e) :
    BuenaDifusion e ↔ DireccionesAlDia e := by
  refine ⟨alDia_of_buenaDifusion, fun alDia => ?_⟩
  constructor
  case unaVez =>
    intro i inside recibe
    rw [difundir_snd]
    refine List.count_eq_one_of_mem (nodup_destinos distintas) ?_
    exact e.mem_destinos_iff.mpr ⟨i, inside, recibe, rfl⟩
  case nadieMas =>
    intro ip enviado
    rw [difundir_snd] at enviado
    exact e.mem_destinos_iff.mp enviado
  case nombrados => exact fun i k nombra => alDia.nombrado nombra
  case otros => exact fun k ninguno => alDia.otro ninguno

theorem buenaRespuesta_iff (maestro : e.esMaestro = true) (id : Name) (remoteIP : UInt32) :
    BuenaRespuesta e id remoteIP ↔ RemitenteAlAlcance e id remoteIP := by
  have maestro' : (conPresente id remoteIP e).esMaestro = true := maestro
  have conected' : (conPresente id remoteIP e).conected = e.conected := rfl
  have tabla' : (conPresente id remoteIP e).grupo = e.grupo := rfl
  unfold BuenaRespuesta RemitenteAlAlcance avisados
  dsimp only
  rw [maestro', conected', tabla']
  by_cases sin : remoteIP = 0
  · simp [sin]
  · cases sirve : e.conected with
    | false => simp [sin]
    | true =>
      cases alcance : (checkInGroup id e.grupo.chargerTable
        (conPresente id remoteIP e).netGroupSize).isSome with
      | false => cases e.enGrupo id <;> simp [sin]
      | true => cases e.enGrupo id <;> simp [sin]

/-- The presence packet of the group's model broadcasts when somebody is told. -/
theorem presencia_eq (id : Name) {remoteIP : UInt32} (con : remoteIP ≠ 0) :
    presencia id remoteIP e =
      if avisados id remoteIP e = [] then conPresente id remoteIP e
      else broadcastAGrupo (conPresente id remoteIP e) := by
  unfold presencia avisados conPresente
  dsimp only
  rw [if_neg con, if_neg con]
  split_ifs with alcance vacia
  · exact absurd vacia (List.append_ne_nil_of_right_ne_nil _ (List.cons_ne_nil _ _))
  · rfl
  · rfl
  · next otra => exact absurd rfl otra

/-- A broadcast and the answers to presence packets do what is promised exactly when the
addresses are up to date and the senders are within reach. -/
theorem reclutamiento (distintas : DireccionesDistintas e) :
    (BuenaDifusion e ↔ DireccionesAlDia e) ∧
      (e.esMaestro = true → ∀ id remoteIP,
        (BuenaRespuesta e id remoteIP ↔ RemitenteAlAlcance e id remoteIP)) :=
  ⟨buenaDifusion_iff distintas, fun maestro id remoteIP => buenaRespuesta_iff maestro id remoteIP⟩

end Promesa

/-- A charger with a name of one letter. -/
def cargadorEn (letra : Char) (ip : UInt32) : CaracCharger :=
  { CaracCharger.default with name := fun _ => letra.toUInt8, ip }

/-- A master that serves, with its table and the chargers of the network. -/
def maestroCon (tabla red : List CaracCharger) : Equipo :=
  { equipoVacio with
    grupo := GroupState.inicio (.conPotencia 60) tabla [32]
    conected := true
    netGroup := fun i => red.getD i CaracCharger.default
    netGroupSize := red.length }

/-- The master `A` and the slave `B`, whose address both records have; `C` is not of the
group. -/
def conVecino : Equipo :=
  maestroCon [cargadorEn 'A' 11, cargadorEn 'B' 11] [cargadorEn 'B' 11, cargadorEn 'C' 12]

theorem reclutamiento_conVecino :
    BuenaDifusion conVecino ∧ BuenaRespuesta conVecino (fun _ => 'B'.toUInt8) 11 := by
  have distintas : DireccionesDistintas conVecino := by
    unfold DireccionesDistintas
    decide
  have alDia : DireccionesAlDia conVecino := by
    constructor
    · rintro i k ⟨inside, below, same⟩ pos
      have places : ∀ i, i < 2 → ∀ k, k < 2 → 0 < k →
          (conVecino.netGroup i).name = (conVecino.grupo.chargerTable k).name →
          (conVecino.grupo.chargerTable k).ip = (conVecino.netGroup i).ip := by
        decide
      exact places i inside k below pos same
    · intro charger ultimo
      have es : some (cargadorEn 'B' 11) = some charger := ultimo
      obtain rfl := Option.some_inj.mp es
      have nadie : ∀ i, i < 2 →
          (conVecino.netGroup i).name ≠ (conVecino.grupo.chargerTable 0).name := by
        decide
      exact ⟨fun i nombra => absurd nombra.2.2 (nadie i nombra.1), fun _ => rfl⟩
  have both := reclutamiento distintas
  refine ⟨both.1.mpr alDia, (both.2 rfl _ _).mpr ?_⟩
  unfold RemitenteAlAlcance
  decide

/-- The same group, and only the slave on the network. -/
def soloEsclavo : Equipo :=
  maestroCon [cargadorEn 'A' 0, cargadorEn 'B' 11] [cargadorEn 'B' 11]

/-- The record of the master gets the address of the slave, and the slave is not
answered. -/
theorem reclutamiento_soloEsclavo :
    (DireccionesDistintas soloEsclavo ∧ soloEsclavo.esMaestro = true) ∧
      ¬ BuenaDifusion soloEsclavo ∧
      ¬ BuenaRespuesta soloEsclavo (fun _ => 'B'.toUInt8) 11 := by
  refine ⟨⟨?_, rfl⟩, ?_, ?_⟩
  · unfold DireccionesDistintas
    decide
  · intro buena
    have nadie : ∀ i, i < 1 →
        (soloEsclavo.netGroup i).name ≠ (soloEsclavo.grupo.chargerTable 0).name := by
      decide
    have igual := buena.otros 0 fun i nombra => nadie i nombra.1 nombra.2.2
    exact absurd igual (by decide)
  · unfold BuenaRespuesta
    decide

end VeltiumCharger.Acuerdo
