import VeltiumCharger.Group.GrupoBle

/-!
# Well-formed tables

What group control relies on when it indexes `Circuitos`: the tables are within
their arrays, the names are distinct, and each charger is on an existing phase
of an existing circuit.  The producers check none of it, so that it lasts as
long as the lists they receive respect it.
-/

namespace VeltiumCharger.Group

open VeltiumCharger.Loop VeltiumCharger.Rotate VeltiumCharger.Run

/-- The table of chargers is correct for a number of circuits. -/
structure GroupState.TablaCorrecta (s : GroupState) (circuitNumber : Nat) : Prop where
  acotada : s.chargerNumber ≤ maxGroupSize
  distintos : Distintos s.chargerTable s.chargerNumber
  cableado : ∀ i, i < s.chargerNumber → (s.chargerTable i).Cableado circuitNumber

/-- The tables of chargers and of circuits are correct. -/
structure GroupState.BienFormada (s : GroupState) : Prop where
  circuitos : s.circuitNumber ≤ maxGroupSize
  tabla : s.TablaCorrecta s.circuitNumber

/-- The state has the chargers and circuits of another, with the same names,
phases and circuits. -/
structure GroupState.MismaTabla (before after : GroupState) : Prop where
  chargerNumber : after.chargerNumber = before.chargerNumber
  circuitNumber : after.circuitNumber = before.circuitNumber
  params : after.params = before.params
  name : ∀ i, (after.chargerTable i).name = (before.chargerTable i).name
  fase : ∀ i, (after.chargerTable i).fase = (before.chargerTable i).fase
  circuito : ∀ i, (after.chargerTable i).circuito = (before.chargerTable i).circuito

namespace GroupState

variable {before after : GroupState} {circuitNumber : Nat}

theorem TablaCorrecta.congr (correct : before.TablaCorrecta circuitNumber)
    (same : before.MismaTabla after) : after.TablaCorrecta circuitNumber where
  acotada := same.chargerNumber.trans_le correct.acotada
  distintos i j belowI belowJ named := by
    rw [same.chargerNumber] at belowI belowJ
    rw [same.name, same.name] at named
    exact correct.distintos i j belowI belowJ named
  cableado i below := by
    rw [same.chargerNumber] at below
    exact (CaracCharger.cableado_congr (same.fase i) (same.circuito i)).mpr
      (correct.cableado i below)

theorem BienFormada.congr (formed : before.BienFormada) (same : before.MismaTabla after) :
    after.BienFormada where
  circuitos := same.circuitNumber.trans_le formed.circuitos
  tabla := same.circuitNumber ▸ formed.tabla.congr same

/-- The indices that group control computes are in range. -/
theorem BienFormada.indices (formed : before.BienFormada) {i : Nat}
    (below : i < before.chargerNumber) :
    (before.chargerTable i).circuitoIdx < maxGroupSize ∧ (before.chargerTable i).faseA < 3 :=
  have wired := formed.tabla.cableado i below
  ⟨wired.circuitoIdx_lt.trans_le formed.circuitos, wired.faseA_lt⟩

end GroupState

/-! ## Steps that keep the table -/

theorem broadcastAGrupo_mismaTabla (e : Equipo) :
    e.grupo.MismaTabla (broadcastAGrupo e).grupo := by
  rcases broadcastAGrupo_spec e with ⟨rest, table⟩
  constructor
  · rw [rest]
  · rw [rest]
  · rw [rest]
  all_goals
    intro i
    rcases table i with ⟨ip, same⟩
    rw [same]

/-! ## The rotation -/

/-- What every caller of the rotation copies from the record it moves. -/
structure Conserva (restaurar : CaracCharger → CaracCharger → CaracCharger) : Prop where
  name : ∀ oldMaster slot, (reubicar restaurar oldMaster slot).name = oldMaster.name
  fase : ∀ oldMaster slot, (reubicar restaurar oldMaster slot).fase = oldMaster.fase
  circuito : ∀ oldMaster slot, (reubicar restaurar oldMaster slot).circuito = oldMaster.circuito

theorem conserva_restaurarTodo : Conserva restaurarTodo :=
  ⟨fun _ _ => rfl, fun _ _ => rfl, fun _ _ => rfl⟩

theorem conserva_restaurarMedidas : Conserva restaurarMedidas :=
  ⟨fun _ _ => rfl, fun _ _ => rfl, fun _ _ => rfl⟩

theorem conserva_restaurarCableado : Conserva restaurarCableado :=
  ⟨fun _ _ => rfl, fun _ _ => rfl, fun _ _ => rfl⟩

section Rotacion

variable {restaurar : CaracCharger → CaracCharger → CaracCharger} {e : Equipo}
  {circuitNumber : Nat}

theorem tablaCorrecta_maestroPrimero (keeps : Conserva restaurar)
    (correct : e.grupo.TablaCorrecta circuitNumber) (present : e.lugar.isSome = true) :
    (e.conTabla (maestroPrimero restaurar e.deviceId e.grupo.chargerTable
      e.grupo.chargerNumber)).grupo.TablaCorrecta circuitNumber := by
  rcases Option.isSome_iff_exists.mp present with ⟨rounds, found⟩
  have below := (checkInGroup_eq_some_iff.mp found).1
  rw [maestroPrimero_eq keeps.name correct.acotada correct.distintos found]
  refine ⟨correct.acotada, distintos_rotate_iterate keeps.name correct.distintos below, ?_⟩
  intro i inside
  refine (CaracCharger.cableado_congr ?_ ?_).mpr
    (correct.cableado ((i + rounds) % e.grupo.chargerNumber) (Nat.mod_lt _ (by omega)))
  · exact rotate_iterate_observe CaracCharger.fase keeps.fase below inside
  · exact rotate_iterate_observe CaracCharger.circuito keeps.circuito below inside

theorem tablaCorrecta_ponermePrimero (keeps : Conserva restaurar)
    (correct : e.grupo.TablaCorrecta circuitNumber) :
    (ponermePrimero restaurar e).grupo.TablaCorrecta circuitNumber := by
  unfold ponermePrimero
  split_ifs with elsewhere present
  · exact tablaCorrecta_maestroPrimero keeps correct present.2
  · exact correct
  · exact correct

theorem ponermePrimero_circuitNumber :
    (ponermePrimero restaurar e).grupo.circuitNumber = e.grupo.circuitNumber := by
  unfold ponermePrimero
  split_ifs <;> rfl

end Rotacion

/-! ## Lists -/

/-- The list names at most forty chargers, each once and on an existing phase of
one of `circuitNumber` circuits. -/
structure ListaGrupo.Valida (lista : ListaGrupo) (circuitNumber : Nat) : Prop
    extends lista.Nombra where
  cableado : ∀ i, i < lista.n → 1 ≤ (lista.valor i &&& 3).toNat ∧
    1 ≤ (lista.valor i >>> 2).toNat ∧ (lista.valor i >>> 2).toNat ≤ circuitNumber

instance (lista : ListaGrupo) (circuitNumber : Nat) : Decidable (lista.Valida circuitNumber) :=
  decidable_of_iff
    (lista.Nombra ∧ ∀ i, i < lista.n → 1 ≤ (lista.valor i &&& 3).toNat ∧
      1 ≤ (lista.valor i >>> 2).toNat ∧ (lista.valor i >>> 2).toNat ≤ circuitNumber)
    ⟨fun ⟨names, wired⟩ => ⟨names, wired⟩, fun valid => ⟨valid.toNombra, valid.cableado⟩⟩

section Listas

variable {e : Equipo} {lista other : ListaGrupo} {circuitNumber : Nat}

/-- A list is as valid as one with the same entries. -/
theorem ListaGrupo.Valida.congr (valid : lista.Valida circuitNumber)
    (same : other.n = lista.n ∧
      ∀ i, i < lista.n → other.id i = lista.id i ∧ other.valor i = lista.valor i) :
    other.Valida circuitNumber where
  acotada := same.1.trans_le valid.acotada
  distintos i j belowI belowJ named := by
    rw [same.1] at belowI belowJ
    rw [(same.2 i belowI).1, (same.2 j belowJ).1] at named
    exact valid.distintos i j belowI belowJ named
  cableado i below := by
    rw [same.1] at below
    rw [(same.2 i below).2]
    exact valid.cableado i below

/-- The byte of a charger on a phase of some circuit is not zero. -/
theorem ListaGrupo.Valida.sinCeros (valid : lista.Valida circuitNumber)
    (texto : lista.NombresDeTexto) : lista.SinCeros := by
  refine ⟨texto, fun i below zero => ?_⟩
  have fase := (valid.cableado i below).1
  rw [zero] at fase
  exact absurd fase (by decide)

theorem distintos_conLista (names : lista.Nombra) :
    Distintos (e.conLista lista).grupo.chargerTable lista.n := by
  intro i j belowI belowJ named
  simp only [Equipo.conLista, belowI, belowJ, if_true, Equipo.cargado_name] at named
  exact names.distintos i j belowI belowJ named

theorem tablaCorrecta_conLista (valid : lista.Valida circuitNumber) :
    (e.conLista lista).grupo.TablaCorrecta circuitNumber where
  acotada := valid.acotada
  distintos := distintos_conLista valid.toNombra
  cableado i below := by
    change i < lista.n at below
    rcases valid.cableado i below with ⟨fase, circuito⟩
    simp only [Equipo.conLista, below, if_true]
    constructor
    · rw [Equipo.cargado_fase]
      refine ⟨fase, ?_⟩
      rw [UInt8.toNat_and]
      exact Nat.and_le_right
    · rw [Equipo.cargado_circuito]
      exact circuito

theorem newGroup_of_valida {m : MensajeChargers} (valid : m.lista.Valida circuitNumber) :
    ∃ after, newGroup m e = some after ∧ after.grupo.circuitNumber = e.grupo.circuitNumber ∧
      (0 < m.dataSize → after.grupo.TablaCorrecta circuitNumber) := by
  unfold newGroup
  by_cases empty : m.dataSize ≤ 0
  · rw [if_pos empty]
    exact ⟨e, rfl, rfl, fun positive => absurd positive (by omega)⟩
  · rw [if_neg empty, cargarLista_eq valid.toNombra]
    have correct := tablaCorrecta_conLista (e := e) valid
    refine ⟨_, rfl, ?_, fun _ => ?_⟩
    · unfold storeGroupInMem
      dsimp only
      split_ifs
      · rw [ponermePrimero_circuitNumber, avisarFuera_grupo]
        rfl
      · rw [avisarFuera_grupo]
        rfl
      · rfl
    · unfold storeGroupInMem
      dsimp only
      rw [← avisarFuera_grupo] at correct
      split_ifs
      · exact tablaCorrecta_ponermePrimero conserva_restaurarTodo correct
      · exact correct
      · rw [avisarFuera_grupo] at correct
        exact correct

theorem getStoredGroupData_of_valida {b : GrupoGuardado} (valid : b.lista.Valida circuitNumber) :
    ∃ after, getStoredGroupData b e = some after ∧
      after.grupo.circuitNumber = e.grupo.circuitNumber ∧
      after.grupo.TablaCorrecta circuitNumber := by
  unfold getStoredGroupData
  rw [cargarLista_eq valid.toNombra]
  have correct := tablaCorrecta_conLista (e := e) valid
  rw [← avisarFuera_grupo] at correct
  refine ⟨_, rfl, ?_⟩
  unfold ordenarGuardado
  dsimp only
  split_ifs
  · have same := broadcastAGrupo_mismaTabla
      (ponermePrimero restaurarMedidas (avisarFuera (e.conLista b.lista)))
    refine ⟨?_, (tablaCorrecta_ponermePrimero conserva_restaurarMedidas correct).congr same⟩
    rw [same.circuitNumber, ponermePrimero_circuitNumber, avisarFuera_grupo]
    rfl
  · exact ⟨by rw [avisarFuera_grupo]; rfl, correct⟩

/-- No charger of the group is on a circuit beyond `size`. -/
def Equipo.Abarca (e : Equipo) (size : Nat) : Prop :=
  size ≤ maxGroupSize ∧
    ∀ i, i < e.grupo.chargerNumber → (e.grupo.chargerTable i).circuito.toNat ≤ size

theorem cargarCircuitos_of_abarca {size : Nat} {limites : Nat → UInt8}
    (formed : e.grupo.BienFormada) (covers : e.Abarca size) :
    ∃ after, cargarCircuitos size limites e = some after ∧ after.grupo.BienFormada := by
  unfold cargarCircuitos
  rw [if_pos covers.1]
  refine ⟨_, rfl, covers.1, formed.tabla.acotada, formed.tabla.distintos, fun i below => ?_⟩
  have wired := formed.tabla.cableado i below
  exact ⟨wired.fase, wired.circuito.1, covers.2 i below⟩

end Listas

/-! ## Everything that changes the tables -/

/-- What changes the tables, and the role of the device, which decides what it
does with a list. -/
inductive MensajeGrupo
  /-- A `CHARGERS` message. -/
  | chargers (m : MensajeChargers)
  /-- A `CIRCUITS` message. -/
  | circuits (m : MensajeCircuits)
  /-- A list of circuits over Bluetooth. -/
  | bleCircuits (payload : Nat → UInt8)
  /-- A list of chargers over Bluetooth. -/
  | bleGrupo (payload previo heap : Nat → UInt8) (pila : List UInt8)
  /-- The stored lists are loaded. -/
  | flash (b : GrupoGuardado) (guardados : Nat → UInt8)
  /-- A presence packet. -/
  | presencia (id : Name) (remoteIP : UInt32)
  /-- The server starts and puts the master first. -/
  | arrancarServidor (otroMaestro : Option Nat)
  /-- The order to delete the group. -/
  | borrar
  /-- The parameters change, or the device joins or leaves. -/
  | papel (params : CaracGroupParams) (conected : Bool)

/-- The effect of a message; `none` when it writes outside its array. -/
def MensajeGrupo.aplicar (e : Equipo) : MensajeGrupo → Option Equipo
  | .chargers m => newGroup m e
  | .circuits m => newCircuit m e
  | .bleCircuits payload => Group.bleCircuits payload e
  | .bleGrupo payload previo heap pila => Group.bleGrupo payload previo heap pila e
  | .flash b guardados => cargarFlash b guardados e
  | .presencia id remoteIP => some (Group.presencia id remoteIP e)
  | .arrancarServidor otroMaestro => some (coapStartServer otroMaestro e)
  | .borrar => some (newControlDelete e)
  | .papel params conected => some { e with
      grupo := { e.grupo with params := params }, conected := conected }

/-- The condition on a message: a list of chargers is valid for the circuits there
are, or that are loaded with it, and a list of circuits covers the chargers.  In a list
written over Bluetooth, moreover, no name has a zero, and what lies behind the two digits
of its number on the stack does not go on with it. -/
def mensajeValido (e : Equipo) : MensajeGrupo → Prop
  | .chargers m => m.lista.Valida e.grupo.circuitNumber
  | .circuits m => e.esMaestro = true → e.Abarca m.size
  | .bleCircuits payload => e.Abarca (payload 0).toNat
  | .bleGrupo payload _ _ pila =>
      (listaBle payload).Valida e.grupo.circuitNumber ∧ (listaBle payload).NombresDeTexto ∧
        limiteLeido pila (listaBle payload).n = (listaBle payload).n
  | .flash b guardados =>
      (guardados 0).toNat ≤ maxGroupSize ∧ b.lista.Valida (guardados 0).toNat
  | _ => True

/-- The device before anything has been received or loaded. -/
structure Equipo.Vacio (e : Equipo) : Prop where
  cargadores : e.grupo.chargerNumber = 0
  circuitos : e.grupo.circuitNumber = 0

section Pasos

variable {e : Equipo}

theorem bienFormada_broadcastAGrupo (formed : e.grupo.BienFormada) :
    (broadcastAGrupo e).grupo.BienFormada :=
  formed.congr (broadcastAGrupo_mismaTabla e)

theorem bienFormada_presencia (formed : e.grupo.BienFormada) (id : Name) (remoteIP : UInt32) :
    (presencia id remoteIP e).grupo.BienFormada := by
  unfold presencia
  dsimp only
  split_ifs
  · exact formed
  · exact bienFormada_broadcastAGrupo formed
  · exact formed

/-- Starting the server only reorders the table. -/
theorem bienFormada_coapStartServer (formed : e.grupo.BienFormada)
    (otroMaestro : Option Nat) : (coapStartServer otroMaestro e).grupo.BienFormada := by
  have start : e.comoMaestro.grupo.BienFormada := by
    unfold Equipo.comoMaestro
    dsimp only
    split_ifs
    · exact formed
    · exact ⟨formed.circuitos, formed.tabla.acotada, formed.tabla.distintos,
        formed.tabla.cableado⟩
  have asked : ∀ rounds, (forUpTo rounds (fun _ => broadcastAGrupo)
      e.comoMaestro).grupo.BienFormada := fun rounds =>
    forUpTo_induction (fun _ (current : Equipo) => current.grupo.BienFormada) start
      fun _ _ _ kept => bienFormada_broadcastAGrupo kept
  unfold coapStartServer
  dsimp only
  cases otroMaestro with
  | some round =>
      have kept := asked (round + 1)
      exact ⟨kept.circuitos, kept.tabla.acotada, kept.tabla.distintos, kept.tabla.cableado⟩
  | none =>
      have kept := asked 10
      dsimp only
      split_ifs with present
      · apply bienFormada_broadcastAGrupo
        exact ⟨kept.circuitos,
          tablaCorrecta_maestroPrimero conserva_restaurarCableado kept.tabla present.2⟩
      · exact ⟨kept.circuitos, kept.tabla.acotada, kept.tabla.distintos, kept.tabla.cableado⟩

theorem newControlDelete_chargerNumber : (newControlDelete e).grupo.chargerNumber = 0 := by
  unfold newControlDelete removeGroup Equipo.conTabla
  dsimp only
  split_ifs with some
  · rfl
  · exact Nat.eq_zero_of_not_pos some

/-- A message that meets the condition stays within the arrays and keeps the
tables correct. -/
theorem bienFormada_aplicar (formed : e.grupo.BienFormada) {m : MensajeGrupo}
    (valid : mensajeValido e m) :
    ∃ after, m.aplicar e = some after ∧ after.grupo.BienFormada := by
  cases m with
  | chargers m =>
      obtain ⟨after, loaded, circuits, correct⟩ := newGroup_of_valida (e := e) valid
      refine ⟨after, loaded, ?_⟩
      by_cases empty : m.dataSize ≤ 0
      · unfold newGroup at loaded
        rw [if_pos empty] at loaded
        obtain rfl := Option.some.inj loaded
        exact formed
      · exact ⟨circuits.trans_le formed.circuitos, circuits ▸ correct (by omega)⟩
  | circuits m =>
      unfold MensajeGrupo.aplicar newCircuit
      dsimp only
      split_ifs with empty master
      · exact ⟨e, rfl, formed⟩
      · exact cargarCircuitos_of_abarca formed (valid master)
      · exact ⟨e, rfl, formed⟩
  | bleCircuits payload =>
      obtain ⟨after, loaded, kept⟩ := @cargarCircuitos_of_abarca e _
        (fun i => payload (i + 1)) formed valid
      unfold MensajeGrupo.aplicar Group.bleCircuits
      dsimp only
      rw [loaded]
      exact ⟨_, rfl, kept.circuitos, kept.tabla.acotada, kept.tabla.distintos,
        kept.tabla.cableado⟩
  | bleGrupo payload previo heap pila =>
      obtain ⟨listed, texto, number⟩ := valid
      have read : (GrupoGuardado.lista ⟨grupoBle payload previo heap, pila⟩).Valida
          e.grupo.circuitNumber :=
        listed.congr (lista_grupoBle listed.acotada (listed.sinCeros texto) number)
      obtain ⟨after, loaded, circuits, correct⟩ := getStoredGroupData_of_valida (e := e) read
      unfold MensajeGrupo.aplicar Group.bleGrupo
      dsimp only
      rw [loaded]
      exact ⟨_, rfl, circuits.trans_le formed.circuitos, circuits ▸ correct⟩
  | flash b guardados =>
      rcases valid with ⟨few, valid⟩
      obtain ⟨after, loaded, _, correct⟩ := getStoredGroupData_of_valida (e := e) valid
      unfold MensajeGrupo.aplicar cargarFlash getStoredGroupCircuits cargarCircuitos
      dsimp only
      rw [loaded, Option.bind_some, if_pos few]
      exact ⟨_, rfl, few, correct.acotada, correct.distintos, correct.cableado⟩
  | presencia id remoteIP => exact ⟨_, rfl, bienFormada_presencia formed id remoteIP⟩
  | arrancarServidor otroMaestro => exact ⟨_, rfl, bienFormada_coapStartServer formed otroMaestro⟩
  | borrar =>
      have empty := @newControlDelete_chargerNumber e
      refine ⟨_, rfl, formed.circuitos, ?_, fun i j below => ?_, fun i below => ?_⟩
      · rw [empty]
        exact Nat.zero_le _
      · rw [empty] at below
        exact absurd below (Nat.not_lt_zero i)
      · rw [empty] at below
        exact absurd below (Nat.not_lt_zero i)
  | papel params conected =>
      exact ⟨_, rfl, formed.circuitos, formed.tabla.acotada, formed.tabla.distintos,
        formed.tabla.cableado⟩

end Pasos

/-- A device without a group. -/
def equipoVacio : Equipo where
  grupo := GroupState.inicio (.conPotencia 60) [] []
  deviceId := fun _ => 'A'.toUInt8
  conected := false
  deleteOrder := false
  stopOrder := false
  sendNewGroup := false
  sendNewCircuits := false
  netGroup := fun _ => CaracCharger.default
  netGroupSize := 0

/-- A message with one charger on phase 0 of circuit 0. -/
def mensajeSinFase : MensajeChargers :=
  .deTexto (['0', '1'] ++ List.replicate 8 'A' ++ ['0', '0', '0'])

/-- The device after that message. -/
def equipoSinFase : Equipo :=
  (newGroup mensajeSinFase equipoVacio).getD equipoVacio

/-- A stored list with one charger on phase 1 of circuit 1. -/
def grupoDeUno : GrupoGuardado where
  group i := ((['0', '1'] ++ List.replicate 8 'A' ++ [Char.ofNat 5]).map Char.toUInt8).getD i 0
  pila := []

/-- The device once that list and a circuit of 32 A have been loaded. -/
def equipoCargado : Equipo :=
  (cargarFlash grupoDeUno (fun i => [1, 32].getD i 0) equipoVacio).getD equipoVacio

end VeltiumCharger.Group
