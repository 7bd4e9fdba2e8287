import VeltiumCharger.Group.BienFormada

/-!
# State by identity

A new list of chargers rebuilds the table.  What a charger was doing is saved by
name, but not all of it: the admission order, the three-phase mark and the
request stay in the slot, and so do the currents of a slot that a new charger
takes over.
-/

namespace VeltiumCharger.Group

open VeltiumCharger.Loop VeltiumCharger.Rotate

/-- The fields that describe what a charger is doing. -/
structure CaracCharger.MismoEstado (a b : CaracCharger) : Prop where
  hpt : a.hpt = b.hpt
  current : a.current = b.current
  currentB : a.currentB = b.currentB
  currentC : a.currentC = b.currentC
  consigna : a.consigna = b.consigna
  delta : a.delta = b.delta
  deltaTimer : a.deltaTimer = b.deltaTimer
  order : a.order = b.order
  trifasico : a.trifasico = b.trifasico
  chargeReq : a.chargeReq = b.chargeReq

/-- A record added to a fresh slot. -/
def CaracCharger.nuevo : CaracCharger :=
  CaracCharger.default.alta (fun _ => 0) inaddrNone

/-- What the charger with a name was doing: its record, or that of a new one. -/
def Equipo.estadoPrevio (e : Equipo) (id : Name) : CaracCharger :=
  match checkInGroup id e.grupo.chargerTable e.grupo.chargerNumber with
  | none => .nuevo
  | some k => e.grupo.chargerTable k

/-- The table holds the listed chargers in their order, up to a rotation. -/
def Equipo.SigueLista (after : Equipo) (lista : ListaGrupo) : Prop :=
  after.grupo.chargerNumber = lista.n ∧
    ∃ rounds, ∀ i, i < lista.n →
      (after.grupo.chargerTable i).name = lista.id ((i + rounds) % lista.n)

/-- Each charger of the table goes on with what it was doing, or starts anew. -/
def Equipo.ConservaEstado (before after : Equipo) : Prop :=
  ∀ i, i < after.grupo.chargerNumber →
    (after.grupo.chargerTable i).MismoEstado
      (before.estadoPrevio (after.grupo.chargerTable i).name)

/-- The charger at place `i` of a list finds its admission order, its three-phase
mark and its request in slot `resto`, and, if it is new, no currents in slot
`i`. -/
structure Equipo.Coincide (e : Equipo) (lista : ListaGrupo) (resto i : Nat) : Prop where
  order : (e.grupo.chargerTable resto).order = (e.estadoPrevio (lista.id i)).order
  trifasico : (e.grupo.chargerTable resto).trifasico = (e.estadoPrevio (lista.id i)).trifasico
  chargeReq : (e.grupo.chargerTable resto).chargeReq = (e.estadoPrevio (lista.id i)).chargeReq
  corrientes : checkInGroup (lista.id i) e.grupo.chargerTable e.grupo.chargerNumber = none →
    (e.grupo.chargerTable i).currentB = 0 ∧ (e.grupo.chargerTable i).currentC = 0

instance (e : Equipo) (lista : ListaGrupo) (resto i : Nat) :
    Decidable (e.Coincide lista resto i) :=
  decidable_of_iff
    ((e.grupo.chargerTable resto).order = (e.estadoPrevio (lista.id i)).order ∧
      (e.grupo.chargerTable resto).trifasico = (e.estadoPrevio (lista.id i)).trifasico ∧
      (e.grupo.chargerTable resto).chargeReq = (e.estadoPrevio (lista.id i)).chargeReq ∧
      (checkInGroup (lista.id i) e.grupo.chargerTable e.grupo.chargerNumber = none →
        (e.grupo.chargerTable i).currentB = 0 ∧ (e.grupo.chargerTable i).currentC = 0))
    ⟨fun ⟨order, trifasico, chargeReq, corrientes⟩ => ⟨order, trifasico, chargeReq, corrientes⟩,
      fun same => ⟨same.order, same.trifasico, same.chargeReq, same.corrientes⟩⟩

/-! ## One record -/

section Registro

variable {e : Equipo} {lista : ListaGrupo} {i : Nat}

/-- What is not saved by name stays in the slot. -/
theorem Equipo.cargado_resto :
    (e.cargado lista i).order = (e.grupo.chargerTable i).order ∧
      (e.cargado lista i).trifasico = (e.grupo.chargerTable i).trifasico ∧
      (e.cargado lista i).chargeReq = (e.grupo.chargerTable i).chargeReq := by
  unfold cargado CaracCharger.listado
  cases checkInGroup (lista.id i) (tempChargers e.grupo) e.grupo.chargerNumber <;>
    dsimp only <;> split_ifs <;> exact ⟨rfl, rfl, rfl⟩

/-- What is saved by name comes back. -/
theorem Equipo.cargado_estado :
    ((e.cargado lista i).hpt = (e.estadoPrevio (lista.id i)).hpt ∧
      (e.cargado lista i).current = (e.estadoPrevio (lista.id i)).current ∧
      (e.cargado lista i).consigna = (e.estadoPrevio (lista.id i)).consigna ∧
      (e.cargado lista i).delta = (e.estadoPrevio (lista.id i)).delta ∧
      (e.cargado lista i).deltaTimer = (e.estadoPrevio (lista.id i)).deltaTimer) ∧
    ((e.cargado lista i).currentB = (e.estadoPrevio (lista.id i)).currentB ∧
        (e.cargado lista i).currentC = (e.estadoPrevio (lista.id i)).currentC ↔
      (checkInGroup (lista.id i) e.grupo.chargerTable e.grupo.chargerNumber = none →
        (e.grupo.chargerTable i).currentB = 0 ∧ (e.grupo.chargerTable i).currentC = 0)) := by
  unfold cargado CaracCharger.listado estadoPrevio
  rw [checkInGroup_tempChargers]
  cases found : checkInGroup (lista.id i) e.grupo.chargerTable e.grupo.chargerNumber with
  | none =>
      dsimp only
      split_ifs <;>
        exact ⟨⟨rfl, rfl, rfl, rfl, rfl⟩, ⟨fun same _ => same, fun same => same rfl⟩⟩
  | some k =>
      have saved := tempChargers_of_lt (checkInGroup_eq_some_iff.mp found).1
      dsimp only
      rw [saved]
      split_ifs <;>
        exact ⟨⟨rfl, rfl, rfl, rfl, rfl⟩, ⟨fun _ new => (nomatch new), fun _ => ⟨rfl, rfl⟩⟩⟩

/-- A record with what was saved of a listed charger, and the rest from slot
`resto`. -/
theorem mismoEstado_iff_coincide {charger : CaracCharger} {resto : Nat}
    (saved : charger.hpt = (e.cargado lista i).hpt ∧
      charger.current = (e.cargado lista i).current ∧
      charger.consigna = (e.cargado lista i).consigna ∧
      charger.delta = (e.cargado lista i).delta ∧
      charger.deltaTimer = (e.cargado lista i).deltaTimer ∧
      charger.currentB = (e.cargado lista i).currentB ∧
      charger.currentC = (e.cargado lista i).currentC)
    (kept : charger.order = (e.grupo.chargerTable resto).order ∧
      charger.trifasico = (e.grupo.chargerTable resto).trifasico ∧
      charger.chargeReq = (e.grupo.chargerTable resto).chargeReq) :
    charger.MismoEstado (e.estadoPrevio (lista.id i)) ↔ e.Coincide lista resto i := by
  obtain ⟨⟨hpt, current, consigna, delta, deltaTimer⟩, currents⟩ :=
    @Equipo.cargado_estado e lista i
  rcases saved with ⟨savedHpt, savedCurrent, savedConsigna, savedDelta, savedTimer, savedB, savedC⟩
  rcases kept with ⟨order, trifasico, chargeReq⟩
  constructor
  · intro same
    exact ⟨order ▸ same.order, trifasico ▸ same.trifasico, chargeReq ▸ same.chargeReq,
      currents.mp ⟨savedB ▸ same.currentB, savedC ▸ same.currentC⟩⟩
  · intro coincide
    rcases currents.mpr coincide.corrientes with ⟨currentB, currentC⟩
    exact
      { hpt := savedHpt.trans hpt
        current := savedCurrent.trans current
        currentB := savedB.trans currentB
        currentC := savedC.trans currentC
        consigna := savedConsigna.trans consigna
        delta := savedDelta.trans delta
        deltaTimer := savedTimer.trans deltaTimer
        order := order.trans coincide.order
        trifasico := trifasico.trans coincide.trifasico
        chargeReq := chargeReq.trans coincide.chargeReq }

end Registro

/-! ## The whole table -/

/-- How often the first charger of a list is moved to its end: until the device
comes first, if it is the master. -/
def Equipo.vueltas (e : Equipo) (lista : ListaGrupo) : Nat :=
  if e.esMaestro then
    (checkInGroup e.deviceId (fun i => { CaracCharger.default with name := lista.id i })
      lista.n).getD 0
  else 0

section Tabla

variable {e : Equipo} {lista : ListaGrupo}
  {restaurar : CaracCharger → CaracCharger → CaracCharger}

/-- Putting the master first rotates the table, if anything. -/
theorem ponermePrimero_grupo (keeps : Conserva restaurar)
    (bounded : e.grupo.chargerNumber ≤ maxGroupSize)
    (distintos : Distintos e.grupo.chargerTable e.grupo.chargerNumber) :
    (ponermePrimero restaurar e).grupo = { e.grupo with
      chargerTable := (rotate (reubicar restaurar) e.grupo.chargerNumber)^[e.lugar.getD 0]
        e.grupo.chargerTable } := by
  unfold ponermePrimero
  cases found : e.lugar with
  | none =>
      simp only [Option.isSome_none, Bool.false_eq_true, and_false, if_false, ite_self]
      rfl
  | some rounds =>
      rcases checkInGroup_eq_some_iff.mp found with ⟨below, named, first⟩
      by_cases elsewhere : (e.grupo.chargerTable 0).name = e.deviceId
      · obtain rfl : rounds = 0 := by
          by_contra later
          exact first 0 (Nat.pos_of_ne_zero later) elsewhere
        rw [if_neg (not_not.mpr elsewhere)]
        rfl
      · rw [if_pos elsewhere, if_pos ⟨by omega, rfl⟩,
          maestroPrimero_eq keeps.name bounded distintos found]
        rfl

theorem avisarFuera_esMaestro : (avisarFuera e).esMaestro = e.esMaestro := by
  rw [Equipo.esMaestro, avisarFuera_grupo]
  rfl

theorem avisarFuera_lugar : (avisarFuera e).lugar = e.lugar := by
  unfold avisarFuera
  split_ifs <;> rfl

theorem conLista_lugar :
    (e.conLista lista).lugar =
      checkInGroup e.deviceId (fun i => { CaracCharger.default with name := lista.id i })
        lista.n :=
  checkInGroup_congr fun j below => by
    change j < lista.n at below
    simp only [Equipo.conLista]
    rw [if_pos below, Equipo.cargado_name]

theorem vueltas_lt (some : 0 < lista.n) : e.vueltas lista < lista.n := by
  unfold Equipo.vueltas
  split_ifs
  · cases found : checkInGroup e.deviceId
        (fun i => { CaracCharger.default with name := lista.id i }) lista.n with
    | none => exact some
    | some rounds => exact (checkInGroup_eq_some_iff.mp found).1
  · exact some

/-- The table after loading a list, with the master first. -/
theorem tabla_conLista (keeps : Conserva restaurar) (names : lista.Nombra) :
    (if (avisarFuera (e.conLista lista)).esMaestro then
        ponermePrimero restaurar (avisarFuera (e.conLista lista))
      else avisarFuera (e.conLista lista)).grupo =
      { (e.conLista lista).grupo with
        chargerTable := (rotate (reubicar restaurar) lista.n)^[e.vueltas lista]
          (e.conLista lista).grupo.chargerTable } := by
  have distintos := distintos_conLista (e := e) names
  have sameRole : (e.conLista lista).esMaestro = e.esMaestro := rfl
  rw [avisarFuera_esMaestro, sameRole]
  unfold Equipo.vueltas
  split_ifs with master
  · rw [ponermePrimero_grupo keeps (by rw [avisarFuera_grupo]; exact names.acotada)
        (by rw [avisarFuera_grupo]; exact distintos),
      avisarFuera_lugar, avisarFuera_grupo, conLista_lugar]
    rfl
  · rw [avisarFuera_grupo]
    rfl

/-- With complete records the table is the list, rotated. -/
theorem rotate_restaurarTodo {rounds i : Nat} (below : rounds < lista.n) (inside : i < lista.n) :
    (rotate (reubicar restaurarTodo) lista.n)^[rounds] (e.conLista lista).grupo.chargerTable i =
      e.cargado lista ((i + rounds) % lista.n) := by
  have whole : ∀ x y, id (reubicar restaurarTodo x y) = id x := fun _ _ => rfl
  rw [← id_eq ((rotate _ _)^[_] _ i), rotate_iterate_observe id whole below inside]
  exact if_pos (Nat.mod_lt _ (by omega))

end Tabla

/-- `New_Group` follows the list, and each charger keeps its state exactly when
the part that is not saved is already in its slot. -/
theorem newGroup_conserva {e : Equipo} {m : MensajeChargers} (received : 0 < m.dataSize)
    (names : m.lista.Nombra) :
    ∃ after, newGroup m e = some after ∧ after.SigueLista m.lista ∧
      (e.ConservaEstado after ↔ ∀ i, i < m.lista.n → e.Coincide m.lista i i) := by
  unfold newGroup
  rw [if_neg (by omega), cargarLista_eq names]
  refine ⟨_, rfl, ?_⟩
  have grupo : (storeGroupInMem (e.conLista m.lista)).grupo = { (e.conLista m.lista).grupo with
      chargerTable := (rotate (reubicar restaurarTodo) m.lista.n)^[e.vueltas m.lista]
        (e.conLista m.lista).grupo.chargerTable } := by
    unfold storeGroupInMem
    split_ifs with someone
    · exact tabla_conLista conserva_restaurarTodo names
    · have nobody : m.lista.n = 0 := Nat.eq_zero_of_not_pos someone
      have still : e.vueltas m.lista = 0 := by
        unfold Equipo.vueltas
        rw [nobody]
        exact ite_self 0
      rw [still]
      rfl
  have table : ∀ i, i < m.lista.n →
      (storeGroupInMem (e.conLista m.lista)).grupo.chargerTable i =
        e.cargado m.lista ((i + e.vueltas m.lista) % m.lista.n) := by
    intro i below
    rw [grupo]
    exact rotate_restaurarTodo (vueltas_lt (by omega)) below
  have size : (storeGroupInMem (e.conLista m.lista)).grupo.chargerNumber = m.lista.n := by
    rw [grupo]
    rfl
  refine ⟨⟨size, e.vueltas m.lista, fun i below => ?_⟩, ?_⟩
  · rw [table i below, Equipo.cargado_name]
  · unfold Equipo.ConservaEstado
    rw [size]
    rcases Nat.eq_zero_or_pos m.lista.n with nobody | someone
    · simp [nobody]
    · rw [← @forall_rotated_iff _ _ (vueltas_lt (e := e) someone)
        (fun i => e.Coincide m.lista i i)]
      apply forall₂_congr
      intro i below
      rw [table i below, Equipo.cargado_name]
      exact mismoEstado_iff_coincide ⟨rfl, rfl, rfl, rfl, rfl, rfl, rfl⟩ Equipo.cargado_resto

section Guardado

variable {e : Equipo} {lista : ListaGrupo}

/-- The record moved keeps its measurements. -/
theorem medidas_reubicar (oldMaster slot : CaracCharger) :
    (reubicar restaurarMedidas oldMaster slot).hpt = oldMaster.hpt ∧
      (reubicar restaurarMedidas oldMaster slot).current = oldMaster.current ∧
      (reubicar restaurarMedidas oldMaster slot).consigna = oldMaster.consigna ∧
      (reubicar restaurarMedidas oldMaster slot).delta = oldMaster.delta ∧
      (reubicar restaurarMedidas oldMaster slot).deltaTimer = oldMaster.deltaTimer ∧
      (reubicar restaurarMedidas oldMaster slot).currentB = oldMaster.currentB ∧
      (reubicar restaurarMedidas oldMaster slot).currentC = oldMaster.currentC :=
  ⟨rfl, rfl, rfl, rfl, rfl, rfl, rfl⟩

/-- With measurements restored only, the chargers moved to the end take the rest
from the record that was last. -/
theorem rotate_restaurarMedidas {rounds i : Nat} (below : rounds < lista.n)
    (inside : i < lista.n) :
    (rotate (reubicar restaurarMedidas) lista.n)^[rounds]
        (e.conLista lista).grupo.chargerTable i =
      if i + rounds < lista.n then e.cargado lista (i + rounds)
      else reubicar restaurarMedidas (e.cargado lista (i + rounds - lista.n))
        (e.cargado lista (lista.n - 1)) := by
  have absorb : ∀ x y z, reubicar restaurarMedidas x (reubicar restaurarMedidas y z) =
      reubicar restaurarMedidas x z := fun _ _ _ => rfl
  have listed : ∀ j, j < lista.n →
      (e.conLista lista).grupo.chargerTable j = e.cargado lista j := fun j inside => if_pos inside
  rw [rotate_iterate absorb below inside]
  split_ifs with inner
  · exact listed _ inner
  · rw [listed _ (by omega), listed _ (by omega)]

/-- The table that `Get_Stored_Group_Data` leaves, up to addresses. -/
theorem ordenarGuardado_conLista (names : lista.Nombra) :
    (ordenarGuardado (e.conLista lista)).grupo.chargerNumber = lista.n ∧
      ∀ i, ∃ ip, (ordenarGuardado (e.conLista lista)).grupo.chargerTable i =
        { (rotate (reubicar restaurarMedidas) lista.n)^[e.vueltas lista]
            (e.conLista lista).grupo.chargerTable i with ip } := by
  have grupo := tabla_conLista (e := e) conserva_restaurarMedidas names
  unfold ordenarGuardado
  dsimp only
  split_ifs with master
  · rw [if_pos master] at grupo
    obtain ⟨rest, table⟩ := broadcastAGrupo_spec
      (ponermePrimero restaurarMedidas (avisarFuera (e.conLista lista)))
    rw [grupo] at rest table
    exact ⟨by rw [rest]; rfl, table⟩
  · rw [if_neg master] at grupo
    rw [grupo]
    exact ⟨rfl, fun i => ⟨_, rfl⟩⟩

/-- Loading the stored list does the same, but the chargers moved to the end to
put the master first find the rest of their state in the last slot. -/
theorem getStoredGroupData_conserva {b : GrupoGuardado} (names : b.lista.Nombra) :
    ∃ after, getStoredGroupData b e = some after ∧ after.SigueLista b.lista ∧
      (e.ConservaEstado after ↔ ∀ i, i < b.lista.n →
        e.Coincide b.lista (if i < e.vueltas b.lista then b.lista.n - 1 else i) i) := by
  obtain ⟨size, table⟩ := ordenarGuardado_conLista (e := e) names
  unfold getStoredGroupData
  rw [cargarLista_eq names, Option.map_some]
  have named : ∀ i, i < b.lista.n →
      ((ordenarGuardado (e.conLista b.lista)).grupo.chargerTable i).name =
      b.lista.id ((i + e.vueltas b.lista) % b.lista.n) := by
    intro i below
    rcases table i with ⟨ip, same⟩
    rw [same]
    dsimp only
    rw [rotate_iterate_observe CaracCharger.name conserva_restaurarMedidas.name
      (vueltas_lt (by omega)) below]
    simp only [Equipo.conLista]
    rw [if_pos (Nat.mod_lt _ (by omega)), Equipo.cargado_name]
  refine ⟨_, rfl, ⟨size, e.vueltas b.lista, named⟩, ?_⟩
  unfold Equipo.ConservaEstado
  rw [size]
  rcases Nat.eq_zero_or_pos b.lista.n with nobody | someone
  · simp [nobody]
  · have turns := vueltas_lt (e := e) someone
    rw [← @forall_rotated_iff _ _ turns (fun i =>
      e.Coincide b.lista (if i < e.vueltas b.lista then b.lista.n - 1 else i) i)]
    apply forall₂_congr
    intro i below
    rcases table i with ⟨ip, same⟩
    rw [named i below, same, rotate_restaurarMedidas turns below]
    by_cases inner : i + e.vueltas b.lista < b.lista.n
    · rw [if_pos inner, Nat.mod_eq_of_lt inner, if_neg (by omega)]
      exact mismoEstado_iff_coincide ⟨rfl, rfl, rfl, rfl, rfl, rfl, rfl⟩ Equipo.cargado_resto
    · have place : (i + e.vueltas b.lista) % b.lista.n =
          i + e.vueltas b.lista - b.lista.n := by
        rw [Nat.mod_eq_sub_mod (by omega), Nat.mod_eq_of_lt (by omega)]
      rw [if_neg inner, place, if_pos (by omega)]
      have medidas := medidas_reubicar
        (e.cargado b.lista (i + e.vueltas b.lista - b.lista.n)) (e.cargado b.lista (b.lista.n - 1))
      have resto := @Equipo.cargado_resto e b.lista (b.lista.n - 1)
      exact mismoEstado_iff_coincide medidas resto

end Guardado

/-- A list of at most forty chargers, each named once, is followed, whether it
is received or stored; and each charger of it keeps its state, or starts anew,
exactly when its slot already holds the part that is not saved by name. -/
theorem lista_conserva_estado (e : Equipo) :
    (∀ m : MensajeChargers, 0 < m.dataSize → m.lista.Nombra →
      ∃ after, newGroup m e = some after ∧ after.SigueLista m.lista ∧
        (e.ConservaEstado after ↔ ∀ i, i < m.lista.n → e.Coincide m.lista i i)) ∧
    ∀ b : GrupoGuardado, b.lista.Nombra →
      ∃ after, getStoredGroupData b e = some after ∧ after.SigueLista b.lista ∧
        (e.ConservaEstado after ↔ ∀ i, i < b.lista.n →
          e.Coincide b.lista (if i < e.vueltas b.lista then b.lista.n - 1 else i) i) :=
  ⟨fun _ received names => newGroup_conserva received names,
    fun _ names => getStoredGroupData_conserva names⟩

/-- A group of two chargers, `A` admitted before `B`. -/
def dosAdmitidos : Equipo :=
  { equipoVacio with
    grupo := GroupState.inicio (.conPotencia 60)
      [{ CaracCharger.enEstado 'C' '2' 1 with name := fun _ => 'A'.toUInt8 },
        { CaracCharger.enEstado 'C' '2' 2 with name := fun _ => 'B'.toUInt8 }] [32] }

/-- A message with two chargers on phase 1 of circuit 1. -/
def mensajeDeDos (x y : Char) : MensajeChargers :=
  .deTexto (['0', '2'] ++ List.replicate 8 x ++ ['0', '0', '5'] ++
    List.replicate 8 y ++ ['0', '0', '5'])

/-- Listing the two the other way round exchanges their admission orders. -/
theorem dosAdmitidos_cambiados :
    (mensajeDeDos 'B' 'A').lista.Nombra ∧
      ∃ after, newGroup (mensajeDeDos 'B' 'A') dosAdmitidos = some after ∧
        ¬ dosAdmitidos.ConservaEstado after := by
  have names : (mensajeDeDos 'B' 'A').lista.Nombra := by decide
  obtain ⟨after, received, _, conserves⟩ :=
    newGroup_conserva (e := dosAdmitidos) (m := mensajeDeDos 'B' 'A') (by decide) names
  refine ⟨names, after, received, fun kept => ?_⟩
  exact absurd (conserves.mp kept 0 (by decide)) (by decide)

/-- A stored list with two chargers on phase 1 of circuit 1. -/
def guardadoDeDos (x y : Char) : GrupoGuardado where
  group i := ((['0', '2'] ++ List.replicate 8 x ++ [Char.ofNat 5] ++
    List.replicate 8 y ++ [Char.ofNat 5]).map Char.toUInt8).getD i 0
  pila := []

theorem dosAdmitidos_iguales :
    (∃ after, newGroup (mensajeDeDos 'A' 'B') dosAdmitidos = some after ∧
      dosAdmitidos.ConservaEstado after) ∧
    ∃ after, getStoredGroupData (guardadoDeDos 'A' 'B') dosAdmitidos = some after ∧
      dosAdmitidos.ConservaEstado after := by
  have both := lista_conserva_estado dosAdmitidos
  obtain ⟨received, taken, _, conserves⟩ :=
    both.1 (mensajeDeDos 'A' 'B') (by decide) (by decide)
  rcases both.2 (guardadoDeDos 'A' 'B') (by decide) with ⟨stored, loaded, _, conserves'⟩
  exact ⟨⟨received, taken, conserves.mpr (by decide)⟩,
    ⟨stored, loaded, conserves'.mpr (by decide)⟩⟩

end VeltiumCharger.Group
