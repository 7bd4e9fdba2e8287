import VeltiumCharger.Group.NewGroup

/-!
# Emptying a table

`remove_group` takes a table and its size, as the other operations of
`Gestion_Grupo.cpp` do, but its loop writes into `charger_table`.  The network is
closed with a call for `net_group`, and the group is deleted with one for
`charger_table`.
-/

namespace VeltiumCharger.Group

open VeltiumCharger.Loop

/-- The table a call is for. -/
inductive Tabla
  | chargerTable
  | netGroup
  deriving DecidableEq, Repr

/-- A table of the device and its size. -/
def Equipo.tabla (e : Equipo) : Tabla → (Nat → CaracCharger) × Nat
  | .chargerTable => (e.grupo.chargerTable, e.grupo.chargerNumber)
  | .netGroup => (e.netGroup, e.netGroupSize)

/-- `remove_group` of a table and its own size. -/
def Equipo.removeGroup (e : Equipo) : Tabla → Equipo
  | .chargerTable => e.conTabla (Group.removeGroup e.grupo.chargerTable e.grupo.chargerNumber)
  | .netGroup =>
    let g := Group.removeGroup e.grupo.chargerTable e.netGroupSize
    { e with grupo := { e.grupo with chargerTable := g.1 }, netGroupSize := g.2 }

/-- `close_udp` -/
def closeUdp (e : Equipo) : Equipo :=
  { e.removeGroup .netGroup with netGroupSize := 0 }

/-- The record has neither a name nor an address. -/
def CaracCharger.Borrado (charger : CaracCharger) : Prop :=
  (charger.name = fun _ => 0) ∧ charger.ip = inaddrNone

/-- The record is as `remove_group` leaves it. -/
def CaracCharger.Libre (charger : CaracCharger) : Prop :=
  charger.Borrado ∧ charger.fase = 1 ∧ charger.circuito = 0

/-- What is promised of `remove_group`: the size of the table is zero, its records are
cleared, and nothing else changes. -/
structure VaciaSolo (destino : Tabla) (e despues : Equipo) : Prop where
  size : (despues.tabla destino).2 = 0
  borrados : ∀ j, j < (e.tabla destino).2 → ((despues.tabla destino).1 j).Borrado
  resto : ∀ j, (e.tabla destino).2 ≤ j → (despues.tabla destino).1 j = (e.tabla destino).1 j
  otra : ∀ otra, otra ≠ destino → despues.tabla otra = e.tabla otra

/-- What is promised of `close_udp`: the table of the group stays, and so does whatever
follows from it. -/
structure Intacta (e despues : Equipo) : Prop where
  tabla : despues.grupo.chargerTable = e.grupo.chargerTable
  decisiones : ∀ eventos : List Evento,
    eventos.foldl Evento.aplicar despues.grupo = eventos.foldl Evento.aplicar e.grupo

/-- A record written by `remove_group`. -/
def CaracCharger.liberar (charger : CaracCharger) : CaracCharger :=
  { charger with ip := inaddrNone, fase := 1, circuito := 0, name := fun _ => 0 }

theorem CaracCharger.liberar_eq_iff {charger : CaracCharger} :
    charger.liberar = charger ↔ charger.Libre := by
  constructor
  · intro same
    rw [← same]
    exact ⟨⟨rfl, rfl⟩, rfl, rfl⟩
  · rintro ⟨⟨name, ip⟩, fase, circuito⟩
    unfold liberar
    rw [← name, ← ip, ← fase, ← circuito]

theorem removeGroup_fst (table : Nat → CaracCharger) (size j : Nat) :
    (removeGroup table size).1 j = if j < size then (table j).liberar else table j := by
  unfold removeGroup
  by_cases some : 0 < size
  · rw [if_pos some]
    exact forUpTo_update (fun _ => CaracCharger.liberar) size table j
  · rw [if_neg some, if_neg (by omega)]

theorem removeGroup_snd (table : Nat → CaracCharger) (size : Nat) :
    (removeGroup table size).2 = 0 := by
  unfold removeGroup
  split_ifs with some
  · rfl
  · exact Nat.eq_zero_of_not_pos some

/-- The slots that are written stay as they were exactly when they are free. -/
theorem removeGroup_fst_eq_iff {table : Nat → CaracCharger} {size : Nat} :
    (removeGroup table size).1 = table ↔ ∀ j, j < size → (table j).Libre := by
  constructor
  · intro same j below
    have slot := congrFun same j
    rw [removeGroup_fst, if_pos below] at slot
    exact CaracCharger.liberar_eq_iff.mp slot
  · intro free
    funext j
    rw [removeGroup_fst]
    split_ifs with below
    · exact CaracCharger.liberar_eq_iff.mpr (free j below)
    · rfl

section Llamadas

variable (e : Equipo)

/-- A call for the table of the group does what it should. -/
theorem vaciaSolo_chargerTable : VaciaSolo .chargerTable e (e.removeGroup .chargerTable) := by
  constructor
  case size => exact removeGroup_snd _ _
  case borrados =>
    intro j (below : j < e.grupo.chargerNumber)
    change ((removeGroup e.grupo.chargerTable e.grupo.chargerNumber).1 j).Borrado
    rw [removeGroup_fst, if_pos below]
    exact ⟨rfl, rfl⟩
  case resto =>
    intro j (beyond : e.grupo.chargerNumber ≤ j)
    change (removeGroup e.grupo.chargerTable e.grupo.chargerNumber).1 j = e.grupo.chargerTable j
    rw [removeGroup_fst, if_neg (Nat.not_lt.mpr beyond)]
  case otra =>
    intro otra different
    cases otra with
    | chargerTable => exact absurd rfl different
    | netGroup => rfl

/-- A call for the list of the network does so when there is nothing to do. -/
theorem vaciaSolo_netGroup_iff :
    VaciaSolo .netGroup e (e.removeGroup .netGroup) ↔
      ∀ j, j < e.netGroupSize → (e.netGroup j).Borrado ∧ (e.grupo.chargerTable j).Libre := by
  constructor
  · intro vacia
    have tabla : (removeGroup e.grupo.chargerTable e.netGroupSize).1 = e.grupo.chargerTable :=
      congrArg Prod.fst (vacia.otra .chargerTable Tabla.noConfusion)
    exact fun j below => ⟨vacia.borrados j below, removeGroup_fst_eq_iff.mp tabla j below⟩
  · intro nada
    constructor
    case size => exact removeGroup_snd _ _
    case borrados => exact fun j below => (nada j below).1
    case resto => exact fun _ _ => rfl
    case otra =>
      intro otra different
      cases otra with
      | chargerTable =>
          have tabla := removeGroup_fst_eq_iff.mpr fun j below => (nada j below).2
          exact Prod.ext tabla rfl
      | netGroup => exact absurd rfl different

theorem intacta_closeUdp_iff :
    Intacta e (closeUdp e) ↔ ∀ j, j < e.netGroupSize → (e.grupo.chargerTable j).Libre := by
  constructor
  · exact fun intacta => removeGroup_fst_eq_iff.mp intacta.tabla
  · intro libres
    have tabla := removeGroup_fst_eq_iff.mpr libres
    have grupo : (closeUdp e).grupo = e.grupo :=
      congrArg (fun table => { e.grupo with chargerTable := table }) tabla
    exact ⟨tabla, fun eventos => by rw [grupo]⟩

/-- A call for the table of the group empties it and nothing else; one for the list of
the network, and with it the end of the network, does so exactly when the slots it
writes are free. -/
theorem vaciado :
    (∀ destino, VaciaSolo destino e (e.removeGroup destino) ↔
      (destino = .netGroup → ∀ j, j < e.netGroupSize →
        (e.netGroup j).Borrado ∧ (e.grupo.chargerTable j).Libre)) ∧
    (Intacta e (closeUdp e) ↔
      ∀ j, j < e.netGroupSize → (e.grupo.chargerTable j).Libre) := by
  refine ⟨fun destino => ?_, intacta_closeUdp_iff e⟩
  cases destino with
  | chargerTable =>
      exact iff_of_true (vaciaSolo_chargerTable e) fun otra => Tabla.noConfusion otra
  | netGroup =>
      rw [vaciaSolo_netGroup_iff]
      exact ⟨fun nada _ => nada, fun nada => nada rfl⟩

end Llamadas

/-- A group of one charger that is charging, and another one on the network. -/
def grupoYVecino : Equipo where
  grupo := GroupState.inicio (.conPotencia 100)
    [{ CaracCharger.enEstado 'C' '2' 1 with name := fun _ => 1 }] [32]
  deviceId := fun _ => 1
  conected := true
  deleteOrder := false
  stopOrder := false
  sendNewGroup := false
  sendNewCircuits := false
  netGroup := fun _ => { CaracCharger.default with name := fun _ => 2, ip := 11 }
  netGroupSize := 1

/-- Closing the network takes the name of the charger away. -/
theorem grupoYVecino_sinNombre :
    ¬ VaciaSolo .netGroup grupoYVecino (grupoYVecino.removeGroup .netGroup) ∧
      ¬ Intacta grupoYVecino (closeUdp grupoYVecino) := by
  have conNombre : ¬ (grupoYVecino.grupo.chargerTable 0).Libre :=
    fun libre => absurd (congrFun libre.1.1 0) (by decide)
  constructor
  · exact fun vacia =>
      conNombre ((vaciaSolo_netGroup_iff grupoYVecino).mp vacia 0 (by decide)).2
  · exact fun intacta => conNombre ((intacta_closeUdp_iff grupoYVecino).mp intacta 0 (by decide))

end VeltiumCharger.Group
