import Mathlib.Data.Nat.ModEq
import VeltiumCharger.Group.Tipos
import VeltiumCharger.Library.Loop
import VeltiumCharger.Library.Rotate

/-!
# Tables of chargers

The operations of `Gestion_Grupo.cpp` on a table and its size: the charging
group `charger_table` and the list `net_group` of the chargers seen on the
network.
-/

namespace VeltiumCharger.Group

open VeltiumCharger.Loop VeltiumCharger.Rotate

/-- `memcmp` of two names. -/
instance : DecidableEq Name :=
  fun first second => decidable_of_iff (∀ i, first i = second i) funext_iff.symm

/-- `check_in_group`: the first index below `size` with the given name. -/
def checkInGroup (id : Name) (group : Nat → CaracCharger) (size : Nat) : Option Nat :=
  (List.range size).find? fun j => decide ((group j).name = id)

section CheckInGroup

variable {id : Name} {group : Nat → CaracCharger} {size : Nat}

theorem checkInGroup_eq_none_iff :
    checkInGroup id group size = none ↔ ∀ j, j < size → (group j).name ≠ id := by
  simp [checkInGroup, List.find?_eq_none]

/-- The index found is in the table and has the name, and no earlier one has. -/
theorem checkInGroup_eq_some_iff {j : Nat} :
    checkInGroup id group size = some j ↔
      j < size ∧ (group j).name = id ∧ ∀ k, k < j → (group k).name ≠ id := by
  unfold checkInGroup
  rw [List.find?_range_eq_some]
  simp only [decide_eq_true_eq, List.mem_range, decide_eq_false_iff_not, Bool.not_eq_true']
  constructor
  · rintro ⟨named, below, first⟩
    exact ⟨below, named, first⟩
  · rintro ⟨below, named, first⟩
    exact ⟨named, below, first⟩

end CheckInGroup

/-- No two chargers of a table have the same name. -/
def Distintos (group : Nat → CaracCharger) (size : Nat) : Prop :=
  ∀ i j, i < size → j < size → (group i).name = (group j).name → i = j

instance (group : Nat → CaracCharger) (size : Nat) : Decidable (Distintos group size) :=
  decidable_of_iff
    (∀ i, i < size → ∀ j, j < size → (group i).name = (group j).name → i = j)
    ⟨fun apart i j belowI belowJ => apart i belowI j belowJ,
      fun apart i belowI j belowJ => apart i j belowI belowJ⟩

/-- With distinct names a charger is found where it is. -/
theorem Distintos.checkInGroup_name {group : Nat → CaracCharger} {size i : Nat}
    (distintos : Distintos group size) (below : i < size) :
    checkInGroup (group i).name group size = some i := by
  rw [checkInGroup_eq_some_iff]
  refine ⟨below, rfl, fun k earlier same => ?_⟩
  exact absurd (distintos k i (earlier.trans below) below same) (Nat.ne_of_lt earlier)

/-! ## Adding and removing -/

/-- What `add_to_group` writes into a slot; the other fields keep what the slot
held. -/
def CaracCharger.alta (id : Name) (ip : UInt32) (slot : CaracCharger) : CaracCharger :=
  { slot with
    name := id, ip := ip, hpt := .ofText '0' '0', current := 0, conected := false
    delta := 0, deltaTimer := 0, circuito := 0, consigna := 0, period := 0 }

/-- `add_to_group`. -/
def addToGroup (id : Name) (ip : UInt32) (group : Nat → CaracCharger) (size : Nat) :
    (Nat → CaracCharger) × Nat :=
  if size < maxGroupSize then
    match checkInGroup id group size with
    | none => (Function.update group size ((group size).alta id ip), size + 1)
    | some _ => (group, size)
  else (group, size)

/-- What `remove_from_group` clears in the slot that becomes free. -/
def CaracCharger.vaciar (slot : CaracCharger) : CaracCharger :=
  { slot with ip := inaddrNone, name := fun _ => 0 }

/-- The shift of `remove_from_group`. -/
def desplazar (j : Nat) (group : Nat → CaracCharger) (size : Nat) : Nat → CaracCharger :=
  forUpTo (size - 1 - j) (fun k group => Function.update group (j + k) (group (j + k + 1))) group

/-- `remove_from_group`. -/
def removeFromGroup (id : Name) (group : Nat → CaracCharger) (size : Nat) :
    (Nat → CaracCharger) × Nat :=
  match checkInGroup id group size with
  | none => (group, size)
  | some j =>
      let group := if j ≠ size - 1 then desplazar j group size else group
      (Function.update group (size - 1) (group (size - 1)).vaciar, size - 1)

/-- `remove_group`: whatever table it is called for, it clears the slots of
`charger_table`. -/
def removeGroup (chargerTable : Nat → CaracCharger) (size : Nat) :
    (Nat → CaracCharger) × Nat :=
  if 0 < size then
    (forUpTo size (fun j table => Function.update table j
      { table j with ip := inaddrNone, fase := 1, circuito := 0, name := fun _ => 0 })
      chargerTable, 0)
  else (chargerTable, size)

/-- `get_IP`. -/
def getIP (id : Name) (netGroup : Nat → CaracCharger) (netGroupSize : Nat) : UInt32 :=
  match checkInGroup id netGroup netGroupSize with
  | none => inaddrNone
  | some j => (netGroup j).ip

section Alta

variable {id : Name} {ip : UInt32} {group : Nat → CaracCharger} {size : Nat}

theorem addToGroup_of_new (room : size < maxGroupSize)
    (new : checkInGroup id group size = none) :
    addToGroup id ip group size =
      (Function.update group size ((group size).alta id ip), size + 1) := by
  rw [addToGroup, if_pos room, new]

/-- Each cell from `j` on takes the record behind it. -/
theorem desplazar_apply (j i : Nat) :
    desplazar j group size i = if j ≤ i ∧ i < size - 1 then group (i + 1) else group i := by
  unfold desplazar
  have loop := @forUpTo_induction _
    (fun next (current : Nat → CaracCharger) =>
      ∀ i, current i = if j ≤ i ∧ i < j + next then group (i + 1) else group i)
    (size - 1 - j)
    (fun k group => Function.update group (j + k) (group (j + k + 1))) group
    (fun i => by rw [if_neg (by omega)]) ?round
  case round =>
    intro k _ current shifted i
    by_cases here : i = j + k
    · subst here
      rw [Function.update_self, shifted, if_neg (by omega), if_pos (by omega)]
    · have sameSide : i < j + (k + 1) ↔ i < j + k := by omega
      rw [Function.update_of_ne here, shifted]
      simp only [sameSide]
  have inside : j ≤ i ∧ i < j + (size - 1 - j) ↔ j ≤ i ∧ i < size - 1 := by omega
  rw [loop i]
  simp only [inside]

theorem desplazar_zero (i : Nat) :
    desplazar 0 group size i = if i < size - 1 then group (i + 1) else group i := by
  rw [desplazar_apply]
  simp only [Nat.zero_le, true_and]

end Alta

/-! ## The master comes first -/

/-- One round of moving the first charger to the end.  `restaurar` is what the
caller copies from the old record into the new one. -/
def moverPrimero (restaurar : CaracCharger → CaracCharger → CaracCharger)
    (g : (Nat → CaracCharger) × Nat) : (Nat → CaracCharger) × Nat :=
  let oldMaster := g.1 0
  let g := removeFromGroup oldMaster.name g.1 g.2
  let g := addToGroup oldMaster.name oldMaster.ip g.1 g.2
  (Function.update g.1 (g.2 - 1) (restaurar oldMaster (g.1 (g.2 - 1))), g.2)

/-- "Ponerme el primero en el grupo para indicar que soy el maestro".  As many
rounds as there are chargers are enough when the device is one of them. -/
def maestroPrimero (restaurar : CaracCharger → CaracCharger → CaracCharger) (deviceId : Name)
    (group : Nat → CaracCharger) (size : Nat) : (Nat → CaracCharger) × Nat :=
  whileFuel (fun g => decide ((g.1 0).name ≠ deviceId)) (moverPrimero restaurar) size
    (group, size)

/-- The record a round leaves at the end, from the one it moves and the one that
was there. -/
def reubicar (restaurar : CaracCharger → CaracCharger → CaracCharger)
    (oldMaster slot : CaracCharger) : CaracCharger :=
  restaurar oldMaster (slot.vaciar.alta oldMaster.name oldMaster.ip)

section Rotacion

variable {restaurar : CaracCharger → CaracCharger → CaracCharger}
  {group : Nat → CaracCharger} {size : Nat}

theorem moverPrimero_eq (positive : 0 < size) (bounded : size ≤ maxGroupSize)
    (distintos : Distintos group size) :
    moverPrimero restaurar (group, size) = (rotate (reubicar restaurar) size group, size) := by
  have found := distintos.checkInGroup_name positive
  have shifted : (if 0 ≠ size - 1 then desplazar 0 group size else group) =
      fun i => if i < size - 1 then group (i + 1) else group i := by
    funext i
    split_ifs with several inner inner
    · rw [desplazar_zero, if_pos inner]
    · rw [desplazar_zero, if_neg inner]
    · omega
    · rfl
  have new : checkInGroup (group 0).name
      (Function.update (fun i => if i < size - 1 then group (i + 1) else group i) (size - 1)
        (group (size - 1)).vaciar) (size - 1) = none := by
    rw [checkInGroup_eq_none_iff]
    intro j below same
    rw [Function.update_of_ne (by omega), if_pos below] at same
    exact absurd (distintos (j + 1) 0 (by omega) positive same) (by omega)
  unfold moverPrimero removeFromGroup
  dsimp only
  rw [found]
  dsimp only
  rw [shifted]
  dsimp only
  rw [if_neg (Nat.lt_irrefl _), addToGroup_of_new (by omega) new, Nat.sub_add_cancel positive]
  dsimp only
  rw [Function.update_idem, Function.update_self, Function.update_idem, Function.update_self]
  refine Prod.ext (funext fun i => ?_) rfl
  dsimp only
  rcases Nat.lt_trichotomy (i + 1) size with inner | last | outer
  · rw [rotate_of_lt inner, Function.update_of_ne (by omega), if_pos (by omega)]
  · obtain rfl : i = size - 1 := by omega
    rw [rotate_last last, Function.update_self]
    rfl
  · rw [rotate, if_neg (by omega), if_neg (by omega), Function.update_of_ne (by omega),
      if_neg (by omega)]

variable (nombre : ∀ oldMaster slot, (reubicar restaurar oldMaster slot).name = oldMaster.name)

include nombre

/-- Moving chargers keeps their names apart. -/
theorem distintos_rotate_iterate (distintos : Distintos group size) {rounds : Nat}
    (below : rounds < size) :
    Distintos ((rotate (reubicar restaurar) size)^[rounds] group) size := by
  intro i j belowI belowJ same
  rw [rotate_iterate_observe CaracCharger.name nombre below belowI,
    rotate_iterate_observe CaracCharger.name nombre below belowJ] at same
  have equal := distintos _ _ (Nat.mod_lt _ (by omega)) (Nat.mod_lt _ (by omega)) same
  have congruent : i % size = j % size := Nat.ModEq.add_right_cancel' rounds equal
  rwa [Nat.mod_eq_of_lt belowI, Nat.mod_eq_of_lt belowJ] at congruent

/-- The rounds that bring the device to the front rotate the table. -/
theorem maestroPrimero_eq (bounded : size ≤ maxGroupSize) (distintos : Distintos group size)
    {deviceId : Name} {rounds : Nat}
    (found : checkInGroup deviceId group size = some rounds) :
    maestroPrimero restaurar deviceId group size =
      ((rotate (reubicar restaurar) size)^[rounds] group, size) := by
  rcases checkInGroup_eq_some_iff.mp found with ⟨below, named, first⟩
  have after : ∀ round, round ≤ rounds →
      (moverPrimero restaurar)^[round] (group, size) =
        ((rotate (reubicar restaurar) size)^[round] group, size) := by
    intro round le
    induction round with
    | zero => rfl
    | succ round ih =>
        rw [Function.iterate_succ_apply', ih (by omega), Function.iterate_succ_apply',
          moverPrimero_eq (by omega) bounded
            (distintos_rotate_iterate nombre distintos (by omega))]
  have head : ∀ round, round ≤ rounds →
      ((rotate (reubicar restaurar) size)^[round] group 0).name = (group round).name := by
    intro round le
    rw [rotate_iterate_observe CaracCharger.name nombre (by omega) (by omega), Nat.zero_add,
      Nat.mod_eq_of_lt (by omega)]
  unfold maestroPrimero
  rw [whileFuel_eq_iterate below.le ?enters ?leaves, after rounds (Nat.le_refl _)]
  case enters =>
    intro round earlier
    rw [after round earlier.le, decide_eq_true_eq, head round earlier.le]
    exact first round earlier
  case leaves =>
    rw [after rounds (Nat.le_refl _), decide_eq_false_iff_not, not_not,
      head rounds (Nat.le_refl _)]
    exact named

end Rotacion

end VeltiumCharger.Group
