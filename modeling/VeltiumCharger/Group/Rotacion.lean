import VeltiumCharger.Group.BienFormada

/-!
# The three rotations

`store_group_in_mem`, `coap_start_server` and `Get_Stored_Group_Data` each put
the own charger first by moving the head of the table to its end, and restore
different fields of the record they move.
-/

namespace VeltiumCharger.Group

open VeltiumCharger.Loop VeltiumCharger.Rotate

/-- The record without its field `Period`, which only the copy of
`store_group_in_mem` keeps. -/
def CaracCharger.sinPeriodo (charger : CaracCharger) : CaracCharger :=
  { charger with period := 0 }

/-- The rotation loop has ended by its own guard, and the table is the original
one from place `rounds` on, then its first `rounds` records. -/
structure Rotada (restaurar : CaracCharger → CaracCharger → CaracCharger) (deviceId : Name)
    (group : Nat → CaracCharger) (size rounds : Nat) : Prop where
  termina : ((maestroPrimero restaurar deviceId group size).1 0).name = deviceId
  cantidad : (maestroPrimero restaurar deviceId group size).2 = size
  registros : ∀ i, i < size →
    ((maestroPrimero restaurar deviceId group size).1 i).sinPeriodo =
      (group ((i + rounds) % size)).sinPeriodo

/-- Two rotations leave the same records. -/
def MismaRotacion (first second : CaracCharger → CaracCharger → CaracCharger) (deviceId : Name)
    (group : Nat → CaracCharger) (size : Nat) : Prop :=
  ∀ i, i < size →
    ((maestroPrimero first deviceId group size).1 i).sinPeriodo =
      ((maestroPrimero second deviceId group size).1 i).sinPeriodo

/-- The record is as `add_to_group` leaves one in the slot of `last`. -/
structure CaracCharger.ComoAlta (last charger : CaracCharger) : Prop where
  hpt : charger.hpt = .ofText '0' '0'
  current : charger.current = 0
  currentB : charger.currentB = last.currentB
  currentC : charger.currentC = last.currentC
  conected : charger.conected = false
  delta : charger.delta = 0
  deltaTimer : charger.deltaTimer = 0
  consigna : charger.consigna = 0
  order : charger.order = last.order
  trifasico : charger.trifasico = last.trifasico
  chargeReq : charger.chargeReq = last.chargeReq

section

variable {restaurar : CaracCharger → CaracCharger → CaracCharger} {group : Nat → CaracCharger}
  {size rounds : Nat} {deviceId : Name}

/-- Restoring only the wiring changes nothing of a record that is as a new one. -/
theorem reubicar_restaurarCableado_iff {oldMaster slot : CaracCharger} :
    (reubicar restaurarCableado oldMaster slot).sinPeriodo = oldMaster.sinPeriodo ↔
      slot.ComoAlta oldMaster := by
  cases oldMaster
  cases slot
  simp only [reubicar, restaurarCableado, CaracCharger.alta, CaracCharger.vaciar,
    CaracCharger.sinPeriodo, CaracCharger.mk.injEq, true_and]
  constructor
  · rintro ⟨rfl, rfl, rfl, rfl, rfl, rfl, rfl, rfl, rfl, rfl, rfl⟩
    constructor <;> rfl
  · rintro ⟨hpt, current, currentB, currentC, conected, delta, deltaTimer, consigna, order,
      trifasico, chargeReq⟩
    simp_all

/-- Restoring the measurements too changes nothing of a record whose other
fields are as a new one's. -/
theorem reubicar_restaurarMedidas_eq {oldMaster slot : CaracCharger}
    (como : slot.ComoAlta oldMaster) :
    (reubicar restaurarMedidas oldMaster slot).sinPeriodo = oldMaster.sinPeriodo := by
  cases oldMaster
  cases slot
  rcases como with ⟨hpt, current, currentB, currentC, conected, delta, deltaTimer, consigna,
    order, trifasico, chargeReq⟩
  simp only [reubicar, restaurarMedidas, CaracCharger.alta, CaracCharger.vaciar,
    CaracCharger.sinPeriodo, CaracCharger.mk.injEq, true_and]
  simp_all

/-- The rotation keeps every record when the records it moves come out of a
round as they were. -/
theorem registros_iff (nombre : ∀ oldMaster slot,
      (reubicar restaurar oldMaster slot).name = oldMaster.name)
    (absorb : ∀ x y z, reubicar restaurar x (reubicar restaurar y z) = reubicar restaurar x z)
    (bounded : size ≤ maxGroupSize) (distintos : Distintos group size)
    (found : checkInGroup deviceId group size = some rounds) :
    Rotada restaurar deviceId group size rounds ↔
      ∀ j, j < rounds →
        (reubicar restaurar (group j) (group (size - 1))).sinPeriodo = (group j).sinPeriodo := by
  rcases checkInGroup_eq_some_iff.mp found with ⟨below, named, _⟩
  have cell : ∀ i, i < size → (maestroPrimero restaurar deviceId group size).1 i =
      if i + rounds < size then group (i + rounds)
      else reubicar restaurar (group (i + rounds - size)) (group (size - 1)) := by
    intro i inside
    rw [maestroPrimero_eq nombre bounded distintos found]
    exact rotate_iterate absorb below inside
  constructor
  · intro rotada j earlier
    have place := rotada.registros (j + size - rounds) (by omega)
    rwa [cell _ (by omega), if_neg (by omega), Nat.sub_add_cancel (by omega),
      Nat.add_sub_cancel, Nat.add_mod_right, Nat.mod_eq_of_lt (by omega)] at place
  · intro same
    refine ⟨?_, ?_, ?_⟩
    · rw [cell 0 (by omega), if_pos (by omega), Nat.zero_add, named]
    · rw [maestroPrimero_eq nombre bounded distintos found]
    · intro i inside
      rw [cell i inside]
      split_ifs with inner
      · rw [Nat.mod_eq_of_lt inner]
      · rw [same _ (by omega), ← Nat.mod_eq_of_lt (show i + rounds - size < size by omega),
          ← Nat.mod_eq_sub_mod (by omega)]

theorem MismaRotacion.of_rotada {first second : CaracCharger → CaracCharger → CaracCharger}
    (one : Rotada first deviceId group size rounds)
    (other : Rotada second deviceId group size rounds) :
    MismaRotacion first second deviceId group size :=
  fun i inside => (one.registros i inside).trans (other.registros i inside).symm

/-- The copy of `store_group_in_mem` rotates every table. -/
theorem rotada_restaurarTodo (bounded : size ≤ maxGroupSize) (distintos : Distintos group size)
    (found : checkInGroup deviceId group size = some rounds) :
    Rotada restaurarTodo deviceId group size rounds :=
  (registros_iff conserva_restaurarTodo.name (fun _ _ _ => rfl) bounded distintos found).mpr
    fun _ _ => rfl

/-- The three copies rotate the table exactly when every record before the own
one is as `add_to_group` leaves a record in the last slot. -/
theorem rotaciones_iff (bounded : size ≤ maxGroupSize) (distintos : Distintos group size)
    (found : checkInGroup deviceId group size = some rounds) :
    (Rotada restaurarTodo deviceId group size rounds ∧
        Rotada restaurarCableado deviceId group size rounds ∧
        Rotada restaurarMedidas deviceId group size rounds ∧
        MismaRotacion restaurarTodo restaurarCableado deviceId group size ∧
        MismaRotacion restaurarTodo restaurarMedidas deviceId group size) ↔
      ∀ j, j < rounds → (group (size - 1)).ComoAlta (group j) := by
  have todo := rotada_restaurarTodo bounded distintos found
  have cableado := registros_iff conserva_restaurarCableado.name (fun _ _ _ => rfl) bounded
    distintos found
  have medidas := registros_iff conserva_restaurarMedidas.name (fun _ _ _ => rfl) bounded
    distintos found
  constructor
  · rintro ⟨_, rotada, _, _, _⟩ j earlier
    exact reubicar_restaurarCableado_iff.mp (cableado.mp rotada j earlier)
  · intro como
    have second := cableado.mpr fun j earlier =>
      reubicar_restaurarCableado_iff.mpr (como j earlier)
    have third := medidas.mpr fun j earlier => reubicar_restaurarMedidas_eq (como j earlier)
    exact ⟨todo, second, third, .of_rotada todo second, .of_rotada todo third⟩

end

/-! ## A group whose master is listed second -/

/-- The own charger, `1`, behind the charger `2`. -/
def segundoMaestro (otro : CaracCharger) : Nat → CaracCharger
  | 0 => { otro with name := fun _ => 2 }
  | _ => { CaracCharger.default with name := fun _ => 1 }

/-- The other charger has just been added. -/
def segundoNuevo : Nat → CaracCharger :=
  segundoMaestro (CaracCharger.default.alta (fun _ => 2) 0)

/-- It is moved without loss. -/
theorem rotaciones_segundo_nuevo :
    Rotada restaurarTodo (fun _ => 1) segundoNuevo 2 1 ∧
      Rotada restaurarCableado (fun _ => 1) segundoNuevo 2 1 ∧
      Rotada restaurarMedidas (fun _ => 1) segundoNuevo 2 1 ∧
      MismaRotacion restaurarTodo restaurarCableado (fun _ => 1) segundoNuevo 2 ∧
      MismaRotacion restaurarTodo restaurarMedidas (fun _ => 1) segundoNuevo 2 := by
  refine (rotaciones_iff (by decide) (by decide) (by decide)).mpr fun j earlier => ?_
  obtain rfl : j = 0 := by omega
  constructor <;> rfl

/-- A charger in `C2` loses its pilot state when the server starts, and no
longer counts as connected when the group is loaded from flash. -/
theorem segundo_cargando_pierde :
    Distintos (segundoMaestro (.enEstado 'C' '2' 1)) 2 ∧
      checkInGroup (fun _ => 1) (segundoMaestro (.enEstado 'C' '2' 1)) 2 = some 1 ∧
      ¬ Rotada restaurarCableado (fun _ => 1) (segundoMaestro (.enEstado 'C' '2' 1)) 2 1 ∧
      ¬ Rotada restaurarMedidas (fun _ => 1) (segundoMaestro (.enEstado 'C' '2' 1)) 2 1 ∧
      ¬ MismaRotacion restaurarTodo restaurarCableado (fun _ => 1)
        (segundoMaestro (.enEstado 'C' '2' 1)) 2 := by
  refine ⟨by decide, by decide, ?_, ?_, ?_⟩
  · intro rotada
    have hpt := congrArg CaracCharger.hpt (rotada.registros 1 (by decide))
    exact absurd hpt (by decide)
  · intro rotada
    have conected := congrArg CaracCharger.conected (rotada.registros 1 (by decide))
    exact absurd conected (by decide)
  · intro misma
    have hpt := congrArg CaracCharger.hpt (misma 1 (by decide))
    exact absurd hpt (by decide)

end VeltiumCharger.Group
