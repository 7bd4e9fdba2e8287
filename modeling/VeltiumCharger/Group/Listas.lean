import VeltiumCharger.Group.Tabla
import VeltiumCharger.Library.Keyed

/-!
# The tables as lists

`add_to_group`, `remove_from_group` and `check_in_group` with the byte in which
they keep the size and the value they return, run in any order on a table that
starts empty, next to a list of records with a key.
-/

namespace VeltiumCharger.Group

open VeltiumCharger.Loop VeltiumCharger.Keyed

/-- An array of records and the byte with the number of those in use. -/
structure TablaNombres where
  group : Nat → CaracCharger
  size : UInt8

namespace TablaNombres

variable (t : TablaNombres)

/-- `check_in_group`. -/
def checkInGroup (id : Name) : UInt8 :=
  match Group.checkInGroup id t.group t.size.toNat with
  | some j => UInt8.ofNat j
  | none => 255

/-- `add_to_group`, with what it returns. -/
def addToGroup (id : Name) (ip : UInt32) : TablaNombres × Bool :=
  if t.size.toNat < maxGroupSize then
    if t.checkInGroup id = 255 then
      (⟨Function.update t.group t.size.toNat ((t.group t.size.toNat).alta id ip), t.size + 1⟩, true)
    else (t, false)
  else (t, false)

/-- The loop of `remove_from_group` from `j` on, whose index is a byte. -/
def desplazar (j : Nat) : Nat → CaracCharger :=
  (whileFuel (fun ig : UInt8 × (Nat → CaracCharger) => decide (ig.1.toNat < t.size.toNat - 1))
    (fun ig => (ig.1 + 1, Function.update ig.2 ig.1.toNat (ig.2 (ig.1.toNat + 1)))) 256
    (UInt8.ofNat j, t.group)).2

/-- `remove_from_group`, with what it returns. -/
def removeFromGroup (id : Name) : TablaNombres × Bool :=
  match Group.checkInGroup id t.group t.size.toNat with
  | none => (t, false)
  | some j =>
      let group := if j ≠ t.size.toNat - 1 then t.desplazar j else t.group
      let ultimo := t.size.toNat - 1
      (⟨Function.update group ultimo (group ultimo).vaciar, t.size - 1⟩, true)

end TablaNombres

/-- A call of one of the three functions. -/
inductive Llamada where
  | add (id : Name) (ip : UInt32)
  | remove (id : Name)
  | check (id : Name)

/-- What a call returns. -/
inductive Devuelto where
  | hecho (resultado : Bool)
  | indice (j : Nat)
  deriving DecidableEq, Repr

namespace TablaNombres

/-- One call. -/
def llamar (t : TablaNombres) : Llamada → TablaNombres × Devuelto
  | .add id ip => ((t.addToGroup id ip).1, .hecho (t.addToGroup id ip).2)
  | .remove id => ((t.removeFromGroup id).1, .hecho (t.removeFromGroup id).2)
  | .check id => (t, .indice (t.checkInGroup id).toNat)

/-- The calls in their order, with what each returned. -/
def correr : TablaNombres → List Llamada → TablaNombres × List Devuelto
  | t, [] => (t, [])
  | t, llamada :: resto =>
      let despues := (t.llamar llamada).1.correr resto
      (despues.1, (t.llamar llamada).2 :: despues.2)

/-- The records in use. -/
def registros (t : TablaNombres) : List CaracCharger :=
  cells t.size.toNat t.group

end TablaNombres

/-! ## The list -/

/-- The same call on a list of records.  `slot` supplies the fields that a new
record does not set. -/
def llamarLista (slot : CaracCharger) (lista : List CaracCharger) :
    Llamada → List CaracCharger × Devuelto
  | .add id ip =>
      (Keyed.add CaracCharger.name maxGroupSize (slot.alta id ip) lista,
        .hecho (decide (lista.length < maxGroupSize ∧ id ∉ lista.map CaracCharger.name)))
  | .remove id =>
      (lista.filter fun registro => decide (registro.name ≠ id),
        .hecho (decide (id ∈ lista.map CaracCharger.name)))
  | .check id => (lista, .indice ((position CaracCharger.name id lista).getD 255))

/-- Calls on a list, what they return and the list they leave. -/
inductive CorreLista : List CaracCharger → List Llamada → List Devuelto →
    List CaracCharger → Prop
  | nil (lista : List CaracCharger) : CorreLista lista [] [] lista
  | cons {lista final : List CaracCharger} {llamada : Llamada} {resto : List Llamada}
      {respuestas : List Devuelto} (slot : CaracCharger)
      (sigue : CorreLista (llamarLista slot lista llamada).1 resto respuestas final) :
      CorreLista lista (llamada :: resto)
        ((llamarLista slot lista llamada).2 :: respuestas) final

/-! ## The bytes do not overflow -/

namespace TablaNombres

variable {t : TablaNombres} {id : Name} {ip : UInt32}

theorem position_registros :
    position CaracCharger.name id t.registros = Group.checkInGroup id t.group t.size.toNat :=
  position_cells

theorem toNat_checkInGroup (bounded : t.size.toNat ≤ maxGroupSize) :
    (t.checkInGroup id).toNat = (position CaracCharger.name id t.registros).getD 255 := by
  rw [position_registros, checkInGroup]
  cases found : Group.checkInGroup id t.group t.size.toNat with
  | none => rfl
  | some j =>
      have below := (checkInGroup_eq_some_iff.mp found).1
      refine UInt8.toNat_ofNat_of_lt' (lt_of_lt_of_le below (bounded.trans ?_))
      decide

theorem checkInGroup_eq_255_iff (bounded : t.size.toNat ≤ maxGroupSize) :
    t.checkInGroup id = 255 ↔ Group.checkInGroup id t.group t.size.toNat = none := by
  rw [← UInt8.toNat_inj, toNat_checkInGroup bounded, position_registros]
  cases found : Group.checkInGroup id t.group t.size.toNat with
  | none => exact iff_of_true rfl rfl
  | some j =>
      have below := (checkInGroup_eq_some_iff.mp found).1
      have maximum : maxGroupSize = 40 := rfl
      refine iff_of_false ?_ (Option.some_ne_none j)
      change j ≠ 255
      omega

theorem toNat_size_add_one (room : t.size.toNat < maxGroupSize) :
    (t.size + 1).toNat = t.size.toNat + 1 := by
  have maximum : maxGroupSize = 40 := rfl
  have one : (1 : UInt8).toNat = 1 := rfl
  rw [UInt8.toNat_add, one, Nat.mod_eq_of_lt (by omega)]

theorem toNat_size_sub_one (positive : 0 < t.size.toNat) :
    (t.size - 1).toNat = t.size.toNat - 1 :=
  CaracCharger.toNat_sub_one_of_pos positive

/-- The loop of `remove_from_group` is left before its index can overflow. -/
theorem desplazar_eq {j : Nat} (below : j < t.size.toNat) :
    t.desplazar j = Group.desplazar j t.group t.size.toNat := by
  have size := t.size.toNat_lt
  have bytes : UInt8.size = 256 := rfl
  have rounds : ∀ round, j + round < 256 →
      (fun ig : UInt8 × (Nat → CaracCharger) =>
        (ig.1 + 1, Function.update ig.2 ig.1.toNat (ig.2 (ig.1.toNat + 1))))^[round]
          (UInt8.ofNat j, t.group) =
        (UInt8.ofNat (j + round), forUpTo round
          (fun k group => Function.update group (j + k) (group (j + k + 1))) t.group) := by
    intro round inByte
    induction round with
    | zero => rfl
    | succ round ih =>
        rw [Function.iterate_succ_apply', ih (by omega), forUpTo_succ]
        dsimp only
        rw [UInt8.toNat_ofNat_of_lt' (by omega), ← Nat.add_assoc]
        refine Prod.ext ?_ rfl
        apply UInt8.toNat_inj.mp
        simp
  unfold desplazar Group.desplazar
  rw [@whileFuel_eq_iterate _ _ _ (t.size.toNat - 1 - j) 256 _ (by omega) ?enters ?leaves,
    rounds _ (by omega)]
  case enters =>
    intro round earlier
    rw [rounds round (by omega), decide_eq_true_eq, UInt8.toNat_ofNat_of_lt' (by omega)]
    omega
  case leaves =>
    rw [rounds _ (by omega), decide_eq_false_iff_not, UInt8.toNat_ofNat_of_lt' (by omega)]
    omega

/-! ## One call -/

theorem addToGroup_eq (bounded : t.size.toNat ≤ maxGroupSize) :
    ((t.addToGroup id ip).1.group, (t.addToGroup id ip).1.size.toNat) =
      Group.addToGroup id ip t.group t.size.toNat := by
  rw [addToGroup, Group.addToGroup]
  by_cases room : t.size.toNat < maxGroupSize
  · rw [if_pos room, if_pos room]
    cases found : Group.checkInGroup id t.group t.size.toNat with
    | none =>
        rw [if_pos ((checkInGroup_eq_255_iff bounded).mpr found)]
        exact Prod.ext rfl (toNat_size_add_one room)
    | some j =>
        rw [if_neg fun absent => by simp [(checkInGroup_eq_255_iff bounded).mp absent] at found]
  · rw [if_neg room, if_neg room]

theorem removeFromGroup_eq :
    ((t.removeFromGroup id).1.group, (t.removeFromGroup id).1.size.toNat) =
      Group.removeFromGroup id t.group t.size.toNat := by
  rw [removeFromGroup, Group.removeFromGroup]
  cases found : Group.checkInGroup id t.group t.size.toNat with
  | none => rfl
  | some j =>
      have below := (checkInGroup_eq_some_iff.mp found).1
      dsimp only
      rw [desplazar_eq below, toNat_size_sub_one (by omega)]

end TablaNombres

section Celdas

variable {id : Name} {ip : UInt32} {group : Nat → CaracCharger} {size : Nat}

theorem checkInGroup_eq_none_iff_notMem :
    checkInGroup id group size = none ↔ id ∉ (cells size group).map CaracCharger.name := by
  have position_eq : position CaracCharger.name id (cells size group) =
      checkInGroup id group size := position_cells
  rw [← position_eq, position_eq_none_iff]

theorem distintos_of_apart (apart : Apart CaracCharger.name (cells size group)) :
    Distintos group size := by
  intro i j belowI belowJ same
  rw [Apart, cells, List.map_map] at apart
  exact List.inj_on_of_nodup_map apart (List.mem_range.mpr belowI) (List.mem_range.mpr belowJ) same

/-- What is in use after `add_to_group`. -/
theorem cells_addToGroup :
    cells (addToGroup id ip group size).2 (addToGroup id ip group size).1 =
      Keyed.add CaracCharger.name maxGroupSize ((group size).alta id ip) (cells size group) := by
  rw [addToGroup, Keyed.add, length_cells]
  by_cases room : size < maxGroupSize
  · rw [if_pos room]
    cases found : checkInGroup id group size with
    | none =>
        rw [if_pos ⟨room, checkInGroup_eq_none_iff_notMem.mp found⟩]
        exact cells_update
    | some j =>
        rw [if_neg]
        rintro ⟨_, absent⟩
        have none_found : checkInGroup id group size = none :=
          checkInGroup_eq_none_iff_notMem.mpr absent
        exact Option.some_ne_none j (found.symm.trans none_found)
  · rw [if_neg room, if_neg fun fits => room fits.1]

/-- What is in use after `remove_from_group`. -/
theorem cells_removeFromGroup :
    cells (removeFromGroup id group size).2 (removeFromGroup id group size).1 =
      remove CaracCharger.name id (cells size group) := by
  have position_eq : position CaracCharger.name id (cells size group) =
      checkInGroup id group size := position_cells
  rw [removeFromGroup]
  cases found : checkInGroup id group size with
  | none => exact (remove_of_position_none (position_eq.trans found)).symm
  | some j =>
      have below := (checkInGroup_eq_some_iff.mp found).1
      rw [remove_of_position (position_eq.trans found)]
      refine cells_shift below fun k inside => ?_
      dsimp only
      rw [Function.update_of_ne (Nat.ne_of_lt inside)]
      by_cases last : j = size - 1
      · rw [if_neg (not_not.mpr last), if_pos (by omega)]
      · rw [if_pos last, desplazar_apply]
        by_cases before : k < j
        · rw [if_pos before, if_neg (by omega)]
        · rw [if_neg before, if_pos (by omega)]

/-- No call writes behind the cell that follows those in use. -/
theorem addToGroup_behind {k : Nat} (behind : maxGroupSize ≤ k) :
    (addToGroup id ip group size).1 k = group k := by
  rw [addToGroup]
  split_ifs with room
  · cases checkInGroup id group size with
    | none => exact Function.update_of_ne (by omega) _ _
    | some j => rfl
  · rfl

theorem removeFromGroup_behind (bounded : size ≤ maxGroupSize) {k : Nat}
    (behind : maxGroupSize ≤ k) : (removeFromGroup id group size).1 k = group k := by
  rw [removeFromGroup]
  cases found : checkInGroup id group size with
  | none => rfl
  | some j =>
      have below := (checkInGroup_eq_some_iff.mp found).1
      dsimp only
      rw [Function.update_of_ne (by omega)]
      split_ifs with last
      · rw [desplazar_apply, if_neg (by omega)]
      · rfl

end Celdas

/-! ## Any number of calls -/

namespace TablaNombres

/-- What a table keeps while it is called. -/
structure Lista (t : TablaNombres) : Prop where
  bounded : t.size.toNat ≤ maxGroupSize
  apart : Apart CaracCharger.name t.registros

variable {t : TablaNombres}

theorem registros_addToGroup (lista : t.Lista) (id : Name) (ip : UInt32) :
    (t.addToGroup id ip).1.registros =
      Keyed.add CaracCharger.name maxGroupSize ((t.group t.size.toNat).alta id ip) t.registros := by
  have same := @addToGroup_eq t id ip lista.bounded
  rw [registros, registros, ← cells_addToGroup, ← same]

theorem registros_removeFromGroup (lista : t.Lista) (id : Name) :
    (t.removeFromGroup id).1.registros =
      t.registros.filter fun registro => decide (registro.name ≠ id) := by
  have same := @removeFromGroup_eq t id
  rw [← remove_eq_filter lista.apart, registros, registros, ← cells_removeFromGroup, ← same]

theorem addToGroup_snd (lista : t.Lista) (id : Name) (ip : UInt32) :
    (t.addToGroup id ip).2 =
      decide (t.registros.length < maxGroupSize ∧ id ∉ t.registros.map CaracCharger.name) := by
  rw [addToGroup, registros, length_cells]
  by_cases room : t.size.toNat < maxGroupSize
  · rw [if_pos room]
    by_cases absent : Group.checkInGroup id t.group t.size.toNat = none
    · rw [if_pos ((checkInGroup_eq_255_iff lista.bounded).mpr absent),
        decide_eq_true ⟨room, checkInGroup_eq_none_iff_notMem.mp absent⟩]
    · rw [if_neg fun unknown => absent ((checkInGroup_eq_255_iff lista.bounded).mp unknown),
        decide_eq_false fun both => absent (checkInGroup_eq_none_iff_notMem.mpr both.2)]
  · rw [if_neg room, decide_eq_false fun both => room both.1]

theorem removeFromGroup_snd (t : TablaNombres) (id : Name) :
    (t.removeFromGroup id).2 = decide (id ∈ t.registros.map CaracCharger.name) := by
  rw [removeFromGroup]
  cases found : Group.checkInGroup id t.group t.size.toNat with
  | none => exact (decide_eq_false (checkInGroup_eq_none_iff_notMem.mp found)).symm
  | some j =>
      refine (decide_eq_true (not_not.mp fun absent => ?_)).symm
      have none_found : Group.checkInGroup id t.group t.size.toNat = none :=
        checkInGroup_eq_none_iff_notMem.mpr absent
      exact Option.some_ne_none j (found.symm.trans none_found)

/-- A call on the table is the call on the list. -/
theorem llamar_eq (lista : t.Lista) (llamada : Llamada) :
    ((t.llamar llamada).1.registros, (t.llamar llamada).2) =
      llamarLista (t.group t.size.toNat) t.registros llamada := by
  cases llamada with
  | add id ip =>
      exact Prod.ext (registros_addToGroup lista id ip)
        (congrArg Devuelto.hecho (addToGroup_snd lista id ip))
  | remove id =>
      exact Prod.ext (registros_removeFromGroup lista id)
        (congrArg Devuelto.hecho (removeFromGroup_snd t id))
  | check id => exact Prod.ext rfl (congrArg Devuelto.indice (toNat_checkInGroup lista.bounded))

theorem Lista.llamar (lista : t.Lista) (llamada : Llamada) : (t.llamar llamada).1.Lista := by
  have length_eq : t.registros.length = t.size.toNat := length_cells
  cases llamada with
  | add id ip =>
      have registros_eq := registros_addToGroup lista id ip
      constructor
      · have bounded := @length_add_le _ _ _ CaracCharger.name maxGroupSize
          ((t.group t.size.toNat).alta id ip) t.registros (length_eq ▸ lista.bounded)
        rwa [← registros_eq, registros, length_cells] at bounded
      · change Apart _ (t.addToGroup id ip).1.registros
        rw [registros_eq]
        exact lista.apart.add
  | remove id =>
      have registros_eq := registros_removeFromGroup lista id
      constructor
      · have shorter := List.length_filter_le (fun registro : CaracCharger =>
          decide (registro.name ≠ id)) t.registros
        rw [← registros_eq, length_eq, registros, length_cells] at shorter
        exact shorter.trans lista.bounded
      · change Apart _ (t.removeFromGroup id).1.registros
        rw [registros_eq, ← remove_eq_filter lista.apart]
        exact lista.apart.remove
  | check id => exact lista

theorem llamar_behind (lista : t.Lista) (llamada : Llamada) {k : Nat}
    (behind : maxGroupSize ≤ k) : (t.llamar llamada).1.group k = t.group k := by
  cases llamada with
  | add id ip =>
      have same := congrArg Prod.fst (@addToGroup_eq t id ip lista.bounded)
      exact (congrFun same k).trans (addToGroup_behind behind)
  | remove id =>
      have same := congrArg Prod.fst (@removeFromGroup_eq t id)
      exact (congrFun same k).trans (removeFromGroup_behind lista.bounded behind)
  | check id => rfl

theorem Lista.correr (lista : t.Lista) (llamadas : List Llamada) :
    (t.correr llamadas).1.Lista ∧
      CorreLista t.registros llamadas (t.correr llamadas).2 (t.correr llamadas).1.registros ∧
      ∀ k, maxGroupSize ≤ k → (t.correr llamadas).1.group k = t.group k := by
  induction llamadas generalizing t with
  | nil => exact ⟨lista, .nil _, fun _ _ => rfl⟩
  | cons llamada resto ih =>
      obtain ⟨despues, sigue, behind⟩ := ih (lista.llamar llamada)
      have paso := llamar_eq lista llamada
      refine ⟨despues, ?_,
        fun k lejos => (behind k lejos).trans (llamar_behind lista llamada lejos)⟩
      have primero := congrArg Prod.fst paso
      have respuesta := congrArg Prod.snd paso
      dsimp only at primero respuesta
      rw [TablaNombres.correr, respuesta]
      rw [primero] at sigue
      exact .cons (t.group t.size.toNat) sigue

/-- A table that starts empty, whatever its cells hold, and any calls on it. -/
theorem correr_vacia (group : Nat → CaracCharger) (llamadas : List Llamada) :
    let final := ((⟨group, 0⟩ : TablaNombres).correr llamadas).1
    CorreLista [] llamadas ((⟨group, 0⟩ : TablaNombres).correr llamadas).2 final.registros ∧
      Distintos final.group final.size.toNat ∧
      final.size.toNat ≤ maxGroupSize ∧
      ∀ k, maxGroupSize ≤ k → final.group k = group k := by
  have vacia : (⟨group, 0⟩ : TablaNombres).Lista := ⟨Nat.zero_le _, apart_nil⟩
  obtain ⟨lista, sigue, behind⟩ := vacia.correr llamadas
  exact ⟨sigue, distintos_of_apart lista.apart, lista.bounded, behind⟩

end TablaNombres

end VeltiumCharger.Group
