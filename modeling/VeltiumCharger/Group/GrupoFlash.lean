import VeltiumCharger.Group.Chargers
import VeltiumCharger.Group.Flash

/-!
# The list of chargers in flash

`store_group_in_mem` writes the table into `group_data.group`, nine bytes for
each charger, as a text that `Group_Store` and `Group_Load` copy and
`Get_Stored_Group_Data` takes apart.
-/

namespace VeltiumCharger.Group

open VeltiumCharger.Buffer VeltiumCharger.Loop VeltiumCharger.Rotate

/-! ## Writing -/

/-- One round of `store_group_in_mem`. -/
def guardarCharger (s : GroupState) (i : Nat) (data : Nat → UInt8) : Nat → UInt8 :=
  let data := write (2 + i * 9) (List.ofFn (s.chargerTable i).name) data
  write (10 + i * 9) [(s.chargerTable i).valor] data

/-- What `store_group_in_mem` writes into `Configuracion.group_data`. -/
def storeGroupData (s : GroupState) (data : Nat → UInt8) : Nat → UInt8 :=
  let data := sprintf 0 (textoNumero (UInt8.ofNat s.chargerNumber)) data
  if 0 < s.chargerNumber then
    write (2 + s.chargerNumber * 9) [0] (forUpTo s.chargerNumber (guardarCharger s) data)
  else
    let data := write 0 (List.replicate maxGroupBufferSize 0) data
    let data := sprintf 0 ("00_CLEAN_".toList.map Char.toUInt8) data
    write 8 [0] data

/-- The record of a charger in the buffer. -/
def CaracCharger.guardado (charger : CaracCharger) : List UInt8 :=
  List.ofFn charger.name ++ [charger.valor]

/-- The number and the records of the table. -/
def GroupState.textoGrupo (s : GroupState) : List UInt8 :=
  textoNumero (UInt8.ofNat s.chargerNumber) ++
    records s.chargerNumber fun i => (s.chargerTable i).guardado

/-- The table as a list. -/
def GroupState.listado (s : GroupState) : ListaGrupo where
  n := s.chargerNumber
  id i := (s.chargerTable i).name
  valor i := (s.chargerTable i).valor

section Escritura

variable {s : GroupState} {data : Nat → UInt8}

theorem textoGrupo_eq (s : GroupState) : s.textoGrupo = s.listado.texto :=
  rfl

theorem guardarCharger_eq (s : GroupState) : guardarCharger s = guardarRegistro s.listado :=
  rfl

theorem length_textoGrupo (small : s.chargerNumber < 100) :
    s.textoGrupo.length = 2 + s.chargerNumber * 9 :=
  s.listado.length_texto small

/-- The buffer of a group with members: its text and the terminator. -/
theorem begins_storeGroupData (small : s.chargerNumber < 100) (positive : 0 < s.chargerNumber) :
    Begins (storeGroupData s data) (s.textoGrupo ++ [0]) := by
  unfold storeGroupData
  dsimp only
  rw [if_pos positive, guardarCharger_eq, textoGrupo_eq]
  exact @begins_guardarLista s.listado data small

/-- The buffer of an empty group. -/
theorem begins_storeGroupData_zero (empty : s.chargerNumber = 0) :
    Begins (storeGroupData s data) ("00_CLEAN".toList.map Char.toUInt8 ++ [0]) := by
  unfold storeGroupData
  dsimp only
  rw [if_neg (by omega)]
  have text : Begins (sprintf 0 ("00_CLEAN_".toList.map Char.toUInt8)
      (write 0 (List.replicate maxGroupBufferSize 0)
        (sprintf 0 (textoNumero (UInt8.ofNat s.chargerNumber)) data)))
      ("00_CLEAN".toList.map Char.toUInt8 ++ ['_'.toUInt8, 0]) := begins_write_zero _ _
  exact text.left.write [0]

theorem guardarCharger_of_ge {i k : Nat} (behind : 2 + (i + 1) * 9 ≤ k) :
    guardarCharger s i data k = data k := by
  unfold guardarCharger
  rw [write_of_ge (by rw [List.length_singleton]; omega),
    write_of_ge (by rw [List.length_ofFn]; omega)]

/-- Up to 39 chargers the terminator is still in the buffer. -/
theorem storeGroupData_of_ge (fits : s.chargerNumber ≤ 39) {k : Nat}
    (behind : maxGroupBufferSize ≤ k) : storeGroupData s data k = data k := by
  unfold maxGroupBufferSize at behind
  have number : sprintf 0 (textoNumero (UInt8.ofNat s.chargerNumber)) data k = data k := by
    apply write_of_ge
    rw [List.length_append, length_textoNumero (by omega), List.length_singleton]
    omega
  unfold storeGroupData
  dsimp only
  split_ifs with positive
  · rw [write_of_ge (by rw [List.length_singleton]; omega)]
    rw [← number]
    apply forUpTo_unchanged fun current : Nat → UInt8 => current k
    intro i below current
    exact guardarCharger_of_ge (by omega)
  · rw [write_of_ge (by rw [List.length_singleton]; omega)]
    unfold sprintf
    rw [write_of_ge (by simp; omega),
      write_of_ge (by rw [List.length_replicate]; unfold maxGroupBufferSize; omega)]
    exact number

/-- With forty chargers the terminator is the first of the parameters. -/
theorem storeGroupData_forty (forty : s.chargerNumber = 40) :
    groupParams (storeGroupData s data) 0 = 0 := by
  have begins : Begins (storeGroupData s data) (s.textoGrupo ++ [0]) :=
    begins_storeGroupData (by omega) (by omega)
  have terminator := begins.right 0 (by simp)
  rw [length_textoGrupo (by omega), forty] at terminator
  exact (Option.some.inj terminator).symm

end Escritura

/-! ## Reading -/

section Lectura

variable {s : GroupState} {b : GrupoGuardado} {texto : List UInt8}

theorem guardado_id (small : s.chargerNumber < 100) (begins : Begins b.group s.textoGrupo)
    {i : Nat} (below : i < s.chargerNumber) : b.lista.id i = (s.chargerTable i).name :=
  s.listado.leida_id small begins below

/-- Behind the last record a name begins with the terminator. -/
theorem guardado_id_ne (small : s.chargerNumber < 100)
    (begins : Begins b.group (s.textoGrupo ++ [0])) (texto : s.NombresDeTexto) {i : Nat}
    (below : i < s.chargerNumber) : b.lista.id i ≠ b.lista.id s.chargerNumber := by
  intro same
  have terminator := begins.right 0 (by simp)
  rw [length_textoGrupo small] at terminator
  rw [guardado_id small begins.left below] at same
  apply texto i below 0
  rw [same]
  exact (Option.some.inj terminator).symm

theorem guardado_valor (small : s.chargerNumber < 100) (begins : Begins b.group s.textoGrupo)
    {i : Nat} (below : i < s.chargerNumber) : b.lista.valor i = (s.chargerTable i).valor :=
  s.listado.leida_valor small begins below

end Lectura

/-! ## Lists that may repeat a name -/

section Lista

variable {e cargado : Equipo} {lista : ListaGrupo}

theorem addToGroup_fase (id : Name) (ip : UInt32) (group : Nat → CaracCharger) (size k : Nat) :
    ((addToGroup id ip group size).1 k).fase = (group k).fase := by
  unfold addToGroup
  split_ifs
  · cases checkInGroup id group size with
    | none =>
        dsimp only
        by_cases here : k = size
        · subst here
          rw [Function.update_self]
          rfl
        · rw [Function.update_of_ne here]
    | some _ => rfl
  · rfl

/-- Adding a charger names at most one record more, which takes the new name. -/
theorem addToGroup_names (id : Name) (ip : UInt32) (group : Nat → CaracCharger) (size : Nat) :
    size ≤ (addToGroup id ip group size).2 ∧ (addToGroup id ip group size).2 ≤ size + 1 ∧
      ∀ k, k < (addToGroup id ip group size).2 →
        ((addToGroup id ip group size).1 k).name = id ∨
          k < size ∧ ((addToGroup id ip group size).1 k).name = (group k).name := by
  unfold addToGroup
  split_ifs
  · cases checkInGroup id group size with
    | none =>
        dsimp only
        refine ⟨Nat.le_succ size, Nat.le_refl _, fun k below => ?_⟩
        by_cases here : k = size
        · subst here
          rw [Function.update_self]
          exact .inl rfl
        · rw [Function.update_of_ne here]
          exact .inr ⟨by omega, rfl⟩
    | some _ => exact ⟨Nat.le_refl _, Nat.le_succ size, fun k below => .inr ⟨below, rfl⟩⟩
  · exact ⟨Nat.le_refl _, Nat.le_succ size, fun k below => .inr ⟨below, rfl⟩⟩

/-- A round adds at most one charger and sets the phase of one record. -/
theorem cargarRound_spec {temp : Nat → CaracCharger} {tempSize i : Nat} {s after : GroupState}
    (round : cargarRound e lista temp tempSize i s = some after) :
    (s.chargerNumber ≤ after.chargerNumber ∧ after.chargerNumber ≤ s.chargerNumber + 1 ∧
        ∀ k, k < after.chargerNumber → (after.chargerTable k).name = lista.id i ∨
          k < s.chargerNumber ∧ (after.chargerTable k).name = (s.chargerTable k).name) ∧
      (∀ k, (after.chargerTable k).fase =
        if k = i then lista.valor i &&& 3 else (s.chargerTable k).fase) ∧
      (s.chargerNumber < maxGroupSize →
        checkInGroup (lista.id i) s.chargerTable s.chargerNumber = none →
        after.chargerNumber = s.chargerNumber + 1) := by
  unfold cargarRound at round
  dsimp only at round
  split_ifs at round
  cases round
  rcases addToGroup_names (lista.id i) (getIP (lista.id i) e.netGroup e.netGroupSize)
    s.chargerTable s.chargerNumber with ⟨grows, atMost, names⟩
  refine ⟨⟨grows, atMost, fun k below => ?_⟩, fun k => ?_, fun room new => ?_⟩
  · dsimp only
    by_cases here : k = i
    · subst here
      rw [Function.update_self, CaracCharger.listado_name]
      exact names k below
    · rw [Function.update_of_ne here]
      exact names k below
  · dsimp only
    split_ifs with here
    · subst here
      rw [Function.update_self, CaracCharger.listado_fase]
    · rw [Function.update_of_ne here, addToGroup_fase]
  · dsimp only
    rw [addToGroup_of_new room new]

theorem ListaGrupo.Nombra.menor {n first : Nat} (less : first ≤ n)
    (names : ListaGrupo.Nombra { lista with n := n }) :
    ListaGrupo.Nombra { lista with n := first } where
  acotada := less.trans names.acotada
  distintos i j belowI belowJ :=
    names.distintos i j (Nat.lt_of_lt_of_le belowI less) (Nat.lt_of_lt_of_le belowJ less)

/-- What the table holds after the first `next` entries of a list: the phases of
the entries, no name but theirs, and all of them as long as they are distinct. -/
structure Cargando (lista : ListaGrupo) (next : Nat) (s : GroupState) : Prop where
  count : s.chargerNumber ≤ next
  fases : ∀ i, i < next → (s.chargerTable i).fase = lista.valor i &&& 3
  known : ∀ k, k < s.chargerNumber → ∃ i, i < next ∧ (s.chargerTable k).name = lista.id i
  least : ∀ first, first ≤ next → ListaGrupo.Nombra { lista with n := first } →
    first ≤ s.chargerNumber

/-- A new name is none of those before it. -/
theorem Cargando.absent {next : Nat} {s : GroupState} (kept : Cargando lista next s)
    (distinct : ListaGrupo.Nombra { lista with n := next + 1 }) :
    checkInGroup (lista.id next) s.chargerTable s.chargerNumber = none := by
  rw [checkInGroup_eq_none_iff]
  intro k inside named
  rcases kept.known k inside with ⟨i, before, same⟩
  have equal := distinct.distintos i next (Nat.lt_succ_of_lt before) (Nat.lt_succ_self next)
    (same.symm.trans named)
  omega

/-- A round loads the next entry. -/
theorem Cargando.round {temp : Nat → CaracCharger} {tempSize next : Nat} {s after : GroupState}
    (kept : Cargando lista next s)
    (round : cargarRound e lista temp tempSize next s = some after) :
    Cargando lista (next + 1) after := by
  have count := kept.count
  rcases cargarRound_spec round with ⟨⟨grows, atMost, names⟩, fases, new⟩
  refine ⟨by omega, fun i inside => ?_, fun k inside => ?_, fun first le distinct => ?_⟩
  · rw [fases]
    split_ifs with here
    · rw [here]
    · exact kept.fases i (by omega)
  · rcases names k inside with named | ⟨earlier, named⟩
    · exact ⟨next, Nat.lt_succ_self next, named⟩
    · rcases kept.known k earlier with ⟨i, before, old⟩
      exact ⟨i, Nat.lt_succ_of_lt before, named.trans old⟩
  · rcases Nat.lt_succ_iff_lt_or_eq.mp (Nat.lt_succ_of_le le) with before | rfl
    · exact (kept.least first (by omega) distinct).trans grows
    · have old := kept.least next (Nat.le_refl _) (distinct.menor (Nat.le_succ next))
      have room : next + 1 ≤ maxGroupSize := distinct.acotada
      rw [new (by omega) (kept.absent distinct)]
      omega

/-- What loading any list that stays in the table leaves. -/
theorem cargarLista_cualquiera (loaded : cargarLista e lista = some cargado) :
    cargado.grupo.chargerNumber ≤ lista.n ∧
      (∀ i, i < lista.n → (cargado.grupo.chargerTable i).fase = lista.valor i &&& 3) ∧
      ∀ first, first ≤ lista.n → ListaGrupo.Nombra { lista with n := first } →
        first ≤ cargado.grupo.chargerNumber := by
  unfold cargarLista at loaded
  dsimp only at loaded
  rcases Option.map_eq_some_iff.mp loaded with ⟨s, rounds, rfl⟩
  have loop := @forUpTo_induction _
    (fun next (state : Option GroupState) => ∀ s, state = some s → Cargando lista next s)
    lista.n
    (fun i state => state.bind (cargarRound e lista
      (tempChargers { e.grupo with newData := true }) e.grupo.chargerNumber i))
    (some { e.grupo with newData := true, chargerNumber := 0 }) ?start ?round
  case start =>
    rintro s same
    cases same
    exact ⟨Nat.le_refl 0, fun i below => absurd below (Nat.not_lt_zero i),
      fun k below => absurd below (Nat.not_lt_zero k), fun first none _ => none⟩
  case round =>
    intro next below state kept after round
    rcases Option.bind_eq_some_iff.mp round with ⟨s, same, round⟩
    exact (kept s same).round round
  have done := loop s rounds
  exact ⟨done.count, done.fases, done.least⟩

end Lista

/-! ## The table after a load -/

/-- The names, phases and circuits of `s`, from some place on. -/
structure GroupState.Rotado (s other : GroupState) : Prop where
  chargerNumber : other.chargerNumber = s.chargerNumber
  registros : ∃ desde, ∀ i, i < s.chargerNumber →
    (other.chargerTable i).name = (s.chargerTable ((i + desde) % s.chargerNumber)).name ∧
      (other.chargerTable i).fase = (s.chargerTable ((i + desde) % s.chargerNumber)).fase ∧
      (other.chargerTable i).circuito = (s.chargerTable ((i + desde) % s.chargerNumber)).circuito

section Rotado

variable {s other : GroupState} {e : Equipo}

theorem GroupState.MismoGrupo.rotado (same : s.MismoGrupo other) : s.Rotado other where
  chargerNumber := same.chargerNumber
  registros := by
    refine ⟨0, fun i below => ?_⟩
    rw [Nat.add_zero, Nat.mod_eq_of_lt below]
    exact ⟨same.name i below, same.fase i below, same.circuito i below⟩

theorem GroupState.Rotado.congr {last : GroupState} (rotado : s.Rotado other)
    (same : other.MismaTabla last) : s.Rotado last where
  chargerNumber := same.chargerNumber.trans rotado.chargerNumber
  registros := by
    rcases rotado.registros with ⟨desde, registros⟩
    refine ⟨desde, fun i below => ?_⟩
    rw [same.name, same.fase, same.circuito]
    exact registros i below

/-- Putting the master first rotates the table. -/
theorem rotado_ponermePrimero {restaurar : CaracCharger → CaracCharger → CaracCharger}
    (keeps : Conserva restaurar) (acotado : s.chargerNumber ≤ maxGroupSize)
    (distintos : Distintos s.chargerTable s.chargerNumber) (same : s.MismoGrupo e.grupo) :
    s.Rotado (ponermePrimero restaurar e).grupo := by
  unfold ponermePrimero
  split_ifs with elsewhere present
  · rcases Option.isSome_iff_exists.mp present.2 with ⟨rounds, found⟩
    have number := same.chargerNumber
    have apart : Distintos e.grupo.chargerTable e.grupo.chargerNumber := by
      intro i j belowI belowJ named
      rw [number] at belowI belowJ
      rw [same.name i belowI, same.name j belowJ] at named
      exact distintos i j belowI belowJ named
    have below := (checkInGroup_eq_some_iff.mp found).1
    dsimp only
    rw [maestroPrimero_eq keeps.name (number.trans_le acotado) apart found]
    refine ⟨number, rounds, fun i inside => ?_⟩
    have inTable : i < e.grupo.chargerNumber := number ▸ inside
    have place : (i + rounds) % s.chargerNumber < s.chargerNumber := Nat.mod_lt _ (by omega)
    rw [← same.name _ place, ← same.fase _ place, ← same.circuito _ place, ← number]
    exact ⟨rotate_iterate_observe CaracCharger.name keeps.name below inTable,
      rotate_iterate_observe CaracCharger.fase keeps.fase below inTable,
      rotate_iterate_observe CaracCharger.circuito keeps.circuito below inTable⟩
  · exact same.rotado
  · exact same.rotado

theorem rotado_ordenarGuardado (acotado : s.chargerNumber ≤ maxGroupSize)
    (distintos : Distintos s.chargerTable s.chargerNumber) (same : s.MismoGrupo e.grupo) :
    s.Rotado (ordenarGuardado e).grupo := by
  have announced : s.MismoGrupo (avisarFuera e).grupo := by
    rw [avisarFuera_grupo]
    exact same
  unfold ordenarGuardado
  dsimp only
  split_ifs
  · exact (rotado_ponermePrimero conserva_restaurarMedidas acotado distintos announced).congr
      (broadcastAGrupo_mismaTabla _)
  · exact announced.rotado

end Rotado

/-! ## The round trip -/

/-- The buffer that `Get_Stored_Group_Data` reads when the stored group is loaded
over `ram`. -/
def grupoCargado (s : GroupState) (data ram heap : Nat → UInt8) (pila : List UInt8) :
    GrupoGuardado where
  group := groupLoad heap (groupStore (storeGroupData s data)) ram
  pila := pila

/-- A load over `ram` gives the device `destino` the chargers of `s`, and leaves
the parameters and circuits there were in `data`. -/
structure Restaurado (s : GroupState) (destino : Equipo) (data ram heap : Nat → UInt8)
    (pila : List UInt8) : Prop where
  cargado : ∃ cargado, cargarLista destino (grupoCargado s data ram heap pila).lista =
    some cargado ∧ s.MismoGrupo cargado.grupo
  final : ∃ final, getStoredGroupData (grupoCargado s data ram heap pila) destino = some final ∧
    s.Rotado final.grupo
  params : ∀ i, i < sizeOfGroupParams →
    groupParams (grupoCargado s data ram heap pila).group i = groupParams data i
  circuits : ∀ i, i < maxGroupSize →
    groupCircuits (grupoCargado s data ram heap pila).group i = groupCircuits data i

section Ida

variable {s : GroupState} {destino : Equipo} {data ram heap : Nat → UInt8} {pila : List UInt8}

theorem valor_ne_zero {charger : CaracCharger} (wired : charger.Cableado maxGroupSize) :
    charger.valor ≠ 0 := by
  intro zero
  have unpacked := desempaquetar wired.fase.2 (wired.circuito.2.trans (by decide))
  rw [zero] at unpacked
  have positive := wired.fase.1
  rw [← unpacked.1] at positive
  exact absurd positive (by decide)

theorem textoGrupo_zero (empty : s.chargerNumber = 0) :
    s.textoGrupo = ['0'.toUInt8, '0'.toUInt8] := by
  rw [GroupState.textoGrupo, empty, records_zero, List.append_nil]
  decide

theorem textoGuardado_storeGroupData_zero (empty : s.chargerNumber = 0) :
    textoGuardado (storeGroupData s data) = "00_CLEAN".toList.map Char.toUInt8 :=
  cString_of_begins (begins_storeGroupData_zero empty) (by decide) (by decide)

variable (acotado : s.chargerNumber ≤ maxGroupSize)
  (cableado : ∀ i, i < s.chargerNumber → (s.chargerTable i).Cableado maxGroupSize)

include acotado

/-- The buffer begins with the number and the records, and they end with a
terminator. -/
theorem begins_textoGrupo : Begins (storeGroupData s data) s.textoGrupo := by
  rcases Nat.eq_zero_or_pos s.chargerNumber with empty | positive
  · rw [textoGrupo_zero empty]
    exact @Begins.left _ _ (("_CLEAN".toList.map Char.toUInt8) ++ [0]) _
      (begins_storeGroupData_zero empty)
  · exact (begins_storeGroupData (acotado.trans_lt (by decide)) positive).left

include cableado

theorem zero_notMem_textoGrupo (texto : s.NombresDeTexto) : (0 : UInt8) ∉ s.textoGrupo := by
  have sin : s.listado.SinCeros := ⟨texto, fun i below => valor_ne_zero (cableado i below)⟩
  exact sin.notMem (acotado.trans_lt (by decide))

/-- What is stored of a group with members is its text. -/
theorem textoGuardado_storeGroupData (texto : s.NombresDeTexto) (positive : 0 < s.chargerNumber) :
    textoGuardado (storeGroupData s data) = s.textoGrupo := by
  have small : s.chargerNumber < 100 := acotado.trans_lt (by decide)
  apply cString_of_begins (begins_storeGroupData small positive)
  · exact zero_notMem_textoGrupo acotado cableado texto
  · rw [length_textoGrupo small]
    unfold capacidad
    omega

/-- The length of what is stored. -/
theorem length_textoGuardado (texto : s.NombresDeTexto) :
    (textoGuardado (storeGroupData s data)).length =
      if s.chargerNumber = 0 then 8 else 2 + s.chargerNumber * 9 := by
  split_ifs with empty
  · rw [textoGuardado_storeGroupData_zero empty]
    rfl
  · rw [textoGuardado_storeGroupData acotado cableado texto (Nat.pos_of_ne_zero empty),
      length_textoGrupo (acotado.trans_lt (by decide))]

theorem length_textoGuardado_lt (texto : s.NombresDeTexto) (fits : s.chargerNumber ≤ 39) :
    (textoGuardado (storeGroupData s data)).length < maxGroupBufferSize := by
  rw [length_textoGuardado acotado cableado texto]
  unfold maxGroupBufferSize
  split_ifs <;> omega

/-- What is loaded of a group with members is its text. -/
theorem begins_grupoCargado_of_pos (texto : s.NombresDeTexto) (fits : s.chargerNumber ≤ 39)
    (positive : 0 < s.chargerNumber) :
    Begins (grupoCargado s data ram heap pila).group (s.textoGrupo ++ [0]) := by
  have loaded : Begins (grupoCargado s data ram heap pila).group
      (textoGuardado (storeGroupData s data) ++ [0]) :=
    groupLoad_texto (length_textoGuardado_lt acotado cableado texto fits)
  rwa [textoGuardado_storeGroupData acotado cableado texto positive] at loaded

/-- What is loaded begins with the text of the group. -/
theorem begins_grupoCargado (texto : s.NombresDeTexto) (fits : s.chargerNumber ≤ 39) :
    Begins (grupoCargado s data ram heap pila).group s.textoGrupo := by
  rcases Nat.eq_zero_or_pos s.chargerNumber with empty | positive
  · have loaded : Begins (grupoCargado s data ram heap pila).group
        (textoGuardado (storeGroupData s data) ++ [0]) :=
      groupLoad_texto (length_textoGuardado_lt acotado cableado texto fits)
    rw [textoGuardado_storeGroupData_zero empty] at loaded
    rw [textoGrupo_zero empty]
    exact @Begins.left _ _ (("_CLEAN".toList.map Char.toUInt8) ++ [0]) _ loaded
  · exact (begins_grupoCargado_of_pos acotado cableado texto fits positive).left

/-- The list read is the table. -/
theorem mismoGrupo_grupoCargado (distintos : Distintos s.chargerTable s.chargerNumber)
    (texto : s.NombresDeTexto) (fits : s.chargerNumber ≤ 39)
    (limite : limiteLeido pila s.chargerNumber = s.chargerNumber) :
    ∃ cargado, cargarLista destino (grupoCargado s data ram heap pila).lista = some cargado ∧
      s.MismoGrupo cargado.grupo := by
  have small : s.chargerNumber < 100 := acotado.trans_lt (by decide)
  have begins : Begins (grupoCargado s data ram heap pila).group s.textoGrupo :=
    begins_grupoCargado acotado cableado texto fits
  exact cargarLista_mismoGrupo destino acotado distintos (fun i below => (cableado i below).fase.2)
    (fun i below => (cableado i below).circuito.2.trans (by decide))
    ((s.listado.leida_n small begins).trans limite) (fun i below => guardado_id small begins below)
    (fun i below => guardado_valor small begins below)

/-- The chargers come back to any memory and any device. -/
theorem restaurado_of_arrays (distintos : Distintos s.chargerTable s.chargerNumber)
    (texto : s.NombresDeTexto) (fits : s.chargerNumber ≤ 39)
    (limite : limiteLeido pila s.chargerNumber = s.chargerNumber)
    (params : ∀ i, i < sizeOfGroupParams →
      groupParams (grupoCargado s data ram heap pila).group i =
        groupParams (storeGroupData s data) i)
    (circuits : ∀ i, i < maxGroupSize →
      groupCircuits (grupoCargado s data ram heap pila).group i =
        groupCircuits (storeGroupData s data) i) : Restaurado s destino data ram heap pila := by
  obtain ⟨cargado, loaded, same⟩ : ∃ cargado,
      cargarLista destino (grupoCargado s data ram heap pila).lista = some cargado ∧
        s.MismoGrupo cargado.grupo :=
    mismoGrupo_grupoCargado acotado cableado distintos texto fits limite
  refine ⟨⟨cargado, loaded, same⟩, ⟨ordenarGuardado cargado, ?_, ?_⟩, fun i below => ?_,
    fun i below => ?_⟩
  · rw [getStoredGroupData, loaded, Option.map_some]
  · exact rotado_ordenarGuardado acotado distintos same
  · rw [params i below]
    exact storeGroupData_of_ge fits (Nat.le_add_right _ _)
  · rw [circuits i below]
    exact storeGroupData_of_ge fits (by omega)

/-- A name with a terminator cuts the text: what follows of its record is lost. -/
theorem texto_of_restaurado (restaurado : Restaurado s destino data ram (fun _ => 0) pila) :
    s.NombresDeTexto := by
  have small : s.chargerNumber < 100 := acotado.trans_lt (by decide)
  intro c below j zero
  have short : (textoGuardado (storeGroupData s data)).length ≤ 2 + c * 9 + j := by
    apply length_cString_le
    have cell := (@begins_textoGrupo s data acotado).at_record
      (fun i _ => s.listado.length_registro i) below (show j.val < 9 by omega)
    rw [length_textoNumero small, CaracCharger.guardado, List.getElem?_append_left (by simp),
      List.getElem?_ofFn, dif_pos j.isLt] at cell
    exact (Option.some.inj cell).symm.trans zero
  unfold maxGroupSize at acotado
  have lost : (grupoCargado s data ram (fun _ => 0) pila).lista.valor c = 0 :=
    groupLoad_detras (by omega) (by unfold maxGroupBufferSize; omega)
  rcases restaurado.cargado with ⟨cargado, loaded, same⟩
  rcases cargarLista_cualquiera loaded with ⟨atMost, phases, _⟩
  have fase := phases c (by rw [same.chargerNumber] at atMost; omega)
  rw [same.fase c below, lost] at fase
  have positive := (cableado c below).fase.1
  rw [fase] at positive
  exact absurd positive (by decide)

/-- A circuit without room in the document is not written, whatever it was. -/
theorem cabe_of_restaurado (texto : s.NombresDeTexto)
    (restaurado : Restaurado s destino (fun _ => 0) (fun _ => 1) heap pila) :
    s.chargerNumber ≤ 22 := by
  have short := @length_textoGuardado s (fun _ => 0) acotado cableado texto
  have last := (groupLoad_circuits (show 39 < maxGroupSize by decide)).symm.trans
    (restaurado.circuits 39 (by decide))
  unfold maxGroupSize at acotado
  split_ifs at last with cabe
  · unfold Cabe slotSize at cabe
    split_ifs at short <;> omega
  · exact absurd last (by decide)

/-- A number read too large finds the terminator as the beginning of a name. -/
theorem limite_of_restaurado (distintos : Distintos s.chargerTable s.chargerNumber)
    (texto : s.NombresDeTexto) (fits : s.chargerNumber ≤ 39)
    (restaurado : Restaurado s destino data ram heap pila) :
    limiteLeido pila s.chargerNumber = s.chargerNumber := by
  have small : s.chargerNumber < 100 := acotado.trans_lt (by decide)
  have begins : Begins (grupoCargado s data ram heap pila).group s.textoGrupo :=
    begins_grupoCargado acotado cableado texto fits
  have number : (grupoCargado s data ram heap pila).lista.n = limiteLeido pila s.chargerNumber :=
    s.listado.leida_n small begins
  rcases restaurado.cargado with ⟨cargado, loaded, same⟩
  rcases cargarLista_cualquiera loaded with ⟨atMost, _, least⟩
  rw [same.chargerNumber, number] at atMost least
  by_contra other
  have nombra : ListaGrupo.Nombra
      { (grupoCargado s data ram heap pila).lista with n := s.chargerNumber + 1 } := by
    refine ⟨Nat.succ_le_succ fits, ?_⟩
    have different : ∀ i, i < s.chargerNumber →
        (grupoCargado s data ram heap pila).lista.id i ≠
          (grupoCargado s data ram heap pila).lista.id s.chargerNumber :=
      fun i below => guardado_id_ne small (begins_grupoCargado_of_pos acotado cableado texto fits
        (Nat.zero_lt_of_lt below)) texto below
    intro i j belowI belowJ named
    rcases Nat.lt_succ_iff_lt_or_eq.mp belowI with beforeI | rfl
    · rcases Nat.lt_succ_iff_lt_or_eq.mp belowJ with beforeJ | rfl
      · dsimp only at named
        rw [guardado_id small begins beforeI, guardado_id small begins beforeJ] at named
        exact distintos i j beforeI beforeJ named
      · exact absurd named (different i beforeI)
    · rcases Nat.lt_succ_iff_lt_or_eq.mp belowJ with beforeJ | rfl
      · exact absurd named.symm (different j beforeJ)
      · rfl
  have more := least (s.chargerNumber + 1) (by omega) nombra
  omega

end Ida

/-- A group of at most forty chargers, with distinct names, wired to the phases
of at most forty circuits. -/
structure GroupState.GrupoValido (s : GroupState) : Prop where
  acotado : s.chargerNumber ≤ maxGroupSize
  distintos : Distintos s.chargerTable s.chargerNumber
  cableado : ∀ i, i < s.chargerNumber → (s.chargerTable i).Cableado maxGroupSize

/-- `store_group_in_mem` changes no byte behind `group_data.group`. -/
def SoloEscribeGrupo (s : GroupState) : Prop :=
  ∀ data k, maxGroupBufferSize ≤ k → storeGroupData s data k = data k

theorem soloEscribeGrupo_iff {s : GroupState} (acotado : s.chargerNumber ≤ maxGroupSize) :
    SoloEscribeGrupo s ↔ s.chargerNumber ≤ 39 := by
  constructor
  · intro only
    by_contra more
    unfold maxGroupSize at acotado
    have terminator := @storeGroupData_forty s (fun _ => 1) (by omega)
    rw [groupParams, only _ _ (Nat.le_add_right _ _)] at terminator
    exact absurd terminator (by decide)
  · exact fun fits data k behind => storeGroupData_of_ge fits behind

/-- The round trip in the memory of the device, and the round trip to any other
one, as after a restart. -/
theorem grupo_flash_iff {e : Equipo} {pila : List UInt8} (valido : e.grupo.GrupoValido) :
    ((SoloEscribeGrupo e.grupo ∧
        ∀ data heap, Restaurado e.grupo (storeGroupInMem e) data (storeGroupData e.grupo data)
          heap pila) ↔
      e.grupo.chargerNumber ≤ 39 ∧ e.grupo.NombresDeTexto ∧
        limiteLeido pila e.grupo.chargerNumber = e.grupo.chargerNumber) ∧
    ((∀ destino data ram heap, Restaurado e.grupo destino data ram heap pila) ↔
      e.grupo.chargerNumber ≤ 22 ∧ e.grupo.NombresDeTexto ∧
        limiteLeido pila e.grupo.chargerNumber = e.grupo.chargerNumber) := by
  rcases valido with ⟨acotado, distintos, cableado⟩
  constructor
  · rw [soloEscribeGrupo_iff acotado]
    constructor
    · rintro ⟨fits, restaurado⟩
      have texto := texto_of_restaurado acotado cableado (restaurado (fun _ => 0) fun _ => 0)
      exact ⟨fits, texto, limite_of_restaurado acotado cableado distintos texto fits
        (restaurado (fun _ => 0) fun _ => 0)⟩
    · rintro ⟨fits, texto, limite⟩
      refine ⟨fits, fun data heap => ?_⟩
      apply restaurado_of_arrays acotado cableado distintos texto fits limite
      · exact fun i _ => groupLoad_mismo heap _ (Nat.le_add_right _ _)
      · exact fun i _ => groupLoad_mismo heap _ (by omega)
  · constructor
    · intro restaurado
      have texto := texto_of_restaurado acotado cableado
        (restaurado e (fun _ => 0) (fun _ => 0) fun _ => 0)
      have fits := cabe_of_restaurado acotado cableado texto
        (restaurado e (fun _ => 0) (fun _ => 1) fun _ => 0)
      exact ⟨fits, texto, limite_of_restaurado acotado cableado distintos texto (by omega)
        (restaurado e (fun _ => 0) (fun _ => 0) fun _ => 0)⟩
    · rintro ⟨fits, texto, limite⟩ destino data ram heap
      have short := @length_textoGuardado e.grupo data acotado cableado texto
      apply restaurado_of_arrays acotado cableado distintos texto (by omega) limite
      · intro i below
        apply groupLoad_params _ below
        split_ifs at short <;> omega
      · intro i below
        have cabe : Cabe (storeGroupData e.grupo data) (i + 1) := by
          unfold maxGroupSize at below
          unfold Cabe slotSize
          split_ifs at short <;> omega
        exact (groupLoad_circuits below).trans (if_pos cabe)

/-! ## Groups of two, of twenty-three and of forty -/

theorem grupoDe_name {n i : Nat} (below : i < n) :
    ((grupoDe n).chargerTable i).name = fun _ => UInt8.ofNat (i + 1) := by
  simp [grupoDe, GroupState.inicio, below]

theorem grupoDe_chargerNumber (n : Nat) : (grupoDe n).chargerNumber = n := by
  simp [grupoDe, GroupState.inicio]

theorem grupoDe_valido {n : Nat} (acotado : n ≤ maxGroupSize) : (grupoDe n).GrupoValido where
  acotado := by rwa [grupoDe_chargerNumber]
  distintos := by
    rw [grupoDe_chargerNumber]
    intro i j belowI belowJ same
    rw [grupoDe_name belowI, grupoDe_name belowJ] at same
    have byte := congrArg UInt8.toNat (congrFun same 0)
    rw [UInt8.toNat_ofNat', UInt8.toNat_ofNat'] at byte
    unfold maxGroupSize at acotado
    omega
  cableado := by
    rw [grupoDe_chargerNumber]
    intro i below
    have record : (grupoDe n).chargerTable i =
        { CaracCharger.default with name := fun _ => UInt8.ofNat (i + 1) } := by
      simp [grupoDe, GroupState.inicio, below]
    have wired : CaracCharger.default.Cableado maxGroupSize := by decide
    have fase : ((grupoDe n).chargerTable i).fase = CaracCharger.default.fase := by rw [record]
    have circuito : ((grupoDe n).chargerTable i).circuito = CaracCharger.default.circuito := by
      rw [record]
    exact (CaracCharger.cableado_congr fase circuito).mpr wired

theorem grupoDe_nombresDeTexto {n : Nat} (acotado : n ≤ maxGroupSize) :
    (grupoDe n).NombresDeTexto := by
  rw [GroupState.NombresDeTexto, grupoDe_chargerNumber]
  intro i below j zero
  rw [grupoDe_name below] at zero
  have byte := congrArg UInt8.toNat zero
  rw [UInt8.toNat_ofNat'] at byte
  have none : (0 : UInt8).toNat = 0 := rfl
  unfold maxGroupSize at acotado
  omega

/-- A device of a group of two. -/
def equipoDeDos : Equipo :=
  { equipoVacio with grupo := grupoDe 2 }

/-- Its group comes back, also after a restart. -/
theorem equipoDeDos_restaurado :
    (SoloEscribeGrupo equipoDeDos.grupo ∧
        ∀ data heap, Restaurado equipoDeDos.grupo (storeGroupInMem equipoDeDos) data
          (storeGroupData equipoDeDos.grupo data) heap []) ∧
      ∀ destino data ram heap, Restaurado equipoDeDos.grupo destino data ram heap [] := by
  have valido : equipoDeDos.grupo.GrupoValido := grupoDe_valido (by decide)
  have texto : equipoDeDos.grupo.NombresDeTexto := grupoDe_nombresDeTexto (by decide)
  have limite : limiteLeido [] equipoDeDos.grupo.chargerNumber =
      equipoDeDos.grupo.chargerNumber := by decide
  exact ⟨(grupo_flash_iff valido).1.mpr ⟨by decide, texto, limite⟩,
    (grupo_flash_iff valido).2.mpr ⟨by decide, texto, limite⟩⟩

/-- Forty chargers clear the mark of the master in the stored parameters, and
the last circuits do not come back after a restart from twenty-three on. -/
theorem cuarenta_borran_maestro :
    (grupoDe 40).GrupoValido ∧ groupParams (storeGroupData (grupoDe 40) fun _ => 1) 0 = 0 ∧
      ¬ SoloEscribeGrupo (grupoDe 40) ∧ (grupoDe 23).GrupoValido ∧
      ¬ Restaurado (grupoDe 23) equipoVacio (fun _ => 0) (fun _ => 1) (fun _ => 0) [] := by
  have forty : (grupoDe 40).chargerNumber = 40 := grupoDe_chargerNumber 40
  have twentyThree : (grupoDe 23).chargerNumber = 23 := grupoDe_chargerNumber 23
  have valido := @grupoDe_valido 23 (by decide)
  refine ⟨grupoDe_valido (by decide), storeGroupData_forty forty, ?_, valido, ?_⟩
  · rw [soloEscribeGrupo_iff forty.le, forty]
    decide
  · intro restaurado
    have fits := cabe_of_restaurado valido.acotado valido.cableado
      (grupoDe_nombresDeTexto (by decide)) restaurado
    omega

end VeltiumCharger.Group
