import VeltiumCharger.Group.Flash
import VeltiumCharger.Group.Numeros

/-!
# A list of chargers over Bluetooth

`onWrite` copies the list into `group_data.group` as a text: the number and nine
bytes for each charger.  The group is then stored and loaded again, and
`Get_Stored_Group_Data` takes apart what has come back: the text up to its
first zero, and behind it whatever the copied string had behind its end.
-/

namespace VeltiumCharger.Group

open VeltiumCharger.Buffer VeltiumCharger.Loop

/-! ## A list in the buffer -/

/-- The record of a charger in the buffer. -/
def ListaGrupo.registro (lista : ListaGrupo) (i : Nat) : List UInt8 :=
  List.ofFn (lista.id i) ++ [lista.valor i]

/-- The number and the records of the list. -/
def ListaGrupo.texto (lista : ListaGrupo) : List UInt8 :=
  textoNumero (UInt8.ofNat lista.n) ++ records lista.n lista.registro

/-- One round of the loops that write a list into the buffer. -/
def guardarRegistro (lista : ListaGrupo) (i : Nat) (data : Nat → UInt8) : Nat → UInt8 :=
  let data := write (2 + i * 9) (List.ofFn (lista.id i)) data
  write (10 + i * 9) [lista.valor i] data

/-- No name of the list has a zero. -/
def ListaGrupo.NombresDeTexto (lista : ListaGrupo) : Prop :=
  ∀ i, i < lista.n → ∀ j, lista.id i j ≠ 0

instance (lista : ListaGrupo) : Decidable lista.NombresDeTexto :=
  inferInstanceAs (Decidable (∀ i, i < lista.n → _))

/-- No record of the list has a zero. -/
def ListaGrupo.SinCeros (lista : ListaGrupo) : Prop :=
  lista.NombresDeTexto ∧ ∀ i, i < lista.n → lista.valor i ≠ 0

section Texto

variable {lista : ListaGrupo} {data : Nat → UInt8}

theorem ListaGrupo.length_registro (lista : ListaGrupo) (i : Nat) :
    (lista.registro i).length = 9 := by
  rw [registro, List.length_append, List.length_ofFn, List.length_singleton]

theorem ListaGrupo.length_texto (small : lista.n < 100) :
    lista.texto.length = 2 + lista.n * 9 := by
  rw [texto, List.length_append, length_textoNumero small,
    length_records fun i _ => lista.length_registro i]

theorem begins_guardarRegistro {texto : List UInt8} {i : Nat} (begins : Begins data texto)
    (here : 2 + i * 9 = texto.length) :
    Begins (guardarRegistro lista i data) (texto ++ lista.registro i) := by
  unfold guardarRegistro
  dsimp only
  rw [show 10 + i * 9 = 2 + i * 9 + 8 by omega, here]
  have named := begins.write (List.ofFn (lista.id i))
  have valued := named.write [lista.valor i]
  rwa [List.length_append, List.length_ofFn, List.append_assoc] at valued

/-- All rounds and the terminator, behind the number. -/
theorem begins_guardarLista (small : lista.n < 100) :
    Begins (write (2 + lista.n * 9) [0] (forUpTo lista.n (guardarRegistro lista)
      (sprintf 0 (textoNumero (UInt8.ofNat lista.n)) data))) (lista.texto ++ [0]) := by
  have written : Begins (forUpTo lista.n (guardarRegistro lista)
      (sprintf 0 (textoNumero (UInt8.ofNat lista.n)) data)) lista.texto := by
    apply forUpTo_induction (fun i current => Begins current
      (textoNumero (UInt8.ofNat lista.n) ++ records i lista.registro))
    · rw [records_zero, List.append_nil]
      exact (begins_sprintf begins_nil rfl).left
    · intro i _ current begins
      rw [records_succ, ← List.append_assoc]
      apply begins_guardarRegistro begins
      rw [List.length_append, length_textoNumero small,
        length_records fun i _ => lista.length_registro i]
  rw [← ListaGrupo.length_texto small]
  exact written.write [0]

theorem ListaGrupo.SinCeros.notMem (sin : lista.SinCeros) (small : lista.n < 100) :
    (0 : UInt8) ∉ lista.texto := by
  intro member
  rcases List.mem_append.mp member with number | later
  · rcases textoNumero_eq small with ⟨ceros, same, _⟩
    rw [same] at number
    exact zero_notMem_map (isDigit_rellenado ceros _) number
  · rcases mem_records.mp later with ⟨i, below, here⟩
    rcases List.mem_append.mp here with name | value
    · rcases List.mem_ofFn.mp name with ⟨j, zero⟩
      exact sin.1 i below j zero
    · exact sin.2 i below (List.mem_singleton.mp value).symm

variable {b : GrupoGuardado}

theorem ListaGrupo.leida_n {texto : List UInt8} (small : lista.n < 100)
    (begins : Begins b.group (textoNumero (UInt8.ofNat lista.n) ++ texto)) :
    b.lista.n = limiteLeido b.pila lista.n := by
  have read := begins.left.eq_map
  rw [length_textoNumero small] at read
  rw [limiteLeido, ← read]
  rfl

theorem ListaGrupo.leido (small : lista.n < 100) (begins : Begins b.group lista.texto)
    {i j : Nat} (below : i < lista.n) (inside : j < 9) :
    (lista.registro i)[j]? = some (b.group (2 + i * 9 + j)) := by
  rw [← length_textoNumero small]
  exact begins.at_record (fun i _ => lista.length_registro i) below inside

theorem ListaGrupo.leida_id (small : lista.n < 100) (begins : Begins b.group lista.texto)
    {i : Nat} (below : i < lista.n) : b.lista.id i = lista.id i :=
  nombre_leido fun _ inside => ListaGrupo.leido small begins below (by omega)

theorem ListaGrupo.leida_valor (small : lista.n < 100) (begins : Begins b.group lista.texto)
    {i : Nat} (below : i < lista.n) : b.lista.valor i = lista.valor i := by
  have cell := ListaGrupo.leido small begins below (show 8 < 9 by omega)
  rw [ListaGrupo.registro, List.getElem?_append_right (by simp), List.length_ofFn,
    Nat.sub_self, List.getElem?_cons_zero, show 2 + i * 9 + 8 = 10 + i * 9 by omega] at cell
  exact (Option.some.inj cell).symm

end Texto

/-! ## The write -/

/-- What a client writes: a number, and for each charger its name and the byte with
the circuit and the phase. -/
def listaBle (payload : Nat → UInt8) : ListaGrupo where
  n := (payload 0).toNat
  id i := fun j => payload (1 + i * 9 + j)
  valor i := payload (9 + i * 9)

/-- `Configuracion.group_data` once `onWrite` has copied the list; `previo` is what it
held. -/
def grupoBleData (payload previo : Nat → UInt8) : Nat → UInt8 :=
  let size := payload 0
  let data := sprintf 0 (textoNumero size) previo
  if 0 < size then
    write (2 + size.toNat * 9) [0]
      (forUpTo size.toNat (guardarRegistro (listaBle payload)) data)
  else
    let data := write 0 (List.replicate maxGroupBufferSize 0) data
    let data := sprintf 0 ("00_CLEAN".toList.map Char.toUInt8) data
    write 8 [0] data

/-- `Configuracion.group_data` once the group has been stored and loaded again: the
task of the configuration does both while the two functions wait. -/
def grupoBle (payload previo heap : Nat → UInt8) : Nat → UInt8 :=
  let data := grupoBleData payload previo
  groupLoad heap (groupStore data) data

/-- A list of chargers written over Bluetooth. -/
def bleGrupo (payload previo heap : Nat → UInt8) (pila : List UInt8) (e : Equipo) :
    Option Equipo :=
  (getStoredGroupData ⟨grupoBle payload previo heap, pila⟩ e).map fun e =>
    { e with sendNewGroup := true }

section Escritura

variable {payload previo heap : Nat → UInt8} {pila : List UInt8}

theorem begins_grupoBleData (few : (listaBle payload).n ≤ maxGroupSize)
    (positive : 0 < (listaBle payload).n) :
    Begins (grupoBleData payload previo) ((listaBle payload).texto ++ [0]) := by
  have some : 0 < payload 0 := UInt8.lt_iff_toNat_lt.mpr positive
  have same : UInt8.ofNat (listaBle payload).n = payload 0 := UInt8.ofNat_toNat
  have written := @begins_guardarLista (listaBle payload) previo (few.trans_lt (by decide))
  rw [same] at written
  unfold grupoBleData
  dsimp only
  rw [if_pos some]
  exact written

theorem begins_grupoBleData_zero (empty : (listaBle payload).n = 0) :
    Begins (grupoBleData payload previo) ("00_CLEAN".toList.map Char.toUInt8 ++ [0]) := by
  have none : ¬ 0 < payload 0 := by
    rw [UInt8.lt_iff_toNat_lt, show (payload 0).toNat = 0 from empty]
    exact Nat.lt_irrefl 0
  unfold grupoBleData
  dsimp only
  rw [if_neg none]
  have text : Begins (sprintf 0 ("00_CLEAN".toList.map Char.toUInt8)
      (write 0 (List.replicate maxGroupBufferSize 0)
        (sprintf 0 (textoNumero (payload 0)) previo)))
      ("00_CLEAN".toList.map Char.toUInt8 ++ [0]) := begins_write_zero _ _
  exact text.left.write [0]

/-- A list without zeros comes back as it was written. -/
theorem begins_grupoBle (few : (listaBle payload).n ≤ maxGroupSize)
    (sin : (listaBle payload).SinCeros) (positive : 0 < (listaBle payload).n) :
    Begins (grupoBle payload previo heap) (listaBle payload).texto := by
  have small : (listaBle payload).n < 100 := few.trans_lt (by decide)
  have size := ListaGrupo.length_texto small
  have stored : textoGuardado (grupoBleData payload previo) = (listaBle payload).texto := by
    apply cString_of_begins (begins_grupoBleData few positive) (sin.notMem small)
    rw [size]
    unfold capacidad
    unfold maxGroupSize at few
    omega
  rw [← stored]
  apply groupLoad_lleno
  rw [stored, size]
  unfold maxGroupBufferSize
  unfold maxGroupSize at few
  omega

/-- The list that `Get_Stored_Group_Data` reads then is the one written. -/
theorem lista_grupoBle (few : (listaBle payload).n ≤ maxGroupSize)
    (sin : (listaBle payload).SinCeros)
    (number : limiteLeido pila (listaBle payload).n = (listaBle payload).n) :
    (GrupoGuardado.lista ⟨grupoBle payload previo heap, pila⟩).n = (listaBle payload).n ∧
      ∀ i, i < (listaBle payload).n →
        (GrupoGuardado.lista ⟨grupoBle payload previo heap, pila⟩).id i =
            (listaBle payload).id i ∧
          (GrupoGuardado.lista ⟨grupoBle payload previo heap, pila⟩).valor i =
            (listaBle payload).valor i := by
  have small : (listaBle payload).n < 100 := few.trans_lt (by decide)
  rcases Nat.eq_zero_or_pos (listaBle payload).n with empty | positive
  · have loaded : Begins (grupoBle payload previo heap)
        ("00_CLEAN".toList.map Char.toUInt8) := by
      have stored : textoGuardado (grupoBleData payload previo) =
          "00_CLEAN".toList.map Char.toUInt8 :=
        cString_of_begins (begins_grupoBleData_zero empty) (by decide) (by decide)
      rw [← stored]
      apply groupLoad_lleno
      rw [stored]
      decide
    have begins : Begins (grupoBle payload previo heap)
        (textoNumero (UInt8.ofNat (listaBle payload).n) ++ "_CLEAN".toList.map Char.toUInt8) := by
      rw [empty]
      exact loaded
    refine ⟨(ListaGrupo.leida_n small begins).trans number, fun i below => ?_⟩
    rw [empty] at below
    exact absurd below (Nat.not_lt_zero i)
  · have begins := @begins_grupoBle payload previo heap few sin positive
    exact ⟨(ListaGrupo.leida_n small begins).trans number, fun i below =>
      ⟨ListaGrupo.leida_id small begins below, ListaGrupo.leida_valor small begins below⟩⟩

end Escritura

end VeltiumCharger.Group
