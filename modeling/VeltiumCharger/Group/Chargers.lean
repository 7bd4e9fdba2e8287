import VeltiumCharger.Group.BienFormada
import VeltiumCharger.Library.Buffer

/-!
# The text of a list of chargers

`Send_Chargers` and the `CHARGERS` branch of `hnd_get` write the table into a
buffer of the stack; `New_Group` reads it back at offsets of its own.
-/

namespace VeltiumCharger.Group

open VeltiumCharger.Buffer VeltiumCharger.Loop

/-! ## Writing the list -/

/-- `(Circuito << 2) + Fase`, a `uint8_t`. -/
def CaracCharger.valor (charger : CaracCharger) : UInt8 :=
  charger.circuito <<< 2 + charger.fase

/-- One round of both encoders: the name at place `base + i*11` and the byte in
three digits behind it. -/
def escribirCharger (base : Nat) (s : GroupState) (i : Nat) (buffer : Nat → UInt8) :
    Nat → UInt8 :=
  let buffer := write (base + i * 11) (List.ofFn (s.chargerTable i).name) buffer
  sprintf (base + 8 + i * 11) (textoValor (s.chargerTable i).valor) buffer

/-- `Send_Chargers`: its buffer, from what the stack held. -/
def sendChargers (s : GroupState) (pila : Nat → UInt8) : Nat → UInt8 :=
  forUpTo s.chargerNumber (escribirCharger 2 s)
    (sprintf 0 (textoNumero (UInt8.ofNat s.chargerNumber)) pila)

/-- `GROUP_CHARGERS`. -/
def groupChargers : UInt8 := 3

/-- The `CHARGERS` branch of `hnd_get`: its buffer, from what the stack held. -/
def hndGetChargers (s : GroupState) (pila : Nat → UInt8) : Nat → UInt8 :=
  forUpTo s.chargerNumber (escribirCharger 3 s)
    (sprintf 1 (textoNumero (UInt8.ofNat s.chargerNumber)) (sprintf 0 (decimal groupChargers) pila))

/-- `sizeof(buffer)`, in both encoders. -/
def sizeofBuffer : Nat := 500

/-- The record of a charger in the text. -/
def CaracCharger.registro (charger : CaracCharger) : List UInt8 :=
  List.ofFn charger.name ++ textoValor charger.valor

/-- The text of the list. -/
def GroupState.textoChargers (s : GroupState) : List UInt8 :=
  textoNumero (UInt8.ofNat s.chargerNumber) ++
    records s.chargerNumber fun i => (s.chargerTable i).registro

section Texto

variable {s : GroupState} {buffer pila : Nat → UInt8}

theorem length_registro (charger : CaracCharger) : charger.registro.length = 11 := by
  rcases textoValor_eq charger.valor with ⟨_, _, digits⟩
  rw [CaracCharger.registro, List.length_append, List.length_ofFn, digits]

/-- A round writes its record over the terminator. -/
theorem begins_escribirCharger {texto : List UInt8} {base i : Nat}
    (begins : Begins buffer (texto ++ [0])) (here : base + i * 11 = texto.length) :
    Begins (escribirCharger base s i buffer) (texto ++ (s.chargerTable i).registro ++ [0]) := by
  unfold escribirCharger
  dsimp only
  rw [here]
  have named := begins.left.write (List.ofFn (s.chargerTable i).name)
  rw [CaracCharger.registro, ← List.append_assoc texto]
  apply begins_sprintf named
  rw [List.length_append, List.length_ofFn]
  omega

/-- All rounds: the records follow what was in the buffer. -/
theorem begins_chargers {texto : List UInt8} {base : Nat} (begins : Begins buffer (texto ++ [0]))
    (here : base = texto.length) :
    Begins (forUpTo s.chargerNumber (escribirCharger base s) buffer)
      (texto ++ (records s.chargerNumber fun i => (s.chargerTable i).registro) ++ [0]) := by
  apply forUpTo_induction (fun i current =>
    Begins current (texto ++ (records i fun i => (s.chargerTable i).registro) ++ [0]))
  · rw [records_zero, List.append_nil]
    exact begins
  · intro i _ current written
    rw [records_succ, ← List.append_assoc texto]
    apply begins_escribirCharger written
    rw [List.length_append, length_records fun i _ => length_registro (s.chargerTable i), here]

/-- The names of the table contain no terminator. -/
def GroupState.NombresDeTexto (s : GroupState) : Prop :=
  ∀ i, i < s.chargerNumber → ∀ j, (s.chargerTable i).name j ≠ 0

theorem zero_notMem_textoChargers (small : s.chargerNumber < 100) (texto : s.NombresDeTexto) :
    (0 : UInt8) ∉ s.textoChargers := by
  intro member
  rcases List.mem_append.mp member with first | later
  · rcases textoNumero_eq small with ⟨ceros, same, _⟩
    rw [same] at first
    exact zero_notMem_map (isDigit_rellenado ceros _) first
  · rcases mem_records.mp later with ⟨i, below, here⟩
    rcases List.mem_append.mp here with name | digits
    · rcases List.mem_ofFn.mp name with ⟨j, zero⟩
      exact texto i below j zero
    · rcases textoValor_eq (s.chargerTable i).valor with ⟨ceros, same, _⟩
      rw [same] at digits
      exact zero_notMem_map (isDigit_rellenado ceros _) digits

theorem length_textoChargers (small : s.chargerNumber < 100) :
    s.textoChargers.length = 2 + s.chargerNumber * 11 := by
  rw [GroupState.textoChargers, List.length_append, length_textoNumero small,
    length_records fun i _ => length_registro (s.chargerTable i)]

/-- What `Send_Chargers` sends is the text of the list. -/
theorem cString_sendChargers (bounded : s.chargerNumber ≤ maxGroupSize)
    (texto : s.NombresDeTexto) :
    cString 0 sizeofBuffer (sendChargers s pila) = s.textoChargers := by
  have small : s.chargerNumber < 100 := bounded.trans_lt (by decide)
  apply cString_of_begins
  · apply begins_chargers
    · exact begins_sprintf begins_nil rfl
    · exact (length_textoNumero small).symm
  · exact zero_notMem_textoChargers small texto
  · rw [length_textoChargers small]
    unfold sizeofBuffer
    unfold maxGroupSize at bounded
    omega

/-- `hnd_get` sends the same text behind the digit of `GROUP_CHARGERS`. -/
theorem cString_hndGetChargers (bounded : s.chargerNumber ≤ maxGroupSize)
    (texto : s.NombresDeTexto) :
    cString 0 sizeofBuffer (hndGetChargers s pila) = '3'.toUInt8 :: s.textoChargers := by
  have small : s.chargerNumber < 100 := bounded.trans_lt (by decide)
  apply cString_of_begins
  · rw [GroupState.textoChargers, ← List.cons_append]
    apply begins_chargers
    · have three : Begins (sprintf 0 (decimal groupChargers) pila)
          (['3'.toUInt8] ++ [0]) :=
        begins_sprintf begins_nil rfl
      exact begins_sprintf three.left rfl
    · rw [List.length_cons, length_textoNumero small]
  · intro member
    rcases List.mem_cons.mp member with first | later
    · exact absurd first (by decide)
    · exact zero_notMem_textoChargers small texto later
  · rw [List.length_cons, length_textoChargers small]
    unfold sizeofBuffer
    unfold maxGroupSize at bounded
    omega

end Texto

/-! ## Reading the list -/

/-- The message carries a text; behind it there is whatever there is. -/
structure MensajeChargers.Lleva (m : MensajeChargers) (texto : List UInt8) : Prop where
  dataSize : m.dataSize = texto.length
  data : Begins m.data texto

section Lectura

variable {s : GroupState} {m : MensajeChargers}

theorem lista_n (small : s.chargerNumber < 100) (lleva : m.Lleva s.textoChargers)
    (sin : SinDigito m.pilaN) : m.lista.n = s.chargerNumber := by
  have read := lleva.data.left.eq_map
  rw [length_textoNumero small] at read
  rw [← limiteLeido_of_sinDigito small sin, limiteLeido, ← read]
  rfl

/-- Each byte of a record is read at its place. -/
theorem registro_leido (small : s.chargerNumber < 100) (lleva : m.Lleva s.textoChargers)
    {i j : Nat} (below : i < s.chargerNumber) (inside : j < 11) :
    (s.chargerTable i).registro[j]? = some (m.data (2 + i * 11 + j)) := by
  rw [← length_textoNumero small]
  exact lleva.data.at_record (fun i _ => length_registro (s.chargerTable i)) below inside

theorem lista_id (small : s.chargerNumber < 100) (lleva : m.Lleva s.textoChargers) {i : Nat}
    (below : i < s.chargerNumber) : m.lista.id i = (s.chargerTable i).name :=
  nombre_leido fun _ inside => registro_leido small lleva below (by omega)

theorem lista_valor (small : s.chargerNumber < 100) (lleva : m.Lleva s.textoChargers) {i : Nat}
    (below : i < s.chargerNumber) (sin : SinDigito (m.pilaV i)) :
    m.lista.valor i = (s.chargerTable i).valor := by
  rcases textoValor_eq (s.chargerTable i).valor with ⟨ceros, digits, three⟩
  have begins : Begins (fun k => m.data (10 + i * 11 + k))
      (textoValor (s.chargerTable i).valor) := by
    intro k inside
    rw [three] at inside
    have cell := registro_leido small lleva below (show 8 + k < 11 by omega)
    rwa [CaracCharger.registro, List.getElem?_append_right (by simp), List.length_ofFn,
      Nat.add_sub_cancel_left, show 2 + i * 11 + (8 + k) = 10 + i * 11 + k by omega] at cell
  have text : m.data (10 + i * 11) :: m.data (10 + i * 11 + 1) :: m.data (10 + i * 11 + 2) ::
      m.pilaV i = (rellenado ceros (s.chargerTable i).valor.toNat).map Char.toUInt8 ++
        m.pilaV i := by
    have read := begins.eq_map
    rw [three, digits] at read
    rw [← read]
    rfl
  apply UInt8.toNat_inj.mp
  rw [MensajeChargers.lista]
  dsimp only
  rw [text, atoi_rellenado ceros _ sin, toNat_ofInt_natCast (UInt8.toNat_lt _)]

end Lectura

/-- A phase and a circuit come back from the byte that holds both. -/
theorem desempaquetar {charger : CaracCharger} (fase : charger.fase.toNat ≤ 3)
    (circuito : charger.circuito.toNat ≤ 63) :
    charger.valor &&& 3 = charger.fase ∧ charger.valor >>> 2 = charger.circuito := by
  have value : charger.valor.toNat = charger.circuito.toNat * 4 + charger.fase.toNat := by
    rw [CaracCharger.valor, UInt8.toNat_add, UInt8.toNat_shiftLeft, Nat.shiftLeft_eq]
    have two : (2 : UInt8).toNat % 8 = 2 := rfl
    rw [two]
    omega
  constructor
  · apply UInt8.toNat_inj.mp
    rw [UInt8.toNat_and, value, show (3 : UInt8).toNat = 2 ^ 2 - 1 from rfl,
      Nat.and_two_pow_sub_one_eq_mod]
    omega
  · apply UInt8.toNat_inj.mp
    rw [UInt8.toNat_shiftRight, value, Nat.shiftRight_eq_div_pow]
    have two : (2 : UInt8).toNat % 8 = 2 := rfl
    rw [two]
    omega

/-- The table of `e` holds the chargers of `s` with their wiring, in their order. -/
structure GroupState.MismoGrupo (s other : GroupState) : Prop where
  chargerNumber : other.chargerNumber = s.chargerNumber
  name : ∀ i, i < s.chargerNumber → (other.chargerTable i).name = (s.chargerTable i).name
  fase : ∀ i, i < s.chargerNumber → (other.chargerTable i).fase = (s.chargerTable i).fase
  circuito : ∀ i, i < s.chargerNumber →
    (other.chargerTable i).circuito = (s.chargerTable i).circuito

/-- Loading a list that says what is in the table. -/
theorem cargarLista_mismoGrupo {s : GroupState} {lista : ListaGrupo} (e : Equipo)
    (acotado : s.chargerNumber ≤ maxGroupSize)
    (distintos : Distintos s.chargerTable s.chargerNumber)
    (fase : ∀ i, i < s.chargerNumber → (s.chargerTable i).fase.toNat ≤ 3)
    (circuito : ∀ i, i < s.chargerNumber → (s.chargerTable i).circuito.toNat ≤ 63)
    (number : lista.n = s.chargerNumber)
    (id : ∀ i, i < s.chargerNumber → lista.id i = (s.chargerTable i).name)
    (valor : ∀ i, i < s.chargerNumber → lista.valor i = (s.chargerTable i).valor) :
    ∃ recibido, cargarLista e lista = some recibido ∧ s.MismoGrupo recibido.grupo := by
  have nombra : lista.Nombra := by
    refine ⟨number.trans_le acotado, fun i j belowI belowJ same => ?_⟩
    rw [number] at belowI belowJ
    rw [id i belowI, id j belowJ] at same
    exact distintos i j belowI belowJ same
  have cell : ∀ i, i < s.chargerNumber →
      (e.conLista lista).grupo.chargerTable i = e.cargado lista i :=
    fun i below => if_pos (number ▸ below)
  refine ⟨e.conLista lista, cargarLista_eq nombra, ?_⟩
  refine ⟨number, fun i below => ?_, fun i below => ?_, fun i below => ?_⟩
  · rw [cell i below, Equipo.cargado_name, id i below]
  · rw [cell i below, Equipo.cargado_fase, valor i below]
    exact (desempaquetar (fase i below) (circuito i below)).1
  · rw [cell i below, Equipo.cargado_circuito, valor i below]
    exact (desempaquetar (fase i below) (circuito i below)).2

/-- The text that `New_Group` is given is that of one of the two encoders. -/
def MensajeChargers.Codifica (m : MensajeChargers) (s : GroupState) (pila : Nat → UInt8) : Prop :=
  m.Lleva (cString 0 sizeofBuffer (sendChargers s pila)) ∨
    m.Lleva ((cString 0 sizeofBuffer (hndGetChargers s pila)).drop 1)

/-- What follows the texts `n` and `v` of `New_Group` is no digit. -/
structure MensajeChargers.PilaSinDigitos (m : MensajeChargers) : Prop where
  n : SinDigito m.pilaN
  v : ∀ i, SinDigito (m.pilaV i)

/-- What the encoders write is what `New_Group` takes over, up to the rotation
that puts the master first. -/
theorem chargers_ida_y_vuelta {s : GroupState} {pila : Nat → UInt8} {m : MensajeChargers}
    {e : Equipo} (acotado : s.chargerNumber ≤ maxGroupSize)
    (distintos : Distintos s.chargerTable s.chargerNumber) (texto : s.NombresDeTexto)
    (fase : ∀ i, i < s.chargerNumber → (s.chargerTable i).fase.toNat ≤ 3)
    (circuito : ∀ i, i < s.chargerNumber → (s.chargerTable i).circuito.toNat ≤ 63)
    (codifica : m.Codifica s pila) (sin : m.PilaSinDigitos) :
    ∃ recibido, cargarLista e m.lista = some recibido ∧ s.MismoGrupo recibido.grupo ∧
      newGroup m e = some (storeGroupInMem recibido) := by
  have small : s.chargerNumber < 100 := acotado.trans_lt (by decide)
  have lleva : m.Lleva s.textoChargers := by
    rcases codifica with sent | got
    · rwa [cString_sendChargers acotado texto] at sent
    · rwa [cString_hndGetChargers acotado texto, List.drop_one, List.tail_cons] at got
  rcases cargarLista_mismoGrupo e acotado distintos fase circuito (lista_n small lleva sin.n)
    (fun i below => lista_id small lleva below)
    (fun i below => lista_valor small lleva below (sin.v i)) with ⟨recibido, loaded, same⟩
  have positive : ¬ m.dataSize ≤ 0 := by
    rw [lleva.dataSize, length_textoChargers small]
    omega
  refine ⟨recibido, loaded, same, ?_⟩
  rw [newGroup, if_neg positive, loaded, Option.map_some]

/-- The message of a text with nothing behind it. -/
def MensajeChargers.deBytes (texto : List UInt8) : MensajeChargers where
  data i := texto.getD i 0
  dataSize := texto.length
  pilaN := []
  pilaV _ := []

theorem lleva_deBytes (texto : List UInt8) : (MensajeChargers.deBytes texto).Lleva texto where
  dataSize := rfl
  data k below := by
    show texto[k]? = some (texto.getD k 0)
    rw [List.getD_eq_getElem?_getD, List.getElem?_eq_getElem below, Option.getD_some]

/-- The list that the master of a group of three sends. -/
def mensajeTres : MensajeChargers :=
  .deBytes (cString 0 sizeofBuffer (sendChargers (grupoDe 3) fun _ => 7))

/-- A new member takes it over. -/
theorem chargers_ida_y_vuelta_tres :
    ∃ recibido, cargarLista equipoVacio mensajeTres.lista = some recibido ∧
      (grupoDe 3).MismoGrupo recibido.grupo ∧
      newGroup mensajeTres equipoVacio = some (storeGroupInMem recibido) := by
  refine chargers_ida_y_vuelta (by decide) (by decide) ?_ ?_ ?_ (.inl (lleva_deBytes _)) ⟨?_, ?_⟩
  · show ∀ i, i < 3 → ∀ j, ((grupoDe 3).chargerTable i).name j ≠ 0
    decide
  · show ∀ i, i < 3 → _
    decide
  · show ∀ i, i < 3 → _
    decide
  · exact fun c nothing => nomatch nothing
  · exact fun i c nothing => nomatch nothing

end VeltiumCharger.Group
