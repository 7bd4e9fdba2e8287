import VeltiumCharger.Group.Chargers
import VeltiumCharger.Group.Flash

/-!
# The limits of the circuits in flash

The list of limits written over Bluetooth, the text that `Send_Circuits` builds
and `New_Circuit` reads, what each writer leaves in `group_data.circuits`, and
what `Get_Stored_Group_Circuits` makes of it.
-/

namespace VeltiumCharger.Group

open VeltiumCharger.Buffer VeltiumCharger.Loop

/-! ## The two writers -/

/-- The circuits written over Bluetooth: what they leave in `group_data`. -/
def bleCircuitsData (payload : Nat → UInt8) (data : Nat → UInt8) : Nat → UInt8 :=
  escribirCircuits ((List.range ((payload 0).toNat + 1)).map payload) data

/-- `buffer` of `New_Circuit`: the number and the limits. -/
def MensajeCircuits.buffer (m : MensajeCircuits) : List UInt8 :=
  UInt8.ofNat m.size :: (List.range m.size).map fun i => m.data (i + 2)

/-- `New_Circuit`: what it leaves in `group_data`, the first `size` bytes of its
buffer of `size + 1`. -/
def newCircuitData (m : MensajeCircuits) (data : Nat → UInt8) : Nat → UInt8 :=
  if m.dataSize ≤ 0 then data else escribirCircuits (m.buffer.take m.size) data

/-- `Send_Circuits`: its buffer, from what the stack held.  No terminator follows
the limits. -/
def sendCircuits (s : GroupState) (pila : Nat → UInt8) : Nat → UInt8 :=
  forUpTo s.circuitNumber (fun i buffer => write (i + 2) [(s.circuitos i).limiteCorriente] buffer)
    (sprintf 0 (textoNumero (UInt8.ofNat s.circuitNumber)) pila)

/-- The message carries a text; behind it there is whatever there is. -/
structure MensajeCircuits.Lleva (m : MensajeCircuits) (texto : List UInt8) : Prop where
  dataSize : m.dataSize = texto.length
  data : Begins m.data texto

/-- `buffer_circuits` of `Get_Stored_Group_Circuits`, of forty bytes; `pila`
follows it. -/
def bufferCircuits (data pila : Nat → UInt8) (i : Nat) : UInt8 :=
  if i < maxGroupSize then groupCircuits data i else pila i

/-! ## What a list of circuits leaves -/

/-- The circuits of `s`: their number and their limits. -/
structure GroupState.MismosCircuitos (s other : GroupState) : Prop where
  circuitNumber : other.circuitNumber = s.circuitNumber
  limites : ∀ i, i < s.circuitNumber →
    (other.circuitos i).limiteCorriente = (s.circuitos i).limiteCorriente

/-- The limits of `s`, as a list. -/
def GroupState.limites (s : GroupState) : List UInt8 :=
  (List.range s.circuitNumber).map fun i => (s.circuitos i).limiteCorriente

/-- The circuits of `s` as they are written and stored: their number and their
limits. -/
def GroupState.EnBytes (s : GroupState) (bytes : Nat → UInt8) : Prop :=
  (bytes 0).toNat = s.circuitNumber ∧
    ∀ i, i < s.circuitNumber → bytes (i + 1) = (s.circuitos i).limiteCorriente

section Cargar

variable {s : GroupState} {e : Equipo} {size : Nat} {limites : Nat → UInt8}

theorem ponerCircuitos_limite {i : Nat} (below : i < size) :
    ((ponerCircuitos size limites s).circuitos i).limiteCorriente = limites i := by
  unfold ponerCircuitos
  dsimp only
  rw [forUpTo_update (fun i circuito => CaracCircuito.numerar i (limites i) circuito),
    if_pos below]
  rfl

/-- A list of circuits is taken over as it is, if it stays in `Circuitos`. -/
theorem cargarCircuitos_mismos (acotado : s.circuitNumber ≤ maxGroupSize) :
    (∃ after, cargarCircuitos size limites e = some after ∧ s.MismosCircuitos after.grupo) ↔
      size = s.circuitNumber ∧
        ∀ i, i < s.circuitNumber → limites i = (s.circuitos i).limiteCorriente := by
  unfold cargarCircuitos
  constructor
  · rintro ⟨after, loaded, number, same⟩
    split_ifs at loaded
    cases loaded
    have equal : size = s.circuitNumber := number
    refine ⟨equal, fun i below => ?_⟩
    rw [← same i below]
    exact (ponerCircuitos_limite (equal ▸ below)).symm
  · rintro ⟨rfl, same⟩
    refine ⟨_, if_pos acotado, rfl, fun i below => ?_⟩
    rw [← same i below]
    exact ponerCircuitos_limite below

/-- The same for a load of the buffer. -/
theorem getStoredGroupCircuits_mismos {circuits : Nat → UInt8}
    (acotado : s.circuitNumber ≤ maxGroupSize) :
    (∃ after, getStoredGroupCircuits circuits e = some after ∧ s.MismosCircuitos after.grupo) ↔
      s.EnBytes circuits :=
  cargarCircuitos_mismos acotado

end Cargar

/-! ## What a load gives -/

/-- `data` is what a writer left in memory, a load copies it over `ram`, and
`destino` takes the circuits of `s` over; on a master, `after`, the writer had
given them already. -/
def CircuitosGuardados (s : GroupState) (data ram heap pila : Nat → UInt8)
    (after destino : Equipo) : Prop :=
  ∃ cargado, getStoredGroupCircuits
      (bufferCircuits (groupLoad heap (groupStore data) ram) pila) destino = some cargado ∧
    s.MismosCircuitos cargado.grupo ∧
    (after.esMaestro = true → cargado.grupo.MismosCircuitos after.grupo)

/-- A writer leaves `after` and `data`, and a load in the same memory gives the
circuits of `s`. -/
def GuardaCircuitos (s : GroupState) (data : Nat → UInt8) (after : Option Equipo) : Prop :=
  ∃ equipo, after = some equipo ∧
    ∀ heap pila, CircuitosGuardados s data data heap pila equipo equipo

/-- The same for a load over any memory on any device, as after a restart. -/
def RecuperaCircuitos (s : GroupState) (data : Nat → UInt8) (after : Option Equipo) : Prop :=
  ∃ equipo, after = some equipo ∧
    ∀ ram heap pila destino, CircuitosGuardados s data ram heap pila equipo destino

section Guardados

variable {s : GroupState} {data ram heap pila : Nat → UInt8} {after destino : Equipo}

theorem GroupState.MismosCircuitos.congr {first second : GroupState}
    (one : s.MismosCircuitos first) : first.MismosCircuitos second ↔ s.MismosCircuitos second := by
  constructor
  · rintro ⟨number, limits⟩
    refine ⟨number.trans one.circuitNumber, fun i below => ?_⟩
    rw [limits i (one.circuitNumber.symm ▸ below), one.limites i below]
  · rintro ⟨number, limits⟩
    refine ⟨number.trans one.circuitNumber.symm, fun i below => ?_⟩
    have inside : i < s.circuitNumber := one.circuitNumber ▸ below
    rw [limits i inside, one.limites i inside]

theorem circuitosGuardados_iff (acotado : s.circuitNumber ≤ maxGroupSize) :
    CircuitosGuardados s data ram heap pila after destino ↔
      s.EnBytes (bufferCircuits (groupLoad heap (groupStore data) ram) pila) ∧
      (after.esMaestro = true → s.MismosCircuitos after.grupo) := by
  rw [← getStoredGroupCircuits_mismos (e := destino) acotado]
  constructor
  · rintro ⟨cargado, loaded, same, ram⟩
    exact ⟨⟨cargado, loaded, same⟩, fun master => same.congr.mp (ram master)⟩
  · rintro ⟨⟨cargado, loaded, same⟩, ram⟩
    exact ⟨cargado, loaded, same, fun master => same.congr.mpr (ram master)⟩

theorem bufferCircuits_mismo {i : Nat} (below : i < maxGroupSize) :
    bufferCircuits (groupLoad heap (groupStore data) data) pila i = groupCircuits data i := by
  rw [bufferCircuits, if_pos below]
  exact groupLoad_mismo heap data (by omega)

theorem bufferCircuits_otra {i : Nat} (below : i < maxGroupSize) :
    bufferCircuits (groupLoad heap (groupStore data) ram) pila i =
      if Cabe data (i + 1) then groupCircuits data i else groupCircuits ram i := by
  rw [bufferCircuits, if_pos below]
  exact groupLoad_circuits below

/-- The fortieth limit is read behind the buffer. -/
theorem circuitNumber_le_of_guardados (acotado : s.circuitNumber ≤ maxGroupSize)
    (guardados : CircuitosGuardados s data ram heap
      (fun _ => (s.circuitos 39).limiteCorriente + 1) after destino) : s.circuitNumber ≤ 39 := by
  by_contra more
  unfold maxGroupSize at acotado
  have last := ((circuitosGuardados_iff acotado).mp guardados).1.2 39 (by omega)
  rw [bufferCircuits, if_neg (by decide)] at last
  simp at last

/-- In the same memory the circuits come back that were stored, less the
fortieth, which the buffer has no room for. -/
theorem guardaCircuitos_iff (acotado : s.circuitNumber ≤ maxGroupSize) {after : Option Equipo} :
    GuardaCircuitos s data after ↔ ∃ equipo, after = some equipo ∧
      s.circuitNumber ≤ 39 ∧ s.EnBytes (groupCircuits data) ∧
      (equipo.esMaestro = true → s.MismosCircuitos equipo.grupo) := by
  constructor
  · rintro ⟨equipo, same, guardados⟩
    have fits := circuitNumber_le_of_guardados acotado
      (guardados (fun _ => 0) fun _ => (s.circuitos 39).limiteCorriente + 1)
    rcases (circuitosGuardados_iff acotado).mp (guardados (fun _ => 0) fun _ => 0) with
      ⟨⟨number, limits⟩, ram⟩
    rw [bufferCircuits_mismo (by decide)] at number
    refine ⟨equipo, same, fits, ⟨number, fun i below => ?_⟩, ram⟩
    rw [← limits i below, bufferCircuits_mismo (by unfold maxGroupSize; omega)]
  · rintro ⟨equipo, same, fits, ⟨number, limits⟩, ram⟩
    refine ⟨equipo, same, fun heap pila => (circuitosGuardados_iff acotado).mpr ⟨⟨?_, ?_⟩, ram⟩⟩
    · rw [bufferCircuits_mismo (by decide), number]
    · intro i below
      rw [bufferCircuits_mismo (by unfold maxGroupSize; omega), limits i below]

theorem Cabe.menor {less more : Nat} (cabe : Cabe data more) (le : less ≤ more) :
    Cabe data less := by
  unfold Cabe slotSize at *
  omega

/-- Over any memory the document has to have room for them. -/
theorem recuperaCircuitos_iff (acotado : s.circuitNumber ≤ maxGroupSize) {after : Option Equipo} :
    RecuperaCircuitos s data after ↔ ∃ equipo, after = some equipo ∧
      s.circuitNumber ≤ 39 ∧ s.EnBytes (groupCircuits data) ∧
      (equipo.esMaestro = true → s.MismosCircuitos equipo.grupo) ∧
      Cabe data (s.circuitNumber + 1) := by
  constructor
  · rintro ⟨equipo, same, guardados⟩
    have fits := circuitNumber_le_of_guardados acotado
      (guardados (fun _ => 0) (fun _ => 0) (fun _ => (s.circuitos 39).limiteCorriente + 1) equipo)
    have cabe : Cabe data (s.circuitNumber + 1) := by
      by_contra lacks
      rcases Nat.eq_zero_or_pos s.circuitNumber with empty | positive
      · have number := ((circuitosGuardados_iff acotado).mp
          (guardados (fun _ => 1) (fun _ => 0) (fun _ => 0) equipo)).1.1
        rw [empty] at lacks number
        rw [bufferCircuits_otra (by decide), if_neg lacks] at number
        exact absurd number (by decide)
      · have last := ((circuitosGuardados_iff acotado).mp
          (guardados (fun _ => (s.circuitos (s.circuitNumber - 1)).limiteCorriente + 1)
            (fun _ => 0) (fun _ => 0) equipo)).1.2 (s.circuitNumber - 1) (by omega)
        rw [Nat.sub_add_cancel positive, bufferCircuits_otra (by unfold maxGroupSize; omega),
          if_neg lacks] at last
        simp [groupCircuits] at last
    rcases (circuitosGuardados_iff acotado).mp
      (guardados (fun _ => 0) (fun _ => 0) (fun _ => 0) equipo) with ⟨⟨number, limits⟩, ram⟩
    rw [bufferCircuits_otra (by decide), if_pos (cabe.menor (by omega))] at number
    refine ⟨equipo, same, fits, ⟨number, fun i below => ?_⟩, ram, cabe⟩
    rw [← limits i below, bufferCircuits_otra (by unfold maxGroupSize; omega),
      if_pos (cabe.menor (by omega))]
  · rintro ⟨equipo, same, fits, ⟨number, limits⟩, ram, cabe⟩
    refine ⟨equipo, same, fun ram' heap pila destino =>
      (circuitosGuardados_iff acotado).mpr ⟨⟨?_, ?_⟩, ram⟩⟩
    · rw [bufferCircuits_otra (by decide), if_pos (cabe.menor (by omega)), number]
    · intro i below
      rw [bufferCircuits_otra (by unfold maxGroupSize; omega), if_pos (cabe.menor (by omega)),
        limits i below]

end Guardados

/-! ## What the writers leave -/

section Escritores

variable {s : GroupState} {e : Equipo} {data payload pila : Nat → UInt8}

theorem groupCircuits_escribirCircuits (valores : List UInt8) (data : Nat → UInt8) (i : Nat) :
    groupCircuits (escribirCircuits valores data) i =
      (valores[i]?).getD (groupCircuits data i) := by
  unfold groupCircuits escribirCircuits write
  rw [if_pos (Nat.le_add_right _ _), Nat.add_sub_cancel_left]

/-- Over Bluetooth all the list is stored. -/
theorem enBytes_bleCircuitsData (payloadDe : s.EnBytes payload) :
    s.EnBytes (groupCircuits (bleCircuitsData payload data)) := by
  have cell : ∀ i, i ≤ s.circuitNumber →
      groupCircuits (bleCircuitsData payload data) i = payload i := by
    intro i le
    rw [bleCircuitsData, groupCircuits_escribirCircuits, List.getElem?_map,
      List.getElem?_range (by rw [payloadDe.1]; omega)]
    rfl
  refine ⟨?_, fun i below => ?_⟩
  · rw [cell 0 (Nat.zero_le _), payloadDe.1]
  · rw [cell (i + 1) below, payloadDe.2 i below]

theorem bleCircuits_mismos (acotado : s.circuitNumber ≤ maxGroupSize)
    (payloadDe : s.EnBytes payload) (e : Equipo) :
    ∃ after, bleCircuits payload e = some after ∧ s.MismosCircuitos after.grupo := by
  rcases (cargarCircuitos_mismos (e := e) acotado).mpr payloadDe with ⟨after, taken, same⟩
  refine ⟨_, by rw [bleCircuits, taken, Option.map_some], ?_⟩
  exact ⟨same.circuitNumber, same.limites⟩

/-- The number and the limits are in the buffer of `Send_Circuits`. -/
theorem begins_sendCircuits (small : s.circuitNumber < 100) :
    Begins (sendCircuits s pila) (textoNumero (UInt8.ofNat s.circuitNumber) ++ s.limites) := by
  apply forUpTo_induction (fun i current => Begins current
    (textoNumero (UInt8.ofNat s.circuitNumber) ++
      (List.range i).map fun i => (s.circuitos i).limiteCorriente))
  · rw [List.range_zero, List.map_nil, List.append_nil]
    exact (begins_sprintf begins_nil rfl).left
  · intro i _ current begins
    have more := begins.write [(s.circuitos i).limiteCorriente]
    rw [List.length_append, length_textoNumero small, List.length_map, List.length_range] at more
    rw [List.range_succ, List.map_append, ← List.append_assoc, Nat.add_comm i]
    exact more

theorem sendCircuits_limite (small : s.circuitNumber < 100) {i : Nat}
    (below : i < s.circuitNumber) :
    sendCircuits s pila (2 + i) = (s.circuitos i).limiteCorriente := by
  have cell := (@begins_sendCircuits s pila small).right i
    (by simpa [GroupState.limites] using below)
  rw [length_textoNumero small, GroupState.limites, List.getElem?_map, List.getElem?_range below,
    Option.map_some] at cell
  exact (Option.some.inj cell).symm

end Escritores

/-! ## The text -/

section Texto

variable {s : GroupState} {e : Equipo} {data pila : Nat → UInt8} {m : MensajeCircuits}

/-- The number that `New_Circuit` reads of the text. -/
theorem size_eq_limiteLeido (small : s.circuitNumber < 100)
    (lleva : m.Lleva (cString 0 sizeofBuffer (sendCircuits s pila))) :
    m.size = limiteLeido m.pila s.circuitNumber := by
  rcases textoNumero_eq small with ⟨ceros, digits, two⟩
  have clean : (0 : UInt8) ∉ textoNumero (UInt8.ofNat s.circuitNumber) := by
    rw [digits]
    exact zero_notMem_map (isDigit_rellenado ceros _)
  rcases prefix_cString (@begins_sendCircuits s pila small).left clean
    (show _ ≤ sizeofBuffer by rw [two]; decide) with ⟨rest, text⟩
  have begins := lleva.data
  rw [← text] at begins
  have read := begins.left.eq_map
  rw [two] at read
  rw [limiteLeido, ← read]
  rfl

/-- Limits without a zero are carried whole. -/
theorem limites_llevados (acotado : s.circuitNumber ≤ maxGroupSize)
    (lleva : m.Lleva (cString 0 sizeofBuffer (sendCircuits s pila)))
    (sinCeros : ∀ i, i < s.circuitNumber → (s.circuitos i).limiteCorriente ≠ 0) {i : Nat}
    (below : i < s.circuitNumber) : m.data (i + 2) = (s.circuitos i).limiteCorriente := by
  have small : s.circuitNumber < 100 := acotado.trans_lt (by decide)
  rcases textoNumero_eq small with ⟨ceros, digits, two⟩
  have clean : (0 : UInt8) ∉ textoNumero (UInt8.ofNat s.circuitNumber) ++ s.limites := by
    intro member
    rcases List.mem_append.mp member with number | limit
    · rw [digits] at number
      exact zero_notMem_map (isDigit_rellenado ceros _) number
    · rcases List.mem_map.mp limit with ⟨j, inside, zero⟩
      exact sinCeros j (List.mem_range.mp inside) zero
  have fits : (textoNumero (UInt8.ofNat s.circuitNumber) ++ s.limites).length ≤ sizeofBuffer := by
    rw [List.length_append, two, GroupState.limites, List.length_map, List.length_range]
    unfold sizeofBuffer
    omega
  rcases prefix_cString (@begins_sendCircuits s pila small) clean fits with ⟨rest, text⟩
  have begins := lleva.data
  rw [← text] at begins
  have cell := begins.left.right i (by simpa [GroupState.limites] using below)
  rw [two, GroupState.limites, List.getElem?_map, List.getElem?_range below,
    Option.map_some] at cell
  rw [Nat.add_comm i 2]
  exact (Option.some.inj cell).symm

/-- A message of the given text behind which there is only `resto`. -/
def MensajeCircuits.deBytes (texto : List UInt8) (resto : UInt8) (pila : List UInt8) :
    MensajeCircuits where
  data k := (texto[k]?).getD resto
  dataSize := texto.length
  pila := pila

theorem circuits_lleva_deBytes (texto : List UInt8) (resto : UInt8) (pila : List UInt8) :
    (MensajeCircuits.deBytes texto resto pila).Lleva texto where
  dataSize := rfl
  data k below := by
    show texto[k]? = some ((texto[k]?).getD resto)
    rw [List.getElem?_eq_getElem below, Option.getD_some]

/-- At a limit of zero the text ends. -/
theorem data_of_cero (small : s.circuitNumber < 100) (resto : UInt8) (texto : List UInt8)
    {i : Nat} (below : i < s.circuitNumber) (zero : (s.circuitos i).limiteCorriente = 0) :
    (MensajeCircuits.deBytes (cString 0 sizeofBuffer (sendCircuits s pila)) resto texto).data
      (i + 2) = resto := by
  have short : (cString 0 sizeofBuffer (sendCircuits s pila)).length ≤ i + 2 := by
    apply length_cString_le
    rw [Nat.add_comm i 2, sendCircuits_limite small below, zero]
  rw [MensajeCircuits.deBytes]
  dsimp only
  rw [List.getElem?_eq_none short, Option.getD_none]

/-- What the message of a full list leaves in flash: all but its last limit. -/
theorem enBytes_newCircuitData (received : 0 < m.dataSize)
    (size : m.size = s.circuitNumber) (acotado : s.circuitNumber ≤ maxGroupSize)
    (limites : ∀ i, i < s.circuitNumber → m.data (i + 2) = (s.circuitos i).limiteCorriente) :
    s.EnBytes (groupCircuits (newCircuitData m data)) ↔
      (s.circuitNumber = 0 → groupCircuits data 0 = 0) ∧
        (0 < s.circuitNumber → groupCircuits data s.circuitNumber =
          (s.circuitos (s.circuitNumber - 1)).limiteCorriente) := by
  unfold maxGroupSize at acotado
  have cell : ∀ i, groupCircuits (newCircuitData m data) i =
      if i < s.circuitNumber then (m.buffer[i]?).getD (groupCircuits data i)
      else groupCircuits data i := by
    intro i
    rw [newCircuitData, if_neg (by omega), groupCircuits_escribirCircuits, size,
      List.getElem?_take]
    split_ifs
    · rfl
    · rfl
  have limit : ∀ i, i + 1 < s.circuitNumber →
      groupCircuits (newCircuitData m data) (i + 1) = (s.circuitos i).limiteCorriente := by
    intro i below
    rw [cell, if_pos below, MensajeCircuits.buffer, List.getElem?_cons_succ, List.getElem?_map,
      List.getElem?_range (by omega), Option.map_some, Option.getD_some, limites i (by omega)]
  rcases Nat.eq_zero_or_pos s.circuitNumber with empty | positive
  · unfold GroupState.EnBytes
    rw [cell, empty, if_neg (Nat.lt_irrefl 0)]
    constructor
    · rintro ⟨number, _⟩
      exact ⟨fun _ => UInt8.toNat_inj.mp number, fun some => absurd some (Nat.lt_irrefl 0)⟩
    · rintro ⟨zero, _⟩
      exact ⟨by rw [zero rfl]; rfl, fun i below => absurd below (Nat.not_lt_zero i)⟩
  · have number : (groupCircuits (newCircuitData m data) 0).toNat = s.circuitNumber := by
      rw [cell, if_pos positive, MensajeCircuits.buffer, List.getElem?_cons_zero,
        Option.getD_some, size, UInt8.toNat_ofNat']
      omega
    have last : groupCircuits (newCircuitData m data) s.circuitNumber =
        groupCircuits data s.circuitNumber := by
      rw [cell, if_neg (Nat.lt_irrefl _)]
    constructor
    · rintro ⟨_, limits⟩
      refine ⟨fun empty => absurd empty (Nat.ne_of_gt positive), fun _ => ?_⟩
      have stored := limits (s.circuitNumber - 1) (by omega)
      rwa [Nat.sub_add_cancel positive, last] at stored
    · rintro ⟨_, kept⟩
      refine ⟨number, fun i below => ?_⟩
      rcases Nat.lt_or_ge (i + 1) s.circuitNumber with inner | outer
      · exact limit i inner
      · obtain rfl : i = s.circuitNumber - 1 := by omega
        rw [Nat.sub_add_cancel positive, last, kept positive]

end Texto

/-! ## The two ways -/

/-- When the text keeps the circuits of `s`: it is read as written, carries no
zero, and what is not stored was there before. -/
structure TextoCompleto (s : GroupState) (data : Nat → UInt8) (pila : List UInt8) : Prop where
  leido : limiteLeido pila s.circuitNumber = s.circuitNumber
  sinCeros : ∀ i, i < s.circuitNumber → (s.circuitos i).limiteCorriente ≠ 0
  cabe : s.circuitNumber ≤ 39
  vacio : s.circuitNumber = 0 → groupCircuits data 0 = 0
  ultimo : 0 < s.circuitNumber →
    groupCircuits data s.circuitNumber = (s.circuitos (s.circuitNumber - 1)).limiteCorriente

/-- What `New_Circuit` stores of such a text. -/
def textoCircuitsData (s : GroupState) (data : Nat → UInt8) : Nat → UInt8 :=
  escribirCircuits ((UInt8.ofNat s.circuitNumber :: s.limites).take s.circuitNumber) data

section Caminos

variable {s : GroupState} {data payload : Nat → UInt8} {pila : List UInt8}
  {m : MensajeCircuits} {e : Equipo}

/-- On a master `New_Circuit` takes over what it reads. -/
theorem newCircuit_mismos (acotado : s.circuitNumber ≤ maxGroupSize) (received : 0 < m.dataSize)
    (master : e.esMaestro = true) :
    (∃ after, newCircuit m e = some after ∧
        (after.esMaestro = true → s.MismosCircuitos after.grupo)) ↔
      m.size = s.circuitNumber ∧
        ∀ i, i < s.circuitNumber → m.data (i + 2) = (s.circuitos i).limiteCorriente := by
  rw [← @cargarCircuitos_mismos s e m.size (fun i => m.data (i + 2)) acotado, newCircuit,
    if_neg (by omega), if_pos master]
  constructor
  · rintro ⟨after, taken, same⟩
    refine ⟨after, taken, same ?_⟩
    unfold cargarCircuitos at taken
    split_ifs at taken
    cases taken
    exact master
  · rintro ⟨after, taken, same⟩
    exact ⟨after, taken, fun _ => same⟩

theorem newCircuitData_eq (received : 0 < m.dataSize) (size : m.size = s.circuitNumber)
    (limites : ∀ i, i < s.circuitNumber → m.data (i + 2) = (s.circuitos i).limiteCorriente) :
    newCircuitData m data = textoCircuitsData s data := by
  have same : m.buffer = UInt8.ofNat s.circuitNumber :: s.limites := by
    rw [MensajeCircuits.buffer, size, GroupState.limites]
    congr 1
    apply List.map_congr_left
    intro i inside
    exact limites i (List.mem_range.mp inside)
  rw [newCircuitData, if_neg (by omega), size, same]
  rfl

/-- The text of a sender is received. -/
theorem positive_of_lleva {stack : Nat → UInt8} (small : s.circuitNumber < 100)
    (lleva : m.Lleva (cString 0 sizeofBuffer (sendCircuits s stack))) : 0 < m.dataSize := by
  rcases textoNumero_eq small with ⟨ceros, digits, two⟩
  have clean : (0 : UInt8) ∉ textoNumero (UInt8.ofNat s.circuitNumber) := by
    rw [digits]
    exact zero_notMem_map (isDigit_rellenado ceros _)
  have atLeast := (prefix_cString (@begins_sendCircuits s stack small).left clean
    (show _ ≤ sizeofBuffer by rw [two]; decide)).length_le
  rw [lleva.dataSize]
  omega

/-- A complete text leaves the circuits of `s` in memory, on a master, and in
flash. -/
theorem TextoCompleto.recibido (completo : TextoCompleto s data pila)
    (acotado : s.circuitNumber ≤ maxGroupSize) {stack : Nat → UInt8} (same : m.pila = pila)
    (lleva : m.Lleva (cString 0 sizeofBuffer (sendCircuits s stack))) (e : Equipo) :
    newCircuitData m data = textoCircuitsData s data ∧
      ∃ after, newCircuit m e = some after ∧ s.circuitNumber ≤ 39 ∧
        s.EnBytes (groupCircuits (newCircuitData m data)) ∧
        (after.esMaestro = true → s.MismosCircuitos after.grupo) := by
  have small : s.circuitNumber < 100 := acotado.trans_lt (by decide)
  have received := positive_of_lleva small lleva
  have size : m.size = s.circuitNumber := by
    rw [size_eq_limiteLeido small lleva, same, completo.leido]
  have limites : ∀ i, i < s.circuitNumber → m.data (i + 2) = (s.circuitos i).limiteCorriente :=
    fun i below => limites_llevados acotado lleva completo.sinCeros below
  have stored := (enBytes_newCircuitData received size acotado limites).mpr
    ⟨completo.vacio, completo.ultimo⟩
  refine ⟨newCircuitData_eq received size limites, ?_⟩
  by_cases master : e.esMaestro = true
  · rcases (newCircuit_mismos acotado received master).mpr ⟨size, limites⟩ with
      ⟨after, taken, given⟩
    exact ⟨after, taken, completo.cabe, stored, given⟩
  · refine ⟨e, ?_, completo.cabe, stored, fun isMaster => absurd isMaster master⟩
    rw [newCircuit, if_neg (by omega), if_neg master]

/-- A master that the text leaves as it should has received a complete text. -/
theorem textoCompleto_of_recibido (acotado : s.circuitNumber ≤ maxGroupSize)
    (master : e.esMaestro = true) {stack : Nat → UInt8} {after : Equipo}
    (taken : newCircuit (.deBytes (cString 0 sizeofBuffer (sendCircuits s stack)) 1 pila) e =
      some after)
    (cabe : s.circuitNumber ≤ 39)
    (stored : s.EnBytes (groupCircuits (newCircuitData
      (.deBytes (cString 0 sizeofBuffer (sendCircuits s stack)) 1 pila) data)))
    (given : after.esMaestro = true → s.MismosCircuitos after.grupo) :
    TextoCompleto s data pila := by
  have small : s.circuitNumber < 100 := acotado.trans_lt (by decide)
  have lleva := circuits_lleva_deBytes (cString 0 sizeofBuffer (sendCircuits s stack)) 1 pila
  have received := positive_of_lleva small lleva
  rcases (newCircuit_mismos acotado received master).mp ⟨after, taken, given⟩ with
    ⟨size, limites⟩
  rcases (enBytes_newCircuitData received size acotado limites).mp stored with ⟨vacio, ultimo⟩
  refine ⟨?_, ?_, cabe, vacio, ultimo⟩
  · exact (size_eq_limiteLeido small lleva).symm.trans size
  · intro i below zero
    have cut := limites i below
    rw [data_of_cero small 1 pila below zero, zero] at cut
    exact absurd cut (by decide)

end Caminos

/-- The list of circuits `s` over Bluetooth and as a text: when the same memory
and when any memory gives it back. -/
theorem circuits_ida_y_vuelta {s : GroupState} {data payload : Nat → UInt8} {pila : List UInt8}
    (acotado : s.circuitNumber ≤ maxGroupSize) (payloadDe : s.EnBytes payload) :
    ((∀ e, GuardaCircuitos s (bleCircuitsData payload data) (bleCircuits payload e)) ↔
        s.circuitNumber ≤ 39) ∧
      ((∀ e, RecuperaCircuitos s (bleCircuitsData payload data) (bleCircuits payload e)) ↔
        s.circuitNumber ≤ 39 ∧ Cabe (bleCircuitsData payload data) (s.circuitNumber + 1)) ∧
      ((∀ e stack m, m.pila = pila → m.Lleva (cString 0 sizeofBuffer (sendCircuits s stack)) →
          GuardaCircuitos s (newCircuitData m data) (newCircuit m e)) ↔
        TextoCompleto s data pila) ∧
      ((∀ e stack m, m.pila = pila → m.Lleva (cString 0 sizeofBuffer (sendCircuits s stack)) →
          RecuperaCircuitos s (newCircuitData m data) (newCircuit m e)) ↔
        TextoCompleto s data pila ∧ Cabe (textoCircuitsData s data) (s.circuitNumber + 1)) := by
  have stored := @enBytes_bleCircuitsData s data payload payloadDe
  have master : (equipoVacio.conMaestro 1).esMaestro = true := rfl
  have lleva := circuits_lleva_deBytes
    (cString 0 sizeofBuffer (sendCircuits s fun _ => 0)) 1 pila
  refine ⟨⟨?_, ?_⟩, ⟨?_, ?_⟩, ⟨?_, ?_⟩, ⟨?_, ?_⟩⟩
  · intro guarda
    rcases (guardaCircuitos_iff acotado).mp (guarda equipoVacio) with ⟨_, _, fits, _⟩
    exact fits
  · intro fits e
    rcases bleCircuits_mismos acotado payloadDe e with ⟨after, taken, same⟩
    exact (guardaCircuitos_iff acotado).mpr ⟨after, taken, fits, stored, fun _ => same⟩
  · intro recupera
    rcases (recuperaCircuitos_iff acotado).mp (recupera equipoVacio) with
      ⟨_, _, fits, _, _, cabe⟩
    exact ⟨fits, cabe⟩
  · rintro ⟨fits, cabe⟩ e
    rcases bleCircuits_mismos acotado payloadDe e with ⟨after, taken, same⟩
    exact (recuperaCircuitos_iff acotado).mpr ⟨after, taken, fits, stored, fun _ => same, cabe⟩
  · intro guarda
    rcases (guardaCircuitos_iff acotado).mp (guarda _ _ _ rfl lleva) with
      ⟨after, taken, fits, kept, given⟩
    exact textoCompleto_of_recibido acotado master taken fits kept given
  · intro completo e stack m same sent
    rcases (completo.recibido acotado same sent e).2 with ⟨after, taken, fits, kept, given⟩
    exact (guardaCircuitos_iff acotado).mpr ⟨after, taken, fits, kept, given⟩
  · intro recupera
    rcases (recuperaCircuitos_iff acotado).mp (recupera _ _ _ rfl lleva) with
      ⟨after, taken, fits, kept, given, cabe⟩
    have completo := textoCompleto_of_recibido acotado master taken fits kept given
    rw [(completo.recibido acotado rfl lleva equipoVacio).1] at cabe
    exact ⟨completo, cabe⟩
  · rintro ⟨completo, cabe⟩ e stack m same sent
    rcases completo.recibido acotado same sent e with ⟨data, after, taken, fits, kept, given⟩
    rw [← data] at cabe
    exact (recuperaCircuitos_iff acotado).mpr ⟨after, taken, fits, kept, given, cabe⟩

/-! ## One circuit, two and forty -/

/-- A group without chargers on circuits of 32 A. -/
def circuitosDe (n : Nat) : GroupState :=
  GroupState.inicio (.conPotencia 100) [] (List.replicate n 32)

theorem circuitosDe_circuitNumber (n : Nat) : (circuitosDe n).circuitNumber = n :=
  List.length_replicate

theorem circuitosDe_limite (n i : Nat) : ((circuitosDe n).circuitos i).limiteCorriente = 32 := by
  show (List.replicate n 32).getD i 32 = 32
  rw [List.getD_eq_getElem?_getD, List.getElem?_replicate]
  split_ifs
  · rfl
  · rfl

/-- The bytes of these circuits. -/
def bytesDe (n : Nat) : Nat → UInt8
  | 0 => UInt8.ofNat n
  | _ + 1 => 32

theorem enBytes_bytesDe {n : Nat} (acotado : n ≤ maxGroupSize) :
    (circuitosDe n).EnBytes (bytesDe n) := by
  refine ⟨?_, fun i _ => ?_⟩
  · rw [circuitosDe_circuitNumber, bytesDe, UInt8.toNat_ofNat']
    unfold maxGroupSize at acotado
    omega
  · rw [circuitosDe_limite]
    rfl

/-- A flash in which every byte of the circuits is 32. -/
def flashLlena : Nat → UInt8
  | 0 => 0
  | _ => 32

/-- Two circuits come back by both ways, the second because it was there. -/
theorem dosCircuitos_guardados :
    (∀ e, GuardaCircuitos (circuitosDe 2) (bleCircuitsData (bytesDe 2) flashLlena)
        (bleCircuits (bytesDe 2) e)) ∧
      ∀ e stack m, m.pila = [] →
        m.Lleva (cString 0 sizeofBuffer (sendCircuits (circuitosDe 2) stack)) →
        GuardaCircuitos (circuitosDe 2) (newCircuitData m flashLlena) (newCircuit m e) := by
  have both := @circuits_ida_y_vuelta (circuitosDe 2) flashLlena (bytesDe 2) [] (by decide)
    (enBytes_bytesDe (by decide))
  refine ⟨both.1.mpr (by decide), both.2.2.1.mpr ⟨by decide, ?_, by decide, by decide, ?_⟩⟩
  · intro i below
    rw [circuitosDe_limite]
    decide
  · intro _
    rw [circuitosDe_limite]
    rfl

/-- The message of a group with one circuit. -/
def mensajeUnCircuito : MensajeCircuits :=
  .deBytes (cString 0 sizeofBuffer (sendCircuits (circuitosDe 1) fun _ => 0)) 0 []

/-- Its limit is lost on a device whose flash is empty; and so is the fortieth
of forty written over Bluetooth. -/
theorem unCircuito_perdido :
    mensajeUnCircuito.Lleva (cString 0 sizeofBuffer (sendCircuits (circuitosDe 1) fun _ => 0)) ∧
      ¬ GuardaCircuitos (circuitosDe 1) (newCircuitData mensajeUnCircuito fun _ => 0)
        (newCircuit mensajeUnCircuito equipoVacio) ∧
      (circuitosDe 40).EnBytes (bytesDe 40) ∧
      ¬ GuardaCircuitos (circuitosDe 40) (bleCircuitsData (bytesDe 40) fun _ => 0)
        (bleCircuits (bytesDe 40) equipoVacio) := by
  have small : (circuitosDe 1).circuitNumber < 100 := by decide
  have lleva : mensajeUnCircuito.Lleva
      (cString 0 sizeofBuffer (sendCircuits (circuitosDe 1) fun _ => 0)) :=
    circuits_lleva_deBytes _ 0 []
  have size : mensajeUnCircuito.size = (circuitosDe 1).circuitNumber := by
    rw [size_eq_limiteLeido small lleva]
    decide
  have limites : ∀ i, i < (circuitosDe 1).circuitNumber → mensajeUnCircuito.data (i + 2) =
      ((circuitosDe 1).circuitos i).limiteCorriente := by
    intro i below
    apply limites_llevados (by decide) lleva _ below
    intro j inside
    rw [circuitosDe_limite]
    decide
  refine ⟨lleva, ?_, enBytes_bytesDe (by decide), ?_⟩
  · intro guarda
    rcases (guardaCircuitos_iff (by decide)).mp guarda with ⟨_, _, _, stored, _⟩
    have last := ((enBytes_newCircuitData (positive_of_lleva small lleva) size (by decide)
      limites).mp stored).2 (by decide)
    rw [circuitosDe_limite] at last
    exact absurd last (by decide)
  · intro guarda
    rcases (guardaCircuitos_iff (circuitosDe_circuitNumber 40).le).mp guarda with ⟨_, _, fits, _⟩
    rw [circuitosDe_circuitNumber] at fits
    omega

end VeltiumCharger.Group
