import VeltiumCharger.Group.Tipos
import VeltiumCharger.Library.Buffer

/-!
# The group in flash

`Configuracion.group_data` and the file `/group.json`: `Group_Store` copies the
one into the other through a JSON document of 1024 bytes, `Group_Load` back.

A document keeps what fits.  A value, a member or an element takes one slot of
16 bytes, a copied text its length and a terminator; the names of the members
are copied only when the file is read.
-/

namespace VeltiumCharger.Group

open VeltiumCharger.Buffer

/-! ## `carac_group_config` -/

/-- `MAX_GROUP_BUFFER_SIZE`. -/
def maxGroupBufferSize : Nat := 362

/-- `SIZE_OF_GROUP_PARAMS`. -/
def sizeOfGroupParams : Nat := 7

/-- `group_data.params`, behind `group_data.group`. -/
def groupParams (data : Nat → UInt8) (i : Nat) : UInt8 :=
  data (maxGroupBufferSize + i)

/-- `group_data.circuits`, behind `group_data.params`. -/
def groupCircuits (data : Nat → UInt8) (i : Nat) : UInt8 :=
  data (maxGroupBufferSize + sizeOfGroupParams + i)

/-- `memcpy(&Configuracion.group_data.params[start], ...)`. -/
def escribirParams (start : Nat) (valores : List UInt8) (data : Nat → UInt8) : Nat → UInt8 :=
  write (maxGroupBufferSize + start) valores data

/-- `memcpy(&Configuracion.group_data.circuits[0], ...)`. -/
def escribirCircuits (valores : List UInt8) (data : Nat → UInt8) : Nat → UInt8 :=
  write (maxGroupBufferSize + sizeOfGroupParams) valores data

/-! ## The document -/

/-- What a document of the group holds.  A text that did not fit is null. -/
structure Documento where
  group : Option (List UInt8)
  params : List UInt8
  circuits : List UInt8
  deriving DecidableEq, Repr

/-- `DynamicJsonDocument(1024)`. -/
def capacidad : Nat := 1024

/-- `sizeof(VariantSlot)`. -/
def slotSize : Nat := 16

/-- `JsonArray::add` of each value, with what is left of `libre` bytes: a value
without room is dropped. -/
def agregar : Nat → List UInt8 → List UInt8 × Nat
  | libre, [] => ([], libre)
  | libre, valor :: valores =>
      if slotSize ≤ libre then
        let resto := agregar (libre - slotSize) valores
        (valor :: resto.1, resto.2)
      else agregar libre valores

/-- A new array with the given values, whose name takes `clave` bytes. -/
def arreglo (clave libre : Nat) (valores : List UInt8) : List UInt8 × Nat :=
  if clave + slotSize ≤ libre then agregar (libre - (clave + slotSize)) valores
  else ([], libre)

/-- The value of the member `group`: a text without room is null. -/
def copiarTexto (libre : Nat) (texto : List UInt8) : Option (List UInt8) :=
  if texto.length + 1 ≤ libre then some texto else none

/-- The bytes such a value takes. -/
def sizeTexto : Option (List UInt8) → Nat
  | none => 0
  | some texto => texto.length + 1

/-- The document of a text and two arrays. -/
def componer (texto params circuits : List UInt8) : Documento :=
  let libre := capacidad - slotSize
  let group := copiarTexto libre texto
  let params := arreglo 0 (libre - sizeTexto group) params
  let circuits := arreglo 0 params.2 circuits
  ⟨group, params.1, circuits.1⟩

/-- `String(group_data.group)`: a text that leaves the document is as good as
one that fills it. -/
def textoGuardado (data : Nat → UInt8) : List UInt8 :=
  cString 0 capacidad data

/-- `Group_Carac_to_json`. -/
def groupCaracToJson (data : Nat → UInt8) : Documento :=
  componer (textoGuardado data) ((List.range sizeOfGroupParams).map (groupParams data))
    ((List.range maxGroupSize).map (groupCircuits data))

/-- The bytes a name takes. -/
def claveGroup : Nat := "group".length + 1

/-- The bytes a name takes. -/
def claveParams : Nat := "params".length + 1

/-- The bytes a name takes. -/
def claveCircuits : Nat := "circuits".length + 1

/-- `deserializeJson`: reading stops at what does not fit, and what has been read
stays. -/
def deserializeJson (file : Documento) : Documento :=
  let libre := capacidad - (claveGroup + slotSize)
  if sizeTexto file.group ≤ libre then
    let params := arreglo claveParams (libre - sizeTexto file.group) file.params
    if params.1.length = file.params.length then
      ⟨file.group, params.1, (arreglo claveCircuits params.2 file.circuits).1⟩
    else ⟨file.group, params.1, []⟩
  else ⟨none, [], []⟩

/-- `as<String>()`. -/
def Documento.texto (d : Documento) : List UInt8 :=
  d.group.getD ("null".toList.map Char.toUInt8)

/-- `Group_Json_to_carac`.  Behind the terminator of the text the copy takes
`heap`, whatever is there. -/
def groupJsonToCarac (heap : Nat → UInt8) (d : Documento) (data : Nat → UInt8) : Nat → UInt8 :=
  let data := write 0 ((List.range maxGroupBufferSize).map (write 0 (d.texto ++ [0]) heap)) data
  let data := escribirParams 0 (d.params.take sizeOfGroupParams) data
  escribirCircuits (d.circuits.take maxGroupSize) data

/-- `Config::Group_Store`: the file. -/
def groupStore (data : Nat → UInt8) : Documento :=
  groupCaracToJson data

/-- `Config::Group_Load`. -/
def groupLoad (heap : Nat → UInt8) (file : Documento) (data : Nat → UInt8) : Nat → UInt8 :=
  groupJsonToCarac heap (deserializeJson file) data

/-! ## What fits -/

/-- The values with room are the first ones. -/
theorem agregar_eq (libre : Nat) (valores : List UInt8) :
    agregar libre valores = (valores.take (libre / slotSize),
      libre - slotSize * min valores.length (libre / slotSize)) := by
  induction valores generalizing libre with
  | nil => simp [agregar]
  | cons valor valores ih =>
      unfold agregar
      split_ifs with room
      · obtain ⟨rest, rfl⟩ : ∃ rest, libre = slotSize + rest := ⟨libre - slotSize, by omega⟩
        have count : (slotSize + rest) / slotSize = rest / slotSize + 1 :=
          Nat.add_div_left rest (by decide)
        rw [Nat.add_sub_cancel_left, ih, count, List.take_succ_cons, List.length_cons,
          Nat.succ_min_succ, Nat.mul_succ, Nat.add_comm (slotSize * _), Nat.add_sub_add_left]
      · have none : libre / slotSize = 0 := Nat.div_eq_of_lt (Nat.not_le.mp room)
        rw [ih, none]
        simp

theorem arreglo_inicial (clave libre : Nat) (valores : List UInt8) :
    (arreglo clave libre valores).1 <+: valores := by
  unfold arreglo
  split_ifs
  · rw [agregar_eq]
    exact List.take_prefix _ _
  · exact List.nil_prefix

/-- An array keeps all its values and leaves the rest, or keeps those that fit
and leaves room for no other array. -/
theorem arreglo_spec (clave libre : Nat) (valores : List UInt8) :
    (arreglo clave libre valores).1.length = min valores.length ((libre - clave) / slotSize - 1) ∧
      (clave + slotSize * (valores.length + 1) ≤ libre →
        (arreglo clave libre valores).2 = libre - (clave + slotSize * (valores.length + 1))) ∧
      (libre < clave + slotSize * (valores.length + 1) →
        (arreglo clave libre valores).2 < clave + slotSize) := by
  unfold arreglo
  split_ifs with room
  · rw [agregar_eq]
    have count : (libre - (clave + slotSize)) / slotSize = (libre - clave) / slotSize - 1 := by
      unfold slotSize
      omega
    rw [List.length_take, count]
    unfold slotSize at room ⊢
    refine ⟨Nat.min_comm _ _, fun fits => ?_, fun lacks => ?_⟩
    · dsimp only
      omega
    · dsimp only
      omega
  · unfold slotSize at room ⊢
    refine ⟨?_, fun fits => ?_, fun _ => ?_⟩
    · rw [List.length_nil]
      omega
    · omega
    · omega

/-- A file whose text has room is read up to its circuits, if there is room for
all its parameters. -/
theorem deserializeJson_of_fits {file : Documento}
    (fits : sizeTexto file.group ≤ capacidad - (claveGroup + slotSize)) :
    (deserializeJson file).group = file.group ∧
      (deserializeJson file).params =
        (arreglo claveParams (capacidad - (claveGroup + slotSize) - sizeTexto file.group)
          file.params).1 ∧
      ((deserializeJson file).params.length = file.params.length →
        (deserializeJson file).circuits = (arreglo claveCircuits
          (arreglo claveParams (capacidad - (claveGroup + slotSize) - sizeTexto file.group)
            file.params).2 file.circuits).1) ∧
      ((deserializeJson file).params.length ≠ file.params.length →
        (deserializeJson file).circuits = []) := by
  unfold deserializeJson
  dsimp only
  rw [if_pos fits]
  split_ifs with complete
  · exact ⟨rfl, rfl, fun _ => rfl, fun incomplete => absurd complete incomplete⟩
  · exact ⟨rfl, rfl, fun complete' => absurd complete' complete, fun _ => rfl⟩

theorem deserializeJson_of_not_fits {file : Documento}
    (lacks : ¬ sizeTexto file.group ≤ capacidad - (claveGroup + slotSize)) :
    deserializeJson file = ⟨none, [], []⟩ := by
  unfold deserializeJson
  dsimp only
  rw [if_neg lacks]

section Guardado

variable {heap data ram : Nat → UInt8}

/-- What a load reads of the arrays that have been stored are first parts of
them. -/
theorem leido_inicial (data : Nat → UInt8) :
    (deserializeJson (groupStore data)).params <+:
        (List.range sizeOfGroupParams).map (groupParams data) ∧
      (deserializeJson (groupStore data)).circuits <+:
        (List.range maxGroupSize).map (groupCircuits data) := by
  have stored : (groupStore data).params <+:
        (List.range sizeOfGroupParams).map (groupParams data) ∧
      (groupStore data).circuits <+: (List.range maxGroupSize).map (groupCircuits data) := by
    unfold groupStore groupCaracToJson componer
    dsimp only
    constructor
    · apply arreglo_inicial
    · apply arreglo_inicial
  generalize groupStore data = file at stored ⊢
  by_cases fits : sizeTexto file.group ≤ capacidad - (claveGroup + slotSize)
  · rcases deserializeJson_of_fits fits with ⟨_, params, all, none⟩
    constructor
    · rw [params]
      exact (arreglo_inicial _ _ _).trans stored.1
    · by_cases complete : (deserializeJson file).params.length = file.params.length
      · rw [all complete]
        exact (arreglo_inicial _ _ _).trans stored.2
      · rw [none complete]
        exact List.nil_prefix
  · rw [deserializeJson_of_not_fits fits]
    exact ⟨List.nil_prefix, List.nil_prefix⟩

/-- A load writes the first bytes of the group, the parameters and the circuits
that the document holds. -/
theorem groupLoad_group {file : Documento} {k : Nat} (inside : k < maxGroupBufferSize) :
    groupLoad heap file ram k = write 0 ((deserializeJson file).texto ++ [0]) heap k := by
  have cell : ((List.range maxGroupBufferSize).map
      (write 0 ((deserializeJson file).texto ++ [0]) heap))[k]? =
        some (write 0 ((deserializeJson file).texto ++ [0]) heap k) :=
    begins_map_range _ _ k (by simpa using inside)
  have written := @write_inside _ 0 ((List.range maxGroupBufferSize).map
      (write 0 ((deserializeJson file).texto ++ [0]) heap)) ram k (by simpa using inside)
  rw [cell, Nat.zero_add] at written
  unfold groupLoad groupJsonToCarac escribirCircuits escribirParams
  rw [write_of_lt (by omega), write_of_lt (by omega)]
  exact (Option.some.inj written).symm

/-- A load of what has been stored, place by place behind the group: as many
parameters and circuits as the file holds come from there. -/
theorem groupLoad_eq (heap data ram : Nat → UInt8) {k : Nat} (behind : maxGroupBufferSize ≤ k) :
    groupLoad heap (groupStore data) ram k =
      if k - maxGroupBufferSize < (deserializeJson (groupStore data)).params.length ∨
        (sizeOfGroupParams ≤ k - maxGroupBufferSize ∧
          k - maxGroupBufferSize - sizeOfGroupParams <
            (deserializeJson (groupStore data)).circuits.length) then data k
      else ram k := by
  rcases leido_inicial data with ⟨⟨_, params⟩, _, circuits⟩
  have lengthParams := congrArg List.length params
  have lengthCircuits := congrArg List.length circuits
  rw [List.length_append, List.length_map, List.length_range] at lengthParams lengthCircuits
  have fromParams : Begins (fun k => data (maxGroupBufferSize + k))
      (deserializeJson (groupStore data)).params := by
    apply Begins.left
    rw [params]
    exact begins_map_range _ _
  have fromCircuits : Begins (fun k => data (maxGroupBufferSize + sizeOfGroupParams + k))
      (deserializeJson (groupStore data)).circuits := by
    apply Begins.left
    rw [circuits]
    exact begins_map_range _ _
  unfold groupLoad groupJsonToCarac escribirCircuits escribirParams
  rw [List.take_of_length_le (by omega), List.take_of_length_le (by omega)]
  rw [write_of_begins fromCircuits, Nat.add_zero, write_of_begins fromParams,
    write_of_ge (by simpa using behind)]
  split_ifs <;> first | rfl | omega

/-- Loading what has just been stored leaves the parameters and the circuits in
memory as they are, whether or not the file holds them. -/
theorem groupLoad_mismo (heap data : Nat → UInt8) {k : Nat} (behind : maxGroupBufferSize ≤ k) :
    groupLoad heap (groupStore data) data k = data k := by
  rw [groupLoad_eq heap data data behind, ite_self]

/-- The parameters and `circuitos` circuits have room beside the text of the
group when the file is read.  A text that leaves no room for itself takes none. -/
def Cabe (data : Nat → UInt8) (circuitos : Nat) : Prop :=
  (textoGuardado data).length + slotSize * circuitos ≤ 841 ∨
    1007 < (textoGuardado data).length

instance (data : Nat → UInt8) (circuitos : Nat) : Decidable (Cabe data circuitos) :=
  inferInstanceAs (Decidable (_ ∨ _))

theorem length_arreglo_le (clave libre : Nat) (valores : List UInt8) :
    (arreglo clave libre valores).1.length ≤ valores.length :=
  (arreglo_inicial clave libre valores).length_le

/-- Two arrays, one after the other: the second has room for its values when the
first has room for its own. -/
theorem arreglos_spec (first second libre : Nat) (params circuits : List UInt8) :
    ((arreglo first libre params).1.length = params.length ↔
        params = [] ∨ first + slotSize * (params.length + 1) ≤ libre) ∧
      (first + slotSize * (params.length + 1) ≤ libre → ∀ i,
        i < (arreglo second (arreglo first libre params).2 circuits).1.length ↔
          i < circuits.length ∧
            first + slotSize * (params.length + 1) + (second + slotSize * (i + 2)) ≤ libre) ∧
      (libre < first + slotSize * (params.length + 1) → first ≤ second →
        (arreglo second (arreglo first libre params).2 circuits).1.length = 0) := by
  rcases arreglo_spec first libre params with ⟨kept, rest, lacking⟩
  rcases arreglo_spec second (arreglo first libre params).2 circuits with ⟨kept', -, -⟩
  unfold slotSize at *
  refine ⟨?_, fun fits i => ?_, fun lacks le => ?_⟩
  · rw [kept, ← List.length_eq_zero_iff]
    clear kept' rest lacking
    omega
  · rw [kept', rest fits]
    omega
  · have little := lacking lacks
    rw [kept']
    omega

theorem sizeTexto_componer (texto params circuits : List UInt8) :
    sizeTexto (componer texto params circuits).group =
      if texto.length ≤ 1007 then texto.length + 1 else 0 := by
  unfold componer copiarTexto capacidad slotSize
  dsimp only
  split_ifs
  · rfl
  · omega
  · omega
  · rfl

/-- The text comes back when it has room. -/
theorem group_deserializeJson {texto params circuits : List UInt8} (fits : texto.length ≤ 1001) :
    (deserializeJson (componer texto params circuits)).group = some texto := by
  have cost := sizeTexto_componer texto params circuits
  rw [if_pos (by omega)] at cost
  have room : sizeTexto (componer texto params circuits).group ≤
      capacidad - (claveGroup + slotSize) := by
    rw [cost]
    exact Nat.succ_le_succ fits
  rw [(deserializeJson_of_fits room).1]
  exact if_pos (Nat.succ_le_succ (Nat.le_trans fits (by decide)))

/-- What of the arrays the document holds, by what its text takes. -/
theorem length_componer {texto params circuits : List UInt8}
    (sizeP : params.length = sizeOfGroupParams) (sizeC : circuits.length = maxGroupSize) :
    (componer texto params circuits).params.length ≤ 7 ∧
      ((componer texto params circuits).params.length = 7 ↔
        sizeTexto (componer texto params circuits).group ≤ 880) ∧
      ∀ i, i < (componer texto params circuits).circuits.length ↔
        i < maxGroupSize ∧
          sizeTexto (componer texto params circuits).group + slotSize * (i + 1) ≤ 864 := by
  have seven : params.length = 7 := sizeP
  have nonempty : params ≠ [] := by
    rintro rfl
    exact absurd seven (by decide)
  rcases arreglos_spec 0 0
    (capacidad - slotSize - sizeTexto (componer texto params circuits).group) params circuits with
    ⟨storedP, storedC, storedNone⟩
  change ((componer texto params circuits).params.length = _ ↔ _) at storedP
  change (_ → ∀ i, i < (componer texto params circuits).circuits.length ↔ _) at storedC
  change (_ → _ → (componer texto params circuits).circuits.length = _) at storedNone
  have fewer : (componer texto params circuits).params.length ≤ params.length :=
    length_arreglo_le _ _ _
  generalize componer texto params circuits = file at *
  simp only [nonempty, false_or] at storedP
  rw [seven] at storedP storedC storedNone fewer
  rw [sizeC] at storedC
  unfold capacidad slotSize at *
  refine ⟨fewer, storedP.trans (by omega), fun i => ?_⟩
  by_cases stored : sizeTexto file.group ≤ 880
  · rw [storedC (by omega)]
    omega
  · rw [storedNone (by omega) (Nat.le_refl 0)]
    omega

/-- What comes back of a document that holds all parameters. -/
theorem length_deserializeJson_of_completo {file : Documento} (complete : file.params.length = 7)
    (fits : sizeTexto file.group ≤ capacidad - (claveGroup + slotSize)) :
    ((deserializeJson file).params.length = 7 ↔ sizeTexto file.group ≤ 867) ∧
      ∀ i, i < (deserializeJson file).circuits.length ↔
        i < file.circuits.length ∧ sizeTexto file.group + slotSize * (i + 1) ≤ 842 := by
  have notNil : file.params ≠ [] := by
    intro nil
    rw [nil] at complete
    exact absurd complete (by decide)
  rcases deserializeJson_of_fits fits with ⟨_, readParams, all, some⟩
  rcases arreglos_spec claveParams claveCircuits
    (capacidad - (claveGroup + slotSize) - sizeTexto file.group) file.params file.circuits with
    ⟨readP, readC, _⟩
  rw [← readParams] at readP
  simp only [notNil, false_or] at readP
  rw [complete] at readP readC all some
  rw [show claveGroup = 6 from rfl, show claveParams = 7 from rfl,
    show claveCircuits = 9 from rfl] at *
  unfold capacidad slotSize at *
  refine ⟨readP.trans (by omega), fun i => ?_⟩
  by_cases read : sizeTexto file.group ≤ 867
  · rw [all (readP.mpr (by omega)), readC (by omega)]
    omega
  · rw [some (mt readP.mp (by omega)), List.length_nil]
    omega

/-- Of a document that lacks a parameter no circuit comes back. -/
theorem length_deserializeJson_of_corto {file : Documento} (short : file.params.length < 7)
    (fits : sizeTexto file.group ≤ capacidad - (claveGroup + slotSize))
    (noCircuits : file.circuits.length = 0) :
    (deserializeJson file).params.length < 7 ∧ (deserializeJson file).circuits.length = 0 := by
  rcases deserializeJson_of_fits fits with ⟨_, readParams, all, some⟩
  constructor
  · rw [readParams]
    exact Nat.lt_of_le_of_lt (length_arreglo_le _ _ _) short
  · by_cases same : (deserializeJson file).params.length = file.params.length
    · rw [all same, ← Nat.le_zero, ← noCircuits]
      exact length_arreglo_le _ _ _
    · rw [some same]
      rfl

/-- What of the arrays comes back from the file. -/
theorem length_deserializeJson {texto params circuits : List UInt8}
    (sizeP : params.length = sizeOfGroupParams) (sizeC : circuits.length = maxGroupSize) :
    ((deserializeJson (componer texto params circuits)).params.length = sizeOfGroupParams ↔
        texto.length ≤ 866 ∨ 1007 < texto.length) ∧
      ∀ i, i < (deserializeJson (componer texto params circuits)).circuits.length ↔
        i < maxGroupSize ∧ (texto.length + slotSize * (i + 1) ≤ 841 ∨ 1007 < texto.length) := by
  have cost := sizeTexto_componer texto params circuits
  rcases @length_componer texto params circuits sizeP sizeC with ⟨atMost, storedP, storedC⟩
  generalize componer texto params circuits = file at *
  rw [show sizeOfGroupParams = 7 from rfl]
  by_cases fits : sizeTexto file.group ≤ capacidad - (claveGroup + slotSize)
  · by_cases stored : sizeTexto file.group ≤ 880
    · rcases length_deserializeJson_of_completo (storedP.mpr stored) fits with ⟨readP, readC⟩
      unfold slotSize maxGroupSize at *
      refine ⟨?_, fun i => ?_⟩
      · rw [readP]
        split_ifs at cost <;> omega
      · rw [readC, storedC]
        split_ifs at cost <;> omega
    · have noCircuits : file.circuits.length = 0 := by
        refine Nat.eq_zero_of_not_pos fun some => stored ?_
        have room := ((storedC 0).mp some).2
        omega
      have short : file.params.length < 7 :=
        Nat.lt_of_le_of_ne atMost (mt storedP.mp stored)
      rcases length_deserializeJson_of_corto short fits noCircuits with ⟨readP, readC⟩
      refine ⟨?_, fun i => ?_⟩
      · split_ifs at cost <;> omega
      · rw [readC]
        split_ifs at cost <;> omega
  · rw [deserializeJson_of_not_fits fits]
    rw [show claveGroup = 6 from rfl] at fits
    unfold capacidad slotSize at *
    refine ⟨?_, fun i => ?_⟩
    · rw [List.length_nil]
      split_ifs at cost <;> omega
    · rw [List.length_nil]
      split_ifs at cost <;> omega

theorem length_leidos (data : Nat → UInt8) :
    ((deserializeJson (groupStore data)).params.length = sizeOfGroupParams ↔
        (textoGuardado data).length ≤ 866 ∨ 1007 < (textoGuardado data).length) ∧
      ∀ i, i < (deserializeJson (groupStore data)).circuits.length ↔
        i < maxGroupSize ∧ Cabe data (i + 1) := by
  unfold groupStore groupCaracToJson Cabe
  apply length_deserializeJson
  · rw [List.length_map, List.length_range]
  · rw [List.length_map, List.length_range]

/-- A short text comes back with its terminator. -/
theorem groupLoad_texto (corto : (textoGuardado data).length < maxGroupBufferSize) :
    Begins (groupLoad heap (groupStore data) ram) (textoGuardado data ++ [0]) := by
  have fits : (textoGuardado data).length ≤ 1001 := by
    unfold maxGroupBufferSize at corto
    omega
  intro k below
  rw [List.length_append, List.length_singleton] at below
  rw [groupLoad_group (by omega), Documento.texto, groupStore, groupCaracToJson,
    group_deserializeJson fits, Option.getD_some]
  exact begins_write_zero _ _ k (by rwa [List.length_append, List.length_singleton])

/-- A text that just fits comes back without it. -/
theorem groupLoad_lleno (fits : (textoGuardado data).length ≤ maxGroupBufferSize) :
    Begins (groupLoad heap (groupStore data) ram) (textoGuardado data) := by
  have room : (textoGuardado data).length ≤ 1001 := by
    unfold maxGroupBufferSize at fits
    omega
  intro k below
  rw [groupLoad_group (below.trans_le fits), Documento.texto, groupStore, groupCaracToJson,
    group_deserializeJson room, Option.getD_some]
  exact (begins_write_zero (textoGuardado data ++ [0]) heap).left k below

/-- Behind the terminator the load copies what was there. -/
theorem groupLoad_detras {k : Nat} (behind : (textoGuardado data).length < k)
    (inside : k < maxGroupBufferSize) : groupLoad heap (groupStore data) ram k = heap k := by
  have fits : (textoGuardado data).length ≤ 1001 := by
    unfold maxGroupBufferSize at inside
    omega
  rw [groupLoad_group inside, Documento.texto, groupStore, groupCaracToJson,
    group_deserializeJson fits, Option.getD_some]
  apply write_of_ge
  rw [List.length_append, List.length_singleton]
  omega

/-- The parameters come back to any memory. -/
theorem groupLoad_params
    (cabe : (textoGuardado data).length ≤ 866 ∨ 1007 < (textoGuardado data).length) {i : Nat}
    (below : i < sizeOfGroupParams) :
    groupParams (groupLoad heap (groupStore data) ram) i = groupParams data i := by
  unfold groupParams
  rw [groupLoad_eq heap data ram (Nat.le_add_right _ _), if_pos]
  rw [(length_leidos data).1.mpr cabe]
  omega

/-- Where they have no room, the last one is as memory held it, and the others
depend on memory only at their own place. -/
theorem groupLoad_params_of_not
    (lacks : ¬ ((textoGuardado data).length ≤ 866 ∨ 1007 < (textoGuardado data).length)) :
    groupParams (groupLoad heap (groupStore data) ram) 6 = groupParams ram 6 := by
  have short := mt (length_leidos data).1.mp lacks
  have atMost := (leido_inicial data).1.length_le
  rw [List.length_map, List.length_range] at atMost
  unfold groupParams
  rw [groupLoad_eq heap data ram (Nat.le_add_right _ _), if_neg]
  unfold sizeOfGroupParams at *
  omega

theorem groupLoad_congr {other : Nat → UInt8} {k : Nat} (behind : maxGroupBufferSize ≤ k)
    (same : ram k = other k) :
    groupLoad heap (groupStore data) ram k = groupLoad heap (groupStore data) other k := by
  rw [groupLoad_eq heap data ram behind, groupLoad_eq heap data other behind, same]

/-- The circuits that had room come back; the others are as memory held them. -/
theorem groupLoad_circuits {i : Nat} (below : i < maxGroupSize) :
    groupCircuits (groupLoad heap (groupStore data) ram) i =
      if Cabe data (i + 1) then groupCircuits data i else groupCircuits ram i := by
  have bound := (leido_inicial data).1
  have lengthParams := bound.length_le
  rw [List.length_map, List.length_range] at lengthParams
  have held : (maxGroupBufferSize + sizeOfGroupParams + i - maxGroupBufferSize <
        (deserializeJson (groupStore data)).params.length ∨
      sizeOfGroupParams ≤ maxGroupBufferSize + sizeOfGroupParams + i - maxGroupBufferSize ∧
        maxGroupBufferSize + sizeOfGroupParams + i - maxGroupBufferSize - sizeOfGroupParams <
          (deserializeJson (groupStore data)).circuits.length) ↔ Cabe data (i + 1) := by
    have count := (length_leidos data).2 i
    rw [show maxGroupBufferSize + sizeOfGroupParams + i - maxGroupBufferSize - sizeOfGroupParams
      = i by omega, count]
    constructor
    · rintro (impossible | ⟨_, _, cabe⟩)
      · omega
      · exact cabe
    · exact fun cabe => .inr ⟨by omega, below, cabe⟩
  unfold groupCircuits
  rw [groupLoad_eq heap data ram (by omega)]
  simp only [held]

end Guardado

end VeltiumCharger.Group
