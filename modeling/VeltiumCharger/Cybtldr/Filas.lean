import VeltiumCharger.Cybtldr.Programacion
import VeltiumCharger.Library.Script

/-!
# What the lines of a firmware file are sent as

A row goes in pieces of 121 bytes, and the rest with the command that programs it; the
vector for the decryption has a command of its own.  The commands are known from the text
of the line, and those that have been sent are a beginning of them whatever the other
processor does.
-/

namespace VeltiumCharger.Cybtldr

open VeltiumCharger.Buffer VeltiumCharger.Lines VeltiumCharger.Loop VeltiumCharger.Checked
open VeltiumCharger.Script

/-! ## What a row is sent as -/

/-- The pieces of a row that go before its last command: as many as leave no more than
113 bytes. -/
def cuantos (size : Nat) : Nat :=
  (size + 7) / 121

/-- A piece of a row. -/
def pieza (buf : List UInt8) (j : Nat) : List UInt8 :=
  (buf.drop (121 * j)).take 121

/-- The commands for a row, of which the last has the address and the checksum. -/
def ordenesFila (orden : UInt32 → UInt32 → List UInt8 → Orden) (address : UInt32)
    (buf : List UInt8) : List Orden :=
  (List.range (cuantos buf.length)).map (fun j => .sendData (pieza buf j)) ++
    [orden address (checksum32 buf) (buf.drop (121 * cuantos buf.length))]

/-- The commands have been sent, all of them when there is no error. -/
def Cumple {σ : Type} (checksum : UInt8) (ordenes : List Orden) (err : Nat) (s s' : Sesion σ) :
    Prop :=
  Performs (ordenes.map (Orden.trama checksum)) (err = 0) s.enviadas s'.enviadas

theorem Cumple.append {σ : Type} {checksum : UInt8} {ordenes ordenes' : List Orden}
    {err err' : Nat} {s s' s'' : Sesion σ} (primera : Cumple checksum ordenes err s s')
    (segunda : err = 0 → Cumple checksum ordenes' err' s' s'')
    (para : err ≠ 0 → s'' = s' ∧ err' ≠ 0) :
    Cumple checksum (ordenes ++ ordenes') err' s s'' := by
  rw [Cumple, List.map_append]
  exact Performs.append primera segunda fun falla => ⟨by rw [(para falla).1], (para falla).2⟩

section Ordenes

variable {σ : Type} (enlace : Enlace σ) (checksum : UInt8)

theorem enviadas_transfiere (o : Orden) (inBuf outBuf : Nat → UInt8) (s : Sesion σ) :
    (transfiere enlace checksum o inBuf outBuf s).sesion.enviadas =
      s.enviadas ++ [o.trama checksum] := by
  have bytes : (List.range (o.create checksum inBuf).cmdSize).map (o.create checksum inBuf).cmdBuf =
      o.trama checksum := by
    rw [o.cmdSize_create, o.cmdBuf_create]
    exact (begins_write_zero _ _).eq_map
  rw [transfiere, bytes]

theorem enviadas_ordena (o : Orden) (inBuf outBuf : Nat → UInt8) (s : Sesion σ) :
    (ordena enlace checksum o inBuf outBuf s).sesion.enviadas =
      s.enviadas ++ [o.trama checksum] := by
  rw [← enviadas_transfiere enlace checksum o inBuf outBuf s, ordena]
  split_ifs <;> rfl

theorem cumple_ordena (o : Orden) (inBuf outBuf : Nat → UInt8) (s : Sesion σ) (err : Nat) :
    Cumple checksum [o] err s (ordena enlace checksum o inBuf outBuf s).sesion :=
  .all (enviadas_ordena enlace checksum o inBuf outBuf s)

theorem enviadas_endBootloadOperation (pila : Nat → UInt8) (s : Sesion σ) :
    (endBootloadOperation enlace checksum pila s).enviadas =
      s.enviadas ++ [Orden.exitBootLoader.trama checksum] := by
  have bytes : (List.range (Orden.exitBootLoader.create checksum pila).cmdSize).map
      (Orden.exitBootLoader.create checksum pila).cmdBuf = Orden.exitBootLoader.trama checksum := by
    rw [Orden.cmdSize_create, Orden.cmdBuf_create]
    exact (begins_write_zero _ _).eq_map
  rw [endBootloadOperation, bytes]

end Ordenes

/-! ## `SendData` -/

section SendData

variable {σ : Type} {enlace : Enlace σ} {checksum : UInt8} {buf : List UInt8}
  {inBuf outBuf : Nat → UInt8} {s : Sesion σ}

theorem lt_cuantos_iff {size j : Nat} : j < cuantos size ↔ 113 < size - 121 * j := by
  rw [cuantos]
  omega

/-- After `j` pieces. -/
def Reparto.Tras (checksum : UInt8) (buf : List UInt8) (s : Sesion σ) (j : Nat) (r : Reparto σ) :
    Prop :=
  r.offset = min (121 * j) buf.length ∧
    r.hecho.sesion.enviadas =
      s.enviadas ++ (List.range j).map fun i => (Orden.sendData (pieza buf i)).trama checksum

theorem Reparto.Tras.trozo {j : Nat} {r : Reparto σ} (tras : r.Tras checksum buf s j)
    (sigue : r.sigue buf.length (128 - 15) = true) :
    j < cuantos buf.length ∧
      (r.trozo enlace checksum buf inBuf).Tras checksum buf s (j + 1) := by
  obtain ⟨offset, enviadas⟩ := tras
  rw [Reparto.sigue, Bool.and_eq_true, decide_eq_true_eq, offset] at sigue
  have queda : 121 * j < buf.length := by omega
  rw [Nat.min_eq_left queda.le] at offset sigue
  have bytes : (buf.drop r.offset).take
      (if min (128 - 7) buf.length < buf.length - r.offset then min (128 - 7) buf.length
        else buf.length - r.offset) = pieza buf j := by
    rw [offset, pieza]
    split_ifs with larga
    · rw [Nat.min_eq_left (by omega)]
    · rw [List.take_of_length_le (by simp), List.take_of_length_le (by simp; omega)]
  refine ⟨lt_cuantos_iff.mpr (by omega), ?_, ?_⟩
  · have suma : (r.trozo enlace checksum buf inBuf).offset = r.offset +
        if min (128 - 7) buf.length < buf.length - r.offset then min (128 - 7) buf.length
        else buf.length - r.offset := rfl
    rw [suma, offset]
    split_ifs <;> omega
  · rw [Reparto.trozo, bytes, enviadas_ordena, enviadas, List.range_succ, List.map_append,
      List.append_assoc]
    rfl

/-- The pieces go in their order, and all of them unless there is an error. -/
theorem sendData_tras :
    ∃ j, j ≤ cuantos buf.length ∧
      (sendData enlace checksum buf (128 - 15) inBuf outBuf s).Tras checksum buf s j ∧
      ((sendData enlace checksum buf (128 - 15) inBuf outBuf s).hecho.err = 0 →
        j = cuantos buf.length) := by
  have tras : ∃ j, j ≤ cuantos buf.length ∧
      (sendData enlace checksum buf (128 - 15) inBuf outBuf s).Tras checksum buf s j := by
    refine (whileFuel_heads _ _ _ _).invariant
      (fun r => ∃ j, j ≤ cuantos buf.length ∧ Reparto.Tras checksum buf s j r)
      ⟨0, Nat.zero_le _, (Nat.zero_min _).symm, (List.append_nil _).symm⟩ ?_
    rintro r - ⟨j, -, tras⟩ sigue
    obtain ⟨menor, siguiente⟩ := tras.trozo sigue
    exact ⟨j + 1, menor, siguiente⟩
  have acaba : (sendData enlace checksum buf (128 - 15) inBuf outBuf s).sigue buf.length
      (128 - 15) = false := by
    refine whileFuel_leaves_of (fun r => ∃ j, Reparto.Tras checksum buf s j r)
      (fun r => buf.length - r.offset) ?_ ⟨0, (Nat.zero_min _).symm, (List.append_nil _).symm⟩
      (Nat.sub_le _ _)
    rintro r ⟨j, tras⟩ sigue
    obtain ⟨menor, siguiente⟩ := tras.trozo sigue
    have queda := lt_cuantos_iff.mp menor
    refine ⟨⟨j + 1, siguiente⟩, ?_⟩
    rw [siguiente.1, tras.1]
    omega
  obtain ⟨j, hasta, tras⟩ := tras
  refine ⟨j, hasta, tras, fun exito => Nat.le_antisymm hasta (Nat.le_of_not_lt fun menor => ?_)⟩
  have queda := lt_cuantos_iff.mp menor
  rw [Reparto.sigue, exito, tras.1, Nat.min_eq_left (by omega)] at acaba
  simp only [beq_self_eq_true, Bool.true_and, decide_eq_false_iff_not] at acaba
  exact acaba queda

/-- `CyBtldr_ProgramRow` and `CyBtldr_VerifyRow` send the commands of the row. -/
theorem cumple_escribeFila (orden : UInt32 → UInt32 → List UInt8 → Orden) (address : UInt32)
    (buf : List UInt8) (pila : Nat → UInt8) (s : Sesion σ) :
    Cumple checksum (ordenesFila orden address buf)
      (escribeFila enlace checksum orden address buf pila s).err s
      (escribeFila enlace checksum orden address buf pila s).sesion := by
  obtain ⟨j, hasta, ⟨offset, enviadas⟩, todas⟩ :=
    @sendData_tras σ enlace checksum buf pila pila s
  have piezas : Cumple checksum
      ((List.range (cuantos buf.length)).map fun j => .sendData (pieza buf j))
      (sendData enlace checksum buf (128 - 15) pila pila s).hecho.err s
      (sendData enlace checksum buf (128 - 15) pila pila s).hecho.sesion := by
    refine ⟨_, ?_, enviadas, fun exito => ?_⟩
    · rw [List.map_map]
      have primeras := List.take_prefix j (List.range (cuantos buf.length))
      rw [List.take_range, Nat.min_eq_left hasta] at primeras
      exact primeras.map _
    · rw [todas exito, List.map_map]
      rfl
  rw [escribeFila, computeChecksum32bit_eq, (begins_getD buf 0).eq_map]
  split_ifs with exito
  · refine piezas.append (fun _ => ?_) fun falla => absurd exito falla
    have resto : buf.drop (sendData enlace checksum buf (128 - 15) pila pila s).offset =
        buf.drop (121 * cuantos buf.length) := by
      rw [offset, todas exito]
      rcases Nat.le_total (121 * cuantos buf.length) buf.length with dentro | fuera
      · rw [Nat.min_eq_left dentro]
      · rw [Nat.min_eq_right fuera, List.drop_length, List.drop_eq_nil_of_le fuera]
    rw [resto]
    exact cumple_ordena ..
  · exact piezas.append (fun cero => absurd cero exito) fun falla => ⟨rfl, falla⟩

end SendData

/-! ## What a line says -/

/-- A byte for each pair of hexadecimal digits. -/
def hexBytes : List UInt8 → List UInt8
  | [] => []
  | [_] => []
  | alto :: bajo :: digitos => ((fromHex alto <<< 4) ||| fromHex bajo) :: hexBytes digitos

theorem length_hexBytes (digitos : List UInt8) :
    (hexBytes digitos).length = digitos.length / 2 := by
  induction digitos using hexBytes.induct with
  | case1 => rfl
  | case2 => simp [hexBytes]
  | case3 alto bajo digitos inductionHypothesis =>
      rw [hexBytes, List.length_cons, inductionHypothesis, List.length_cons, List.length_cons]
      omega

theorem getElem?_hexBytes {digitos : List UInt8} {i : Nat} {alto bajo : UInt8}
    (primero : digitos[i * 2]? = some alto) (segundo : digitos[i * 2 + 1]? = some bajo) :
    (hexBytes digitos)[i]? = some ((fromHex alto <<< 4) ||| fromHex bajo) := by
  induction digitos using hexBytes.induct generalizing i with
  | case1 => exact absurd primero (by simp)
  | case2 => exact absurd segundo (by simp)
  | case3 alto' bajo' digitos inductionHypothesis =>
      cases i with
      | zero =>
          obtain rfl : alto' = alto := Option.some.inj primero
          obtain rfl : bajo' = bajo := Option.some.inj segundo
          rfl
      | succ i =>
          rw [hexBytes, List.getElem?_cons_succ]
          rw [show (i + 1) * 2 = i * 2 + 1 + 1 by omega] at primero segundo
          exact inductionHypothesis primero segundo

section FromAscii

variable {bufSize : UInt32} {leidos : Nat} {buffer : Nat → UInt8} {digitos : List UInt8}

theorem fromAsciiLoop_eq (begins : Begins buffer digitos) (size : bufSize.toNat = digitos.length)
    (corto : digitos.length < 131072) {fuel : Nat} {i size' : UInt16}
    {rowData rowData' : Nat → UInt8} (hasta : i.toNat ≤ digitos.length / 2)
    (hechos : Begins rowData ((hexBytes digitos).take i.toNat))
    (acaba : fromAsciiLoop bufSize leidos buffer fuel i rowData = some (size', rowData')) :
    size'.toNat = (hexBytes digitos).length ∧ Begins rowData' (hexBytes digitos) := by
  induction fuel generalizing i rowData with
  | zero => simp [fromAsciiLoop] at acaba
  | succ fuel inductionHypothesis =>
      rw [fromAsciiLoop, size] at acaba
      split_ifs at acaba with sigue
      · obtain ⟨-, acaba⟩ := load_bind_eq_some_iff.mp acaba
        obtain ⟨-, acaba⟩ := load_bind_eq_some_iff.mp acaba
        obtain ⟨-, acaba⟩ := store_bind_eq_some_iff.mp acaba
        have siguiente : (i + 1).toNat = i.toNat + 1 := by
          have uno : (1 : UInt16).toNat = 1 := rfl
          rw [UInt16.toNat_add, uno, Nat.mod_eq_of_lt (by omega)]
        refine inductionHypothesis (by omega) ?_ acaba
        have byte := getElem?_hexBytes (begins (i.toNat * 2) (by omega))
          (begins (i.toNat * 2 + 1) (by omega))
        have largo := length_hexBytes digitos
        intro k dentro
        rw [siguiente, List.length_take] at dentro
        rw [siguiente, List.getElem?_take_of_lt (by omega)]
        rw [write_singleton]
        by_cases ahora : k = i.toNat
        · rw [if_pos ahora, ahora, byte]
        · rw [if_neg ahora, ← hechos k (by rw [List.length_take]; omega),
            List.getElem?_take_of_lt (by omega)]
      · rw [Option.some.injEq, Prod.mk.injEq] at acaba
        obtain ⟨rfl, rfl⟩ := acaba
        have largo := length_hexBytes digitos
        rw [List.take_of_length_le (by omega)] at hechos
        exact ⟨by omega, hechos⟩

/-- The digits of a text give its bytes; an odd number of them is an error. -/
theorem fromAscii_eq (begins : Begins buffer digitos) (size : bufSize.toNat = digitos.length)
    (corto : digitos.length < 131072) {fuel : Nat} {rowData : Nat → UInt8}
    {leida : Except Cyret (UInt16 × (Nat → UInt8))}
    (acaba : fromAscii fuel bufSize leidos buffer rowData = some leida) :
    if digitos.length % 2 = 1 then leida = .error .errLength
    else ∃ size' rowData', leida = .ok (size', rowData') ∧
      size'.toNat = (hexBytes digitos).length ∧ Begins rowData' (hexBytes digitos) := by
  rw [fromAscii, size] at acaba
  split_ifs at acaba ⊢ with impar
  · exact (Option.some.inj acaba).symm
  · obtain ⟨⟨size', rowData'⟩, igual, rfl⟩ := Option.map_eq_some_iff.mp acaba
    refine ⟨size', rowData', rfl, fromAsciiLoop_eq begins size corto ?_ ?_ igual⟩
    · exact Nat.zero_le _
    · intro k dentro
      exact absurd dentro (by simp)

end FromAscii

/-- Four bytes, the lowest first. -/
def valor32 (bytes : List UInt8) : UInt32 :=
  parse4ByteValueLittleEndian fun k => bytes.getD k 0

theorem parse4ByteValueLittleEndian_eq {buf : Nat → UInt8} {bytes : List UInt8}
    (begins : Begins buf bytes) (bastan : 4 ≤ bytes.length) :
    parse4ByteValueLittleEndian buf = valor32 bytes := by
  have byte : ∀ k, k < 4 → buf k = bytes.getD k 0 := fun k dentro => by
    rw [List.getD_eq_getElem?_getD, begins k (by omega), Option.getD_some]
  rw [valor32, parse4ByteValueLittleEndian, byte 0 (by decide), byte 1 (by decide),
    byte 2 (by decide), byte 3 (by decide)]
  rfl

/-- The address and the data of the row that a text is, if it is one. -/
def filaDe (texto : List UInt8) : Option (UInt32 × List UInt8) :=
  if texto.head? = some dosPuntos ∧ texto.length % 2 = 1 ∧ 11 ≤ texto.length then
    some (valor32 (hexBytes texto.tail), (hexBytes texto.tail).drop 4)
  else none

/-- The commands for a row, as the action says. -/
def ordenesDatos (action : Action) (address : UInt32) (buf : List UInt8) : List Orden :=
  match action with
  | .erase => [.eraseData address]
  | .program => ordenesFila .programData address buf
  | .verify => ordenesFila .verifyData address buf

/-- A line with a vector for the decryption. -/
def EsVector (texto : List UInt8) : Prop :=
  eivMetaHeader <+: texto

instance (texto : List UInt8) : Decidable (EsVector texto) :=
  inferInstanceAs (Decidable (_ <+: _))

/-- What is wrong with a line is in its digits. -/
def Admitida (texto : List UInt8) : Prop :=
  (texto.head? = some dosPuntos → (filaDe texto).isSome) ∧
    (EsVector texto → texto.length % 2 = 1)

/-- The commands for a line. -/
def ordenesLinea (action : Action) (texto : List UInt8) : List Orden :=
  match filaDe texto with
  | some (address, buf) => ordenesDatos action address buf
  | none =>
      if EsVector texto ∧ texto.length % 2 = 1 then
        [.setEncryptionInitialVector (hexBytes (texto.drop 5))]
      else []

section Linea

variable {p : Pasada} {l : Line UInt8} (lee : p.Lee l)

include lee

theorem Pasada.Lee.begins : Begins p.lector.buffer (texto l) :=
  lee.buffer.left

theorem Pasada.Lee.buffer_zero_iff {c : UInt8} (visible : c ≠ 0) :
    p.lector.buffer 0 = c ↔ (texto l).head? = some c := by
  have primero := lee.buffer 0 (by simp)
  rw [← List.head?_eq_getElem?, List.head?_append] at primero
  cases cabeza : (texto l).head? with
  | none =>
      rw [cabeza] at primero
      have nulo : p.lector.buffer 0 = 0 := (Option.some.inj primero).symm
      rw [nulo]
      exact iff_of_false visible.symm (by simp)
  | some d =>
      rw [cabeza] at primero
      have mismo : p.lector.buffer 0 = d := (Option.some.inj primero).symm
      rw [mismo, Option.some_inj]

/-- A line begins with a header. -/
theorem Pasada.Lee.empieza_iff (cabecera : List UInt8) :
    cabecera.length ≤ p.size.toNat ∧ empieza p.lector.buffer cabecera ↔
      cabecera <+: texto l := by
  rw [lee.size, List.prefix_iff_eq_take, empieza, decide_eq_true_eq]
  constructor
  · rintro ⟨bastan, bytes⟩
    exact bytes.symm.trans (lee.begins.take bastan)
  · intro igual
    have bastan : cabecera.length ≤ (texto l).length := by
      have menor := congrArg List.length igual
      rw [List.length_take] at menor
      omega
    exact ⟨bastan, (lee.begins.take bastan).trans igual.symm⟩

theorem Pasada.Lee.esVector_iff :
    5 ≤ p.size ∧ empieza p.lector.buffer eivMetaHeader ↔ EsVector (texto l) := by
  rw [UInt32.le_iff_toNat_le]
  exact lee.empieza_iff eivMetaHeader

/-- The row that the line is, or an error. -/
theorem Pasada.Lee.parseCyAcd2RowData (corta : l.content.length < tamanoLinea) {fuel : Nat}
    {hexData : Nat → UInt8} {fila fila' : Fila}
    (acaba : parseCyAcd2RowData fuel p.size p.leidos p.lector.buffer hexData fila = some fila')
    (datos : (texto l).head? = some dosPuntos) :
    match filaDe (texto l) with
    | some (address, buf) => fila'.err = .success ∧ fila'.address = address ∧
        (List.range fila'.size.toNat).map fila'.rowData = buf
    | none => fila'.err ≠ .success := by
  have cabe := (lee.coloca corta).dentro
  have leidos := (lee.coloca corta).size
  have tamano := lee.size
  obtain ⟨digitos, hdigitos⟩ : ∃ digitos, texto l = dosPuntos :: digitos := by
    cases hl : texto l with
    | nil => simp [hl] at datos
    | cons c digitos => exact ⟨digitos, by rw [hl] at datos; rw [Option.some.inj datos]⟩
  rw [hdigitos, List.length_cons] at tamano
  have limite : p.size ≤ 4 ↔ digitos.length ≤ 3 := by
    rw [UInt32.le_iff_toNat_le, tamano]
    exact Nat.succ_le_succ_iff
  rw [Cybtldr.parseCyAcd2RowData, if_pos ((lee.buffer_zero_iff (by decide)).mpr datos)] at acaba
  rw [hdigitos, filaDe, List.length_cons, List.tail_cons, List.head?_cons]
  split_ifs at acaba with corto
  · rw [if_neg (by have corto := limite.mp corto; omega), ← Option.some.inj acaba]
    exact Cyret.noConfusion
  have menos : (p.size - 1).toNat = digitos.length := by
    have uno : (1 : UInt32).toNat = 1 := rfl
    have largo : 3 < digitos.length := Nat.lt_of_not_le fun menor => corto (limite.mpr menor)
    rw [UInt32.toNat_sub_of_le _ _ (UInt32.le_iff_toNat_le.mpr (by omega)), uno, tamano]
    omega
  have begins : Begins (fun k => p.lector.buffer (k + 1)) digitos := by
    have begins := lee.begins
    rw [hdigitos, ← List.singleton_append] at begins
    intro k dentro
    change _ = some (p.lector.buffer (k + 1))
    rw [Nat.add_comm]
    exact begins.right k dentro
  obtain ⟨leida, ascii, acaba⟩ := Option.bind_eq_some_iff.mp acaba
  have bytes := fromAscii_eq begins menos (by rw [tamanoLinea] at cabe; omega) ascii
  have mitad := length_hexBytes digitos
  split_ifs at bytes with impar
  · subst bytes
    rw [if_neg (by omega), ← Option.some.inj acaba]
    exact Cyret.noConfusion
  · obtain ⟨size, rowData, rfl, hsize, hrow⟩ := bytes
    have cuatro : (4 : UInt16).toNat = 4 := rfl
    have bastan : 4 < size ↔ 11 ≤ digitos.length + 1 := by
      rw [UInt16.lt_iff_toNat_lt, hsize, mitad, cuatro]
      omega
    dsimp only at acaba
    split_ifs at acaba with filas
    · obtain ⟨-, acaba⟩ := loadMany_bind_eq_some_iff.mp acaba
      obtain ⟨-, acaba⟩ := store_bind_eq_some_iff.mp acaba
      rw [if_pos ⟨rfl, by omega, bastan.mp filas⟩, ← Option.some.inj acaba]
      have quedan : (size - 4).toNat = (hexBytes digitos).length - 4 := by
        rw [UInt16.toNat_sub_of_le _ _ (UInt16.le_of_lt filas), hsize, cuatro]
      refine ⟨rfl, parse4ByteValueLittleEndian_eq hrow (by have once := bastan.mp filas; omega), ?_⟩
      have copiados := (begins_write_zero ((List.range (size - 4).toNat).map fun i =>
        rowData (4 + i)) fila.rowData).eq_map
      rw [List.length_map, List.length_range] at copiados
      have resto := (hrow.drop (n := 4) (by have once := bastan.mp filas; omega)).eq_map
      rw [List.length_drop] at resto
      rw [copiados, quedan, resto]
    · rw [if_neg (fun todo => filas (bastan.mpr todo.2.2)), ← Option.some.inj acaba]
      exact Cyret.noConfusion

/-- The vector of the line, or an error. -/
theorem Pasada.Lee.fromAscii (corta : l.content.length < tamanoLinea) {fuel : Nat}
    {rowData : Nat → UInt8} {leida : Except Cyret (UInt16 × (Nat → UInt8))} {n : Nat}
    (bastan : n ≤ (texto l).length)
    (acaba : fromAscii fuel (p.size - UInt32.ofNat n) (p.leidos - n)
      (fun k => p.lector.buffer (n + k)) rowData = some leida) :
    if ((texto l).length - n) % 2 = 1 then leida = .error .errLength
    else ∃ size' rowData', leida = .ok (size', rowData') ∧
      (List.range size'.toNat).map rowData' = hexBytes ((texto l).drop n) := by
  have cabe := (lee.coloca corta).dentro
  have leidos := (lee.coloca corta).size
  have tamano := lee.size
  have tope : tamanoLinea = 1536 := rfl
  have exacto : (UInt32.ofNat n).toNat = n :=
    UInt32.toNat_ofNat_of_lt' (lt_of_le_of_lt (by omega : n ≤ 1536) (by decide))
  have menos : (p.size - UInt32.ofNat n).toNat = ((texto l).drop n).length := by
    rw [UInt32.toNat_sub_of_le _ _ (UInt32.le_iff_toNat_le.mpr (by omega)), exacto, tamano,
      List.length_drop]
  have bytes := fromAscii_eq (lee.begins.drop bastan) menos (by rw [List.length_drop]; omega) acaba
  rw [List.length_drop] at bytes
  split_ifs at bytes ⊢ with impar
  · exact bytes
  · obtain ⟨size, rowData, rfl, hsize, hrow⟩ := bytes
    exact ⟨size, rowData, rfl, by rw [hsize, hrow.eq_map]⟩

end Linea

theorem codigo_ne_zero {err : Cyret} (falla : err ≠ .success) : err.codigo ≠ 0 := by
  cases err with
  | success => exact absurd rfl falla
  | _ => decide

theorem filaDe_eq_none {texto : List UInt8} (otro : texto.head? ≠ some dosPuntos) :
    filaDe texto = none :=
  if_neg fun todo => otro todo.1

theorem head?_of_esVector {texto : List UInt8} (vector : EsVector texto) :
    texto.head? = some arroba := by
  obtain ⟨digitos, rfl⟩ := vector
  rfl

section Lineas

variable {σ : Type} {enlace : Enlace σ} {action : Action} {checksum : UInt8} {fuel : Nat}

section Casos

variable {p : Pasada} {l : Line UInt8} (lee : p.Lee l) (corta : l.content.length < tamanoLinea)
  {pila : Nat → UInt8} {s s' : Sesion σ} {err : Nat}

include lee corta

theorem Pasada.Lee.processMetaRow (arrobas : (texto l).head? = some arroba)
    (acaba : processMetaRow enlace checksum fuel p pila s = some (err, s')) :
    Cumple checksum (ordenesLinea action (texto l)) err s s' ∧ (err = 0 → Admitida (texto l)) := by
  have otra : (texto l).head? ≠ some dosPuntos := by
    rw [arrobas]
    decide
  have sinDatos : (texto l).head? = some dosPuntos → (filaDe (texto l)).isSome :=
    fun datos => absurd datos otra
  rw [Cybtldr.processMetaRow] at acaba
  rw [ordenesLinea, filaDe_eq_none otra]
  dsimp only
  split_ifs at acaba with cabecera
  · have vector := lee.esVector_iff.mp cabecera
    have cinco : 5 ≤ (texto l).length := vector.length_le
    obtain ⟨leida, ascii, acaba⟩ := Option.bind_eq_some_iff.mp acaba
    have bytes := lee.fromAscii corta cinco ascii
    split_ifs at bytes with impar
    · subst bytes
      rw [if_neg (by omega)]
      obtain ⟨rfl, rfl⟩ := Prod.mk.inj (Option.some.inj acaba)
      exact ⟨.idle, fun cero => absurd cero (by decide)⟩
    · obtain ⟨size, rowData, rfl, hbytes⟩ := bytes
      rw [if_pos ⟨vector, by omega⟩]
      obtain ⟨hecho, manda, acaba⟩ := Option.bind_eq_some_iff.mp acaba
      obtain ⟨rfl, rfl⟩ := Prod.mk.inj (Option.some.inj acaba)
      rw [hbytes, setEncryptionInitialVector] at manda
      split_ifs at manda
      rw [← Option.some.inj manda]
      exact ⟨cumple_ordena .., fun _ => ⟨sinDatos, fun _ => by omega⟩⟩
  · have sinVector : ¬EsVector (texto l) := fun vector => cabecera (lee.esVector_iff.mpr vector)
    obtain ⟨rfl, rfl⟩ := Prod.mk.inj (Option.some.inj acaba)
    rw [if_neg fun todo => sinVector todo.1]
    exact ⟨.idle, fun _ => ⟨sinDatos, fun vector => absurd vector sinVector⟩⟩

theorem Pasada.Lee.processDataRow {fila : Fila} (datos : (texto l).head? = some dosPuntos)
    (acaba : processDataRow enlace action checksum fuel p pila fila s = some (err, s')) :
    Cumple checksum (ordenesLinea action (texto l)) err s s' ∧ (err = 0 → Admitida (texto l)) := by
  have sinVector : ¬EsVector (texto l) := fun vector => by
    have arrobas := head?_of_esVector vector
    rw [datos] at arrobas
    exact absurd arrobas (by decide)
  obtain ⟨fila', leida, acaba⟩ := Option.bind_eq_some_iff.mp acaba
  have dice := lee.parseCyAcd2RowData corta leida datos
  rw [ordenesLinea]
  cases hfila : filaDe (texto l) with
  | none =>
      rw [hfila] at dice
      rw [if_neg dice] at acaba
      obtain ⟨rfl, rfl⟩ := Prod.mk.inj (Option.some.inj acaba)
      rw [if_neg fun todo => sinVector todo.1]
      exact ⟨.idle, fun cero => absurd cero (codigo_ne_zero dice)⟩
  | some leido =>
      obtain ⟨address, buf⟩ := leido
      rw [hfila] at dice
      obtain ⟨exito, rfl, hbuf⟩ := dice
      rw [if_pos exito, hbuf] at acaba
      obtain ⟨rfl, rfl⟩ := Prod.mk.inj (Option.some.inj acaba)
      refine ⟨?_, fun _ => ⟨fun _ => by rw [hfila]; rfl, fun vector => absurd vector sinVector⟩⟩
      cases action with
      | program => exact cumple_escribeFila ..
      | erase => exact cumple_ordena ..
      | verify => exact cumple_escribeFila ..

/-- A line sends its commands, and ends without an error only when it has none. -/
theorem Pasada.Lee.processLine {fila : Fila}
    (acaba : processLine enlace action checksum fuel p pila fila s = some (err, s')) :
    Cumple checksum (ordenesLinea action (texto l)) err s s' ∧ (err = 0 → Admitida (texto l)) := by
  have cabeza : ∀ {c : UInt8}, c ≠ 0 → (p.lector.buffer 0 = c ↔ (texto l).head? = some c) :=
    lee.buffer_zero_iff
  rw [Cybtldr.processLine] at acaba
  split_ifs at acaba with arrobas datos
  · exact lee.processMetaRow corta ((cabeza (by decide)).mp arrobas) acaba
  · exact lee.processDataRow corta ((cabeza (by decide)).mp datos) acaba
  · rw [cabeza (by decide)] at arrobas datos
    have sinVector : ¬EsVector (texto l) := fun vector => arrobas (head?_of_esVector vector)
    obtain ⟨rfl, rfl⟩ := Prod.mk.inj (Option.some.inj acaba)
    rw [ordenesLinea, filaDe_eq_none datos]
    dsimp only
    rw [if_neg fun todo => sinVector todo.1]
    exact ⟨.idle, fun _ => ⟨fun otra => absurd otra datos, fun vector => absurd vector sinVector⟩⟩

end Casos

end Lineas

end VeltiumCharger.Cybtldr
