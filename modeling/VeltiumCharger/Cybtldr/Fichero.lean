import VeltiumCharger.Cybtldr.Lector
import VeltiumCharger.Library.Checked

/-!
# What is done with the lines

The text of a line is turned into bytes by `CyBtldr_FromAscii`, and
`CyBtldr_ParseCyAcdAppStartAndSize` goes through the file once before it is
sent.  Both take the size that `CyBtldr_ReadLine` has returned as the bound of
their loops.  Here a read outside the characters placed in the buffer has no
result, neither has a write behind the end of the local array for the bytes, and
neither has a loop that does not end.
-/

namespace VeltiumCharger.Cybtldr

open VeltiumCharger.Buffer VeltiumCharger.Lines VeltiumCharger.Checked

/-! ## Rows -/

/-- `CyBtldr_FromHex`. -/
def fromHex (value : UInt8) : UInt8 :=
  if 0x30 ≤ value ∧ value ≤ 0x39 then value - 0x30
  else if 0x61 ≤ value ∧ value ≤ 0x66 then 10 + value - 0x61
  else if 0x41 ≤ value ∧ value ≤ 0x46 then 10 + value - 0x41
  else 0

/-- `MAX_BUFFER_SIZE`, the size of the local arrays for the bytes of a line. -/
def maxBufferSize : Nat := 768

/-- The loop of `CyBtldr_FromAscii`, whose index has sixteen bits, on a buffer of
which `leidos` characters may be read. -/
def fromAsciiLoop (bufSize : UInt32) (leidos : Nat) (buffer : Nat → UInt8) :
    Nat → UInt16 → (Nat → UInt8) → Option (UInt16 × (Nat → UInt8))
  | 0, _, _ => none
  | fuel + 1, i, rowData =>
      if i.toNat < bufSize.toNat / 2 then do
        let alto ← load leidos buffer (i.toNat * 2)
        let bajo ← load leidos buffer (i.toNat * 2 + 1)
        let rowData ← store maxBufferSize i.toNat [(fromHex alto <<< 4) ||| fromHex bajo] rowData
        fromAsciiLoop bufSize leidos buffer fuel (i + 1) rowData
      else some (i, rowData)

/-- `CyBtldr_FromAscii`: the size and the bytes of the row. -/
def fromAscii (fuel : Nat) (bufSize : UInt32) (leidos : Nat) (buffer rowData : Nat → UInt8) :
    Option (Except Cyret (UInt16 × (Nat → UInt8))) :=
  if bufSize.toNat % 2 = 1 then some (.error .errLength)
  else (fromAsciiLoop bufSize leidos buffer fuel 0 rowData).map .ok

/-- `parse4ByteValueLittleEndian` -/
def parse4ByteValueLittleEndian (buf : Nat → UInt8) : UInt32 :=
  (buf 0).toUInt32 ||| ((buf 1).toUInt32 <<< 8) ||| ((buf 2).toUInt32 <<< 16) |||
    ((buf 3).toUInt32 <<< 24)

/-- What `CyBtldr_ParseCyAcd2RowData` returns in its arguments. -/
structure Fila where
  err : Cyret
  address : UInt32
  rowData : Nat → UInt8
  size : UInt16
  checksum : UInt8

def dosPuntos : UInt8 := 0x3A

/-- `CyBtldr_ParseCyAcd2RowData`; `hexData` is what its local array holds, `fila` its
arguments before the call, with an array of the caller for the row. -/
def parseCyAcd2RowData (fuel : Nat) (bufSize : UInt32) (leidos : Nat)
    (buffer hexData : Nat → UInt8) (fila : Fila) : Option Fila :=
  if bufSize ≤ 4 then some { fila with err := .errLength }
  else if buffer 0 = dosPuntos then do
    match ← fromAscii fuel (bufSize - 1) (leidos - 1) (fun k => buffer (k + 1)) hexData with
    | .error err => some { fila with err := err }
    | .ok (hexSize, hexData) =>
        let address := parse4ByteValueLittleEndian hexData
        if 4 < hexSize then
          let size := hexSize - 4
          let datos ← loadMany maxBufferSize hexData 4 size.toNat
          let rowData ← store maxBufferSize 0 datos fila.rowData
          some ⟨.success, address, rowData, size, datos.foldl (· + ·) 0⟩
        else some { fila with err := .errData, address := address, checksum := 0 }
  else some { fila with err := .errCmd }

/-! ## The whole file -/

/-- `@APPINFO:0x` -/
def appinfoMetaHeader : List UInt8 :=
  [0x40, 0x41, 0x50, 0x50, 0x49, 0x4E, 0x46, 0x4F, 0x3A, 0x30, 0x78]

/-- `@EIV:` -/
def eivMetaHeader : List UInt8 :=
  [0x40, 0x45, 0x49, 0x56, 0x3A]

/-- `,0x` -/
def appinfoMetaSeperator : List UInt8 :=
  [0x2C, 0x30, 0x78]

/-- `strncmp` with a text without terminators, as many characters as it has. -/
def empieza (buffer : Nat → UInt8) (cabecera : List UInt8) : Bool :=
  (List.range cabecera.length).map buffer = cabecera

/-- `strcspn(buf, ",")` in a buffer of `tamanoLinea` characters. -/
def separador (buffer : Nat → UInt8) : Option Nat :=
  (List.range tamanoLinea).find? fun k => buffer k = 0x2C ∨ buffer k = 0

/-- A loop over hexadecimal digits, from place `i` on. -/
def sumaHex (leidos : Nat) (buffer : Nat → UInt8) : Nat → Nat → UInt32 → Option UInt32
  | _, 0, suma => some suma
  | i, cuantos + 1, suma => do
      let c ← load leidos buffer i
      sumaHex leidos buffer (i + 1) cuantos ((suma <<< 4) + (fromHex c).toUInt32)

/-- The variables of `CyBtldr_ParseCyAcdAppStartAndSize`. -/
structure AppInfo where
  appStart : UInt32
  appSize : UInt32
  dataLines : UInt32
  appInfoFound : Bool
  fila : Fila

/-- The characters that a call has placed in the buffer. -/
def Pasada.leidos (p : Pasada) : Nat :=
  p.len.toNat - 1

/-- What is done with a line; `err` is kept in the row. -/
def analizar (fuel : Nat) (p : Pasada) (hexData : Nat → UInt8) (a : AppInfo) :
    Option (Cyret × AppInfo) :=
  let buf := p.lector.buffer
  if buf 0 = dosPuntos then
    if a.appInfoFound then some (.success, { a with dataLines := a.dataLines + 1 })
    else do
      let fila ← parseCyAcd2RowData fuel p.size p.leidos buf hexData a.fila
      some (fila.err, { a with
        appStart := if fila.address < a.appStart then fila.address else a.appStart
        appSize := a.appSize + fila.size.toUInt32, dataLines := a.dataLines + 1, fila := fila })
  else if 11 ≤ p.size ∧ empieza buf appinfoMetaHeader then do
    let seperatorIndex ← separador buf
    if empieza (fun k => buf (seperatorIndex + k)) appinfoMetaSeperator then do
      let appStart ← sumaHex p.leidos buf 11 (seperatorIndex - 11) 0
      let desde := seperatorIndex + 3
      let appSize ← sumaHex p.leidos buf desde (p.size.toNat - desde) 0
      some (.success, { a with appStart := appStart, appSize := appSize, appInfoFound := true })
    else some (.errFile, { a with appInfoFound := true })
  else if empieza buf eivMetaHeader then some (.success, a)
  else some (.errFile, a)

/-- The loop over the lines; `pila` is what the local array of each call holds. -/
def recorrer (fuel : Nat) (pila : Nat → Nat → UInt8) :
    Nat → Lector → AppInfo → Option (Cyret × Lector × AppInfo)
  | 0, _, _ => none
  | vueltas + 1, s, a =>
      let p := readLine s
      if p.err = .success then do
        let (err, a) ← analizar fuel p (pila vueltas) a
        if err = .success then recorrer fuel pila vueltas p.lector a
        else some (err, p.lector, a)
      else some (p.err, p.lector, a)

/-- `CyBtldr_ParseCyAcdAppStartAndSize`: it leaves the file where it was.  `fila` is
what its locals hold. -/
def parseCyAcdAppStartAndSize (fuel : Nat) (pila : Nat → Nat → UInt8) (fila : Fila) (s : Lector) :
    Option (Cyret × Lector × AppInfo) := do
  let (err, s', a) ← recorrer fuel pila fuel s
    ⟨0xFFFFFFFF, 0, 0, false, { fila with address := 0 }⟩
  let err := if err = .errEof then .success else err
  some (err, if err = .success then { s' with resto := s.resto } else s', a)

/-! ## Bounds of the loops -/

section FromAscii

variable {bufSize : UInt32} {leidos : Nat} {buffer : Nat → UInt8}

/-- The loop ends inside the characters that may be read and the array for the bytes. -/
theorem fromAsciiLoop_isSome (dentro : bufSize.toNat ≤ leidos)
    (corto : bufSize.toNat / 2 ≤ maxBufferSize) {fuel : Nat} {i : UInt16}
    (queda : bufSize.toNat / 2 < i.toNat + fuel) (hasta : i.toNat ≤ bufSize.toNat / 2)
    (rowData : Nat → UInt8) :
    (fromAsciiLoop bufSize leidos buffer fuel i rowData).isSome := by
  induction fuel generalizing i rowData with
  | zero => omega
  | succ fuel inductionHypothesis =>
      rw [fromAsciiLoop]
      split_ifs with sigue
      · have bytes : maxBufferSize = 768 := rfl
        have siguiente : (i + 1).toNat = i.toNat + 1 := by
          have uno : (1 : UInt16).toNat = 1 := rfl
          rw [UInt16.toNat_add, uno, Nat.mod_eq_of_lt (by omega)]
        rw [load_of_lt (show i.toNat * 2 < leidos by omega),
          load_of_lt (show i.toNat * 2 + 1 < leidos by omega)]
        dsimp only [Option.bind_eq_bind, Option.bind_some]
        rw [store_of_le (by rw [List.length_singleton]; omega)]
        exact inductionHypothesis (by omega) (by omega) _
      · rfl

/-- From 65536 bytes on the index never reaches the bound. -/
theorem fromAsciiLoop_eq_none (largo : 131072 ≤ bufSize.toNat) (fuel : Nat) (i : UInt16)
    (rowData : Nat → UInt8) : fromAsciiLoop bufSize leidos buffer fuel i rowData = none := by
  induction fuel generalizing i rowData with
  | zero => rfl
  | succ fuel inductionHypothesis =>
      have tope := i.toNat_lt
      rw [fromAsciiLoop, if_pos (by omega)]
      simp only [inductionHypothesis, Option.bind_eq_bind, Option.bind_fun_none]

theorem fromAscii_isSome (dentro : bufSize.toNat ≤ leidos)
    (corto : bufSize.toNat / 2 ≤ maxBufferSize) {fuel : Nat} (basta : bufSize.toNat < fuel)
    (rowData : Nat → UInt8) :
    (fromAscii fuel bufSize leidos buffer rowData).isSome := by
  rw [fromAscii]
  split_ifs
  · rfl
  · rw [Option.isSome_map]
    exact fromAsciiLoop_isSome dentro corto (i := 0) (by rw [UInt16.toNat_zero]; omega)
      (Nat.zero_le _) rowData

/-- What the loop has stored is inside the array. -/
theorem fromAsciiLoop_le {fuel : Nat} {i size : UInt16} {rowData rowData' : Nat → UInt8}
    (hasta : i.toNat ≤ maxBufferSize)
    (acaba : fromAsciiLoop bufSize leidos buffer fuel i rowData = some (size, rowData')) :
    size.toNat ≤ maxBufferSize := by
  induction fuel generalizing i rowData with
  | zero => simp [fromAsciiLoop] at acaba
  | succ fuel inductionHypothesis =>
      rw [fromAsciiLoop] at acaba
      split_ifs at acaba with sigue
      · obtain ⟨-, acaba⟩ := load_bind_eq_some_iff.mp acaba
        obtain ⟨-, acaba⟩ := load_bind_eq_some_iff.mp acaba
        obtain ⟨dentro, acaba⟩ := store_bind_eq_some_iff.mp acaba
        rw [List.length_singleton] at dentro
        have bytes : maxBufferSize = 768 := rfl
        have siguiente : (i + 1).toNat = i.toNat + 1 := by
          have uno : (1 : UInt16).toNat = 1 := rfl
          rw [UInt16.toNat_add, uno, Nat.mod_eq_of_lt (by omega)]
        exact inductionHypothesis (by omega) acaba
      · obtain ⟨rfl, -⟩ := acaba
        exact hasta

theorem fromAscii_le {fuel : Nat} {size : UInt16} {rowData rowData' : Nat → UInt8}
    (acaba : fromAscii fuel bufSize leidos buffer rowData = some (.ok (size, rowData'))) :
    size.toNat ≤ maxBufferSize := by
  rw [fromAscii] at acaba
  split_ifs at acaba
  · cases acaba
  · obtain ⟨leido, loop, igual⟩ := Option.map_eq_some_iff.mp acaba
    rw [Except.ok.inj igual] at loop
    exact fromAsciiLoop_le (Nat.zero_le _) loop

/-- A row is read inside the characters placed, and its bytes are inside their arrays. -/
theorem parseCyAcd2RowData_isSome (dentro : bufSize.toNat ≤ leidos)
    (corto : bufSize.toNat / 2 ≤ maxBufferSize) {fuel : Nat} (basta : bufSize.toNat < fuel)
    (hexData : Nat → UInt8) (fila : Fila) :
    (parseCyAcd2RowData fuel bufSize leidos buffer hexData fila).isSome := by
  rw [parseCyAcd2RowData]
  split_ifs with pequeno fila_datos
  · rfl
  · have menos : (bufSize - 1).toNat = bufSize.toNat - 1 := by
      have uno : (1 : UInt32).toNat = 1 := rfl
      have cuatro : (4 : UInt32).toNat = 4 := rfl
      have mayor : ¬bufSize.toNat ≤ 4 := fun menor =>
        pequeno (UInt32.le_iff_toNat_le.mpr (cuatro ▸ menor))
      rw [UInt32.toNat_sub_of_le _ _ (UInt32.le_iff_toNat_le.mpr (by omega)), uno]
    have ascii := @fromAscii_isSome (bufSize - 1) (leidos - 1) (fun k => buffer (k + 1))
      (by omega) (by omega) fuel (by omega) hexData
    obtain ⟨leida, igual⟩ := Option.isSome_iff_exists.mp ascii
    rw [igual]
    cases leida with
    | error err => rfl
    | ok leido =>
        obtain ⟨hexSize, leidas⟩ := leido
        have hasta := fromAscii_le igual
        simp only [Option.bind_eq_bind, Option.bind_some]
        split_ifs with bastan
        · have quedan : (hexSize - 4).toNat = hexSize.toNat - 4 :=
            UInt16.toNat_sub_of_le _ _ (UInt16.le_of_lt bastan)
          have cuatro : 4 < hexSize.toNat := UInt16.lt_iff_toNat_lt.mp bastan
          rw [isSome_loadMany_bind, isSome_store_bind, List.length_map, List.length_range, quedan]
          exact ⟨.inr (by omega), .inr (by omega), rfl⟩
        · rfl
  · rfl

/-- With the size of an empty line and a row in the buffer there is no end. -/
theorem parseCyAcd2RowData_eq_none (primero : buffer 0 = dosPuntos) (fuel leidos : Nat)
    (hexData : Nat → UInt8) (fila : Fila) :
    parseCyAcd2RowData fuel 0xFFFFFFFF leidos buffer hexData fila = none := by
  have resta : (0xFFFFFFFF : UInt32) - 1 = 0xFFFFFFFE := by decide
  have par : ¬(0xFFFFFFFE : UInt32).toNat % 2 = 1 := by decide
  have largo : 131072 ≤ (0xFFFFFFFE : UInt32).toNat := by decide
  rw [parseCyAcd2RowData, if_neg (by decide), if_pos primero, resta, fromAscii, if_neg par,
    fromAsciiLoop_eq_none largo]
  rfl

end FromAscii

theorem sumaHex_isSome {leidos : Nat} {buffer : Nat → UInt8} {i cuantos : Nat}
    (dentro : i + cuantos ≤ leidos ∨ cuantos = 0) (suma : UInt32) :
    (sumaHex leidos buffer i cuantos suma).isSome := by
  induction cuantos generalizing i suma with
  | zero => rfl
  | succ cuantos inductionHypothesis =>
      rw [sumaHex, load_of_lt (by omega)]
      exact inductionHypothesis (Or.inl (by omega)) _

/-- A terminated text has a separator in it or its terminator. -/
theorem separador_of_nulo {buffer : Nat → UInt8} {n : Nat} (nulo : buffer n = 0)
    (dentro : n < tamanoLinea) : ∃ k, separador buffer = some k ∧ k ≤ n := by
  cases encontrado : separador buffer with
  | none =>
      rw [separador, List.find?_eq_none] at encontrado
      exact absurd (Or.inr nulo) (by simpa using encontrado n (List.mem_range.mpr dentro))
  | some k =>
      refine ⟨k, rfl, ?_⟩
      by_contra despues
      have antes := (List.find?_range_eq_some.mp encontrado).2.2 n (by omega)
      simp [nulo] at antes

/-! ## After a line that was read as it should be -/

/-- The size is the number of characters placed, and a terminator is behind them. -/
structure Pasada.Coloca (p : Pasada) : Prop where
  size : p.size.toNat = p.leidos
  dentro : p.leidos < tamanoLinea
  nulo : p.lector.buffer p.leidos = 0

theorem leidos_eq {p : Pasada} (corto : p.size.toNat < tamanoLinea) :
    p.leidos = p.size.toNat := by
  have uno : (1 : UInt32).toNat = 1 := rfl
  have tamano : tamanoLinea = 1536 := rfl
  have tope := p.len.toNat_lt
  rw [Pasada.size, UInt32.toNat_sub, uno] at corto ⊢
  rw [Pasada.leidos]
  omega

theorem Pasada.Lee.coloca {p : Pasada} {l : Line UInt8} (lee : p.Lee l)
    (corta : l.content.length < tamanoLinea) : p.Coloca := by
  have largo : (texto l).length ≤ l.content.length := by
    rw [texto]
    split_ifs
    · rw [List.length_dropLast]
      omega
    · exact le_rfl
  have leidos := leidos_eq (p := p) (by rw [lee.size]; omega)
  refine ⟨leidos.symm, by rw [leidos, lee.size]; omega, ?_⟩
  rw [leidos, lee.size]
  have celda := lee.buffer (texto l).length (by simp)
  rw [List.getElem?_append_right le_rfl, Nat.sub_self] at celda
  exact (Option.some.inj celda).symm

section Coloca

variable {p : Pasada} (coloca : p.Coloca) {fuel : Nat} (basta : tamanoLinea ≤ fuel)

include coloca basta

theorem Pasada.Coloca.fromAscii {k : Nat} (dentro : k ≤ p.leidos) (rowData : Nat → UInt8) :
    (fromAscii fuel (p.size - UInt32.ofNat k) (p.leidos - k) (fun i => p.lector.buffer (k + i))
      rowData).isSome := by
  have tamano : tamanoLinea = 1536 := rfl
  have bytes : maxBufferSize = 768 := rfl
  have corto := coloca.dentro
  have igual := coloca.size
  have exacto : (UInt32.ofNat k).toNat = k := by
    have tope : UInt32.size = 4294967296 := rfl
    exact UInt32.toNat_ofNat_of_lt' (by omega)
  have resta : (p.size - UInt32.ofNat k).toNat = p.leidos - k := by
    rw [UInt32.toNat_sub_of_le _ _ (UInt32.le_iff_toNat_le.mpr (by omega)), exacto, igual]
  exact fromAscii_isSome (by omega) (by omega) (by omega) rowData

theorem Pasada.Coloca.parseCyAcd2RowData (hexData : Nat → UInt8) (fila : Fila) :
    (parseCyAcd2RowData fuel p.size p.leidos p.lector.buffer hexData fila).isSome := by
  have tamano : tamanoLinea = 1536 := rfl
  have bytes : maxBufferSize = 768 := rfl
  have corto := coloca.dentro
  have igual := coloca.size
  exact parseCyAcd2RowData_isSome (by omega) (by omega) (by omega) hexData fila

theorem Pasada.Coloca.analizar (hexData : Nat → UInt8) (a : AppInfo) :
    (analizar fuel p hexData a).isSome := by
  obtain ⟨k, encontrado, hasta⟩ := separador_of_nulo coloca.nulo coloca.dentro
  rw [Cybtldr.analizar]
  split_ifs
  · rfl
  · obtain ⟨fila, igual⟩ := Option.isSome_iff_exists.mp
      (coloca.parseCyAcd2RowData basta hexData a.fila)
    rw [igual]
    rfl
  · rw [encontrado]
    simp only [Option.bind_eq_bind, Option.bind_some]
    split_ifs
    · obtain ⟨appStart, hstart⟩ := Option.isSome_iff_exists.mp
        (@sumaHex_isSome p.leidos p.lector.buffer 11 (k - 11) (by omega) 0)
      obtain ⟨appSize, hsize⟩ := Option.isSome_iff_exists.mp
        (@sumaHex_isSome p.leidos p.lector.buffer (k + 3) (p.size.toNat - (k + 3))
          (by rw [coloca.size]; omega) 0)
      rw [hstart, Option.bind_some, hsize]
      rfl
    · rfl
  · rfl
  · rfl

end Coloca

/-! ## Files -/

/-- The lines behind a call are lines of the file. -/
theorem mem_lines_readLine {s : Lector} {l : Line UInt8}
    (miembro : l ∈ lines saltoLinea (readLine s).lector.resto) :
    l ∈ lines saltoLinea s.resto := by
  have dePasada : ∀ l ∈ lines saltoLinea (pasada s).lector.resto, l ∈ lines saltoLinea s.resto := by
    intro l miembro
    by_cases queda : s.resto = []
    · obtain ⟨resto, buffer⟩ := s
      subst queda
      exact miembro
    · rw [pasada_of_ne_nil queda] at miembro
      rw [lines_of_ne_nil queda]
      exact List.mem_cons_of_mem _ miembro
  rw [readLine_eq] at miembro
  split_ifs at miembro with sigue
  · have menor := length_resto_pasada_lt (of_decide_eq_true sigue).1
    exact dePasada l (mem_lines_readLine miembro)
  · exact dePasada l miembro
termination_by s.resto.length

theorem mem_lines_trasLlamadas {n : Nat} {s : Lector} {l : Line UInt8}
    (miembro : l ∈ lines saltoLinea (trasLlamadas n s).resto) : l ∈ lines saltoLinea s.resto := by
  induction n generalizing s with
  | zero => exact miembro
  | succ n inductionHypothesis =>
      rw [trasLlamadas_succ] at miembro
      exact mem_lines_readLine (inductionHypothesis miembro)

/-- A call on lines that can be read returns one of them or ends the file. -/
theorem coloca_readLine {s : Lector} (cabe : Cabe s.resto)
    (legibles : ∀ l ∈ lines saltoLinea s.resto, Legible l)
    (leida : (readLine s).err = .success) : (readLine s).Coloca := by
  obtain ⟨l, miembro, lee⟩ := ((leeFichero_iff cabe).mpr legibles).exists_lee leida
  exact lee.coloca (cabe l miembro)

theorem recorrer_isSome {fuel vueltas : Nat} {s : Lector} (cabe : Cabe s.resto)
    (legibles : ∀ l ∈ lines saltoLinea s.resto, Legible l) (basta : tamanoLinea ≤ fuel)
    (quedan : s.resto.length < vueltas) (pila : Nat → Nat → UInt8) (a : AppInfo) :
    (recorrer fuel pila vueltas s a).isSome := by
  induction vueltas generalizing s a with
  | zero => omega
  | succ vueltas inductionHypothesis =>
      rw [recorrer]
      split_ifs with leida
      · have menor := length_resto_readLine_lt leida
        obtain ⟨⟨err, a'⟩, igual⟩ := Option.isSome_iff_exists.mp
          ((coloca_readLine cabe legibles leida).analizar basta (pila vueltas) a)
        rw [igual]
        simp only [Option.bind_eq_bind, Option.bind_some]
        split_ifs
        · exact inductionHypothesis (fun l miembro => cabe l (mem_lines_readLine miembro))
            (fun l miembro => legibles l (mem_lines_readLine miembro)) (by omega) a'
        · rfl
      · rfl

/-- Whatever line a call has returned, the loops over it end and read nothing but the
characters it has placed, and so does going through the rest of the file. -/
def Acotado (s : Lector) : Prop :=
  ∀ n,
    ((readLine (trasLlamadas n s)).err = .success → ∃ fuel,
      (∀ k rowData, k ≤ (readLine (trasLlamadas n s)).leidos →
        (fromAscii fuel ((readLine (trasLlamadas n s)).size - UInt32.ofNat k)
          ((readLine (trasLlamadas n s)).leidos - k)
          (fun i => (readLine (trasLlamadas n s)).lector.buffer (k + i)) rowData).isSome) ∧
      ∀ hexData fila,
        (parseCyAcd2RowData fuel (readLine (trasLlamadas n s)).size
          (readLine (trasLlamadas n s)).leidos (readLine (trasLlamadas n s)).lector.buffer
          hexData fila).isSome) ∧
    ∃ fuel, ∀ pila fila,
      (parseCyAcdAppStartAndSize fuel pila fila (trasLlamadas n s)).isSome

theorem acotado_of_legible {s : Lector} (cabe : Cabe s.resto)
    (legibles : ∀ l ∈ lines saltoLinea s.resto, Legible l) : Acotado s := by
  intro n
  have cabe' : Cabe (trasLlamadas n s).resto := fun l miembro =>
    cabe l (mem_lines_trasLlamadas miembro)
  have legibles' : ∀ l ∈ lines saltoLinea (trasLlamadas n s).resto, Legible l := fun l miembro =>
    legibles l (mem_lines_trasLlamadas miembro)
  refine ⟨fun leida => ?_, ?_⟩
  · have coloca := coloca_readLine cabe' legibles' leida
    exact ⟨tamanoLinea, fun k rowData dentro => coloca.fromAscii le_rfl dentro rowData,
      coloca.parseCyAcd2RowData le_rfl⟩
  · refine ⟨tamanoLinea + (trasLlamadas n s).resto.length + 1, fun pila fila => ?_⟩
    obtain ⟨⟨err, s', a⟩, igual⟩ := Option.isSome_iff_exists.mp
      (@recorrer_isSome (tamanoLinea + (trasLlamadas n s).resto.length + 1)
        (tamanoLinea + (trasLlamadas n s).resto.length + 1) _ cabe' legibles' (by omega) (by omega)
        pila ⟨0xFFFFFFFF, 0, 0, false, { fila with address := 0 }⟩)
    rw [parseCyAcdAppStartAndSize, igual]
    rfl

/-- For every file whose lines fit in the buffer, whatever that holds: the lines are
returned as they are, and the loops over them are bounded by their text, exactly
when each line is one that can be read. -/
theorem leeFichero_acotado_iff {fichero : List UInt8} (cabe : Cabe fichero)
    (buffer : Nat → UInt8) :
    LeeFichero ⟨fichero, buffer⟩ ∧ Acotado ⟨fichero, buffer⟩ ↔
      ∀ l ∈ lines saltoLinea fichero, Legible l := by
  rw [leeFichero_iff (s := ⟨fichero, buffer⟩) cabe]
  exact and_iff_left_of_imp fun legibles => acotado_of_legible cabe legibles

/-- A comment with a line feed and a row with a carriage return. -/
theorem leeFichero_acotado_fila :
    LeeFichero ⟨[0x23, 0x78, 0x0A, 0x3A, 0x30, 0x31, 0x0D, 0x0A], fun _ => 0⟩ ∧
      Acotado ⟨[0x23, 0x78, 0x0A, 0x3A, 0x30, 0x31, 0x0D, 0x0A], fun _ => 0⟩ :=
  (leeFichero_acotado_iff (by decide) fun _ => 0).mpr (by decide)

/-- A row with a line feed alone, and an empty line: the first call loses a
character, and the row parsed after the second never ends. -/
theorem not_leeFichero_saltos :
    let s : Lector := ⟨[0x3A, 0x30, 0x31, 0x30, 0x32, 0x30, 0x33, 0x0A, 0x0A], fun _ => 0⟩
    (readLine s).size = 6 ∧
      (readLine (trasLlamadas 1 s)).err = .success ∧
      (readLine (trasLlamadas 1 s)).size = 0xFFFFFFFF ∧
      (∀ fuel leidos hexData fila, parseCyAcd2RowData fuel (readLine (trasLlamadas 1 s)).size
        leidos (readLine (trasLlamadas 1 s)).lector.buffer hexData fila = none) ∧
      Cabe s.resto ∧ ¬(LeeFichero s ∧ Acotado s) := by
  intro s
  have tamano : (readLine (trasLlamadas 1 s)).size = 0xFFFFFFFF := by decide
  have primero : (readLine (trasLlamadas 1 s)).lector.buffer 0 = dosPuntos := by decide
  have corta : (readLine s).size.toNat ≠ 7 := by decide
  refine ⟨by decide, by decide, tamano, fun fuel leidos hexData fila => ?_, by decide, ?_⟩
  · rw [tamano]
    exact parseCyAcd2RowData_eq_none primero fuel leidos hexData fila
  · rintro ⟨lee, _⟩
    exact corta (lee 0).size

end VeltiumCharger.Cybtldr
