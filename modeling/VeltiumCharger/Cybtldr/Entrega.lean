import VeltiumCharger.Cybtldr.Filas

/-!
# The image that is delivered

What a firmware file says is a list of commands: one to enter the bootloader, one with
the metadata, those of its lines, and one to verify the whole.  Whatever the line does, the
commands sent are a beginning of that list, and all of them when `CyBtldr_RunAction` returns
no error.
-/

namespace VeltiumCharger.Cybtldr

open VeltiumCharger.Buffer VeltiumCharger.Lines VeltiumCharger.Checked

/-! ## The lines, one after the other -/

section Lineas

variable {σ : Type} {enlace : Enlace σ} {action : Action} {checksum : UInt8} {fuel : Nat}

/-- A call on lines that are read as they should be returns the first of them that is no
comment, and what follows it. -/
theorem LeeFichero.readLine {s : Lector} (lee : LeeFichero s) :
    match esperadas s.resto with
    | [] => (readLine s).err = .errEof
    | l :: detras => (readLine s).Lee l ∧ l ∈ lines saltoLinea s.resto ∧
        esperadas (readLine s).lector.resto = detras := by
  have primera := lee 0
  change (Cybtldr.readLine s).Responde (esperadas s.resto)[0]? at primera
  cases quedan : esperadas s.resto with
  | nil =>
      rw [quedan] at primera
      exact primera
  | cons l detras =>
      rw [quedan] at primera
      have leida : (Cybtldr.readLine s).Lee l := primera
      obtain ⟨antes, despues, partes, -, -, rfl⟩ := List.filter_eq_cons_iff.mp quedan
      refine ⟨leida, ?_, ?_⟩
      · rw [partes]
        exact List.mem_append_right antes List.mem_cons_self
      · rw [leida.resto, esperadas, lines_rest partes]

/-- The texts that the file has, comments apart. -/
def textos (fichero : List UInt8) : List (List UInt8) :=
  (esperadas fichero).map texto

/-- How many of the lines are rows. -/
def filasEn (lineas : List (List UInt8)) : Nat :=
  lineas.countP fun linea => linea.head? = some dosPuntos

/-- One line more, a row or not. -/
theorem filasEn_cons {p : Pasada} {l : Line UInt8} (lee : p.Lee l) (lineas : List (List UInt8))
    (cuenta : UInt32) :
    (if p.lector.buffer 0 = dosPuntos then cuenta + 1 else cuenta) +
      UInt32.ofNat (filasEn lineas) = cuenta + UInt32.ofNat (filasEn (texto l :: lineas)) := by
  have esFila := lee.buffer_zero_iff (c := dosPuntos) (by decide)
  rw [filasEn, filasEn, List.countP_cons]
  by_cases datos : (texto l).head? = some dosPuntos
  · rw [if_pos (esFila.mpr datos), if_pos (decide_eq_true datos), UInt32.ofNat_add,
      UInt32.add_assoc, UInt32.add_comm 1]
    rfl
  · rw [if_neg fun primero => datos (esFila.mp primero), if_neg (by simpa using datos),
      Nat.add_zero]

/-- The loop sends the commands of the lines that are left. -/
theorem processLines_cumple {aborta : Nat → Bool} {pila : Nat → Nat → UInt8} {fila : Nat → Fila}
    {vueltas : Nat} {lector : Lector} (cabe : Cabe lector.resto)
    (legibles : ∀ l ∈ lines saltoLinea lector.resto, Legible l) {vistas vistas' : UInt32}
    {s s' : Sesion σ} {err : Nat}
    (acaba : processLines enlace action checksum fuel aborta pila fila vueltas lector vistas s =
      some (err, vistas', s')) :
    Cumple checksum ((textos lector.resto).flatMap (ordenesLinea action)) err s s' ∧
      (err = 0 → (∀ linea ∈ textos lector.resto, Admitida linea) ∧
        vistas' = vistas + UInt32.ofNat (filasEn (textos lector.resto))) := by
  induction vueltas generalizing lector vistas s with
  | zero => simp [processLines] at acaba
  | succ vueltas inductionHypothesis =>
      have primera := ((leeFichero_iff cabe).mpr legibles).readLine
      rw [processLines] at acaba
      cases quedan : esperadas lector.resto with
      | nil =>
          rw [quedan] at primera
          have vacia : textos lector.resto = [] := by rw [textos, quedan, List.map_nil]
          rw [vacia]
          split_ifs at acaba with abortada
          · obtain ⟨rfl, -, rfl⟩ := acaba
            exact ⟨.idle, fun cero => absurd cero (by decide)⟩
          · have otro : Cyret.errEof ≠ .success := by decide
            dsimp only at acaba
            rw [primera, if_neg otro, if_pos rfl] at acaba
            obtain ⟨rfl, rfl, rfl⟩ := acaba
            exact ⟨.idle, fun _ => ⟨fun linea dentro => absurd dentro (by simp),
              (UInt32.add_zero _).symm⟩⟩
      | cons l detras =>
          rw [quedan] at primera
          obtain ⟨lee, miembro, siguen⟩ := primera
          have hacia : textos lector.resto = texto l :: textos (readLine lector).lector.resto := by
            rw [textos, textos, quedan, siguen, List.map_cons]
          rw [hacia]
          split_ifs at acaba with abortada
          · obtain ⟨rfl, -, rfl⟩ := acaba
            exact ⟨.failed (by decide), fun cero => absurd cero (by decide)⟩
          · dsimp only at acaba
            rw [if_pos lee.err] at acaba
            obtain ⟨⟨err', s''⟩, linea, acaba⟩ := Option.bind_eq_some_iff.mp acaba
            obtain ⟨manda, admitida⟩ := lee.processLine (cabe l miembro) linea
            dsimp only at acaba
            by_cases exito : err' = 0
            · rw [if_pos exito] at acaba
              obtain ⟨mandan, admitidas⟩ := inductionHypothesis
                (fun l dentro => cabe l (mem_lines_readLine dentro))
                (fun l dentro => legibles l (mem_lines_readLine dentro)) acaba
              refine ⟨manda.append (fun _ => mandan) fun falla => absurd exito falla,
                fun cero => ?_⟩
              obtain ⟨todas, cuenta⟩ := admitidas cero
              refine ⟨List.forall_mem_cons.mpr ⟨admitida exito, todas⟩, ?_⟩
              rw [cuenta, ← filasEn_cons lee]
              simp only [exito, and_true]
            · rw [if_neg exito] at acaba
              obtain ⟨rfl, -, rfl⟩ := acaba
              exact ⟨manda.append (fun cero => absurd cero exito) fun _ => ⟨rfl, exito⟩,
                fun cero => absurd cero exito⟩

end Lineas

/-! ## The first pass -/

theorem parseCyAcd2RowData_err {fuel : Nat} {bufSize : UInt32} {leidos : Nat}
    {buffer hexData : Nat → UInt8} {fila fila' : Fila}
    (acaba : parseCyAcd2RowData fuel bufSize leidos buffer hexData fila = some fila') :
    fila'.err ≠ .errEof := by
  rw [parseCyAcd2RowData] at acaba
  split_ifs at acaba
  · rw [← Option.some.inj acaba]
    exact Cyret.noConfusion
  · obtain ⟨leida, ascii, acaba⟩ := Option.bind_eq_some_iff.mp acaba
    rw [fromAscii] at ascii
    split_ifs at ascii
    · rw [← Option.some.inj ascii] at acaba
      rw [← Option.some.inj acaba]
      exact Cyret.noConfusion
    · obtain ⟨leido, -, rfl⟩ := Option.map_eq_some_iff.mp ascii
      dsimp only at acaba
      split_ifs at acaba
      · obtain ⟨-, acaba⟩ := loadMany_bind_eq_some_iff.mp acaba
        obtain ⟨-, acaba⟩ := store_bind_eq_some_iff.mp acaba
        rw [← Option.some.inj acaba]
        exact Cyret.noConfusion
      · rw [← Option.some.inj acaba]
        exact Cyret.noConfusion
  · rw [← Option.some.inj acaba]
    exact Cyret.noConfusion

/-- A line counts when it is a row. -/
theorem analizar_cuenta {fuel : Nat} {p : Pasada} {hexData : Nat → UInt8} {a a' : AppInfo}
    {err : Cyret} (acaba : analizar fuel p hexData a = some (err, a')) :
    err ≠ .errEof ∧ (err = .success → a'.dataLines =
      if p.lector.buffer 0 = dosPuntos then a.dataLines + 1 else a.dataLines) := by
  rw [analizar] at acaba
  dsimp only at acaba
  split_ifs at acaba with datos conInfo info vector
  · obtain ⟨rfl, rfl⟩ := acaba
    exact ⟨Cyret.noConfusion, fun _ => (if_pos datos).symm⟩
  · obtain ⟨fila, leida, acaba⟩ := Option.bind_eq_some_iff.mp acaba
    obtain ⟨rfl, rfl⟩ := acaba
    exact ⟨parseCyAcd2RowData_err leida, fun _ => (if_pos datos).symm⟩
  · obtain ⟨seperatorIndex, -, acaba⟩ := Option.bind_eq_some_iff.mp acaba
    split_ifs at acaba
    · obtain ⟨appStart, -, acaba⟩ := Option.bind_eq_some_iff.mp acaba
      obtain ⟨appSize, -, acaba⟩ := Option.bind_eq_some_iff.mp acaba
      obtain ⟨rfl, rfl⟩ := acaba
      exact ⟨Cyret.noConfusion, fun _ => (if_neg datos).symm⟩
    · obtain ⟨rfl, rfl⟩ := acaba
      exact ⟨Cyret.noConfusion, fun _ => (if_neg datos).symm⟩
  · obtain ⟨rfl, rfl⟩ := acaba
    exact ⟨Cyret.noConfusion, fun _ => (if_neg datos).symm⟩
  · obtain ⟨rfl, rfl⟩ := acaba
    exact ⟨Cyret.noConfusion, fun _ => (if_neg datos).symm⟩

/-- A hexadecimal digit more. -/
def conDigito (suma : UInt32) (c : UInt8) : UInt32 :=
  (suma <<< 4) + (fromHex c).toUInt32

/-- The value of hexadecimal digits. -/
def valorHex (digitos : List UInt8) : UInt32 :=
  digitos.foldl conDigito 0

/-- The start and the size of the application that an `@APPINFO` line gives. -/
def appInfoDe (texto : List UInt8) : Option (UInt32 × UInt32) :=
  if appinfoMetaHeader <+: texto then
    let seperatorIndex := texto.findIdx fun c => c = 0x2C ∨ c = 0
    some (valorHex ((texto.take seperatorIndex).drop 11),
      valorHex (texto.drop (seperatorIndex + 3)))
  else none

/-- What the lines say of the application: the lowest address and the bytes of its rows,
until a line says it. -/
structure Metadatos where
  appStart : UInt32
  appSize : UInt32
  appInfoFound : Bool

/-- A line more. -/
def Metadatos.conLinea (m : Metadatos) (texto : List UInt8) : Metadatos :=
  match filaDe texto, appInfoDe texto with
  | some (address, buf), _ =>
      if m.appInfoFound then m
      else ⟨if address < m.appStart then address else m.appStart,
        m.appSize + UInt32.ofNat buf.length, false⟩
  | none, some (appStart, appSize) => ⟨appStart, appSize, true⟩
  | none, none => m

/-- What all lines say. -/
def metadatos (lineas : List (List UInt8)) : Metadatos :=
  lineas.foldl Metadatos.conLinea ⟨0xFFFFFFFF, 0, false⟩

def AppInfo.metadatos (a : AppInfo) : Metadatos :=
  ⟨a.appStart, a.appSize, a.appInfoFound⟩

/-- What follows in a buffer that begins with a text, which may be over before. -/
theorem begins_drop {mem : Nat → UInt8} {text : List UInt8} (begins : Begins mem text) (n : Nat) :
    Begins (fun k => mem (n + k)) (text.drop n) := by
  by_cases dentro : n ≤ text.length
  · exact begins.drop dentro
  · rw [List.drop_eq_nil_of_le (by omega)]
    exact begins_nil

/-- The loop over digits adds them up. -/
theorem sumaHex_eq {leidos i : Nat} {buffer : Nat → UInt8} {digitos : List UInt8}
    (begins : Begins (fun k => buffer (i + k)) digitos) {suma total : UInt32}
    (acaba : sumaHex leidos buffer i digitos.length suma = some total) :
    total = digitos.foldl conDigito suma := by
  induction digitos generalizing i suma with
  | nil => exact (Option.some.inj acaba).symm
  | cons c digitos inductionHypothesis =>
      obtain ⟨-, acaba⟩ := load_bind_eq_some_iff.mp acaba
      have primero : c = buffer i := Option.some.inj (begins 0 (Nat.zero_lt_succ _))
      have detras : Begins (fun k => buffer (i + 1 + k)) digitos := by
        intro k dentro
        have celda := begins (k + 1) (Nat.succ_lt_succ dentro)
        rw [List.getElem?_cons_succ] at celda
        rw [celda]
        dsimp only
        rw [Nat.add_assoc, Nat.add_comm 1 k]
      rw [List.foldl_cons, primero]
      exact inductionHypothesis detras acaba

/-- An `@APPINFO` line is no row. -/
theorem filaDe_of_appInfo {texto : List UInt8} (info : appinfoMetaHeader <+: texto) :
    filaDe texto = none := by
  obtain ⟨digitos, rfl⟩ := info
  have cabeza : (appinfoMetaHeader ++ digitos).head? = some arroba := rfl
  exact filaDe_eq_none (by rw [cabeza]; decide)

theorem appInfoDe_of_fila {texto : List UInt8} (datos : texto.head? = some dosPuntos) :
    appInfoDe texto = none := by
  refine if_neg fun info => ?_
  obtain ⟨digitos, rfl⟩ := info
  have cabeza : (appinfoMetaHeader ++ digitos).head? = some arroba := rfl
  rw [cabeza] at datos
  exact absurd datos (by decide)

/-- Where the separator is, when there is one. -/
theorem Pasada.Lee.separador {p : Pasada} {l : Line UInt8} (lee : p.Lee l) {k : Nat}
    (encontrado : separador p.lector.buffer = some k) (coma : p.lector.buffer k = 0x2C) :
    k < (texto l).length ∧ (texto l).findIdx (fun c => c = 0x2C ∨ c = 0) = k := by
  obtain ⟨-, -, antes⟩ := List.find?_range_eq_some.mp encontrado
  have nulo : p.lector.buffer (texto l).length = 0 := by
    have celda := lee.buffer (texto l).length (by simp)
    rw [List.getElem?_append_right le_rfl, Nat.sub_self] at celda
    exact (Option.some.inj celda).symm
  have dentro : k < (texto l).length := by
    by_contra detras
    rcases Nat.lt_or_ge (texto l).length k with despues | hasta
    · have fin := antes _ despues
      simp [nulo] at fin
    · have igual : k = (texto l).length := by omega
      rw [igual, nulo] at coma
      exact absurd coma (by decide)
  have letra : ∀ j (menor : j < (texto l).length), (texto l)[j] = p.lector.buffer j :=
    fun j menor => Option.some.inj ((List.getElem?_eq_getElem menor).symm.trans
      (lee.begins j menor))
  refine ⟨dentro, (List.findIdx_eq dentro).mpr ⟨?_, fun j menor => ?_⟩⟩
  · rw [letra k dentro, coma]
    rfl
  · rw [letra j (by omega)]
    simpa using antes j menor

/-- What a line says of the application. -/
theorem Pasada.Lee.analizar_metadatos {p : Pasada} {l : Line UInt8} (lee : p.Lee l)
    (corta : l.content.length < tamanoLinea) {fuel : Nat} {hexData : Nat → UInt8}
    {a a' : AppInfo} (acaba : analizar fuel p hexData a = some (.success, a')) :
    a'.metadatos = a.metadatos.conLinea (texto l) := by
  have esFila := lee.buffer_zero_iff (c := dosPuntos) (by decide)
  have esInfo : 11 ≤ p.size ∧ empieza p.lector.buffer appinfoMetaHeader ↔
      appinfoMetaHeader <+: texto l := by
    rw [UInt32.le_iff_toNat_le]
    exact lee.empieza_iff appinfoMetaHeader
  rw [analizar] at acaba
  dsimp only at acaba
  split_ifs at acaba with datos conInfo info vector
  · obtain ⟨-, rfl⟩ := acaba
    rw [Metadatos.conLinea, appInfoDe_of_fila (esFila.mp datos)]
    cases filaDe (texto l) with
    | none => rfl
    | some leido => exact (if_pos conInfo).symm
  · obtain ⟨fila, leida, acaba⟩ := Option.bind_eq_some_iff.mp acaba
    obtain ⟨exito, rfl⟩ := Prod.mk.inj (Option.some.inj acaba)
    have dice := lee.parseCyAcd2RowData corta leida (esFila.mp datos)
    rw [Metadatos.conLinea]
    cases hfila : filaDe (texto l) with
    | none =>
        rw [hfila] at dice
        exact absurd exito dice
    | some leido =>
        rw [hfila] at dice
        obtain ⟨-, address, buf⟩ := dice
        have largo := congrArg List.length buf
        rw [List.length_map, List.length_range] at largo
        show Metadatos.mk _ _ _ = if a.appInfoFound then _ else Metadatos.mk _ _ _
        rw [if_neg conInfo, address, ← largo, UInt32.ofNat_uInt16ToNat, Bool.of_not_eq_true conInfo]
        rfl
  · obtain ⟨seperatorIndex, encontrado, acaba⟩ := Option.bind_eq_some_iff.mp acaba
    split_ifs at acaba with coma
    · obtain ⟨appStart, principio, acaba⟩ := Option.bind_eq_some_iff.mp acaba
      obtain ⟨appSize, tamano, acaba⟩ := Option.bind_eq_some_iff.mp acaba
      obtain ⟨-, rfl⟩ := Prod.mk.inj (Option.some.inj acaba)
      have cabecera := esInfo.mp info
      have separa : p.lector.buffer seperatorIndex = 0x2C := by
        have bytes := of_decide_eq_true coma
        exact List.head_eq_of_cons_eq bytes
      obtain ⟨dentro, indice⟩ := lee.separador encontrado separa
      have hasta : Begins p.lector.buffer ((texto l).take seperatorIndex) := by
        have begins := lee.begins
        rw [← List.take_append_drop seperatorIndex (texto l)] at begins
        exact begins.left
      have cuantos : ((texto l).take seperatorIndex).length = seperatorIndex := by
        rw [List.length_take]
        omega
      rw [← cuantos, ← List.length_drop] at principio
      rw [lee.size, ← List.length_drop] at tamano
      have start : appStart = valorHex (((texto l).take seperatorIndex).drop 11) :=
        sumaHex_eq (begins_drop hasta 11) principio
      have size : appSize = valorHex ((texto l).drop (seperatorIndex + 3)) :=
        sumaHex_eq (begins_drop lee.begins (seperatorIndex + 3)) tamano
      have dice : appInfoDe (texto l) = some (appStart, appSize) := by
        rw [start, size, appInfoDe, if_pos cabecera, indice]
      rw [Metadatos.conLinea, filaDe_of_appInfo cabecera, dice]
      rfl
    · cases acaba
  · obtain ⟨-, rfl⟩ := Prod.mk.inj (Option.some.inj acaba)
    have sinInfo : appInfoDe (texto l) = none := if_neg fun cabecera => info (esInfo.mpr cabecera)
    rw [Metadatos.conLinea, filaDe_eq_none fun otra => datos (esFila.mpr otra), sinInfo]
  · cases acaba

theorem recorrer_cuenta {fuel : Nat} {pila : Nat → Nat → UInt8} {vueltas : Nat} {s s' : Lector}
    (cabe : Cabe s.resto) (legibles : ∀ l ∈ lines saltoLinea s.resto, Legible l) {a a' : AppInfo}
    {err : Cyret} (acaba : recorrer fuel pila vueltas s a = some (err, s', a')) :
    err ≠ .success ∧
      (err = .errEof → a'.dataLines = a.dataLines + UInt32.ofNat (filasEn (textos s.resto)) ∧
        a'.metadatos = (textos s.resto).foldl Metadatos.conLinea a.metadatos) := by
  induction vueltas generalizing s a with
  | zero => simp [recorrer] at acaba
  | succ vueltas inductionHypothesis =>
      have primera := ((leeFichero_iff cabe).mpr legibles).readLine
      rw [recorrer] at acaba
      dsimp only at acaba
      cases quedan : esperadas s.resto with
      | nil =>
          rw [quedan] at primera
          have vacia : textos s.resto = [] := by rw [textos, quedan, List.map_nil]
          have otro : Cyret.errEof ≠ .success := by decide
          rw [primera, if_neg otro] at acaba
          obtain ⟨rfl, -, rfl⟩ := acaba
          rw [vacia]
          exact ⟨otro, fun _ => ⟨(UInt32.add_zero _).symm, rfl⟩⟩
      | cons l detras =>
          rw [quedan] at primera
          obtain ⟨lee, miembro, siguen⟩ := primera
          have hacia : textos s.resto = texto l :: textos (readLine s).lector.resto := by
            rw [textos, textos, quedan, siguen, List.map_cons]
          rw [if_pos lee.err] at acaba
          obtain ⟨⟨err', a''⟩, linea, acaba⟩ := Option.bind_eq_some_iff.mp acaba
          obtain ⟨noFin, cuenta⟩ := analizar_cuenta linea
          dsimp only at acaba
          by_cases exito : err' = .success
          · rw [if_pos exito] at acaba
            obtain ⟨noExito, todas⟩ := inductionHypothesis
              (fun l dentro => cabe l (mem_lines_readLine dentro))
              (fun l dentro => legibles l (mem_lines_readLine dentro)) acaba
            refine ⟨noExito, fun fin => ?_⟩
            obtain ⟨filas, dicen⟩ := todas fin
            subst exito
            rw [filas, dicen, cuenta rfl, lee.analizar_metadatos (cabe l miembro) linea, hacia,
              filasEn_cons lee]
            exact ⟨rfl, rfl⟩
          · rw [if_neg exito] at acaba
            obtain ⟨rfl, -, rfl⟩ := acaba
            exact ⟨exito, fun fin => absurd fin noFin⟩

/-- The pass counts the rows, takes what the lines say of the application and leaves the
file where it was. -/
theorem parseCyAcdAppStartAndSize_cuenta {fuel : Nat} {pila : Nat → Nat → UInt8} {fila : Fila}
    {s s' : Lector} (cabe : Cabe s.resto) (legibles : ∀ l ∈ lines saltoLinea s.resto, Legible l)
    {a : AppInfo}
    (acaba : parseCyAcdAppStartAndSize fuel pila fila s = some (.success, s', a)) :
    s'.resto = s.resto ∧ a.dataLines = UInt32.ofNat (filasEn (textos s.resto)) ∧
      a.metadatos = metadatos (textos s.resto) := by
  obtain ⟨⟨err, s'', a'⟩, pasada, acaba⟩ := Option.bind_eq_some_iff.mp acaba
  obtain ⟨noExito, cuenta⟩ := recorrer_cuenta cabe legibles pasada
  dsimp only at acaba
  rw [Option.some.injEq, Prod.mk.injEq, Prod.mk.injEq] at acaba
  obtain ⟨exito, rfl, rfl⟩ := acaba
  rw [exito, if_pos rfl]
  refine ⟨rfl, ?_⟩
  split_ifs at exito with fin
  · obtain ⟨filas, dicen⟩ := cuenta fin
    rw [filas, UInt32.zero_add]
    exact ⟨rfl, dicen⟩
  · exact absurd exito noExito

/-! ## The run -/

/-- What the bytes of the first line say. -/
def Cabecera.de (bytes : List UInt8) : Cabecera :=
  ⟨valor32 (bytes.drop 1), bytes.getD 5 0, bytes.getD 6 0, bytes.getD 7 0, valor32 (bytes.drop 8)⟩

/-- The commands for a file: to enter, the metadata, those of its lines, and to verify
the application. -/
def guion (action : Action) (cabecera : Cabecera) (m : Metadatos) (lineas : List (List UInt8)) :
    List Orden :=
  [.enterBootLoader cabecera.productID,
    .setApplicationMetadata cabecera.appID (fillData32 m.appStart ++ fillData32 m.appSize)] ++
  (lineas.flatMap (ordenesLinea action) ++
    if action = .erase then [] else [.verifyChecksum cabecera.appID])

/-- The rows that a list of commands programs, with their checksums: the data sent before
go in front. -/
def cargadas : List UInt8 → List Orden → List (UInt32 × UInt32 × List UInt8)
  | _, [] => []
  | antes, .sendData buf :: ordenes => cargadas (antes ++ buf) ordenes
  | antes, .programData address chksum buf :: ordenes =>
      (address, chksum, antes ++ buf) :: cargadas [] ordenes
  | antes, _ :: ordenes => cargadas antes ordenes

theorem cargadas_piezas (antes : List UInt8) (piezas : List (List UInt8)) (address chksum : UInt32)
    (buf : List UInt8) (ordenes : List Orden) :
    cargadas antes (piezas.map .sendData ++ [.programData address chksum buf] ++ ordenes) =
      (address, chksum, antes ++ piezas.flatten ++ buf) :: cargadas [] ordenes := by
  induction piezas generalizing antes with
  | nil => simp [cargadas]
  | cons pieza piezas inductionHypothesis =>
      rw [List.map_cons, List.cons_append, List.cons_append, cargadas, inductionHypothesis,
        List.flatten_cons, List.append_assoc antes]

/-- The pieces and the rest are the row. -/
theorem flatten_piezas (buf : List UInt8) (k : Nat) :
    ((List.range k).map (pieza buf)).flatten ++ buf.drop (121 * k) = buf := by
  induction k with
  | zero => rfl
  | succ k inductionHypothesis =>
      have resto : pieza buf k ++ buf.drop (121 * (k + 1)) = buf.drop (121 * k) := by
        rw [pieza, Nat.mul_succ, ← List.drop_drop, List.take_append_drop]
      rw [List.range_succ, List.map_append, List.flatten_append, List.map_singleton,
        List.flatten_singleton, List.append_assoc, resto, inductionHypothesis]

/-- What a row is sent as programs the row. -/
theorem cargadas_ordenesFila (address : UInt32) (buf : List UInt8) (ordenes : List Orden) :
    cargadas [] (ordenesFila .programData address buf ++ ordenes) =
      (address, checksum32 buf, buf) :: cargadas [] ordenes := by
  have piezas := cargadas_piezas [] ((List.range (cuantos buf.length)).map (pieza buf)) address
    (checksum32 buf) (buf.drop (121 * cuantos buf.length)) ordenes
  rw [List.map_map, List.nil_append, flatten_piezas] at piezas
  exact piezas

theorem cargadas_lineas (lineas : List (List UInt8)) (ordenes : List Orden) :
    cargadas [] (lineas.flatMap (ordenesLinea .program) ++ ordenes) =
      (lineas.filterMap filaDe).map (fun fila => (fila.1, checksum32 fila.2, fila.2)) ++
        cargadas [] ordenes := by
  induction lineas with
  | nil => rfl
  | cons linea lineas inductionHypothesis =>
      rw [List.flatMap_cons, List.append_assoc, ordenesLinea]
      cases hfila : filaDe linea with
      | some fila =>
          rw [List.filterMap_cons_some hfila, List.map_cons, List.cons_append,
            ← inductionHypothesis]
          exact cargadas_ordenesFila fila.1 fila.2 _
      | none =>
          rw [List.filterMap_cons_none hfila, ← inductionHypothesis]
          dsimp only
          split_ifs <;> rfl

section RunAction

variable {σ : Type} {enlace : Enlace σ} {action : Action} {fuel : Nat} {aborta : Nat → Bool}
  {pila : Nat → Nat → UInt8} {fila : Nat → Fila}

theorem enviadas_startBootloadOperation {checksum : UInt8} {expSiId : UInt32} {expSiRev : UInt8}
    {productID : UInt32} {pila : Nat → UInt8} {s : Sesion σ} {hecho : Hecho σ}
    (acaba : startBootloadOperation enlace checksum expSiId expSiRev productID pila s =
      some hecho) :
    hecho.sesion.enviadas = s.enviadas ++ [(Orden.enterBootLoader productID).trama checksum] := by
  rw [← enviadas_transfiere enlace checksum (.enterBootLoader productID) pila pila s]
  rw [startBootloadOperation] at acaba
  dsimp only at acaba
  split at acaba
  · split at acaba <;> rw [← Option.some.inj acaba]
  · obtain ⟨⟨valido, status⟩, -, acaba⟩ := Option.bind_eq_some_iff.mp acaba
    dsimp only at acaba
    split at acaba <;> rw [← Option.some.inj acaba]

/-- The bootloader has been left, or else the line has failed. -/
def Cierra (checksum : UInt8) (s : Sesion σ) (fin : Fin σ) : Prop :=
  fin.sesion.enviadas = s.enviadas ++ [Orden.exitBootLoader.trama checksum] ∨
    fin.sesion = s ∧ errCommMask &&& fin.err = errCommMask

theorem sesion_verifyApplication {checksum appId : UInt8} {pila : Nat → UInt8} {s : Sesion σ} :
    (verifyApplication enlace checksum appId pila s).sesion =
      (ordena enlace checksum (.verifyChecksum appId) pila pila s).sesion := by
  rw [verifyApplication]
  split_ifs <;> rfl

/-- After the commands of the lines the application is verified, unless there was an
error. -/
theorem terminaCarga_cumple {cabecera : Cabecera} {dataLines vistas : UInt32} {err : Nat}
    {ordenes : List Orden} {s s' : Sesion σ} (mandan : Cumple cabecera.chksum ordenes err s s')
    {fin : Fin σ}
    (acaba : terminaCarga enlace action fuel pila cabecera dataLines err vistas s' = fin) :
    ∃ s'', Cumple cabecera.chksum
        (ordenes ++ if action = .erase then [] else [.verifyChecksum cabecera.appID]) fin.err s
        s'' ∧
      Cierra cabecera.chksum s'' fin ∧ fin.dataLines = dataLines ∧ fin.vistas = vistas ∧
      (fin.err = 0 → err = 0) := by
  have sinVerificar : ¬(err = 0 ∧ (action = .program ∨ action = .verify)) →
      Cumple cabecera.chksum
        (ordenes ++ if action = .erase then [] else [.verifyChecksum cabecera.appID]) err s s' := by
    intro noVerifica
    refine mandan.append (fun cero => ?_) fun falla => ⟨rfl, falla⟩
    have borra : action = .erase := by
      cases action with
      | program => exact absurd ⟨cero, Or.inl rfl⟩ noVerifica
      | erase => rfl
      | verify => exact absurd ⟨cero, Or.inr rfl⟩ noVerifica
    rw [if_pos borra]
    exact .idle
  rw [terminaCarga] at acaba
  dsimp only at acaba
  split_ifs at acaba with verifica sale <;> rw [← acaba]
  · have noBorra : action ≠ .erase := by
      rintro rfl
      exact absurd verifica.2 (by decide)
    refine ⟨_, ?_, Or.inl (enviadas_endBootloadOperation ..), rfl, rfl, fun _ => verifica.1⟩
    rw [if_neg noBorra, sesion_verifyApplication]
    exact mandan.append (fun _ => cumple_ordena ..) fun falla => absurd verifica.1 falla
  · exact ⟨s', sinVerificar verifica, Or.inl (enviadas_endBootloadOperation ..), rfl, rfl, id⟩
  · exact ⟨s', sinVerificar verifica, Or.inr ⟨rfl, not_not.mp sale⟩, rfl, rfl, id⟩

/-- From the command to enter the bootloader on: the commands of the file have been sent,
all of them when there is no error. -/
theorem runBootloader_cumple {cabecera : Cabecera} {a : AppInfo} {lector : Lector}
    (cabe : Cabe lector.resto) (legibles : ∀ l ∈ lines saltoLinea lector.resto, Legible l)
    {s : Sesion σ} {fin : Fin σ}
    (acaba : runBootloader enlace action fuel aborta pila fila cabecera a lector s = some fin) :
    ∃ s', Cumple cabecera.chksum (guion action cabecera a.metadatos (textos lector.resto))
        fin.err s s' ∧
      Cierra cabecera.chksum s' fin ∧ fin.dataLines = a.dataLines ∧
      (fin.err = 0 → (∀ linea ∈ textos lector.resto, Admitida linea) ∧
        fin.vistas = UInt32.ofNat (filasEn (textos lector.resto))) := by
  obtain ⟨entra, empieza, acaba⟩ := Option.bind_eq_some_iff.mp acaba
  obtain ⟨⟨err, vistas, s'⟩, lineas, termina⟩ := Option.bind_eq_some_iff.mp acaba
  set metadatos := if entra.err = 0 then
      setApplicationMetaData enlace cabecera.chksum cabecera.appID a.appStart a.appSize (pila fuel)
        entra.sesion
    else entra with hmetadatos
  have dos : Cumple cabecera.chksum [.enterBootLoader cabecera.productID,
      .setApplicationMetadata cabecera.appID (fillData32 a.appStart ++ fillData32 a.appSize)]
      metadatos.err s metadatos.sesion := by
    have uno : Cumple cabecera.chksum [.enterBootLoader cabecera.productID] entra.err s
        entra.sesion := .all (enviadas_startBootloadOperation empieza)
    refine uno.append (fun cero => ?_) fun falla => ?_
    · rw [hmetadatos, if_pos cero]
      exact cumple_ordena ..
    · rw [hmetadatos, if_neg falla]
      exact ⟨rfl, falla⟩
  have tres : Cumple cabecera.chksum ([.enterBootLoader cabecera.productID,
      .setApplicationMetadata cabecera.appID (fillData32 a.appStart ++ fillData32 a.appSize)] ++
        (textos lector.resto).flatMap (ordenesLinea action)) err s s' ∧
      (err = 0 → (∀ linea ∈ textos lector.resto, Admitida linea) ∧
        vistas = UInt32.ofNat (filasEn (textos lector.resto))) := by
    rw [recorreLineas] at lineas
    split_ifs at lineas with cero
    · obtain ⟨mandan, admitidas⟩ := processLines_cumple cabe legibles lineas
      rw [UInt32.zero_add] at admitidas
      exact ⟨dos.append (fun _ => mandan) fun falla => absurd cero falla, admitidas⟩
    · obtain ⟨rfl, rfl, rfl⟩ := lineas
      exact ⟨dos.append (fun exito => absurd exito cero) fun falla => ⟨rfl, falla⟩,
        fun exito => absurd exito cero⟩
  obtain ⟨s'', todas, cierra, dataLines, hvistas, exito⟩ :=
    terminaCarga_cumple tres.1 (Option.some.inj termina)
  rw [List.append_assoc] at todas
  exact ⟨s'', todas, cierra, dataLines, fun cero => by
    rw [hvistas]
    exact tres.2 (exito cero)⟩

/-- What the run with these texts has sent: commands of the file from the first on, and
perhaps the one to leave the bootloader; without an error, all of them, for all its rows. -/
structure Entrega (action : Action) (cabecera : Cabecera) (lineas : List (List UInt8))
    (s : Sesion σ) (fin : Fin σ) (hechas salida : List Orden) : Prop where
  parte : hechas <+: guion action cabecera (metadatos lineas) lineas
  deja : salida = [.exitBootLoader] ∨ salida = [] ∧ errCommMask &&& fin.err = errCommMask
  enviadas : fin.sesion.enviadas =
    s.enviadas ++ (hechas ++ salida).map (Orden.trama cabecera.chksum)
  completa : fin.err = 0 →
    hechas = guion action cabecera (metadatos lineas) lineas ∧ salida = [.exitBootLoader] ∧
    (∀ linea ∈ lineas, Admitida linea) ∧ fin.vistas = fin.dataLines ∧
    (action = .program → cargadas [] hechas =
      (lineas.filterMap filaDe).map fun fila => (fila.1, checksum32 fila.2, fila.2))

theorem entrega_of_cumple {cabecera : Cabecera} {lineas : List (List UInt8)}
    {s s' : Sesion σ} {fin : Fin σ}
    (mandan : Cumple cabecera.chksum (guion action cabecera (metadatos lineas) lineas) fin.err s s')
    (cierra : Cierra cabecera.chksum s' fin)
    (completa : fin.err = 0 → (∀ linea ∈ lineas, Admitida linea) ∧ fin.vistas = fin.dataLines) :
    ∃ hechas salida, Entrega action cabecera lineas s fin hechas salida := by
  obtain ⟨tramas, parte, enviadas, todas⟩ := mandan
  obtain ⟨hechas, parte', rfl⟩ := List.prefix_map_iff.mp parte
  have hasta : fin.err = 0 → hechas = guion action cabecera (metadatos lineas) lineas := fun cero =>
    parte'.eq_of_length (by simpa using congrArg List.length (todas cero))
  have carga : fin.err = 0 → action = .program → cargadas [] hechas =
      (lineas.filterMap filaDe).map fun fila => (fila.1, checksum32 fila.2, fila.2) := by
    rintro cero rfl
    have filas := cargadas_lineas lineas [.verifyChecksum cabecera.appID]
    rw [show cargadas [] [Orden.verifyChecksum cabecera.appID] = [] from rfl,
      List.append_nil] at filas
    rw [hasta cero, ← filas]
    rfl
  rcases cierra with sale | ⟨rfl, comm⟩
  · refine ⟨hechas, [.exitBootLoader], parte', Or.inl rfl, ?_, fun cero =>
      ⟨hasta cero, rfl, (completa cero).1, (completa cero).2, carga cero⟩⟩
    rw [sale, enviadas, List.map_append, List.append_assoc]
    rfl
  · refine ⟨hechas, [], parte', Or.inr ⟨rfl, comm⟩, ?_, fun cero => ?_⟩
    · rw [enviadas, List.append_nil]
    · rw [cero] at comm
      exact absurd comm (by decide)

theorem parseHeader_err {bufSize : UInt32} {leidos : Nat} {buffer rowData : Nat → UInt8}
    {err : Cyret} (acaba : parseHeader fuel bufSize leidos buffer rowData = some (.error err)) :
    err = .errLength := by
  obtain ⟨leida, ascii, acaba⟩ := Option.bind_eq_some_iff.mp acaba
  rw [fromAscii] at ascii
  split_ifs at ascii
  · rw [← Option.some.inj ascii] at acaba
    exact (Except.error.inj (Option.some.inj acaba)).symm
  · obtain ⟨leido, -, rfl⟩ := Option.map_eq_some_iff.mp ascii
    dsimp only at acaba
    split_ifs at acaba
    · exact absurd (Option.some.inj acaba) (by simp)
    · exact (Except.error.inj (Option.some.inj acaba)).symm

/-- What the first line says, when it is a header. -/
theorem Pasada.Lee.parseHeader {p : Pasada} {l : Line UInt8} (lee : p.Lee l)
    (corta : l.content.length < tamanoLinea) {rowData : Nat → UInt8} {cabecera : Cabecera}
    (acaba : parseHeader fuel p.size p.leidos p.lector.buffer rowData = some (.ok cabecera)) :
    cabecera = .de (hexBytes (texto l)) := by
  have cabe := (lee.coloca corta).dentro
  have leidos := (lee.coloca corta).size
  have tope : tamanoLinea = 1536 := rfl
  obtain ⟨leida, ascii, acaba⟩ := Option.bind_eq_some_iff.mp acaba
  have bytes := fromAscii_eq lee.begins lee.size (by have tamano := lee.size; omega) ascii
  split_ifs at bytes
  · subst bytes
    exact absurd acaba (by simp)
  · obtain ⟨size, rowData, rfl, hsize, hrow⟩ := bytes
    dsimp only at acaba
    split_ifs at acaba with doce
    · have largo : (hexBytes (texto l)).length = 12 := by rw [← hsize, doce]; rfl
      have byte : ∀ k, k < 12 → rowData k = (hexBytes (texto l)).getD k 0 := fun k dentro => by
        rw [List.getD_eq_getElem?_getD, hrow k (by omega), Option.getD_some]
      have silicon := parse4ByteValueLittleEndian_eq (hrow.drop (n := 1) (by omega))
        (by rw [List.length_drop]; omega)
      have product := parse4ByteValueLittleEndian_eq (hrow.drop (n := 8) (by omega))
        (by rw [List.length_drop]; omega)
      rw [← Except.ok.inj (Option.some.inj acaba), silicon, product, byte 5 (by decide),
        byte 6 (by decide), byte 7 (by decide)]
      rfl
    · exact absurd (Option.some.inj acaba) (by simp)

theorem runBootloader_entrega {cabecera : Cabecera} {a : AppInfo} {lector : Lector}
    (cabe : Cabe lector.resto) (legibles : ∀ l ∈ lines saltoLinea lector.resto, Legible l)
    (cuenta : a.dataLines = UInt32.ofNat (filasEn (textos lector.resto)))
    (dicen : a.metadatos = metadatos (textos lector.resto)) {s : Sesion σ} {fin : Fin σ}
    (acaba : runBootloader enlace action fuel aborta pila fila cabecera a lector s = some fin) :
    ∃ hechas salida, Entrega action cabecera (textos lector.resto) s fin hechas salida := by
  obtain ⟨s', mandan, cierra, hdata, completa⟩ := runBootloader_cumple cabe legibles acaba
  rw [dicen] at mandan
  exact entrega_of_cumple mandan cierra fun cero =>
    ⟨(completa cero).1, by rw [(completa cero).2, hdata, cuenta]⟩

/-- A run ends with an error before anything is sent, or goes on with the header and the
lines behind it. -/
theorem runAction_cases {fichero : List UInt8} (cabe : Cabe fichero)
    (legibles : ∀ l ∈ lines saltoLinea fichero, Legible l) {buffer : Nat → UInt8} {s : Sesion σ}
    {fin : Fin σ}
    (acaba : runAction enlace action fuel aborta pila fila ⟨fichero, buffer⟩ s = some fin) :
    (∃ (err : Cyret) (dataLines : UInt32), err ≠ .success ∧ fin = ⟨err.codigo, dataLines, 0, s⟩) ∨
      ∃ cabeza a lector, Cabe lector.resto ∧ (∀ l ∈ lines saltoLinea lector.resto, Legible l) ∧
        textos fichero = cabeza :: textos lector.resto ∧
        a.dataLines = UInt32.ofNat (filasEn (textos lector.resto)) ∧
        a.metadatos = metadatos (textos lector.resto) ∧
        runBootloader enlace action fuel aborta pila fila (.de (hexBytes cabeza)) a lector s =
          some fin := by
  have primera := ((leeFichero_iff (s := ⟨fichero, buffer⟩) cabe).mpr legibles).readLine
  rw [runAction] at acaba
  dsimp only at acaba primera
  cases quedan : esperadas fichero with
  | nil =>
      rw [quedan] at primera
      have otro : Cyret.errEof ≠ .success := by decide
      rw [primera, if_neg otro] at acaba
      exact Or.inl ⟨_, 0, otro, (Option.some.inj acaba).symm⟩
  | cons l detras =>
      rw [quedan] at primera
      obtain ⟨lee, miembro, siguen⟩ := primera
      rw [if_pos lee.err] at acaba
      obtain ⟨version, -, acaba⟩ := Option.bind_eq_some_iff.mp acaba
      split_ifs at acaba with hversion
      · obtain ⟨leida, cabeza, acaba⟩ := Option.bind_eq_some_iff.mp acaba
        cases leida with
        | error err =>
            have falla : err ≠ .success := by
              rw [parseHeader_err cabeza]
              exact Cyret.noConfusion
            exact Or.inl ⟨err, 0, falla, (Option.some.inj acaba).symm⟩
        | ok cabecera =>
            obtain ⟨⟨err, lector, a⟩, pasada, acaba⟩ := Option.bind_eq_some_iff.mp acaba
            dsimp only at acaba
            split_ifs at acaba with exito
            · subst exito
              have cabe' : Cabe (readLine ⟨fichero, buffer⟩).lector.resto :=
                fun l dentro => cabe l (mem_lines_readLine dentro)
              have legibles' : ∀ l ∈ lines saltoLinea (readLine ⟨fichero, buffer⟩).lector.resto,
                  Legible l := fun l dentro => legibles l (mem_lines_readLine dentro)
              obtain ⟨resto, dataLines, dicen⟩ :=
                parseCyAcdAppStartAndSize_cuenta cabe' legibles' pasada
              rw [← resto] at cabe' legibles' dataLines dicen
              have detras' : textos fichero = texto l :: textos lector.resto := by
                rw [textos, textos, quedan, resto, siguen, List.map_cons]
              rw [lee.parseHeader (cabe l miembro) cabeza] at acaba
              exact Or.inr ⟨texto l, a, lector, cabe', legibles', detras', dataLines, dicen, acaba⟩
            · exact Or.inl ⟨err, _, exito, (Option.some.inj acaba).symm⟩
      · exact Or.inl ⟨version, 0, hversion, (Option.some.inj acaba).symm⟩

/-- Nothing has been sent, and there is an error, or what has been sent are the commands of
the file. -/
theorem entrega_of_runAction {fichero : List UInt8} (cabe : Cabe fichero)
    (legibles : ∀ l ∈ lines saltoLinea fichero, Legible l) {buffer : Nat → UInt8} {s : Sesion σ}
    {fin : Fin σ}
    (acaba : runAction enlace action fuel aborta pila fila ⟨fichero, buffer⟩ s = some fin) :
    (fin.err ≠ 0 ∧ fin.sesion = s) ∨
      ∃ cabeza lineas hechas salida, textos fichero = cabeza :: lineas ∧
        Entrega action (.de (hexBytes cabeza)) lineas s fin hechas salida := by
  obtain ⟨err, dataLines, falla, rfl⟩ |
      ⟨cabeza, a, lector, cabe', legibles', partes, cuenta, dicen, carga⟩ :=
    runAction_cases cabe legibles acaba
  · exact Or.inl ⟨codigo_ne_zero falla, rfl⟩
  · obtain ⟨hechas, salida, entrega⟩ := runBootloader_entrega cabe' legibles' cuenta dicen carga
    exact Or.inr ⟨cabeza, textos lector.resto, hechas, salida, partes, entrega⟩

end RunAction

/-- A line on which every command is acknowledged. -/
def acusaTodo : Enlace Unit where
  transferData _ resSize _ _ :=
    (0, write (resSize - 1) [cmdStop]
      (write 0 [cmdStart, 0, UInt8.ofNat (resSize - baseCmdSize), 0,
        if resSize = baseCmdSize + 1 then 1 else 0] fun _ => 0), ())
  write _ _ := ()

/-- A header and the row `:001000100102`. -/
def ficheroMinimo : List UInt8 :=
  [0x30, 0x31] ++ List.replicate 22 0x30 ++ [0x0D, 0x0A] ++
    [0x3A, 0x30, 0x30, 0x31, 0x30, 0x30, 0x30, 0x31, 0x30, 0x30, 0x31, 0x30, 0x32, 0x0D, 0x0A]

/-! ## The run ends -/

section Acotada

variable {σ : Type} {enlace : Enlace σ} {action : Action} {fuel : Nat}

/-- When a transfer fails, what is in `outBuf` is no packet whose length leads outside. -/
def Enlace.Acotado (enlace : Enlace σ) : Prop :=
  ∀ orden resSize outBuf linea,
    (enlace.transferData orden resSize outBuf linea).1 ≠ 0 →
      let outBuf := (enlace.transferData orden resSize outBuf linea).2.1
      outBuf 0 = cmdStart → (junta16 (outBuf 2) (outBuf 3)).toNat + baseCmdSize ≤ maxCommandSize

/-- The vectors of the file fit in a command. -/
def VectoresCaben (fichero : List UInt8) : Prop :=
  ∀ linea ∈ textos fichero, EsVector linea → linea.length ≤ 1015

instance (fichero : List UInt8) : Decidable (VectoresCaben fichero) :=
  List.decidableBAll _ _

theorem tryParseParketStatus_isSome {checksum : UInt8} {tamano packetSize : Nat}
    {packet : Nat → UInt8} {status : UInt8} (bastan : 4 ≤ tamano)
    (dentro : packet 0 = cmdStart →
      (junta16 (packet 2) (packet 3)).toNat + baseCmdSize ≤ tamano) :
    (tryParseParketStatus checksum tamano packet packetSize status).isSome := by
  have leidos : ∀ i, i + 1 < tamano →
      lee16 tamano packet i = some (junta16 (packet i) (packet (i + 1))) := fun i menor => by
    rw [lee16, load_of_lt (by omega), load_of_lt menor]
    rfl
  rw [tryParseParketStatus]
  split_ifs with corto
  · rfl
  · rw [load_of_lt (by omega)]
    by_cases inicio : packet 0 = cmdStart
    · have cabe : (junta16 (packet 2) (packet (2 + 1))).toNat + 7 ≤ tamano := dentro inicio
      simp only [Option.bind_eq_bind, Option.bind_some]
      rw [if_neg (not_not.mpr inicio), load_of_lt (by omega), Option.bind_some,
        leidos 2 (by omega), Option.bind_some, leidos _ (by omega), Option.bind_some,
        load_of_lt (by omega), Option.bind_some]
      split_ifs <;> rfl
    · simp only [Option.bind_eq_bind, Option.bind_some]
      rw [if_pos inicio]
      rfl

theorem startBootloadOperation_isSome (acotado : enlace.Acotado) (checksum : UInt8)
    (expSiId : UInt32) (expSiRev : UInt8) (productID : UInt32) (pila : Nat → UInt8)
    (s : Sesion σ) :
    (startBootloadOperation enlace checksum expSiId expSiRev productID pila s).isSome := by
  rw [startBootloadOperation]
  dsimp only
  split
  · split <;> rfl
  next falla =>
    obtain ⟨⟨valido, status⟩, leido⟩ := Option.isSome_iff_exists.mp
      (@tryParseParketStatus_isSome checksum maxCommandSize
        (baseCmdSize + (Orden.enterBootLoader productID).resultDataSize) _ 0 (by decide)
        (acotado _ _ _ _ falla))
    rw [transfiere]
    dsimp only
    rw [leido]
    dsimp only [Option.bind_eq_bind, Option.bind_some]
    split <;> rfl

section Linea

variable {p : Pasada} {l : Line UInt8} (lee : p.Lee l) (corta : l.content.length < tamanoLinea)
  (basta : tamanoLinea ≤ fuel)

include lee corta basta

theorem Pasada.Lee.processLine_isSome (vector : EsVector (texto l) → (texto l).length ≤ 1015)
    (checksum : UInt8) (pila : Nat → UInt8) (fila : Fila) (s : Sesion σ) :
    (Cybtldr.processLine enlace action checksum fuel p pila fila s).isSome := by
  have coloca := lee.coloca corta
  rw [Cybtldr.processLine]
  split_ifs
  · rw [Cybtldr.processMetaRow]
    split_ifs with cabecera
    · have esVector := lee.esVector_iff.mp cabecera
      have cinco : 5 ≤ (texto l).length := esVector.length_le
      obtain ⟨leida, ascii⟩ := Option.isSome_iff_exists.mp
        (coloca.fromAscii basta (k := 5) (by rwa [← coloca.size, lee.size]) pila)
      have bytes := lee.fromAscii corta cinco ascii
      change Cybtldr.fromAscii fuel (p.size - 5) _ _ _ = _ at ascii
      rw [ascii]
      split_ifs at bytes
      · subst bytes
        rfl
      · obtain ⟨size, rowData, rfl, hbytes⟩ := bytes
        dsimp only [Option.bind_eq_bind, Option.bind_some]
        rw [hbytes, setEncryptionInitialVector, if_pos]
        · rfl
        · have largo := length_hexBytes ((texto l).drop 5)
          have tope := vector esVector
          rw [List.length_drop] at largo
          have tamano : maxCommandSize = 512 := rfl
          rw [Orden.Cabe, Orden.datos, baseCmdSize]
          omega
    · rfl
  · rw [Cybtldr.processDataRow]
    obtain ⟨fila', leida⟩ := Option.isSome_iff_exists.mp
      (coloca.parseCyAcd2RowData basta pila fila)
    rw [leida]
    dsimp only [Option.bind_eq_bind, Option.bind_some]
    split_ifs <;> rfl
  · rfl

end Linea

theorem processLines_isSome {aborta : Nat → Bool} {pila : Nat → Nat → UInt8} {fila : Nat → Fila}
    {vueltas : Nat} {lector : Lector} (cabe : Cabe lector.resto)
    (legibles : ∀ l ∈ lines saltoLinea lector.resto, Legible l)
    (vectores : VectoresCaben lector.resto) (basta : tamanoLinea ≤ fuel)
    (quedan : lector.resto.length < vueltas) (checksum : UInt8) (vistas : UInt32) (s : Sesion σ) :
    (processLines enlace action checksum fuel aborta pila fila vueltas lector vistas s).isSome := by
  induction vueltas generalizing lector vistas s with
  | zero => omega
  | succ vueltas inductionHypothesis =>
      have primera := ((leeFichero_iff cabe).mpr legibles).readLine
      rw [processLines]
      dsimp only
      split_ifs with abortada leida
      · rfl
      · cases lineas : esperadas lector.resto with
        | nil =>
            rw [lineas] at primera
            exact absurd (leida.symm.trans primera) Cyret.noConfusion
        | cons l detras =>
            rw [lineas] at primera
            obtain ⟨lee, miembro, siguen⟩ := primera
            have hacia : textos lector.resto =
                texto l :: textos (readLine lector).lector.resto := by
              rw [textos, textos, lineas, siguen, List.map_cons]
            have vectores' := vectores
            rw [VectoresCaben, hacia, List.forall_mem_cons] at vectores'
            have hecha : (processLine enlace action checksum fuel (readLine lector) (pila vueltas)
                (fila vueltas) s).isSome :=
              lee.processLine_isSome (cabe l miembro) basta vectores'.1 _ _ _ _
            obtain ⟨⟨err, s'⟩, linea⟩ := Option.isSome_iff_exists.mp hecha
            have menor := length_resto_readLine_lt leida
            rw [linea]
            dsimp only [Option.bind_eq_bind, Option.bind_some]
            by_cases exito : err = 0
            · rw [if_pos exito]
              exact inductionHypothesis (fun l dentro => cabe l (mem_lines_readLine dentro))
                (fun l dentro => legibles l (mem_lines_readLine dentro)) vectores'.2 (by omega) _ _
            · rw [if_neg exito]
              rfl
      · rfl
      · rfl

theorem checkCyacdFileVersion_isSome {p : Pasada} (coloca : p.Coloca) :
    (checkCyacdFileVersion p.size p.leidos p.lector.buffer).isSome := by
  rw [checkCyacdFileVersion]
  split_ifs with corta
  · rfl
  · have bastan : 2 ≤ p.size.toNat := UInt32.le_iff_toNat_le.mp (UInt32.not_lt.mp corta)
    have igual := coloca.size
    rw [load_of_lt (by omega), load_of_lt (by omega)]
    rfl

theorem parseHeader_isSome {p : Pasada} (coloca : p.Coloca) (basta : tamanoLinea ≤ fuel)
    (rowData : Nat → UInt8) :
    (parseHeader fuel p.size p.leidos p.lector.buffer rowData).isSome := by
  have igual := coloca.size
  have corto := coloca.dentro
  have tope : tamanoLinea = 1536 := rfl
  obtain ⟨leida, ascii⟩ := Option.isSome_iff_exists.mp
    (@fromAscii_isSome p.size p.leidos p.lector.buffer igual.le
      (show _ ≤ 768 by omega) fuel (by omega) rowData)
  rw [parseHeader, ascii]
  cases leida with
  | error err => rfl
  | ok leido =>
      dsimp only [Option.bind_eq_bind, Option.bind_some]
      split_ifs <;> rfl

theorem parseCyAcdAppStartAndSize_isSome {s : Lector} (cabe : Cabe s.resto)
    (legibles : ∀ l ∈ lines saltoLinea s.resto, Legible l) (basta : tamanoLinea ≤ fuel)
    (quedan : s.resto.length < fuel) (pila : Nat → Nat → UInt8) (fila : Fila) :
    (parseCyAcdAppStartAndSize fuel pila fila s).isSome := by
  obtain ⟨⟨err, s', a⟩, igual⟩ := Option.isSome_iff_exists.mp
    (recorrer_isSome cabe legibles basta quedan pila
      ⟨0xFFFFFFFF, 0, 0, false, { fila with address := 0 }⟩)
  rw [parseCyAcdAppStartAndSize, igual]
  rfl

theorem recorreLineas_isSome {lector : Lector} (cabe : Cabe lector.resto)
    (legibles : ∀ l ∈ lines saltoLinea lector.resto, Legible l)
    (vectores : VectoresCaben lector.resto) (basta : tamanoLinea ≤ fuel)
    (quedan : lector.resto.length < fuel) (aborta : Nat → Bool) (pila : Nat → Nat → UInt8)
    (fila : Nat → Fila) (checksum : UInt8) (hecho : Hecho σ) :
    (recorreLineas enlace action fuel aborta pila fila checksum lector hecho).isSome := by
  rw [recorreLineas]
  split_ifs
  · exact processLines_isSome cabe legibles vectores basta quedan checksum 0 hecho.sesion
  · rfl

theorem runBootloader_isSome {lector : Lector} (cabe : Cabe lector.resto)
    (legibles : ∀ l ∈ lines saltoLinea lector.resto, Legible l)
    (vectores : VectoresCaben lector.resto) (acotado : enlace.Acotado)
    (basta : tamanoLinea ≤ fuel) (quedan : lector.resto.length < fuel) (aborta : Nat → Bool)
    (pila : Nat → Nat → UInt8) (fila : Nat → Fila) (cabecera : Cabecera) (a : AppInfo)
    (s : Sesion σ) :
    (runBootloader enlace action fuel aborta pila fila cabecera a lector s).isSome := by
  obtain ⟨hecho, empieza⟩ := Option.isSome_iff_exists.mp
    (startBootloadOperation_isSome acotado cabecera.chksum cabecera.siliconId cabecera.siliconRev
      cabecera.productID (pila fuel) s)
  rw [runBootloader, empieza]
  dsimp only [Option.bind_eq_bind, Option.bind_some]
  have todas : ∀ hecho : Hecho σ, (recorreLineas enlace action fuel aborta pila fila
      cabecera.chksum lector hecho).isSome :=
    recorreLineas_isSome cabe legibles vectores basta quedan aborta pila fila cabecera.chksum
  obtain ⟨lineas, recorridas⟩ := Option.isSome_iff_exists.mp (todas _)
  rw [recorridas]
  rfl

/-- With vectors that fit in a command, and a line that leaves no length that leads outside
in a failed transfer, the operation ends, and inside its arrays. -/
theorem runAction_isSome {fichero : List UInt8} (cabe : Cabe fichero)
    (legibles : ∀ l ∈ lines saltoLinea fichero, Legible l) (vectores : VectoresCaben fichero)
    (acotado : enlace.Acotado) (basta : tamanoLinea + fichero.length < fuel) (aborta : Nat → Bool)
    (pila : Nat → Nat → UInt8) (fila : Nat → Fila) (buffer : Nat → UInt8) (s : Sesion σ) :
    (runAction enlace action fuel aborta pila fila ⟨fichero, buffer⟩ s).isSome := by
  have primera := ((leeFichero_iff (s := ⟨fichero, buffer⟩) cabe).mpr legibles).readLine
  rw [runAction]
  dsimp only at primera ⊢
  split_ifs with leida
  · cases quedan : esperadas fichero with
    | nil =>
        rw [quedan] at primera
        exact absurd (leida.symm.trans primera) Cyret.noConfusion
    | cons l detras =>
        rw [quedan] at primera
        obtain ⟨lee, miembro, siguen⟩ := primera
        have corta := cabe l miembro
        have coloca := lee.coloca corta
        have cabe' : Cabe (readLine ⟨fichero, buffer⟩).lector.resto :=
          fun l dentro => cabe l (mem_lines_readLine dentro)
        have legibles' : ∀ l ∈ lines saltoLinea (readLine ⟨fichero, buffer⟩).lector.resto,
            Legible l := fun l dentro => legibles l (mem_lines_readLine dentro)
        have menor := length_resto_readLine_lt leida
        dsimp only at menor
        have hacia : textos fichero =
            texto l :: textos (readLine ⟨fichero, buffer⟩).lector.resto := by
          rw [textos, textos, quedan, siguen, List.map_cons]
        rw [VectoresCaben, hacia, List.forall_mem_cons] at vectores
        obtain ⟨version, hversion⟩ :=
          Option.isSome_iff_exists.mp (checkCyacdFileVersion_isSome coloca)
        rw [hversion]
        dsimp only [Option.bind_eq_bind, Option.bind_some]
        split_ifs
        · have bastan : tamanoLinea ≤ fuel := by omega
          obtain ⟨leida, hleida⟩ := Option.isSome_iff_exists.mp
            (parseHeader_isSome coloca bastan (pila fuel))
          rw [hleida]
          cases leida with
          | error err => rfl
          | ok cabecera =>
              obtain ⟨⟨err, lector, a⟩, pasada⟩ := Option.isSome_iff_exists.mp
                (parseCyAcdAppStartAndSize_isSome cabe' legibles' bastan (by omega) pila
                  (fila fuel))
              dsimp only [Option.bind_some]
              rw [pasada]
              dsimp only [Option.bind_some]
              split_ifs with exito
              · subst exito
                have resto := (parseCyAcdAppStartAndSize_cuenta cabe' legibles' pasada).1
                rw [← resto] at cabe' legibles' vectores menor
                exact runBootloader_isSome cabe' legibles' vectores.2 acotado bastan (by omega) _ _
                  _ _ _ _
              · rfl
        · rfl
  · rfl

theorem length_conDireccion (address chksum : UInt32) (buf : List UInt8) :
    (fillData32 address ++ fillData32 chksum ++ buf).length = 8 + buf.length := by
  rw [List.length_append]
  rfl

/-- The commands of a row fit in the buffers for commands. -/
theorem cabe_ordenesFila {orden : UInt32 → UInt32 → List UInt8 → Orden}
    (datos : ∀ address chksum buf, (orden address chksum buf).datos.length = 8 + buf.length)
    (address : UInt32) (buf : List UInt8) : ∀ o ∈ ordenesFila orden address buf, o.Cabe := by
  have tope : maxCommandSize = 512 := rfl
  intro o suya
  rcases List.mem_append.mp suya with trozo | ultima
  · obtain ⟨j, -, rfl⟩ := List.mem_map.mp trozo
    have largo : (pieza buf j).length ≤ 121 := List.length_take_le _ _
    show baseCmdSize + (pieza buf j).length ≤ maxCommandSize
    rw [baseCmdSize]
    omega
  · rw [List.mem_singleton.mp ultima]
    have queda : ¬113 < buf.length - 121 * cuantos buf.length :=
      fun sobra => (lt_cuantos_iff.mpr sobra).false
    rw [Orden.Cabe, datos, List.length_drop, baseCmdSize]
    omega

/-- So do those of a line, if its vector does. -/
theorem cabe_ordenesLinea {texto : List UInt8} (vector : EsVector texto → texto.length ≤ 1015) :
    ∀ o ∈ ordenesLinea action texto, o.Cabe := by
  have tope : maxCommandSize = 512 := rfl
  rw [ordenesLinea]
  cases filaDe texto with
  | some leido =>
      cases action with
      | program => exact @cabe_ordenesFila .programData length_conDireccion _ _
      | erase => exact List.forall_mem_singleton.mpr (show baseCmdSize + 4 ≤ 512 by decide)
      | verify => exact @cabe_ordenesFila .verifyData length_conDireccion _ _
  | none =>
      dsimp only
      split_ifs with esVector
      · refine List.forall_mem_singleton.mpr ?_
        have largo := length_hexBytes (texto.drop 5)
        have corto := vector esVector.1
        rw [List.length_drop] at largo
        show baseCmdSize + (hexBytes (texto.drop 5)).length ≤ maxCommandSize
        rw [baseCmdSize]
        omega
      · exact List.forall_mem_nil _

theorem cabe_guion {cabecera : Cabecera} {m : Metadatos} {lineas : List (List UInt8)}
    (vectores : ∀ linea ∈ lineas, EsVector linea → linea.length ≤ 1015) :
    ∀ o ∈ guion action cabecera m lineas, o.Cabe := by
  intro o suya
  rcases List.mem_append.mp suya with entrada | suya
  · rcases List.mem_pair.mp entrada with rfl | rfl
    · exact show baseCmdSize + 6 ≤ 512 by decide
    · exact show baseCmdSize + 9 ≤ 512 by decide
  rcases List.mem_append.mp suya with deLinea | verifica
  · obtain ⟨linea, miembro, suya⟩ := List.mem_flatMap.mp deLinea
    exact cabe_ordenesLinea (vectores linea miembro) o suya
  · split_ifs at verifica
    · cases verifica
    · rw [List.mem_singleton.mp verifica]
      exact show baseCmdSize + 1 ≤ 512 by decide

/-- For every file of lines that can be read, with vectors that fit in a command, whatever the
other processor does (if it leaves no length that leads outside in a failed transfer),
whenever the operation is aborted and whichever the action: it ends, and nothing has been
sent, and there is an error, or what has been sent are the commands of the file, in their
order. -/
theorem runAction_entrega {fichero : List UInt8} (cabe : Cabe fichero)
    (legibles : ∀ l ∈ lines saltoLinea fichero, Legible l) (vectores : VectoresCaben fichero)
    (acotado : enlace.Acotado) (basta : tamanoLinea + fichero.length < fuel) (aborta : Nat → Bool)
    (pila : Nat → Nat → UInt8) (fila : Nat → Fila) (buffer : Nat → UInt8) (s : Sesion σ) :
    ∃ fin, runAction enlace action fuel aborta pila fila ⟨fichero, buffer⟩ s = some fin ∧
      ((fin.err ≠ 0 ∧ fin.sesion = s) ∨
        ∃ cabeza lineas hechas salida, textos fichero = cabeza :: lineas ∧
          Entrega action (.de (hexBytes cabeza)) lineas s fin hechas salida) := by
  obtain ⟨fin, acaba⟩ := Option.isSome_iff_exists.mp
    (runAction_isSome cabe legibles vectores acotado basta aborta pila fila buffer s)
  exact ⟨fin, acaba, entrega_of_runAction cabe legibles acaba⟩

theorem runAction_entrega_minimo :
    ∃ fin, runAction acusaTodo .program 1600 (fun _ => false) (fun _ _ => 0)
        (fun _ => ⟨.success, 0, fun _ => 0, 0, 0⟩) ⟨ficheroMinimo, fun _ => 0⟩ ⟨(), []⟩ =
          some fin ∧
      ((fin.err ≠ 0 ∧ fin.sesion = ⟨(), []⟩) ∨
        ∃ cabeza lineas hechas salida, textos ficheroMinimo = cabeza :: lineas ∧
          Entrega .program (.de (hexBytes cabeza)) lineas ⟨(), []⟩ fin hechas salida) :=
  runAction_entrega (by decide +kernel) (by decide +kernel) (by decide +kernel)
    (fun _ _ _ _ falla => absurd rfl falla) (by decide) _ _ _ _ _

/-- It stays inside its arrays, and every command it makes fits in `inBuf`. -/
theorem runAction_dentro {fichero : List UInt8} (cabe : Cabe fichero)
    (legibles : ∀ l ∈ lines saltoLinea fichero, Legible l) (vectores : VectoresCaben fichero)
    (acotado : enlace.Acotado) (basta : tamanoLinea + fichero.length < fuel) (aborta : Nat → Bool)
    (pila : Nat → Nat → UInt8) (fila : Nat → Fila) (buffer : Nat → UInt8) (s : Sesion σ) :
    ∃ fin hechas, runAction enlace action fuel aborta pila fila ⟨fichero, buffer⟩ s = some fin ∧
      fin.sesion.enviadas = s.enviadas ++ hechas ∧
      ∀ orden ∈ hechas, orden.length ≤ maxCommandSize := by
  obtain ⟨fin, acaba⟩ := Option.isSome_iff_exists.mp
    (runAction_isSome cabe legibles vectores acotado basta aborta pila fila buffer s)
  rcases entrega_of_runAction cabe legibles acaba with
    ⟨-, nada⟩ | ⟨cabeza, lineas, hechas, salida, partes, entrega⟩
  · exact ⟨fin, [], acaba, by rw [nada, List.append_nil], fun _ ninguna => nomatch ninguna⟩
  · refine ⟨fin, _, acaba, entrega.enviadas, fun orden suya => ?_⟩
    obtain ⟨o, mandada, rfl⟩ := List.mem_map.mp suya
    rw [Orden.length_trama]
    show o.Cabe
    rcases List.mem_append.mp mandada with hecha | sale
    · rw [VectoresCaben, partes, List.forall_mem_cons] at vectores
      exact cabe_guion vectores.2 o (entrega.parte.subset hecha)
    · rcases entrega.deja with salida' | ⟨ninguna, -⟩
      · rw [salida'] at sale
        rw [List.mem_singleton.mp sale]
        decide
      · rw [ninguna] at sale
        cases sale

theorem runAction_dentro_minimo :
    ∃ fin hechas, runAction acusaTodo .program 1600 (fun _ => false) (fun _ _ => 0)
        (fun _ => ⟨.success, 0, fun _ => 0, 0, 0⟩) ⟨ficheroMinimo, fun _ => 0⟩ ⟨(), []⟩ =
          some fin ∧
      fin.sesion.enviadas = [] ++ hechas ∧ ∀ orden ∈ hechas, orden.length ≤ maxCommandSize :=
  runAction_dentro (by decide +kernel) (by decide +kernel) (by decide +kernel)
    (fun _ _ _ _ falla => absurd rfl falla) (by decide) _ _ _ _ _

end Acotada

end VeltiumCharger.Cybtldr
