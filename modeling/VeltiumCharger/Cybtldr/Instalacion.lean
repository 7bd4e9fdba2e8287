import VeltiumCharger.Actualizacion.Descarga
import VeltiumCharger.Cybtldr.Entrega

/-!
# Installing the image

`UpdateTask` runs the operation on the file it finds, or on the firmware before it after
too many bad restarts, and keeps what is left of its result in eight bits: when that is zero
the file becomes the firmware before the next one.  The line it runs on is the serial line,
whose transfers end with a reply or with the error of the limit.
-/

namespace VeltiumCharger.Cybtldr

open VeltiumCharger.Lines VeltiumCharger.Loop VeltiumCharger.Actualizacion

/-! ## The serial line -/

/-- `CyBtldr_TransferData` on the serial line, with what arrives during each transfer. -/
def lineaSerie (llegadas : Nat → Nat → Llegadas) : Enlace (Canal × Nat) where
  transferData _ resSize outBuf linea :=
    let canal := { linea.1 with outBuf := outBuf }.transferData resSize (llegadas linea.2)
    (canal.resultado, canal.outBuf, (canal, linea.2 + 1))
  write _ linea := linea

theorem Canal.parseGenericCmdResult_eq (s : Canal) (dataSize expectedSize : Nat) :
    s.parseGenericCmdResult dataSize expectedSize =
      Cybtldr.parseGenericCmdResult s.outBuf dataSize expectedSize :=
  rfl

/-- The variables of the two accounts of `SendData` are the same. -/
structure MismoEnvio (e : Envio) (r : Reparto (Canal × Nat)) : Prop where
  offset : r.offset = e.offset
  err : r.hecho.err = e.err
  outBuf : r.hecho.outBuf = e.canal.outBuf
  linea : r.hecho.sesion.linea = (e.canal, e.hechas.length)

section SendData

variable {llegadas : Nat → Nat → Llegadas} {checksum : UInt8} {buf : List UInt8}
  {inBuf : Nat → UInt8} {maxRemainingDataSize : Nat}

theorem MismoEnvio.trozo {e : Envio} {r : Reparto (Canal × Nat)} (mismo : MismoEnvio e r) :
    MismoEnvio (e.trozo buf.length llegadas)
      (r.trozo (lineaSerie llegadas) checksum buf inBuf) := by
  obtain ⟨offset, ⟨err, outBuf, ⟨linea, enviadas⟩⟩⟩ := r
  obtain ⟨rfl, rfl, rfl, rfl⟩ := mismo
  have envia : ∀ datos, ∃ orden, transfiere (lineaSerie llegadas) checksum (.sendData datos) inBuf
      e.canal.outBuf ⟨(e.canal, e.hechas.length), enviadas⟩ =
        ⟨(e.transferido llegadas).resultado, (e.transferido llegadas).outBuf,
          ⟨(e.transferido llegadas, e.hechas.length + 1), enviadas ++ [orden]⟩⟩ :=
    fun _ => ⟨_, rfl⟩
  have lee : ∀ datos, Cybtldr.parseGenericCmdResult (e.transferido llegadas).outBuf
      (Orden.sendData datos).resultDataSize (baseCmdSize + (Orden.sendData datos).resultDataSize) =
        (e.transferido llegadas).parseGenericCmdResult 0 baseCmdSize := by
    intro datos
    rw [Canal.parseGenericCmdResult_eq]
    rfl
  have ordenada : ∀ datos, (ordena (lineaSerie llegadas) checksum (.sendData datos) inBuf
      e.canal.outBuf ⟨(e.canal, e.hechas.length), enviadas⟩).err =
        (e.trozo buf.length llegadas).err := by
    intro datos
    obtain ⟨orden, hecha⟩ := envia datos
    rw [ordena, Envio.trozo, hecha]
    dsimp only
    rw [lee]
    split_ifs
    · exact Nat.or_comm ..
    · rfl
    · rfl
  have resto : ∀ datos, (ordena (lineaSerie llegadas) checksum (.sendData datos) inBuf
      e.canal.outBuf ⟨(e.canal, e.hechas.length), enviadas⟩).outBuf =
        (e.transferido llegadas).outBuf ∧
      (ordena (lineaSerie llegadas) checksum (.sendData datos) inBuf e.canal.outBuf
        ⟨(e.canal, e.hechas.length), enviadas⟩).sesion.linea =
          (e.transferido llegadas, e.hechas.length + 1) := by
    intro datos
    obtain ⟨orden, hecha⟩ := envia datos
    rw [ordena, hecha]
    dsimp only
    split_ifs <;> exact ⟨rfl, rfl⟩
  obtain ⟨datos, parte⟩ : ∃ datos, Reparto.trozo (lineaSerie llegadas) checksum buf inBuf
      ⟨e.offset, ⟨e.err, e.canal.outBuf, ⟨(e.canal, e.hechas.length), enviadas⟩⟩⟩ =
        ⟨e.offset + e.cmdLen buf.length, ordena (lineaSerie llegadas) checksum (.sendData datos)
          inBuf e.canal.outBuf ⟨(e.canal, e.hechas.length), enviadas⟩⟩ := ⟨_, rfl⟩
  obtain ⟨mismaSalida, mismaLinea⟩ := resto datos
  rw [parte]
  constructor
  · rfl
  · exact ordenada datos
  · exact mismaSalida
  · rw [mismaLinea, Envio.trozo, List.length_append]
    rfl

theorem MismoEnvio.sigue {e : Envio} {r : Reparto (Canal × Nat)} (mismo : MismoEnvio e r) :
    r.sigue buf.length maxRemainingDataSize = e.sigue buf.length maxRemainingDataSize := by
  rw [Reparto.sigue, Envio.sigue, mismo.err, mismo.offset]

/-- Sending the pieces of a row over the serial line is the sending of so many bytes. -/
theorem mismoEnvio_sendData (canal : Canal) (enviadas : List (List UInt8)) :
    MismoEnvio (Envio.sendData buf.length maxRemainingDataSize llegadas canal 0)
      (sendData (lineaSerie llegadas) checksum buf maxRemainingDataSize inBuf canal.outBuf
        ⟨(canal, 0), enviadas⟩) := by
  have vueltas : ∀ n (e : Envio) (r : Reparto (Canal × Nat)), MismoEnvio e r →
      MismoEnvio
        (whileFuel (Envio.sigue buf.length maxRemainingDataSize)
          (Envio.trozo buf.length llegadas) n e)
        (whileFuel (Reparto.sigue buf.length maxRemainingDataSize)
          (Reparto.trozo (lineaSerie llegadas) checksum buf inBuf) n r) := by
    intro n
    induction n with
    | zero => exact fun _ _ mismo => mismo
    | succ n inductionHypothesis =>
        intro e r mismo
        rw [whileFuel, whileFuel, mismo.sigue]
        split_ifs
        · exact inductionHypothesis _ _ mismo.trozo
        · exact mismo
  exact vueltas buf.length _ _ ⟨rfl, rfl, rfl, rfl⟩

end SendData

/-! ## What is left of an error in eight bits -/

/-- An error of which something is left. -/
def Visible (err : Nat) : Prop :=
  err % 256 = 0 → err = 0

instance (err : Nat) : Decidable (Visible err) :=
  inferInstanceAs (Decidable (_ → _))

/-- The codes of the line are visible. -/
def Enlace.Codigos {σ : Type} (enlace : Enlace σ) : Prop :=
  ∀ orden resSize outBuf linea, Visible (enlace.transferData orden resSize outBuf linea).1

theorem codigos_lineaSerie (llegadas : Nat → Nat → Llegadas) : (lineaSerie llegadas).Codigos := by
  intro orden resSize outBuf linea
  have fin := resultado_of_err _ (acabada_transferData { linea.1 with outBuf := outBuf } resSize
    (llegadas linea.2))
  intro cero
  obtain ⟨-, cero'⟩ | ⟨-, limite⟩ := fin
  · exact cero'
  · rw [lineaSerie] at cero
    dsimp only at cero
    rw [limite] at cero
    exact absurd cero (by decide)

theorem visible_zero : Visible 0 :=
  fun _ => rfl

theorem visible_codigo (err : Cyret) : Visible err.codigo := by
  cases err <;> decide

theorem mod_errBtldrMask (status : UInt8) :
    (errBtldrMask ||| status.toNat) % 256 = status.toNat := by
  have menor := status.toNat_lt
  have mascara : errBtldrMask ||| status.toNat = 2 ^ 14 * 1 + status.toNat :=
    (Nat.two_pow_add_eq_or_of_lt (i := 14) (by omega) 1).symm
  rw [mascara]
  omega

theorem visible_errBtldrMask {status : UInt8} (malo : status ≠ 0) :
    Visible (errBtldrMask ||| status.toNat) := by
  intro cero
  rw [mod_errBtldrMask] at cero
  exact absurd (UInt8.toNat_inj.mp cero) malo

theorem visible_parseGenericCmdResult (cmdBuf : Nat → UInt8) (dataSize expectedSize : Nat) :
    Visible (parseGenericCmdResult cmdBuf dataSize expectedSize).1 := by
  rw [parseGenericCmdResult]
  dsimp only
  split_ifs with _ malo
  · exact visible_codigo .errLength
  · exact visible_errBtldrMask malo
  · exact visible_codigo .errData
  · decide

section Codigos

variable {σ : Type} {enlace : Enlace σ} (codigos : enlace.Codigos)

include codigos

theorem visible_ordena (checksum : UInt8) (o : Orden) (inBuf outBuf : Nat → UInt8) (s : Sesion σ) :
    Visible (ordena enlace checksum o inBuf outBuf s).err := by
  rw [ordena]
  split_ifs with exito
  · dsimp only
    split_ifs with malo
    · exact visible_errBtldrMask malo
    · exact visible_parseGenericCmdResult _ _ _
  · exact codigos _ _ _ _

theorem visible_escribeFila (checksum : UInt8) (orden : UInt32 → UInt32 → List UInt8 → Orden)
    (address : UInt32) (buf : List UInt8) (pila : Nat → UInt8) (s : Sesion σ) :
    Visible (escribeFila enlace checksum orden address buf pila s).err := by
  have piezas : Visible (sendData enlace checksum buf (128 - 15) pila pila s).hecho.err := by
    refine (whileFuel_heads _ _ _ _).invariant (fun r : Reparto σ => Visible r.hecho.err)
      visible_zero ?_
    rintro r - - -
    exact visible_ordena codigos _ _ _ _ _
  rw [escribeFila]
  split_ifs
  · exact visible_ordena codigos _ _ _ _ _
  · exact piezas

theorem visible_processLine {action : Action} {checksum : UInt8} {fuel : Nat} {p : Pasada}
    {pila : Nat → UInt8} {fila : Fila} {s s' : Sesion σ} {err : Nat}
    (acaba : processLine enlace action checksum fuel p pila fila s = some (err, s')) :
    Visible err := by
  rw [processLine] at acaba
  split_ifs at acaba
  · rw [processMetaRow] at acaba
    split_ifs at acaba
    · obtain ⟨leida, -, acaba⟩ := Option.bind_eq_some_iff.mp acaba
      cases leida with
      | error err' =>
          obtain ⟨rfl, rfl⟩ := Prod.mk.inj (Option.some.inj acaba)
          exact visible_codigo err'
      | ok leido =>
          obtain ⟨hecho, manda, acaba⟩ := Option.bind_eq_some_iff.mp acaba
          obtain ⟨rfl, rfl⟩ := Prod.mk.inj (Option.some.inj acaba)
          rw [setEncryptionInitialVector] at manda
          split_ifs at manda
          rw [← Option.some.inj manda]
          exact visible_ordena codigos _ _ _ _ _
    · obtain ⟨rfl, rfl⟩ := Prod.mk.inj (Option.some.inj acaba)
      decide
  · obtain ⟨fila', -, acaba⟩ := Option.bind_eq_some_iff.mp acaba
    split_ifs at acaba
    · obtain ⟨rfl, rfl⟩ := Prod.mk.inj (Option.some.inj acaba)
      cases action with
      | program => exact visible_escribeFila codigos _ _ _ _ _ _
      | erase => exact visible_ordena codigos _ _ _ _ _
      | verify => exact visible_escribeFila codigos _ _ _ _ _ _
    · obtain ⟨rfl, rfl⟩ := Prod.mk.inj (Option.some.inj acaba)
      exact visible_codigo _
  · obtain ⟨rfl, rfl⟩ := Prod.mk.inj (Option.some.inj acaba)
    decide

theorem visible_processLines {action : Action} {checksum : UInt8} {fuel vueltas : Nat}
    {aborta : Nat → Bool} {pila : Nat → Nat → UInt8} {fila : Nat → Fila} {lector : Lector}
    {vistas vistas' : UInt32} {s s' : Sesion σ} {err : Nat}
    (acaba : processLines enlace action checksum fuel aborta pila fila vueltas lector vistas s =
      some (err, vistas', s')) : Visible err := by
  induction vueltas generalizing lector vistas s with
  | zero => simp [processLines] at acaba
  | succ vueltas inductionHypothesis =>
      rw [processLines] at acaba
      dsimp only at acaba
      split_ifs at acaba
      · obtain ⟨rfl, -, rfl⟩ := acaba
        decide
      · obtain ⟨⟨err', s''⟩, linea, acaba⟩ := Option.bind_eq_some_iff.mp acaba
        dsimp only at acaba
        by_cases exito : err' = 0
        · rw [if_pos exito] at acaba
          exact inductionHypothesis acaba
        · rw [if_neg exito] at acaba
          obtain ⟨rfl, -, rfl⟩ := acaba
          exact visible_processLine codigos linea
      · obtain ⟨rfl, -, rfl⟩ := acaba
        decide
      · obtain ⟨rfl, -, rfl⟩ := acaba
        exact visible_codigo _

theorem visible_verifyApplication (checksum appId : UInt8) (pila : Nat → UInt8) (s : Sesion σ) :
    Visible (verifyApplication enlace checksum appId pila s).err := by
  rw [verifyApplication]
  split_ifs
  · exact (by decide : Visible 0x08)
  · exact visible_ordena codigos _ _ _ _ _

theorem visible_startBootloadOperation {checksum : UInt8} {expSiId : UInt32} {expSiRev : UInt8}
    {productID : UInt32} {pila : Nat → UInt8} {s : Sesion σ} {hecho : Hecho σ}
    (acaba : startBootloadOperation enlace checksum expSiId expSiRev productID pila s =
      some hecho) :
    Visible hecho.err ∨ hecho.err = errBtldrMask := by
  rw [startBootloadOperation] at acaba
  dsimp only at acaba
  split at acaba
  · have visible := visible_parseGenericCmdResult (transfiere enlace checksum
      (Orden.enterBootLoader productID) pila pila s).outBuf 8
      (baseCmdSize + (Orden.enterBootLoader productID).resultDataSize)
    split at acaba <;> rw [← Option.some.inj acaba] <;> refine Or.inl ?_
    · dsimp only
      split_ifs with _ malo
      · exact (by decide : Visible 0x06)
      · exact visible_errBtldrMask malo
      · exact visible
    · exact visible
  · obtain ⟨⟨valido, status⟩, -, acaba⟩ := Option.bind_eq_some_iff.mp acaba
    dsimp only at acaba
    split at acaba <;> rw [← Option.some.inj acaba]
    · by_cases malo : status = 0
      · subst malo
        exact Or.inr rfl
      · exact Or.inl (visible_errBtldrMask malo)
    · exact Or.inl (codigos _ _ _ _)

section RunAction

variable {action : Action} {fuel : Nat} {aborta : Nat → Bool} {pila : Nat → Nat → UInt8}
  {fila : Nat → Fila} {lector : Lector} {s : Sesion σ} {fin : Fin σ}

theorem visible_recorreLineas {checksum : UInt8} {hecho : Hecho σ} {vistas : UInt32} {err : Nat}
    (visible : Visible hecho.err)
    (acaba : recorreLineas enlace action fuel aborta pila fila checksum lector hecho =
      some (err, vistas, s)) : Visible err := by
  rw [recorreLineas] at acaba
  split_ifs at acaba
  · exact visible_processLines codigos acaba
  · obtain ⟨rfl, -, -⟩ := acaba
    exact visible

theorem visible_terminaCarga {cabecera : Cabecera} {dataLines vistas : UInt32} {err : Nat}
    (visible : Visible err) :
    Visible (terminaCarga enlace action fuel pila cabecera dataLines err vistas s).err := by
  rw [terminaCarga]
  dsimp only
  split_ifs
  · exact visible_verifyApplication codigos _ _ _ _
  · exact visible
  · exact visible

/-- Nothing is left of one error that is none: the command to enter was not answered as it
should be, but what came was a packet with no error in it.  Nothing has been programmed. -/
theorem visible_runBootloader {cabecera : Cabecera} {a : AppInfo}
    (acaba : runBootloader enlace action fuel aborta pila fila cabecera a lector s = some fin) :
    Visible fin.err ∨ fin.err = errBtldrMask ∧ fin.sesion.enviadas = s.enviadas ++
      [Orden.enterBootLoader cabecera.productID, .exitBootLoader].map
        (Orden.trama cabecera.chksum) := by
  obtain ⟨entra, empieza, acaba⟩ := Option.bind_eq_some_iff.mp acaba
  obtain ⟨⟨err, vistas, s'⟩, lineas, termina⟩ := Option.bind_eq_some_iff.mp acaba
  have termina := Option.some.inj termina
  rcases visible_startBootloadOperation codigos empieza with visible | mascara
  · refine Or.inl ?_
    rw [← termina]
    refine visible_terminaCarga codigos (visible_recorreLineas codigos ?_ lineas)
    split_ifs
    · exact visible_ordena codigos _ _ _ _ _
    · exact visible
  · refine Or.inr ?_
    have falla : entra.err ≠ 0 := by
      rw [mascara]
      decide
    rw [if_neg falla, recorreLineas, if_neg falla] at lineas
    obtain ⟨rfl, rfl, rfl⟩ := lineas
    have sale : errCommMask &&& entra.err ≠ errCommMask := by
      rw [mascara]
      decide
    rw [terminaCarga, if_neg fun verifica => falla verifica.1, if_pos sale] at termina
    rw [← termina]
    refine ⟨mascara, ?_⟩
    rw [enviadas_endBootloadOperation, enviadas_startBootloadOperation empieza, List.append_assoc]
    rfl

end RunAction

end Codigos

/-! ## `UpdateTask` -/

section UpdateTask

variable {σ : Type}

/-- `UpdateTask`, whose variable for the result of the operation has eight bits; with
what has been sent.  A file that is not there, or is empty, cannot be opened. -/
def updateTask (enlace : Enlace σ) (fuel : Nat) (aborta : Nat → Bool) (pila : Nat → Nat → UInt8)
    (fila : Nat → Fila) (buffer : Nat → UInt8) (malos : Bool) (linea : σ) (s : Cargador) :
    Option (Cargador × List (List UInt8)) :=
  let s := s.updateEmpieza malos
  match s.act.spiffs.updateFile with
  | none | some [] => some (s.updateTermina (UInt8.ofNat Cyret.errFile.codigo != 0), [])
  | some fichero =>
      (runAction enlace .program fuel aborta pila fila ⟨fichero, buffer⟩ ⟨linea, []⟩).map
        fun fin => (s.updateTermina (UInt8.ofNat fin.err != 0), fin.sesion.enviadas)

/-- The file that is installed: the firmware before takes its place after too many bad
restarts, if there is one. -/
def instalado (malos : Bool) (fs : Spiffs) : Option (List UInt8) :=
  if malos && fs.montado && fs.oldFile.isSome then fs.oldFile else fs.updateFile

/-- The file that is left behind it. -/
def anterior (malos : Bool) (fs : Spiffs) : Option (List UInt8) :=
  if malos && fs.montado && fs.oldFile.isSome then none else fs.oldFile

/-- The commands of the whole file have been sent, those of all its rows, and the one to
leave the bootloader. -/
def Programada (fichero : List UInt8) (enviadas : List (List UInt8)) : Prop :=
  ∃ cabeza lineas, textos fichero = cabeza :: lineas ∧
    enviadas = (guion .program (.de (hexBytes cabeza)) (metadatos lineas) lineas ++
      [Orden.exitBootLoader]).map (Orden.trama (Cabecera.de (hexBytes cabeza)).chksum) ∧
    (∀ linea ∈ lineas, Admitida linea) ∧
    cargadas [] (guion .program (.de (hexBytes cabeza)) (metadatos lineas) lineas) =
      (lineas.filterMap filaDe).map fun fila => (fila.1, checksum32 fila.2, fila.2)

/-- The bootloader has been entered and left. -/
def SoloEntrada (fichero : List UInt8) (enviadas : List (List UInt8)) : Prop :=
  ∃ cabeza lineas, textos fichero = cabeza :: lineas ∧
    enviadas = [Orden.enterBootLoader (Cabecera.de (hexBytes cabeza)).productID,
      .exitBootLoader].map (Orden.trama (Cabecera.de (hexBytes cabeza)).chksum)

theorem files_updateEmpieza (s : Cargador) (malos : Bool) :
    (s.updateEmpieza malos).act.spiffs.updateFile = instalado malos s.act.spiffs ∧
      (s.updateEmpieza malos).act.spiffs.oldFile = anterior malos s.act.spiffs := by
  unfold Cargador.updateEmpieza instalado anterior
  dsimp only
  split_ifs
  · exact ⟨rfl, rfl⟩
  · exact ⟨rfl, rfl⟩

theorem files_updateTermina {s : Cargador} (instala : 0 < s.instalan) (err : Bool) :
    (s.updateTermina err).act.spiffs.updateFile =
        (if err then s.act.spiffs.updateFile else none) ∧
      (s.updateTermina err).act.spiffs.oldFile =
        if err then s.act.spiffs.oldFile else s.act.spiffs.updateFile := by
  rw [Cargador.updateTermina, if_pos instala]
  dsimp only
  split_ifs
  · exact ⟨rfl, rfl⟩
  · exact ⟨rfl, rfl⟩

/-- What is sent when nothing is left of the error: all commands of the file, or those to
enter and to leave. -/
theorem programada_of_runAction {enlace : Enlace σ} (codigos : enlace.Codigos) {fuel : Nat}
    {aborta : Nat → Bool} {pila : Nat → Nat → UInt8} {fila : Nat → Fila} {buffer : Nat → UInt8}
    {linea : σ} {fichero : List UInt8} (cabe : Cabe fichero)
    (legibles : ∀ l ∈ lines saltoLinea fichero, Legible l) {fin : Fin σ}
    (acaba : runAction enlace .program fuel aborta pila fila ⟨fichero, buffer⟩ ⟨linea, []⟩ =
      some fin) (nada : fin.err % 256 = 0) :
    Programada fichero fin.sesion.enviadas ∨ SoloEntrada fichero fin.sesion.enviadas := by
  obtain ⟨err, _, falla, rfl⟩ |
      ⟨cabeza, a, lector, cabe', legibles', partes, cuenta, dicen, carga⟩ :=
    runAction_cases cabe legibles acaba
  · exact absurd (visible_codigo err nada) (codigo_ne_zero falla)
  rcases visible_runBootloader codigos carga with visible | ⟨-, solo⟩
  · obtain ⟨hechas, salida, entrega⟩ := runBootloader_entrega cabe' legibles' cuenta dicen carga
    obtain ⟨rfl, rfl, admitidas, -, cargan⟩ := entrega.completa (visible nada)
    refine Or.inl ⟨cabeza, _, partes, ?_, admitidas, cargan rfl⟩
    rw [entrega.enviadas, List.nil_append]
  · exact Or.inr ⟨cabeza, _, partes, by rw [solo, List.nil_append]⟩

/-- The charger with a file that has been transferred. -/
def conFichero (fichero : List UInt8) : Cargador :=
  .arranque (.arranque ⟨true, some fichero, none⟩)

/-- A line on which no transfer succeeds, and what has come is an empty packet. -/
def niegaTodo : Enlace Unit where
  transferData _ _ _ _ :=
    (0x2044, Buffer.write 0 (trama 0 0 []) fun _ => 0, ())
  write _ _ := ()

/-- Then the file is taken for installed. -/
example : ((updateTask niegaTodo 60 (fun _ => false) (fun _ _ => 0)
    (fun _ => ⟨.success, 0, fun _ => 0, 0, 0⟩) (fun _ => 0) false () (conFichero ficheroMinimo)).map
      fun hecho => (hecho.1.act.spiffs.oldFile, hecho.2.length)) =
    some (some ficheroMinimo, 2) := by
  decide +kernel

end UpdateTask

end VeltiumCharger.Cybtldr
