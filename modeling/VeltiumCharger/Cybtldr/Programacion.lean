import VeltiumCharger.Cybtldr.Fichero
import VeltiumCharger.Cybtldr.Ordenes

/-!
# Programming the other processor

`CyBtldr_RunAction` reads a firmware file line by line and sends its rows to the
bootloader: a command to enter it, the metadata, the rows and a command to verify the
application, each one when the reply to the one before it was good.  A row that is too
long for a command goes in pieces.

What `CyBtldr_TransferData` does with a command is any function of the line; the real one
is one of them.
-/

namespace VeltiumCharger.Cybtldr

open VeltiumCharger.Buffer VeltiumCharger.Lines VeltiumCharger.Loop VeltiumCharger.Checked

/-! ## The line and what goes over it -/

/-- The codes of `cybtldr_utils.h` that reading a file returns, as numbers. -/
def Cyret.codigo : Cyret → Nat
  | success => 0x00
  | errFile => 0x01
  | errEof => 0x02
  | errLength => 0x03
  | errData => 0x04
  | errCmd => 0x05

/-- `CYRET_ERR_COMM_MASK` -/
def errCommMask : Nat := 0x2000

/-- `CYRET_ERR_BTLDR_MASK` -/
def errBtldrMask : Nat := 0x4000

/-- `CyBtldr_TransferData` and `write` on a line: the first takes a command, the size of
its reply and what `outBuf` holds, and returns a code and `outBuf`. -/
structure Enlace (σ : Type) where
  transferData : List UInt8 → Nat → (Nat → UInt8) → σ → Nat × (Nat → UInt8) × σ
  write : List UInt8 → σ → σ

/-- The line, and the commands that have been sent, in their order. -/
structure Sesion (σ : Type) where
  linea : σ
  enviadas : List (List UInt8)

/-- How a function ends: its code, `outBuf` and the line. -/
structure Hecho (σ : Type) where
  err : Nat
  outBuf : Nat → UInt8
  sesion : Sesion σ

/-- `ParseGenericCmdResult`, and the status it reads. -/
def parseGenericCmdResult (cmdBuf : Nat → UInt8) (dataSize expectedSize : Nat) : Nat × UInt8 :=
  let cmdSize := dataSize + baseCmdSize
  let status := cmdBuf 1
  let err :=
    if cmdSize ≠ expectedSize then Cyret.errLength.codigo
    else if status ≠ 0 then errBtldrMask ||| status.toNat
    else if cmdBuf 0 ≠ cmdStart ∨ cmdBuf 2 ≠ UInt8.ofNat dataSize ∨
        cmdBuf 3 ≠ UInt8.ofNat (dataSize / 256) ∨ cmdBuf (cmdSize - 1) ≠ cmdStop then
      Cyret.errData.codigo
    else 0
  (err, status)

section Protocolo

variable {σ : Type} (enlace : Enlace σ) (checksum : UInt8)

/-- A command is made in `inBuf` and transferred. -/
def transfiere (o : Orden) (inBuf outBuf : Nat → UInt8) (s : Sesion σ) : Hecho σ :=
  let comando := o.create checksum inBuf
  let orden := (List.range comando.cmdSize).map comando.cmdBuf
  let (err, outBuf, linea) := enlace.transferData orden comando.resSize outBuf s.linea
  ⟨err, outBuf, ⟨linea, s.enviadas ++ [orden]⟩⟩

/-- A command whose reply has no more than a status, or whose data are looked at
afterwards: it is made, transferred, and the reply tested. -/
def ordena (o : Orden) (inBuf outBuf : Nat → UInt8) (s : Sesion σ) : Hecho σ :=
  let hecho := transfiere enlace checksum o inBuf outBuf s
  if hecho.err = 0 then
    let (err, status) := parseGenericCmdResult hecho.outBuf o.resultDataSize
      (baseCmdSize + o.resultDataSize)
    { hecho with err := if status ≠ 0 then errBtldrMask ||| status.toNat else err }
  else hecho

/-! ## Rows -/

/-- The variables of `SendData` beside the line. -/
structure Reparto (σ : Type) where
  offset : Nat
  hecho : Hecho σ

/-- `while ((CYRET_SUCCESS == err) && ((size - (*offset)) > maxRemainingDataSize))` -/
def Reparto.sigue (size maxRemainingDataSize : Nat) (r : Reparto σ) : Bool :=
  r.hecho.err == 0 && decide (maxRemainingDataSize < size - r.offset)

/-- A round of `SendData` on the row `buf`. -/
def Reparto.trozo (buf : List UInt8) (inBuf : Nat → UInt8) (r : Reparto σ) : Reparto σ :=
  let subBufSize := min (128 - 7) buf.length
  let cmdLen := if subBufSize < buf.length - r.offset then subBufSize else buf.length - r.offset
  ⟨r.offset + cmdLen,
    ordena enlace checksum (.sendData ((buf.drop r.offset).take cmdLen)) inBuf r.hecho.outBuf
      r.hecho.sesion⟩

/-- `SendData` -/
def sendData (buf : List UInt8) (maxRemainingDataSize : Nat) (inBuf outBuf : Nat → UInt8)
    (s : Sesion σ) : Reparto σ :=
  whileFuel (Reparto.sigue buf.length maxRemainingDataSize)
    (Reparto.trozo enlace checksum buf inBuf) buf.length ⟨0, 0, outBuf, s⟩

/-- What `CyBtldr_ProgramRow` and `CyBtldr_VerifyRow` have in common: all but the last
piece of the row, and then the command with the rest. -/
def escribeFila (orden : UInt32 → UInt32 → List UInt8 → Orden) (address : UInt32)
    (buf : List UInt8) (pila : Nat → UInt8) (s : Sesion σ) : Hecho σ :=
  let chksum := computeChecksum32bit (fun i => buf.getD i 0) buf.length
  let r := sendData enlace checksum buf (128 - 15) pila pila s
  if r.hecho.err = 0 then
    ordena enlace checksum (orden address chksum (buf.drop r.offset)) pila r.hecho.outBuf
      r.hecho.sesion
  else r.hecho

/-- `CyBtldr_ProgramRow` -/
def programRow (address : UInt32) (buf : List UInt8) (pila : Nat → UInt8) (s : Sesion σ) :
    Hecho σ :=
  escribeFila enlace checksum .programData address buf pila s

/-- `CyBtldr_VerifyRow`, between the entry and the end of the operation. -/
def verifyRow (address : UInt32) (buf : List UInt8) (pila : Nat → UInt8) (s : Sesion σ) :
    Hecho σ :=
  escribeFila enlace checksum .verifyData address buf pila s

/-- `CyBtldr_EraseRow` -/
def eraseRow (address : UInt32) (pila : Nat → UInt8) (s : Sesion σ) : Hecho σ :=
  ordena enlace checksum (.eraseData address) pila pila s

/-- `CyBtldr_SetApplicationMetaData` -/
def setApplicationMetaData (appId : UInt8) (appStartAddr appSize : UInt32) (pila : Nat → UInt8)
    (s : Sesion σ) : Hecho σ :=
  ordena enlace checksum
    (.setApplicationMetadata appId (fillData32 appStartAddr ++ fillData32 appSize)) pila pila s

/-- `CyBtldr_SetEncryptionInitialVector`; a vector that does not fit in `inBuf` has no
result. -/
def setEncryptionInitialVector (buf : List UInt8) (pila : Nat → UInt8) (s : Sesion σ) :
    Option (Hecho σ) :=
  if (Orden.setEncryptionInitialVector buf).Cabe then
    some (ordena enlace checksum (.setEncryptionInitialVector buf) pila pila s)
  else none

/-- `CyBtldr_VerifyApplication`: the data of the reply say whether the checksum is right. -/
def verifyApplication (appId : UInt8) (pila : Nat → UInt8) (s : Sesion σ) : Hecho σ :=
  let hecho := ordena enlace checksum (.verifyChecksum appId) pila pila s
  if hecho.err = 0 ∧ hecho.outBuf 4 = 0 then { hecho with err := 0x08 } else hecho

/-! ## The operation -/

/-- Four bytes of a reply, the lowest first. -/
def lee32 (cmdBuf : Nat → UInt8) : UInt32 :=
  ((cmdBuf 7).toUInt32 <<< 24) ||| ((cmdBuf 6).toUInt32 <<< 16) ||| ((cmdBuf 5).toUInt32 <<< 8) |||
    (cmdBuf 4).toUInt32

/-- `CyBtldr_StartBootloadOperation`; when the transfer fails and what is in `outBuf` is a
packet, its status is the error. -/
def startBootloadOperation (expSiId : UInt32) (expSiRev : UInt8) (productID : UInt32)
    (pila : Nat → UInt8) (s : Sesion σ) : Option (Hecho σ) :=
  let o := Orden.enterBootLoader productID
  let hecho := transfiere enlace checksum o pila pila s
  if hecho.err = 0 then
    let (err, status) := parseGenericCmdResult hecho.outBuf 8 (baseCmdSize + o.resultDataSize)
    if err = 0 then
      let err := if status ≠ 0 then errBtldrMask ||| status.toNat else err
      let err := if expSiId ≠ lee32 hecho.outBuf ∨ expSiRev ≠ hecho.outBuf 8 then 0x06 else err
      some { hecho with err := err }
    else some { hecho with err := err }
  else do
    let (valido, status) ← tryParseParketStatus checksum maxCommandSize hecho.outBuf
      (baseCmdSize + o.resultDataSize) 0
    if valido = 0 then some { hecho with err := errBtldrMask ||| status.toNat } else some hecho

/-- `CyBtldr_EndBootloadOperation` -/
def endBootloadOperation (pila : Nat → UInt8) (s : Sesion σ) : Sesion σ :=
  let comando := Orden.exitBootLoader.create checksum pila
  let orden := (List.range comando.cmdSize).map comando.cmdBuf
  ⟨enlace.write orden s.linea, s.enviadas ++ [orden]⟩

end Protocolo

/-! ## The header of the file -/

/-- `CyBtldr_CheckCyacdFileVersion` -/
def checkCyacdFileVersion (bufSize : UInt32) (leidos : Nat) (header : Nat → UInt8) :
    Option Cyret :=
  if bufSize < 2 then some .errFile
  else do
    let alto ← load leidos header 0
    let bajo ← load leidos header 1
    some (if (fromHex alto <<< 4 ||| fromHex bajo) ≠ 1 then .errData else .success)

/-- What the header says. -/
structure Cabecera where
  siliconId : UInt32
  siliconRev : UInt8
  chksum : UInt8
  appID : UInt8
  productID : UInt32

/-- `CyBtldr_ParseHeader` -/
def parseHeader (fuel : Nat) (bufSize : UInt32) (leidos : Nat) (buffer rowData : Nat → UInt8) :
    Option (Except Cyret Cabecera) := do
  match ← fromAscii fuel bufSize leidos buffer rowData with
  | .error err => some (.error err)
  | .ok (rowSize, rowData) =>
      if rowSize = 12 then
        some (.ok ⟨parse4ByteValueLittleEndian fun k => rowData (1 + k), rowData 5, rowData 6,
          rowData 7, parse4ByteValueLittleEndian fun k => rowData (8 + k)⟩)
      else some (.error .errLength)

/-! ## The file -/

/-- `CyBtldr_Action` -/
inductive Action
  | program
  | erase
  | verify
  deriving DecidableEq, Repr

section Fichero

variable {σ : Type} (enlace : Enlace σ) (action : Action) (checksum : UInt8) (fuel : Nat)

/-- `ProcessDataRow`, without the count. -/
def processDataRow (p : Pasada) (pila : Nat → UInt8) (fila : Fila) (s : Sesion σ) :
    Option (Nat × Sesion σ) := do
  let fila ← parseCyAcd2RowData fuel p.size p.leidos p.lector.buffer pila fila
  if fila.err = .success then
    let buffer := (List.range fila.size.toNat).map fila.rowData
    let hecho :=
      match action with
      | .erase => eraseRow enlace checksum fila.address pila s
      | .program => programRow enlace checksum fila.address buffer pila s
      | .verify => verifyRow enlace checksum fila.address buffer pila s
    some (hecho.err, hecho.sesion)
  else some (fila.err.codigo, s)

/-- `ProcessMetaRow` -/
def processMetaRow (p : Pasada) (pila : Nat → UInt8) (s : Sesion σ) : Option (Nat × Sesion σ) :=
  if 5 ≤ p.size ∧ empieza p.lector.buffer eivMetaHeader then do
    match ← fromAscii fuel (p.size - 5) (p.leidos - 5) (fun k => p.lector.buffer (5 + k)) pila with
    | .error err => some (err.codigo, s)
    | .ok (bufSize, buffer) =>
        let hecho ← setEncryptionInitialVector enlace checksum
          ((List.range bufSize.toNat).map buffer) pila s
        some (hecho.err, hecho.sesion)
  else some (0, s)

def arroba : UInt8 := 0x40

/-- `switch (line[0])` -/
def processLine (p : Pasada) (pila : Nat → UInt8) (fila : Fila) (s : Sesion σ) :
    Option (Nat × Sesion σ) :=
  if p.lector.buffer 0 = arroba then processMetaRow enlace checksum fuel p pila s
  else if p.lector.buffer 0 = dosPuntos then
    processDataRow enlace action checksum fuel p pila fila s
  else some (0, s)

/-- `CYRET_ABORT` -/
def cyretAbort : Nat := 0xAB

/-- The loop over the lines, with the number of rows seen; `aborta` says in which rounds
`g_abort` is found set, and `pila` and `fila` what the locals of each round hold. -/
def processLines (aborta : Nat → Bool) (pila : Nat → Nat → UInt8) (fila : Nat → Fila) :
    Nat → Lector → UInt32 → Sesion σ → Option (Nat × UInt32 × Sesion σ)
  | 0, _, _, _ => none
  | vueltas + 1, lector, vistas, s =>
      if aborta vueltas then some (cyretAbort, vistas, s)
      else
        let p := readLine lector
        if p.err = .success then do
          let (err, s) ← processLine enlace action checksum fuel p (pila vueltas) (fila vueltas) s
          let vistas :=
            if p.lector.buffer 0 = dosPuntos ∧ err = 0 then vistas + 1 else vistas
          if err = 0 then processLines aborta pila fila vueltas p.lector vistas s
          else some (err, vistas, s)
        else some (if p.err = .errEof then 0 else p.err.codigo, vistas, s)

end Fichero

/-- How `CyBtldr_RunAction` ends, with the rows there are and those it has seen. -/
structure Fin (σ : Type) where
  err : Nat
  dataLines : UInt32
  vistas : UInt32
  sesion : Sesion σ

section RunAction

variable {σ : Type} (enlace : Enlace σ) (action : Action) (fuel : Nat) (aborta : Nat → Bool)
  (pila : Nat → Nat → UInt8) (fila : Nat → Fila)

/-- The loop, when there is no error before it. -/
def recorreLineas (checksum : UInt8) (lector : Lector) (hecho : Hecho σ) :
    Option (Nat × UInt32 × Sesion σ) :=
  if hecho.err = 0 then
    processLines enlace action checksum fuel aborta pila fila fuel lector 0 hecho.sesion
  else some (hecho.err, 0, hecho.sesion)

/-- What follows the loop: the application is verified, and the bootloader left unless
the line has failed. -/
def terminaCarga (cabecera : Cabecera) (dataLines : UInt32) (err : Nat) (vistas : UInt32)
    (s : Sesion σ) : Fin σ :=
  let checksum := cabecera.chksum
  if err = 0 ∧ (action = .program ∨ action = .verify) then
    let hecho := verifyApplication enlace checksum cabecera.appID (pila fuel) s
    ⟨hecho.err, dataLines, vistas, endBootloadOperation enlace checksum (pila fuel) hecho.sesion⟩
  else if errCommMask &&& err ≠ errCommMask then
    ⟨err, dataLines, vistas, endBootloadOperation enlace checksum (pila fuel) s⟩
  else ⟨err, dataLines, vistas, s⟩

/-- `CyBtldr_RunAction` from the command to enter the bootloader on. -/
def runBootloader (cabecera : Cabecera) (a : AppInfo) (lector : Lector) (s : Sesion σ) :
    Option (Fin σ) := do
  let checksum := cabecera.chksum
  let hecho ← startBootloadOperation enlace checksum cabecera.siliconId cabecera.siliconRev
    cabecera.productID (pila fuel) s
  let hecho :=
    if hecho.err = 0 then
      setApplicationMetaData enlace checksum cabecera.appID a.appStart a.appSize (pila fuel)
        hecho.sesion
    else hecho
  let (err, vistas, s) ← recorreLineas enlace action fuel aborta pila fila checksum lector hecho
  some (terminaCarga enlace action fuel pila cabecera a.dataLines err vistas s)

/-- `CyBtldr_RunAction` on an open file; `lector` has the file and what `line` holds. -/
def runAction (lector : Lector) (s : Sesion σ) : Option (Fin σ) :=
  let p := readLine lector
  if p.err = .success then do
    let version ← checkCyacdFileVersion p.size p.leidos p.lector.buffer
    if version = .success then
      match ← parseHeader fuel p.size p.leidos p.lector.buffer (pila fuel) with
      | .error err => some ⟨err.codigo, 0, 0, s⟩
      | .ok cabecera =>
          let (err, lector, a) ← parseCyAcdAppStartAndSize fuel pila (fila fuel) p.lector
          if err = .success then
            runBootloader enlace action fuel aborta pila fila cabecera a lector s
          else some ⟨err.codigo, a.dataLines, 0, s⟩
    else some ⟨version.codigo, 0, 0, s⟩
  else some ⟨p.err.codigo, 0, 0, s⟩

end RunAction

end VeltiumCharger.Cybtldr
