import Mathlib.Tactic.Common

/-!
# Where firmware is stored

The firmware of the other processor is a file in a partition of its own, mounted
and unmounted as needed.  The firmware of the charger itself is written by the
`Update` object into the application partition that is not running: in sectors,
from a buffer, and accepted at the end when every byte announced has been
written.

Faults of the flash memory are arguments of the operations.
-/

namespace VeltiumCharger.Actualizacion

/-- A byte of `crc32`: its bits, the lowest first. -/
def crcByte (r : UInt32) (b : UInt8) : UInt32 :=
  ((List.range 8).foldl (fun (rb : UInt32 × UInt8) _ =>
    let flag := rb.2 &&& 1 != (rb.1 &&& 1).toUInt8
    let r := (rb.1 >>> 1) &&& 0x7FFFFFFF
    (if flag then r ^^^ 0xEDB88320 else r, rb.2 >>> 1)) (r, b)).1

/-- `crc32`: the result is given with its bytes reversed. -/
def crc32 (c : List UInt8) (checksum : UInt32) : UInt32 :=
  let r := c.foldl crcByte checksum ^^^ 0xFFFFFFFF
  ((r &&& 0x000000FF) <<< 24) ||| ((r &&& 0x0000FF00) <<< 8) ||| ((r &&& 0x00FF0000) >>> 8) |||
    ((r &&& 0xFF000000) >>> 24)

/-! ## The file -/

/-- The partition of the firmware of the other processor, with
`PSOC_UPDATE_FILE` and `PSOC_UPDATE_OLD_FILE`. -/
structure Spiffs where
  montado : Bool
  updateFile : Option (List UInt8)
  oldFile : Option (List UInt8)
  deriving DecidableEq, Repr

namespace Spiffs

variable (fs : Spiffs)

/-- `SPIFFS.begin` and `SPIFFS.end` -/
def montar (montado : Bool) : Spiffs :=
  { fs with montado := montado }

/-- `SPIFFS.format` -/
def format : Spiffs :=
  { fs with updateFile := none, oldFile := none }

/-- `SPIFFS.remove(PSOC_UPDATE_FILE)`, of a partition that is mounted. -/
def removeUpdateFile : Spiffs :=
  if fs.montado then { fs with updateFile := none } else fs

/-- `SPIFFS.open(PSOC_UPDATE_FILE, FILE_WRITE)`: a file opened is empty. -/
def abrir (apertura : Bool) : Spiffs :=
  if apertura then { fs with updateFile := some [] } else fs

/-- The contents read from `PSOC_UPDATE_FILE`, if it can be opened. -/
def leer : Option (List UInt8) :=
  if fs.montado then fs.updateFile else none

/-- `size()` of `PSOC_UPDATE_FILE` opened for reading: zero when it cannot be. -/
def size : Nat :=
  (fs.leer.map List.length).getD 0

/-- Bytes appended to `PSOC_UPDATE_FILE`. -/
def anadir (bytes : List UInt8) : Spiffs :=
  { fs with updateFile := fs.updateFile.map (· ++ bytes) }

@[simp]
theorem anadir_nil : fs.anadir [] = fs := by
  simp [anadir]

theorem leer_anadir (bytes : List UInt8) :
    (fs.anadir bytes).leer = fs.leer.map (· ++ bytes) := by
  unfold leer anadir
  dsimp only
  split_ifs
  · rfl
  · rfl

end Spiffs

/-! ## The `Update` object -/

/-- `SPI_FLASH_SEC_SIZE` -/
def secSize : Nat := 4096

/-- `ESP_IMAGE_HEADER_MAGIC` -/
def headerMagic : UInt8 := 0xE9

/-- The size of an application partition. -/
def particionApp : Nat := 0x200000

/-- `UPDATE_SIZE_UNKNOWN` -/
def sizeUnknown : Nat := 0xFFFFFFFF

/-- The object: `_size` bytes are expected, zero when none is running; `flash`
are the `_progress` bytes written so far. -/
structure UpdateClass where
  size : Nat
  flash : List UInt8
  buffer : List UInt8
  error : Bool
  deriving DecidableEq, Repr

namespace UpdateClass

/-- The object before its first use. -/
def inicial : UpdateClass :=
  ⟨0, [], [], false⟩

/-- `_abort` -/
def abort : UpdateClass :=
  ⟨0, [], [], true⟩

variable (u : UpdateClass)

/-- `begin`; `memoria` tells whether the buffer could be allocated. -/
def beginUpdate (size : Nat) (memoria : Bool) : UpdateClass × Bool :=
  if 0 < u.size then (u, false)
  else if size = 0 then (abort, false)
  else
    let size' := if size = sizeUnknown then particionApp else size
    if particionApp < size' then (abort, false)
    else if memoria then (⟨size', [], [], false⟩, true)
    else (inicial, false)

/-- `remaining()`, a `size_t` -/
def remaining : Nat :=
  (u.size + UInt32.size - u.flash.length) % UInt32.size

/-- `_writeBuffer`: the first byte of all has to be the magic one. -/
def writeBuffer (flashOk : Bool) : UpdateClass × Bool :=
  if u.flash.isEmpty && u.buffer.head? != some headerMagic then (abort, false)
  else if flashOk then ({ u with flash := u.flash ++ u.buffer, buffer := [] }, true)
  else (abort, false)

/-- The copies of `write` into the buffer: a full buffer is written when another
byte follows. -/
def copiar (flashOk : Bool) : UpdateClass → List UInt8 → UpdateClass × Bool
  | u, [] => (u, true)
  | u, byte :: resto =>
    if u.buffer.length = secSize then
      let escrito := u.writeBuffer flashOk
      if escrito.2 then copiar flashOk { escrito.1 with buffer := [byte] } resto
      else escrito
    else copiar flashOk { u with buffer := u.buffer ++ [byte] } resto

/-- `write`, and whether it returns the length of the data. -/
def write (flashOk : Bool) (data : List UInt8) : UpdateClass × Bool :=
  if u.error || u.size = 0 then (u, data.isEmpty)
  else if u.remaining < data.length then (abort, false)
  else
    let copiado := copiar flashOk u data
    if copiado.2 && copiado.1.buffer.length = copiado.1.remaining then
      let escrito := copiado.1.writeBuffer flashOk
      (escrito.1, escrito.2 || data.isEmpty)
    else copiado

/-- `end`; `verifica` tells whether the partition passes the checks of the boot
loader and could be selected, with what has been written as its image. -/
def endUpdate (verifica : Bool) : UpdateClass × Bool :=
  if u.error || u.size = 0 then (u, false)
  else if u.flash.length ≠ u.size then (abort, false)
  else if verifica then (inicial, true)
  else (abort, false)

/-- The bytes taken so far, in the partition or in the buffer. -/
def datos : List UInt8 :=
  u.flash ++ u.buffer

variable {u}

theorem writeBuffer_cases (flashOk : Bool) :
    u.writeBuffer flashOk = (abort, false) ∨
      u.writeBuffer flashOk = ({ u with flash := u.datos, buffer := [] }, true) := by
  unfold writeBuffer
  split_ifs
  · exact .inl rfl
  · exact .inr rfl
  · exact .inl rfl

/-- A copy either fails, and nothing is left of the update, or appends. -/
theorem copiar_cases (flashOk : Bool) (data : List UInt8) :
    copiar flashOk u data = (abort, false) ∨
      ∃ otro, copiar flashOk u data = (otro, true) ∧ otro.size = u.size ∧ otro.error = u.error ∧
        otro.datos = u.datos ++ data := by
  induction data generalizing u with
  | nil => exact .inr ⟨u, rfl, rfl, rfl, (List.append_nil _).symm⟩
  | cons byte resto ih =>
      unfold copiar
      by_cases lleno : u.buffer.length = secSize
      · rw [if_pos lleno]
        rcases @writeBuffer_cases u flashOk with falla | escrito
        · rw [falla]
          exact .inl rfl
        · rw [escrito]
          dsimp only
          rw [if_pos rfl]
          rcases @ih { u with flash := u.datos, buffer := [byte] } with falla | ⟨otro, igual, mismo⟩
          · exact .inl falla
          · exact .inr ⟨otro, igual, mismo.1, mismo.2.1, by rw [mismo.2.2]; simp [datos]⟩
      · rw [if_neg lleno]
        rcases @ih { u with buffer := u.buffer ++ [byte] } with falla | ⟨otro, igual, mismo⟩
        · exact .inl falla
        · exact .inr ⟨otro, igual, mismo.1, mismo.2.1, by rw [mismo.2.2]; simp [datos]⟩

/-- A write of an update that is running either ends it or appends. -/
theorem write_cases (flashOk : Bool) (data : List UInt8) (corre : u.size ≠ 0)
    (sana : u.error = false) :
    (u.write flashOk data).1 = abort ∨
      (u.write flashOk data).1.size = u.size ∧ (u.write flashOk data).1.error = false ∧
        (u.write flashOk data).1.datos = u.datos ++ data := by
  have sigue : (u.error || decide (u.size = 0)) = false := by simp [sana, corre]
  unfold write
  rw [if_neg (by rw [sigue]; exact Bool.false_ne_true)]
  by_cases largo : u.remaining < data.length
  · rw [if_pos largo]
    exact .inl rfl
  · rw [if_neg largo]
    rcases @copiar_cases u flashOk data with falla | ⟨otro, igual, size, error, datos_eq⟩
    · rw [falla]
      exact .inl rfl
    · rw [igual]
      dsimp only
      by_cases completo : (true && decide (otro.buffer.length = otro.remaining)) = true
      · rw [if_pos completo]
        rcases @writeBuffer_cases otro flashOk with falla | escrito
        · rw [falla]
          exact .inl rfl
        · rw [escrito]
          exact .inr ⟨size, error.trans sana, by simpa [datos] using datos_eq⟩
      · rw [if_neg completo]
        exact .inr ⟨size, error.trans sana, datos_eq⟩

theorem write_parado (flashOk : Bool) (data : List UInt8) (parado : u.size = 0) :
    (u.write flashOk data).1 = u := by
  unfold write
  rw [if_pos (by simp [parado])]

/-- An update that has come to its end has written all it announced. -/
theorem endUpdate_cases (verifica : Bool) :
    (u.endUpdate verifica).2 = true ∧ u.size ≠ 0 ∧ u.error = false ∧ u.flash.length = u.size ∧
        (u.endUpdate verifica).1 = inicial ∨
      (u.endUpdate verifica).2 = false ∧ ((u.endUpdate verifica).1 = u ∧ (u.error ∨ u.size = 0) ∨
        (u.endUpdate verifica).1 = abort) := by
  unfold endUpdate
  split_ifs with parado corto bien
  · exact .inr ⟨rfl, .inl ⟨rfl, by simpa using parado⟩⟩
  · exact .inr ⟨rfl, .inr rfl⟩
  · left
    simp only [Bool.or_eq_true, decide_eq_true_eq, not_or] at parado
    exact ⟨rfl, parado.2, Bool.of_not_eq_true parado.1, not_not.mp corto, rfl⟩
  · exact .inr ⟨rfl, .inr rfl⟩

/-- Nothing runs behind an `end`. -/
theorem size_endUpdate (verifica : Bool) (sana : u.error = true → u.size = 0) :
    (u.endUpdate verifica).1.size = 0 := by
  rcases @endUpdate_cases u verifica with ⟨-, -, -, -, fin⟩ | ⟨-, ⟨igual, error | parado⟩ | fin⟩
  · rw [fin]
    rfl
  · rw [igual]
    exact sana error
  · rw [igual]
    exact parado
  · rw [fin]
    rfl

theorem endUpdate_parado (verifica : Bool) (parado : u.size = 0) :
    u.endUpdate verifica = (u, false) := by
  unfold endUpdate
  rw [if_pos (by simp [parado])]

/-- What `begin` leaves of an object that was not running: nothing, or an update
of the size announced, or of the partition when the size is unknown. -/
theorem beginUpdate_cases (size : Nat) (memoria : Bool) (parado : u.size = 0) :
    ((u.beginUpdate size memoria).2 = false ∧ (u.beginUpdate size memoria).1.size = 0) ∨
      u.beginUpdate size memoria =
        (⟨if size = sizeUnknown then particionApp else size, [], [], false⟩, true) := by
  have libre : ¬ 0 < u.size := by omega
  unfold beginUpdate
  rw [if_neg libre]
  by_cases nulo : size = 0
  · rw [if_pos nulo]
    exact .inl ⟨rfl, rfl⟩
  · rw [if_neg nulo]
    dsimp only
    generalize (if size = sizeUnknown then particionApp else size) = size'
    by_cases grande : particionApp < size'
    · rw [if_pos grande]
      exact .inl ⟨rfl, rfl⟩
    · rw [if_neg grande]
      cases memoria with
      | true => exact .inr rfl
      | false => exact .inl ⟨rfl, rfl⟩

end UpdateClass

end VeltiumCharger.Actualizacion
