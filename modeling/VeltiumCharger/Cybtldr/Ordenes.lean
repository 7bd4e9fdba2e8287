import Mathlib.Tactic.IntervalCases
import VeltiumCharger.Actualizacion.Comprobacion
import VeltiumCharger.Cybtldr.Transferencia
import VeltiumCharger.Library.Buffer
import VeltiumCharger.Library.Checked

/-!
# The commands of the bootloader

A command is a frame: a start, a code, the length of its data, the data, a
checksum of all that and an end.  The checksum is a sum or a cyclic redundancy
check, as the header of the firmware file says; the data of a row have another
one of 32 bits, computed four bits at a time from a table.
-/

namespace VeltiumCharger.Cybtldr

open VeltiumCharger.Buffer VeltiumCharger.Checked VeltiumCharger.Crc
open VeltiumCharger.Actualizacion (bitsDe)

/-! ## Checksums -/

/-- `CRC_CHECKSUM`; every other value of `CyBtldr_Checksum` stands for the sum. -/
def crcChecksum : UInt8 :=
  0x01

/-- The body of the loop over the bits, on `crc` and `tmp`. -/
def crcBit16 (s : UInt16 × UInt16) : UInt16 × UInt16 :=
  let (crc, tmp) := s
  (if (crc &&& 0x0001) ^^^ (tmp &&& 0x0001) ≠ 0 then (crc >>> 1) ^^^ 0x8408 else crc >>> 1,
    tmp >>> 1)

/-- The body of the loop over the bytes. -/
def crcByte16 (crc : UInt16) (byte : UInt8) : UInt16 :=
  ((List.range 8).foldl (fun s _ => crcBit16 s) (crc, 0x00ff &&& byte.toUInt16)).1

/-- The end of the function: the bytes of `crc` change places. -/
def intercambia16 (crc : UInt16) : UInt16 :=
  (crc <<< 8) ||| (crc >>> 8 &&& 0xFF)

/-- `CyBtldr_ComputeChecksum16bit` -/
def computeChecksum16bit (checksum : UInt8) (buf : Nat → UInt8) (size : Nat) : UInt16 :=
  if checksum = crcChecksum then
    if size = 0 then ~~~0xffff
    else intercambia16 (~~~((List.range size).foldl (fun crc i => crcByte16 crc (buf i)) 0xffff))
  else
    1 + ~~~((List.range size).foldl (fun sum i => sum + (buf i).toUInt16) 0)

def g0 : UInt32 := 0x82F63B78
def g1 : UInt32 := (g0 >>> 1) &&& 0x7fffffff
def g2 : UInt32 := (g0 >>> 2) &&& 0x3fffffff
def g3 : UInt32 := (g0 >>> 3) &&& 0x1fffffff

/-- `table` -/
def table : Vector UInt32 16 :=
  #v[0, g3, g2, g2 ^^^ g3, g1, g1 ^^^ g3, g1 ^^^ g2, g1 ^^^ g2 ^^^ g3, g0, g0 ^^^ g3, g0 ^^^ g2,
    g0 ^^^ g2 ^^^ g3, g0 ^^^ g1, g0 ^^^ g1 ^^^ g3, g0 ^^^ g1 ^^^ g2, g0 ^^^ g1 ^^^ g2 ^^^ g3]

/-- Half a byte: `(crc >> 4) ^ table[crc & 0xF]` -/
def crcNibble32 (crc : UInt32) : UInt32 :=
  (crc >>> 4) ^^^ table.toList.getD (crc &&& 0xF).toNat 0

/-- The body of the loop over the bytes. -/
def crcByte32 (crc : UInt32) (byte : UInt8) : UInt32 :=
  crcNibble32 (crcNibble32 (crc ^^^ byte.toUInt32))

/-- `CyBtldr_ComputeChecksum32bit` -/
def computeChecksum32bit (buf : Nat → UInt8) (size : Nat) : UInt32 :=
  ~~~((List.range size).foldl (fun crc i => crcByte32 crc (buf i)) 0xFFFFFFFF)

/-! ## The checks they are -/

/-- The generator of the check of 16 bits, reflected. -/
def polinomio16 : BitVec 16 :=
  0x8408

/-- The generator of the check of 32 bits, reflected. -/
def polinomio32 : BitVec 32 :=
  0x82F63B78

theorem flag16_eq (crc tmp : UInt16) :
    ((crc &&& 0x0001) ^^^ (tmp &&& 0x0001) ≠ 0) =
      ((crc.toBitVec.getLsbD 0 ^^ tmp.toBitVec.getLsbD 0) = true) := by
  have hbit : ∀ x : UInt16, x &&& 0x0001 = if x.toBitVec.getLsbD 0 then 1 else 0 := by
    intro x
    apply UInt16.toBitVec_inj.mp
    refine (Actualizacion.and_one x.toBitVec).trans ?_
    cases x.toBitVec.getLsbD 0 <;> rfl
  rw [hbit, hbit]
  cases crc.toBitVec.getLsbD 0 <;> cases tmp.toBitVec.getLsbD 0 <;> decide

theorem crcByte16_toBitVec (crc : UInt16) (byte : UInt8) :
    (crcByte16 crc byte).toBitVec = shiftIn polinomio16 crc.toBitVec (lowFirst byte.toBitVec) := by
  have hbits : (List.range 8).map (0x00ff &&& byte.toUInt16).toBitVec.getLsbD =
      lowFirst byte.toBitVec := by
    apply List.map_congr_left
    intro i hi
    have hmask : (0x00ff : BitVec 16).getLsbD i = true := by
      have htable : (List.range 8).all (0x00ff : BitVec 16).getLsbD = true := by decide
      exact List.all_eq_true.mp htable i hi
    have hlt : i < 16 := by
      have below := List.mem_range.mp hi
      omega
    rw [UInt16.toBitVec_and, UInt8.toBitVec_toUInt16, BitVec.getLsbD_and, BitVec.getLsbD_setWidth]
    simp only [hlt, decide_true, Bool.true_and]
    exact (congrArg (· && _) hmask).trans (Bool.true_and _)
  have hloop := shiftIn_of_loop polinomio16 crcBit16 UInt16.toBitVec UInt16.toBitVec ?_ ?_
    (crc, 0x00ff &&& byte.toUInt16) 8 (by decide)
  · rw [← hbits]
    exact hloop.1
  · intro s
    simp only [crcBit16, flag16_eq, step]
    split <;> rfl
  · intro s i _
    have hshift : (crcBit16 s).2.toBitVec = s.2.toBitVec >>> 1 := rfl
    rw [hshift, BitVec.getLsbD_ushiftRight, Nat.add_comm 1 i]

/-- The bytes of a message shifted in one after the other. -/
theorem foldl_toBitVec {α : Type*} {w : Nat} {poly : BitVec w} (toBitVec : α → BitVec w)
    {crcByte : α → UInt8 → α}
    (shifts : ∀ crc byte, toBitVec (crcByte crc byte) =
      shiftIn poly (toBitVec crc) (lowFirst byte.toBitVec)) (crc : α) (bytes : List UInt8) :
    toBitVec (bytes.foldl crcByte crc) = shiftIn poly (toBitVec crc) (bitsDe bytes) := by
  induction bytes generalizing crc with
  | nil => rfl
  | cons byte bytes inductionHypothesis =>
      rw [List.foldl_cons, inductionHypothesis, shifts, ← shiftIn_append]
      rfl

/-- The table holds what four zeros leave of the lowest bits. -/
theorem table_eq (low : Fin 16) :
    (table.toList.getD low.val 0).toBitVec =
      shiftZeros polinomio32 (BitVec.ofNat 32 low.val) 4 := by
  revert low
  decide

theorem crcNibble32_toBitVec (crc : UInt32) :
    (crcNibble32 crc).toBitVec = shiftZeros polinomio32 crc.toBitVec 4 := by
  have hmask : ∀ i, i < 32 → (0xF : BitVec 32).getLsbD i = decide (i < 4) := by
    have htable : ∀ i : Fin 32, (0xF : BitVec 32).getLsbD i = decide (i.val < 4) := by decide
    exact fun i hi => htable ⟨i, hi⟩
  have hlow : (crc &&& 0xF).toNat < 16 := by
    have hand : (crc &&& 0xF).toNat = crc.toNat &&& 0xF := UInt32.toNat_and ..
    rw [hand]
    exact Nat.lt_succ_of_le Nat.and_le_right
  have hentry := table_eq ⟨(crc &&& 0xF).toNat, hlow⟩
  have hindex : BitVec.ofNat 32 (crc &&& 0xF).toNat = crc.toBitVec &&& 0xF := by
    apply BitVec.eq_of_toNat_eq
    rw [BitVec.toNat_ofNat, Nat.mod_eq_of_lt (by omega)]
    rfl
  rw [shiftZeros_eq_table polinomio32 crc.toBitVec 0xF hmask, crcNibble32, UInt32.toBitVec_xor,
    hentry, hindex]
  rfl

theorem crcByte32_toBitVec (crc : UInt32) (byte : UInt8) :
    (crcByte32 crc byte).toBitVec = shiftIn polinomio32 crc.toBitVec (lowFirst byte.toBitVec) := by
  rw [shiftIn_lowFirst polinomio32 crc.toBitVec byte.toBitVec (by decide), crcByte32,
    crcNibble32_toBitVec, crcNibble32_toBitVec]
  rfl

theorem getLsbD_intercambia16 (crc : UInt16) {i : Nat} (hi : i < 16) :
    (intercambia16 crc).toBitVec.getLsbD i = crc.toBitVec.getLsbD ((i + 8) % 16) := by
  have hvalue : (intercambia16 crc).toBitVec =
      (crc.toBitVec <<< 8) ||| (crc.toBitVec >>> 8 &&& 0xFF#16) := rfl
  rw [hvalue]
  interval_cases i <;> simp

theorem intercambia16_intercambia16 (crc : UInt16) : intercambia16 (intercambia16 crc) = crc := by
  apply UInt16.toBitVec_inj.mp
  apply BitVec.eq_of_getLsbD_eq
  intro i hi
  rw [getLsbD_intercambia16 _ hi, getLsbD_intercambia16 _ (Nat.mod_lt _ (by decide))]
  congr 1
  omega

/-- The checksum of a list of bytes. -/
def checksum16 (checksum : UInt8) (bytes : List UInt8) : UInt16 :=
  if checksum = crcChecksum then intercambia16 (~~~bytes.foldl crcByte16 0xffff)
  else 1 + ~~~bytes.foldl (fun sum byte => sum + byte.toUInt16) 0

theorem computeChecksum16bit_eq (checksum : UInt8) (buf : Nat → UInt8) (size : Nat) :
    computeChecksum16bit checksum buf size = checksum16 checksum ((List.range size).map buf) := by
  rw [computeChecksum16bit, checksum16, List.foldl_map, List.foldl_map]
  split_ifs with _ vacio
  · subst vacio
    exact (by decide : ~~~(0xffff : UInt16) = intercambia16 (~~~0xffff))
  · rfl
  · rfl

/-- The check of the frames is the remainder of their bytes, with its two bytes
exchanged. -/
theorem isCheck_checksum16 (bytes : List UInt8) :
    IsCheck polinomio16 (BitVec.allOnes 16) (BitVec.allOnes 16) (bitsDe bytes)
      (intercambia16 (checksum16 crcChecksum bytes)).toBitVec := by
  rw [checksum16, if_pos rfl, intercambia16_intercambia16, UInt16.toBitVec_not,
    ← BitVec.xor_allOnes, foldl_toBitVec UInt16.toBitVec crcByte16_toBitVec]
  exact isCheck_shiftIn polinomio16 (BitVec.allOnes 16) (BitVec.allOnes 16) (bitsDe bytes)

/-- The checksum of the data of a row. -/
def checksum32 (bytes : List UInt8) : UInt32 :=
  ~~~bytes.foldl crcByte32 0xFFFFFFFF

theorem computeChecksum32bit_eq (buf : Nat → UInt8) (size : Nat) :
    computeChecksum32bit buf size = checksum32 ((List.range size).map buf) := by
  rw [computeChecksum32bit, checksum32, List.foldl_map]

theorem isCheck_checksum32 (bytes : List UInt8) :
    IsCheck polinomio32 (BitVec.allOnes 32) (BitVec.allOnes 32) (bitsDe bytes)
      (checksum32 bytes).toBitVec := by
  rw [checksum32, UInt32.toBitVec_not, ← BitVec.xor_allOnes,
    foldl_toBitVec UInt32.toBitVec crcByte32_toBitVec]
  exact isCheck_shiftIn polinomio32 (BitVec.allOnes 32) (BitVec.allOnes 32) (bitsDe bytes)

/-- Bit by bit or from a table, for any number of bytes: both checks are the remainders of
the division of the bytes by their polynomials. -/
theorem computeChecksum_isCheck (buf : Nat → UInt8) (size : Nat) :
    IsCheck polinomio16 (BitVec.allOnes 16) (BitVec.allOnes 16)
        (bitsDe ((List.range size).map buf))
        (intercambia16 (computeChecksum16bit crcChecksum buf size)).toBitVec ∧
      IsCheck polinomio32 (BitVec.allOnes 32) (BitVec.allOnes 32)
        (bitsDe ((List.range size).map buf)) (computeChecksum32bit buf size).toBitVec := by
  rw [computeChecksum16bit_eq, computeChecksum32bit_eq]
  exact ⟨isCheck_checksum16 _, isCheck_checksum32 _⟩

/-! ## Frames -/

/-- `CMD_START` -/
def cmdStart : UInt8 := 0x01

/-- `CMD_STOP` -/
def cmdStop : UInt8 := 0x17

/-- `MAX_COMMAND_SIZE` -/
def maxCommandSize : Nat := 512

/-- The bytes that `fillData16` stores. -/
def fillData16 (data : UInt16) : List UInt8 :=
  [data.toUInt8, (data >>> 8).toUInt8]

/-- The bytes that `fillData32` stores. -/
def fillData32 (data : UInt32) : List UInt8 :=
  fillData16 data.toUInt16 ++ fillData16 (data >>> 16).toUInt16

/-- `CreateCmd`, when the data are in place. -/
def createCmd (checksum : UInt8) (cmdBuf : Nat → UInt8) (cmdSize : Nat) (cmdCode : UInt8) :
    Nat → UInt8 :=
  let cmdBuf := write 0 [cmdStart] cmdBuf
  let cmdBuf := write 1 [cmdCode] cmdBuf
  let cmdBuf := write 2 (fillData16 (UInt16.ofNat cmdSize - 7)) cmdBuf
  let cmdBuf := write (cmdSize - 3)
    (fillData16 (computeChecksum16bit checksum cmdBuf (cmdSize - 3))) cmdBuf
  write (cmdSize - 1) [cmdStop] cmdBuf

/-- A command in its buffer, its size and the size of its reply. -/
structure Comando where
  cmdBuf : Nat → UInt8
  cmdSize : Nat
  resSize : Nat

/-- What the functions that make a command have in common: the data are stored from
place 4 on, and then the rest. -/
def createDataCmd (datos : List UInt8) (resultDataSize : Nat) (cmdCode checksum : UInt8)
    (cmdBuf : Nat → UInt8) : Comando where
  cmdBuf := createCmd checksum (write 4 datos cmdBuf) (baseCmdSize + datos.length) cmdCode
  cmdSize := baseCmdSize + datos.length
  resSize := baseCmdSize + resultDataSize

/-- `CyBtldr_CreateEnterBootLoaderCmd` -/
def createEnterBootLoaderCmd (productID : UInt32) : UInt8 → (Nat → UInt8) → Comando :=
  createDataCmd (fillData32 productID ++ fillData16 0) 8 0x38

/-- `CyBtldr_CreateExitBootLoaderCmd` -/
def createExitBootLoaderCmd : UInt8 → (Nat → UInt8) → Comando :=
  createDataCmd [] 0 0x3B

/-- `CyBtldr_CreateSendDataCmd` -/
def createSendDataCmd (buf : List UInt8) : UInt8 → (Nat → UInt8) → Comando :=
  createDataCmd buf 0 0x37

/-- `CyBtldr_CreateProgramDataCmd` -/
def createProgramDataCmd (address chksum : UInt32) (buf : List UInt8) :
    UInt8 → (Nat → UInt8) → Comando :=
  createDataCmd (fillData32 address ++ fillData32 chksum ++ buf) 0 0x49

/-- `CyBtldr_CreateVerifyDataCmd` -/
def createVerifyDataCmd (address chksum : UInt32) (buf : List UInt8) :
    UInt8 → (Nat → UInt8) → Comando :=
  createDataCmd (fillData32 address ++ fillData32 chksum ++ buf) 0 0x4A

/-- `CyBtldr_CreateEraseDataCmd` -/
def createEraseDataCmd (address : UInt32) : UInt8 → (Nat → UInt8) → Comando :=
  createDataCmd (fillData32 address) 0 0x44

/-- `CyBtldr_CreateVerifyChecksumCmd` -/
def createVerifyChecksumCmd (appId : UInt8) : UInt8 → (Nat → UInt8) → Comando :=
  createDataCmd [appId] 1 0x31

/-- `CyBtldr_CreateSetApplicationMetadataCmd` -/
def createSetApplicationMetadataCmd (appID : UInt8) (buf : List UInt8) :
    UInt8 → (Nat → UInt8) → Comando :=
  createDataCmd (appID :: buf) 0 0x4C

/-- `CyBtldr_CreateSetEncryptionInitialVectorCmd` -/
def createSetEncryptionInitialVectorCmd (buf : List UInt8) : UInt8 → (Nat → UInt8) → Comando :=
  createDataCmd buf 0 0x4D

/-- What the checksum of a command is about. -/
def cuerpo (cmdCode : UInt8) (datos : List UInt8) : List UInt8 :=
  [cmdStart] ++ [cmdCode] ++ fillData16 (UInt16.ofNat datos.length) ++ datos

/-- The frame of a command. -/
def trama (checksum cmdCode : UInt8) (datos : List UInt8) : List UInt8 :=
  cuerpo cmdCode datos ++ fillData16 (checksum16 checksum (cuerpo cmdCode datos)) ++ [cmdStop]

@[simp]
theorem length_fillData16 (data : UInt16) : (fillData16 data).length = 2 :=
  rfl

@[simp]
theorem length_cuerpo (cmdCode : UInt8) (datos : List UInt8) :
    (cuerpo cmdCode datos).length = 4 + datos.length := by
  simp [cuerpo]
  omega

@[simp]
theorem length_trama (checksum cmdCode : UInt8) (datos : List UInt8) :
    (trama checksum cmdCode datos).length = baseCmdSize + datos.length := by
  simp [trama, baseCmdSize]
  omega

theorem ofNat_sub_baseCmdSize (n : Nat) :
    UInt16.ofNat (baseCmdSize + n) - 7 = UInt16.ofNat n := by
  have hsum : UInt16.ofNat (baseCmdSize + n) = UInt16.ofNat n + 7 := by
    rw [Nat.add_comm, UInt16.ofNat_add]
    rfl
  rw [hsum, UInt16.add_sub_cancel]

/-- The buffer holds the frame of the command, and behind it what it held. -/
theorem cmdBuf_createDataCmd (datos : List UInt8) (resultDataSize : Nat)
    (cmdCode checksum : UInt8) (cmdBuf : Nat → UInt8) :
    (createDataCmd datos resultDataSize cmdCode checksum cmdBuf).cmdBuf =
      write 0 (trama checksum cmdCode datos) cmdBuf := by
  have hcuerpo : write 2 (fillData16 (UInt16.ofNat datos.length))
      (write 1 [cmdCode] (write 0 [cmdStart] (write 4 datos cmdBuf))) =
        write 0 (cuerpo cmdCode datos) cmdBuf := by
    -- the data were stored first, and are the last in the frame
    have antes : ∀ start (cells : List UInt8) mem, start + cells.length ≤ 4 →
        write start cells (write 4 datos mem) = write 4 datos (write start cells mem) :=
      fun _ _ _ apart => write_comm (Or.inl apart)
    rw [antes 0 _ _ (by simp), antes 1 _ _ (by simp), antes 2 _ _ (by simp), cuerpo, write_append,
      write_append, write_append]
    rfl
  have hbytes : (List.range (4 + datos.length)).map (write 0 (cuerpo cmdCode datos) cmdBuf) =
      cuerpo cmdCode datos := by
    have begins := (begins_write_zero (cuerpo cmdCode datos) cmdBuf).eq_map
    rwa [length_cuerpo] at begins
  have hmenos : baseCmdSize + datos.length - 3 = 4 + datos.length := by
    rw [baseCmdSize]
    omega
  have huno : baseCmdSize + datos.length - 1 = 4 + datos.length + 2 := by
    rw [baseCmdSize]
    omega
  simp only [createDataCmd, createCmd, ofNat_sub_baseCmdSize, hcuerpo, hmenos, huno,
    computeChecksum16bit_eq, hbytes]
  rw [trama, write_append, write_append, List.length_append, length_cuerpo, length_fillData16,
    Nat.zero_add, Nat.zero_add]


/-! ## Validity -/

/-- `CYBTLDR_STAT_ERR_UNK` -/
def statErrUnk : UInt8 := 0x0F

/-- Two bytes, the lowest first. -/
def junta16 (bajo alto : UInt8) : UInt16 :=
  bajo.toUInt16 ||| (alto.toUInt16 <<< 8)

/-- Two bytes of an array. -/
def lee16 (tamano : Nat) (packet : Nat → UInt8) (i : Nat) : Option UInt16 := do
  let bajo ← load tamano packet i
  let alto ← load tamano packet (i + 1)
  some (junta16 bajo alto)

/-- `CyBtldr_TryParseParketStatus` of a packet in an array of `tamano` bytes, with what
it leaves in `status`; a read outside the array has no result. -/
def tryParseParketStatus (checksum : UInt8) (tamano : Nat) (packet : Nat → UInt8)
    (packetSize : Nat) (status : UInt8) : Option (UInt8 × UInt8) :=
  if packetSize < baseCmdSize then some (statErrUnk, status)
  else do
    let inicio ← load tamano packet 0
    if inicio ≠ cmdStart then some (statErrUnk, status)
    else
      let status ← load tamano packet 1
      let dataSize ← lee16 tamano packet 2
      let readChecksum ← lee16 tamano packet (dataSize.toNat + 4)
      let computedChecksum := computeChecksum16bit checksum packet (dataSize.toNat + 4)
      let fin ← load tamano packet (dataSize.toNat + 6)
      if fin ≠ cmdStop ∨ readChecksum ≠ computedChecksum then some (statErrUnk, status)
      else some (0, status)

theorem junta16_fillData16 (data : UInt16) : junta16 data.toUInt8 (data >>> 8).toUInt8 = data := by
  apply UInt16.toBitVec_inj.mp
  apply BitVec.eq_of_getLsbD_eq
  intro i hi
  have hvalue : (junta16 data.toUInt8 (data >>> 8).toUInt8).toBitVec =
      (data.toBitVec.setWidth 8).setWidth 16 |||
        ((data.toBitVec >>> 8).setWidth 8).setWidth 16 <<< 8 := rfl
  rw [hvalue]
  interval_cases i <;> simp

theorem fillData16_junta16 (bajo alto : UInt8) : fillData16 (junta16 bajo alto) = [bajo, alto] := by
  have hbajo : (junta16 bajo alto).toUInt8 = bajo := by
    apply UInt8.toBitVec_inj.mp
    apply BitVec.eq_of_getLsbD_eq
    intro i hi
    have hvalue : (junta16 bajo alto).toUInt8.toBitVec =
        (bajo.toBitVec.setWidth 16 ||| alto.toBitVec.setWidth 16 <<< 8).setWidth 8 := rfl
    rw [hvalue]
    interval_cases i <;> simp
  have halto : ((junta16 bajo alto) >>> 8).toUInt8 = alto := by
    apply UInt8.toBitVec_inj.mp
    apply BitVec.eq_of_getLsbD_eq
    intro i hi
    have hvalue : ((junta16 bajo alto) >>> 8).toUInt8.toBitVec =
        ((bajo.toBitVec.setWidth 16 ||| alto.toBitVec.setWidth 16 <<< 8) >>> 8).setWidth 8 := rfl
    rw [hvalue]
    interval_cases i <;> simp
  rw [fillData16, hbajo, halto]

theorem fillData16_injective : Function.Injective fillData16 := by
  intro first second heq
  obtain ⟨hbajo, halto⟩ := List.cons_eq_cons.mp heq
  rw [← junta16_fillData16 first, ← junta16_fillData16 second, hbajo,
    (List.cons_eq_cons.mp halto).1]

theorem begins_fillData16_iff {mem : Nat → UInt8} {data : UInt16} :
    Begins mem (fillData16 data) ↔ junta16 (mem 0) (mem 1) = data := by
  have hpair : Begins mem (fillData16 data) ↔ fillData16 data = [mem 0, mem 1] := by
    refine ⟨fun begins => ?_, fun same => ?_⟩
    · have bytes := begins.eq_map
      rw [length_fillData16] at bytes
      exact bytes.symm
    · rw [same]
      exact begins_map_range mem 2
  rw [hpair, ← fillData16_junta16]
  exact ⟨fun same => (fillData16_injective same).symm, fun same => by rw [same]⟩

theorem begins_cuerpo_iff {cmdCode : UInt8} {datos : List UInt8} {mem : Nat → UInt8} :
    Begins mem (cuerpo cmdCode datos) ↔
      mem 0 = cmdStart ∧ mem 1 = cmdCode ∧
        junta16 (mem 2) (mem 3) = UInt16.ofNat datos.length ∧
        Begins (fun k => mem (4 + k)) datos := by
  simp only [cuerpo, begins_append_iff, begins_singleton_iff, begins_fillData16_iff,
    List.length_append, List.length_singleton, length_fillData16, and_assoc, Nat.add_zero,
    Nat.reduceAdd]

theorem begins_trama_iff {checksum cmdCode : UInt8} {datos : List UInt8} {mem : Nat → UInt8} :
    Begins mem (trama checksum cmdCode datos) ↔
      Begins mem (cuerpo cmdCode datos) ∧
        junta16 (mem (datos.length + 4)) (mem (datos.length + 4 + 1)) =
          computeChecksum16bit checksum mem (datos.length + 4) ∧
        mem (datos.length + 6) = cmdStop := by
  have hlugar : ∀ k, 4 + datos.length + k = datos.length + (4 + k) := fun k => by omega
  have hpartes : Begins mem (trama checksum cmdCode datos) ↔
      Begins mem (cuerpo cmdCode datos) ∧
        junta16 (mem (datos.length + 4)) (mem (datos.length + 4 + 1)) =
          checksum16 checksum (cuerpo cmdCode datos) ∧
        mem (datos.length + 6) = cmdStop := by
    simp only [trama, begins_append_iff, begins_singleton_iff, begins_fillData16_iff,
      List.length_append, length_cuerpo, length_fillData16, and_assoc, Nat.add_zero, hlugar,
      Nat.reduceAdd, Nat.add_assoc]
  rw [hpartes]
  refine and_congr_right fun begins => ?_
  have bytes := begins.eq_map
  rw [length_cuerpo, Nat.add_comm] at bytes
  rw [computeChecksum16bit_eq, bytes]

/-- The packets that are accepted are those that begin with a frame, and the status is the
code of the frame. -/
theorem tryParseParketStatus_eq_success_iff {checksum : UInt8} {tamano packetSize : Nat}
    {packet : Nat → UInt8} {status codigo : UInt8} :
    tryParseParketStatus checksum tamano packet packetSize status = some (0, codigo) ↔
      baseCmdSize ≤ packetSize ∧ ∃ datos : List UInt8, datos.length < 65536 ∧
        baseCmdSize + datos.length ≤ tamano ∧ Begins packet (trama checksum codigo datos) := by
  have hunk : ∀ st, some (statErrUnk, st) ≠ some ((0 : UInt8), codigo) := by
    intro st same
    exact (by decide : statErrUnk ≠ 0) (congrArg Prod.fst (Option.some.inj same))
  unfold tryParseParketStatus
  by_cases corto : packetSize < baseCmdSize
  · rw [if_pos corto]
    exact iff_of_false (hunk _) fun both => Nat.not_lt_of_le both.1 corto
  rw [if_neg corto, and_iff_right (Nat.le_of_not_lt corto)]
  simp only [Option.bind_eq_bind, load_bind_eq_some_iff, lee16, Option.bind_assoc, ite_not]
  constructor
  · rintro ⟨-, leido⟩
    split_ifs at leido with inicio
    · simp only [load_bind_eq_some_iff, Option.bind_some] at leido
      obtain ⟨-, -, -, -, -, dentro, leido⟩ := leido
      split_ifs at leido with mal
      · exact absurd leido (hunk _)
      obtain ⟨fin, suma⟩ := not_or.mp mal
      generalize hn : junta16 (packet 2) (packet 3) = n at *
      have largo : ((List.range n.toNat).map fun k => packet (4 + k)).length = n.toNat := by
        rw [List.length_map, List.length_range]
      refine ⟨(List.range n.toNat).map fun k => packet (4 + k), ?_, ?_, ?_⟩
      · rw [largo]
        exact n.toNat_lt
      · rw [largo, baseCmdSize]
        omega
      · have cuerpo : Begins packet (cuerpo codigo ((List.range n.toNat).map
            fun k => packet (4 + k))) := by
          rw [begins_cuerpo_iff, largo, hn, UInt16.ofNat_toNat]
          exact ⟨inicio, congrArg Prod.snd (Option.some.inj leido), rfl, begins_map_range _ _⟩
        rw [begins_trama_iff, largo]
        exact ⟨cuerpo, not_not.mp suma, not_not.mp fin⟩
    · exact absurd leido (hunk _)
  · rintro ⟨datos, corta, cabe, begins⟩
    obtain ⟨delante, suma, fin⟩ := begins_trama_iff.mp begins
    obtain ⟨inicio, codigo, largo, -⟩ := begins_cuerpo_iff.mp delante
    have hn : (UInt16.ofNat datos.length).toNat = datos.length := UInt16.toNat_ofNat_of_lt' corta
    rw [baseCmdSize] at cabe
    simp only [inicio, if_true, load_bind_eq_some_iff, Option.bind_some, largo, hn, codigo, suma,
      fin, ne_eq, not_true_eq_false, or_self, if_false]
    refine ⟨?_, ?_, ?_, ?_, ?_, ?_, ?_, trivial⟩ <;> omega

/-- Every command is accepted in the buffer it was made in. -/
theorem tryParseParketStatus_createDataCmd {datos : List UInt8} {tamano : Nat}
    (cabe : baseCmdSize + datos.length ≤ tamano) (corta : datos.length < 65536)
    (resultDataSize : Nat) (cmdCode checksum : UInt8) (cmdBuf : Nat → UInt8) (status : UInt8) :
    tryParseParketStatus checksum tamano
      (createDataCmd datos resultDataSize cmdCode checksum cmdBuf).cmdBuf
      (createDataCmd datos resultDataSize cmdCode checksum cmdBuf).cmdSize status =
        some (0, cmdCode) := by
  rw [tryParseParketStatus_eq_success_iff]
  refine ⟨Nat.le_add_right _ _, datos, corta, cabe, ?_⟩
  rw [cmdBuf_createDataCmd]
  exact begins_write_zero _ _

/-! ## Commands by their meaning -/

/-- A command with its arguments. -/
inductive Orden
  | enterBootLoader (productID : UInt32)
  | exitBootLoader
  | sendData (buf : List UInt8)
  | programData (address chksum : UInt32) (buf : List UInt8)
  | verifyData (address chksum : UInt32) (buf : List UInt8)
  | eraseData (address : UInt32)
  | verifyChecksum (appId : UInt8)
  | setApplicationMetadata (appID : UInt8) (buf : List UInt8)
  | setEncryptionInitialVector (buf : List UInt8)
  deriving DecidableEq, Repr

namespace Orden

/-- The function that makes the command. -/
def create : Orden → UInt8 → (Nat → UInt8) → Comando
  | enterBootLoader productID => createEnterBootLoaderCmd productID
  | exitBootLoader => createExitBootLoaderCmd
  | sendData buf => createSendDataCmd buf
  | programData address chksum buf => createProgramDataCmd address chksum buf
  | verifyData address chksum buf => createVerifyDataCmd address chksum buf
  | eraseData address => createEraseDataCmd address
  | verifyChecksum appId => createVerifyChecksumCmd appId
  | setApplicationMetadata appID buf => createSetApplicationMetadataCmd appID buf
  | setEncryptionInitialVector buf => createSetEncryptionInitialVectorCmd buf

/-- The code of the command. -/
def cmdCode : Orden → UInt8
  | enterBootLoader _ => 0x38
  | exitBootLoader => 0x3B
  | sendData _ => 0x37
  | programData _ _ _ => 0x49
  | verifyData _ _ _ => 0x4A
  | eraseData _ => 0x44
  | verifyChecksum _ => 0x31
  | setApplicationMetadata _ _ => 0x4C
  | setEncryptionInitialVector _ => 0x4D

/-- The data of the command. -/
def datos : Orden → List UInt8
  | enterBootLoader productID => fillData32 productID ++ fillData16 0
  | exitBootLoader => []
  | sendData buf => buf
  | programData address chksum buf => fillData32 address ++ fillData32 chksum ++ buf
  | verifyData address chksum buf => fillData32 address ++ fillData32 chksum ++ buf
  | eraseData address => fillData32 address
  | verifyChecksum appId => [appId]
  | setApplicationMetadata appID buf => appID :: buf
  | setEncryptionInitialVector buf => buf

/-- How many bytes of data the reply has. -/
def resultDataSize : Orden → Nat
  | enterBootLoader _ => 8
  | verifyChecksum _ => 1
  | _ => 0

/-- The command fits in the buffers for commands. -/
def Cabe (o : Orden) : Prop :=
  baseCmdSize + o.datos.length ≤ maxCommandSize

instance (o : Orden) : Decidable o.Cabe :=
  inferInstanceAs (Decidable (_ ≤ _))

/-- The frame of the command. -/
def trama (checksum : UInt8) (o : Orden) : List UInt8 :=
  Cybtldr.trama checksum o.cmdCode o.datos

theorem create_eq (o : Orden) :
    o.create = createDataCmd o.datos o.resultDataSize o.cmdCode := by
  cases o <;> rfl

theorem cmdBuf_create (o : Orden) (checksum : UInt8) (cmdBuf : Nat → UInt8) :
    (o.create checksum cmdBuf).cmdBuf = write 0 (o.trama checksum) cmdBuf := by
  rw [create_eq, cmdBuf_createDataCmd, trama]

theorem length_trama (o : Orden) (checksum : UInt8) :
    (o.trama checksum).length = baseCmdSize + o.datos.length :=
  Cybtldr.length_trama checksum o.cmdCode o.datos

theorem cmdSize_create (o : Orden) (checksum : UInt8) (cmdBuf : Nat → UInt8) :
    (o.create checksum cmdBuf).cmdSize = (o.trama checksum).length := by
  rw [create_eq, length_trama]
  rfl

theorem length_lt_of_cabe {o : Orden} (cabe : o.Cabe) : o.datos.length < 65536 := by
  have tamano : maxCommandSize = 512 := rfl
  rw [Cabe] at cabe
  omega

theorem fillData32_injective : Function.Injective fillData32 := by
  intro first second heq
  obtain ⟨hbajo, halto⟩ := List.append_inj heq rfl
  have hlow := fillData16_injective hbajo
  have hhigh := fillData16_injective halto
  apply UInt32.toBitVec_inj.mp
  apply BitVec.eq_of_getLsbD_eq
  intro i hi
  have hpart : ∀ x : UInt32, x.toBitVec.getLsbD i =
      if i < 16 then x.toUInt16.toBitVec.getLsbD i
      else (x >>> 16).toUInt16.toBitVec.getLsbD (i - 16) := by
    intro x
    have hbajo : x.toUInt16.toBitVec = x.toBitVec.setWidth 16 := rfl
    have halto : (x >>> 16).toUInt16.toBitVec = (x.toBitVec >>> 16).setWidth 16 := rfl
    rw [hbajo, halto, BitVec.getLsbD_setWidth, BitVec.getLsbD_setWidth,
      BitVec.getLsbD_ushiftRight]
    split_ifs with low
    · simp [low]
    · rw [decide_eq_true (by omega : i - 16 < 16), Bool.true_and,
        show 16 + (i - 16) = i by omega]
  rw [hpart, hpart, hlow, hhigh]

/-- Code and data tell the commands apart. -/
theorem eq_of_cmdCode_of_datos {o o' : Orden} (codigo : o.cmdCode = o'.cmdCode)
    (datos : o.datos = o'.datos) : o = o' := by
  cases o <;> cases o' <;> try exact absurd codigo (of_decide_eq_false rfl)
  case enterBootLoader.enterBootLoader =>
    rw [fillData32_injective (List.append_inj_left datos rfl)]
  case exitBootLoader.exitBootLoader => rfl
  case sendData.sendData => exact congrArg _ datos
  case programData.programData =>
    obtain ⟨cabecera, buf⟩ := List.append_inj datos rfl
    obtain ⟨address, chksum⟩ := List.append_inj cabecera rfl
    rw [fillData32_injective address, fillData32_injective chksum, buf]
  case verifyData.verifyData =>
    obtain ⟨cabecera, buf⟩ := List.append_inj datos rfl
    obtain ⟨address, chksum⟩ := List.append_inj cabecera rfl
    rw [fillData32_injective address, fillData32_injective chksum, buf]
  case eraseData.eraseData => rw [fillData32_injective datos]
  case verifyChecksum.verifyChecksum => rw [(List.cons_eq_cons.mp datos).1]
  case setApplicationMetadata.setApplicationMetadata =>
    rw [(List.cons_eq_cons.mp datos).1, (List.cons_eq_cons.mp datos).2]
  case setEncryptionInitialVector.setEncryptionInitialVector => exact congrArg _ datos

/-- What a place holds begins with one frame at most. -/
theorem eq_of_begins {checksum : UInt8} {o o' : Orden} (corta : o.datos.length < 65536)
    (corta' : o'.datos.length < 65536) {mem : Nat → UInt8} (begins : Begins mem (o.trama checksum))
    (begins' : Begins mem (o'.trama checksum)) : o = o' := by
  obtain ⟨-, codigo, largo, bytes⟩ := begins_cuerpo_iff.mp (begins_trama_iff.mp begins).1
  obtain ⟨-, codigo', largo', bytes'⟩ := begins_cuerpo_iff.mp (begins_trama_iff.mp begins').1
  have mismo : o.datos.length = o'.datos.length := by
    have same := congrArg UInt16.toNat (largo.symm.trans largo')
    rwa [UInt16.toNat_ofNat_of_lt' corta, UInt16.toNat_ofNat_of_lt' corta'] at same
  refine eq_of_cmdCode_of_datos (codigo.symm.trans codigo') ?_
  rw [← bytes.eq_map, ← bytes'.eq_map, mismo]

/-- A stream of frames is the stream of one list of commands only. -/
theorem injOn_flatMap_trama (checksum : UInt8) :
    Set.InjOn (List.flatMap (trama checksum)) {os : List Orden | ∀ o ∈ os, o.Cabe} := by
  have nunca : ∀ (o : Orden) (os : List Orden), [] ≠ (o :: os).flatMap (trama checksum) := by
    intro o os vacia
    have largo := congrArg List.length vacia
    rw [List.flatMap_cons, List.length_append, length_trama, List.length_nil, baseCmdSize] at largo
    omega
  intro os caben os' caben' igual
  induction os generalizing os' with
  | nil =>
      cases os' with
      | nil => rfl
      | cons o' os' => exact absurd igual (nunca o' os')
  | cons o os inductionHypothesis =>
      cases os' with
      | nil => exact absurd igual.symm (nunca o os)
      | cons o' os' =>
          simp only [List.flatMap_cons] at igual
          -- both frames are at the beginning of the same stream
          have begins := begins_write_zero (o.trama checksum ++ os.flatMap (trama checksum))
            fun _ => 0
          have begins' := begins
          rw [igual] at begins'
          have primero : o = o' := eq_of_begins
            (length_lt_of_cabe (caben o List.mem_cons_self))
            (length_lt_of_cabe (caben' o' List.mem_cons_self)) begins.left
            (by rw [igual]; exact begins'.left)
          subst primero
          rw [inductionHypothesis (fun o miembro => caben o (List.mem_cons_of_mem _ miembro))
            (fun o miembro => caben' o (List.mem_cons_of_mem _ miembro))
            (List.append_cancel_left igual)]

/-- Every command, whatever its buffer held and whichever the checksum, is accepted with its
code in that buffer; and no other command has its frame there. -/
theorem create_reconocida {o : Orden} (cabe : o.Cabe) (checksum : UInt8) (cmdBuf : Nat → UInt8)
    (status : UInt8) :
    tryParseParketStatus checksum maxCommandSize (o.create checksum cmdBuf).cmdBuf
        (o.create checksum cmdBuf).cmdSize status = some (0, o.cmdCode) ∧
      ∀ o' : Orden, o'.Cabe →
        (Begins (o.create checksum cmdBuf).cmdBuf (o'.trama checksum) ↔ o' = o) := by
  have begins : Begins (o.create checksum cmdBuf).cmdBuf (o.trama checksum) := by
    rw [cmdBuf_create]
    exact begins_write_zero _ _
  constructor
  · rw [create_eq]
    exact tryParseParketStatus_createDataCmd cabe (length_lt_of_cabe cabe) _ _ _ _ _
  · intro o' cabe'
    constructor
    · intro begins'
      exact eq_of_begins (length_lt_of_cabe cabe') (length_lt_of_cabe cabe) begins' begins
    · rintro rfl
      exact begins

theorem create_reconocida_programa :
    tryParseParketStatus crcChecksum maxCommandSize
        ((programData 0x10001000 0 [1, 2, 3]).create crcChecksum fun _ => 0).cmdBuf
        ((programData 0x10001000 0 [1, 2, 3]).create crcChecksum fun _ => 0).cmdSize 0 =
          some (0, 0x49) ∧
      ∀ o' : Orden, o'.Cabe →
        (Begins ((programData 0x10001000 0 [1, 2, 3]).create crcChecksum fun _ => 0).cmdBuf
          (o'.trama crcChecksum) ↔ o' = programData 0x10001000 0 [1, 2, 3]) :=
  create_reconocida (by decide) crcChecksum (fun _ => 0) 0

end Orden

/-! ## Damaged frames -/

theorem crcByte16_injective (crc : UInt16) : Function.Injective (crcByte16 crc) := by
  intro byte otro heq
  have hbits := congrArg UInt16.toBitVec heq
  rw [crcByte16_toBitVec, crcByte16_toBitVec] at hbits
  exact UInt8.toBitVec_inj.mp (lowFirst_injective_of_shiftIn (by decide) (by decide) hbits)

theorem foldl_crcByte16_injective (bytes : List UInt8) :
    Function.Injective (bytes.foldl crcByte16 ·) := by
  intro crc otro heq
  have hbits := congrArg UInt16.toBitVec heq
  simp only [foldl_toBitVec UInt16.toBitVec crcByte16_toBitVec] at hbits
  exact UInt16.toBitVec_inj.mp (shiftIn_injective (by decide) _ hbits)

theorem foldl_sum_injective (bytes : List UInt8) :
    Function.Injective (bytes.foldl (fun sum byte => sum + byte.toUInt16) ·) := by
  intro sum otra heq
  induction bytes generalizing sum otra with
  | nil => exact heq
  | cons byte bytes inductionHypothesis =>
      exact (UInt16.add_left_inj byte.toUInt16).mp (inductionHypothesis heq)

/-- Neither checksum misses a byte that has changed. -/
theorem checksum16_ne (checksum : UInt8) (antes detras : List UInt8) {byte otro : UInt8}
    (distinto : byte ≠ otro) :
    checksum16 checksum (antes ++ byte :: detras) ≠
      checksum16 checksum (antes ++ otro :: detras) := by
  intro heq
  apply distinto
  simp only [checksum16, List.foldl_append, List.foldl_cons] at heq
  split_ifs at heq
  · have hcrc := congrArg intercambia16 heq
    rw [intercambia16_intercambia16, intercambia16_intercambia16, UInt16.not_inj] at hcrc
    exact crcByte16_injective _ (foldl_crcByte16_injective detras hcrc)
  · have hsum := foldl_sum_injective detras (UInt16.not_inj.mp ((UInt16.add_right_inj 1).mp heq))
    exact UInt8.toUInt16_inj.mp ((UInt16.add_right_inj _).mp hsum)

/-- Frames of the same length that are the same but for one place are the same. -/
theorem trama_eq_of_eq_but_one {checksum cmdCode cmdCode' : UInt8} {datos datos' : List UInt8}
    (largo : datos.length = datos'.length) {k : Nat}
    (igual : ∀ j, j ≠ k →
      (trama checksum cmdCode datos)[j]? = (trama checksum cmdCode' datos')[j]?) :
    trama checksum cmdCode datos = trama checksum cmdCode' datos' := by
  have hlargo : (cuerpo cmdCode datos).length = (cuerpo cmdCode' datos').length := by
    rw [length_cuerpo, length_cuerpo, largo]
  have hcuerpo : ∀ j, j ≠ k → j < (cuerpo cmdCode datos).length →
      (cuerpo cmdCode datos)[j]? = (cuerpo cmdCode' datos')[j]? := by
    intro j otro dentro
    have byte := igual j otro
    simp only [trama, List.append_assoc] at byte
    rwa [List.getElem?_append_left dentro, List.getElem?_append_left (hlargo ▸ dentro)] at byte
  suffices mismo : cuerpo cmdCode datos = cuerpo cmdCode' datos' by rw [trama, trama, mismo]
  by_cases dentro : k < (cuerpo cmdCode datos).length
  · -- the checksums are the same, and one byte would have changed them
    have hsuma : fillData16 (checksum16 checksum (cuerpo cmdCode datos)) =
        fillData16 (checksum16 checksum (cuerpo cmdCode' datos')) := by
      apply List.ext_getElem?
      intro j
      by_cases corto : j < 2
      · have byte := igual ((cuerpo cmdCode datos).length + j) (by omega)
        simp only [trama, List.append_assoc] at byte
        rwa [List.getElem?_append_right (Nat.le_add_right _ _), Nat.add_sub_cancel_left, hlargo,
          List.getElem?_append_right (Nat.le_add_right _ _), Nat.add_sub_cancel_left,
          List.getElem?_append_left (by simpa using corto),
          List.getElem?_append_left (by simpa using corto)] at byte
      · rw [List.getElem?_eq_none (Nat.le_of_not_lt corto),
          List.getElem?_eq_none (Nat.le_of_not_lt corto)]
    have todos : ∀ j, j ≠ k → (cuerpo cmdCode datos)[j]? = (cuerpo cmdCode' datos')[j]? := by
      intro j otro
      by_cases below : j < (cuerpo cmdCode datos).length
      · exact hcuerpo j otro below
      · rw [List.getElem?_eq_none (by omega), List.getElem?_eq_none (by omega)]
    obtain ⟨antes, byte, otro, detras, primero, segundo, -⟩ :=
      exists_append_of_eq_but_one hlargo dentro todos
    by_cases distinto : byte = otro
    · rw [primero, segundo, distinto]
    · have checks := fillData16_injective hsuma
      rw [primero, segundo] at checks
      exact absurd checks (checksum16_ne checksum antes detras distinto)
  · apply List.ext_getElem?
    intro j
    by_cases below : j < (cuerpo cmdCode datos).length
    · exact hcuerpo j (by omega) below
    · rw [List.getElem?_eq_none (by omega), List.getElem?_eq_none (by omega)]

/-- Whatever byte of a frame is damaged, but for the two of its length, and whichever the
checksum: it is no longer accepted. -/
theorem not_aceptada_of_danada {checksum cmdCode : UInt8} {datos : List UInt8}
    (corta : datos.length < 65536) {packet : Nat → UInt8}
    (begins : Begins packet (trama checksum cmdCode datos)) {k : Nat}
    (dentro : k < baseCmdSize + datos.length) (noLargo : k ≠ 2 ∧ k ≠ 3) {valor : UInt8}
    (danada : valor ≠ packet k) (tamano packetSize : Nat) (status codigo : UInt8) :
    tryParseParketStatus checksum tamano (Function.update packet k valor) packetSize status ≠
      some (0, codigo) := by
  intro aceptada
  obtain ⟨-, datos', corta', -, begins'⟩ := tryParseParketStatus_eq_success_iff.mp aceptada
  have largo : datos.length = datos'.length := by
    have bytes := (begins_cuerpo_iff.mp (begins_trama_iff.mp begins).1).2.2.1
    have bytes' := (begins_cuerpo_iff.mp (begins_trama_iff.mp begins').1).2.2.1
    rw [Function.update_of_ne noLargo.1.symm, Function.update_of_ne noLargo.2.symm, bytes] at bytes'
    have same := congrArg UInt16.toNat bytes'
    rwa [UInt16.toNat_ofNat_of_lt' corta, UInt16.toNat_ofNat_of_lt' corta'] at same
  have misma : trama checksum cmdCode datos = trama checksum codigo datos' := by
    refine trama_eq_of_eq_but_one (k := k) largo fun j otro => ?_
    by_cases below : j < baseCmdSize + datos.length
    · rw [begins j (by simpa using below), begins' j (by simpa [← largo] using below),
        Function.update_of_ne otro]
    · rw [List.getElem?_eq_none (by simpa using below),
        List.getElem?_eq_none (by simpa [← largo] using below)]
  have byte := begins k (by simpa using dentro)
  rw [misma, begins' k (by simpa [← largo] using dentro), Function.update_self] at byte
  exact danada (Option.some.inj byte)

/-- The code of a command to leave the bootloader is damaged. -/
theorem not_aceptada_salida :
    tryParseParketStatus crcChecksum maxCommandSize
      (Function.update (createExitBootLoaderCmd crcChecksum fun _ => 0).cmdBuf 1 0x3A) 7 0 ≠
        some (0, 0x3A) :=
  not_aceptada_of_danada (by decide : ([] : List UInt8).length < 65536)
    (by rw [createExitBootLoaderCmd, cmdBuf_createDataCmd]; exact begins_write_zero _ _) (by decide)
    (by decide) (by decide) _ _ _ _

end VeltiumCharger.Cybtldr
