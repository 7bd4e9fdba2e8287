import Mathlib.Algebra.Order.BigOperators.Group.List
import Mathlib.Algebra.Order.Group.Nat
import Mathlib.Tactic.Ring
import VeltiumCharger.Bloques.Procesar
import VeltiumCharger.Group.Flash
import VeltiumCharger.Library.Document

/-!
# The configuration in flash

`Configuracion.data` and the file `/config.json`: `Store` copies the one into the other
through a JSON document of 1024 bytes, `Load` back.  The texts of the configuration have no
terminator of their own when they fill their arrays, and a text that is loaded brings what
was behind it in memory.

The serial number is kept as twenty digits; `convertSN` reads them two by two.
-/

namespace VeltiumCharger.Arranque

open VeltiumCharger.Bloques VeltiumCharger.Buffer VeltiumCharger.Documents
open VeltiumCharger.Group (capacidad slotSize)

/-! ## The file -/

/-- The names of the members of `/config.json`. -/
inductive Clave
  | fwEsp
  | fwPsoc
  | authMode
  | potContratada1
  | potContratada2
  | instCurrLimit
  | cdp
  | deviceID
  | deviceSerNum
  | policy
  | dataCleared
  | countReiniciosMalos
  | veltV
  | medidor485
  deriving DecidableEq, Repr

/-- The name as it is written. -/
def Clave.texto : Clave → String
  | fwEsp => "fw_esp"
  | fwPsoc => "fw_psoc"
  | authMode => "auth_mode"
  | potContratada1 => "pot_contratada_1"
  | potContratada2 => "pot_contratada_2"
  | instCurrLimit => "inst_curr_limit"
  | cdp => "CDP"
  | deviceID => "device_ID"
  | deviceSerNum => "device_ser_num"
  | policy => "policy"
  | dataCleared => "data_cleared"
  | countReiniciosMalos => "count_reinicios_malos"
  | veltV => "velt_v"
  | medidor485 => "medidor485"

/-- Its bytes. -/
def Clave.nombre (clave : Clave) : List UInt8 :=
  clave.texto.toList.map Char.toUInt8

/-- The contents of `/config.json`. -/
abbrev Fichero := List (Clave × Value)

/-! ## `carac_config` -/

/-- `carac_config`: what the blocks set of it, and `policy` before its terminator. -/
structure Datos extends Configuracion where
  policy : List UInt8

/-- `String` of the characters from a place on. -/
def texto (bytes : List UInt8) : List UInt8 :=
  bytes.takeWhile (· != 0)

/-- The members that `Carac_to_json` assigns.  Behind `device_ID` comes `deviceSerNum`, and
behind the digits of this one their terminator. -/
def asignaciones (data : Datos) : Fichero :=
  [(.fwEsp, .number data.firmwareESP.toNat),
    (.fwPsoc, .number data.firmwarePSOC.toNat),
    (.authMode, .text (texto data.autenticationMode.bytes)),
    (.potContratada1, .number data.potenciaContratada1.toNat),
    (.potContratada2, .number data.potenciaContratada2.toNat),
    (.instCurrLimit, .number data.installCurrentLimit.toNat),
    (.cdp, .number data.cdp.toNat),
    (.deviceID, .text (texto (bytes data.deviceID 0 12 ++ data.deviceSerNum))),
    (.deviceSerNum, .text (texto data.deviceSerNum)),
    (.policy, .text (texto data.policy)),
    (.dataCleared, .number data.dataCleared.toNat),
    (.countReiniciosMalos, .number data.countReiniciosMalos.toNat),
    (.veltV, .number data.veltV.toNat),
    (.medidor485, .number data.medidor485.toNat)]

/-- `Config::Carac_to_json` -/
def caracToJson (data : Datos) : Document Clave :=
  (asignaciones data).foldl (Document.assign slotSize) (.empty capacidad)

/-- `as<uint8_t>()` and `as<uint16_t>()`: a number that does not fit is 0. -/
def numero (limite : Nat) : Value → Nat
  | .number n => if n < limite then n else 0
  | _ => 0

/-- `as<String>()` -/
def cadena : Value → List UInt8
  | .null => "null".toList.map Char.toUInt8
  | .number n => (toString n).toList.map Char.toUInt8
  | .text bytes => bytes

/-- The memory from `as<String>().c_str()` on. -/
def punteroA (heap : Nat → UInt8) (value : Value) : Nat → UInt8 :=
  write 0 (cadena value ++ [0]) heap

/-- `Config::Json_to_carac`.  Behind each text is whatever `heap` holds there. -/
def jsonToCarac (heap : Clave → Nat → UInt8) (d : Document Clave) (data : Datos) : Datos :=
  let numero16 (clave : Clave) : UInt16 := .ofNat (numero 65536 (d.find clave))
  let numero8 (clave : Clave) : UInt8 := .ofNat (numero 256 (d.find clave))
  let copia (clave : Clave) (len : Nat) : List UInt8 :=
    bytes (punteroA (heap clave) (d.find clave)) 0 len
  { data with
    firmwareESP := numero16 .fwEsp
    firmwarePSOC := numero16 .fwPsoc
    potenciaContratada1 := numero16 .potContratada1
    potenciaContratada2 := numero16 .potContratada2
    installCurrentLimit := numero8 .instCurrLimit
    cdp := numero8 .cdp
    autenticationMode := Modo.de (punteroA (heap .authMode) (d.find .authMode)) 0
    deviceID := write 0 (copia .deviceID 12) data.deviceID
    deviceSerNum := texto (copia .deviceSerNum 30)
    policy := copia .policy 3
    dataCleared := numero8 .dataCleared
    countReiniciosMalos := numero8 .countReiniciosMalos
    veltV := numero8 .veltV
    medidor485 := numero8 .medidor485 }

/-- `Config::Store`: the file. -/
def store (data : Datos) : Fichero :=
  (caracToJson data).members

/-- `Config::Load` -/
def load (heap : Clave → Nat → UInt8) (fichero : Fichero) (data : Datos) : Datos :=
  jsonToCarac heap (Document.readMembers slotSize Clave.nombre fichero (.empty capacidad)) data

/-! ## What has room -/

/-- The serial number fits in its array, and the policy in its own. -/
structure Datos.Acotada (data : Datos) : Prop where
  deviceSerNum : data.deviceSerNum.length ≤ 30
  policy : data.policy.length ≤ 3

theorem length_texto_le (bytes : List UInt8) : (texto bytes).length ≤ bytes.length :=
  (List.takeWhile_prefix _).length_le

theorem texto_of_notMem {bytes : List UInt8} (sin : 0 ∉ bytes) : texto bytes = bytes := by
  apply List.takeWhile_eq_self_iff.mpr
  intro byte esta
  have otro : byte ≠ 0 := fun cero => sin (cero ▸ esta)
  simpa using otro

theorem length_texto_deviceID {data : Datos} (acotada : data.Acotada) :
    (texto (bytes data.deviceID 0 12 ++ data.deviceSerNum)).length ≤ 42 := by
  have entero := length_texto_le (bytes data.deviceID 0 12 ++ data.deviceSerNum)
  have serie := acotada.deviceSerNum
  rw [List.length_append, Bloques.bytes, List.length_map, List.length_range] at entero
  exact entero.trans (Nat.add_le_add_left serie 12)

theorem length_nombre_le (clave : Clave) : clave.nombre.length ≤ 21 := by
  cases clave <;> decide

/-- The file has every member. -/
theorem store_eq {data : Datos} (acotada : data.Acotada) : store data = asignaciones data := by
  have auth := length_texto_le data.autenticationMode.bytes
  have id := length_texto_deviceID acotada
  have serie := (length_texto_le data.deviceSerNum).trans acotada.deviceSerNum
  have policy := (length_texto_le data.policy).trans acotada.policy
  rw [Modo.bytes, List.length_cons, List.length_singleton] at auth
  refine members_foldl_assign ?_
  simp only [asignaciones, List.map_cons, List.map_nil, List.sum_cons, List.sum_nil, Value.size,
    slotSize, Document.empty, capacidad, Modo.bytes]
  omega

/-- And all of it is read. -/
theorem readMembers_store {data : Datos} (acotada : data.Acotada) :
    (Document.readMembers slotSize Clave.nombre (store data) (.empty capacidad)).members =
      asignaciones data := by
  have auth := length_texto_le data.autenticationMode.bytes
  have id := length_texto_deviceID acotada
  have serie := (length_texto_le data.deviceSerNum).trans acotada.deviceSerNum
  have policy := (length_texto_le data.policy).trans acotada.policy
  rw [Modo.bytes, List.length_cons, List.length_singleton] at auth
  rw [store_eq acotada]
  refine members_readMembers ?_
  have cada : ∀ member ∈ asignaciones data,
      (Clave.nombre member.1).length + 1 + slotSize + member.2.size ≤ 38 + member.2.size := by
    intro member _
    have nombre := length_nombre_le member.1
    rw [slotSize]
    omega
  refine (List.sum_le_sum cada).trans ?_
  simp only [asignaciones, List.map_cons, List.map_nil, List.sum_cons, List.sum_nil, Value.size,
    Document.empty, capacidad, Modo.bytes]
  omega

/-! ## What is loaded -/

/-- The texts have no terminator inside. -/
structure Datos.Escrita (data : Datos) : Prop where
  modo : 0 ∉ data.autenticationMode.bytes
  serie : 0 ∉ data.deviceSerNum
  cabe : data.deviceSerNum.length < 30
  policy : data.policy.length = 3 ∧ 0 ∉ data.policy

theorem Datos.Escrita.acotada {data : Datos} (escrita : data.Escrita) : data.Acotada :=
  ⟨escrita.cabe.le, escrita.policy.1.le⟩

/-- The two configurations are the same, `device_ID` up to its terminator. -/
structure Datos.Misma (data otra : Datos) : Prop where
  firmware : otra.firmwareESP = data.firmwareESP ∧ otra.firmwarePSOC = data.firmwarePSOC
  potencia : otra.potenciaContratada1 = data.potenciaContratada1 ∧
    otra.potenciaContratada2 = data.potenciaContratada2
  limite : otra.installCurrentLimit = data.installCurrentLimit ∧ otra.cdp = data.cdp
  modo : otra.autenticationMode = data.autenticationMode
  serie : otra.deviceSerNum = data.deviceSerNum
  policy : otra.policy = data.policy
  flash : otra.dataCleared = data.dataCleared
  malos : otra.countReiniciosMalos = data.countReiniciosMalos
  placa : otra.veltV = data.veltV ∧ otra.medidor485 = data.medidor485
  deviceID : ∀ i < 12, (∀ j < i, data.deviceID j ≠ 0) → otra.deviceID i = data.deviceID i

section Cargar

variable {heap : Clave → Nat → UInt8} {data ram : Datos}

/-- The value of a member that has been stored. -/
theorem find_store (acotada : data.Acotada) (clave : Clave) :
    (Document.readMembers slotSize Clave.nombre (store data) (.empty capacidad)).find clave =
      ((asignaciones data).lookup clave).getD .null := by
  rw [Document.find, readMembers_store acotada]

theorem numero16_toNat (x : UInt16) : UInt16.ofNat (numero 65536 (.number x.toNat)) = x := by
  rw [numero, if_pos x.toNat_lt]
  exact UInt16.ofNat_toNat

theorem numero8_toNat (x : UInt8) : UInt8.ofNat (numero 256 (.number x.toNat)) = x := by
  rw [numero, if_pos x.toNat_lt]
  exact UInt8.ofNat_toNat

/-- What a copied text leaves in the places it takes. -/
theorem begins_punteroA (mem : Nat → UInt8) (bytes : List UInt8) :
    Begins (punteroA mem (.text bytes)) (bytes ++ [0]) :=
  begins_write_zero _ _

theorem bytes_zero (mem : Nat → UInt8) (len : Nat) :
    bytes mem 0 len = (List.range len).map mem := by
  simp only [bytes, Nat.zero_add]

/-- A text that fills its array is loaded whole. -/
theorem bytes_punteroA {mem : Nat → UInt8} {texto : List UInt8} :
    bytes (punteroA mem (.text texto)) 0 texto.length = texto := by
  rw [bytes_zero]
  exact (begins_punteroA mem texto).left.eq_map

/-- A text that is shorter than its array is loaded with its terminator. -/
theorem texto_punteroA {mem : Nat → UInt8} {serie : List UInt8} (sin : 0 ∉ serie)
    (cabe : serie.length < 30) : texto (bytes (punteroA mem (.text serie)) 0 30) = serie := by
  rw [bytes_zero]
  exact cString_of_begins (begins_punteroA mem serie) sin cabe

/-- The text of an array is that of its characters and of those behind it, up to the first
terminator. -/
theorem getElem?_texto {chars detras : List UInt8} {i : Nat} (dentro : i < chars.length)
    (sin : ∀ j < i, chars[j]? ≠ some 0) :
    (texto (chars ++ detras) ++ [0])[i]? = chars[i]? := by
  induction chars generalizing i with
  | nil => exact absurd dentro (Nat.not_lt_zero i)
  | cons char chars ih =>
      cases i with
      | zero => by_cases cero : char = 0 <;> simp [texto, cero]
      | succ i =>
          have otro : char ≠ 0 := by simpa using sin 0 (Nat.succ_pos i)
          have detrasDe := ih (i := i) (by simpa using dentro) fun j antes => by
            simpa using sin (j + 1) (Nat.succ_lt_succ antes)
          simpa [texto, otro] using detrasDe

/-- What is stored is what is loaded, over any configuration and whatever is behind the texts
in memory. -/
theorem misma_load_store (escrita : data.Escrita) : data.Misma (load heap (store data) ram) := by
  have acotada := escrita.acotada
  constructor
  case firmware =>
    simp only [load, jsonToCarac, find_store acotada]
    exact ⟨numero16_toNat _, numero16_toNat _⟩
  case potencia =>
    simp only [load, jsonToCarac, find_store acotada]
    exact ⟨numero16_toNat _, numero16_toNat _⟩
  case limite =>
    simp only [load, jsonToCarac, find_store acotada]
    exact ⟨numero8_toNat _, numero8_toNat _⟩
  case modo =>
    have begins := (begins_punteroA (heap .authMode) data.autenticationMode.bytes).left
    simp only [load, jsonToCarac, find_store acotada]
    rw [show ((asignaciones data).lookup .authMode).getD .null =
      .text (texto data.autenticationMode.bytes) from rfl, texto_of_notMem escrita.modo]
    exact congrArg₂ Modo.mk (Option.some.inj (begins 0 Nat.two_pos)).symm
      (Option.some.inj (begins 1 Nat.one_lt_two)).symm
  case serie =>
    simp only [load, jsonToCarac, find_store acotada]
    rw [show ((asignaciones data).lookup .deviceSerNum).getD .null =
      .text (texto data.deviceSerNum) from rfl, texto_of_notMem escrita.serie]
    exact texto_punteroA escrita.serie escrita.cabe
  case policy =>
    simp only [load, jsonToCarac, find_store acotada]
    rw [show ((asignaciones data).lookup .policy).getD .null =
      .text (texto data.policy) from rfl, texto_of_notMem escrita.policy.2, ← escrita.policy.1]
    exact bytes_punteroA
  case flash =>
    simp only [load, jsonToCarac, find_store acotada]
    exact numero8_toNat _
  case malos =>
    simp only [load, jsonToCarac, find_store acotada]
    exact numero8_toNat _
  case placa =>
    simp only [load, jsonToCarac, find_store acotada]
    exact ⟨numero8_toNat _, numero8_toNat _⟩
  case deviceID =>
    intro i dentro sin
    have chars : ∀ j < 12, (bytes data.deviceID 0 12)[j]? = some (data.deviceID j) := by
      intro j dentro
      simp [bytes, dentro]
    have copiado := @getElem?_texto (bytes data.deviceID 0 12) data.deviceSerNum i
      (by simpa [bytes] using dentro) fun j antes => by
        simpa [chars j (antes.trans dentro)] using sin j antes
    rw [chars i dentro] at copiado
    obtain ⟨largo, -⟩ := List.getElem?_eq_some_iff.mp copiado
    have escrito := begins_punteroA (heap .deviceID)
      (texto (bytes data.deviceID 0 12 ++ data.deviceSerNum)) i largo
    simp only [load, jsonToCarac, find_store acotada]
    rw [show ((asignaciones data).lookup .deviceID).getD .null =
      .text (texto (bytes data.deviceID 0 12 ++ data.deviceSerNum)) from rfl, bytes_zero,
      write_map_range, if_pos dentro]
    exact Option.some.inj (escrito.symm.trans copiado)

/-- The document has room for every member when it is written and when it is read, and what
is loaded is what has been stored. -/
theorem load_store (escrita : data.Escrita) :
    store data = asignaciones data ∧
      (Document.readMembers slotSize Clave.nombre (store data) (.empty capacidad)).members =
        asignaciones data ∧
      data.Misma (load heap (store data) ram) :=
  ⟨store_eq escrita.acotada, readMembers_store escrita.acotada, misma_load_store escrita⟩

/-- The default configuration with a serial number, among bytes that are not zero. -/
theorem load_store_serie :
    let data : Datos := { Control.inicial.configuracion with
      deviceSerNum := List.replicate 20 0x46
      policy := [0x41, 0x4C, 0x4C] }
    store data = asignaciones data ∧
      (Document.readMembers slotSize Clave.nombre (store data) (.empty capacidad)).members =
        asignaciones data ∧
      data.Misma (load (fun _ _ => 0xA5) (store data) data) :=
  load_store ⟨by decide, by decide, by decide, by decide⟩

end Cargar

/-! ## The serial number -/

/-- The value of a hexadecimal digit. -/
def cifra (char : UInt8) : Option Nat :=
  if 48 ≤ char ∧ char ≤ 57 then some (char.toNat - 48)
  else if 65 ≤ char ∧ char ≤ 70 then some (char.toNat - 55)
  else if 97 ≤ char ∧ char ≤ 102 then some (char.toNat - 87)
  else none

/-- The digits at the beginning of a text. -/
def cifras : List UInt8 → List Nat
  | [] => []
  | char :: chars => ((cifra char).map fun valor => valor :: cifras chars).getD []

/-- `isspace` -/
def espacio (char : UInt8) : Bool :=
  char == 32 || (9 ≤ char && char ≤ 13)

/-- What is left of a text behind `0x`, when a digit follows. -/
def sinPrefijo : List UInt8 → List UInt8
  | 48 :: equis :: char :: chars =>
      if (equis == 120 || equis == 88) && (cifra char).isSome then char :: chars
      else 48 :: equis :: char :: chars
  | chars => chars

/-- `strtol` in base 16, whose result has 32 bits. -/
def strtol16 (chars : List UInt8) : Int :=
  let chars := chars.dropWhile espacio
  let (menos, chars) : Bool × List UInt8 :=
    match chars with
    | 45 :: chars => (true, chars)
    | 43 :: chars => (false, chars)
    | chars => (false, chars)
  let valor : Nat := (cifras (sinPrefijo chars)).foldl (fun valor cifra => 16 * valor + cifra) 0
  if menos then max (-(valor : Int)) (-2147483648) else min valor 2147483647

/-- `convertSN`: what it leaves in `deviceSerNumFlash`.  Its array of two characters has no
terminator; `pila` is what follows it on the stack. -/
def convertSN (pila : List UInt8) (deviceSerNum : List UInt8) : List UInt8 :=
  (List.range 10).map fun j =>
    .ofInt (strtol16 (deviceSerNum.getD (2 * j) 0 :: deviceSerNum.getD (2 * j + 1) 0 :: pila))

/-- The digits of a serial number, as `startSystem` prints them. -/
def impreso (serie : List UInt8) : List UInt8 :=
  serie.flatMap fun byte : UInt8 =>
    [Control.cifraHex (byte >>> 4), Control.cifraHex (byte &&& 0x0F)]

theorem cifra_cifraHex {x : UInt8} (menor : x < 16) :
    cifra (Control.cifraHex x) = some x.toNat := by
  have tabla : ∀ x : Fin 16, cifra (Control.cifraHex (.ofNat x.val)) = some x.val := by decide
  have valor := tabla ⟨x.toNat, menor⟩
  simpa using valor

theorem cifraHex_rango {x : UInt8} (menor : x < 16) :
    48 ≤ Control.cifraHex x ∧ Control.cifraHex x ≤ 70 := by
  have tabla : ∀ x : Fin 16, 48 ≤ Control.cifraHex (.ofNat x.val) ∧
      Control.cifraHex (.ofNat x.val) ≤ 70 := by decide
  simpa using tabla ⟨x.toNat, menor⟩

theorem cifras_cons {char : UInt8} {valor : Nat} (es : cifra char = some valor)
    (chars : List UInt8) : cifras (char :: chars) = valor :: cifras chars := by
  simp [cifras, es]

theorem alta_lt (byte : UInt8) : byte >>> 4 < 16 := by
  have menor := byte.toNat_lt
  rw [UInt8.lt_iff_toNat_lt, UInt8.toNat_shiftRight]
  simp [Nat.shiftRight_eq_div_pow]
  omega

theorem baja_lt (byte : UInt8) : byte &&& 0x0F < 16 := by
  rw [UInt8.lt_iff_toNat_lt, UInt8.toNat_and]
  exact Nat.lt_of_le_of_lt Nat.and_le_right (by decide)

theorem alta_baja (byte : UInt8) :
    16 * (byte >>> 4).toNat + (byte &&& 0x0F).toNat = byte.toNat := by
  have menor := byte.toNat_lt
  have mascara : byte.toNat &&& 15 = byte.toNat % 16 := Nat.and_two_pow_sub_one_eq_mod _ 4
  have parte : (byte >>> 4).toNat = byte.toNat / 16 := by
    rw [UInt8.toNat_shiftRight, Nat.shiftRight_eq_div_pow]
    rfl
  have resto : (byte &&& 0x0F).toNat = byte.toNat % 16 := (UInt8.toNat_and _ _).trans mascara
  omega

/-- A text that begins with two digits has neither blanks, nor a sign, nor a prefix. -/
theorem strtol16_eq {alta baja : UInt8} (desde : 48 ≤ alta) (hasta : baja ≤ 70)
    (pila : List UInt8) :
    strtol16 (alta :: baja :: pila) =
      min (((cifras (alta :: baja :: pila)).foldl (fun valor cifra => 16 * valor + cifra) 0 : Nat) :
        Int) 2147483647 := by
  have blanco : espacio alta = false := by
    simp only [espacio]
    grind
  have equis : (baja == 120 || baja == 88) = false := by grind
  have prefijo : sinPrefijo (alta :: baja :: pila) = alta :: baja :: pila := by
    unfold sinPrefijo
    split
    · rename_i igual
      cases igual
      rw [equis]
      rfl
    · rfl
  have menos : alta ≠ 45 := by grind
  have mas : alta ≠ 43 := by grind
  rw [strtol16, List.dropWhile_cons_of_neg (by simp [blanco])]
  simp only
  split
  · rename_i igual
    cases igual
    exact absurd rfl menos
  · rename_i igual
    cases igual
    exact absurd rfl mas
  · simp [prefijo]

/-- The digits of a byte are read before what follows them. -/
theorem strtol16_impreso (byte : UInt8) (pila : List UInt8) :
    strtol16 (Control.cifraHex (byte >>> 4) :: Control.cifraHex (byte &&& 0x0F) :: pila) =
      min (((cifras pila).foldl (fun valor cifra => 16 * valor + cifra) byte.toNat : Nat) : Int)
        2147483647 := by
  rw [strtol16_eq (cifraHex_rango (alta_lt byte)).1 (cifraHex_rango (baja_lt byte)).2,
    cifras_cons (cifra_cifraHex (alta_lt byte)), cifras_cons (cifra_cifraHex (baja_lt byte)),
    List.foldl_cons, List.foldl_cons, Nat.mul_zero, Nat.zero_add, alta_baja]

theorem impreso_cons (byte : UInt8) (serie : List UInt8) :
    impreso (byte :: serie) =
      Control.cifraHex (byte >>> 4) :: Control.cifraHex (byte &&& 0x0F) :: impreso serie :=
  rfl

/-- The two digits of a byte are in its two places. -/
theorem getD_impreso {serie : List UInt8} {j : Nat} (dentro : j < serie.length) :
    (impreso serie).getD (2 * j) 0 = Control.cifraHex (serie[j] >>> 4) ∧
      (impreso serie).getD (2 * j + 1) 0 = Control.cifraHex (serie[j] &&& 0x0F) := by
  induction serie generalizing j with
  | nil => exact absurd dentro (Nat.not_lt_zero j)
  | cons byte serie ih =>
      rw [impreso_cons]
      cases j with
      | zero => exact ⟨rfl, rfl⟩
      | succ j => simpa [Nat.mul_succ] using ih (j := j) (by simpa using dentro)

/-- Each byte is read by itself. -/
theorem convertSN_impreso (pila : List UInt8) {serie : List UInt8} (diez : serie.length = 10) :
    convertSN pila (impreso serie) = serie.map fun byte => .ofInt (min
      (((cifras pila).foldl (fun valor cifra => 16 * valor + cifra) byte.toNat : Nat) : Int)
        2147483647) := by
  apply List.ext_getElem
  · simp [convertSN, diez]
  · intro j dentro dentro'
    have cabe : j < serie.length := by simpa using dentro'
    obtain ⟨alta, baja⟩ := getD_impreso cabe
    simp only [convertSN, List.getElem_map, List.getElem_range, alta, baja, strtol16_impreso]

theorem foldl_cifras (cifras : List Nat) (valor : Nat) :
    cifras.foldl (fun valor cifra => 16 * valor + cifra) valor =
      16 ^ cifras.length * valor + cifras.foldl (fun valor cifra => 16 * valor + cifra) 0 := by
  induction cifras generalizing valor with
  | nil => simp
  | cons cifra cifras ih =>
      rw [List.foldl_cons, List.foldl_cons, ih, ih (16 * 0 + cifra), List.length_cons, pow_succ]
      ring

theorem toNat_ofInt_min (n : Nat) :
    (UInt8.ofInt (min (n : Int) 2147483647)).toNat = min n 2147483647 % 256 := by
  rw [UInt8.ofInt, UInt8.toNat_ofNat']
  omega

/-- The number that is kept in flash is the one that was given, for every serial number,
exactly when no digit follows the two characters on the stack. -/
theorem convertSN_impreso_iff (pila : List UInt8) :
    (∀ serie : List UInt8, serie.length = 10 → convertSN pila (impreso serie) = serie) ↔
      cifras pila = [] := by
  constructor
  · intro todas
    by_contra hay
    have largo : 0 < (cifras pila).length := List.length_pos_iff.mpr hay
    -- a digit more and the lowest one is the same for the bytes 0 and 1
    have cada : ∀ byte : UInt8, byte.toNat < 255 →
        (16 ^ (cifras pila).length * byte.toNat +
          (cifras pila).foldl (fun valor cifra => 16 * valor + cifra) 0) % 256 = byte.toNat := by
      intro byte menor
      have leida := todas (List.replicate 10 byte) rfl
      rw [@convertSN_impreso pila (List.replicate 10 byte) rfl, List.map_replicate,
        foldl_cifras] at leida
      have igual := congrArg UInt8.toNat
        ((List.replicate_inj.mp leida).2.resolve_left (by decide))
      rw [toNat_ofInt_min] at igual
      omega
    have cero : _ % 256 = 0 := cada 0 (by decide)
    have uno : _ % 256 = 1 := cada 1 (by decide)
    obtain ⟨k, igual⟩ := Nat.exists_eq_succ_of_ne_zero largo.ne'
    rw [igual, pow_succ] at cero uno
    simp only [UInt8.toNat_zero, UInt8.toNat_one, Nat.mul_zero, Nat.mul_one] at cero uno
    omega
  · intro sin serie diez
    rw [convertSN_impreso pila diez, sin]
    refine List.map_id'' (fun byte => UInt8.toNat_inj.mp ?_) serie
    have menor := byte.toNat_lt
    rw [List.foldl_nil, toNat_ofInt_min]
    omega

end VeltiumCharger.Arranque
