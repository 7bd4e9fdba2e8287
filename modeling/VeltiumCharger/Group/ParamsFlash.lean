import VeltiumCharger.Group.Flash
import VeltiumCharger.Group.Maestro

/-!
# The parameters of the group in flash

`Send_Params` and the `PARAMS` branch of `hnd_get` build a JSON object,
`New_Params` decodes it once for the memory of a master and once for the flash,
and `Get_Stored_Group_Params` reads the bytes back.
-/

namespace VeltiumCharger.Group

open VeltiumCharger.Buffer

/-! ## The message -/

/-- The items of a `PARAMS` object, as `valueint` gives them. -/
structure MensajeParams where
  cdp : Int
  contract : Int
  active : Int
  master : Int
  potMax : Int

/-- `Send_Params`, and the `PARAMS` branch of `hnd_get`. -/
def sendParams (params : CaracGroupParams) : MensajeParams where
  cdp := params.cdp.toNat
  contract := params.contractPower.toNat
  active := if params.groupActive ≠ 0 then 1 else 0
  master := if params.groupMaster ≠ 0 then 1 else 0
  potMax := params.potenciaMax.toNat

/-- What `New_Params` makes of the items for the memory of a master. -/
def MensajeParams.parametros (m : MensajeParams) : Parametros where
  cdp := UInt8.ofInt m.cdp
  contract := UInt16.ofInt m.contract
  potMax := UInt8.ofInt m.potMax

/-- `buffer` of `New_Params`. -/
def MensajeParams.buffer (m : MensajeParams) (groupMaster : UInt8) : List UInt8 :=
  let contratada := UInt16.ofInt m.contract
  let maxima := (UInt8.ofInt m.potMax).toUInt16
  [groupMaster, UInt8.ofInt m.active, UInt8.ofInt m.cdp,
    (contratada &&& 0x00FF).toUInt8, ((contratada >>> 8) &&& 0x00FF).toUInt8,
    (maxima &&& 0x00FF).toUInt8, ((maxima >>> 8) &&& 0x00FF).toUInt8]

/-- `New_Params`: what it leaves in `group_data`. -/
def newParamsData (m : MensajeParams) (s : GroupState) (data : Nat → UInt8) : Nat → UInt8 :=
  escribirParams 0 (m.buffer s.params.groupMaster) data

/-- The four values of `params`. -/
structure CaracGroupParams.MismosParams (params other : CaracGroupParams) : Prop where
  cdp : other.cdp = params.cdp
  contractPower : other.contractPower = params.contractPower
  potenciaMax : other.potenciaMax = params.potenciaMax
  activo : other.groupActive ≠ 0 ↔ params.groupActive ≠ 0

/-! ## Bytes and words -/

theorem ofInt_toNat_uint8 (x : UInt8) : UInt8.ofInt (x.toNat : Int) = x := by
  have size := x.toNat_lt
  have same : UInt8.ofInt (x.toNat : Int) = UInt8.ofNat x.toNat := by
    unfold UInt8.ofInt
    congr 1
    omega
  rw [same, UInt8.ofNat_toNat]

theorem ofInt_toNat_uint16 (x : UInt16) : UInt16.ofInt (x.toNat : Int) = x := by
  have size := x.toNat_lt
  have same : UInt16.ofInt (x.toNat : Int) = UInt16.ofNat x.toNat := by
    unfold UInt16.ofInt
    congr 1
    omega
  rw [same, UInt16.ofNat_toNat]

/-- A word keeps its value as a byte when it is one. -/
theorem ofInt_byte_iff (x : UInt16) :
    (UInt8.ofInt (x.toNat : Int)).toUInt16 = x ↔ x.toNat ≤ 255 := by
  have cast : (UInt8.ofInt (x.toNat : Int)).toUInt16.toNat = x.toNat % 256 := by
    have same : UInt8.ofInt (x.toNat : Int) = UInt8.ofNat x.toNat := by
      unfold UInt8.ofInt
      apply UInt8.toNat_inj.mp
      rw [UInt8.toNat_ofNat', UInt8.toNat_ofNat']
      omega
    rw [same, UInt8.toNat_toUInt16, UInt8.toNat_ofNat']
  rw [← UInt16.toNat_inj, cast]
  omega

/-- The two bytes of a word give it back. -/
theorem bytes_word (x : UInt16) :
    (x &&& 0x00FF).toUInt8.toUInt16 + ((x >>> 8) &&& 0x00FF).toUInt8.toUInt16 * 256 = x := by
  have size := x.toNat_lt
  have low : (x &&& 0x00FF).toUInt8.toNat = x.toNat % 256 := by
    rw [UInt16.toNat_toUInt8, UInt16.toNat_and, show (0x00FF : UInt16).toNat = 2 ^ 8 - 1 from rfl,
      Nat.and_two_pow_sub_one_eq_mod, Nat.mod_mod]
  have high : ((x >>> 8) &&& 0x00FF).toUInt8.toNat = x.toNat / 256 := by
    rw [UInt16.toNat_toUInt8, UInt16.toNat_and, show (0x00FF : UInt16).toNat = 2 ^ 8 - 1 from rfl,
      Nat.and_two_pow_sub_one_eq_mod, UInt16.toNat_shiftRight, Nat.shiftRight_eq_div_pow,
      show (8 : UInt16).toNat % 16 = 8 from rfl]
    omega
  apply UInt16.toNat_inj.mp
  rw [UInt16.toNat_add, UInt16.toNat_mul, UInt8.toNat_toUInt16, UInt8.toNat_toUInt16, low, high,
    show (256 : UInt16).toNat = 256 from rfl]
  omega

/-! ## The two decodings -/

section Decodificar

variable {params : CaracGroupParams} {s destino : GroupState} {data ram heap : Nat → UInt8}

/-- In the memory of a master: the power limit as a byte, and the flag it had. -/
theorem newParams_mismos (master : s.params.groupMaster ≠ 0) :
    params.MismosParams (newParams (some (sendParams params).parametros) s).params ↔
      params.potenciaMax.toNat ≤ 255 ∧ (s.params.groupActive ≠ 0 ↔ params.groupActive ≠ 0) := by
  have taken : (newParams (some (sendParams params).parametros) s).params =
      { s.params with
        cdp := params.cdp, contractPower := params.contractPower
        potenciaMax := (UInt8.ofInt (params.potenciaMax.toNat : Int)).toUInt16 } := by
    unfold newParams
    dsimp only
    rw [if_pos master]
    simp only [MensajeParams.parametros, sendParams, ofInt_toNat_uint8, ofInt_toNat_uint16]
  rw [taken, ← ofInt_byte_iff]
  constructor
  · rintro ⟨_, _, potencia, activo⟩
    exact ⟨potencia, activo⟩
  · rintro ⟨potencia, activo⟩
    exact ⟨rfl, rfl, potencia, activo⟩

/-- The bytes of a message, read back. -/
theorem getStoredGroupParams_mismos {bytes : Nat → UInt8}
    (leidos : ∀ i, i < sizeOfGroupParams →
      ((sendParams params).buffer s.params.groupMaster)[i]? = some (bytes i)) :
    params.MismosParams (getStoredGroupParams bytes destino).params ↔
      params.potenciaMax.toNat ≤ 255 := by
  have activo := leidos 1 (by decide)
  have cdp := leidos 2 (by decide)
  have contractLow := leidos 3 (by decide)
  have contractHigh := leidos 4 (by decide)
  have potLow := leidos 5 (by decide)
  have potHigh := leidos 6 (by decide)
  simp only [MensajeParams.buffer, sendParams, ofInt_toNat_uint16, ofInt_toNat_uint8,
    List.getElem?_cons_succ, List.getElem?_cons_zero, Option.some.injEq]
    at activo cdp contractLow contractHigh potLow potHigh
  rw [← ofInt_byte_iff]
  have contract := bytes_word params.contractPower
  have potencia := bytes_word (UInt8.ofInt (params.potenciaMax.toNat : Int)).toUInt16
  rw [contractLow, contractHigh] at contract
  rw [potLow, potHigh] at potencia
  have flag : bytes 1 ≠ 0 ↔ params.groupActive ≠ 0 := by
    rw [← activo]
    split_ifs with active
    · exact ⟨fun _ => active, fun _ => by decide⟩
    · exact ⟨fun differs => absurd rfl differs, fun differs => absurd differs active⟩
  constructor
  · rintro ⟨_, _, read, _⟩
    exact potencia.symm.trans read
  · exact fun read => ⟨cdp.symm, contract, potencia.trans read, flag⟩

/-- What the message leaves in flash. -/
theorem buffer_newParamsData (m : MensajeParams) {i : Nat} (below : i < sizeOfGroupParams) :
    (m.buffer s.params.groupMaster)[i]? = some (groupParams (newParamsData m s data) i) :=
  write_inside below

end Decodificar

/-! ## The round trip -/

/-- A master that receives the values of `params` has them in memory. -/
def ParamsEnMemoria (params : CaracGroupParams) (s : GroupState) : Prop :=
  s.params.groupMaster ≠ 0 →
    params.MismosParams (newParams (some (sendParams params).parametros) s).params

/-- A member `s` that receives them stores what a load over `ram` gives back to
`destino`. -/
def ParamsEnFlash (params : CaracGroupParams) (s : GroupState) (data ram heap : Nat → UInt8)
    (destino : GroupState) : Prop :=
  params.MismosParams (getStoredGroupParams
    (groupParams (groupLoad heap (groupStore (newParamsData (sendParams params) s data)) ram))
    destino).params

/-- The parameters have room beside the text of the group. -/
def CabenParams (data : Nat → UInt8) : Prop :=
  (textoGuardado data).length ≤ 866 ∨ 1007 < (textoGuardado data).length

section Ida

variable {params : CaracGroupParams} {s destino : GroupState} {data ram heap : Nat → UInt8}

theorem paramsEnMemoria_iff (small : params.potenciaMax.toNat ≤ 255) :
    ParamsEnMemoria params s ↔
      (s.params.groupMaster ≠ 0 → (s.params.groupActive ≠ 0 ↔ params.groupActive ≠ 0)) := by
  constructor
  · exact fun kept master => ((newParams_mismos master).mp (kept master)).2
  · exact fun flag master => (newParams_mismos master).mpr ⟨small, flag master⟩

/-- In the same memory the parameters come back as they were stored. -/
theorem paramsEnFlash_mismo_iff :
    ParamsEnFlash params s data (newParamsData (sendParams params) s data) heap destino ↔
      params.potenciaMax.toNat ≤ 255 := by
  apply getStoredGroupParams_mismos (s := s)
  intro i below
  rw [buffer_newParamsData _ below, groupParams, groupParams,
    groupLoad_mismo _ _ (Nat.le_add_right _ _)]

/-- So they do over any memory if they have room. -/
theorem paramsEnFlash_iff (caben : CabenParams (newParamsData (sendParams params) s data)) :
    ParamsEnFlash params s data ram heap destino ↔ params.potenciaMax.toNat ≤ 255 := by
  apply getStoredGroupParams_mismos (s := s)
  intro i below
  rw [buffer_newParamsData _ below, groupLoad_params caben below]

/-- Without room the last byte is what memory held. -/
theorem cabenParams_of_enFlash
    (enFlash : ∀ ram, ParamsEnFlash params s data ram heap destino) :
    CabenParams (newParamsData (sendParams params) s data) := by
  by_contra lacks
  have zero := (enFlash fun _ => 0).potenciaMax
  have one := (enFlash (Function.update (fun _ => 0) (maxGroupBufferSize + 6) 1)).potenciaMax
  have low : groupParams (groupLoad heap (groupStore (newParamsData (sendParams params) s data))
      (Function.update (fun _ => 0) (maxGroupBufferSize + 6) 1)) 5 =
      groupParams (groupLoad heap (groupStore (newParamsData (sendParams params) s data))
        fun _ => 0) 5 :=
    groupLoad_congr (Nat.le_add_right _ _) (Function.update_of_ne (by omega) _ _)
  unfold getStoredGroupParams at zero one
  dsimp only at zero one
  rw [groupLoad_params_of_not lacks] at zero one
  rw [low, ← zero] at one
  have high := (UInt16.add_right_inj _).mp one
  rw [groupParams, Function.update_self] at high
  exact absurd high (by decide)

end Ida

/-- When a message leaves its four values in the memory of a master and, over the
same memory or over any, in flash. -/
theorem params_ida_y_vuelta (params : CaracGroupParams) (s : GroupState) (data : Nat → UInt8) :
    ((ParamsEnMemoria params s ∧ ∀ heap destino,
          ParamsEnFlash params s data (newParamsData (sendParams params) s data) heap destino) ↔
        params.potenciaMax.toNat ≤ 255 ∧
          (s.params.groupMaster ≠ 0 → (s.params.groupActive ≠ 0 ↔ params.groupActive ≠ 0))) ∧
      ((ParamsEnMemoria params s ∧
          ∀ heap destino ram, ParamsEnFlash params s data ram heap destino) ↔
        params.potenciaMax.toNat ≤ 255 ∧
          (s.params.groupMaster ≠ 0 → (s.params.groupActive ≠ 0 ↔ params.groupActive ≠ 0)) ∧
          CabenParams (newParamsData (sendParams params) s data)) := by
  constructor
  · constructor
    · rintro ⟨memoria, flash⟩
      have small := paramsEnFlash_mismo_iff.mp (flash (fun _ => 0) s)
      exact ⟨small, (paramsEnMemoria_iff small).mp memoria⟩
    · rintro ⟨small, flag⟩
      exact ⟨(paramsEnMemoria_iff small).mpr flag,
        fun _ _ => paramsEnFlash_mismo_iff.mpr small⟩
  · constructor
    · rintro ⟨memoria, flash⟩
      have caben := cabenParams_of_enFlash (flash (fun _ => 0) s)
      have small := (paramsEnFlash_iff caben).mp (flash (fun _ => 0) s fun _ => 0)
      exact ⟨small, (paramsEnMemoria_iff small).mp memoria, caben⟩
    · rintro ⟨small, flag, caben⟩
      exact ⟨(paramsEnMemoria_iff small).mpr flag,
        fun _ _ _ => (paramsEnFlash_iff caben).mpr small⟩

/-- A limit of 30 kW, 300 hundreds of watts, becomes one of 4.4 kW. -/
theorem potencia_recortada :
    ¬ ParamsEnMemoria (.conPotencia 300) (grupoDe 1) ∧
      ¬ ParamsEnFlash (.conPotencia 300) (grupoDe 1) (fun _ => 0)
        (newParamsData (sendParams (.conPotencia 300)) (grupoDe 1) fun _ => 0) (fun _ => 0)
        (grupoDe 1) ∧
      (newParams (some (sendParams (.conPotencia 300)).parametros)
        (grupoDe 1)).params.potenciaMax = 44 := by
  refine ⟨fun memoria => ?_, fun flash => ?_, by decide⟩
  · exact absurd ((newParams_mismos (by decide)).mp (memoria (by decide))).1 (by decide)
  · exact absurd (paramsEnFlash_mismo_iff.mp flash) (by decide)

end VeltiumCharger.Group
