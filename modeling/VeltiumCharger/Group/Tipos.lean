import Mathlib.Logic.Function.Basic
import Mathlib.Tactic.Common

/-!
# Data model of a charging group

The records of `tipos.h` that group control reads and writes.  Fields of a
fixed machine width keep it; the counters that a pass recomputes are natural
numbers, reduced explicitly where the source's type is narrower than `int`.

An array is a function of its index.  Only the first `maxGroupSize` cells of
`charger_table` and `Circuitos` belong to the program's arrays; functions that
may leave them report it.
-/

namespace VeltiumCharger.Group

/-- `MAX_GROUP_SIZE`. -/
def maxGroupSize : Nat := 40

/-! ## Pilot states -/

/-- `char HPT[3]`: the pilot state as text, filled from received reports
without any check. -/
structure Hpt where
  c0 : UInt8
  c1 : UInt8
  c2 : UInt8
  deriving DecidableEq, Repr

namespace Hpt

/-- The three bytes that `memcpy(HPT, "xy", 3)` writes. -/
def ofText (x y : Char) : Hpt :=
  ⟨x.toUInt8, y.toUInt8, 0⟩

/-- `!memcmp(HPT, "xy", 2)`. -/
def is (hpt : Hpt) (x y : Char) : Bool :=
  hpt.c0 == x.toUInt8 && hpt.c1 == y.toUInt8

/-- `!memcmp(HPT, "B", 1)`. -/
def startsB (hpt : Hpt) : Bool :=
  hpt.c0 == 'B'.toUInt8

/-- The states counted as connected by `Calculo_General`. -/
def connected (hpt : Hpt) : Bool :=
  hpt.is 'C' '2' || hpt.is 'C' '1' || hpt.is 'B' '2' || hpt.is 'B' '1'

/-- The states among which the eviction loop looks for the last one admitted. -/
def charging (hpt : Hpt) : Bool :=
  hpt.is 'C' '2' || hpt.is 'B' '2' || hpt.is 'C' '1'

/-- The states to which the `CALCULO` step gives a setpoint. -/
def assigned (hpt : Hpt) : Bool :=
  hpt.is 'C' '2' || hpt.startsB

/-- The states whose measurements `Calculo_General` clears. -/
def idle (hpt : Hpt) : Bool :=
  hpt.is 'A' '1' || hpt.is '0' 'V'

/-- Two different two-character prefixes exclude each other. -/
theorem is_eq_false (x' y' : Char) {hpt : Hpt} {x y : Char} (same : hpt.is x y = true)
    (different : (x.toUInt8 == x'.toUInt8 && y.toUInt8 == y'.toUInt8) = false) :
    hpt.is x' y' = false := by
  simp only [is, Bool.and_eq_true, beq_iff_eq] at same
  simpa [is, same.1, same.2] using different

theorem connected_eq_charging_or (hpt : Hpt) :
    hpt.connected = (hpt.charging || hpt.is 'B' '1') := by
  unfold connected charging
  grind

theorem connected_of_charging {hpt : Hpt} (charges : hpt.charging = true) :
    hpt.connected = true := by
  rw [connected_eq_charging_or, charges, Bool.true_or]

theorem charging_eq_false_of_isB1 {hpt : Hpt} (isB1 : hpt.is 'B' '1' = true) :
    hpt.charging = false := by
  simp only [charging, is_eq_false 'C' '2' isB1 (by decide),
    is_eq_false 'B' '2' isB1 (by decide), is_eq_false 'C' '1' isB1 (by decide), Bool.or_self]

theorem idle_eq_false_of_connected {hpt : Hpt} (isConnected : hpt.connected = true) :
    hpt.idle = false := by
  have excluded : ∀ {x y : Char}, hpt.is x y = true →
      (x.toUInt8 == 'A'.toUInt8 && y.toUInt8 == '1'.toUInt8) = false →
      (x.toUInt8 == '0'.toUInt8 && y.toUInt8 == 'V'.toUInt8) = false →
      hpt.idle = false := by
    intro x y same notA1 not0V
    rw [idle, is_eq_false _ _ same notA1, is_eq_false _ _ same not0V, Bool.or_self]
  simp only [connected, Bool.or_eq_true] at isConnected
  rcases isConnected with ((isC2 | isC1) | isB2) | isB1
  · exact excluded isC2 (by decide) (by decide)
  · exact excluded isC1 (by decide) (by decide)
  · exact excluded isB2 (by decide) (by decide)
  · exact excluded isB1 (by decide) (by decide)

theorem startsB_of_is {hpt : Hpt} {y : Char} (same : hpt.is 'B' y = true) :
    hpt.startsB = true := by
  simp only [is, Bool.and_eq_true] at same
  exact same.1

end Hpt

/-! ## Records -/

/-- `char name[9]`: eight identifying bytes; the ninth is always the
terminator. -/
abbrev Name := Fin 8 → UInt8

/-- `INADDR_NONE`. -/
def inaddrNone : UInt32 := 0xFFFFFFFF

/-- `carac_charger`. -/
structure CaracCharger where
  name : Name
  ip : UInt32
  hpt : Hpt
  fase : UInt8
  circuito : UInt8
  order : UInt8
  trifasico : UInt8
  consigna : UInt16
  current : UInt16
  currentB : UInt16
  currentC : UInt16
  delta : UInt16
  deltaTimer : UInt16
  period : UInt32
  conected : Bool
  chargeReq : Bool

namespace CaracCharger

/-- A record as the zero-initialised array and the default member
initialisers leave it. -/
def default : CaracCharger where
  name := fun _ => 0
  ip := 0
  hpt := ⟨0, 0, 0⟩
  fase := 1
  circuito := 1
  order := 0
  trifasico := 0
  consigna := 0
  current := 0
  currentB := 0
  currentC := 0
  delta := 0
  deltaTimer := 0
  period := 0
  conected := false
  chargeReq := false

instance : Inhabited CaracCharger := ⟨default⟩

/-- `CurrentB > 250 || CurrentC > 250`: the test by which a charger counts as
three-phase. -/
def threePhase (charger : CaracCharger) : Bool :=
  decide (250 < charger.currentB.toNat) || decide (250 < charger.currentC.toNat)

/-- The units of current a charger takes: three when its currents show it to be
three-phase. -/
def unidades (charger : CaracCharger) : Nat :=
  if charger.threePhase then 3 else 1

/-- `Circuito - 1`.  The index of a charger whose circuit is `0` lies outside
`Circuitos`, as in the source. -/
def circuitoIdx (charger : CaracCharger) : Nat :=
  (charger.circuito - 1).toNat

/-- `faseA = Fase - 1`, a `uint8_t`. -/
def faseA (charger : CaracCharger) : Nat :=
  (charger.fase - 1).toNat

/-- `faseB`, by the `switch` on `faseA`. -/
def faseB (charger : CaracCharger) : Nat :=
  match charger.faseA with
  | 0 => 1
  | 1 => 2
  | _ => 0

/-- `faseC`, by the `switch` on `faseA`. -/
def faseC (charger : CaracCharger) : Nat :=
  match charger.faseA with
  | 0 => 2
  | 2 => 1
  | _ => 0

end CaracCharger

/-- The phase and the circuit of a charger are among those there are. -/
structure CaracCharger.Cableado (circuitNumber : Nat) (charger : CaracCharger) : Prop where
  fase : 1 ≤ charger.fase.toNat ∧ charger.fase.toNat ≤ 3
  circuito : 1 ≤ charger.circuito.toNat ∧ charger.circuito.toNat ≤ circuitNumber

namespace CaracCharger

variable {circuitNumber : Nat} {charger : CaracCharger}

instance : Decidable (charger.Cableado circuitNumber) :=
  decidable_of_iff
    ((1 ≤ charger.fase.toNat ∧ charger.fase.toNat ≤ 3) ∧
      1 ≤ charger.circuito.toNat ∧ charger.circuito.toNat ≤ circuitNumber)
    ⟨fun ⟨fase, circuito⟩ => ⟨fase, circuito⟩, fun wired => ⟨wired.fase, wired.circuito⟩⟩

theorem cableado_congr {other : CaracCharger} (fase : charger.fase = other.fase)
    (circuito : charger.circuito = other.circuito) :
    charger.Cableado circuitNumber ↔ other.Cableado circuitNumber := by
  constructor
  · exact fun wired => ⟨fase ▸ wired.fase, circuito ▸ wired.circuito⟩
  · exact fun wired => ⟨fase ▸ wired.fase, circuito ▸ wired.circuito⟩

theorem toNat_sub_one_of_pos {x : UInt8} (positive : 1 ≤ x.toNat) :
    (x - 1).toNat = x.toNat - 1 := by
  have size := x.toNat_lt
  have one : (1 : UInt8).toNat = 1 := rfl
  rw [UInt8.toNat_sub]
  omega

theorem Cableado.faseA_lt (wired : charger.Cableado circuitNumber) : charger.faseA < 3 := by
  rcases wired.fase with ⟨positive, le⟩
  rw [faseA, toNat_sub_one_of_pos positive]
  omega

theorem Cableado.circuitoIdx_lt (wired : charger.Cableado circuitNumber) :
    charger.circuitoIdx < circuitNumber := by
  rcases wired.circuito with ⟨positive, le⟩
  rw [circuitoIdx, toNat_sub_one_of_pos positive]
  omega

end CaracCharger

/-- `carac_group_params`, less the fields group control does not read. -/
structure CaracGroupParams where
  groupMaster : UInt8
  groupActive : UInt8
  cdp : UInt8
  contractPower : UInt16
  potenciaMax : UInt16
  deriving DecidableEq, Repr

/-- `ContadorConfigurado()`. -/
def CaracGroupParams.contadorConfigurado (params : CaracGroupParams) : Bool :=
  (params.cdp >>> 4) &&& 1 != 0

/-- `(CDP >> 2) & 0x03`: 1 for a domestic meter, 2 for a total one. -/
def CaracGroupParams.medida (params : CaracGroupParams) : UInt8 :=
  (params.cdp >>> 2) &&& 3

/-- `carac_Contador`, less the fields group control does not read. -/
structure CaracContador where
  gatewayConectado : Bool
  medidorConectado : Bool
  power : Int

/-- `carac_fase`.  `corrienteDisponible` is a `float` that only ever holds
whole amperes. -/
structure CaracFase where
  numero : UInt8
  corrienteTotal : Nat
  conex : Nat
  consignaTotal : Nat
  corrienteSobrante : Int
  corrienteDisponible : Nat
  deriving DecidableEq, Repr

/-- `carac_circuito`, with its three phases `Fases`. -/
structure CaracCircuito where
  numero : UInt8
  limiteCorriente : UInt8
  fases : Nat → CaracFase

/-! ## State of group control -/

/-- The states of the task `LimiteConsumo`. -/
inductive ControlGrupoState
  | reposo
  | equilibrado
  | calculo
  deriving DecidableEq, Repr

/-- What happened to a charger, for stating properties of histories.  No
function of the program reads these. -/
inductive Suceso
  /-- The charger passed an admission test. -/
  | admision (index : Nat)
  /-- The charger was sent to `B1` and its request withdrawn. -/
  | expulsion (index : Nat)
  /-- The charger asked and there was no room for it. -/
  | rechazo (index : Nat)
  /-- The admission order of a disconnected charger was cleared. -/
  | baja (index : Nat)
  deriving DecidableEq, Repr

/-- The variables of group control: `charger_table`, `Circuitos`, the fields of
`ChargingGroup` and `ContadorExt` it uses, the globals and function statics of
`group_control.cpp`, and the history of what it did, newest first. -/
structure GroupState where
  chargerTable : Nat → CaracCharger
  chargerNumber : Nat
  circuitos : Nat → CaracCircuito
  circuitNumber : Nat
  params : CaracGroupParams
  newData : Bool
  contadorExt : CaracContador
  corrienteDisponibleTotal : Nat
  corrienteDisponibleLimitada : Nat
  consumoTotal : Nat
  conex : Nat
  conexConTri : Nat
  deltaTotal : Nat
  conexDelta : Nat
  recalcCount : Nat
  controlGrupoState : ControlGrupoState
  lastConex : Nat
  historial : List Suceso

/-- Every charger of the table is connected to an existing phase of an existing
circuit. -/
def GroupState.cableado (s : GroupState) : Prop :=
  ∀ i, i < s.chargerNumber → (s.chargerTable i).Cableado s.circuitNumber

instance (s : GroupState) : Decidable s.cableado :=
  inferInstanceAs (Decidable (∀ i, i < s.chargerNumber → _))

/-- A phase as its default member initialisers leave it. -/
def CaracFase.default : CaracFase where
  numero := 0
  corrienteTotal := 0
  conex := 0
  consignaTotal := 0
  corrienteSobrante := 0
  corrienteDisponible := 0

/-- A circuit with a limit and fresh phases. -/
def CaracCircuito.conLimite (limite : UInt8) : CaracCircuito where
  numero := 0
  limiteCorriente := limite
  fases := fun _ => CaracFase.default

/-- A reporting charger on phase 1 of circuit 1. -/
def CaracCharger.enEstado (x y : Char) (order : UInt8) : CaracCharger :=
  { CaracCharger.default with hpt := .ofText x y, order := order, conected := true }

/-- Parameters of a group without a meter that may take `potenciaMax` hundreds
of watts. -/
def CaracGroupParams.conPotencia (potenciaMax : UInt16) : CaracGroupParams where
  groupMaster := 1
  groupActive := 1
  cdp := 0
  contractPower := 0
  potenciaMax := potenciaMax

/-- Group control as its task starts, on a given table and given circuits. -/
def GroupState.inicio (params : CaracGroupParams) (chargers : List CaracCharger)
    (limites : List UInt8) : GroupState where
  chargerTable := fun i => chargers.getD i CaracCharger.default
  chargerNumber := chargers.length
  circuitos := fun k => CaracCircuito.conLimite (limites.getD k 32)
  circuitNumber := limites.length
  params := params
  newData := false
  contadorExt := { gatewayConectado := false, medidorConectado := false, power := 0 }
  corrienteDisponibleTotal := 0
  corrienteDisponibleLimitada := 0
  consumoTotal := 0
  conex := 0
  conexConTri := 0
  deltaTotal := 0
  conexDelta := 0
  recalcCount := 0
  controlGrupoState := .reposo
  lastConex := 0
  historial := []

end VeltiumCharger.Group
