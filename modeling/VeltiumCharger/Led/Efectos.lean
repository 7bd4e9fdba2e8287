import VeltiumCharger.Library.Loop

/-!
# The effects of the LEDs

The effects share a pointer into the seven LEDs, a brightness and a direction,
all bytes that wrap around.  Each effect is a function of these variables and
says which places of the array it writes, in their order.
-/

namespace VeltiumCharger.Led

open VeltiumCharger.Loop

/-- `NUM_PIXELS` -/
def numPixels : Nat := 7

def verde : UInt8 := 100
def naranjaOscuro : UInt8 := 20
def rojo : UInt8 := 1
def hueBlue : UInt8 := 160
def huePurple : UInt8 := 192

/-- `TIME_PARPADEO` -/
def timeParpadeo : UInt16 := 50

/-- The variables of `controlLed.cpp`, with the static ones of `OutWave`. -/
structure Leds where
  actualcolor : UInt8
  luminosidad : UInt8
  ledPointer : UInt8
  toggleLed : UInt8
  cntParpadeo : UInt16
  subiendo : Bool
  fadecolor : UInt8
  ledColor : UInt8
  luminosidadActual : UInt8
  pointer : UInt8
  down : Bool
  deriving DecidableEq, Repr

namespace Leds

/-- As the initialisers leave them. -/
def inicial : Leds where
  actualcolor := 0
  luminosidad := 90
  ledPointer := 0
  toggleLed := 0
  cntParpadeo := timeParpadeo
  subiendo := true
  fadecolor := 0
  ledColor := verde
  luminosidadActual := 85
  pointer := 0
  down := true

variable (s : Leds)

/-- `changeOne`: it writes one place. -/
def changeOne (color pixeln : UInt8) : Leds × List Nat :=
  ({ s with actualcolor := color }, [pixeln.toNat])

/-- `displayAll`: it writes none. -/
def displayAll (color : UInt8) : Leds :=
  { s with actualcolor := color }

/-! ## The effects -/

/-- `OutWave` -/
def outWave (color : UInt8) : Leds × List Nat :=
  if !s.down then
    let s := { s with luminosidad := s.luminosidad + 3 }
    let s :=
      if 100 ≤ s.luminosidad then
        let s := { s with pointer := s.pointer + 1, luminosidad := 0 }
        if 4 ≤ s.pointer then { s with luminosidad := 100, pointer := 0, down := true } else s
      else s
    let (s, primero) := s.changeOne color (3 - s.pointer)
    let (s, segundo) := s.changeOne color (3 + s.pointer)
    ({ s with luminosidadActual := 85 }, primero ++ segundo)
  else
    let s := { s with luminosidad := s.luminosidad - 1 }
    let s := s.displayAll color
    if s.luminosidad ≤ 2 then
      ({ s with luminosidad := 0, down := false, luminosidadActual := 85 }, List.range numPixels)
    else ({ s with luminosidadActual := 85 }, [])

/-- The places that `Kit` writes with the pointer at `p`. -/
def kitIndices (p : Nat) : List Nat :=
  (if 4 ≤ p then [p - 4] else []) ++ (if 3 ≤ p then [p - 3] else []) ++
    (if 3 ≤ p then [p - 2] else []) ++ (if 1 ≤ p then [p - 1] else []) ++ [p] ++
    (if p + 1 ≤ 6 then [p + 1] else []) ++ (if p + 2 ≤ 6 then [p + 2] else []) ++
    (if p + 3 ≤ 6 then [p + 3] else []) ++ (if p + 4 ≤ 6 then [p + 4] else [])

/-- `Kit` -/
def kit : Leds × List Nat :=
  let s :=
    if s.subiendo then
      let s := { s with ledPointer := s.ledPointer + 1 }
      if s.ledPointer = 6 then { s with subiendo := false } else s
    else
      let s := { s with ledPointer := s.ledPointer - 1 }
      if s.ledPointer = 0 then { s with subiendo := true } else s
  ({ s with luminosidadActual := 85 }, kitIndices s.ledPointer.toNat)

/-- `OLA` -/
def ola (color : UInt8) : Leds × List Nat :=
  let s :=
    if s.subiendo then
      let s := { s with luminosidad := s.luminosidad + 4 }
      if 90 ≤ s.luminosidad then
        let s := { s with ledPointer := s.ledPointer + 1, luminosidad := 0 }
        if 7 ≤ s.ledPointer then { s with ledPointer := 0, luminosidad := 90, subiendo := false }
        else s
      else s
    else
      let s := { s with luminosidad := s.luminosidad - 4 }
      if s.luminosidad ≤ 5 then
        let s := { s with ledPointer := s.ledPointer + 1, luminosidad := 90 }
        if 7 ≤ s.ledPointer then { s with ledPointer := 0, luminosidad := 0, subiendo := true }
        else s
      else s
  let (s, indices) := s.changeOne color s.ledPointer
  ({ s with luminosidadActual := 85 }, indices)

/-- `Fade` -/
def fade (color : UInt8) : Leds :=
  let s :=
    if s.subiendo then
      let s := { s with luminosidad := s.luminosidad + 1 }
      if 90 ≤ s.luminosidad then { s with subiendo := false } else s
    else
      let s := { s with luminosidad := s.luminosidad - 1 }
      if s.luminosidad ≤ 30 then { s with subiendo := true } else s
  { s.displayAll color with luminosidadActual := 85 }

/-- `FadeDoble` -/
def fadeDoble (color1 color2 : UInt8) : Leds :=
  let s := if s.fadecolor = 0 then { s with fadecolor := color1 } else s
  let s :=
    if s.subiendo then
      let s := { s with luminosidad := s.luminosidad + 1 }
      if 90 ≤ s.luminosidad then { s with subiendo := false, fadecolor := color1 } else s
    else
      let s := { s with luminosidad := s.luminosidad - 1 }
      if s.luminosidad ≤ 30 then { s with subiendo := true, fadecolor := color2 } else s
  { s.displayAll s.fadecolor with luminosidadActual := 85 }

/-- `Reset_Values`; `enF` when the status is "F". -/
def resetValues (enF : Bool) : Leds :=
  { s with
    luminosidad := 90, ledPointer := 8, toggleLed := 0, subiendo := false
    ledColor := if enF then s.ledColor else verde
    cntParpadeo := timeParpadeo, fadecolor := 0 }

end Leds

/-! ## The transition -/

/-- `TransicionAverde` while it runs: what it has written, and whether it has left
its loop. -/
structure Transicion where
  leds : Leds
  indices : List Nat
  fin : Bool

/-- A round of its loop. -/
def Transicion.ronda (t : Transicion) : Transicion :=
  let s := t.leds
  if s.subiendo then
    let s := { s with luminosidad := s.luminosidad + 4 }
    if 90 ≤ s.luminosidad then
      let s := { s with ledPointer := s.ledPointer + 1, luminosidad := 0 }
      let (s', indices) := s.changeOne verde s.ledPointer
      if 7 ≤ s.ledPointer then ⟨s', t.indices ++ indices, true⟩
      else ⟨s', t.indices ++ indices, false⟩
    else
      let (s, indices) := s.changeOne verde s.ledPointer
      ⟨s, t.indices ++ indices, false⟩
  else
    let s := { s with luminosidad := s.luminosidad - 4 }
    let s :=
      if s.luminosidad ≤ 5 then
        let s := { s with ledPointer := s.ledPointer + 1, luminosidad := 90 }
        if 7 ≤ s.ledPointer then { s with ledPointer := 0, luminosidad := 0, subiendo := true }
        else s
      else s
    let (s, indices) := s.changeOne verde s.ledPointer
    ⟨s, t.indices ++ indices, false⟩

/-- `TransicionAverde`, for at most so many rounds. -/
def transicion (rondas : Nat) (s : Leds) : Transicion :=
  whileFuel (fun t => !t.fin) Transicion.ronda rondas ⟨s, [], false⟩

/-! ## It ends -/

theorem toNat_sub_four (x : UInt8) :
    (x - 4).toNat = if x.toNat < 4 then x.toNat + 252 else x.toNat - 4 := by
  have tope := x.toNat_lt
  have cuatro : (4 : UInt8).toNat = 4 := rfl
  rw [UInt8.toNat_sub, cuatro]
  split_ifs <;> omega

theorem toNat_add_four (x : UInt8) :
    (x + 4).toNat = if 252 ≤ x.toNat then x.toNat - 252 else x.toNat + 4 := by
  have tope := x.toNat_lt
  have cuatro : (4 : UInt8).toNat = 4 := rfl
  rw [UInt8.toNat_add, cuatro]
  split_ifs <;> omega

theorem toNat_add_one (x : UInt8) :
    (x + 1).toNat = if x.toNat = 255 then 0 else x.toNat + 1 := by
  have tope := x.toNat_lt
  have uno : (1 : UInt8).toNat = 1 := rfl
  rw [UInt8.toNat_add, uno]
  split_ifs <;> omega

/-- Rounds until the pointer moves, at most. -/
def Leds.cuenta (s : Leds) : Nat :=
  if s.subiendo then
    if 252 ≤ s.luminosidad.toNat then 100
    else if 90 ≤ s.luminosidad.toNat then 1
    else 91 - s.luminosidad.toNat
  else if s.luminosidad.toNat < 4 then 300
  else s.luminosidad.toNat

/-- Moves of the pointer until it is seven or more. -/
def Leds.saltos (s : Leds) : Nat :=
  if s.ledPointer.toNat ≤ 6 then 7 - s.ledPointer.toNat
  else if s.ledPointer.toNat = 255 then 8
  else 1

def Transicion.medida (t : Transicion) : Nat :=
  if t.fin then 0
  else (if t.leds.subiendo then 0 else 8192) + 512 * t.leds.saltos + t.leds.cuenta

namespace Transicion

/-- While the brightness falls, every round brings it nearer to a move of the
pointer, and the last move turns the direction. -/
theorem medida_ronda_lt_of_baja {s : Leds} (baja : s.subiendo = false) (indices : List Nat) :
    (ronda ⟨s, indices, false⟩).medida < (⟨s, indices, false⟩ : Transicion).medida := by
  have topeL := s.luminosidad.toNat_lt
  have topeP := s.ledPointer.toNat_lt
  have cinco : (5 : UInt8).toNat = 5 := rfl
  have siete : (7 : UInt8).toNat = 7 := rfl
  have noventa : (90 : UInt8).toNat = 90 := rfl
  by_cases apaga : s.luminosidad - 4 ≤ 5
  · have apagaNat := UInt8.le_iff_toNat_le.mp apaga
    rw [toNat_sub_four] at apagaNat
    by_cases vuelve : 7 ≤ s.ledPointer + 1
    · simp only [ronda, Leds.changeOne, baja, apaga, vuelve, if_true, if_false, Bool.false_eq_true,
        medida, Leds.saltos, Leds.cuenta, UInt8.toNat_zero]
      split_ifs <;> omega
    · have vuelveNat := UInt8.le_iff_toNat_le.not.mp vuelve
      rw [toNat_add_one] at vuelveNat
      simp only [ronda, Leds.changeOne, baja, apaga, vuelve, if_true, if_false, Bool.false_eq_true,
        medida, Leds.saltos, Leds.cuenta, toNat_add_one, noventa]
      split_ifs at * <;> omega
  · have apagaNat := UInt8.le_iff_toNat_le.not.mp apaga
    rw [toNat_sub_four] at apagaNat
    simp only [ronda, Leds.changeOne, baja, apaga, if_false, Bool.false_eq_true, medida,
      Leds.saltos, Leds.cuenta, toNat_sub_four]
    split_ifs at * <;> omega

/-- While it rises, the move to seven or more leaves the loop. -/
theorem medida_ronda_lt_of_sube {s : Leds} (sube : s.subiendo = true) (indices : List Nat) :
    (ronda ⟨s, indices, false⟩).medida < (⟨s, indices, false⟩ : Transicion).medida := by
  have topeL := s.luminosidad.toNat_lt
  have topeP := s.ledPointer.toNat_lt
  have siete : (7 : UInt8).toNat = 7 := rfl
  have noventa : (90 : UInt8).toNat = 90 := rfl
  by_cases enciende : 90 ≤ s.luminosidad + 4
  · have enciendeNat := UInt8.le_iff_toNat_le.mp enciende
    rw [toNat_add_four] at enciendeNat
    by_cases sale : 7 ≤ s.ledPointer + 1
    · simp only [ronda, Leds.changeOne, sube, enciende, sale, if_true, if_false,
        Bool.false_eq_true, medida, Leds.saltos, Leds.cuenta]
      split_ifs <;> omega
    · have saleNat := UInt8.le_iff_toNat_le.not.mp sale
      rw [toNat_add_one] at saleNat
      simp only [ronda, Leds.changeOne, sube, enciende, sale, if_true, if_false,
        Bool.false_eq_true, medida, Leds.saltos, Leds.cuenta, toNat_add_one, UInt8.toNat_zero]
      split_ifs at * <;> omega
  · have enciendeNat := UInt8.le_iff_toNat_le.not.mp enciende
    rw [toNat_add_four] at enciendeNat
    simp only [ronda, Leds.changeOne, sube, enciende, if_true, if_false, Bool.false_eq_true,
      medida, Leds.saltos, Leds.cuenta, toNat_add_four]
    split_ifs at * <;> omega

theorem medida_ronda_lt (t : Transicion) (sigue : (!t.fin) = true) :
    t.ronda.medida < t.medida := by
  obtain ⟨s, indices, fin⟩ := t
  obtain rfl : fin = false := by simpa using sigue
  cases sube : s.subiendo with
  | false => exact medida_ronda_lt_of_baja sube indices
  | true => exact medida_ronda_lt_of_sube sube indices

end Transicion

/-- Rounds that are enough, whatever the state. -/
def rondasTransicion : Nat := 12800

theorem medida_le (s : Leds) :
    (⟨s, [], false⟩ : Transicion).medida ≤ rondasTransicion := by
  have topeL := s.luminosidad.toNat_lt
  have topeP := s.ledPointer.toNat_lt
  have rondas : rondasTransicion = 12800 := rfl
  simp only [Transicion.medida, Leds.saltos, Leds.cuenta]
  split_ifs <;> omega

/-- `TransicionAverde` leaves its loop, in whatever state it is called. -/
theorem transicion_fin (s : Leds) : (transicion rondasTransicion s).fin = true := by
  have sale := whileFuel_leaves Transicion.medida Transicion.medida_ronda_lt (medida_le s)
  simpa [transicion] using sale

/-! ## The places written -/

/-- All places are of the array. -/
def EnRango (indices : List Nat) : Prop :=
  ∀ i ∈ indices, i < numPixels

instance (indices : List Nat) : Decidable (EnRango indices) :=
  List.decidableBAll _ _

theorem enRango_append {primero segundo : List Nat} :
    EnRango (primero ++ segundo) ↔ EnRango primero ∧ EnRango segundo :=
  List.forall_mem_append

/-- The loop of the transition is left from behind the array only. -/
theorem Transicion.not_enRango_ronda (t : Transicion) (sale : t.ronda.fin = true) :
    ¬EnRango t.ronda.indices := by
  have siete : (7 : UInt8).toNat = 7 := rfl
  simp only [ronda, Leds.changeOne] at sale ⊢
  split_ifs at sale ⊢ with _ _ detras
  · intro dentro
    have ultimo := (enRango_append.mp dentro).2 _ List.mem_cons_self
    have detrasNat := UInt8.le_iff_toNat_le.mp detras
    rw [siete] at detrasNat
    exact absurd (Nat.lt_of_le_of_lt detrasNat ultimo) (Nat.lt_irrefl 7)

theorem Transicion.not_enRango_of_heads {s : Leds} {t : Transicion}
    (cabeza : Heads (fun t : Transicion => !t.fin) Transicion.ronda ⟨s, [], false⟩ t)
    (sale : t.fin = true) : ¬EnRango t.indices := by
  cases cabeza with
  | first => exact absurd sale Bool.false_ne_true
  | round _ _ => exact not_enRango_ronda _ sale

/-- Every call of `TransicionAverde` writes outside the array. -/
theorem not_enRango_transicion (s : Leds) :
    ¬EnRango (transicion rondasTransicion s).indices :=
  Transicion.not_enRango_of_heads (whileFuel_heads _ _ _ _) (transicion_fin s)

/-! ## The other effects -/

namespace Leds

/-- Whether `OLA` moves the pointer. -/
def OlaMueve (s : Leds) : Prop :=
  if s.subiendo then 90 ≤ s.luminosidad + 4 else s.luminosidad - 4 ≤ 5

instance (s : Leds) : Decidable s.OlaMueve := by
  unfold OlaMueve
  infer_instance

/-- Where `Kit` may be called: it moves the pointer before it writes. -/
def KitDentro (s : Leds) : Prop :=
  if s.subiendo then s.ledPointer ≤ 5 ∨ s.ledPointer = 255
  else 1 ≤ s.ledPointer ∧ s.ledPointer ≤ 7

instance (s : Leds) : Decidable s.KitDentro := by
  unfold KitDentro
  infer_instance

variable {s : Leds} {color : UInt8}

theorem ledPointer_ola : (s.ola color).1.ledPointer =
    if s.OlaMueve then (if 7 ≤ s.ledPointer + 1 then 0 else s.ledPointer + 1)
    else s.ledPointer := by
  by_cases sube : s.subiendo = true
  · by_cases mueve : 90 ≤ s.luminosidad + 4 <;> by_cases vuelve : 7 ≤ s.ledPointer + 1 <;>
      simp [ola, OlaMueve, changeOne, sube, mueve, vuelve]
  · by_cases mueve : s.luminosidad - 4 ≤ 5 <;> by_cases vuelve : 7 ≤ s.ledPointer + 1 <;>
      simp [ola, OlaMueve, changeOne, sube, mueve, vuelve]

/-- `OLA` writes the place of the pointer it leaves, and a pointer that moves stays
in the array or comes back to it. -/
theorem ola_enRango_iff :
    EnRango (s.ola color).2 ↔ s.ledPointer ≤ 6 ∨ s.OlaMueve := by
  have unico : (s.ola color).2 = [(s.ola color).1.ledPointer.toNat] := rfl
  have pixeles : numPixels = 7 := rfl
  have siete : (7 : UInt8).toNat = 7 := rfl
  have hasta : s.ledPointer ≤ 6 ↔ s.ledPointer.toNat ≤ 6 := UInt8.le_iff_toNat_le
  rw [unico, EnRango, List.forall_mem_singleton, ledPointer_ola, hasta]
  split_ifs with mueve vuelve
  · exact iff_of_true (by decide) (Or.inr mueve)
  · rw [UInt8.le_iff_toNat_le, siete] at vuelve
    exact iff_of_true (by omega) (Or.inr mueve)
  · rw [or_iff_left mueve]
    omega

theorem ledPointer_kit : s.kit.1.ledPointer =
    if s.subiendo then s.ledPointer + 1 else s.ledPointer - 1 := by
  by_cases sube : s.subiendo = true
  · by_cases vuelve : s.ledPointer + 1 = 6 <;> simp [kit, sube, vuelve]
  · by_cases vuelve : s.ledPointer - 1 = 0 <;> simp [kit, sube, vuelve]

/-- The neighbours of a pointer in the array are written within it. -/
theorem enRango_kitIndices_iff {p : Nat} : EnRango (kitIndices p) ↔ p < numPixels := by
  constructor
  · intro dentro
    exact dentro p (by simp [kitIndices])
  · intro dentro
    have tabla : ∀ p : Fin numPixels, EnRango (kitIndices p) := by decide
    exact tabla ⟨p, dentro⟩

theorem kit_enRango_iff : EnRango s.kit.2 ↔ s.KitDentro := by
  have pixeles : numPixels = 7 := rfl
  have tope := s.ledPointer.toNat_lt
  have indices : s.kit.2 = kitIndices s.kit.1.ledPointer.toNat := rfl
  rw [indices, enRango_kitIndices_iff, ledPointer_kit, KitDentro]
  split_ifs
  · rw [toNat_add_one, UInt8.le_iff_toNat_le, ← UInt8.toNat_inj]
    change _ ↔ s.ledPointer.toNat ≤ 5 ∨ s.ledPointer.toNat = 255
    split_ifs <;> omega
  · have uno : (1 : UInt8).toNat = 1 := rfl
    rw [UInt8.toNat_sub, uno, UInt8.le_iff_toNat_le, UInt8.le_iff_toNat_le]
    change _ ↔ 1 ≤ s.ledPointer.toNat ∧ s.ledPointer.toNat ≤ 7
    omega

/-- The places of `OutWave` are symmetric about the middle. -/
theorem enRango_pareja {p : UInt8} (dentro : p ≤ 3) :
    EnRango ([(3 - p).toNat] ++ [(3 + p).toNat]) := by
  have tres : (3 : UInt8).toNat = 3 := rfl
  have pixeles : numPixels = 7 := rfl
  have dentroNat := UInt8.le_iff_toNat_le.mp dentro
  rw [enRango_append, EnRango, EnRango, List.forall_mem_singleton, List.forall_mem_singleton,
    UInt8.toNat_sub_of_le _ _ dentro, UInt8.toNat_add]
  omega

theorem outWave_enRango (dentro : s.pointer ≤ 3) :
    EnRango (s.outWave color).2 ∧ (s.outWave color).1.pointer ≤ 3 := by
  by_cases baja : s.down = true
  · by_cases acaba : s.luminosidad - 1 ≤ 2
    · have todos : EnRango (List.range numPixels) := fun i => List.mem_range.mp
      simpa [outWave, displayAll, baja, acaba] using ⟨todos, dentro⟩
    · simpa [outWave, displayAll, baja, acaba, EnRango] using dentro
  · by_cases llena : 100 ≤ s.luminosidad + 3
    · by_cases vuelve : 4 ≤ s.pointer + 1
      · have primera := @enRango_pareja 0 (by decide)
        simpa [outWave, changeOne, baja, llena, vuelve] using primera
      · have cuatro : (4 : UInt8).toNat = 4 := rfl
        have siguiente : s.pointer + 1 ≤ 3 := by
          rw [UInt8.le_iff_toNat_le] at vuelve ⊢
          change _ ≤ 3
          omega
        have salida : (s.outWave color).2 =
              [(3 - (s.pointer + 1)).toNat] ++ [(3 + (s.pointer + 1)).toNat] ∧
            (s.outWave color).1.pointer = s.pointer + 1 := by
          simp [outWave, changeOne, baja, llena, vuelve]
        rw [salida.1, salida.2]
        exact ⟨enRango_pareja siguiente, siguiente⟩
    · simpa [outWave, changeOne, baja, llena] using ⟨enRango_pareja dentro, dentro⟩

end Leds

end VeltiumCharger.Led
