import VeltiumCharger.Group.Tipos
import VeltiumCharger.Library.Loop

/-!
# The pass `Calculo_General`

Every tick of group control starts by counting the connected chargers, sharing
the available current over them and, when a share falls below 6 A, sending
chargers back to `B1`.

The two floating-point globals `corriente_disponible_limitada` and
`corriente_disponible_total` always hold whole amperes below 2^16, where
`floor` of a quotient is integer division; they are natural numbers here.
-/

namespace VeltiumCharger.Group

open VeltiumCharger.Loop

/-- `x -= k` on a `uint8_t`. -/
def sub8 (x k : Nat) : Nat :=
  (x + (256 - k)) % 256

/-! ## Counting -/

/-- What the counting loop updates: the two tables, the counters among the
globals, the locals `total_pc`, `total_consigna` and `conectados`, and the
history. -/
structure Recuento where
  chargerTable : Nat → CaracCharger
  circuitos : Nat → CaracCircuito
  conex : Nat
  conexConTri : Nat
  deltaTotal : Nat
  conexDelta : Nat
  totalPc : Nat
  totalConsigna : Nat
  conectados : Nat
  historial : List Suceso

/-- Clear the counters of one phase. -/
def CaracFase.reset (fase : CaracFase) : CaracFase :=
  { fase with conex := 0, corrienteTotal := 0, consignaTotal := 0 }

/-- Clear the counters of the three phases of a circuit. -/
def CaracCircuito.reset (circuito : CaracCircuito) : CaracCircuito :=
  { circuito with
    fases := forUpTo 3 (fun f fases => Function.update fases f (fases f).reset)
      circuito.fases }

/-- "Resetear valores". -/
def resetCircuitos (circuitNumber : Nat) (circuitos : Nat → CaracCircuito) :
    Nat → CaracCircuito :=
  forUpTo circuitNumber (fun i circuitos =>
    Function.update circuitos i (circuitos i).reset) circuitos

/-- Count one more charger on phase `f` of circuit `k`. -/
def sumarFase (circuitos : Nat → CaracCircuito) (k f : Nat)
    (corriente consigna : UInt16) : Nat → CaracCircuito :=
  let fase := (circuitos k).fases f
  Function.update circuitos k
    { circuitos k with
      fases := Function.update (circuitos k).fases f
        { fase with
          conex := fase.conex + 1
          corrienteTotal := fase.corrienteTotal + corriente.toNat
          consignaTotal := fase.consignaTotal + consigna.toNat } }

/-- The further counts of a charger whose currents show it to be three-phase:
each of the other two phases counts only while its own current is not zero. -/
def contarTrifasico (i : Nat) (charger : CaracCharger) (r : Recuento) : Recuento :=
  let r := { r with
    chargerTable := Function.update r.chargerTable i { charger with trifasico := 1 }
    totalConsigna := (r.totalConsigna + charger.consigna.toNat * 2) % 65536
    conexConTri := (r.conexConTri + 2) % 256 }
  let r :=
    if 0 < charger.currentB.toNat then
      { r with
        circuitos := sumarFase r.circuitos charger.circuitoIdx charger.faseB
          charger.currentB charger.consigna
        totalPc := (r.totalPc + charger.currentB.toNat) % 65536 }
    else r
  if 0 < charger.currentC.toNat then
    { r with
      circuitos := sumarFase r.circuitos charger.circuitoIdx charger.faseC
        charger.currentC charger.consigna
      totalPc := (r.totalPc + charger.currentC.toNat) % 65536 }
  else r

/-- The counts of a connected charger. -/
def contarConectado (i : Nat) (charger : CaracCharger) (r : Recuento) : Recuento :=
  let r := { r with
    conex := (r.conex + 1) % 256
    conexConTri := (r.conexConTri + 1) % 256
    circuitos := sumarFase r.circuitos charger.circuitoIdx charger.faseA
      charger.current charger.consigna
    totalConsigna := (r.totalConsigna + charger.consigna.toNat) % 65536
    totalPc := (r.totalPc + charger.current.toNat) % 65536 }
  let r := if charger.threePhase then contarTrifasico i charger r else r
  if 0 < charger.delta.toNat then
    { r with
      deltaTotal := r.deltaTotal + charger.delta.toNat
      conexDelta := (r.conexDelta + 1) % 256 }
  else r

/-- A record whose charger is idle: measurements, setpoint and admission order
are cleared. -/
def CaracCharger.reposar (charger : CaracCharger) : CaracCharger :=
  { charger with
    current := 0, delta := 0, deltaTimer := 0, currentB := 0, currentC := 0
    order := 0, trifasico := 0, consigna := 0 }

/-- One round of the counting loop. -/
def contar (i : Nat) (r : Recuento) : Recuento :=
  let charger := r.chargerTable i
  let r := if charger.conected then { r with conectados := (r.conectados + 1) % 256 } else r
  if charger.hpt.connected then
    contarConectado i charger r
  else if charger.hpt.idle then
    { r with
      chargerTable := Function.update r.chargerTable i charger.reposar
      historial := .baja i :: r.historial }
  else r

/-- The counting loop over the table. -/
def recuento (s : GroupState) : Recuento :=
  forUpTo s.chargerNumber contar
    { chargerTable := s.chargerTable
      circuitos := resetCircuitos s.circuitNumber s.circuitos
      conex := 0
      conexConTri := 0
      deltaTotal := 0
      conexDelta := 0
      totalPc := 0
      totalConsigna := 0
      conectados := 0
      historial := s.historial }

/-! ## Available currents -/

/-- "Calcular la corriente disponible en cada fase": amperes instead of
hundredths, the equal share of the circuit's limit and what the setpoints leave
of it. -/
def CaracFase.repartir (limite : UInt8) (fase : CaracFase) : CaracFase :=
  { fase with
    corrienteTotal := fase.corrienteTotal / 100
    corrienteDisponible :=
      if 0 < fase.conex then limite.toNat / fase.conex else limite.toNat
    corrienteSobrante := (limite.toNat : Int) - fase.consignaTotal }

/-- The inner loop of "corrientes por fase". -/
def CaracCircuito.repartir (circuito : CaracCircuito) : CaracCircuito :=
  { circuito with
    fases := forUpTo 3 (fun i fases =>
      Function.update fases i ((fases i).repartir circuito.limiteCorriente))
      circuito.fases }

/-- "corrientes por fase". -/
def corrientesPorFase (circuitNumber : Nat) (circuitos : Nat → CaracCircuito) :
    Nat → CaracCircuito :=
  forUpTo circuitNumber (fun j circuitos =>
    Function.update circuitos j (circuitos j).repartir) circuitos

/-- The current a contracted or maximal power (in hundreds of watts) gives,
reduced in proportion while some chargers are not reporting. -/
def corrientePotencia (potencia conectados chargerNumber : Nat) : Nat :=
  if conectados = chargerNumber then
    potencia * 100 / 230
  else
    (potencia * conectados / chargerNumber) * 100 / 230

/-- `corriente_disponible_limitada` before the meter is looked at. -/
def limitadaPorPotencia (s : GroupState) (conectados : Nat) : Nat :=
  if s.params.contadorConfigurado then
    corrientePotencia s.params.contractPower.toNat conectados s.chargerNumber
  else
    corrientePotencia s.params.potenciaMax.toNat conectados s.chargerNumber

/-- `corriente_CDP__sobra`: what the meter leaves of the contracted power. -/
def corrienteCdpSobra (params : CaracGroupParams) (power : Int) (consumoTotal : Nat) : Int :=
  if params.medida = 1 then
    if (params.contractPower.toNat * 100 : Int) > power then
      ((params.contractPower.toNat * 100 : Int) - power).tdiv 230
    else 0
  else if params.medida = 2 then
    if (params.contractPower.toNat * 100 : Int) > power - 230 * consumoTotal then
      (params.contractPower.toNat * 100 : Int).tdiv 230 + consumoTotal - power.tdiv 230
    else 0
  else 0

/-- `corriente_limite_cdp`, the conversion of the above to `uint16_t`. -/
def corrienteLimiteCdp (params : CaracGroupParams) (power : Int) (consumoTotal : Nat) : Nat :=
  (corrienteCdpSobra params power consumoTotal % 65536).toNat

/-- `corriente_disponible_limitada` with a meter. -/
def limitadaPorContador (limiteCdp conectados chargerNumber : Nat) : Nat :=
  if conectados = chargerNumber then limiteCdp else limiteCdp * conectados / chargerNumber

/-! ## Eviction -/

/-- What the eviction loop updates. -/
structure Expulsion where
  chargerTable : Nat → CaracCharger
  conex : Nat
  conexConTri : Nat
  corrienteDisponibleTotal : Nat
  historial : List Suceso

/-- A record sent back to `B1` with its request withdrawn. -/
def CaracCharger.expulsar (charger : CaracCharger) : CaracCharger :=
  { charger with
    consigna := 0, chargeReq := false, hpt := .ofText 'B' '1'
    current := 0, delta := 0, deltaTimer := 0, currentB := 0, currentC := 0 }

theorem CaracCharger.expulsar_charging (charger : CaracCharger) :
    charger.expulsar.hpt.charging = false :=
  Hpt.charging_eq_false_of_isB1 rfl

@[simp]
theorem CaracCharger.expulsar_expulsar (charger : CaracCharger) :
    charger.expulsar.expulsar = charger.expulsar :=
  rfl

/-- "Buscar el último que ha empezado a cargar": `last_index`. -/
def lastIndex (chargerNumber : Nat) (chargerTable : Nat → CaracCharger) : Nat :=
  (scanMax (fun j => (chargerTable j).hpt.charging)
    (fun j => (chargerTable j).order.toNat) chargerNumber).2

/-- The eviction loop goes on while the share is below 6 A; the `break` leaves
it when nobody is counted any more. -/
def sigueExpulsando (e : Expulsion) : Bool :=
  decide (e.corrienteDisponibleTotal < 6) && decide (0 < e.conexConTri)

/-- One round of the eviction loop. -/
def expulsarUltimo (chargerNumber limitada : Nat) (e : Expulsion) : Expulsion :=
  let last := lastIndex chargerNumber e.chargerTable
  let charger := e.chargerTable last
  let conexConTri := sub8 e.conexConTri 1
  let conexConTri := if charger.trifasico ≠ 0 then sub8 conexConTri 2 else conexConTri
  { chargerTable := Function.update e.chargerTable last charger.expulsar
    conex := sub8 e.conex 1
    conexConTri := conexConTri
    corrienteDisponibleTotal :=
      if 0 < conexConTri then limitada / conexConTri else e.corrienteDisponibleTotal
    historial := .expulsion last :: e.historial }

/-- A bound on the rounds of the eviction loop: at most 255 between two
evictions of charging chargers. -/
def rondasExpulsion (chargerNumber : Nat) : Nat :=
  256 * (chargerNumber + 1)

/-! ## The whole pass -/

/-- The outcome of `Calculo_General`: the new state, the returned
`recalcular` and the local `corriente_limite_cdp`. -/
structure Calculo where
  estado : GroupState
  recalcular : Bool
  corrienteLimiteCdp : Nat

/-- `conex_con_tri > 0` and a meter is configured and connected. -/
def usaContador (s : GroupState) : Bool :=
  decide (0 < (recuento s).conexConTri) &&
    (s.params.contadorConfigurado && s.contadorExt.gatewayConectado)

/-- `consumo_total`, a `uint8_t`. -/
def consumoTotal (s : GroupState) : Nat :=
  (recuento s).totalPc / 100 % 256

/-- The value `corriente_limite_cdp` has at the end of the pass. -/
def limiteCdp (s : GroupState) : Nat :=
  if usaContador s then
    corrienteLimiteCdp s.params s.contadorExt.power (consumoTotal s)
  else 0

/-- The value `corriente_disponible_limitada` has at the end of the pass. -/
def limitada (s : GroupState) : Nat :=
  if usaContador s then
    limitadaPorContador (limiteCdp s) (recuento s).conectados s.chargerNumber
  else
    limitadaPorPotencia s (recuento s).conectados

/-- The state in which the eviction loop is reached. -/
def expulsionInicial (s : GroupState) : Expulsion where
  chargerTable := (recuento s).chargerTable
  conex := (recuento s).conex
  conexConTri := (recuento s).conexConTri
  corrienteDisponibleTotal :=
    if 0 < (recuento s).conexConTri then limitada s / (recuento s).conexConTri
    else s.corrienteDisponibleTotal
  historial := (recuento s).historial

/-- The eviction loop of one pass. -/
def expulsiones (s : GroupState) : Expulsion :=
  whileFuel sigueExpulsando (expulsarUltimo s.chargerNumber (limitada s))
    (rondasExpulsion s.chargerNumber) (expulsionInicial s)

/-- `corriente_disponible_limitada - total_consigna > 5`. -/
def quedaCorriente (s : GroupState) : Bool :=
  decide ((limitada s : Int) - (recuento s).totalConsigna > 5)

/-- `Calculo_General`. -/
def calculoGeneral (s : GroupState) : Calculo :=
  let r := recuento s
  let e := expulsiones s
  let recalcCount := if quedaCorriente s then (s.recalcCount + 1) % 65536 else s.recalcCount
  let vencido := quedaCorriente s && decide (25 < recalcCount)
  { estado := { s with
      chargerTable := e.chargerTable
      circuitos := corrientesPorFase s.circuitNumber r.circuitos
      corrienteDisponibleTotal := e.corrienteDisponibleTotal
      corrienteDisponibleLimitada := limitada s
      consumoTotal := consumoTotal s
      conex := e.conex
      conexConTri := e.conexConTri
      deltaTotal := r.deltaTotal
      conexDelta := r.conexDelta
      recalcCount := if vencido then 0 else recalcCount
      historial := e.historial }
    recalcular := (usaContador s && decide (limiteCdp s < consumoTotal s)) || vencido
    corrienteLimiteCdp := limiteCdp s }

end VeltiumCharger.Group
