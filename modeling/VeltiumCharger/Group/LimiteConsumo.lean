import VeltiumCharger.Group.Calculo

/-!
# The task `LimiteConsumo`

One tick of the task is one pass through its `switch`.  `REPOSO` waits for the
first request, `CALCULO` gives setpoints, and `EQUILIBRADO` watches the limits
and admits one charger at a time.
-/

namespace VeltiumCharger.Group

open VeltiumCharger.Loop

/-- The clock readings a tick uses: whether more than `GROUP_REST_TIME` has
passed since the task started, and the `uint16_t` number of milliseconds since
the previous complete `EQUILIBRADO` tick. -/
structure Tick where
  rested : Bool
  transcurrido : UInt16

namespace GroupState

/-- Rewrite one record of the table. -/
def setCharger (s : GroupState) (i : Nat) (charger : CaracCharger) : GroupState :=
  { s with chargerTable := Function.update s.chargerTable i charger }

/-- The record of the phase a charger is connected to:
`Circuitos[Circuito-1].Fases[Fase-1]`. -/
def fasePropia (s : GroupState) (charger : CaracCharger) : CaracFase :=
  (s.circuitos charger.circuitoIdx).fases charger.faseA

/-- `Circuitos[Circuito-1].limite_corriente`. -/
def limitePropio (s : GroupState) (charger : CaracCharger) : Nat :=
  (s.circuitos charger.circuitoIdx).limiteCorriente.toNat

end GroupState

/-! ## `REPOSO` -/

/-- The share a charger would get alone: a third of the current when it is
marked as three-phase. -/
def repartoReposo (params : CaracGroupParams) (charger : CaracCharger) : Nat :=
  if charger.trifasico ≠ 0 then params.potenciaMax.toNat * 100 / 230 / 3
  else params.potenciaMax.toNat * 100 / 230

/-- One round of the `REPOSO` loop. -/
def reposoRound (i : Nat) (s : GroupState) : GroupState :=
  let charger := s.chargerTable i
  if charger.hpt.is 'B' '1' && charger.chargeReq then
    if 6 ≤ repartoReposo s.params charger then
      { s.setCharger i { charger with order := 1 } with
        controlGrupoState := .calculo
        historial := .admision i :: s.historial }
    else s
  else s.setCharger i { charger with consigna := 0 }

/-- The tick in `REPOSO`. -/
def tickReposo (t : Tick) (s : GroupState) : GroupState :=
  if t.rested then forUpTo s.chargerNumber reposoRound s else s

/-! ## `CALCULO` -/

/-- The setpoint of a charger: the smaller of its phase's share and the
group's, and at most 32 A. -/
def consignaRepartida (disponibleFase disponibleTotal : Nat) : Nat :=
  let consigna := if disponibleFase ≤ disponibleTotal then disponibleFase else disponibleTotal
  if 32 < consigna then 32 else consigna

/-- One round of the assignment loop.  A three-phase charger whose setpoint
falls below 6 A is sent to `B1`. -/
def asignarRound (i : Nat) (s : GroupState) : GroupState :=
  let charger := s.chargerTable i
  if charger.hpt.assigned then
    let consigna :=
      consignaRepartida (s.fasePropia charger).corrienteDisponible s.corrienteDisponibleTotal
    let charger := { charger with consigna := UInt16.ofNat consigna }
    if charger.threePhase && decide (consigna < 6) then
      { s.setCharger i { charger.expulsar with trifasico := 1 } with
        conex := sub8 s.conex 1
        conexConTri := sub8 s.conexConTri 3
        historial := .expulsion i :: s.historial }
    else s.setCharger i charger
  else s

/-- The tick in `CALCULO`. -/
def tickCalculo (s : GroupState) : GroupState :=
  let s := (calculoGeneral s).estado
  if s.conex = 0 then
    { s with controlGrupoState := .reposo }
  else
    { forUpTo s.chargerNumber asignarRound s with controlGrupoState := .equilibrado }

/-! ## `EQUILIBRADO` -/

/-- One check of the loop over circuits and phases; the `break` leaves the
loop over the phases only. -/
def comprobarFase (j i : Nat) (s : GroupState) : ForInStep GroupState :=
  let circuito := s.circuitos j
  if circuito.limiteCorriente.toNat < (circuito.fases i).corrienteTotal ||
      circuito.limiteCorriente.toNat < (circuito.fases i).consignaTotal then
    .done { s with controlGrupoState := .calculo }
  else .yield s

/-- "Comprobar que no nos pasamos de los limites de las fases". -/
def comprobarFases (s : GroupState) : GroupState :=
  forUpTo s.circuitNumber (fun j s => result (forBreak 3 (comprobarFase j) s)) s

/-- Whether a requesting charger would fit: the group's share with the charger
added is at least 6 A, and each phase it would load keeps more than 6 A for one
charger more.  The group test divides as `float`, so that it holds exactly when
6 A for each of the counted units fit in the limit. -/
def entra (s : GroupState) (charger : CaracCharger) : Bool :=
  if charger.trifasico ≠ 0 then
    decide (6 * (s.conexConTri + 3) ≤ s.corrienteDisponibleLimitada) &&
      (decide (6 < s.limitePropio charger /
          (((s.circuitos charger.circuitoIdx).fases 0).conex + 1)) &&
        (decide (6 < s.limitePropio charger /
            (((s.circuitos charger.circuitoIdx).fases 1).conex + 1)) &&
          decide (6 < s.limitePropio charger /
            (((s.circuitos charger.circuitoIdx).fases 2).conex + 1))))
  else
    decide (6 * (s.conexConTri + 1) ≤ s.corrienteDisponibleLimitada) &&
      decide (6 < s.limitePropio charger / ((s.fasePropia charger).conex + 1))

/-- "Asignar el orden de carga": the largest order among the chargers in `C2`
or `B2`. -/
def lastOrder (chargerNumber : Nat) (chargerTable : Nat → CaracCharger) : Nat :=
  (scanMax (fun j => (chargerTable j).hpt.is 'C' '2' || (chargerTable j).hpt.is 'B' '2')
    (fun j => (chargerTable j).order.toNat) chargerNumber).1

/-- Admit charger `i`: it goes to `C2` and is ordered after the last one. -/
def admitir (i : Nat) (s : GroupState) : GroupState :=
  let s := s.setCharger i { s.chargerTable i with hpt := .ofText 'C' '2' }
  let order := UInt8.ofNat (lastOrder s.chargerNumber s.chargerTable + 1)
  { s.setCharger i { s.chargerTable i with order := order } with
    controlGrupoState := .calculo
    historial := .admision i :: s.historial }

/-- One round of the loop over the requests. -/
def solicitudRound (i : Nat) (s : GroupState) : ForInStep GroupState :=
  let charger := s.chargerTable i
  if charger.chargeReq then
    if entra s charger then .done (admitir i s)
    else
      .yield { s.setCharger i { charger with consigna := 0 } with
        historial := .rechazo i :: s.historial }
  else .yield s

/-- "Comprobar si algun equipo quiere comenzar a cargar". -/
def solicitudes (s : GroupState) : GroupState :=
  result (forBreak s.chargerNumber solicitudRound s)

/-- `Delta_cargador`, a `uint8`. -/
def deltaCargador (charger : CaracCharger) : Nat :=
  if charger.current.toNat / 100 < charger.consigna.toNat then
    (charger.consigna.toNat - charger.current.toNat / 100) % 256
  else 0

/-- One round of the search for chargers that do not use their setpoint. -/
def deltaRound (transcurrido : UInt16) (i : Nat) (s : GroupState) : GroupState :=
  let charger := s.chargerTable i
  if charger.hpt.charging then
    let delta := deltaCargador charger
    let charger :=
      if 2 < delta then { charger with deltaTimer := charger.deltaTimer + transcurrido }
      else { charger with deltaTimer := 0, delta := 0 }
    if 10000 < charger.deltaTimer.toNat then
      { s.setCharger i { charger with delta := UInt16.ofNat delta, deltaTimer := 0 } with
        controlGrupoState := .calculo }
    else s.setCharger i charger
  else s

/-- "Comprobar si alguno de los cargadores tiene corriente de sobra". -/
def buscarDeltas (transcurrido : UInt16) (s : GroupState) : GroupState :=
  if 1 < s.conex then forUpTo s.chargerNumber (deltaRound transcurrido) s else s

/-- The tick in `EQUILIBRADO`. -/
def tickEquilibrado (t : Tick) (s : GroupState) : GroupState :=
  let calculo := calculoGeneral s
  let s := calculo.estado
  if calculo.recalcular || s.newData then
    { s with newData := false, controlGrupoState := .calculo }
  else if s.lastConex ≠ s.conex ∨ s.conex = 0 then
    { s with
      controlGrupoState := if s.conex = 0 then .reposo else .calculo
      lastConex := s.conex }
  else if s.corrienteDisponibleLimitada < s.consumoTotal then
    { s with controlGrupoState := .calculo }
  else
    let s := comprobarFases s
    if s.controlGrupoState = .calculo then s
    else buscarDeltas t.transcurrido (solicitudes s)

/-- One pass of `LimiteConsumo` through its `switch`. -/
def limiteConsumo (t : Tick) (s : GroupState) : GroupState :=
  match s.controlGrupoState with
  | .reposo => tickReposo t s
  | .calculo => tickCalculo s
  | .equilibrado => tickEquilibrado t s

end VeltiumCharger.Group
