import VeltiumCharger.Bloqueo.Coherencia

/-!
# When the charge is unlocked

The handler of the requests looks at the state of the charger, at the permission
of the group and, outside a group, at the meter.  `New_Current` and `coap_put`
send what a permission says.  They unlock a charge that may be unlocked as long
as permissions come for requests made, and a meter that is required is there
where it is not looked at.
-/

namespace VeltiumCharger.Bloqueo

open VeltiumCharger.Group VeltiumCharger.Run

/-- The meter is connected if one is required. -/
def Variables.MedidorListo (v : Variables) : Prop :=
  v.medidorRequerido = true → v.medidorConectado = true

/-- The charge may be unlocked: the charger is initialised; in an active group
it has a permission, granted after it asked for one; and its meter is ready. -/
structure Variables.Permitido (v : Variables) : Prop where
  inicializado : v.dispositivoInicializado = 2
  permiso : v.grupo.groupActive = true → v.chargPerm = true ∧ v.concedido = true
  medidor : v.MedidorListo

instance (v : Variables) : Decidable v.MedidorListo :=
  inferInstanceAs (Decidable (_ → _))

instance (v : Variables) : Decidable v.Permitido :=
  decidable_of_iff
    (v.dispositivoInicializado = 2 ∧
      (v.grupo.groupActive = true → v.chargPerm = true ∧ v.concedido = true) ∧ v.MedidorListo)
    ⟨fun ⟨inicializado, permiso, medidor⟩ => ⟨inicializado, permiso, medidor⟩,
      fun permitido => ⟨permitido.inicializado, permitido.permiso, permitido.medidor⟩⟩

namespace Cargador

/-- The step brings no permission without a request, and unlocks no charge
whose meter is not ready where the handler does not look at it: in a group, in
`New_Current`, and in `coap_put` for the meter of the charger itself. -/
def Respeta (s : Cargador) : Evento → Prop
  | .bloqueoCarga => s.updateTaskrunning = false →
      (s.grupo.groupActive || s.grupo.finding) = true → s.grupo.conected = true →
      s.chargPerm = true → s.bloqueoDeCarga = true → s.MedidorListo
  | .newCurrent desiredCurrent p =>
      (p = some true → s.pedido = true) ∧
        (s.updateTaskrunning = false → s.DesbloqueaCarga desiredCurrent p → s.MedidorListo)
  | .coapPutData consigna => s.grupo.groupMaster = true → 0 < consigna.toNat →
      s.pedido = true ∧
        (s.updateTaskrunning = false → s.askPerm = true → s.tipoSensor = true →
          s.medidorConectado = true)
  | _ => True

/-- Whenever the charge was unlocked, it might be. -/
def SoloPermitidos (s : Cargador) : Prop :=
  ∀ envio ∈ s.enviados, envio.valor = false → envio.estado.Permitido

instance (s : Cargador) : Decidable s.SoloPermitidos :=
  inferInstanceAs (Decidable (∀ envio ∈ s.enviados, _))

/-- What a run that respects the conditions keeps: a request or a permission
says that the charger is initialised, and every permission was asked for. -/
structure Invariante (s : Cargador) : Prop where
  inicializado : s.pedido = true → s.dispositivoInicializado = 2
  pedido : s.askPerm = true → s.pedido = true
  concedido : s.chargPerm = true → s.concedido = true
  pedidoAntes : s.concedido = true → s.pedido = true
  envios : s.SoloPermitidos

variable {s : Cargador}

theorem invariante_inicial (grupo : Grupo) : (inicial grupo).Invariante where
  inicializado pedido := absurd pedido Bool.false_ne_true
  pedido askPerm := absurd askPerm Bool.false_ne_true
  concedido chargPerm := absurd chargPerm Bool.false_ne_true
  pedidoAntes concedido := absurd concedido Bool.false_ne_true
  envios _ mem := absurd mem List.not_mem_nil

theorem Invariante.sendToPSOC5 (inv : s.Invariante) {valor : Bool}
    (permitido : s.updateTaskrunning = false → valor = false → s.Permitido) :
    (s.sendToPSOC5 valor).Invariante := by
  unfold Cargador.sendToPSOC5
  split
  case isTrue => exact inv
  case isFalse enMarcha =>
    refine { inv with envios := fun envio mem => ?_ }
    rcases List.mem_append.mp mem with antes | ahora
    · exact inv.envios envio antes
    · rw [List.mem_singleton.mp ahora]
      exact permitido (Bool.eq_false_of_not_eq_true enMarcha)

/-- Without permission nothing is left to be asked for. -/
theorem Invariante.retiraPermiso (inv : s.Invariante) : s.retiraPermiso.Invariante :=
  { inv with
    pedido := fun askPerm => absurd askPerm Bool.false_ne_true
    concedido := fun chargPerm => absurd chargPerm Bool.false_ne_true
    pedidoAntes := fun concedido => absurd concedido Bool.false_ne_true }

/-- The charge is locked. -/
theorem Invariante.bloquea (inv : s.Invariante) : (s.sendToPSOC5 true).Invariante :=
  inv.sendToPSOC5 fun _ libre => absurd libre.symm Bool.false_ne_true

/-! ## The blocks of the other processor -/

theorem Invariante.inicializaSensor (inv : s.Invariante) (cdp : UInt8) :
    (s.inicializaSensor cdp).Invariante := by
  unfold Cargador.inicializaSensor
  dsimp only
  split
  · apply Invariante.bloquea
    exact { inv with }
  · exact { inv with }

theorem Invariante.bloqueInicializacion (inv : s.Invariante) (bloque : Inicializacion) :
    (s.bloqueInicializacion bloque).Invariante := by
  unfold Cargador.bloqueInicializacion
  split
  · split
    · exact inv
    · have sensor := inv.inicializaSensor bloque.cdp
      refine { sensor with inicializado := fun pedido => ?_ }
      dsimp only
      split
      · rfl
      · exact sensor.inicializado pedido
  · exact inv

theorem Invariante.statusSinVehiculo (inv : s.Invariante) (hpt : Hpt) :
    (s.statusSinVehiculo hpt).Invariante := by
  unfold Cargador.statusSinVehiculo
  dsimp only
  cases sinVehiculo : empieza hpt 'A' with
  | true =>
      rw [if_pos rfl, Bool.true_or, if_pos rfl]
      exact
        { inv with
          inicializado := fun pedido => absurd pedido Bool.false_ne_true
          pedido := fun askPerm => absurd askPerm Bool.false_ne_true
          concedido := fun chargPerm => absurd chargPerm Bool.false_ne_true
          pedidoAntes := fun concedido => absurd concedido Bool.false_ne_true }
  | false =>
      rw [if_neg Bool.false_ne_true]
      split
      · exact inv.retiraPermiso
      · exact inv

theorem Invariante.statusSaleDeCarga (inv : s.Invariante) (hpt : Hpt) :
    (s.statusSaleDeCarga hpt).Invariante := by
  unfold Cargador.statusSaleDeCarga
  split
  · have bloqueado : Invariante { s with bloqueoDeCarga := true } := { inv with }
    exact bloqueado.retiraPermiso.bloquea
  · exact inv

theorem Invariante.bloqueStatus (inv : s.Invariante) (hpt : Hpt) :
    (s.bloqueStatus hpt).Invariante := by
  unfold Cargador.bloqueStatus
  dsimp only
  split
  · split
    · exact { inv with }
    · have nuevo : Invariante { s with hptStatus := hpt, dispositivoInicializado := 2 } :=
        { inv with inicializado := fun _ => rfl }
      have ble : (statusConBle { s with hptStatus := hpt, dispositivoInicializado := 2 }
          hpt).Invariante := by
        unfold statusConBle
        split
        · exact { nuevo with }
        · exact nuevo
      exact { (ble.statusSinVehiculo hpt).statusSaleDeCarga hpt with }
  · exact inv

theorem Invariante.decideBloqueo (inv : s.Invariante) : s.decideBloqueo.Invariante := by
  unfold Cargador.decideBloqueo
  dsimp only
  split
  · exact { inv with }
  case isFalse inicializado =>
    split_ifs
    · exact { inv with pedido := fun askPerm => absurd askPerm Bool.false_ne_true }
    · exact
        { inv with
          inicializado := fun _ => not_not.mp inicializado
          pedido := fun _ => rfl
          pedidoAntes := fun _ => rfl }
    all_goals exact { inv with }

/-- A decision to unlock is taken where the charge may be unlocked, if the meter
is ready where the handler does not look at it. -/
theorem Invariante.permitido_decideBloqueo (inv : s.Invariante)
    (libre : s.decideBloqueo.bloqueoDeCarga = false)
    (medidor : (s.grupo.groupActive || s.grupo.finding) = true → s.grupo.conected = true →
      s.chargPerm = true → s.MedidorListo) :
    s.decideBloqueo.Permitido := by
  have fuera : (s.grupo.groupActive || s.grupo.finding) ≠ true → s.grupo.groupActive ≠ true := by
    intro niUno activo
    exact niUno (by rw [activo, Bool.true_or])
  unfold Cargador.decideBloqueo at libre ⊢
  dsimp only at libre ⊢
  split_ifs at libre ⊢ with inicializado enGrupo conectado permiso pendiente requerido medidorEsta
  · exact ⟨not_not.mp inicializado, fun _ => ⟨permiso, inv.concedido permiso⟩,
      medidor enGrupo conectado permiso⟩
  · exact ⟨not_not.mp inicializado, fun activo => absurd activo (fuera enGrupo),
      fun _ => medidorEsta⟩
  · exact ⟨not_not.mp inicializado, fun activo => absurd activo (fuera enGrupo),
      fun hace => absurd hace requerido⟩

theorem Invariante.bloqueoCarga (inv : s.Invariante) (enMarcha : s.updateTaskrunning = false)
    (respeta : s.Respeta .bloqueoCarga) : s.bloqueoCarga.Invariante := by
  unfold Cargador.bloqueoCarga
  dsimp only
  split
  case isTrue otra =>
    refine inv.decideBloqueo.sendToPSOC5 fun _ libre => ?_
    have antes : s.bloqueoDeCarga = true := by
      rw [libre] at otra
      exact (Bool.eq_false_or_eq_true s.bloqueoDeCarga).resolve_right otra.symm
    exact inv.permitido_decideBloqueo libre fun enGrupo conectado permiso =>
      respeta enMarcha enGrupo conectado permiso antes
  case isFalse => exact inv.decideBloqueo

/-! ## The messages of the group -/

theorem Invariante.recibePermiso (inv : s.Invariante) {p : Option Bool}
    (aPeticion : p = some true → s.pedido = true) : (s.recibePermiso p).Invariante := by
  unfold Cargador.recibePermiso
  rcases p with _ | _ | _
  · dsimp only
    split
    · exact { inv with pedido := fun askPerm => absurd askPerm Bool.false_ne_true }
    · exact inv
  · dsimp only
    rw [if_neg Bool.false_ne_true]
    exact
      { inv with
        concedido := fun chargPerm => absurd chargPerm Bool.false_ne_true
        pedidoAntes := fun concedido => absurd concedido Bool.false_ne_true }
  · dsimp only
    rw [if_pos rfl]
    exact
      { inv with
        pedido := fun askPerm => absurd askPerm Bool.false_ne_true
        concedido := fun _ => aPeticion rfl
        pedidoAntes := fun _ => aPeticion rfl }

theorem medidorListo_recibePermiso (p : Option Bool) :
    (s.recibePermiso p).MedidorListo ↔ s.MedidorListo := by
  unfold Cargador.recibePermiso
  rcases p with _ | _ | _ <;>
  · dsimp only
    split <;> exact Iff.rfl

/-- With a permission, the charge may be unlocked once the meter is ready. -/
theorem Invariante.permitido (inv : s.Invariante) (permiso : s.chargPerm = true)
    (medidor : s.MedidorListo) : s.Permitido where
  inicializado := inv.inicializado (inv.pedidoAntes (inv.concedido permiso))
  permiso _ := ⟨permiso, inv.concedido permiso⟩
  medidor := medidor

theorem Invariante.newCurrent (inv : s.Invariante) {desiredCurrent : UInt8} {p : Option Bool}
    (respeta : s.Respeta (.newCurrent desiredCurrent p)) :
    (s.newCurrent desiredCurrent p).Invariante := by
  have recibido := inv.recibePermiso respeta.1
  rcases newCurrent_cases desiredCurrent p with ⟨-, eq⟩ | ⟨desbloquea, eq⟩ | eq
  · rw [eq]
    exact recibido.bloquea
  · rw [eq]
    obtain ⟨-, -, perm_eq, -, -, update_eq⟩ := @recibePermiso_igual s p
    refine recibido.sendToPSOC5 fun enMarcha _ => ?_
    have listo := respeta.2 (update_eq.symm.trans enMarcha) desbloquea
    refine recibido.permitido (perm_eq.trans desbloquea.2) ?_
    rwa [medidorListo_recibePermiso]
  · rwa [eq]

theorem Invariante.coapPutData (inv : s.Invariante) {consigna : UInt16}
    (respeta : s.Respeta (.coapPutData consigna)) : (s.coapPutData consigna).Invariante := by
  unfold Cargador.coapPutData
  dsimp only
  by_cases master : s.grupo.groupMaster = true
  · rw [if_pos master]
    by_cases hay : 0 < consigna.toNat
    · obtain ⟨pedido, medidor⟩ := respeta master hay
      simp only [hay, decide_true, Bool.true_and, Bool.and_true]
      split_ifs with pendiente sinMedidor
      · apply Invariante.bloquea
        exact
          { inv with
            pedido := fun _ => pedido
            concedido := fun chargPerm => absurd chargPerm Bool.false_ne_true
            pedidoAntes := fun concedido => absurd concedido Bool.false_ne_true }
      · apply Invariante.sendToPSOC5
        · exact
            { inv with
              pedido := fun askPerm => absurd askPerm Bool.false_ne_true
              concedido := fun _ => pedido
              pedidoAntes := fun _ => pedido }
        · intro enMarcha _
          refine ⟨inv.inicializado pedido, fun _ => ⟨rfl, pedido⟩, fun requerido => ?_⟩
          rcases Bool.or_eq_true_iff.mp requerido with sensor | contador
          · exact medidor enMarcha pendiente sensor
          · by_contra noEsta
            refine sinMedidor ?_
            rw [(Bool.and_eq_true_iff.mp contador).2, Bool.eq_false_of_not_eq_true noEsta]
            rfl
      · exact
          { inv with
            concedido := fun _ => pedido
            pedidoAntes := fun _ => pedido }
    · simp only [hay, decide_false, Bool.false_and, Bool.and_false, Bool.false_eq_true, if_false]
      exact
        { inv with
          concedido := fun chargPerm => absurd chargPerm Bool.false_ne_true
          pedidoAntes := fun concedido => absurd concedido Bool.false_ne_true }
  · rw [if_neg master]
    exact inv

/-! ## Runs -/

/-- A step that respects the conditions keeps the invariant. -/
theorem Invariante.paso (inv : s.Invariante) {evento : Evento} (respeta : s.Respeta evento) :
    (s.paso evento).Invariante := by
  cases evento with
  | bloqueInicializacion bloque => exact enBloque inv fun _ => inv.bloqueInicializacion bloque
  | bloqueStatus hpt => exact enBloque inv fun _ => inv.bloqueStatus hpt
  | bloqueoCarga => exact enBloque inv fun enMarcha => inv.bloqueoCarga enMarcha respeta
  | dpcMode cdp =>
      refine enBloque inv fun _ => ?_
      unfold Cargador.dpcMode
      split
      · exact { inv with }
      · exact { inv with }
  | searchExternalMeter encontrado => exact enBloque inv fun _ => { inv with }
  | currentCommand desiredCurrent => exact enBloque inv fun _ => { inv with }
  | newCurrent desiredCurrent p => exact inv.newCurrent respeta
  | coapPutData consigna => exact inv.coapPutData respeta
  | coapServer =>
      apply Invariante.bloquea
      exact { inv with }
  | grupo grupo => exact { inv with }
  | contador tipoSensor medidorConectado => exact { inv with }
  | comando desiredCurrent => exact { inv with }
  | ble conectado => exact { inv with }
  | actualizacion enCurso => exact { inv with }
  | emergencia => exact { inv with inicializado := fun _ => rfl }

/-- In every run whose steps respect the conditions, the charge is unlocked only
where it may be. -/
theorem desbloqueo_permitido (grupo : Grupo) (eventos : List Evento)
    (respetan : Along Respeta Cargador.paso eventos (inicial grupo)) :
    ((inicial grupo).correr eventos).SoloPermitidos :=
  (respetan.invariant Invariante (invariante_inicial grupo)
    fun _ _ inv respeta => inv.paso respeta).envios

/-- A charger in a group: it asks, and gets a permission with a new current. -/
def pideYRecibe : List Evento :=
  [.bloqueInicializacion ⟨true, false, 0, 16, false⟩, .bloqueStatus (.ofText 'B' '1'),
    .grupo ⟨true, false, true, false, 0⟩, .bloqueoCarga, .newCurrent 10 (some true)]

theorem desbloqueo_permitido_pideYRecibe :
    (((inicial ⟨false, false, false, false, 0⟩).correr pideYRecibe).enviados.map Envio.valor =
        [false]) ∧
      ((inicial ⟨false, false, false, false, 0⟩).correr pideYRecibe).SoloPermitidos :=
  ⟨by decide,
    desbloqueo_permitido ⟨false, false, false, false, 0⟩ pideYRecibe
      ⟨trivial, trivial, trivial, fun _ _ _ permiso => absurd permiso (by decide),
        ⟨fun _ => rfl, fun _ _ requerido => absurd requerido (by decide)⟩, trivial⟩⟩

/-- A permission that was not asked for can be used, by steps that respect the
conditions. -/
theorem exists_desbloqueo (s : Cargador) (enMarcha : s.updateTaskrunning = false)
    (permiso : s.chargPerm = true) (sinPedir : s.concedido = false) :
    ∃ eventos, Along Respeta Cargador.paso eventos s ∧ ¬ (s.correr eventos).SoloPermitidos := by
  refine ⟨[.grupo ⟨true, false, true, false, 0⟩, .contador false true, .comando 0,
    .newCurrent 1 none], ⟨trivial, trivial, trivial, ⟨nofun, fun _ _ _ => rfl⟩, trivial⟩, ?_⟩
  intro soloPermitidos
  let antes : Cargador := { s with
    grupo := ⟨true, false, true, false, 0⟩
    tipoSensor := false
    medidorConectado := true
    desiredCurrent := 0
    askPerm := false }
  have enviado : (antes.sendToPSOC5 false).enviados =
      s.enviados ++ [⟨false, antes.toVariables⟩] := by
    simp [sendToPSOC5, antes, enMarcha]
  have final : s.correr [.grupo ⟨true, false, true, false, 0⟩, .contador false true, .comando 0,
      .newCurrent 1 none] = antes.sendToPSOC5 false := by
    simp [correr, paso, Cargador.newCurrent, Cargador.recibePermiso, permiso, antes]
  rw [final] at soloPermitidos
  have permitido := soloPermitidos ⟨false, antes.toVariables⟩
    (by rw [enviado]; exact List.mem_append_right _ (List.mem_singleton_self _)) rfl
  have concedido : s.concedido = true := (permitido.permiso rfl).2
  rw [sinPedir] at concedido
  exact Bool.false_ne_true concedido

/-- A charger in a group whose meter is not connected: it asks, gets a
permission, and asks to unlock the charge. -/
def sinMedidor : List Evento :=
  [.bloqueInicializacion ⟨true, false, 0x12, 16, false⟩, .bloqueStatus (.ofText 'B' '1'),
    .grupo ⟨true, false, true, false, 0⟩, .bloqueoCarga, .newCurrent 16 (some true),
    .bloqueoCarga]

/-- In a group the handler does not look at the meter. -/
theorem sinMedidor_desbloquea :
    ¬ ((inicial ⟨false, false, false, false, 0⟩).correr sinMedidor).SoloPermitidos := by
  decide

end Cargador

end VeltiumCharger.Bloqueo
