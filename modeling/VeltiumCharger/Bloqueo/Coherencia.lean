import VeltiumCharger.Bloqueo.Cargador

/-!
# Coherence of the lock with what was sent

A request of the other processor is answered only when the decision differs from
`Bloqueo_de_carga`, the one before.  That variable is the last value sent as
long as no step sends without writing it, or writes it without sending.
-/

namespace VeltiumCharger.Bloqueo

open VeltiumCharger.Group VeltiumCharger.Run

namespace Cargador

/-- The last value of `BLOQUEO_CARGA` sent; before any, the initial one of
`Bloqueo_de_carga`. -/
def ultimoEnviado (s : Cargador) : Bool :=
  ((s.enviados.getLast?).map Envio.valor).getD true

/-- The last value sent is `Bloqueo_de_carga`, or none was sent and that is the
initial one. -/
def Coherente (s : Cargador) : Prop :=
  (s.enviados.getLast?).map Envio.valor = some s.bloqueoDeCarga ∨
    s.enviados = [] ∧ s.bloqueoDeCarga = true

variable (s : Cargador)

theorem coherente_iff : s.Coherente ↔ s.ultimoEnviado = s.bloqueoDeCarga := by
  unfold Coherente ultimoEnviado
  rcases List.eq_nil_or_concat s.enviados with vacio | ⟨antes, envio, hay⟩
  · simp only [vacio, List.getLast?_nil, Option.map_none, Option.getD_none, true_and,
      reduceCtorEq, false_or]
    exact eq_comm
  · simp [hay]

/-! ## What the parts of the handlers send and write -/

@[simp]
theorem bloqueoDeCarga_sendToPSOC5 (valor : Bool) :
    (s.sendToPSOC5 valor).bloqueoDeCarga = s.bloqueoDeCarga := by
  unfold sendToPSOC5
  split <;> rfl

@[simp]
theorem ultimoEnviado_sendToPSOC5 (valor : Bool) :
    (s.sendToPSOC5 valor).ultimoEnviado =
      if s.updateTaskrunning then s.ultimoEnviado else valor := by
  unfold sendToPSOC5
  split
  · rfl
  · simp [ultimoEnviado]

@[simp]
theorem chargPerm_sendToPSOC5 (valor : Bool) :
    (s.sendToPSOC5 valor).chargPerm = s.chargPerm := by
  unfold sendToPSOC5
  split <;> rfl

/-- The decision sends nothing. -/
@[simp]
theorem enviados_decideBloqueo : s.decideBloqueo.enviados = s.enviados := by
  unfold decideBloqueo
  dsimp only
  split_ifs <;> rfl

/-- The last value sent, of a charger that has sent the same. -/
theorem ultimoEnviado_congr {s otro : Cargador} (mismos : otro.enviados = s.enviados) :
    otro.ultimoEnviado = s.ultimoEnviado := by
  rw [ultimoEnviado, mismos, ultimoEnviado]

/-! ## Steps that keep the two alike -/

/-- The pilot state is one of those known, and another than before. -/
def CambiaStatus (hpt : Hpt) : Prop :=
  s.systemStarted = true ∧
    (hptEstados.any fun estado => hpt.c0 == estado.c0 && hpt.c1 == estado.c1) = true ∧
    (hpt.c0 == s.statusHptAnterior.c0 && hpt.c1 == s.statusHptAnterior.c1) = false

/-- `Bloqueo_de_carga` is written for a BLE client, and nothing is sent. -/
def SoloRecuerda (hpt : Hpt) : Prop :=
  s.CambiaStatus hpt ∧ (s.bleConectado && !empieza hpt 'E' && !empieza hpt 'F') = true ∧
    s.dejaDeCargar hpt = false

/-- The permission after a CURRENT message. -/
def permisoTras (p : Option Bool) : Bool :=
  p.getD s.chargPerm

/-- A CURRENT message locks the charge in progress. -/
def DetieneCarga (desiredCurrent : UInt8) (p : Option Bool) : Prop :=
  desiredCurrent = 0 ∧ s.permisoTras p = false ∧ s.hptStatus.is 'C' '2' = true

/-- A CURRENT message unlocks the charge. -/
def DesbloqueaCarga (desiredCurrent : UInt8) (p : Option Bool) : Prop :=
  desiredCurrent ≠ s.desiredCurrent ∧ s.permisoTras p = true

/-- The master's own report answers a pending request for permission. -/
def RespondePermiso (consigna : UInt16) : Prop :=
  s.grupo.groupMaster = true ∧ s.askPerm = true ∧ 0 < consigna.toNat

/-- The step sends no value but `Bloqueo_de_carga`, and writes that without
sending it only where it is the last value sent. -/
def Acorde (s : Cargador) : Evento → Prop
  | .bloqueStatus hpt => s.updateTaskrunning = false → s.SoloRecuerda hpt → s.ultimoEnviado = true
  | .newCurrent desiredCurrent p => s.updateTaskrunning = false →
      (s.DetieneCarga desiredCurrent p → s.bloqueoDeCarga = true) ∧
        (s.DesbloqueaCarga desiredCurrent p → s.bloqueoDeCarga = false)
  | .coapPutData consigna => s.updateTaskrunning = false → s.RespondePermiso consigna →
      s.bloqueoDeCarga = (s.grupo.contadorConfigurado && !s.medidorConectado)
  | .coapServer => s.updateTaskrunning = false → s.bloqueoDeCarga = true
  | _ => True

variable {s}

/-- A request is answered coherently if it finds the two alike, and also if the
decision is another than the one before. -/
theorem bloqueoCarga_coherente (enMarcha : s.updateTaskrunning = false) :
    s.bloqueoCarga.Coherente ↔
      s.Coherente ∨ s.decideBloqueo.bloqueoDeCarga ≠ s.bloqueoDeCarga := by
  have enMarcha' : s.decideBloqueo.updateTaskrunning = false := by
    rw [← enMarcha]
    unfold decideBloqueo
    dsimp only
    split_ifs <;> rfl
  have ultimo_eq : s.decideBloqueo.ultimoEnviado = s.ultimoEnviado :=
    ultimoEnviado_congr s.enviados_decideBloqueo
  rw [coherente_iff, coherente_iff]
  unfold bloqueoCarga
  dsimp only
  by_cases otra : s.decideBloqueo.bloqueoDeCarga ≠ s.bloqueoDeCarga
  · simp [otra, enMarcha']
  · rw [if_neg otra, ultimo_eq, not_not.mp otra]
    simp

/-- Sending `Bloqueo_de_carga` leaves the two alike. -/
theorem coherente_sendToPSOC5 {s : Cargador} {valor : Bool} (enMarcha : s.updateTaskrunning = false)
    (bloqueo : s.bloqueoDeCarga = valor) : (s.sendToPSOC5 valor).Coherente := by
  rw [coherente_iff, ultimoEnviado_sendToPSOC5, bloqueoDeCarga_sendToPSOC5, enMarcha, bloqueo]
  rfl

/-- During an update nothing is sent. -/
theorem sendToPSOC5_enPausa {s : Cargador} (enPausa : s.updateTaskrunning = true) (valor : Bool) :
    s.sendToPSOC5 valor = s :=
  if_pos enPausa

/-- Neither the lock nor what was sent has changed. -/
theorem Coherente.congr {s otro : Cargador} (coherente : s.Coherente)
    (mismos : otro.enviados = s.enviados) (bloqueo : otro.bloqueoDeCarga = s.bloqueoDeCarga) :
    otro.Coherente := by
  rw [coherente_iff] at coherente ⊢
  rw [ultimoEnviado_congr mismos, coherente, bloqueo]

/-- A value sent as `Bloqueo_de_carga` has it, or not sent at all. -/
theorem Coherente.sendToPSOC5 {s : Cargador} (coherente : s.Coherente) {valor : Bool}
    (acorde : s.updateTaskrunning = false → s.bloqueoDeCarga = valor) :
    (s.sendToPSOC5 valor).Coherente := by
  cases enMarcha : s.updateTaskrunning with
  | true => rwa [sendToPSOC5_enPausa enMarcha]
  | false => exact coherente_sendToPSOC5 enMarcha (acorde enMarcha)

theorem inicializaSensor_coherente (enMarcha : s.updateTaskrunning = false)
    (coherente : s.Coherente) (cdp : UInt8) : (s.inicializaSensor cdp).Coherente := by
  unfold inicializaSensor
  dsimp only
  split
  · apply coherente_sendToPSOC5
    · exact enMarcha
    · rfl
  · exact coherente.congr rfl rfl

theorem bloqueInicializacion_coherente (enMarcha : s.updateTaskrunning = false)
    (coherente : s.Coherente) (bloque : Inicializacion) :
    (s.bloqueInicializacion bloque).Coherente := by
  unfold bloqueInicializacion
  split
  · split
    · exact coherente
    · exact (inicializaSensor_coherente enMarcha coherente bloque.cdp).congr rfl rfl
  · exact coherente

section Status

variable (s) (hpt : Hpt)

/-- For a BLE client only `Bloqueo_de_carga` changes. -/
theorem statusConBle_igual :
    (s.statusConBle hpt).enviados = s.enviados ∧
      (s.statusConBle hpt).updateTaskrunning = s.updateTaskrunning ∧
      (s.statusConBle hpt).dejaDeCargar hpt = s.dejaDeCargar hpt := by
  unfold statusConBle
  split <;> exact ⟨rfl, rfl, rfl⟩

theorem bloqueoDeCarga_statusConBle :
    (s.statusConBle hpt).bloqueoDeCarga = s.bloqueoDeCarga ∨
      (s.bleConectado && !empieza hpt 'E' && !empieza hpt 'F') = true ∧
        (s.statusConBle hpt).bloqueoDeCarga = true := by
  unfold statusConBle
  split
  · exact .inr ⟨‹_›, rfl⟩
  · exact .inl rfl

/-- Without a vehicle only the permission and the record of it change. -/
theorem statusSinVehiculo_igual :
    (s.statusSinVehiculo hpt).enviados = s.enviados ∧
      (s.statusSinVehiculo hpt).bloqueoDeCarga = s.bloqueoDeCarga ∧
      (s.statusSinVehiculo hpt).updateTaskrunning = s.updateTaskrunning ∧
      (s.statusSinVehiculo hpt).dejaDeCargar hpt = s.dejaDeCargar hpt := by
  unfold statusSinVehiculo
  dsimp only
  split_ifs <;> exact ⟨rfl, rfl, rfl, rfl⟩

end Status

/-- What a pilot state sends and writes. -/
theorem bloqueStatus_cases (enMarcha : s.updateTaskrunning = false) (hpt : Hpt) :
    (s.bloqueStatus hpt).Coherente ∨
      ((s.bloqueStatus hpt).bloqueoDeCarga = s.bloqueoDeCarga ∨
        s.SoloRecuerda hpt ∧ (s.bloqueStatus hpt).bloqueoDeCarga = true) ∧
      (s.bloqueStatus hpt).ultimoEnviado = s.ultimoEnviado := by
  unfold bloqueStatus
  dsimp only
  split_ifs with conocido igual
  · exact .inr ⟨.inl rfl, rfl⟩
  · have cambia : s.CambiaStatus hpt :=
      ⟨(Bool.and_eq_true_iff.mp conocido).1, (Bool.and_eq_true_iff.mp conocido).2,
        Bool.eq_false_of_not_eq_true igual⟩
    let nuevo : Cargador := { s with hptStatus := hpt, dispositivoInicializado := 2 }
    obtain ⟨enviados_ble, update_ble, deja_ble⟩ := nuevo.statusConBle_igual hpt
    obtain ⟨enviados_eq, bloqueo_eq, update_eq, deja_eq⟩ :=
      (nuevo.statusConBle hpt).statusSinVehiculo_igual hpt
    have deja_eq' : ((nuevo.statusConBle hpt).statusSinVehiculo hpt).dejaDeCargar hpt =
        s.dejaDeCargar hpt := deja_eq.trans deja_ble
    cases deja : s.dejaDeCargar hpt with
    | true =>
        left
        refine Coherente.congr ?_ rfl rfl
        unfold statusSaleDeCarga
        rw [if_pos (deja_eq'.trans deja)]
        exact coherente_sendToPSOC5 ((update_eq.trans update_ble).trans enMarcha) rfl
    | false =>
        right
        have queda : ((nuevo.statusConBle hpt).statusSinVehiculo hpt).statusSaleDeCarga hpt =
            (nuevo.statusConBle hpt).statusSinVehiculo hpt := by
          unfold statusSaleDeCarga
          rw [if_neg (by rw [deja_eq', deja]; exact Bool.false_ne_true)]
        constructor
        · rcases nuevo.bloqueoDeCarga_statusConBle hpt with mismo | ⟨ble, bloqueado⟩
          · exact .inl ((congrArg (·.bloqueoDeCarga) queda).trans (bloqueo_eq.trans mismo))
          · exact .inr ⟨⟨cambia, ble, deja⟩,
              (congrArg (·.bloqueoDeCarga) queda).trans (bloqueo_eq.trans bloqueado)⟩
        · apply ultimoEnviado_congr
          exact (congrArg (·.enviados) queda).trans (enviados_eq.trans enviados_ble)
  · exact .inr ⟨.inl rfl, rfl⟩

theorem bloqueStatus_coherente (enMarcha : s.updateTaskrunning = false) (coherente : s.Coherente)
    {hpt : Hpt} (acorde : s.SoloRecuerda hpt → s.ultimoEnviado = true) :
    (s.bloqueStatus hpt).Coherente := by
  rcases bloqueStatus_cases enMarcha hpt with despues | ⟨mismo | ⟨recuerda, bloqueado⟩, ultimo_eq⟩
  · exact despues
  · rw [coherente_iff] at coherente ⊢
    rw [ultimo_eq, coherente, mismo]
  · rw [coherente_iff, ultimo_eq, bloqueado]
    exact acorde recuerda

/-- A permission received sends nothing and leaves the lock alone. -/
theorem recibePermiso_igual (p : Option Bool) :
    (s.recibePermiso p).enviados = s.enviados ∧
      (s.recibePermiso p).bloqueoDeCarga = s.bloqueoDeCarga ∧
      (s.recibePermiso p).chargPerm = s.permisoTras p ∧
      (s.recibePermiso p).hptStatus = s.hptStatus ∧
      (s.recibePermiso p).desiredCurrent = s.desiredCurrent ∧
      (s.recibePermiso p).updateTaskrunning = s.updateTaskrunning := by
  unfold recibePermiso permisoTras
  rcases p with _ | p
  · dsimp only
    split <;> exact ⟨rfl, rfl, rfl, rfl, rfl, rfl⟩
  · dsimp only
    split <;> exact ⟨rfl, rfl, rfl, rfl, rfl, rfl⟩

/-- A CURRENT message sends at most one value, and writes no lock. -/
theorem newCurrent_cases (desiredCurrent : UInt8) (p : Option Bool) :
    s.DetieneCarga desiredCurrent p ∧
        s.newCurrent desiredCurrent p = (s.recibePermiso p).sendToPSOC5 true ∨
      s.DesbloqueaCarga desiredCurrent p ∧
        s.newCurrent desiredCurrent p = (s.recibePermiso p).sendToPSOC5 false ∨
      s.newCurrent desiredCurrent p = s.recibePermiso p := by
  obtain ⟨-, -, perm_eq, hpt_eq, desired_eq, -⟩ := @recibePermiso_igual s p
  unfold newCurrent
  dsimp only
  by_cases detiene : s.DetieneCarga desiredCurrent p
  · have detiene' : (desiredCurrent == 0 && !(s.recibePermiso p).chargPerm &&
        (s.recibePermiso p).hptStatus.is 'C' '2') = true := by
      rw [perm_eq, hpt_eq, detiene.1, detiene.2.1, detiene.2.2]
      rfl
    have sin : ((s.recibePermiso p).sendToPSOC5 true).chargPerm = false := by
      rw [chargPerm_sendToPSOC5, perm_eq, detiene.2.1]
    refine .inl ⟨detiene, ?_⟩
    rw [if_pos detiene']
    simp only [sin, Bool.false_eq_true, if_false, ite_self]
  · have sigue : ¬ (desiredCurrent == 0 && !(s.recibePermiso p).chargPerm &&
        (s.recibePermiso p).hptStatus.is 'C' '2') = true := by
      intro cierto
      rw [perm_eq, hpt_eq, Bool.and_eq_true, Bool.and_eq_true, beq_iff_eq,
        Bool.not_eq_true'] at cierto
      exact detiene ⟨cierto.1.1, cierto.1.2, cierto.2⟩
    rw [if_neg sigue, perm_eq, desired_eq]
    cases permiso : s.permisoTras p with
    | true =>
        by_cases otra : desiredCurrent = s.desiredCurrent
        · exact .inr (.inr (by simp [otra]))
        · exact .inr (.inl ⟨⟨otra, permiso⟩, by simp [otra]⟩)
    | false => exact .inr (.inr (by simp))

theorem newCurrent_coherente (coherente : s.Coherente) {desiredCurrent : UInt8} {p : Option Bool}
    (acorde : s.updateTaskrunning = false →
      (s.DetieneCarga desiredCurrent p → s.bloqueoDeCarga = true) ∧
        (s.DesbloqueaCarga desiredCurrent p → s.bloqueoDeCarga = false)) :
    (s.newCurrent desiredCurrent p).Coherente := by
  obtain ⟨enviados_eq, bloqueo_eq, -, -, -, update_eq⟩ := @recibePermiso_igual s p
  have recibido := coherente.congr enviados_eq bloqueo_eq
  rcases newCurrent_cases desiredCurrent p with
    ⟨detiene, eq⟩ | ⟨desbloquea, eq⟩ | eq
  · rw [eq]
    refine recibido.sendToPSOC5 fun enMarcha => ?_
    rw [bloqueo_eq]
    exact (acorde (update_eq.symm.trans enMarcha)).1 detiene
  · rw [eq]
    refine recibido.sendToPSOC5 fun enMarcha => ?_
    rw [bloqueo_eq]
    exact (acorde (update_eq.symm.trans enMarcha)).2 desbloquea
  · rwa [eq]

theorem coapPutData_coherente (coherente : s.Coherente) {consigna : UInt16}
    (acorde : s.updateTaskrunning = false → s.RespondePermiso consigna →
      s.bloqueoDeCarga = (s.grupo.contadorConfigurado && !s.medidorConectado)) :
    (s.coapPutData consigna).Coherente := by
  unfold coapPutData
  dsimp only
  split_ifs with master responde sinMedidor
  · rw [Bool.and_eq_true, decide_eq_true_iff] at responde
    apply Coherente.sendToPSOC5
    · exact coherente.congr rfl rfl
    · intro enMarcha
      exact (acorde enMarcha ⟨master, responde⟩).trans sinMedidor
  · rw [Bool.and_eq_true, decide_eq_true_iff] at responde
    apply Coherente.sendToPSOC5
    · exact coherente.congr rfl rfl
    · intro enMarcha
      exact (acorde enMarcha ⟨master, responde⟩).trans (Bool.eq_false_of_not_eq_true sinMedidor)
  · exact coherente.congr rfl rfl
  · exact coherente

/-- A step that agrees keeps the lock and what was sent alike. -/
theorem Coherente.paso (coherente : s.Coherente) {evento : Evento} (acorde : s.Acorde evento) :
    (s.paso evento).Coherente := by
  cases evento with
  | bloqueInicializacion bloque =>
      exact enBloque coherente fun enMarcha =>
        bloqueInicializacion_coherente enMarcha coherente bloque
  | bloqueStatus hpt =>
      exact enBloque coherente fun enMarcha =>
        bloqueStatus_coherente enMarcha coherente (acorde enMarcha)
  | bloqueoCarga =>
      exact enBloque coherente fun enMarcha =>
        (bloqueoCarga_coherente enMarcha).mpr (.inl coherente)
  | dpcMode cdp =>
      refine enBloque coherente fun _ => ?_
      unfold dpcMode
      split
      · exact coherente.congr rfl rfl
      · exact coherente.congr rfl rfl
  | searchExternalMeter encontrado => exact enBloque coherente fun _ => coherente.congr rfl rfl
  | currentCommand desiredCurrent => exact enBloque coherente fun _ => coherente.congr rfl rfl
  | newCurrent desiredCurrent p => exact newCurrent_coherente coherente acorde
  | coapPutData consigna => exact coapPutData_coherente coherente acorde
  | coapServer =>
      apply Coherente.sendToPSOC5
      · exact coherente.congr rfl rfl
      · exact acorde
  | grupo grupo => exact coherente.congr rfl rfl
  | contador tipoSensor medidorConectado => exact coherente.congr rfl rfl
  | comando desiredCurrent => exact coherente.congr rfl rfl
  | ble conectado => exact coherente.congr rfl rfl
  | actualizacion enCurso => exact coherente.congr rfl rfl
  | emergencia => exact coherente.congr rfl rfl

theorem coherente_inicial (grupo : Grupo) : (inicial grupo).Coherente :=
  .inr ⟨rfl, rfl⟩

/-- In every run whose steps agree, a request is answered coherently. -/
theorem bloqueoCarga_coherente_run (grupo : Grupo) (eventos : List Evento)
    (acordes : Along Acorde paso eventos (inicial grupo)) :
    ((inicial grupo).correr (eventos ++ [.bloqueoCarga])).Coherente := by
  have coherente : ((inicial grupo).correr eventos).Coherente :=
    acordes.invariant Coherente (coherente_inicial grupo) fun _ _ coherente acorde =>
      coherente.paso acorde
  rw [correr, List.foldl_append]
  show Coherente (paso ((inicial grupo).correr eventos) .bloqueoCarga)
  exact coherente.paso trivial

/-- A charger in a group whose server starts, with the vehicle connected. -/
def servidorArranca : List Evento :=
  [.bloqueInicializacion ⟨true, false, 0, 16, false⟩, .bloqueStatus (.ofText 'B' '1'),
    .grupo ⟨true, true, false, false, 0⟩, .bloqueoCarga, .coapServer]

theorem bloqueoCarga_coherente_servidorArranca :
    ((inicial ⟨false, false, false, false, 0⟩).correr
      (servidorArranca ++ [.bloqueoCarga])).Coherente :=
  bloqueoCarga_coherente_run ⟨false, false, false, false, 0⟩ servidorArranca
    ⟨trivial, fun _ recuerda => absurd recuerda.2.1 (by decide), trivial, trivial, fun _ => rfl,
      trivial⟩

/-- Wherever the two differ, steps that agree can lead to a request answered
wrongly: what is decided is `Bloqueo_de_carga` again, and is not sent. -/
theorem exists_incoherente (s : Cargador) (enMarcha : s.updateTaskrunning = false)
    (distintos : ¬ s.Coherente) :
    ∃ eventos, Along Acorde paso eventos s ∧
      ¬ (s.correr (eventos ++ [.bloqueoCarga])).Coherente := by
  have responde : ∀ otro : Cargador, otro.updateTaskrunning = false → ¬ otro.Coherente →
      otro.decideBloqueo.bloqueoDeCarga = otro.bloqueoDeCarga →
      ¬ (otro.paso .bloqueoCarga).Coherente := by
    intro otro enMarcha distintos misma coherente
    rw [paso, enMarcha, if_neg Bool.false_ne_true, bloqueoCarga_coherente enMarcha] at coherente
    rcases coherente with coherente | otra
    · exact distintos coherente
    · exact otra misma
  cases bloqueo : s.bloqueoDeCarga with
  | true =>
      -- in a group without a connection no permission is given
      refine ⟨[.grupo ⟨true, false, false, false, 0⟩], ⟨trivial, trivial⟩, ?_⟩
      apply responde (s.paso (.grupo ⟨true, false, false, false, 0⟩)) enMarcha
      · exact fun coherente => distintos (coherente.congr rfl rfl)
      · simp [paso, decideBloqueo, bloqueo]
  | false =>
      -- outside a group and without a meter nothing locks the charge
      refine ⟨[.emergencia, .grupo ⟨false, false, false, false, 0⟩, .contador false false],
        ⟨trivial, trivial, trivial, trivial⟩, ?_⟩
      apply responde (((s.paso .emergencia).paso (.grupo ⟨false, false, false, false, 0⟩)).paso
        (.contador false false)) enMarcha
      · exact fun coherente => distintos (coherente.congr rfl rfl)
      · simp [paso, decideBloqueo, Variables.medidorRequerido, bloqueo]

/-- A charger in a group asks for permission, gets it with a new current, and
loses it before the vehicle draws current. -/
def permisoRetirado : List Evento :=
  [.bloqueInicializacion ⟨true, false, 0, 16, false⟩, .bloqueStatus (.ofText 'A' '1'),
    .grupo ⟨true, false, true, false, 0⟩, .bloqueStatus (.ofText 'B' '1'), .bloqueoCarga,
    .newCurrent 10 (some true), .newCurrent 10 (some false)]

/-- The unlocking value is the last one sent, and the decision to lock is not
sent. -/
theorem permisoRetirado_incoherente :
    ¬ ((inicial ⟨false, false, false, false, 0⟩).correr
      (permisoRetirado ++ [.bloqueoCarga])).Coherente := by
  rw [coherente_iff]
  decide

end Cargador

end VeltiumCharger.Bloqueo
