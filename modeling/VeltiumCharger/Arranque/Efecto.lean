import VeltiumCharger.Arranque.Tarea

/-!
# What a block does to the start

Of the variables that the start of the charger depends on, most blocks set none.  An
initialisation starts the system once, the first status of a started system ends the start,
the answer of the boot loader creates `UpdateTask`, after a delay, and an order restarts the
charger.
-/

namespace VeltiumCharger.Bloques

open VeltiumCharger.Buffer
open VeltiumCharger.Arranque (impreso)

/-- Whether a call neither creates `UpdateTask` nor restarts the charger. -/
def Salida.callada : Salida → Bool
  | .updateTask => false
  | .restart => false
  | _ => true

/-- The variables that the start depends on, with the calls that matter to it. -/
structure Vista where
  systemStarted : Bool
  psocInicializado : Bool
  dispositivoInicializado : UInt8
  cntTimeoutInicio : UInt8
  countReiniciosMalos : UInt8
  deviceSerNum : List UInt8
  serieFlash : List UInt8
  updateTaskrunning : Bool
  psocUpdateCounter : UInt8
  llamadas : List Salida

namespace Control

/-- The calls that matter to the start. -/
def llamadas (s : Control) : List Salida :=
  s.salida.filter fun llamada => !llamada.callada

/-- What the start sees. -/
def vista (s : Control) : Vista where
  systemStarted := s.systemStarted
  psocInicializado := s.psocInicializado
  dispositivoInicializado := s.dispositivoInicializado
  cntTimeoutInicio := s.cntTimeoutInicio
  countReiniciosMalos := s.configuracion.countReiniciosMalos
  deviceSerNum := s.deviceSerNum
  serieFlash := s.configuracion.deviceSerNum
  updateTaskrunning := s.updateTaskrunning
  psocUpdateCounter := s.psocUpdateCounter
  llamadas := s.llamadas

section Llamadas

variable (s : Control) (data : List UInt8) (attrHandle : UInt16)

theorem vista_anota (llamada : Salida) (callada : llamada.callada = true) :
    (s.anota llamada).vista = s.vista := by
  simp [vista, llamadas, anota, callada]

@[simp]
theorem vista_modifyCharacteristic : (s.modifyCharacteristic data attrHandle).vista = s.vista :=
  s.vista_anota _ rfl

@[simp]
theorem vista_serverbleNotCharacteristic :
    (s.serverbleNotCharacteristic data attrHandle).vista = s.vista :=
  s.vista_anota _ rfl

@[simp]
theorem vista_updateStatusComs (code : UInt16) (block : UInt8) :
    (s.updateStatusComs code block).vista = s.vista :=
  s.vista_anota _ rfl

@[simp]
theorem vista_sendToPSOC5 : (s.sendToPSOC5 data attrHandle).vista = s.vista := by
  unfold sendToPSOC5
  split_ifs
  · rfl
  · exact s.vista_anota _ rfl

@[simp]
theorem vista_enviaBloqueo : s.enviaBloqueo.vista = s.vista :=
  s.vista_sendToPSOC5 _ _

end Llamadas

/-! ## What is not seen -/

section Oculto

variable {s : Control}

/-- The variables that the start does not depend on. -/
@[simp]
theorem vista_con {timeoutMainDisconnect : Int}
    {deviceID espVersionFirmware psocVersionFirmware globalScheduleBuffer : Recibido}
    {userIndex : UInt8} {statusHptAnterior : Modo} {instCurrentAnterior cntDiferencia : UInt16}
    {autSemilla : Nat}
    {userIndexArrived bloqueoDeCarga bloqueoDeCargaOld flagScheduleAck psocUpdateRequest : Bool}
    {status : Status} {params : Params} {comands : Comands} {coms : Coms}
    {contadorExt : ContadorExt} {configFirebase : ConfigFirebase}
    {chargingGroup : ChargingGroup} {registro : Registro} :
    ({ s with
      timeoutMainDisconnect, deviceID, espVersionFirmware, psocVersionFirmware, userIndex
      userIndexArrived, statusHptAnterior, instCurrentAnterior, cntDiferencia, autSemilla
      bloqueoDeCarga, bloqueoDeCargaOld, globalScheduleBuffer, flagScheduleAck
      psocUpdateRequest, status, params, comands, coms, contadorExt, configFirebase
      chargingGroup, registro } : Control).vista = s.vista :=
  rfl

/-- What the start does not depend on in the configuration. -/
@[simp]
theorem vista_conConfiguracion {deviceID : Recibido} {autenticationMode : Modo}
    {firmwareESP firmwarePSOC potenciaContratada1 potenciaContratada2 : UInt16}
    {dataCleared cdp installCurrentLimit veltV medidor485 : UInt8} {coms : Coms}
    {params : Params} {contadorExt : ContadorExt} :
    ({ s with
      params, coms, contadorExt
      configuracion := { s.configuracion with
        deviceID, autenticationMode, firmwareESP, firmwarePSOC, dataCleared, cdp
        installCurrentLimit, potenciaContratada1, potenciaContratada2, veltV, medidor485 } } :
      Control).vista = s.vista :=
  rfl

end Oculto

/-! ## Initialisation -/

section Inicio

variable {s : Control} {buffer : Recibido}

theorem vista_inicioDatos : (s.inicioDatos buffer).vista = s.vista := by
  simp [vista, llamadas, inicioDatos, modifyCharacteristic, anota, Salida.callada]

theorem vista_modoAutenticacion {i : Nat} : (s.modoAutenticacion buffer i).2.2.vista = s.vista := by
  unfold modoAutenticacion
  split_ifs
  · rfl
  · exact s.vista_sendToPSOC5 _ _
  · rfl

theorem vista_inicioValores :
    (s.inicioValores buffer).vista = { s.vista with deviceSerNum := bytes buffer 219 10 } := by
  simp [vista, llamadas, inicioValores, modifyCharacteristic, anota, Salida.callada]

theorem vista_inicioTipoSensor : (s.inicioTipoSensor buffer).vista = s.vista := by
  unfold inicioTipoSensor
  split_ifs
  · exact vista_sendToPSOC5 _ _ _
  · rfl

theorem vista_inicioBloqueo : s.inicioBloqueo.vista = s.vista := by
  unfold inicioBloqueo
  split_ifs
  · simp
  · rfl

theorem vista_inicioSensor : (s.inicioSensor buffer).vista = s.vista :=
  vista_inicioBloqueo.trans vista_inicioTipoSensor

theorem vista_inicioComs : (s.inicioComs buffer).vista = s.vista := by
  simp [vista, llamadas, inicioComs, ponFwUpdateMode, modifyCharacteristic, anota, Salida.callada]

theorem vista_inicioParams :
    (s.inicioParams buffer).vista = { s.vista with deviceSerNum := bytes buffer 219 10 } :=
  vista_inicioComs.trans (vista_inicioSensor.trans vista_inicioValores)

theorem vista_borraFlash (espacios : List UInt8) : (s.borraFlash espacios).vista = s.vista := by
  induction espacios generalizing s with
  | nil => rfl
  | cons espacio espacios ih => exact ih.trans (s.vista_sendToPSOC5 _ _)

theorem vista_inicioFlash : s.inicioFlash.vista = s.vista := by
  unfold inicioFlash
  dsimp only
  split_ifs
  · exact (vista_borraFlash _).trans (vista_borraFlash _)
  · exact vista_borraFlash _
  · rfl

theorem vista_startSystem : s.startSystem.vista =
    { s.vista with
      serieFlash := impreso s.deviceSerNum
      dispositivoInicializado :=
        if s.parseFirmwareVersion s.psocVersionFirmware ≤ 510 then 2
        else s.dispositivoInicializado } := by
  rw [← s.vista_anota (.devAuthInit s.deviceSerNum) rfl]
  rfl

theorem vista_inicioSistema : s.inicioSistema.vista =
    { s.startSystem.vista with
      systemStarted := true, cntTimeoutInicio := 10, psocInicializado := true } :=
  vista_inicioFlash

end Inicio

/-! ## Status -/

section Status

variable {s : Control} {buffer : Recibido} {hpt : Modo}

theorem vista_hptBle : (s.hptBle hpt).vista = s.vista := by
  unfold hptBle
  split_ifs <;> simp

theorem vista_hptFirebase : (s.hptFirebase hpt).vista = s.vista := by
  unfold hptFirebase
  dsimp only
  split_ifs <;> rfl

theorem vista_hptGrupo : (s.hptGrupo hpt).vista = s.vista := by
  unfold hptGrupo
  dsimp only
  split_ifs <;> simp

/-- A new pilot state ends the start. -/
theorem vista_hiloPiloto : (s.hiloPiloto hpt).vista = s.vista ∨
    s.dispositivoInicializado ≠ 2 ∧ (s.hiloPiloto hpt).vista =
      { s.vista with dispositivoInicializado := 2, countReiniciosMalos := 0 } := by
  have resto : ∀ t : Control,
      ((((t.modifyCharacteristic hpt.bytes Handle.statusHptStatus).hptBle hpt).hptFirebase
        hpt).hptGrupo hpt).vista = t.vista := fun t =>
    vista_hptGrupo.trans (vista_hptFirebase.trans (vista_hptBle.trans
      (t.vista_modifyCharacteristic _ _)))
  unfold hiloPiloto
  by_cases nuevo : hpt = s.statusHptAnterior
  · exact .inl (by rw [if_neg (not_not.mpr nuevo)])
  · rw [if_pos nuevo]
    by_cases listo : s.dispositivoInicializado = 2
    · rw [if_neg (not_not.mpr listo)]
      exact .inl (resto s)
    · rw [if_pos listo]
      refine .inr ⟨listo, (resto _).trans ?_⟩
      rw [← s.vista_sendToPSOC5 [1] Handle.bloqueApn]
      rfl

theorem vista_statusProtecciones : (s.statusProtecciones buffer).vista = s.vista := by
  simp [vista, llamadas, statusProtecciones, modifyCharacteristic, anota, Salida.callada]

theorem vista_statusCorriente : (s.statusCorriente buffer).vista = s.vista := by
  unfold statusCorriente
  dsimp only
  split_ifs <;> simp

theorem vista_statusPublica : (s.statusPublica buffer).vista = s.vista := by
  simp [vista, llamadas, statusPublica, modifyCharacteristic, anota, Salida.callada]

theorem vista_statusMedidas : (s.statusMedidas buffer).vista = s.vista := by
  unfold statusMedidas
  dsimp only
  split_ifs <;> rfl

theorem vista_statusAceptado : (s.statusAceptado buffer).vista = s.vista ∨
    s.dispositivoInicializado ≠ 2 ∧ (s.statusAceptado buffer).vista =
      { s.vista with dispositivoInicializado := 2, countReiniciosMalos := 0 } := by
  -- what comes before the pilot state
  obtain ⟨antes, visto, hecho⟩ : ∃ antes : Control, antes.vista = s.vista ∧
      (s.statusAceptado buffer).vista = (antes.hiloPiloto (Modo.de buffer 1)).vista :=
    ⟨_, by simp, vista_statusMedidas.trans (vista_statusPublica.trans
      (vista_statusCorriente.trans vista_statusProtecciones))⟩
  have dispositivo : antes.dispositivoInicializado = s.dispositivoInicializado :=
    congrArg Vista.dispositivoInicializado visto
  rw [hecho, ← visto, ← dispositivo]
  exact vista_hiloPiloto

theorem vista_casoStatus : (s.casoStatus buffer).vista = s.vista ∨
    s.systemStarted = true ∧ s.dispositivoInicializado ≠ 2 ∧ (s.casoStatus buffer).vista =
      { s.vista with dispositivoInicializado := 2, countReiniciosMalos := 0 } := by
  unfold casoStatus
  split_ifs with marca
  · exact .inl rfl
  · rw [Bool.and_eq_true] at marca
    exact vista_statusAceptado.imp_right fun cambia => ⟨marca.2, cambia⟩
  · exact .inl rfl

end Status

/-! ## The rest -/

section Resto

variable {s : Control} {buffer : Recibido}

theorem vista_ponTiempo {leer : DateTime → Int} {poner : Int → DateTime → DateTime}
    {timeStamp : Int} : (s.ponTiempo leer poner timeStamp).vista = s.vista := by
  unfold ponTiempo
  split_ifs <;> rfl

theorem vista_casoDateTime : (s.casoDateTime buffer).vista = s.vista := by
  unfold casoDateTime
  simp [vista_ponTiempo]

theorem vista_casoEnergyRecord : (s.casoEnergyRecord buffer).vista = s.vista := by
  unfold casoEnergyRecord
  dsimp only
  split_ifs <;> simp

theorem vista_casoRecLaps : (s.casoRecLaps buffer).vista = s.vista := by
  simp [casoRecLaps]

theorem vista_casoSearchExternalMeter : (s.casoSearchExternalMeter buffer).vista = s.vista := by
  unfold casoSearchExternalMeter
  dsimp only
  split_ifs <;> simp

theorem vista_dpcSensor {cdp : UInt8} : (s.dpcSensor cdp).vista = s.vista := by
  unfold dpcSensor sinMedidor485
  dsimp only
  split_ifs <;> simp

theorem vista_casoDpcMode : (s.casoDpcMode buffer).vista = s.vista := by
  unfold casoDpcMode
  dsimp only
  split_ifs <;> simp [vista_dpcSensor]

theorem vista_decideBloqueo : s.decideBloqueo.vista = s.vista := by
  unfold decideBloqueo
  dsimp only
  split_ifs <;> rfl

theorem vista_casoBloqueoCarga : s.casoBloqueoCarga.vista = s.vista := by
  unfold casoBloqueoCarga
  dsimp only
  split_ifs <;> simp [vista_decideBloqueo]

theorem vista_casoAutenticationModes : (s.casoAutenticationModes buffer).1.vista = s.vista := by
  unfold casoAutenticationModes
  dsimp only
  split_ifs
  · simp [vista_modoAutenticacion]
  · exact vista_modoAutenticacion

theorem vista_casoEthOn : (s.casoEthOn buffer).vista = s.vista := by
  unfold casoEthOn
  dsimp only
  split_ifs <;> simp

end Resto

/-! ## What a block changes -/

/-- What a block of a type does to what the start sees, up to the delay behind the answer of
the boot loader. -/
inductive Cambia (tipo : TipoBloque) (v : Vista) : Vista → Prop
  | nada : Cambia tipo v v
  | inicia {serie : List UInt8} {dispositivo : UInt8} (es : tipo = .inicializacion)
      (parado : v.systemStarted = false) (diez : serie.length = 10)
      (listo : dispositivo = 2 ∨ dispositivo = v.dispositivoInicializado) :
      Cambia tipo v { v with
        systemStarted := true
        psocInicializado := true
        cntTimeoutInicio := 10
        deviceSerNum := serie
        serieFlash := impreso serie
        dispositivoInicializado := dispositivo }
  | responde (es : tipo = .status) (iniciado : v.systemStarted = true)
      (sin : v.dispositivoInicializado ≠ 2) :
      Cambia tipo v { v with dispositivoInicializado := 2, countReiniciosMalos := 0 }
  | carga (es : tipo = .loadSwApp) : Cambia tipo v { v with psocUpdateCounter := 0 }
  | reinicia (es : tipo = .reset) :
      Cambia tipo v { v with llamadas := v.llamadas ++ [.restart] }

section Bloque

variable {s : Control} {buffer : Recibido}

theorem cambia_of_eq {t : Control} {tipo : TipoBloque} (igual : t.vista = s.vista) :
    Cambia tipo s.vista t.vista :=
  igual ▸ .nada

theorem llamadas_anota {llamada : Salida} (suena : llamada.callada = false) :
    (s.anota llamada).vista = { s.vista with llamadas := s.vista.llamadas ++ [llamada] } := by
  simp [vista, llamadas, anota, suena]

/-- An initialisation with a mode that is taken starts the system. -/
theorem vista_inicia : ∃ dispositivo : UInt8,
    (dispositivo = 2 ∨ dispositivo = s.dispositivoInicializado) ∧
      (s.inicioParams buffer).inicioSistema.vista =
        { s.vista with
          systemStarted := true
          psocInicializado := true
          cntTimeoutInicio := 10
          deviceSerNum := bytes buffer 219 10
          serieFlash := impreso (bytes buffer 219 10)
          dispositivoInicializado := dispositivo } := by
  have params := @vista_inicioParams s buffer
  have serie : (s.inicioParams buffer).deviceSerNum = bytes buffer 219 10 :=
    congrArg Vista.deviceSerNum params
  have dispositivo : (s.inicioParams buffer).dispositivoInicializado = s.dispositivoInicializado :=
    congrArg Vista.dispositivoInicializado params
  rw [vista_inicioSistema, vista_startSystem, params, serie, dispositivo]
  refine ⟨_, ?_, rfl⟩
  split_ifs
  · exact .inl rfl
  · exact .inr rfl

theorem cambia_casoInicializacion :
    Cambia .inicializacion s.vista (s.casoInicializacion buffer).1.vista := by
  unfold casoInicializacion
  split_ifs with acepta
  · have parado : s.systemStarted = false := by simpa using (Bool.and_eq_true_iff.mp acepta).1
    dsimp only
    split_ifs
    · have antes : ((s.inicioDatos buffer).modoAutenticacion buffer 212).2.2.vista = s.vista :=
        vista_modoAutenticacion.trans vista_inicioDatos
      obtain ⟨dispositivo, listo, inicia⟩ := vista_inicia
      rw [inicia, antes]
      refine .inicia rfl parado (by simp [bytes]) (listo.imp_right fun igual => ?_)
      exact igual.trans (congrArg Vista.dispositivoInicializado antes)
    · exact cambia_of_eq (vista_modoAutenticacion.trans vista_inicioDatos)
  · exact .nada

/-- A block without the delay changes what the start sees in one of these ways. -/
theorem cambia_procesarBloque {tipoBloque : UInt16} (otro : TipoBloque.de tipoBloque ≠ .loadSwApp) :
    Cambia (TipoBloque.de tipoBloque) s.vista (s.procesarBloque buffer tipoBloque).1.vista := by
  unfold procesarBloque
  cases tipo : TipoBloque.de tipoBloque with
  | inicializacion => exact cambia_casoInicializacion
  | status =>
      rcases @vista_casoStatus s buffer with igual | ⟨iniciado, sin, cambia⟩
      · exact cambia_of_eq igual
      · exact cambia ▸ Cambia.responde rfl iniciado sin
  | dateTime => exact cambia_of_eq vista_casoDateTime
  | energyRecord => exact cambia_of_eq vista_casoEnergyRecord
  | recLaps => exact cambia_of_eq vista_casoRecLaps
  | searchExternalMeter => exact cambia_of_eq vista_casoSearchExternalMeter
  | dpcMode => exact cambia_of_eq vista_casoDpcMode
  | bloqueoCarga => exact cambia_of_eq vista_casoBloqueoCarga
  | autenticationModes => exact cambia_of_eq vista_casoAutenticationModes
  | ethOn => exact cambia_of_eq vista_casoEthOn
  | reset =>
      have suena := @llamadas_anota s .restart rfl
      exact suena ▸ Cambia.reinicia rfl
  | loadSwApp => exact absurd tipo otro
  | _ =>
      exact cambia_of_eq (by
        simp [procesarCaso, casoScheduleMatrix, casoRecLast, casoLanIp, ponFwUpdateMode])

end Bloque

end Control

end VeltiumCharger.Bloques
