import VeltiumCharger.Arranque.Efecto

/-!
# A pass of the control task

What a pass does to the variables of the start, in one list of cases: it waits, asks, counts
a bad restart, goes on, or asks for the boot loader.  What is sent to the other processor and
published is left out of the list.
-/

namespace VeltiumCharger.Arranque

open VeltiumCharger.Bloques VeltiumCharger.Buffer

/-- The variables of the start. -/
structure Inicio where
  vista : Vista
  estadoActual : Estado
  cntRepeticionesInicio : UInt16
  mainFwUpdateActive : Bool
  emergencyState : Bool
  deviceSerNumFlash : List UInt8
  policy : List UInt8

namespace Placa

/-- The variables of the start of a charger. -/
def inicio (s : Placa) : Inicio where
  vista := s.control.vista
  estadoActual := s.estadoActual
  cntRepeticionesInicio := s.cntRepeticionesInicio
  mainFwUpdateActive := s.mainFwUpdateActive
  emergencyState := s.emergencyState
  deviceSerNumFlash := s.deviceSerNumFlash
  policy := s.policy

/-! ## What is not seen -/

section Oculto

variable {s : Placa}

@[simp]
theorem inicio_sendToPSOC5 (data : List UInt8) (attrHandle : UInt16) :
    (s.sendToPSOC5 data attrHandle).inicio = s.inicio := by
  simp [inicio, sendToPSOC5]

@[simp]
theorem inicio_sendStatusToPSOC5 (connected : Bool) (inicializado commType : UInt8) :
    (s.sendStatusToPSOC5 connected inicializado commType).inicio = s.inicio :=
  inicio_sendToPSOC5 _ _

theorem inicio_restart : s.restart.inicio =
    { s.inicio with vista := { s.inicio.vista with
      llamadas := s.inicio.vista.llamadas ++ [.restart] } } := by
  simp [inicio, restart, @Control.llamadas_anota s.control .restart rfl]

theorem inicio_compruebaAuth (ahora : UInt32) : (s.compruebaAuth ahora).inicio = s.inicio := by
  unfold compruebaAuth
  split_ifs <;> rfl

theorem inicio_eligeInterfaz : s.eligeInterfaz.inicio = s.inicio := by
  unfold eligeInterfaz
  split_ifs <;> rfl

theorem inicio_avisaPruebas : s.avisaPruebas.inicio = s.inicio := by
  unfold avisaPruebas
  split_ifs
  · exact inicio_sendToPSOC5 _ _
  · rfl

theorem inicio_notaCambio : s.notaCambio.inicio = s.inicio := by
  unfold notaCambio
  split_ifs <;> rfl

theorem inicio_avisaCambio : s.avisaCambio.inicio = s.inicio := by
  unfold avisaCambio
  split_ifs
  · exact inicio_sendStatusToPSOC5 _ _ _
  · exact inicio_sendStatusToPSOC5 _ _ _
  · rfl

theorem inicio_mandaOrden : s.mandaOrden.inicio = s.inicio := by
  unfold mandaOrden
  dsimp only
  split_ifs
  · exact inicio_sendToPSOC5 _ _
  · exact inicio_sendToPSOC5 _ _
  · exact inicio_sendToPSOC5 _ _
  · rfl

theorem inicio_tomaRegistro : s.tomaRegistro.inicio = s.inicio := by
  unfold tomaRegistro
  split_ifs <;> rfl

theorem inicio_reiniciaRegistros : s.reiniciaRegistros.inicio = s.inicio := by
  unfold reiniciaRegistros
  split_ifs <;> rfl

theorem inicio_pideRegistro (ahora : UInt32) : (s.pideRegistro ahora).inicio = s.inicio := by
  unfold pideRegistro
  split_ifs
  · exact inicio_sendToPSOC5 _ _
  · rfl

end Oculto

/-! ## The cases -/

end Placa

/-- What a pass does to the variables of the start; `pila` is what stands behind the locals
of the task. -/
inductive Pasa (pila : List UInt8) (i : Inicio) : Inicio → Prop
  | nada (sigue : i.estadoActual = .normal ∨ i.mainFwUpdateActive = true) : Pasa pila i i
  | espera {cnt : UInt8} (arranque : i.estadoActual = .arranque)
      (activo : i.mainFwUpdateActive = false ∨ i.emergencyState = true)
      (callado : i.vista.psocInicializado = false) (resta : cnt = i.vista.cntTimeoutInicio - 1)
      (quedan : cnt ≠ 0) :
      Pasa pila i { i with vista := { i.vista with cntTimeoutInicio := cnt } }
  | pide {cnt : UInt16} (arranque : i.estadoActual = .arranque)
      (activo : i.mainFwUpdateActive = false ∨ i.emergencyState = true)
      (callado : i.vista.psocInicializado = false) (vence : i.vista.cntTimeoutInicio - 1 = 0)
      (resta : cnt = i.cntRepeticionesInicio - 1) (quedan : cnt ≠ 0) :
      Pasa pila i { i with
        vista := { i.vista with cntTimeoutInicio := 10 }
        cntRepeticionesInicio := cnt }
  | recupera {malos : UInt8} (arranque : i.estadoActual = .arranque)
      (activo : i.mainFwUpdateActive = false ∨ i.emergencyState = true)
      (callado : i.vista.psocInicializado = false) (vence : i.vista.cntTimeoutInicio - 1 = 0)
      (agota : i.cntRepeticionesInicio - 1 = 0)
      (cuenta : malos = i.vista.countReiniciosMalos + 1) (pocos : malos ≤ 10) :
      Pasa pila i { i with
        vista := { i.vista with
          cntTimeoutInicio := 10
          countReiniciosMalos := malos
          updateTaskrunning := true
          llamadas := i.vista.llamadas ++ [.updateTask] }
        cntRepeticionesInicio := 750
        mainFwUpdateActive := true }
  | emergencia {malos : UInt8} (arranque : i.estadoActual = .arranque)
      (activo : i.mainFwUpdateActive = false ∨ i.emergencyState = true)
      (callado : i.vista.psocInicializado = false) (vence : i.vista.cntTimeoutInicio - 1 = 0)
      (agota : i.cntRepeticionesInicio - 1 = 0)
      (cuenta : malos = i.vista.countReiniciosMalos + 1) (muchos : 10 < malos) :
      Pasa pila i { i with
        vista := { i.vista with
          cntTimeoutInicio := 10
          countReiniciosMalos := malos
          dispositivoInicializado := 2
          deviceSerNum := i.deviceSerNumFlash }
        cntRepeticionesInicio := 750
        deviceSerNumFlash := convertSN pila i.vista.serieFlash
        estadoActual := .normal
        emergencyState := true }
  | inicializa (arranque : i.estadoActual = .arranque)
      (activo : i.mainFwUpdateActive = false ∨ i.emergencyState = true)
      (responde : i.vista.psocInicializado = true) :
      Pasa pila i { i with estadoActual := .inicializacion }
  | acaba (inicializacion : i.estadoActual = .inicializacion)
      (activo : i.mainFwUpdateActive = false ∨ i.emergencyState = true) :
      Pasa pila i { i with estadoActual := .normal }
  | reinicia (normal : i.estadoActual = .normal) :
      Pasa pila i { i with vista := { i.vista with llamadas := i.vista.llamadas ++ [.restart] } }
  | pideCargador (espera : i.mainFwUpdateActive = true) (cuerdo : i.emergencyState = false)
      (parada : i.vista.updateTaskrunning = false) (pocas : i.vista.psocUpdateCounter ≤ 100) :
      Pasa pila i { i with vista := { i.vista with
        psocUpdateCounter := i.vista.psocUpdateCounter + 1 } }
  | desiste (espera : i.mainFwUpdateActive = true) (cuerdo : i.emergencyState = false)
      (muchas : 100 < i.vista.psocUpdateCounter) :
      Pasa pila i { i with vista := { i.vista with
        psocUpdateCounter := 0, llamadas := i.vista.llamadas ++ [.restart] } }

namespace Placa

variable {s : Placa} {pila : List UInt8}

theorem pasa_vigila (normal : s.estadoActual = .normal) : Pasa pila s.inicio s.vigila.inicio := by
  unfold vigila
  dsimp only
  split_ifs
  · exact inicio_restart ▸ Pasa.reinicia normal
  · exact .nada (.inl normal)

theorem pasa_normal (normal : s.estadoActual = .normal) (ahora : UInt32) :
    Pasa pila s.inicio (s.normal ahora).inicio := by
  unfold Placa.normal
  obtain ⟨antes, hecho⟩ : ∃ antes : Placa,
      antes = (s.compruebaAuth ahora).eligeInterfaz.avisaPruebas.notaCambio.avisaCambio := ⟨_, rfl⟩
  have igual : antes.inicio = s.inicio := by
    rw [hecho, inicio_avisaCambio, inicio_notaCambio, inicio_avisaPruebas, inicio_eligeInterfaz,
      inicio_compruebaAuth]
  dsimp only
  rw [← hecho]
  split_ifs
  · rw [inicio_restart, igual]
    exact .reinicia normal
  · obtain ⟨luego, ordenes⟩ : ∃ luego : Placa,
      luego = antes.mandaOrden.tomaRegistro.reiniciaRegistros.pideRegistro ahora := ⟨_, rfl⟩
    have mismo : luego.inicio = s.inicio := by
      rw [ordenes, inicio_pideRegistro, inicio_reiniciaRegistros, inicio_tomaRegistro,
        inicio_mandaOrden, igual]
    rw [← ordenes, ← mismo]
    exact pasa_vigila ((congrArg Inicio.estadoActual mismo).trans normal)

theorem pasa_esperaCargador (espera : s.mainFwUpdateActive = true)
    (cuerdo : s.emergencyState = false) : Pasa pila s.inicio s.esperaCargador.inicio := by
  unfold esperaCargador
  split_ifs with pide agota
  · obtain ⟨parada, pocas⟩ := pide
    have cuenta : ({ s.sendToPSOC5 [0] Handle.bootLoaderLoadSwApp with
        control := { (s.sendToPSOC5 [0] Handle.bootLoaderLoadSwApp).control with
          psocUpdateCounter :=
            (s.sendToPSOC5 [0] Handle.bootLoaderLoadSwApp).control.psocUpdateCounter + 1 } } :
        Placa).inicio =
      { (s.sendToPSOC5 [0] Handle.bootLoaderLoadSwApp).inicio with
        vista := { (s.sendToPSOC5 [0] Handle.bootLoaderLoadSwApp).inicio.vista with
          psocUpdateCounter :=
            (s.sendToPSOC5 [0] Handle.bootLoaderLoadSwApp).inicio.vista.psocUpdateCounter + 1 } } :=
      rfl
    dsimp only
    rw [cuenta, inicio_sendToPSOC5]
    exact .pideCargador espera cuerdo parada pocas
  · rw [inicio_restart]
    exact .desiste espera cuerdo agota
  · exact .nada (.inr espera)

theorem inicio_recupera : s.recupera.inicio =
    { s.inicio with
      vista := { s.inicio.vista with
        updateTaskrunning := true
        llamadas := s.inicio.vista.llamadas ++ [.updateTask] }
      mainFwUpdateActive := true } := by
  have suena := @Control.llamadas_anota { s.control with updateTaskrunning := true } .updateTask rfl
  simp only [inicio, recupera, suena]
  rfl

theorem inicio_emergencia : (s.emergencia pila).inicio =
    { s.inicio with
      vista := { s.inicio.vista with
        dispositivoInicializado := 2
        deviceSerNum := s.deviceSerNumFlash }
      deviceSerNumFlash := convertSN pila s.inicio.vista.serieFlash
      estadoActual := .normal
      emergencyState := true } := by
  simp [inicio, emergencia, Control.vista, Control.llamadas, Control.modifyCharacteristic,
    Control.anota, Salida.callada]

/-- The other processor has not answered: the pass recovers or goes into emergency. -/
theorem pasa_agota {antes : Inicio} (arranque : antes.estadoActual = .arranque)
    (activo : antes.mainFwUpdateActive = false ∨ antes.emergencyState = true)
    (callado : antes.vista.psocInicializado = false)
    (vence : antes.vista.cntTimeoutInicio - 1 = 0) (agota : antes.cntRepeticionesInicio - 1 = 0)
    (igual : s.inicio = { antes with
      vista := { antes.vista with cntTimeoutInicio := 10 }, cntRepeticionesInicio := 0 }) :
    Pasa pila antes (s.agota pila).inicio := by
  obtain ⟨luego, decide, cuenta⟩ : ∃ luego : Placa,
      s.agota pila = (if luego.malos > 10 then luego.emergencia pila else luego.recupera) ∧
      luego.inicio = { s.inicio with
        vista := { s.inicio.vista with
          countReiniciosMalos := s.inicio.vista.countReiniciosMalos + 1 }
        cntRepeticionesInicio := 750 } := ⟨_, rfl, rfl⟩
  rw [igual] at cuenta
  have malos : luego.malos = antes.vista.countReiniciosMalos + 1 :=
    congrArg (fun i => i.vista.countReiniciosMalos) cuenta
  rw [decide]
  split_ifs with muchos
  · have flash : luego.deviceSerNumFlash = antes.deviceSerNumFlash :=
      congrArg Inicio.deviceSerNumFlash cuenta
    rw [inicio_emergencia, cuenta, flash]
    exact .emergencia arranque activo callado vence agota rfl (malos ▸ muchos)
  · rw [inicio_recupera, cuenta]
    exact .recupera arranque activo callado vence agota rfl (malos ▸ UInt8.not_lt.mp muchos)

/-- A request is sent, or it was the last one. -/
theorem pasa_repite {antes : Inicio} (arranque : antes.estadoActual = .arranque)
    (activo : antes.mainFwUpdateActive = false ∨ antes.emergencyState = true)
    (callado : antes.vista.psocInicializado = false)
    (vence : antes.vista.cntTimeoutInicio - 1 = 0)
    (igual : s.inicio = { antes with vista := { antes.vista with cntTimeoutInicio := 0 } }) :
    Pasa pila antes (s.repite pila).inicio := by
  obtain ⟨luego, decide, pide⟩ : ∃ luego : Placa,
      s.repite pila = (if luego.cntRepeticionesInicio = 0 then luego.agota pila else luego) ∧
      luego.inicio = { (s.sendToPSOC5 [0] Handle.bloqueInicializacion).inicio with
        vista := { (s.sendToPSOC5 [0] Handle.bloqueInicializacion).inicio.vista with
          cntTimeoutInicio := 10 }
        cntRepeticionesInicio :=
          (s.sendToPSOC5 [0] Handle.bloqueInicializacion).inicio.cntRepeticionesInicio - 1 } :=
    ⟨_, rfl, rfl⟩
  rw [inicio_sendToPSOC5, igual] at pide
  have cnt : luego.cntRepeticionesInicio = antes.cntRepeticionesInicio - 1 :=
    congrArg Inicio.cntRepeticionesInicio pide
  rw [decide]
  split_ifs with agota
  · have ultima : antes.cntRepeticionesInicio - 1 = 0 := cnt ▸ agota
    rw [ultima] at pide
    exact pasa_agota arranque activo callado vence ultima pide
  · rw [pide]
    exact .pide arranque activo callado vence rfl (cnt ▸ agota)

theorem pasa_arranque (arranque : s.estadoActual = .arranque)
    (activo : s.mainFwUpdateActive = false ∨ s.emergencyState = true) :
    Pasa pila s.inicio (s.arranque pila).inicio := by
  unfold Placa.arranque
  dsimp only
  split_ifs with responde vence
  · exact .inicializa arranque activo responde
  · refine pasa_repite arranque activo (Bool.eq_false_iff.mpr responde) vence ?_
    rw [vence]
    rfl
  · exact .espera arranque activo (Bool.eq_false_iff.mpr responde) rfl vence

theorem pasa_controlTask (ahora : UInt32) :
    Pasa pila s.inicio (s.controlTask pila ahora).inicio := by
  unfold controlTask
  split_ifs with activo
  · split
    · rename_i arranque
      exact pasa_arranque arranque activo
    · rename_i inicializacion
      have igual : s.inicializacion.inicio = { s.inicio with estadoActual := .normal } := by
        simp [Placa.inicializacion, inicio, sendToPSOC5]
      exact igual ▸ .acaba inicializacion activo
    · rename_i normal
      exact pasa_normal normal ahora
  · obtain ⟨espera, cuerdo⟩ := not_or.mp activo
    exact pasa_esperaCargador (by simpa using espera) (by simpa using cuerdo)

end Placa

end VeltiumCharger.Arranque
