import VeltiumCharger.Arranque.Sistema

/-!
# How long the charger waits

From the moment it is on, the control task counts two numbers down: the passes until the next
request and the requests that are left.  Together they are the passes that are left until it
decides that the other processor does not answer.
-/

namespace VeltiumCharger.Arranque

open VeltiumCharger.Bloques

namespace Inicio

variable {i j : Inicio} {pila : List UInt8}

/-- The passes that are left until the decision. -/
def falta (i : Inicio) : Nat :=
  i.vista.cntTimeoutInicio.toNat + 10 * (i.cntRepeticionesInicio.toNat - 1)

/-- The control task is waiting for the other processor. -/
structure Callado (i : Inicio) : Prop where
  arranque : i.estadoActual = .arranque
  activo : i.mainFwUpdateActive = false
  callado : i.vista.psocInicializado = false
  timeout : i.vista.cntTimeoutInicio ≠ 0
  repeticiones : i.cntRepeticionesInicio ≠ 0

theorem toNat_sub_one_8 {x : UInt8} (positivo : x ≠ 0) : (x - 1).toNat + 1 = x.toNat := by
  have uno : 1 ≤ x.toNat := Nat.pos_of_ne_zero fun cero => positivo (UInt8.toNat_inj.mp cero)
  rw [UInt8.toNat_sub_of_le x 1 (UInt8.le_iff_toNat_le.mpr uno)]
  exact Nat.sub_add_cancel uno

theorem toNat_sub_one_16 {x : UInt16} (positivo : x ≠ 0) : (x - 1).toNat + 1 = x.toNat := by
  have uno : 1 ≤ x.toNat := Nat.pos_of_ne_zero fun cero => positivo (UInt16.toNat_inj.mp cero)
  rw [UInt16.toNat_sub_of_le x 1 (UInt16.le_iff_toNat_le.mpr uno)]
  exact Nat.sub_add_cancel uno

/-- A pass less is left, or it was the last one. -/
theorem Callado.pasa (callado : i.Callado) (pasa : Pasa pila i j) :
    (j.Callado ∧ j.falta + 1 = i.falta ∧
        j.vista.countReiniciosMalos = i.vista.countReiniciosMalos) ∨
      (i.falta = 1 ∧ j.vista.countReiniciosMalos = i.vista.countReiniciosMalos + 1 ∧
        (10 < j.vista.countReiniciosMalos → j.emergencyState = true)) := by
  have resta := toNat_sub_one_8 callado.timeout
  have menos := toNat_sub_one_16 callado.repeticiones
  cases pasa with
  | nada sigue =>
      rcases sigue with normal | activa
      · simp [callado.arranque] at normal
      · simp [callado.activo] at activa
  | espera _ _ _ igual quedan =>
      subst igual
      refine .inl ⟨⟨callado.arranque, callado.activo, callado.callado, quedan,
        callado.repeticiones⟩, ?_, rfl⟩
      simp only [falta]
      omega
  | pide _ _ _ vence igual quedan =>
      subst igual
      refine .inl ⟨⟨callado.arranque, callado.activo, callado.callado,
        by simp, quedan⟩, ?_, rfl⟩
      have queda := toNat_sub_one_16 quedan
      have diez : (10 : UInt8).toNat = 10 := rfl
      rw [vence, UInt8.toNat_zero] at resta
      simp only [falta]
      omega
  | recupera _ _ _ vence agota cuenta pocos =>
      rw [vence, UInt8.toNat_zero] at resta
      rw [agota, UInt16.toNat_zero] at menos
      refine .inr ⟨?_, cuenta, fun muchos => absurd muchos (UInt8.not_lt.mpr pocos)⟩
      simp only [falta]
      omega
  | emergencia _ _ _ vence agota cuenta muchos =>
      rw [vence, UInt8.toNat_zero] at resta
      rw [agota, UInt16.toNat_zero] at menos
      refine .inr ⟨?_, cuenta, fun _ => rfl⟩
      simp only [falta]
      omega
  | inicializa _ _ responde => simp [callado.callado] at responde
  | acaba inicializacion => simp [callado.arranque] at inicializacion
  | reinicia normal => simp [callado.arranque] at normal
  | pideCargador espera => simp [callado.activo] at espera
  | desiste espera => simp [callado.activo] at espera

/-- A pass neither starts the system nor stops it. -/
theorem pasa_iniciado (pasa : Pasa pila i j) :
    j.vista.systemStarted = i.vista.systemStarted ∧
      j.vista.psocInicializado = i.vista.psocInicializado := by
  cases pasa <;> exact ⟨rfl, rfl⟩

end Inicio

/-! ## A run without a restart -/

/-- A pass of the control task. -/
def Evento.esPasada : Evento → Bool
  | .control _ _ => true
  | _ => false

/-- No firmware is brought, and the charger does not restart. -/
def Evento.interno : Evento → Bool
  | .epilogo => false
  | .descargado => false
  | .reinicia _ => false
  | _ => true

namespace Sistema

variable {red : Control} {s : Sistema} {n : Nat}

/-- After a number of passes the charger waits for the passes that are left, or has decided,
or the other processor has answered. -/
structure Espera (n : Nat) (s : Sistema) : Prop where
  juntos : s.placa.inicio.vista.psocInicializado = s.placa.inicio.vista.systemStarted
  plazo : s.placa.inicio.vista.systemStarted = false →
    (s.decisiones = [] ∧ s.placa.inicio.Callado ∧ s.placa.inicio.falta + n = 1191) ∨
      s.decisiones ≠ [] ∧ 1191 ≤ n

theorem add_one_ne (x : UInt8) : x + 1 ≠ x := by
  intro igual
  have cuenta := congrArg UInt8.toNat igual
  rw [UInt8.toNat_add, UInt8.toNat_one] at cuenta
  omega

theorem decisiones_trasControl_of_eq {placa : Placa} (igual : placa.malos = s.placa.malos) :
    (s.trasControl placa).decisiones = s.decisiones :=
  if_neg (not_not.mpr igual)

theorem decisiones_trasControl_of_ne {placa : Placa} (otro : placa.malos ≠ s.placa.malos) :
    (s.trasControl placa).decisiones =
      s.decisiones ++ [(placa.malos, placa.emergencyState)] :=
  if_pos otro

theorem espera_trasControl (espera : s.Espera n) {placa : Placa} {pila : List UInt8}
    (pasa : Pasa pila s.placa.inicio placa.inicio) : (s.trasControl placa).Espera (n + 1) := by
  obtain ⟨started, psoc⟩ := Inicio.pasa_iniciado pasa
  refine ⟨psoc.trans (espera.juntos.trans started.symm), fun parado => ?_⟩
  rcases espera.plazo (started.symm.trans parado) with
    ⟨ninguna, callado, quedan⟩ | ⟨alguna, pasadas⟩
  · rcases callado.pasa pasa with ⟨sigue, menos, igual⟩ | ⟨ultima, cuenta, _⟩
    · refine .inl ⟨(decisiones_trasControl_of_eq igual).trans ninguna, sigue, ?_⟩
      change placa.inicio.falta + (n + 1) = 1191
      omega
    · have otro : placa.malos ≠ s.placa.malos := fun igual =>
        add_one_ne _ (cuenta.symm.trans igual)
      refine .inr ⟨?_, by omega⟩
      simp [decisiones_trasControl_of_ne otro]
  · refine .inr ⟨?_, Nat.le_succ_of_le pasadas⟩
    by_cases igual : placa.malos = s.placa.malos
    · rwa [decisiones_trasControl_of_eq igual]
    · simp [decisiones_trasControl_of_ne igual]

/-- Nothing changes in what is waited for. -/
theorem Espera.congr (espera : s.Espera n) {otro : Sistema}
    (decisiones : otro.decisiones = s.decisiones)
    (started : otro.placa.inicio.vista.systemStarted = s.placa.inicio.vista.systemStarted)
    (psoc : otro.placa.inicio.vista.psocInicializado = s.placa.inicio.vista.psocInicializado)
    (callado : s.placa.inicio.Callado → otro.placa.inicio.Callado)
    (falta : otro.placa.inicio.falta = s.placa.inicio.falta) : otro.Espera n := by
  refine ⟨psoc.trans (espera.juntos.trans started.symm), fun parado => ?_⟩
  rw [decisiones, falta]
  exact (espera.plazo (started.symm.trans parado)).imp_left fun ⟨ninguna, espera, quedan⟩ =>
    ⟨ninguna, callado espera, quedan⟩

/-- Nor when the counts of the start are the same. -/
theorem Espera.control (espera : s.Espera n) {control : Control} {buffer : Recibido}
    {cargando : Bool} {v : Vista} (visto : control.vista = v)
    (malos : v.countReiniciosMalos = s.placa.inicio.vista.countReiniciosMalos)
    (started : v.systemStarted = s.placa.inicio.vista.systemStarted)
    (psoc : v.psocInicializado = s.placa.inicio.vista.psocInicializado)
    (timeout : v.cntTimeoutInicio = s.placa.inicio.vista.cntTimeoutInicio) :
    ({ s.trasOtra { s.placa with control := control } with
      bufferRxLocal := buffer, cargando := cargando } : Sistema).Espera n := by
  subst visto
  have mismos : ({ s.placa with control := control } : Placa).malos = s.placa.malos := malos
  rw [trasOtra_of_eq mismos]
  refine espera.congr rfl started psoc (fun callado => ?_) ?_
  · exact ⟨callado.arranque, callado.activo, psoc.trans callado.callado,
      fun cero => callado.timeout (timeout.symm.trans cero), callado.repeticiones⟩
  · exact congrArg (fun cnt : UInt8 => cnt.toNat + 10 * (s.placa.cntRepeticionesInicio.toNat - 1))
      timeout

/-- Once the system is started nothing is waited for. -/
theorem espera_iniciado (started : s.placa.inicio.vista.systemStarted = true)
    (psoc : s.placa.inicio.vista.psocInicializado = true) : s.Espera n :=
  ⟨psoc.trans started.symm, fun parado => by simp [started] at parado⟩

/-- A block does not change what is waited for, unless it starts the system. -/
theorem espera_recibe (espera : s.Espera n) (tipoBloque : UInt16) (datos : List UInt8) :
    (s.recibe tipoBloque datos).Espera n := by
  obtain ⟨control, buffer, cargando, recibe, cambia⟩ := s.recibe_eq tipoBloque datos
  rw [recibe]
  rcases cambia with ⟨rfl, -⟩ | ⟨-, -, cambia⟩
  · exact espera.control rfl rfl rfl rfl rfl
  · generalize visto : control.vista = v at cambia
    cases cambia with
    | nada => exact espera.control visto rfl rfl rfl rfl
    | carga => exact espera.control visto rfl rfl rfl rfl
    | reinicia => exact espera.control visto rfl rfl rfl rfl
    | inicia =>
        have visto' : ({ s.placa with control := control } : Placa).inicio.vista = _ := visto
        refine espera_iniciado ?_ ?_
        · simp [visto']
        · simp [visto']
    | responde _ iniciado =>
        have visto' : ({ s.placa with control := control } : Placa).inicio.vista = _ := visto
        refine espera_iniciado ?_ ?_
        · simp [visto', iniciado]
        · simp [visto']
          exact espera.juntos.trans iniciado

theorem espera_paso (espera : s.Espera n) {evento : Evento} (interno : evento.interno = true) :
    (s.paso red evento).Espera (if evento.esPasada then n + 1 else n) := by
  cases evento with
  | control pila ahora => exact espera_trasControl espera (Placa.pasa_controlTask ahora)
  | bloque tipoBloque datos => exact espera_recibe espera tipoBloque datos
  | configTask =>
      change (s.configTask).Espera n
      unfold configTask
      by_cases igual : s.placa.datos.igual s.oldData = true
      · rwa [if_pos igual]
      · rw [if_neg igual]
        exact ⟨espera.juntos, espera.plazo⟩
  | policy payload =>
      obtain ⟨policy, igual⟩ := s.placa.inicio_escribePolicy payload
      refine espera.congr rfl (congrArg (·.vista.systemStarted) igual)
        (congrArg (·.vista.psocInicializado) igual) (fun callado => ?_)
        ((congrArg Inicio.falta igual).trans rfl)
      exact igual ▸ ⟨callado.arranque, callado.activo, callado.callado, callado.timeout,
        callado.repeticiones⟩
  | otras entorno => exact ⟨espera.juntos, espera.plazo⟩
  | monta configuracion => exact ⟨espera.juntos, espera.plazo⟩
  | creaUpdate =>
      change (if s.cargando then _ else s : Sistema).Espera n
      split_ifs
      · have igual := @Placa.inicio_creaUpdate s.placa
        refine espera.congr rfl (congrArg (·.vista.systemStarted) igual)
          (congrArg (·.vista.psocInicializado) igual) (fun callado => ?_)
          ((congrArg Inicio.falta igual).trans rfl)
        exact igual ▸ ⟨callado.arranque, callado.activo, callado.callado, callado.timeout,
          callado.repeticiones⟩
      · exact espera
  | updatePara =>
      change (if s.trabajando = 0 then s else _ : Sistema).Espera n
      split_ifs
      · exact espera
      · exact espera.congr rfl rfl rfl (fun callado => ⟨callado.arranque, callado.activo,
          callado.callado, callado.timeout, callado.repeticiones⟩) rfl
  | updateLibera =>
      change (if s.saliendo then _ else s : Sistema).Espera n
      split_ifs
      · exact espera.congr rfl rfl rfl (fun callado => ⟨callado.arranque, rfl, callado.callado,
          callado.timeout, callado.repeticiones⟩) rfl
      · exact espera
  | epilogo => simp [Evento.interno] at interno
  | descargado => simp [Evento.interno] at interno
  | reinicia heap => simp [Evento.interno] at interno

theorem espera_foldl (espera : s.Espera n) {eventos : List Evento}
    (internos : ∀ evento ∈ eventos, evento.interno = true) :
    (eventos.foldl (paso red) s).Espera (n + eventos.countP Evento.esPasada) := by
  induction eventos generalizing s n with
  | nil => exact espera
  | cons evento eventos ih =>
      have sigue := @ih (s.paso red evento) _
        (espera_paso espera (internos evento List.mem_cons_self))
        fun otro esta => internos otro (List.mem_cons_of_mem evento esta)
      rw [List.countP_cons]
      split_ifs at sigue ⊢ with pasada
      · rwa [Nat.add_right_comm, Nat.add_assoc] at sigue
      · exact sigue

theorem espera_nuevo (heap : Clave → Nat → UInt8) (fichero : Fichero) :
    (nuevo red heap fichero).Espera 0 :=
  have uno : (1 : UInt8) ≠ 0 := by decide
  have todas : (120 : UInt16) ≠ 0 := by decide
  ⟨rfl, fun _ => .inl ⟨rfl, ⟨rfl, rfl, rfl, uno, todas⟩, rfl⟩⟩

/-- Until the charger restarts or gets firmware, and as long as no initialisation has been
accepted, the control task has decided exactly when it has made 1191 passes, whatever the
other tasks do in between. -/
theorem plazo_run (heap : Clave → Nat → UInt8) (fichero : Fichero) {eventos : List Evento}
    (internos : ∀ evento ∈ eventos, evento.interno = true)
    (callado : (eventos.foldl (paso red)
      (nuevo red heap fichero)).placa.control.systemStarted = false) :
    (eventos.foldl (paso red) (nuevo red heap fichero)).decisiones = [] ↔
      eventos.countP Evento.esPasada < 1191 := by
  have espera : (eventos.foldl (paso red) (nuevo red heap fichero)).Espera
      (0 + eventos.countP Evento.esPasada) := espera_foldl (espera_nuevo heap fichero) internos
  rw [Nat.zero_add] at espera
  rcases espera.plazo callado with ⟨ninguna, callado, quedan⟩ | ⟨alguna, pasadas⟩
  · refine iff_of_true ninguna ?_
    have algo := Inicio.toNat_sub_one_8 callado.timeout
    rw [Inicio.falta] at quedan
    omega
  · exact iff_of_false alguna (Nat.not_lt_of_le pasadas)

/-- Passes alone do not start the system. -/
theorem systemStarted_pasadas (pila : List UInt8) (ahora : UInt32) (s : Sistema) (k : Nat) :
    ((List.replicate k (.control pila ahora)).foldl (paso red) s).placa.control.systemStarted =
      s.placa.control.systemStarted := by
  induction k with
  | zero => rfl
  | succ k ih =>
      rw [List.replicate_succ', List.foldl_append, ← ih]
      exact (Inicio.pasa_iniciado (Placa.pasa_controlTask ahora)).1

/-- After 1190 passes there is no decision, and with the next one there is. -/
theorem plazo_run_ultima :
    ((List.replicate 1190 (.control [] 0)).foldl (paso .inicial)
        (nuevo .inicial (fun _ _ => 0) [])).decisiones = [] ∧
      ((List.replicate 1191 (.control [] 0)).foldl (paso .inicial)
        (nuevo .inicial (fun _ _ => 0) [])).decisiones ≠ [] := by
  have pasadas (k : Nat) :
      (List.replicate k (Evento.control [] 0)).countP Evento.esPasada = k := by
    have pasada : (Evento.control [] 0).esPasada = true := rfl
    rw [List.countP_replicate, if_pos pasada]
  have internas (k : Nat) : ∀ evento ∈ List.replicate k (Evento.control [] 0),
      evento.interno = true := by
    intro evento esta
    rw [List.eq_of_mem_replicate esta]
    rfl
  constructor
  · refine (plazo_run _ _ (internas 1190) (systemStarted_pasadas [] 0 _ 1190)).mpr ?_
    rw [pasadas]
    decide
  · refine (plazo_run _ _ (internas 1191) (systemStarted_pasadas [] 0 _ 1191)).not.mpr ?_
    rw [pasadas]
    decide

end Sistema

end VeltiumCharger.Arranque
