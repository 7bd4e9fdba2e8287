import VeltiumCharger.Arranque.Plazo

/-!
# The bad restarts

The count of bad restarts lives in memory and survives a restart only in the file.  When the
charger restarts only with its count there, the decisions of the control task carry on from
one another through the restarts, until the other processor answers or new firmware comes in
an emergency.
-/

namespace VeltiumCharger.Arranque

open VeltiumCharger.Bloques VeltiumCharger.Documents VeltiumCharger.Run
open VeltiumCharger.Group (capacidad slotSize)

/-! ## The count in the file -/

/-- The count of bad restarts that a file gives. -/
def malosDe (fichero : Fichero) : UInt8 :=
  .ofNat (numero 256
    ((Document.readMembers slotSize Clave.nombre fichero (.empty capacidad)).find
      .countReiniciosMalos))

theorem load_countReiniciosMalos (heap : Clave → Nat → UInt8) (fichero : Fichero) (data : Datos) :
    (load heap fichero data).countReiniciosMalos = malosDe fichero :=
  rfl

theorem malosDe_store {data : Datos} (acotada : data.Acotada) :
    malosDe (store data) = data.countReiniciosMalos := by
  rw [malosDe, find_store acotada]
  exact numero8_toNat _

/-! ## What a pass counts -/

section Pasa

variable {i j : Inicio} {pila : List UInt8}

/-- A pass leaves the count, or adds one to it and is an emergency from eleven on. -/
theorem pasa_cuenta (cuerdo : i.estadoActual = .arranque → i.emergencyState = false)
    (pasa : Pasa pila i j) :
    j.vista.countReiniciosMalos = i.vista.countReiniciosMalos ∨
      (j.vista.countReiniciosMalos = i.vista.countReiniciosMalos + 1 ∧
        j.emergencyState = decide (10 < j.vista.countReiniciosMalos)) := by
  cases pasa with
  | recupera arranque _ _ _ _ cuenta pocos =>
      refine .inr ⟨cuenta, (cuerdo arranque).trans ?_⟩
      simpa using UInt8.not_lt.mpr pocos
  | emergencia _ _ _ _ _ cuenta muchos => exact .inr ⟨cuenta, by simpa using muchos⟩
  | _ => exact .inl rfl

theorem pasa_cuerdo (cuerdo : i.estadoActual = .arranque → i.emergencyState = false)
    (pasa : Pasa pila i j) : j.estadoActual = .arranque → j.emergencyState = false := by
  cases pasa with
  | emergencia => rintro ⟨⟩
  | inicializa => rintro ⟨⟩
  | acaba => rintro ⟨⟩
  | _ => exact cuerdo

end Pasa

/-! ## The decisions of a run -/

/-- A decision after a number of others. -/
def decision (desde : UInt8) (k : Nat) : UInt8 × Bool :=
  let malos := desde + .ofNat (k + 1)
  (malos, decide (10 < malos))

namespace Sistema

variable {red : Control} {base : UInt8} {s : Sistema}

/-- A restart comes with the count in the file. -/
def Guarda (s : Sistema) : Evento → Prop
  | .reinicia _ => malosDe s.fichero = s.placa.malos
  | _ => True

/-- The decisions carry on from one another, and the count from them. -/
structure Cuenta (base : UInt8) (s : Sistema) : Prop where
  cuerdo : s.placa.inicio.estadoActual = .arranque → s.placa.inicio.emergencyState = false
  actual : s.placa.malos = s.desde + .ofNat s.decisiones.length
  decisiones : s.decisiones = (List.range s.decisiones.length).map (decision s.desde)
  desde : s.desde = 0 ∨ s.desde = base

theorem cuenta_trasControl (cuenta : s.Cuenta base) {placa : Placa} {pila : List UInt8}
    (pasa : Pasa pila s.placa.inicio placa.inicio) : (s.trasControl placa).Cuenta base := by
  have cuerdo := pasa_cuerdo cuenta.cuerdo pasa
  rcases pasa_cuenta cuenta.cuerdo pasa with igual | ⟨otra, tipo⟩
  · have mismos : placa.malos = s.placa.malos := igual
    refine ⟨cuerdo, ?_, ?_, cuenta.desde⟩
    · rw [decisiones_trasControl_of_eq mismos]
      exact mismos.trans cuenta.actual
    · rw [decisiones_trasControl_of_eq mismos]
      exact cuenta.decisiones
  · have distintos : placa.malos ≠ s.placa.malos := fun igual =>
      add_one_ne _ (otra.symm.trans igual)
    have malos : placa.malos = s.desde + .ofNat (s.decisiones.length + 1) := by
      rw [UInt8.ofNat_add, ← UInt8.add_assoc, ← cuenta.actual]
      exact otra
    have ultima : (placa.malos, placa.emergencyState) = decision s.desde s.decisiones.length := by
      rw [decision, ← malos]
      exact congrArg (Prod.mk _) tipo
    refine ⟨cuerdo, ?_, ?_, cuenta.desde⟩
    · rw [decisiones_trasControl_of_ne distintos, List.length_append, List.length_singleton]
      exact malos
    · rw [decisiones_trasControl_of_ne distintos, List.length_append, List.length_singleton,
        List.range_succ, List.map_append, ultima]
      exact congrArg (· ++ _) cuenta.decisiones

/-- Another task leaves the count, or sets it to zero. -/
theorem cuenta_trasOtra (cuenta : s.Cuenta base) {placa : Placa}
    (cuerdo : placa.inicio.estadoActual = .arranque → placa.inicio.emergencyState = false)
    (malos : placa.malos = s.placa.malos ∨ placa.malos = 0) :
    (s.trasOtra placa).Cuenta base := by
  by_cases igual : placa.malos = s.placa.malos
  · rw [trasOtra_of_eq igual]
    exact ⟨cuerdo, igual.trans cuenta.actual, cuenta.decisiones, cuenta.desde⟩
  · have cero := malos.resolve_left igual
    unfold trasOtra
    rw [if_pos igual]
    refine ⟨cuerdo, ?_, rfl, .inl cero⟩
    exact (UInt8.add_zero placa.malos).symm

theorem cuenta_recibe (cuenta : s.Cuenta base) (tipoBloque : UInt16) (datos : List UInt8) :
    (s.recibe tipoBloque datos).Cuenta base := by
  obtain ⟨control, buffer, cargando, recibe, cambia⟩ := s.recibe_eq tipoBloque datos
  have malos : control.configuracion.countReiniciosMalos = s.placa.malos ∨
      control.configuracion.countReiniciosMalos = 0 := by
    rcases cambia with ⟨rfl, -⟩ | ⟨-, -, cambia⟩
    · exact .inl rfl
    · change control.vista.countReiniciosMalos = _ ∨ control.vista.countReiniciosMalos = 0
      generalize control.vista = v at cambia
      cases cambia with
      | responde => exact .inr rfl
      | _ => exact .inl rfl
  have tras : (s.trasOtra { s.placa with control := control }).Cuenta base :=
    cuenta_trasOtra cuenta cuenta.cuerdo malos
  rw [recibe]
  exact ⟨tras.cuerdo, tras.actual, tras.decisiones, tras.desde⟩

theorem conPolicy_countReiniciosMalos (data : Datos) :
    data.conPolicy.countReiniciosMalos = data.countReiniciosMalos := by
  unfold Datos.conPolicy
  split_ifs <;> rfl

theorem malos_enciende (heap : Clave → Nat → UInt8) (fichero : Fichero) (desde : UInt8)
    (decisiones : List (UInt8 × Bool)) :
    (enciende red heap fichero desde decisiones).placa.malos = malosDe fichero :=
  (conPolicy_countReiniciosMalos _).trans (load_countReiniciosMalos heap fichero .inicial)

theorem cuenta_enciende (heap : Clave → Nat → UInt8) (cuenta : s.Cuenta base)
    (guarda : malosDe s.fichero = s.placa.malos) :
    (enciende red heap s.fichero s.desde s.decisiones).Cuenta base := by
  have malos : (enciende red heap s.fichero s.desde s.decisiones).placa.malos = s.placa.malos :=
    (malos_enciende heap s.fichero s.desde s.decisiones).trans guarda
  exact ⟨fun _ => rfl, malos.trans cuenta.actual, cuenta.decisiones, cuenta.desde⟩

theorem cuenta_paso (cuenta : s.Cuenta base) {evento : Evento} (guarda : s.Guarda evento) :
    (s.paso red evento).Cuenta base := by
  cases evento with
  | control pila ahora => exact cuenta_trasControl cuenta (Placa.pasa_controlTask ahora)
  | bloque tipoBloque datos => exact cuenta_recibe cuenta tipoBloque datos
  | configTask =>
      change (s.configTask).Cuenta base
      unfold configTask
      by_cases igual : s.placa.datos.igual s.oldData = true
      · rwa [if_pos igual]
      · rw [if_neg igual]
        exact ⟨cuenta.cuerdo, cuenta.actual, cuenta.decisiones, cuenta.desde⟩
  | policy payload =>
      obtain ⟨policy, igual⟩ := s.placa.inicio_escribePolicy payload
      have malos := congrArg (fun i => i.vista.countReiniciosMalos) igual
      exact ⟨igual ▸ cuenta.cuerdo, malos.trans cuenta.actual, cuenta.decisiones, cuenta.desde⟩
  | otras entorno =>
      exact ⟨cuenta.cuerdo, cuenta.actual, cuenta.decisiones, cuenta.desde⟩
  | monta configuracion =>
      exact ⟨cuenta.cuerdo, cuenta.actual, cuenta.decisiones, cuenta.desde⟩
  | creaUpdate =>
      change (if s.cargando then _ else s : Sistema).Cuenta base
      split_ifs
      · have igual := @Placa.inicio_creaUpdate s.placa
        have malos := congrArg (fun i => i.vista.countReiniciosMalos) igual
        exact ⟨igual ▸ cuenta.cuerdo, malos.trans cuenta.actual, cuenta.decisiones, cuenta.desde⟩
      · exact cuenta
  | updatePara =>
      change (if s.trabajando = 0 then s else _ : Sistema).Cuenta base
      split_ifs
      · exact cuenta
      · exact ⟨cuenta.cuerdo, cuenta.actual, cuenta.decisiones, cuenta.desde⟩
  | updateLibera =>
      change (if s.saliendo then _ else s : Sistema).Cuenta base
      split_ifs
      · exact ⟨cuenta.cuerdo, cuenta.actual, cuenta.decisiones, cuenta.desde⟩
      · exact cuenta
  | epilogo =>
      cases emergencia : s.placa.emergencyState with
      | true =>
          have igual := Placa.inicio_epilogo_emergencia emergencia
          have malos := congrArg (fun i => i.vista.countReiniciosMalos) igual
          exact cuenta_trasOtra cuenta (fun _ => congrArg Inicio.emergencyState igual)
            (.inr malos)
      | false =>
          have igual := Placa.inicio_epilogo_normal emergencia
          have malos := congrArg (fun i => i.vista.countReiniciosMalos) igual
          exact cuenta_trasOtra cuenta (igual ▸ cuenta.cuerdo) (.inl malos)
  | descargado =>
      exact ⟨cuenta.cuerdo, cuenta.actual, cuenta.decisiones, cuenta.desde⟩
  | reinicia heap => exact cuenta_enciende heap cuenta guarda

theorem cuenta_nuevo (heap : Clave → Nat → UInt8) (fichero : Fichero) :
    (nuevo red heap fichero).Cuenta (malosDe fichero) := by
  refine ⟨fun _ => rfl, ?_, rfl, .inr rfl⟩
  exact (malos_enciende heap fichero _ []).trans (UInt8.add_zero _).symm

/-- In a run whose restarts come with the count in the file, the decisions since the count was
last set to zero, through all the restarts, find it one higher each time, of eight bits, and
are emergencies exactly when they find more than ten. -/
theorem decisiones_run (heap : Clave → Nat → UInt8) (fichero : Fichero) {eventos : List Evento}
    (guardan : Along Guarda (paso red) eventos (nuevo red heap fichero)) :
    let s := eventos.foldl (paso red) (nuevo red heap fichero)
    (s.desde = 0 ∨ s.desde = malosDe fichero) ∧
      s.placa.malos = s.desde + .ofNat s.decisiones.length ∧
      s.decisiones = (List.range s.decisiones.length).map (decision s.desde) := by
  have cuenta := guardan.invariant (Cuenta (malosDe fichero)) (cuenta_nuevo heap fichero)
    fun _ _ cuenta guarda => cuenta_paso cuenta guarda
  exact ⟨cuenta.desde, cuenta.actual, cuenta.decisiones⟩

/-- Two restarts, with a pass and a round of `ConfigTask` before each one. -/
theorem decisiones_run_dos :
    let eventos : List Evento :=
      [.control [] 0, .configTask, .reinicia fun _ _ => 0, .control [] 0, .configTask,
        .reinicia fun _ _ => 1]
    let s := eventos.foldl (paso .inicial) (nuevo .inicial (fun _ _ => 0) [])
    (s.desde = 0 ∨ s.desde = malosDe []) ∧
      s.placa.malos = s.desde + .ofNat s.decisiones.length ∧
      s.decisiones = (List.range s.decisiones.length).map (decision s.desde) :=
  decisiones_run (fun _ _ => 0) [] ⟨trivial, trivial, rfl, trivial, trivial, rfl, trivial⟩

/-! ## One update at a time -/

/-- The boot loader answers only when it has been asked to, and not between the two flags
that an `UpdateTask` clears. -/
def Pedida (s : Sistema) : Evento → Prop
  | .bloque tipoBloque _ =>
    TipoBloque.de tipoBloque = .loadSwApp →
      s.placa.mainFwUpdateActive = true ∧ s.saliendo = false
  | _ => True

/-- The control task waits while an `UpdateTask` is at work, is about to be created or is
between its two flags: there is only one of them. -/
structure UnaSola (s : Sistema) : Prop where
  cuerdo : s.placa.inicio.estadoActual = .arranque → s.placa.inicio.emergencyState = false
  una : lanzadas s.placa.inicio.vista =
    s.paradas + if s.placa.inicio.vista.updateTaskrunning then 1 else 0
  salen : s.paradas = s.libres ∨ s.paradas = s.libres + 1 ∧
    s.placa.inicio.vista.updateTaskrunning = false ∧ s.cargando = false ∧
      s.placa.inicio.mainFwUpdateActive = true
  corre : s.placa.inicio.vista.updateTaskrunning = true →
    s.placa.inicio.mainFwUpdateActive = true ∧ s.cargando = false
  carga : s.cargando = true → s.placa.inicio.mainFwUpdateActive = true

theorem lanzadas_anota (v : Vista) :
    lanzadas { v with llamadas := v.llamadas ++ [.updateTask] } = lanzadas v + 1 := by
  simp [lanzadas]

theorem lanzadas_restart (v : Vista) :
    lanzadas { v with llamadas := v.llamadas ++ [.restart] } = lanzadas v := by
  simp [lanzadas]

/-- What counts of a step that creates no `UpdateTask` and ends none. -/
theorem UnaSola.congr (sola : s.UnaSola) {otro : Sistema}
    (cuerdo : otro.placa.inicio.estadoActual = .arranque →
      otro.placa.inicio.emergencyState = false)
    (lanza : lanzadas otro.placa.inicio.vista = lanzadas s.placa.inicio.vista)
    (corre : otro.placa.inicio.vista.updateTaskrunning = s.placa.inicio.vista.updateTaskrunning)
    (activa : s.placa.inicio.mainFwUpdateActive = true →
      otro.placa.inicio.mainFwUpdateActive = true)
    (cargando : otro.cargando = s.cargando) (paradas : otro.paradas = s.paradas)
    (libres : otro.libres = s.libres) : otro.UnaSola := by
  refine ⟨cuerdo, ?_, ?_, ?_, ?_⟩
  · rw [lanza, paradas, corre]
    exact sola.una
  · rw [paradas, libres, corre, cargando]
    exact sola.salen.imp_right fun ⟨una, parada, quieta, espera⟩ =>
      ⟨una, parada, quieta, activa espera⟩
  · rw [corre, cargando]
    exact fun corriendo => (sola.corre corriendo).imp_left activa
  · rw [cargando]
    exact fun espera => activa (sola.carga espera)

theorem unaSola_trasControl (sola : s.UnaSola) {placa : Placa} {pila : List UInt8}
    (pasa : Pasa pila s.placa.inicio placa.inicio) : (s.trasControl placa).UnaSola := by
  have cuerdo := pasa_cuerdo sola.cuerdo pasa
  cases visto : placa.inicio with
  | mk vista estadoActual repeticiones activa emergencia serie policy =>
    have congr := @UnaSola.congr s sola (s.trasControl placa)
    rw [show (s.trasControl placa).placa.inicio = placa.inicio from rfl] at congr
    rw [visto] at pasa congr cuerdo
    cases pasa with
    | recupera arranque activo =>
      -- nobody is at work, about to come nor leaving while the other processor is waited for
      have quieta : s.placa.inicio.mainFwUpdateActive = false :=
        activo.resolve_right (by simp [sola.cuerdo arranque])
      have parada : s.placa.inicio.vista.updateTaskrunning = false :=
        Bool.eq_false_iff.mpr fun corre => by simp [(sola.corre corre).1] at quieta
      have vacia : s.cargando = false :=
        Bool.eq_false_iff.mpr fun espera => by simp [sola.carga espera] at quieta
      have todas : s.paradas = s.libres :=
        sola.salen.resolve_right fun sale => by simp [sale.2.2.2] at quieta
      have una := sola.una
      rw [parada] at una
      refine ⟨?_, ?_, .inl todas, fun _ => ⟨?_, vacia⟩, fun _ => ?_⟩
      · change placa.inicio.estadoActual = _ → placa.inicio.emergencyState = _
        rw [visto]
        exact cuerdo
      · change lanzadas placa.inicio.vista =
          s.paradas + if placa.inicio.vista.updateTaskrunning then 1 else 0
        rw [visto]
        exact (lanzadas_anota _).trans (congrArg (· + 1) una)
      · exact congrArg Inicio.mainFwUpdateActive visto
      · exact congrArg Inicio.mainFwUpdateActive visto
    | reinicia => exact congr cuerdo (lanzadas_restart _) rfl id rfl rfl rfl
    | desiste => exact congr cuerdo (lanzadas_restart _) rfl id rfl rfl rfl
    | _ => exact congr cuerdo rfl rfl id rfl rfl rfl

theorem cuentas_trasOtra (placa : Placa) :
    (s.trasOtra placa).paradas = s.paradas ∧ (s.trasOtra placa).libres = s.libres := by
  unfold trasOtra
  split_ifs <;> exact ⟨rfl, rfl⟩

/-- Another task creates no `UpdateTask`. -/
theorem unaSola_trasOtra (sola : s.UnaSola) {placa : Placa}
    (cuerdo : placa.inicio.estadoActual = .arranque → placa.inicio.emergencyState = false)
    (lanza : lanzadas placa.inicio.vista = lanzadas s.placa.inicio.vista)
    (corre : placa.inicio.vista.updateTaskrunning = s.placa.inicio.vista.updateTaskrunning)
    (activa : s.placa.inicio.mainFwUpdateActive = true →
      placa.inicio.mainFwUpdateActive = true) : (s.trasOtra placa).UnaSola := by
  refine sola.congr ?_ ?_ ?_ ?_ (cargando_trasOtra placa) (cuentas_trasOtra placa).1
    (cuentas_trasOtra placa).2
  · rwa [placa_trasOtra]
  · rwa [placa_trasOtra]
  · rwa [placa_trasOtra]
  · rwa [placa_trasOtra]

theorem unaSola_recibe (sola : s.UnaSola) (tipoBloque : UInt16) (datos : List UInt8)
    (pedida : s.Pedida (.bloque tipoBloque datos)) : (s.recibe tipoBloque datos).UnaSola := by
  obtain ⟨control, buffer, cargando, recibe, cambia⟩ := s.recibe_eq tipoBloque datos
  have tras : (s.trasOtra { s.placa with control := control }).UnaSola := by
    rcases cambia with ⟨rfl, -⟩ | ⟨-, -, cambia⟩
    · exact unaSola_trasOtra sola sola.cuerdo rfl rfl id
    · refine unaSola_trasOtra sola sola.cuerdo ?_ ?_ id
      · change lanzadas control.vista = lanzadas s.placa.control.vista
        generalize control.vista = v at cambia
        cases cambia with
        | reinicia => exact lanzadas_restart _
        | _ => rfl
      · change control.vista.updateTaskrunning = s.placa.control.vista.updateTaskrunning
        generalize control.vista = v at cambia
        cases cambia <;> rfl
  have quieta := cargando_trasOtra (s := s) { s.placa with control := control }
  rw [recibe]
  rcases cambia with ⟨-, igual⟩ | ⟨libre, igual, cambia⟩
  · rw [igual, ← quieta]
    exact ⟨tras.cuerdo, tras.una, tras.salen, tras.corre, tras.carga⟩
  · by_cases carga : TipoBloque.de tipoBloque = .loadSwApp
    · obtain ⟨espera, nadie⟩ := pedida carga
      have parada : control.vista.updateTaskrunning = false := by
        generalize control.vista = v at cambia
        cases cambia <;> exact libre
      refine ⟨tras.cuerdo, tras.una, ?_, fun corre => ?_, fun _ => ?_⟩
      · refine tras.salen.imp_right fun sale => ?_
        rw [(cuentas_trasOtra _).1, (cuentas_trasOtra _).2] at sale
        simp [saliendo] at nadie
        omega
      · rw [placa_trasOtra] at corre
        exact absurd (parada.symm.trans corre) Bool.false_ne_true
      · rw [placa_trasOtra]
        exact espera
    · have sin : cargando = false := by simpa [carga] using igual
      subst sin
      refine ⟨tras.cuerdo, tras.una, ?_, fun corre => ⟨(tras.corre corre).1, rfl⟩, nofun⟩
      exact tras.salen.imp_right fun ⟨una, parada, _, espera⟩ => ⟨una, parada, rfl, espera⟩

/-- `procesar_bloque` comes back from its delay. -/
theorem unaSola_creaUpdate (sola : s.UnaSola) (espera : s.cargando = true) :
    UnaSola { s with placa := s.placa.creaUpdate, cargando := false } := by
  have igual := @Placa.inicio_creaUpdate s.placa
  have parada : s.placa.inicio.vista.updateTaskrunning = false :=
    Bool.eq_false_iff.mpr fun corre => by simp [(sola.corre corre).2] at espera
  have todas : s.paradas = s.libres :=
    sola.salen.resolve_right fun sale => by simp [sale.2.2.1] at espera
  have una := sola.una
  rw [parada] at una
  refine ⟨igual ▸ sola.cuerdo, ?_, .inl todas, fun _ => ⟨?_, rfl⟩, nofun⟩
  · change lanzadas s.placa.creaUpdate.inicio.vista =
      s.paradas + if s.placa.creaUpdate.inicio.vista.updateTaskrunning then 1 else 0
    rw [igual]
    exact (lanzadas_anota _).trans (congrArg (· + 1) una)
  · exact (congrArg Inicio.mainFwUpdateActive igual).trans (sola.carga espera)

theorem unaSola_updatePara (sola : s.UnaSola) (alguna : s.trabajando ≠ 0) :
    UnaSola { s with placa := s.placa.updatePara, paradas := s.paradas + 1 } := by
  have una := sola.una
  have corre : s.placa.inicio.vista.updateTaskrunning = true := by
    by_contra parada
    rw [Bool.eq_false_iff.mpr parada] at una
    exact alguna (Nat.sub_eq_zero_of_le una.le)
  obtain ⟨activa, quieta⟩ := sola.corre corre
  have todas : s.paradas = s.libres :=
    sola.salen.resolve_right fun sale => by simp [sale.2.1] at corre
  rw [corre] at una
  exact ⟨sola.cuerdo, una, .inr ⟨congrArg (· + 1) todas, rfl, quieta, activa⟩, nofun, sola.carga⟩

theorem unaSola_updateLibera (sola : s.UnaSola) (sale : s.saliendo = true) :
    UnaSola { s with placa := s.placa.updateLibera, libres := s.libres + 1 } := by
  have menos : s.libres < s.paradas := of_decide_eq_true sale
  obtain ⟨una, parada, quieta, -⟩ := sola.salen.resolve_left menos.ne'
  refine ⟨sola.cuerdo, sola.una, .inl una, fun corre => ?_, fun espera => ?_⟩
  · exact absurd (parada.symm.trans corre) Bool.false_ne_true
  · exact absurd (quieta.symm.trans espera) Bool.false_ne_true

theorem unaSola_paso (sola : s.UnaSola) {evento : Evento} (pedida : s.Pedida evento) :
    (s.paso red evento).UnaSola := by
  cases evento with
  | control pila ahora => exact unaSola_trasControl sola (Placa.pasa_controlTask ahora)
  | bloque tipoBloque datos => exact unaSola_recibe sola tipoBloque datos pedida
  | configTask =>
      change (s.configTask).UnaSola
      unfold configTask
      by_cases igual : s.placa.datos.igual s.oldData = true
      · rwa [if_pos igual]
      · rw [if_neg igual]
        exact sola.congr sola.cuerdo rfl rfl id rfl rfl rfl
  | policy payload =>
      obtain ⟨policy, igual⟩ := s.placa.inicio_escribePolicy payload
      exact sola.congr (igual ▸ sola.cuerdo) (congrArg (lanzadas ·.vista) igual)
        (congrArg (·.vista.updateTaskrunning) igual)
        (congrArg (·.mainFwUpdateActive) igual).trans rfl rfl rfl
  | otras entorno => exact sola.congr sola.cuerdo rfl rfl id rfl rfl rfl
  | monta configuracion => exact sola.congr sola.cuerdo rfl rfl id rfl rfl rfl
  | creaUpdate =>
      change (if s.cargando then _ else s : Sistema).UnaSola
      split_ifs with espera
      · exact unaSola_creaUpdate sola espera
      · exact sola
  | updatePara =>
      change (if s.trabajando = 0 then s else _ : Sistema).UnaSola
      split_ifs with ninguna
      · exact sola
      · exact unaSola_updatePara sola ninguna
  | updateLibera =>
      change (if s.saliendo then _ else s : Sistema).UnaSola
      split_ifs with sale
      · exact unaSola_updateLibera sola sale
      · exact sola
  | epilogo =>
      cases emergencia : s.placa.emergencyState with
      | true =>
          have igual := Placa.inicio_epilogo_emergencia emergencia
          refine unaSola_trasOtra sola (fun _ => congrArg Inicio.emergencyState igual) ?_
            (congrArg (·.vista.updateTaskrunning) igual)
            fun _ => congrArg Inicio.mainFwUpdateActive igual
          rw [igual]
          exact lanzadas_restart _
      | false =>
          have igual := Placa.inicio_epilogo_normal emergencia
          exact unaSola_trasOtra sola (igual ▸ sola.cuerdo) (congrArg (lanzadas ·.vista) igual)
            (congrArg (·.vista.updateTaskrunning) igual)
            fun _ => congrArg Inicio.mainFwUpdateActive igual
  | descargado => exact sola.congr sola.cuerdo rfl rfl (fun _ => rfl) rfl rfl rfl
  | reinicia heap => exact ⟨fun _ => rfl, rfl, .inl rfl, nofun, nofun⟩

/-- In a run in which the boot loader answers only when it has been asked to, there is never
more than one `UpdateTask` at work. -/
theorem trabajando_run (heap : Clave → Nat → UInt8) (fichero : Fichero) {eventos : List Evento}
    (pedidas : Along Pedida (paso red) eventos (nuevo red heap fichero)) :
    (eventos.foldl (paso red) (nuevo red heap fichero)).trabajando ≤ 1 := by
  have inicial : (nuevo red heap fichero).UnaSola := ⟨fun _ => rfl, rfl, .inl rfl, nofun, nofun⟩
  have sola := pedidas.invariant UnaSola inicial fun _ _ sola pedida => unaSola_paso sola pedida
  have una := sola.una
  refine Nat.sub_le_iff_le_add'.mpr (una.trans_le (Nat.add_le_add_left ?_ _))
  split_ifs
  · exact Nat.le_refl 1
  · exact Nat.zero_le 1

/-- Firmware is downloaded, asked for, and the boot loader answers; the same again while the
first `UpdateTask` has cleared its flags and waits to restart the charger. -/
def dosDescargas : List Evento :=
  let una : List Evento :=
    [.descargado, .control [] 0, .bloque Handle.bootLoaderLoadSwApp [0], .control [] 0,
      .creaUpdate, .control [] 0]
  una ++ [.updatePara, .updateLibera] ++ una

/-- Both are created without a restart in between. -/
example : lanzadas (dosDescargas.foldl (paso .inicial)
    (nuevo .inicial (fun _ _ => 0) [])).placa.control.vista = 2 := by
  decide +kernel

theorem trabajando_run_dosDescargas :
    (dosDescargas.foldl (paso .inicial) (nuevo .inicial (fun _ _ => 0) [])).trabajando ≤ 1 :=
  trabajando_run _ _ ⟨trivial, trivial, fun _ => ⟨rfl, rfl⟩, trivial, trivial, trivial, trivial,
    trivial, trivial, trivial, fun _ => ⟨rfl, rfl⟩, trivial, trivial, trivial, trivial⟩

end Sistema

end VeltiumCharger.Arranque
