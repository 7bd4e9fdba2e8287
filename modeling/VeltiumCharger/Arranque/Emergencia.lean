import VeltiumCharger.Arranque.Reinicios

/-!
# The emergency

After ten bad restarts the charger goes on without the other processor, with what it has in
flash.  The serial number it works with is copied before the one in flash is converted, so it
is the initial one, with which every token is accepted.
-/

namespace VeltiumCharger.Arranque

open VeltiumCharger.Bloques

/-- What holds of the start: the serial number in flash is converted in the emergency only,
and the emergency is the end of a start with too many bad ones. -/
structure Inicio.Sano (i : Inicio) : Prop where
  arranque : i.estadoActual = .arranque →
    i.emergencyState = false ∧ i.deviceSerNumFlash = initialSerNum
  inicializacion : i.estadoActual = .inicializacion → i.emergencyState = false
  listo : i.emergencyState = true → i.vista.dispositivoInicializado = 2
  muchos : i.emergencyState = true → 10 < i.vista.countReiniciosMalos
  serie : i.emergencyState = true → i.vista.systemStarted = false →
    i.vista.deviceSerNum = initialSerNum

namespace Inicio.Sano

variable {i j : Inicio} {pila : List UInt8}

theorem pasa (sano : i.Sano) (pasa : Pasa pila i j) : j.Sano := by
  cases pasa with
  | nada => exact sano
  | espera => exact ⟨sano.arranque, sano.inicializacion, sano.listo, sano.muchos, sano.serie⟩
  | pide => exact ⟨sano.arranque, sano.inicializacion, sano.listo, sano.muchos, sano.serie⟩
  | recupera arranque =>
      have cuerdo := (sano.arranque arranque).1
      refine ⟨sano.arranque, sano.inicializacion, ?_, ?_, ?_⟩
      · exact fun emergencia => by simp [cuerdo] at emergencia
      · exact fun emergencia => by simp [cuerdo] at emergencia
      · exact fun emergencia => by simp [cuerdo] at emergencia
  | emergencia arranque _ _ _ _ _ muchos =>
      refine ⟨by rintro ⟨⟩, by rintro ⟨⟩, fun _ => rfl, fun _ => muchos, fun _ _ => ?_⟩
      exact (sano.arranque arranque).2
  | inicializa arranque =>
      have cuerdo := (sano.arranque arranque).1
      exact ⟨by rintro ⟨⟩, fun _ => cuerdo, sano.listo, sano.muchos, sano.serie⟩
  | acaba inicializacion =>
      exact ⟨by rintro ⟨⟩, by rintro ⟨⟩, sano.listo, sano.muchos, sano.serie⟩
  | reinicia => exact ⟨sano.arranque, sano.inicializacion, sano.listo, sano.muchos, sano.serie⟩
  | pideCargador => exact ⟨sano.arranque, sano.inicializacion, sano.listo, sano.muchos, sano.serie⟩
  | desiste => exact ⟨sano.arranque, sano.inicializacion, sano.listo, sano.muchos, sano.serie⟩

theorem cambia (sano : i.Sano) {tipo : TipoBloque} {v : Vista}
    (cambia : Control.Cambia tipo i.vista v) : { i with vista := v }.Sano := by
  cases cambia with
  | nada => exact sano
  | inicia _ _ _ listo =>
      refine ⟨sano.arranque, sano.inicializacion, fun emergencia => ?_, sano.muchos, ?_⟩
      · exact listo.elim id fun igual => igual.trans (sano.listo emergencia)
      · rintro _ ⟨⟩
  | responde _ _ sin =>
      have cuerdo : i.emergencyState = false :=
        Bool.eq_false_iff.mpr fun emergencia => sin (sano.listo emergencia)
      refine ⟨sano.arranque, sano.inicializacion, fun _ => rfl, ?_, sano.serie⟩
      exact fun emergencia => by simp [cuerdo] at emergencia
  | carga => exact ⟨sano.arranque, sano.inicializacion, sano.listo, sano.muchos, sano.serie⟩
  | reinicia => exact ⟨sano.arranque, sano.inicializacion, sano.listo, sano.muchos, sano.serie⟩

theorem normal (sano : i.Sano) (emergencia : i.emergencyState = true) :
    i.estadoActual = .normal := by
  cases estado : i.estadoActual with
  | arranque => simp [(sano.arranque estado).1] at emergencia
  | inicializacion => simp [sano.inicializacion estado] at emergencia
  | normal => rfl

end Inicio.Sano

namespace Sistema

variable {red : Control} {s : Sistema}

theorem sano_trasOtra {placa : Placa} (sano : placa.inicio.Sano) :
    (s.trasOtra placa).placa.inicio.Sano := by
  rwa [placa_trasOtra]

theorem sano_recibe (sano : s.placa.inicio.Sano) (tipoBloque : UInt16) (datos : List UInt8) :
    (s.recibe tipoBloque datos).placa.inicio.Sano := by
  obtain ⟨control, buffer, cargando, recibe, cambia⟩ := s.recibe_eq tipoBloque datos
  rw [recibe]
  apply sano_trasOtra
  rcases cambia with ⟨rfl, -⟩ | ⟨-, -, cambia⟩
  · exact sano
  · exact sano.cambia cambia

theorem sano_enciende (heap : Clave → Nat → UInt8) (fichero : Fichero) (desde : UInt8)
    (decisiones : List (UInt8 × Bool)) :
    (enciende red heap fichero desde decisiones).placa.inicio.Sano := by
  constructor
  · exact fun _ => ⟨rfl, rfl⟩
  · exact fun _ => rfl
  · exact fun emergencia => absurd emergencia Bool.false_ne_true
  · exact fun emergencia => absurd emergencia Bool.false_ne_true
  · exact fun emergencia => absurd emergencia Bool.false_ne_true

theorem sano_paso (sano : s.placa.inicio.Sano) (evento : Evento) :
    (s.paso red evento).placa.inicio.Sano := by
  cases evento with
  | control pila ahora => exact sano.pasa (Placa.pasa_controlTask ahora)
  | bloque tipoBloque datos => exact sano_recibe sano tipoBloque datos
  | configTask =>
      change (s.configTask).placa.inicio.Sano
      unfold configTask
      by_cases igual : s.placa.datos.igual s.oldData = true
      · rwa [if_pos igual]
      · rwa [if_neg igual]
  | policy payload =>
      obtain ⟨policy, igual⟩ := s.placa.inicio_escribePolicy payload
      exact igual ▸ ⟨sano.arranque, sano.inicializacion, sano.listo, sano.muchos, sano.serie⟩
  | otras entorno => exact sano
  | monta configuracion => exact sano
  | creaUpdate =>
      change (if s.cargando then _ else s : Sistema).placa.inicio.Sano
      split_ifs
      · exact @Placa.inicio_creaUpdate s.placa ▸
          ⟨sano.arranque, sano.inicializacion, sano.listo, sano.muchos, sano.serie⟩
      · exact sano
  | updatePara =>
      change (if s.trabajando = 0 then s else _ : Sistema).placa.inicio.Sano
      split_ifs
      · exact sano
      · exact ⟨sano.arranque, sano.inicializacion, sano.listo, sano.muchos, sano.serie⟩
  | updateLibera =>
      change (if s.saliendo then _ else s : Sistema).placa.inicio.Sano
      split_ifs
      · exact ⟨sano.arranque, sano.inicializacion, sano.listo, sano.muchos, sano.serie⟩
      · exact sano
  | epilogo =>
      apply sano_trasOtra
      cases emergencia : s.placa.emergencyState with
      | true =>
          have fuera := sano.normal emergencia
          rw [Placa.inicio_epilogo_emergencia emergencia]
          refine ⟨fun arranque => ?_, fun _ => rfl, by rintro ⟨⟩, by rintro ⟨⟩, by rintro ⟨⟩⟩
          exact absurd (fuera.symm.trans arranque) (by decide)
      | false =>
          rw [Placa.inicio_epilogo_normal emergencia]
          exact ⟨sano.arranque, sano.inicializacion, sano.listo, sano.muchos, sano.serie⟩
  | descargado =>
      exact ⟨sano.arranque, sano.inicializacion, sano.listo, sano.muchos, sano.serie⟩
  | reinicia heap => exact sano_enciende heap s.fichero s.desde s.decisiones

theorem sano_foldl (sano : s.placa.inicio.Sano) (eventos : List Evento) :
    (eventos.foldl (paso red) s).placa.inicio.Sano := by
  induction eventos generalizing s with
  | nil => exact sano
  | cons evento eventos ih => exact ih (sano_paso sano evento)

/-- In every run, an emergency comes of more than ten bad restarts, the control task is past
its start, the device counts as initialised, and until the other processor starts the system
every token authenticates a client. -/
theorem emergencia_run (heap : Clave → Nat → UInt8) (fichero : Fichero) (eventos : List Evento) :
    let s := eventos.foldl (paso red) (nuevo red heap fichero)
    s.placa.emergencyState = true →
      10 < s.placa.malos ∧ s.placa.estadoActual = .normal ∧
        s.placa.control.dispositivoInicializado = 2 ∧
        (s.placa.control.systemStarted = false → ∀ a : Ble.Autenticacion,
          a.deviceSerNum.toList = s.placa.control.deviceSerNum → ∀ data, a.acepta data = true) := by
  intro s emergencia
  have sano : s.placa.inicio.Sano := sano_foldl (sano_enciende heap fichero _ []) eventos
  refine ⟨sano.muchos emergencia, sano.normal emergencia, sano.listo emergencia, ?_⟩
  intro parado a serie data
  have inicial : a.deviceSerNum = Ble.initialSerNum :=
    Vector.toList_inj.mp (serie.trans (sano.serie emergencia parado))
  rw [Ble.Autenticacion.acepta, inicial, BEq.rfl, Bool.or_true]

/-- As many passes as are left leave it waiting for the last one. -/
theorem callado_pasadas {pila : List UInt8} {ahora : UInt32} (callado : s.placa.inicio.Callado)
    {k : Nat} (antes : k < s.placa.inicio.falta) :
    let t := (List.replicate k (.control pila ahora)).foldl (paso red) s
    t.placa.inicio.Callado ∧ t.placa.inicio.falta + k = s.placa.inicio.falta ∧
      t.placa.malos = s.placa.malos := by
  induction k with
  | zero => exact ⟨callado, rfl, rfl⟩
  | succ k ih =>
      obtain ⟨sigue, quedan, malos⟩ := ih (Nat.lt_of_succ_lt antes)
      rw [List.replicate_succ', List.foldl_append]
      rcases sigue.pasa (Placa.pasa_controlTask ahora) with ⟨luego, menos, igual⟩ | ⟨ultima, _, _⟩
      · refine ⟨luego, ?_, igual.trans malos⟩
        exact (Nat.add_right_comm _ k 1).trans ((congrArg (· + k) menos).trans quedan)
      · omega

/-- Nothing but the passes that are left ends in an emergency when the file has ten bad
restarts. -/
theorem emergencia_agotada (heap : Clave → Nat → UInt8) {fichero : Fichero}
    (diez : malosDe fichero = 10) (pila : List UInt8) (ahora : UInt32) {k : Nat}
    (plazo : (nuevo red heap fichero).placa.inicio.falta = k + 1) :
    ((List.replicate (k + 1) (.control pila ahora)).foldl (paso red)
      (nuevo red heap fichero)).placa.emergencyState = true := by
  have inicio : (nuevo red heap fichero).placa.inicio.Callado :=
    ⟨rfl, rfl, rfl, show (1 : UInt8) ≠ 0 by decide, show (120 : UInt16) ≠ 0 by decide⟩
  obtain ⟨sigue, quedan, malos⟩ := @callado_pasadas red _ pila ahora inicio k (by omega)
  rw [List.replicate_succ', List.foldl_append]
  generalize (List.replicate k (.control pila ahora)).foldl (paso red)
    (nuevo red heap fichero) = t at sigue quedan malos ⊢
  rw [plazo] at quedan
  rcases sigue.pasa (@Placa.pasa_controlTask t.placa pila ahora) with
    ⟨luego, menos, -⟩ | ⟨-, cuenta, muchos⟩
  · have algo := Inicio.toNat_sub_one_8 luego.timeout
    rw [Inicio.falta] at menos
    omega
  · have diezAntes : t.placa.inicio.vista.countReiniciosMalos = 10 :=
      malos.trans ((malos_enciende heap fichero _ []).trans diez)
    rw [diezAntes] at cuenta
    apply muchos
    rw [cuenta]
    decide

/-- The eleventh bad restart, and the emergency that it is. -/
theorem emergencia_run_once :
    let fichero := store { Datos.inicial with countReiniciosMalos := 10 }
    let s := (List.replicate (1190 + 1) (.control [] 0)).foldl (paso .inicial)
      (nuevo .inicial (fun _ _ => 0) fichero)
    10 < s.placa.malos ∧ s.placa.estadoActual = .normal ∧
      s.placa.control.dispositivoInicializado = 2 ∧
      (s.placa.control.systemStarted = false → ∀ a : Ble.Autenticacion,
        a.deviceSerNum.toList = s.placa.control.deviceSerNum → ∀ data, a.acepta data = true) :=
  emergencia_run _ _ _ (emergencia_agotada _ (malosDe_store ⟨by decide, by decide⟩) [] 0 rfl)

end Sistema

end VeltiumCharger.Arranque
