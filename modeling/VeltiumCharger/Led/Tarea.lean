import VeltiumCharger.Led.Efectos
import VeltiumCharger.Library.Run

/-!
# The task of the LEDs

`LedControl_Task` resets its variables, shows a transition, waits for the device
to start with another effect, shows the transition again, and then goes on
choosing an effect from the state of the charger.  A step is a round of one of
its loops, with what it reads from the other tasks.
-/

namespace VeltiumCharger.Led

open VeltiumCharger.Loop VeltiumCharger.Run

/-- What a step reads. -/
structure Entorno where
  dispositivoInicializado : UInt8
  emergencyState : UInt8
  /-- `serverbleGetConnected()`, and again after the delay -/
  connected : Bool
  connectedTras : Bool
  instalandoArchivo : Bool
  descargandoArchivo : Bool
  tipoSensor : Bool
  groupMaster : Bool
  contadorConfigurado : Bool
  medidorConectado : Bool
  medidor485 : Bool
  provisioning : Bool
  searching : Bool
  conexionPerdida : Bool
  errorCode : UInt8
  hptStatus : UInt8

namespace Entorno

variable (e : Entorno)

def conMedidor : Bool :=
  e.tipoSensor || (e.groupMaster && e.contadorConfigurado)

def instala : Bool :=
  e.instalandoArchivo || e.descargandoArchivo

/-- "Buscando Medidor" -/
def busca : Bool :=
  e.conMedidor && !e.medidorConectado && !e.medidor485 && !e.provisioning && e.searching

def perdida : Bool :=
  e.conMedidor && e.conexionPerdida

/-- The status begins with this character. -/
def enEstado (c : UInt8) : Bool :=
  e.hptStatus == c

end Entorno

def letraB : UInt8 := 0x42
def letraC : UInt8 := 0x43
def letraF : UInt8 := 0x46

/-- "Funcionamiento normal", when the charger does not charge. -/
def reposo (e : Entorno) (s : Leds) : Leds :=
  let s := s.resetValues (e.enEstado letraF)
  let s := if e.enEstado letraB then { s with ledColor := hueBlue } else s
  if s.luminosidadActual.toNat + 3 ≤ s.luminosidad.toNat then
    { s with luminosidadActual := s.luminosidadActual + 1 }.displayAll s.ledColor
  else if s.luminosidad.toNat + 3 ≤ s.luminosidadActual.toNat then
    { s with luminosidadActual := s.luminosidadActual - 1 }.displayAll s.ledColor
  else
    let s := if s.actualcolor ≠ s.ledColor then s.displayAll s.ledColor else s
    { s with luminosidadActual := s.luminosidad }

/-- With an error code. -/
def averia (e : Entorno) (s : Leds) : Leds :=
  if (e.errorCode ≤ 0x33 ∧ e.errorCode ≠ 0x30) ∨ e.errorCode = 0x80 then s.fade rojo
  else if e.errorCode = 0x60 ∨ e.errorCode = 0x70 ∨ e.errorCode = 0x30 ∨ e.errorCode = 0x08 then
    s.displayAll rojo
  else if e.errorCode = 0x40 ∨ e.errorCode = 0x50 then s.fadeDoble naranjaOscuro rojo
  else s

/-- Where the task is. -/
inductive Punto where
  | inicio
  | esperando
  | arrancando
  | bucle
  deriving DecidableEq, Repr

structure Tarea where
  punto : Punto
  lastBle : Bool
  leds : Leds

namespace Tarea

def inicial : Tarea :=
  ⟨.inicio, false, .inicial⟩

/-- The body of `while(1)`. -/
def vuelta (t : Tarea) (e : Entorno) : Tarea × List Nat :=
  if t.lastBle ≠ e.connected then ({ t with lastBle := e.connectedTras }, [])
  else if e.instala then ({ t with leds := t.leds.fade huePurple }, [])
  else if e.busca then
    ({ t with leds := (t.leds.outWave verde).1 }, (t.leds.outWave verde).2)
  else if e.perdida then ({ t with leds := t.leds.kit.1 }, t.leds.kit.2)
  else if e.errorCode = 0 then
    if e.enEstado letraC then ({ t with leds := t.leds.fade hueBlue }, [])
    else ({ t with leds := reposo e t.leds }, [])
  else ({ t with leds := averia e t.leds }, [])

/-- A step, and the places of `leds` that it writes. -/
def paso (t : Tarea) (e : Entorno) : Tarea × List Nat :=
  match t.punto with
  | .inicio =>
      let r := transicion rondasTransicion (t.leds.resetValues (e.enEstado letraF))
      ({ t with punto := .esperando, leds := r.leds }, r.indices)
  | .esperando =>
      if e.dispositivoInicializado ≠ 1 then (t, []) else ({ t with punto := .arrancando }, [])
  | .arrancando =>
      if e.dispositivoInicializado ≠ 2 ∨ e.emergencyState = 1 then
        ({ t with leds := (t.leds.ola verde).1 }, (t.leds.ola verde).2)
      else
        let r := transicion rondasTransicion t.leds
        ({ t with punto := .bucle, leds := r.leds.resetValues (e.enEstado letraF) }, r.indices)
  | .bucle => t.vuelta e

def siguiente (t : Tarea) (e : Entorno) : Tarea :=
  (t.paso e).1

/-- The places written in a run. -/
def indices : Tarea → List Entorno → List Nat
  | _, [] => []
  | t, e :: resto => (t.paso e).2 ++ (t.siguiente e).indices resto

/-- When a step stays in the array: never with a transition, otherwise by the pointer
that the effect finds. -/
def Dentro (t : Tarea) (e : Entorno) : Prop :=
  match t.punto with
  | .inicio => False
  | .esperando => True
  | .arrancando =>
      (e.dispositivoInicializado ≠ 2 ∨ e.emergencyState = 1) ∧
        (t.leds.ledPointer ≤ 6 ∨ t.leds.OlaMueve)
  | .bucle =>
      t.lastBle = e.connected → e.instala = false → e.busca = false → e.perdida = true →
        t.leds.KitDentro

end Tarea

/-! ## The pointer of the wave -/

namespace Leds

variable {s : Leds} {color : UInt8}

@[simp]
theorem pointer_displayAll : (s.displayAll color).pointer = s.pointer :=
  rfl

@[simp]
theorem pointer_resetValues {enF : Bool} : (s.resetValues enF).pointer = s.pointer :=
  rfl

@[simp]
theorem pointer_fade : (s.fade color).pointer = s.pointer := by
  unfold fade
  dsimp only
  split_ifs <;> rfl

@[simp]
theorem pointer_fadeDoble {color2 : UInt8} : (s.fadeDoble color color2).pointer = s.pointer := by
  unfold fadeDoble
  dsimp only
  split_ifs <;> rfl

@[simp]
theorem pointer_ola : (s.ola color).1.pointer = s.pointer := by
  unfold ola
  dsimp only
  split_ifs <;> rfl

@[simp]
theorem pointer_kit : s.kit.1.pointer = s.pointer := by
  unfold kit
  dsimp only
  split_ifs <;> rfl

end Leds

theorem Transicion.pointer_ronda (t : Transicion) : t.ronda.leds.pointer = t.leds.pointer := by
  unfold ronda
  dsimp only
  split_ifs <;> rfl

@[simp]
theorem pointer_transicion (rondas : Nat) (s : Leds) :
    (transicion rondas s).leds.pointer = s.pointer :=
  (whileFuel_heads _ _ _ _).unchanged (fun t : Transicion => t.leds.pointer)
    Transicion.pointer_ronda

theorem pointer_reposo (e : Entorno) (s : Leds) : (reposo e s).pointer = s.pointer := by
  unfold reposo
  dsimp only
  split_ifs <;> rfl

theorem pointer_averia (e : Entorno) (s : Leds) : (averia e s).pointer = s.pointer := by
  unfold averia
  split_ifs <;> simp

namespace Tarea

variable {t : Tarea} {e : Entorno}

theorem pointer_vuelta (dentro : t.leds.pointer ≤ 3) : (t.vuelta e).1.leds.pointer ≤ 3 := by
  unfold vuelta
  split_ifs
  · exact dentro
  · simpa using dentro
  · exact (Leds.outWave_enRango dentro).2
  · simpa using dentro
  · simpa using dentro
  · exact pointer_reposo e t.leds ▸ dentro
  · exact pointer_averia e t.leds ▸ dentro

theorem pointer_siguiente (dentro : t.leds.pointer ≤ 3) : (t.siguiente e).leds.pointer ≤ 3 := by
  unfold siguiente paso
  cases t.punto
  · simpa using dentro
  · split_ifs <;> exact dentro
  · split_ifs <;> simpa using dentro
  · exact pointer_vuelta dentro

/-! ## Every run -/

theorem enRango_nil : EnRango [] :=
  fun _ miembro => absurd miembro List.not_mem_nil

theorem vuelta_enRango_iff (dentro : t.leds.pointer ≤ 3) :
    EnRango (t.vuelta e).2 ↔
      (t.lastBle = e.connected → e.instala = false → e.busca = false → e.perdida = true →
        t.leds.KitDentro) := by
  unfold vuelta
  by_cases cambia : t.lastBle = e.connected
  · rw [if_neg (not_not.mpr cambia)]
    cases instala : e.instala
    · cases busca : e.busca
      · cases perdida : e.perdida
        · have ninguno : EnRango (if e.errorCode = 0 then
              if e.enEstado letraC then ({ t with leds := t.leds.fade hueBlue }, ([] : List Nat))
              else ({ t with leds := reposo e t.leds }, [])
            else ({ t with leds := averia e t.leds }, [])).2 := by
            split_ifs <;> exact enRango_nil
          simpa using ninguno
        · simp [cambia, Leds.kit_enRango_iff]
      · simpa using (Leds.outWave_enRango dentro).1
    · simpa using enRango_nil
  · simpa [cambia] using enRango_nil

/-- A step stays in the array exactly when it meets the condition. -/
theorem paso_enRango_iff (dentro : t.leds.pointer ≤ 3) :
    EnRango (t.paso e).2 ↔ t.Dentro e := by
  unfold paso Dentro
  cases t.punto
  · exact iff_of_false (not_enRango_transicion _) not_false
  · dsimp only
    split_ifs <;> exact iff_of_true enRango_nil trivial
  · dsimp only
    split_ifs with espera
    · rw [and_iff_right espera]
      exact @Leds.ola_enRango_iff t.leds verde
    · exact iff_of_false (not_enRango_transicion _) fun ambos => espera ambos.1
  · exact vuelta_enRango_iff dentro

/-- A run stays in the array exactly when all its steps meet the condition. -/
theorem enRango_indices_iff (dentro : t.leds.pointer ≤ 3) (es : List Entorno) :
    EnRango (t.indices es) ↔ Along Dentro siguiente es t := by
  induction es generalizing t with
  | nil => exact iff_of_true enRango_nil trivial
  | cons e resto inductionHypothesis =>
      rw [indices, enRango_append, paso_enRango_iff dentro,
        inductionHypothesis (pointer_siguiente dentro)]
      rfl

/-- `TransicionAverde` ends from every state.  The places that the task writes are in
the array while its steps meet the condition, and the first step of every run does
not. -/
theorem not_enRango_tarea (s : Leds) (es : List Entorno) (e : Entorno) (resto : List Entorno) :
    (transicion rondasTransicion s).fin = true ∧
      (EnRango (inicial.indices es) ↔ Along Dentro siguiente es inicial) ∧
      ¬EnRango (inicial.indices (e :: resto)) := by
  have exacto : ∀ es, EnRango (inicial.indices es) ↔ Along Dentro siguiente es inicial :=
    enRango_indices_iff (by decide)
  refine ⟨transicion_fin s, exacto es, fun dentro => ?_⟩
  exact ((exacto _).mp dentro).1

/-- The readings of a charger that starts. -/
def encendido : Entorno where
  dispositivoInicializado := 0
  emergencyState := 0
  connected := false
  connectedTras := false
  instalandoArchivo := false
  descargandoArchivo := false
  tipoSensor := false
  groupMaster := false
  contadorConfigurado := false
  medidorConectado := false
  medidor485 := false
  provisioning := false
  searching := false
  conexionPerdida := false
  errorCode := 0
  hptStatus := 0x41

/-- The first round of the first transition writes place 8. -/
theorem not_enRango_encendido :
    (transicion 1 (inicial.leds.resetValues (encendido.enEstado letraF))).indices = [8] ∧
      ¬EnRango (inicial.indices [encendido]) := by
  refine ⟨by decide, fun dentro => ?_⟩
  exact not_enRango_transicion _ (enRango_append.mp dentro).1

end Tarea

end VeltiumCharger.Led
