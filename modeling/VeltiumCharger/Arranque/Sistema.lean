import VeltiumCharger.Arranque.Pasada
import VeltiumCharger.Ble.Autenticacion
import VeltiumCharger.Library.Run

/-!
# The charger and its restarts

The tasks of the charger step in any order, and the charger restarts at any moment: what it
has then is what `ConfigTask` has stored, while the partition of the configuration was
mounted.  A restart that a task asks for is one that comes later.

`procesar_bloque` waits before it creates `UpdateTask`, and that one clears two flags, one
after the other, when it is done; it lives on until it restarts the charger.

Along a run are kept the decisions that the control task takes when the other processor does
not answer: the count of bad restarts that each one finds, and whether it was an emergency.
-/

namespace VeltiumCharger.Arranque

open VeltiumCharger.Bloques VeltiumCharger.Buffer VeltiumCharger.Documents VeltiumCharger.Run
open VeltiumCharger.Group (capacidad slotSize)

/-! ## State -/

/-- The policies that `Config::init` and the clients leave. -/
def politicas : List (List UInt8) :=
  ["ALL", "AUT", "NON"].map fun policy => policy.toList.map Char.toUInt8

/-- `Configuracion.data` before a file is loaded. -/
def Datos.inicial : Datos :=
  { Control.inicial.configuracion with
    deviceID := write 0 ("VCD17010001".toList.map Char.toUInt8) fun _ => 0
    deviceSerNum := "0".toList.map Char.toUInt8
    policy := "ALL".toList.map Char.toUInt8 }

/-- The policy that `Config::init` puts when what has been loaded is none. -/
def Datos.conPolicy (data : Datos) : Datos :=
  if politicas.contains data.policy then data
  else { data with policy := "ALL".toList.map Char.toUInt8 }

/-- `operator==` of `carac_config`, which compares all of it. -/
def Datos.igual (lhs rhs : Datos) : Bool :=
  lhs.firmwareESP == rhs.firmwareESP && lhs.firmwarePSOC == rhs.firmwarePSOC &&
    lhs.dataCleared == rhs.dataCleared &&
    lhs.potenciaContratada1 == rhs.potenciaContratada1 &&
    lhs.potenciaContratada2 == rhs.potenciaContratada2 &&
    lhs.installCurrentLimit == rhs.installCurrentLimit && lhs.cdp == rhs.cdp &&
    lhs.countReiniciosMalos == rhs.countReiniciosMalos && lhs.veltV == rhs.veltV &&
    bytes lhs.deviceID 0 12 == bytes rhs.deviceID 0 12 &&
    lhs.deviceSerNum == rhs.deviceSerNum && lhs.autenticationMode == rhs.autenticationMode &&
    lhs.policy == rhs.policy && lhs.medidor485 == rhs.medidor485

/-- The charger, with the file in its flash, and what has happened in it. -/
structure Sistema where
  placa : Placa
  bufferRxLocal : Recibido
  oldData : Datos
  fichero : Fichero
  /-- `SPIFFS` is mounted on the partition of the configuration. -/
  montada : Bool
  /-- `procesar_bloque` waits behind the answer of the boot loader. -/
  cargando : Bool
  /-- The number of `UpdateTask` that have cleared `updateTaskrunning` since the charger is
  on, and of those that have cleared `mainFwUpdateActive`. -/
  paradas : Nat
  libres : Nat
  /-- The count of bad restarts before the first of the decisions. -/
  desde : UInt8
  /-- The count of bad restarts in each decision, and whether it was an emergency. -/
  decisiones : List (UInt8 × Bool)

/-- What the other tasks set. -/
structure Entorno where
  bleConectado : Bool
  comprobarConexion : Bool
  status : Status
  params : Params
  comands : Comands
  coms : Coms
  contadorExt : ContadorExt
  configFirebase : ConfigFirebase
  chargingGroup : ChargingGroup
  registro : Registro
  bloqueoDeCarga : Bool
  globalScheduleBuffer : Recibido
  flagScheduleAck : Bool
  psocUpdateRequest : Bool
  clientAuthenticated : Bool
  testing : Bool
  authTimer : UInt32
  authSuccess : Bool
  deviceBleDisconnect : Bool
  reset : Bool
  recordPendingForWrite : Bool
  recordsTrigger : Bool

/-- A step of a task, or a restart. -/
inductive Evento
  | control (pila : List UInt8) (ahora : UInt32)
  | bloque (tipoBloque : UInt16) (datos : List UInt8)
  | configTask
  | policy (payload : List UInt8)
  | otras (entorno : Entorno)
  | monta (configuracion : Bool)
  | creaUpdate
  | updatePara
  | updateLibera
  | epilogo
  | descargado
  | reinicia (heap : Clave → Nat → UInt8)

/-! ## Steps -/

namespace Placa

variable (s : Placa)

/-- What the other tasks set is set. -/
def otras (entorno : Entorno) : Placa :=
  { s with
    control := { s.control with
      bleConectado := entorno.bleConectado
      comprobarConexion := entorno.comprobarConexion
      status := entorno.status
      params := entorno.params
      comands := entorno.comands
      coms := entorno.coms
      contadorExt := entorno.contadorExt
      configFirebase := entorno.configFirebase
      chargingGroup := entorno.chargingGroup
      registro := entorno.registro
      bloqueoDeCarga := entorno.bloqueoDeCarga
      globalScheduleBuffer := entorno.globalScheduleBuffer
      flagScheduleAck := entorno.flagScheduleAck
      psocUpdateRequest := entorno.psocUpdateRequest }
    clientAuthenticated := entorno.clientAuthenticated
    testing := entorno.testing
    authTimer := entorno.authTimer
    authSuccess := entorno.authSuccess
    deviceBleDisconnect := entorno.deviceBleDisconnect
    reset := entorno.reset
    recordPendingForWrite := entorno.recordPendingForWrite
    recordsTrigger := entorno.recordsTrigger }

/-- A client writes the policy. -/
def escribePolicy (payload : List UInt8) : Placa :=
  if politicas.contains (payload.take 3) then { s with policy := payload.take 3 } else s

/-- `BOOT_LOADER_LOAD_SW_APP_CHAR_HANDLE`, up to its delay. -/
def cargador : Placa :=
  { s with control := { s.control with psocUpdateCounter := 0 } }

/-- What comes behind the delay. -/
def creaUpdate : Placa :=
  { s with control := { s.control.casoLoadSwApp with
    psocUpdateCounter := s.control.psocUpdateCounter } }

/-- `UpdateTask` is done: the first of its flags. -/
def updatePara : Placa :=
  { s with control := { s.control with updateTaskrunning := false } }

/-- And the second one. -/
def updateLibera : Placa :=
  { s with mainFwUpdateActive := false }

/-- The firmware of the other processor has arrived whole over Bluetooth; in emergency the
charger restarts to install it. -/
def epilogo : Placa :=
  let s := { s with mainFwUpdateActive := true }
  if s.emergencyState then
    { s with
      control := { s.control with
        configuracion := { s.control.configuracion with countReiniciosMalos := 0 } }
      emergencyState := false }.restart
  else s

/-- The firmware of the other processor has been downloaded. -/
def descargado : Placa :=
  { s with mainFwUpdateActive := true }

end Placa

namespace Sistema

/-- The number of `UpdateTask` that have been created since the charger is on. -/
def lanzadas (v : Vista) : Nat :=
  v.llamadas.countP fun | .updateTask => true | _ => false

/-- The charger with a file in its flash, after it is switched on. -/
def enciende (red : Control) (heap : Clave → Nat → UInt8) (fichero : Fichero) (desde : UInt8)
    (decisiones : List (UInt8 × Bool)) : Sistema :=
  let data := load heap fichero .inicial
  { placa := .encendida red data.conPolicy
    bufferRxLocal := fun _ => 0
    oldData := data
    fichero := fichero
    montada := true
    cargando := false
    paradas := 0
    libres := 0
    desde := desde
    decisiones := decisiones }

/-- The charger with a file in its flash, before any decision. -/
def nuevo (red : Control) (heap : Clave → Nat → UInt8) (fichero : Fichero) : Sistema :=
  enciende red heap fichero (load heap fichero .inicial).countReiniciosMalos []

variable (s : Sistema)

/-- The number of `UpdateTask` that are at work: they have not cleared the first of their
flags. -/
def trabajando : Nat :=
  lanzadas s.placa.control.vista - s.paradas

/-- An `UpdateTask` has cleared the first of its flags and not the second one. -/
def saliendo : Bool :=
  decide (s.libres < s.paradas)

/-- The control task has taken a decision when it has changed the count. -/
def trasControl (placa : Placa) : Sistema :=
  { s with
    placa := placa
    decisiones :=
      if placa.malos ≠ s.placa.malos then s.decisiones ++ [(placa.malos, placa.emergencyState)]
      else s.decisiones }

/-- When another task changes the count, what comes later is counted from there. -/
def trasOtra (placa : Placa) : Sistema :=
  if placa.malos ≠ s.placa.malos then
    { s with placa := placa, desde := placa.malos, decisiones := [] }
  else { s with placa := placa }

/-- A block arrives, which is not read during an update nor while `procesar_bloque` waits. -/
def recibe (tipoBloque : UInt16) (datos : List UInt8) : Sistema :=
  if s.placa.control.updateTaskrunning || s.cargando then s
  else if TipoBloque.de tipoBloque = .loadSwApp then
    { s with
      placa := s.placa.cargador
      bufferRxLocal := write 0 datos s.bufferRxLocal
      cargando := true }
  else
    let (control, buffer) :=
      s.placa.control.procesarBloque (write 0 datos s.bufferRxLocal) tipoBloque
    { s.trasOtra { s.placa with control := control } with bufferRxLocal := buffer }

/-- A round of `ConfigTask`.  What it stores in another partition the next start does not
load. -/
def configTask : Sistema :=
  if s.placa.datos.igual s.oldData then s
  else
    { s with
      oldData := s.placa.datos
      fichero := if s.montada then store s.placa.datos else s.fichero }

/-- A step. -/
def paso (red : Control) (s : Sistema) : Evento → Sistema
  | .control pila ahora => s.trasControl (s.placa.controlTask pila ahora)
  | .bloque tipoBloque datos => s.recibe tipoBloque datos
  | .configTask => s.configTask
  | .policy payload => { s with placa := s.placa.escribePolicy payload }
  | .otras entorno => { s with placa := s.placa.otras entorno }
  | .monta configuracion => { s with montada := configuracion }
  | .creaUpdate =>
    if s.cargando then { s with placa := s.placa.creaUpdate, cargando := false } else s
  | .updatePara =>
    if s.trabajando = 0 then s
    else { s with placa := s.placa.updatePara, paradas := s.paradas + 1 }
  | .updateLibera =>
    if s.saliendo then { s with placa := s.placa.updateLibera, libres := s.libres + 1 } else s
  | .epilogo => s.trasOtra s.placa.epilogo
  | .descargado => { s with placa := s.placa.descargado }
  | .reinicia heap => .enciende red heap s.fichero s.desde s.decisiones

end Sistema

/-! ## What the steps do to the start -/

namespace Placa

variable {s : Placa}

@[simp]
theorem inicio_otras (entorno : Entorno) : (s.otras entorno).inicio = s.inicio :=
  rfl

theorem inicio_escribePolicy (payload : List UInt8) :
    ∃ policy, (s.escribePolicy payload).inicio = { s.inicio with policy := policy } := by
  unfold escribePolicy
  split_ifs
  · exact ⟨payload.take 3, rfl⟩
  · exact ⟨s.policy, rfl⟩

/-- With nothing in between it is the case of `procesar_bloque`. -/
theorem creaUpdate_cargador :
    s.cargador.creaUpdate = { s with control := s.control.casoLoadSwApp } :=
  rfl

theorem inicio_creaUpdate : s.creaUpdate.inicio =
    { s.inicio with vista := { s.inicio.vista with
      updateTaskrunning := true
      llamadas := s.inicio.vista.llamadas ++ [.updateTask] } } := by
  have suena := @Control.llamadas_anota s.control .updateTask rfl
  have crea : s.creaUpdate.inicio =
      { s.inicio with vista := { (s.control.anota .updateTask).vista with
        updateTaskrunning := true } } := rfl
  rw [crea, suena]
  rfl

theorem inicio_epilogo_emergencia (emergencia : s.emergencyState = true) : s.epilogo.inicio =
    { s.inicio with
      vista := { s.inicio.vista with
        countReiniciosMalos := 0
        llamadas := s.inicio.vista.llamadas ++ [.restart] }
      mainFwUpdateActive := true
      emergencyState := false } := by
  unfold epilogo
  dsimp only
  rw [if_pos emergencia, inicio_restart]
  rfl

theorem inicio_epilogo_normal (cuerdo : s.emergencyState = false) :
    s.epilogo.inicio = { s.inicio with mainFwUpdateActive := true } := by
  unfold epilogo
  dsimp only
  rw [if_neg (by rw [cuerdo]; exact Bool.false_ne_true)]
  rfl

end Placa

namespace Sistema

variable {s : Sistema}

@[simp]
theorem placa_trasOtra (placa : Placa) : (s.trasOtra placa).placa = placa := by
  unfold trasOtra
  split_ifs <;> rfl

@[simp]
theorem cargando_trasOtra (placa : Placa) : (s.trasOtra placa).cargando = s.cargando := by
  unfold trasOtra
  split_ifs <;> rfl

theorem trasOtra_of_eq {placa : Placa} (igual : placa.malos = s.placa.malos) :
    s.trasOtra placa = { s with placa := placa } :=
  if_neg (not_not.mpr igual)

/-- A block is processed, up to its delay, or nothing changes. -/
theorem recibe_eq (tipoBloque : UInt16) (datos : List UInt8) : ∃ control buffer cargando,
    s.recibe tipoBloque datos =
        { s.trasOtra { s.placa with control := control } with
          bufferRxLocal := buffer, cargando := cargando } ∧
      (control = s.placa.control ∧ cargando = s.cargando ∨
        s.placa.control.updateTaskrunning = false ∧
          cargando = decide (TipoBloque.de tipoBloque = .loadSwApp) ∧
          Control.Cambia (TipoBloque.de tipoBloque) s.placa.control.vista control.vista) := by
  unfold recibe
  split_ifs with corre carga
  · exact ⟨s.placa.control, s.bufferRxLocal, s.cargando, by simp [trasOtra], .inl ⟨rfl, rfl⟩⟩
  · have libre := (Bool.or_eq_false_iff.mp (Bool.eq_false_iff.mpr corre)).1
    refine ⟨s.placa.cargador.control, write 0 datos s.bufferRxLocal, true, ?_, .inr
      ⟨libre, by simp [carga], .carga carga⟩⟩
    have mismos : s.trasOtra s.placa.cargador = { s with placa := s.placa.cargador } :=
      trasOtra_of_eq rfl
    exact (congrArg (fun t : Sistema =>
      { t with bufferRxLocal := write 0 datos s.bufferRxLocal, cargando := true }) mismos).symm
  · have quieto : s.cargando = false :=
      (Bool.or_eq_false_iff.mp (Bool.eq_false_iff.mpr corre)).2
    have libre := (Bool.or_eq_false_iff.mp (Bool.eq_false_iff.mpr corre)).1
    let hecho := s.placa.control.procesarBloque (write 0 datos s.bufferRxLocal) tipoBloque
    refine ⟨hecho.1, hecho.2, false, ?_, .inr
      ⟨libre, by simp [carga], Control.cambia_procesarBloque carga⟩⟩
    exact congrArg (fun cargando => ({ s.trasOtra { s.placa with control := hecho.1 } with
      bufferRxLocal := hecho.2, cargando := cargando } : Sistema))
      ((cargando_trasOtra _).trans quieto)

end Sistema

end VeltiumCharger.Arranque
