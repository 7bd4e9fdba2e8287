import VeltiumCharger.Library.Buffer
import VeltiumCharger.Library.Run
import Mathlib.Logic.Function.Iterate

/-!
# The receiver of the serial line from the PSoC

`proceso_recepcion` polls the line every few milliseconds and reads, from one
poll to the next, the header, the type, the length and the data of a block,
which it then hands to `procesar_bloque`.  A counter that `onTimer10ms`
decrements brings it back to the header after a silence.

The line is the queue of the bytes received and not yet read.  A byte that
arrives in the middle of a poll is one that arrives right after it, since a poll
reads no more than the count it took first.
-/

namespace VeltiumCharger.Uart

open VeltiumCharger.Buffer

/-- `HEADER_RX` -/
def headerRx : UInt8 := 58

/-- `TIMEOUT_RX_BLOQUE` -/
def timeoutRxBloque : Nat := 10

/-- The value a number takes in a `uint16`. -/
def uint16 (n : Nat) : Nat := n % 65536

/-- The states of `estado_recepcion`. -/
inductive EstadoRecepcion
  | esperandoHeader
  | esperandoTipo
  | esperandoLongitud
  | recibiendoBloque
  deriving DecidableEq, Repr

/-- A call of `procesar_bloque`: its argument and what `buffer_rx_local` holds. -/
structure Llamada where
  tipoBloque : Nat
  bufferRxLocal : Nat → UInt8

/-- The line, the globals and the locals of `proceso_recepcion`.  The last two
fields only record: the calls made so far, and the indices at which
`buffer_rx_local` was accessed. -/
structure Receptor where
  serialLocal : List UInt8
  cntFinBloque : Nat
  estadoRecepcion : EstadoRecepcion
  punteroRxLocal : Nat
  bufferRxLocal : Nat → UInt8
  byte : UInt8
  longitudBloque : Nat
  tipoBloque : Nat
  llamadas : List Llamada
  indices : List Nat

/-- The receiver when its task starts. -/
def Receptor.inicial (buffer : Nat → UInt8) (byte : UInt8) : Receptor where
  serialLocal := []
  cntFinBloque := 0
  estadoRecepcion := .esperandoHeader
  punteroRxLocal := 0
  bufferRxLocal := buffer
  byte := byte
  longitudBloque := 0
  tipoBloque := 0
  llamadas := []
  indices := []

/-- `serialLocal.available()` -/
def Receptor.available (receptor : Receptor) : Nat :=
  receptor.serialLocal.length

/-- `serialLocal.read(&valor, 1)`: without a byte to read the variable keeps its
value. -/
def Receptor.read (valor : UInt8) (receptor : Receptor) : UInt8 × Receptor :=
  match receptor.serialLocal with
  | [] => (valor, receptor)
  | octeto :: resto => (octeto, { receptor with serialLocal := resto })

@[simp]
theorem Receptor.read_snd (valor : UInt8) (receptor : Receptor) :
    (receptor.read valor).2 = { receptor with serialLocal := receptor.serialLocal.tail } := by
  cases receptor with
  | mk serialLocal => cases serialLocal <;> rfl

/-- `serialLocal.read(&buffer_rx_local[puntero_rx_local], 1)` -/
def Receptor.readBuffer (receptor : Receptor) : Receptor :=
  let leido := receptor.read (receptor.bufferRxLocal receptor.punteroRxLocal)
  { leido.2 with
    bufferRxLocal := write receptor.punteroRxLocal [leido.1] receptor.bufferRxLocal
    indices := receptor.indices ++ [receptor.punteroRxLocal] }

/-- The case `ESPERANDO_HEADER`. -/
def Receptor.esperandoHeader (receptor : Receptor) : Receptor :=
  let leido := receptor.read receptor.byte
  let receptor := { leido.2 with byte := leido.1 }
  if receptor.byte ≠ headerRx then receptor
  else { receptor with estadoRecepcion := .esperandoTipo }

/-- The case `ESPERANDO_TIPO`. -/
def Receptor.esperandoTipo (len : Nat) (receptor : Receptor) : Receptor :=
  if len < 2 then receptor
  else
    let alto := receptor.read 0
    let bajo := alto.2.read alto.1
    { bajo.2 with
      tipoBloque := uint16 (uint16 (256 * alto.1.toNat) + bajo.1.toNat)
      estadoRecepcion := .esperandoLongitud }

/-- The case `ESPERANDO_LONGITUD`. -/
def Receptor.esperandoLongitud (receptor : Receptor) : Receptor :=
  let leido := receptor.read 0
  { leido.2 with
    longitudBloque := if leido.1.toNat = 0 then 256 else leido.1.toNat
    punteroRxLocal := 0
    estadoRecepcion := .recibiendoBloque }

/-- The call of `procesar_bloque` and what follows it.  What the call leaves in
`buffer_rx_local` may depend on how many calls came before. -/
def Receptor.procesarBloque (procesado : Nat → Nat → (Nat → UInt8) → Nat → UInt8)
    (receptor : Receptor) : Receptor :=
  { receptor with
    llamadas := receptor.llamadas ++ [⟨receptor.tipoBloque, receptor.bufferRxLocal⟩]
    bufferRxLocal :=
      procesado receptor.llamadas.length receptor.tipoBloque receptor.bufferRxLocal
    punteroRxLocal := 0
    estadoRecepcion := .esperandoHeader }

/-- The loop of the case `RECIBIENDO_BLOQUE`, for the bytes still to be read. -/
def Receptor.recibiendoBloque (procesado : Nat → Nat → (Nat → UInt8) → Nat → UInt8) :
    Nat → Receptor → Receptor
  | 0, receptor => receptor
  | len + 1, receptor =>
    if 0 < receptor.longitudBloque then
      let leido := receptor.readBuffer
      let receptor := { leido with
        punteroRxLocal := uint16 (leido.punteroRxLocal + 1)
        longitudBloque := leido.longitudBloque - 1 }
      if receptor.longitudBloque = 0 then receptor.procesarBloque procesado
      else Receptor.recibiendoBloque procesado len receptor
    else
      let leido := receptor.read receptor.byte
      Receptor.recibiendoBloque procesado len { leido.2 with byte := leido.1 }

/-- The automaton of the line, when `len` bytes are there. -/
def Receptor.automata (procesado : Nat → Nat → (Nat → UInt8) → Nat → UInt8) (len : Nat)
    (receptor : Receptor) : Receptor :=
  match receptor.estadoRecepcion with
  | .esperandoHeader => receptor.esperandoHeader
  | .esperandoTipo => receptor.esperandoTipo len
  | .esperandoLongitud => receptor.esperandoLongitud
  | .recibiendoBloque => receptor.recibiendoBloque procesado len

/-- One round of `proceso_recepcion`, while no update of the PSoC is running. -/
def Receptor.procesoRecepcion (procesado : Nat → Nat → (Nat → UInt8) → Nat → UInt8)
    (receptor : Receptor) : Receptor :=
  let len := uint16 receptor.available
  if len = 0 then
    if receptor.cntFinBloque = 0 then
      { receptor with punteroRxLocal := 0, estadoRecepcion := .esperandoHeader }
    else receptor
  else Receptor.automata procesado len { receptor with cntFinBloque := timeoutRxBloque }

/-- `onTimer10ms` -/
def Receptor.onTimer10ms (receptor : Receptor) : Receptor :=
  if receptor.cntFinBloque ≠ 0 then
    { receptor with cntFinBloque := receptor.cntFinBloque - 1 }
  else receptor

/-- What happens to the receiver: bytes arrive, it polls, the timer ticks. -/
inductive Evento
  | llegan (octetos : List UInt8)
  | sondeo
  | tick
  deriving DecidableEq, Repr

/-- The bytes an event brings. -/
def Evento.octetos : Evento → List UInt8
  | .llegan octetos => octetos
  | .sondeo => []
  | .tick => []

/-- The bytes that arrive in the course of some events. -/
def llegados (eventos : List Evento) : List UInt8 :=
  eventos.flatMap Evento.octetos

/-- One event. -/
def Receptor.paso (procesado : Nat → Nat → (Nat → UInt8) → Nat → UInt8)
    (receptor : Receptor) : Evento → Receptor
  | .llegan octetos => { receptor with serialLocal := receptor.serialLocal ++ octetos }
  | .sondeo => receptor.procesoRecepcion procesado
  | .tick => receptor.onTimer10ms

/-- The receiver after some events. -/
def Receptor.correr (procesado : Nat → Nat → (Nat → UInt8) → Nat → UInt8)
    (eventos : List Evento) (receptor : Receptor) : Receptor :=
  eventos.foldl (Receptor.paso procesado) receptor

/-- The receiver after as many polls as it has bytes to read. -/
def Receptor.vaciado (procesado : Nat → Nat → (Nat → UInt8) → Nat → UInt8)
    (receptor : Receptor) : Receptor :=
  (Receptor.procesoRecepcion procesado)^[receptor.available] receptor

/-- A poll resets the receiver in the middle of a block: it finds nothing to
read and the counter at zero. -/
def Receptor.Reinicia (receptor : Receptor) : Prop :=
  uint16 receptor.available = 0 ∧ receptor.cntFinBloque = 0 ∧
    receptor.estadoRecepcion ≠ .esperandoHeader

instance (receptor : Receptor) : Decidable receptor.Reinicia :=
  inferInstanceAs (Decidable (_ ∧ _ ∧ _))

/-- The event is no poll that finds a block cut short by a long silence. -/
def SinReinicio (receptor : Receptor) (evento : Evento) : Prop :=
  evento = .sondeo → ¬ receptor.Reinicia

instance (receptor : Receptor) (evento : Evento) : Decidable (SinReinicio receptor evento) :=
  inferInstanceAs (Decidable (_ → _))

end VeltiumCharger.Uart
