import VeltiumCharger.Library.Stream
import VeltiumCharger.Uart.Trama

/-!
# What a poll reads

The state of the receiver and the buffer determine the bytes of the block under
way.  With the bytes that follow, the reference parser tells the calls still to
come and the block that will then be under way; a poll reads some bytes off the
line and changes neither.
-/

namespace VeltiumCharger.Uart

open VeltiumCharger.Buffer VeltiumCharger.Stream

/-- The bytes of the block under way that have been read. -/
def Receptor.pendiente (receptor : Receptor) : List UInt8 :=
  let alto := UInt8.ofNat (receptor.tipoBloque / 256)
  let bajo := UInt8.ofNat receptor.tipoBloque
  match receptor.estadoRecepcion with
  | .esperandoHeader => []
  | .esperandoTipo => [headerRx]
  | .esperandoLongitud => [headerRx, alto, bajo]
  | .recibiendoBloque =>
    headerRx :: alto :: bajo :: UInt8.ofNat (receptor.punteroRxLocal + receptor.longitudBloque) ::
      (List.range receptor.punteroRxLocal).map receptor.bufferRxLocal

/-- What holds of the variables between polls: while data are received, those
received and those awaited are the data of a block. -/
structure Receptor.Coherente (receptor : Receptor) : Prop where
  tipo_lt : receptor.tipoBloque < 65536
  cnt_le : receptor.cntFinBloque ≤ timeoutRxBloque
  longitud_pos : receptor.estadoRecepcion = .recibiendoBloque → 0 < receptor.longitudBloque
  longitud_le : receptor.estadoRecepcion = .recibiendoBloque →
    receptor.punteroRxLocal + receptor.longitudBloque ≤ 256
  indices_lt : ∀ i ∈ receptor.indices, i < 256

/-- A call of `procesar_bloque` with a block written to the beginning of the
buffer: the calls made and the buffer, before and after. -/
def atiende (procesado : Nat → Nat → (Nat → UInt8) → Nat → UInt8)
    (antes : List Llamada × (Nat → UInt8)) (bloque : Bloque) : List Llamada × (Nat → UInt8) :=
  let buffer := write 0 bloque.datos antes.2
  (antes.1 ++ [⟨bloque.tipo, buffer⟩], procesado antes.1.length bloque.tipo buffer)

/-- The calls made after those of some blocks. -/
def llamadasTras (procesado : Nat → Nat → (Nat → UInt8) → Nat → UInt8)
    (antes : List Llamada × (Nat → UInt8)) (bloques : List Bloque) : List Llamada :=
  (bloques.foldl (atiende procesado) antes).1

@[simp]
theorem llamadasTras_nil (procesado : Nat → Nat → (Nat → UInt8) → Nat → UInt8)
    (antes : List Llamada × (Nat → UInt8)) : llamadasTras procesado antes [] = antes.1 :=
  rfl

/-- The receiver as a reader of the line: what follows the bytes read determines
the calls, and the block under way after it. -/
def lector (procesado : Nat → Nat → (Nat → UInt8) → Nat → UInt8) :
    Reader Receptor UInt8 (List Llamada × List UInt8) where
  unread := Receptor.serialLocal
  outcome receptor octetos :=
    (llamadasTras procesado (receptor.llamadas, receptor.bufferRxLocal)
        (bloques (receptor.pendiente ++ octetos)),
      enCurso (receptor.pendiente ++ octetos))

section Pendiente

/-- The bytes of a type, from the number. -/
theorem octetos_palabra (alto bajo : UInt8) :
    UInt8.ofNat (palabra alto bajo / 256) = alto ∧ UInt8.ofNat (palabra alto bajo) = bajo := by
  have alto_lt := alto.toNat_lt
  have bajo_lt := bajo.toNat_lt
  constructor
  · apply UInt8.toNat_inj.mp
    rw [UInt8.toNat_ofNat', palabra]
    omega
  · apply UInt8.toNat_inj.mp
    rw [UInt8.toNat_ofNat', palabra]
    omega

/-- The byte of a length, from the number. -/
theorem octeto_longitud (octeto : UInt8) : UInt8.ofNat (longitud octeto) = octeto := by
  have octeto_lt := octeto.toNat_lt
  apply UInt8.toNat_inj.mp
  rw [UInt8.toNat_ofNat', longitud]
  split <;> omega

theorem uint16_palabra (alto bajo : UInt8) :
    uint16 (uint16 (256 * alto.toNat) + bajo.toNat) = palabra alto bajo := by
  have alto_lt := alto.toNat_lt
  have bajo_lt := bajo.toNat_lt
  unfold uint16 palabra
  omega

/-- The bytes read of a block under way make no whole block. -/
theorem Receptor.Coherente.leeBloque_pendiente {receptor : Receptor}
    (coherente : receptor.Coherente) (datos : List UInt8)
    (faltan : datos.length < receptor.longitudBloque)
    (recibiendo : receptor.estadoRecepcion = .recibiendoBloque) (alto bajo : UInt8) :
    leeBloque (alto :: bajo ::
      UInt8.ofNat (receptor.punteroRxLocal + receptor.longitudBloque) ::
      ((List.range receptor.punteroRxLocal).map receptor.bufferRxLocal ++ datos)) = none := by
  have pos := coherente.longitud_pos recibiendo
  have largo_eq := longitud_ofNat (by omega) (coherente.longitud_le recibiendo)
  simp only [leeBloque, largo_eq, List.length_append, List.length_map, List.length_range]
  rw [if_neg (by omega)]

/-- The block under way after the bytes read is that of the bytes read. -/
theorem Receptor.Coherente.analiza_pendiente {receptor : Receptor}
    (coherente : receptor.Coherente) :
    analiza receptor.pendiente = ([], receptor.pendiente) := by
  unfold Receptor.pendiente
  split
  case h_1 => exact analiza_nil
  case h_2 => exact analiza_incompleto rfl
  case h_3 => exact analiza_incompleto rfl
  case h_4 recibiendo =>
    apply analiza_incompleto
    have none_eq := coherente.leeBloque_pendiente [] (coherente.longitud_pos recibiendo) recibiendo
    simpa only [List.append_nil] using none_eq _ _

end Pendiente

/-! ## The data of a block -/

section Datos

variable {procesado : Nat → Nat → (Nat → UInt8) → Nat → UInt8} {receptor : Receptor}

/-- The next data bytes, read into the buffer. -/
def Receptor.leeDatos (cuantos : Nat) (receptor : Receptor) : Receptor :=
  { receptor with
    serialLocal := receptor.serialLocal.drop cuantos
    bufferRxLocal :=
      write receptor.punteroRxLocal (receptor.serialLocal.take cuantos) receptor.bufferRxLocal
    punteroRxLocal := receptor.punteroRxLocal + cuantos
    longitudBloque := receptor.longitudBloque - cuantos
    indices := receptor.indices ++ List.range' receptor.punteroRxLocal cuantos }

theorem leeDatos_zero : receptor.leeDatos 0 = receptor := by
  simp [Receptor.leeDatos, write_nil]

theorem leeDatos_add {primeros : Nat} (hay : primeros ≤ receptor.serialLocal.length) (otros : Nat) :
    (receptor.leeDatos primeros).leeDatos otros = receptor.leeDatos (primeros + otros) := by
  have length_take : (receptor.serialLocal.take primeros).length = primeros := by
    rw [List.length_take]
    omega
  have write_eq : write (receptor.punteroRxLocal + primeros)
      ((receptor.serialLocal.drop primeros).take otros)
      (write receptor.punteroRxLocal (receptor.serialLocal.take primeros)
        receptor.bufferRxLocal) =
      write receptor.punteroRxLocal (receptor.serialLocal.take (primeros + otros))
        receptor.bufferRxLocal := by
    rw [List.take_add, write_append, length_take]
  have indices_eq : List.range' receptor.punteroRxLocal primeros ++
      List.range' (receptor.punteroRxLocal + primeros) otros =
      List.range' receptor.punteroRxLocal (primeros + otros) := by
    simp
  simp only [Receptor.leeDatos, List.drop_drop, write_eq, List.append_assoc, indices_eq,
    Nat.add_assoc, Nat.sub_sub]

/-- One round of the loop reads one data byte. -/
theorem readBuffer_eq (hay : 0 < receptor.serialLocal.length)
    (dentro : receptor.punteroRxLocal < 256) :
    { receptor.readBuffer with
      punteroRxLocal := uint16 (receptor.readBuffer.punteroRxLocal + 1)
      longitudBloque := receptor.readBuffer.longitudBloque - 1 } = receptor.leeDatos 1 := by
  have uint16_eq : uint16 (receptor.punteroRxLocal + 1) = receptor.punteroRxLocal + 1 :=
    Nat.mod_eq_of_lt (by omega)
  cases fifo_eq : receptor.serialLocal with
  | nil => simp [fifo_eq] at hay
  | cons octeto resto =>
      simp [Receptor.readBuffer, Receptor.read, Receptor.leeDatos, fifo_eq, uint16_eq]

theorem recibiendoBloque_succ {len : Nat} (hay : 0 < receptor.serialLocal.length)
    (pos : 0 < receptor.longitudBloque) (dentro : receptor.punteroRxLocal < 256) :
    receptor.recibiendoBloque procesado (len + 1) =
      if receptor.longitudBloque - 1 = 0 then (receptor.leeDatos 1).procesarBloque procesado
      else (receptor.leeDatos 1).recibiendoBloque procesado len := by
  rw [Receptor.recibiendoBloque, if_pos pos]
  exact congrArg (fun leido : Receptor =>
    if leido.longitudBloque = 0 then leido.procesarBloque procesado
    else leido.recibiendoBloque procesado len) (readBuffer_eq hay dentro)

/-- The loop reads the data that are there, up to the end of the block, and then
hands the block over. -/
theorem recibiendoBloque_eq {len : Nat} (hay : len ≤ receptor.serialLocal.length)
    (pos : 0 < receptor.longitudBloque)
    (le : receptor.punteroRxLocal + receptor.longitudBloque ≤ 256) :
    receptor.recibiendoBloque procesado len =
      if receptor.longitudBloque ≤ len then
        (receptor.leeDatos receptor.longitudBloque).procesarBloque procesado
      else receptor.leeDatos len := by
  induction len generalizing receptor with
  | zero => rw [if_neg (by omega), leeDatos_zero, Receptor.recibiendoBloque]
  | succ len ih =>
      have hay' : len ≤ (receptor.leeDatos 1).serialLocal.length := by
        simp only [Receptor.leeDatos, List.length_drop]
        omega
      have longitud_eq : (receptor.leeDatos 1).longitudBloque = receptor.longitudBloque - 1 := rfl
      have puntero_eq : (receptor.leeDatos 1).punteroRxLocal = receptor.punteroRxLocal + 1 := rfl
      rw [recibiendoBloque_succ (by omega) pos (by omega)]
      by_cases ultimo : receptor.longitudBloque = 1
      · rw [if_pos (by omega), if_pos (by omega), ultimo]
      · rw [if_neg (by omega), ih hay' (by omega) (by omega), longitud_eq,
          leeDatos_add (by omega), leeDatos_add (by omega), Nat.add_sub_cancel' (by omega),
          Nat.add_comm 1 len]
        by_cases entero : receptor.longitudBloque ≤ len + 1
        · rw [if_pos (by omega), if_pos entero]
        · rw [if_neg (by omega), if_neg entero]

end Datos

/-! ## One poll -/

section Sondeo

variable {procesado : Nat → Nat → (Nat → UInt8) → Nat → UInt8} {receptor : Receptor}

/-- The calls of a run of blocks and the block under way, of the reference
parser on some bytes. -/
theorem lector_outcome (octetos : List UInt8) :
    (lector procesado).outcome receptor octetos =
      (llamadasTras procesado (receptor.llamadas, receptor.bufferRxLocal)
          (analiza (receptor.pendiente ++ octetos)).1,
        (analiza (receptor.pendiente ++ octetos)).2) :=
  rfl

theorem esperandoHeader_avanza (estado : receptor.estadoRecepcion = .esperandoHeader)
    (hay : 0 < receptor.serialLocal.length) :
    Advances (lector procesado) receptor [] receptor.esperandoHeader := by
  cases fifo_eq : receptor.serialLocal with
  | nil => simp [fifo_eq] at hay
  | cons octeto resto =>
      by_cases is_header : octeto = headerRx
      · apply Advances.reading [octeto]
        · simp [lector, Receptor.esperandoHeader, Receptor.read, fifo_eq, is_header]
        · intro siguen
          simp [lector_outcome, Receptor.esperandoHeader, Receptor.read, fifo_eq, is_header,
            Receptor.pendiente, estado]
      · apply Advances.reading [octeto]
        · simp [lector, Receptor.esperandoHeader, Receptor.read, fifo_eq, is_header]
        · intro siguen
          simp [lector_outcome, Receptor.esperandoHeader, Receptor.read, fifo_eq, is_header,
            Receptor.pendiente, estado, analiza_otro is_header]

theorem esperandoTipo_avanza (estado : receptor.estadoRecepcion = .esperandoTipo) {len : Nat}
    (hay : len ≤ receptor.serialLocal.length) :
    Advances (lector procesado) receptor [] (receptor.esperandoTipo len) := by
  by_cases pocos : len < 2
  · rw [Receptor.esperandoTipo, if_pos pocos]
    exact Advances.idle rfl fun _ => rfl
  · rcases fifo_eq : receptor.serialLocal with _ | ⟨alto, _ | ⟨bajo, resto⟩⟩
    · simp only [fifo_eq, List.length_nil] at hay
      omega
    · simp only [fifo_eq, List.length_cons, List.length_nil] at hay
      omega
    · apply Advances.reading [alto, bajo]
      · simp [lector, Receptor.esperandoTipo, Receptor.read, fifo_eq, pocos]
      · intro siguen
        simp [lector_outcome, Receptor.esperandoTipo, Receptor.read, fifo_eq, pocos,
          Receptor.pendiente, estado, uint16_palabra, octetos_palabra]

theorem esperandoLongitud_avanza (estado : receptor.estadoRecepcion = .esperandoLongitud)
    (hay : 0 < receptor.serialLocal.length) :
    Advances (lector procesado) receptor [] receptor.esperandoLongitud := by
  cases fifo_eq : receptor.serialLocal with
  | nil => simp [fifo_eq] at hay
  | cons largo resto =>
      apply Advances.reading [largo]
      · simp [lector, Receptor.esperandoLongitud, Receptor.read, fifo_eq]
      · intro siguen
        have largo_eq := octeto_longitud largo
        rw [longitud] at largo_eq
        simp [lector_outcome, Receptor.esperandoLongitud, Receptor.read, fifo_eq,
          Receptor.pendiente, estado, largo_eq]

/-- The data read so far, with those a poll adds. -/
theorem pendiente_leeDatos (estado : receptor.estadoRecepcion = .recibiendoBloque) {cuantos : Nat}
    (hay : cuantos ≤ receptor.serialLocal.length) (caben : cuantos ≤ receptor.longitudBloque) :
    (receptor.leeDatos cuantos).pendiente =
      receptor.pendiente ++ receptor.serialLocal.take cuantos := by
  have length_take : (receptor.serialLocal.take cuantos).length = cuantos := by
    rw [List.length_take]
    omega
  have datos_eq : (List.range (receptor.punteroRxLocal + cuantos)).map
      (write receptor.punteroRxLocal (receptor.serialLocal.take cuantos)
        receptor.bufferRxLocal) =
      (List.range receptor.punteroRxLocal).map receptor.bufferRxLocal ++
        receptor.serialLocal.take cuantos := by
    have begins := (begins_map_range receptor.bufferRxLocal receptor.punteroRxLocal).write
      (receptor.serialLocal.take cuantos)
    rw [List.length_map, List.length_range] at begins
    have eq_map := begins.eq_map
    rwa [List.length_append, length_take, List.length_map, List.length_range] at eq_map
  have largo_eq : receptor.punteroRxLocal + cuantos + (receptor.longitudBloque - cuantos) =
      receptor.punteroRxLocal + receptor.longitudBloque := by
    omega
  simp only [Receptor.pendiente, Receptor.leeDatos, estado, datos_eq, largo_eq, List.cons_append]

/-- A block whose data cover what was written in the buffer leads to the same
calls as without it. -/
theorem llamadasTras_write {llamadas : List Llamada} {buffer : Nat → UInt8} {inicio : Nat}
    {escritos : List UInt8} {largo : UInt8} (dentro : inicio + escritos.length ≤ longitud largo)
    (alto bajo : UInt8) (octetos : List UInt8) :
    llamadasTras procesado (llamadas, write inicio escritos buffer)
        (bloques (headerRx :: alto :: bajo :: largo :: octetos)) =
      llamadasTras procesado (llamadas, buffer)
        (bloques (headerRx :: alto :: bajo :: largo :: octetos)) := by
  by_cases entero : longitud largo ≤ octetos.length
  · have some_eq : leeBloque (alto :: bajo :: largo :: octetos) =
        some (⟨palabra alto bajo, octetos.take (longitud largo)⟩,
          octetos.drop (longitud largo)) := if_pos entero
    have cubre : inicio + escritos.length ≤ (octetos.take (longitud largo)).length := by
      rw [List.length_take]
      omega
    simp only [bloques, analiza_bloque some_eq, llamadasTras, List.foldl_cons, atiende,
      write_cover cubre]
  · have none_eq : leeBloque (alto :: bajo :: largo :: octetos) = none := if_neg entero
    simp only [bloques, analiza_incompleto none_eq, llamadasTras_nil]

theorem leeDatos_avanza (coherente : receptor.Coherente)
    (estado : receptor.estadoRecepcion = .recibiendoBloque) {cuantos : Nat}
    (hay : cuantos ≤ receptor.serialLocal.length) (caben : cuantos ≤ receptor.longitudBloque) :
    Advances (lector procesado) receptor [] (receptor.leeDatos cuantos) := by
  have pos := coherente.longitud_pos estado
  have le := coherente.longitud_le estado
  apply Advances.reading (receptor.serialLocal.take cuantos)
  · simp [lector, Receptor.leeDatos]
  · intro siguen
    have dentro : receptor.punteroRxLocal + (receptor.serialLocal.take cuantos).length ≤
        longitud (UInt8.ofNat (receptor.punteroRxLocal + receptor.longitudBloque)) := by
      rw [longitud_ofNat (by omega) le, List.length_take]
      omega
    simp only [lector, pendiente_leeDatos estado hay caben, List.append_assoc, Prod.mk.injEq,
      and_true]
    simp only [Receptor.leeDatos, Receptor.pendiente, estado, List.cons_append]
    exact llamadasTras_write dentro _ _ _

/-- A block received whole goes to `procesar_bloque`. -/
theorem procesarBloque_avanza (estado : receptor.estadoRecepcion = .recibiendoBloque)
    (tipo_lt : receptor.tipoBloque < 65536) (entero : receptor.longitudBloque = 0)
    (pos : 0 < receptor.punteroRxLocal) (le : receptor.punteroRxLocal ≤ 256) :
    Advances (lector procesado) receptor [] (receptor.procesarBloque procesado) := by
  have length_datos :
      ((List.range receptor.punteroRxLocal).map receptor.bufferRxLocal).length =
        receptor.punteroRxLocal := by
    rw [List.length_map, List.length_range]
  let bloque : Bloque :=
    ⟨receptor.tipoBloque, (List.range receptor.punteroRxLocal).map receptor.bufferRxLocal⟩
  have transmisible : bloque.Transmisible :=
    ⟨tipo_lt, by rwa [length_datos], by rwa [length_datos]⟩
  have pendiente_eq : receptor.pendiente = bloque.trama := by
    simp only [Receptor.pendiente, estado, entero, Nat.add_zero, Bloque.trama, bloque,
      length_datos]
  have write_eq : write 0 bloque.datos receptor.bufferRxLocal = receptor.bufferRxLocal :=
    (begins_map_range _ _).write_zero
  apply Advances.idle
  · rfl
  · intro siguen
    rw [lector_outcome, lector_outcome, pendiente_eq, transmisible.analiza_trama]
    simp only [llamadasTras, List.foldl_cons, atiende, write_eq]
    rfl

/-- The loop over the data reads part of what was received. -/
theorem recibiendoBloque_avanza (coherente : receptor.Coherente)
    (estado : receptor.estadoRecepcion = .recibiendoBloque) {len : Nat}
    (hay : len ≤ receptor.serialLocal.length) :
    Advances (lector procesado) receptor [] (receptor.recibiendoBloque procesado len) := by
  have pos := coherente.longitud_pos estado
  have le := coherente.longitud_le estado
  rw [recibiendoBloque_eq hay pos le]
  by_cases entero : receptor.longitudBloque ≤ len
  · rw [if_pos entero]
    have lee :
        Advances (lector procesado) receptor [] (receptor.leeDatos receptor.longitudBloque) :=
      leeDatos_avanza coherente estado (entero.trans hay) le_rfl
    exact lee.trans (procesarBloque_avanza estado coherente.tipo_lt (Nat.sub_self _)
      (by simp only [Receptor.leeDatos]; omega) le)
  · rw [if_neg entero]
    exact leeDatos_avanza coherente estado hay (by omega)

theorem automata_avanza (coherente : receptor.Coherente) {len : Nat}
    (hay : 0 < receptor.serialLocal.length) (len_le : len ≤ receptor.serialLocal.length) :
    Advances (lector procesado) receptor [] (receptor.automata procesado len) := by
  unfold Receptor.automata
  split
  case h_1 estado => exact esperandoHeader_avanza estado hay
  case h_2 estado => exact esperandoTipo_avanza estado len_le
  case h_3 estado => exact esperandoLongitud_avanza estado hay
  case h_4 estado => exact recibiendoBloque_avanza coherente estado len_le

/-- The counter takes no part in what is read. -/
theorem conCnt_avanza (cnt : Nat) :
    Advances (lector procesado) receptor [] { receptor with cntFinBloque := cnt } :=
  Advances.idle rfl fun _ => rfl

/-- A poll that does not reset the receiver only reads. -/
theorem procesoRecepcion_avanza (coherente : receptor.Coherente) (sigue : ¬ receptor.Reinicia) :
    Advances (lector procesado) receptor [] (receptor.procesoRecepcion procesado) := by
  have len_le : uint16 receptor.available ≤ receptor.serialLocal.length := Nat.mod_le _ _
  unfold Receptor.procesoRecepcion
  dsimp only
  by_cases nada : uint16 receptor.available = 0
  · rw [if_pos nada]
    split
    case isTrue cero =>
      have estado : receptor.estadoRecepcion = .esperandoHeader := by
        by_contra otro
        exact sigue ⟨nada, cero, otro⟩
      exact Advances.idle rfl fun _ => by simp only [lector, Receptor.pendiente, estado]
    case isFalse => exact Advances.idle rfl fun _ => rfl
  · rw [if_neg nada]
    let conPlazo : Receptor := { receptor with cntFinBloque := timeoutRxBloque }
    have coherente' : conPlazo.Coherente := { coherente with cnt_le := le_rfl }
    have lee : Advances (lector procesado) conPlazo [] _ :=
      automata_avanza coherente' (by simp only [conPlazo]; omega) len_le
    exact (conCnt_avanza timeoutRxBloque).trans lee

end Sondeo

/-! ## Coherence -/

section Coherente

variable {procesado : Nat → Nat → (Nat → UInt8) → Nat → UInt8} {receptor : Receptor}

theorem coherente_inicial (buffer : Nat → UInt8) (byte : UInt8) :
    (Receptor.inicial buffer byte).Coherente := by
  constructor <;> simp [Receptor.inicial]

/-- Outside the data, only the type, the counter and the indices matter. -/
theorem Receptor.Coherente.fueraDeDatos {otro : Receptor} (coherente : receptor.Coherente)
    (tipo_lt : otro.tipoBloque < 65536) (cnt_eq : otro.cntFinBloque = receptor.cntFinBloque)
    (indices_eq : otro.indices = receptor.indices)
    (estado : otro.estadoRecepcion ≠ .recibiendoBloque) : otro.Coherente where
  tipo_lt := tipo_lt
  cnt_le := cnt_eq ▸ coherente.cnt_le
  longitud_pos recibiendo := absurd recibiendo estado
  longitud_le recibiendo := absurd recibiendo estado
  indices_lt := indices_eq ▸ coherente.indices_lt

/-- The data are written within the buffer. -/
theorem indices_leeDatos (coherente : receptor.Coherente)
    (estado : receptor.estadoRecepcion = .recibiendoBloque) {cuantos : Nat}
    (caben : cuantos ≤ receptor.longitudBloque) :
    ∀ i ∈ (receptor.leeDatos cuantos).indices, i < 256 := by
  have le := coherente.longitud_le estado
  intro i mem
  rcases List.mem_append.mp mem with antes | ahora
  · exact coherente.indices_lt i antes
  · rw [List.mem_range'_1] at ahora
    omega

theorem Receptor.Coherente.esperandoHeader (coherente : receptor.Coherente) :
    receptor.estadoRecepcion = .esperandoHeader → receptor.esperandoHeader.Coherente := by
  intro estado
  unfold Receptor.esperandoHeader
  dsimp only
  split
  · apply coherente.fueraDeDatos <;> simp [coherente.tipo_lt, estado]
  · apply coherente.fueraDeDatos <;> simp [coherente.tipo_lt]

theorem Receptor.Coherente.esperandoTipo (coherente : receptor.Coherente) (len : Nat) :
    (receptor.esperandoTipo len).Coherente := by
  unfold Receptor.esperandoTipo
  split
  · exact coherente
  · apply coherente.fueraDeDatos
    · exact Nat.mod_lt _ (by decide)
    · simp
    · simp
    · simp

theorem Receptor.Coherente.esperandoLongitud (coherente : receptor.Coherente) :
    receptor.esperandoLongitud.Coherente := by
  have leido_lt := (receptor.read 0).1.toNat_lt
  unfold Receptor.esperandoLongitud
  refine ⟨?_, ?_, fun _ => ?_, fun _ => ?_, ?_⟩
  · simpa using coherente.tipo_lt
  · simpa using coherente.cnt_le
  · dsimp only
    split <;> omega
  · dsimp only
    split <;> omega
  · simpa using coherente.indices_lt

theorem Receptor.Coherente.leeDatos (coherente : receptor.Coherente)
    (estado : receptor.estadoRecepcion = .recibiendoBloque) {cuantos : Nat}
    (quedan : cuantos < receptor.longitudBloque) : (receptor.leeDatos cuantos).Coherente where
  tipo_lt := coherente.tipo_lt
  cnt_le := coherente.cnt_le
  longitud_pos _ := Nat.sub_pos_of_lt quedan
  longitud_le _ := by
    have le := coherente.longitud_le estado
    simp only [Receptor.leeDatos]
    omega
  indices_lt := indices_leeDatos coherente estado quedan.le

theorem Receptor.Coherente.recibiendoBloque (coherente : receptor.Coherente)
    (estado : receptor.estadoRecepcion = .recibiendoBloque) {len : Nat}
    (hay : len ≤ receptor.serialLocal.length) :
    (receptor.recibiendoBloque procesado len).Coherente := by
  have pos := coherente.longitud_pos estado
  have le := coherente.longitud_le estado
  rw [recibiendoBloque_eq hay pos le]
  split
  · refine ⟨coherente.tipo_lt, coherente.cnt_le, ?_, ?_, indices_leeDatos coherente estado le_rfl⟩
    · simp [Receptor.procesarBloque]
    · simp [Receptor.procesarBloque]
  · exact coherente.leeDatos estado (by omega)

theorem Receptor.Coherente.automata (coherente : receptor.Coherente) {len : Nat}
    (len_le : len ≤ receptor.serialLocal.length) :
    (receptor.automata procesado len).Coherente := by
  unfold Receptor.automata
  split
  case h_1 estado => exact coherente.esperandoHeader estado
  case h_2 estado => exact coherente.esperandoTipo _
  case h_3 estado => exact coherente.esperandoLongitud
  case h_4 estado => exact coherente.recibiendoBloque estado len_le

theorem Receptor.Coherente.procesoRecepcion (coherente : receptor.Coherente) :
    (receptor.procesoRecepcion procesado).Coherente := by
  unfold Receptor.procesoRecepcion
  dsimp only
  split
  · split
    · apply coherente.fueraDeDatos <;> simp [coherente.tipo_lt]
    · exact coherente
  · let conPlazo : Receptor := { receptor with cntFinBloque := timeoutRxBloque }
    have coherente' : conPlazo.Coherente := { coherente with cnt_le := le_rfl }
    exact coherente'.automata (Nat.mod_le _ _)

theorem Receptor.Coherente.onTimer10ms (coherente : receptor.Coherente) :
    receptor.onTimer10ms.Coherente := by
  unfold Receptor.onTimer10ms
  split
  · exact { coherente with cnt_le := (Nat.sub_le _ _).trans coherente.cnt_le }
  · exact coherente

/-- Every event keeps the variables coherent. -/
theorem Receptor.Coherente.paso (coherente : receptor.Coherente) (evento : Evento) :
    (receptor.paso procesado evento).Coherente := by
  cases evento with
  | llegan octetos => exact { coherente with }
  | sondeo => exact coherente.procesoRecepcion
  | tick => exact coherente.onTimer10ms

end Coherente

end VeltiumCharger.Uart
