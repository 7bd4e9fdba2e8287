import VeltiumCharger.Uart.Lectura

/-!
# The blocks a run dispatches

Unless a silence resets the receiver in the middle of a block, a run dispatches
the blocks the reference parser finds in what it has read, and enough polls
dispatch those it finds in all that was received.
-/

namespace VeltiumCharger.Uart

open VeltiumCharger.Buffer VeltiumCharger.Run VeltiumCharger.Stream

variable {procesado : Nat → Nat → (Nat → UInt8) → Nat → UInt8} {receptor : Receptor}

/-- Some events without a reset in the middle of a block. -/
theorem correr_avanza (coherente : receptor.Coherente) {eventos : List Evento}
    (sinReinicio : Along SinReinicio (Receptor.paso procesado) eventos receptor) :
    Advances (lector procesado) receptor (llegados eventos)
        (receptor.correr procesado eventos) ∧
      (receptor.correr procesado eventos).Coherente := by
  induction eventos generalizing receptor with
  | nil => exact ⟨Advances.idle rfl fun _ => rfl, coherente⟩
  | cons evento eventos ih =>
      rcases ih (coherente.paso evento) sinReinicio.2 with ⟨resto, coherente'⟩
      refine ⟨Advances.trans ?_ resto, coherente'⟩
      cases evento with
      | llegan octetos => exact Advances.receiving octetos rfl fun _ => rfl
      | sondeo => exact procesoRecepcion_avanza coherente (sinReinicio.1 rfl)
      | tick =>
          show Advances (lector procesado) receptor [] receptor.onTimer10ms
          unfold Receptor.onTimer10ms
          split
          · exact conCnt_avanza _
          · exact Advances.idle rfl fun _ => rfl

/-! ## Enough polls -/

/-- How many polls it takes to read some bytes, given what the receiver waits
for and how many data bytes it still expects.  One byte is not enough for a
type. -/
def lecturas : EstadoRecepcion → Nat → List UInt8 → Nat
  | .esperandoHeader, _, octeto :: octetos =>
    1 + lecturas (if octeto = headerRx then .esperandoTipo else .esperandoHeader) 0 octetos
  | .esperandoTipo, _, _ :: _ :: octetos => 1 + lecturas .esperandoLongitud 0 octetos
  | .esperandoLongitud, _, largo :: octetos =>
    1 + lecturas .recibiendoBloque (longitud largo) octetos
  | .recibiendoBloque, faltan, _ :: octetos =>
    1 + lecturas .esperandoHeader 0 (octetos.drop (faltan - 1))
  | _, _, _ => 0
  termination_by _ _ octetos => octetos.length
  decreasing_by
    all_goals simp only [List.length_cons, List.length_drop]; omega

@[simp]
theorem lecturas_nil (estado : EstadoRecepcion) (faltan : Nat) : lecturas estado faltan [] = 0 := by
  cases estado <;> simp [lecturas]

/-- The polls it takes to read what there is to read. -/
def Receptor.lecturas (receptor : Receptor) : Nat :=
  Uart.lecturas receptor.estadoRecepcion receptor.longitudBloque receptor.serialLocal

theorem lecturas_le (estado : EstadoRecepcion) (faltan : Nat) (octetos : List UInt8) :
    lecturas estado faltan octetos ≤ octetos.length := by
  fun_induction lecturas estado faltan octetos with
  | case1 faltan octeto octetos ih =>
      rw [dite_eq_ite] at ih
      rw [List.length_cons]
      omega
  | case2 faltan primero segundo octetos ih =>
      simp only [List.length_cons]
      omega
  | case3 faltan largo octetos ih =>
      rw [List.length_cons]
      omega
  | case4 faltan octeto octetos ih =>
      rw [List.length_drop] at ih
      rw [List.length_cons]
      omega
  | case5 => omega

/-- Nothing can be read: nothing is there, or a single byte of a type. -/
theorem lecturas_eq_zero {receptor : Receptor} :
    receptor.lecturas = 0 ↔ receptor.serialLocal = [] ∨
      receptor.estadoRecepcion = .esperandoTipo ∧ ∃ octeto, receptor.serialLocal = [octeto] := by
  unfold Receptor.lecturas
  rcases receptor.serialLocal with _ | ⟨primero, _ | ⟨segundo, resto⟩⟩ <;>
    cases receptor.estadoRecepcion <;> simp [lecturas]

/-- A poll that finds bytes runs the automaton on all of them. -/
theorem procesoRecepcion_eq (cabe : receptor.available < 65536) (hay : receptor.serialLocal ≠ []) :
    receptor.procesoRecepcion procesado =
      Receptor.automata procesado receptor.serialLocal.length
        { receptor with cntFinBloque := timeoutRxBloque } := by
  have len_eq : uint16 receptor.available = receptor.serialLocal.length := Nat.mod_eq_of_lt cabe
  have pos := List.length_pos_iff.mpr hay
  unfold Receptor.procesoRecepcion
  dsimp only
  rw [len_eq, if_neg (by omega)]

/-- The data expected count while data are received only. -/
theorem lecturas_fueraDeDatos {estado : EstadoRecepcion} (fuera : estado ≠ .recibiendoBloque)
    (faltan faltan' : Nat) (octetos : List UInt8) :
    lecturas estado faltan octetos = lecturas estado faltan' octetos := by
  rcases octetos with _ | ⟨primero, _ | ⟨segundo, resto⟩⟩ <;>
    cases estado <;> simp [lecturas] at fuera ⊢

/-- A poll in the middle of a block reads its data, or all there is. -/
theorem recibiendoBloque_lecturas (coherente : receptor.Coherente)
    (estado : receptor.estadoRecepcion = .recibiendoBloque) (hay : receptor.serialLocal ≠ []) :
    1 + (receptor.recibiendoBloque procesado receptor.serialLocal.length).lecturas =
      receptor.lecturas := by
  have pos := coherente.longitud_pos estado
  have le := coherente.longitud_le estado
  have lecturas_eq : receptor.lecturas = 1 + lecturas .esperandoHeader 0
      (receptor.serialLocal.drop receptor.longitudBloque) := by
    rcases fifo_eq : receptor.serialLocal with _ | ⟨primero, resto⟩
    · exact absurd fifo_eq hay
    · obtain ⟨faltan, longitud_eq⟩ := Nat.exists_eq_add_of_lt pos
      simp [Receptor.lecturas, estado, fifo_eq, lecturas, longitud_eq]
  rw [recibiendoBloque_eq le_rfl pos le, lecturas_eq]
  split
  case isTrue entero =>
    exact congrArg (1 + ·) (@lecturas_fueraDeDatos .esperandoHeader (by decide) _ _ _)
  case isFalse parcial =>
    have nada : receptor.serialLocal.drop receptor.longitudBloque = [] :=
      List.drop_eq_nil_of_le (by omega)
    have leido : (receptor.leeDatos receptor.serialLocal.length).lecturas = 0 :=
      lecturas_eq_zero.mpr (.inl (by simp [Receptor.leeDatos]))
    rw [nada, leido, lecturas_nil]

/-- The automaton takes one off the polls needed. -/
theorem automata_lecturas (coherente : receptor.Coherente) (hay : 0 < receptor.lecturas) :
    (receptor.automata procesado receptor.serialLocal.length).lecturas + 1 =
      receptor.lecturas := by
  unfold Receptor.automata
  rcases fifo_eq : receptor.serialLocal with _ | ⟨primero, resto⟩
  · rw [lecturas_eq_zero.mpr (.inl fifo_eq)] at hay
    exact absurd hay (lt_irrefl 0)
  rw [Nat.add_comm]
  cases estado : receptor.estadoRecepcion with
  | esperandoHeader =>
      have sinDatos := fun otro (fuera : otro ≠ EstadoRecepcion.recibiendoBloque) =>
        lecturas_fueraDeDatos fuera receptor.longitudBloque 0 resto
      by_cases is_header : primero = headerRx
      · simpa [Receptor.esperandoHeader, Receptor.lecturas, Receptor.read, fifo_eq, is_header,
          estado, lecturas] using sinDatos .esperandoTipo (by decide)
      · simpa [Receptor.esperandoHeader, Receptor.lecturas, Receptor.read, fifo_eq, is_header,
          estado, lecturas] using sinDatos .esperandoHeader (by decide)
  | esperandoTipo =>
      rcases resto with _ | ⟨segundo, resto⟩
      · simp [Receptor.lecturas, fifo_eq, estado, lecturas] at hay
      · have bastan : ¬ (primero :: segundo :: resto).length < 2 := by
          simp only [List.length_cons]
          omega
        have sinDatos : lecturas .esperandoLongitud receptor.longitudBloque resto =
            lecturas .esperandoLongitud 0 resto :=
          lecturas_fueraDeDatos (by decide) _ _ _
        dsimp only
        rw [Receptor.esperandoTipo, if_neg bastan]
        simpa [Receptor.lecturas, Receptor.read, fifo_eq, estado, lecturas] using sinDatos
  | esperandoLongitud =>
      simp [Receptor.esperandoLongitud, Receptor.lecturas, Receptor.read, fifo_eq, estado, lecturas,
        longitud]
  | recibiendoBloque =>
      dsimp only
      rw [← fifo_eq]
      exact recibiendoBloque_lecturas coherente estado (by simp [fifo_eq])

/-- A poll that reads takes one off the polls needed. -/
theorem procesoRecepcion_lecturas (coherente : receptor.Coherente)
    (cabe : receptor.available < 65536) (hay : 0 < receptor.lecturas) :
    (receptor.procesoRecepcion procesado).lecturas + 1 = receptor.lecturas := by
  have quedan : receptor.serialLocal ≠ [] := by
    intro vacio
    rw [lecturas_eq_zero.mpr (.inl vacio)] at hay
    exact absurd hay (lt_irrefl 0)
  rw [procesoRecepcion_eq cabe quedan]
  exact automata_lecturas { coherente with cnt_le := le_rfl } hay

/-- Where nothing can be read, a poll makes no call and reads nothing. -/
theorem procesoRecepcion_quieto (cabe : receptor.available < 65536)
    (quieto : receptor.lecturas = 0) :
    (receptor.procesoRecepcion procesado).llamadas = receptor.llamadas ∧
      (receptor.procesoRecepcion procesado).serialLocal = receptor.serialLocal ∧
      (receptor.procesoRecepcion procesado).lecturas = 0 := by
  rcases lecturas_eq_zero.mp quieto with vacio | ⟨estado, octeto, uno⟩
  · have nada : uint16 receptor.available = 0 := by
      rw [Receptor.available, vacio]
      rfl
    have poll_eq : (receptor.procesoRecepcion procesado).serialLocal = receptor.serialLocal := by
      unfold Receptor.procesoRecepcion
      dsimp only
      rw [if_pos nada]
      split <;> rfl
    refine ⟨?_, poll_eq, lecturas_eq_zero.mpr (.inl (poll_eq.trans vacio))⟩
    unfold Receptor.procesoRecepcion
    dsimp only
    rw [if_pos nada]
    split <;> rfl
  · have hay : receptor.serialLocal ≠ [] := by
      rw [uno]
      exact List.cons_ne_nil _ _
    have poll_eq : receptor.procesoRecepcion procesado =
        { receptor with cntFinBloque := timeoutRxBloque } := by
      rw [procesoRecepcion_eq cabe hay]
      simp [Receptor.automata, estado, Receptor.esperandoTipo, uno]
    rw [poll_eq]
    exact ⟨rfl, rfl, quieto⟩

/-- Where nothing can be read, all the calls there will be have been made. -/
theorem outcome_quieto (coherente : receptor.Coherente) (quieto : receptor.lecturas = 0) :
    ((lector procesado).outcome receptor receptor.serialLocal).1 = receptor.llamadas := by
  rcases lecturas_eq_zero.mp quieto with vacio | ⟨estado, octeto, uno⟩
  · rw [vacio, lector_outcome, List.append_nil, coherente.analiza_pendiente, llamadasTras_nil]
  · have none_eq : leeBloque [octeto] = none := rfl
    rw [lector_outcome, uno, Receptor.pendiente, estado]
    rw [List.singleton_append, analiza_incompleto none_eq, llamadasTras_nil]

/-- Enough polls make all the calls there will be. -/
theorem sondear_llamadas (coherente : receptor.Coherente) (cabe : receptor.available < 65536)
    {sondeos : Nat} (bastan : receptor.lecturas ≤ sondeos) :
    ((Receptor.procesoRecepcion procesado)^[sondeos] receptor).llamadas =
      ((lector procesado).outcome receptor receptor.serialLocal).1 := by
  induction sondeos generalizing receptor with
  | zero => exact (outcome_quieto coherente (by omega)).symm
  | succ sondeos ih =>
      have coherente' : (receptor.procesoRecepcion procesado).Coherente :=
        coherente.procesoRecepcion
      rw [Function.iterate_succ_apply]
      rcases Nat.eq_zero_or_pos receptor.lecturas with quieto | hay
      · obtain ⟨llamadas_eq, serial_eq, quieto'⟩ :=
          @procesoRecepcion_quieto procesado receptor cabe quieto
        have cabe' : (receptor.procesoRecepcion procesado).available < 65536 := by
          rwa [Receptor.available, serial_eq]
        rw [ih coherente' cabe' (by omega), outcome_quieto coherente' quieto', llamadas_eq,
          outcome_quieto coherente quieto]
      · have lecturas_eq := @procesoRecepcion_lecturas procesado receptor coherente cabe hay
        have len_eq : uint16 receptor.available = receptor.available := Nat.mod_eq_of_lt cabe
        have sigue : ¬ receptor.Reinicia := by
          intro reinicia
          have lecturas_le := lecturas_le receptor.estadoRecepcion receptor.longitudBloque
            receptor.serialLocal
          have nada : receptor.available = 0 := len_eq.symm.trans reinicia.1
          unfold Receptor.available at nada
          unfold Receptor.lecturas at hay
          omega
        have lee := @procesoRecepcion_avanza procesado receptor coherente sigue
        have cabe' : (receptor.procesoRecepcion procesado).available < 65536 :=
          Nat.lt_of_le_of_lt lee.length_unread_le cabe
        have outcome_eq := lee.outcome_unread []
        simp only [List.append_nil] at outcome_eq
        rw [ih coherente' cabe' (by omega)]
        exact congrArg Prod.fst outcome_eq

/-- All the calls that what was received will lead to are made once the receiver
has polled as often as it had bytes to read. -/
theorem vaciado_llamadas (coherente : receptor.Coherente) (cabe : receptor.available < 65536) :
    (receptor.vaciado procesado).llamadas =
      ((lector procesado).outcome receptor receptor.serialLocal).1 :=
  sondear_llamadas coherente cabe (lecturas_le _ _ _)

/-! ## From the start -/

/-- However the bytes are split over the polls, the calls made are those of the
blocks the reference parser finds in what was read; once the rest is read, they
are those of the blocks in all that was received.  The buffer is accessed within
its 256 bytes only. -/
theorem recepcion_independiente_de_trozos
    (procesado : Nat → Nat → (Nat → UInt8) → Nat → UInt8) (buffer : Nat → UInt8) (byte : UInt8)
    (eventos : List Evento)
    (sinReinicio :
      Along SinReinicio (Receptor.paso procesado) eventos (Receptor.inicial buffer byte)) :
    (∃ leidos,
      llegados eventos =
          leidos ++ ((Receptor.inicial buffer byte).correr procesado eventos).serialLocal ∧
        ((Receptor.inicial buffer byte).correr procesado eventos).llamadas =
          llamadasTras procesado ([], buffer) (bloques leidos)) ∧
    (((Receptor.inicial buffer byte).correr procesado eventos).available < 65536 →
      (((Receptor.inicial buffer byte).correr procesado eventos).vaciado procesado).llamadas =
        llamadasTras procesado ([], buffer) (bloques (llegados eventos))) ∧
    ∀ i ∈ ((Receptor.inicial buffer byte).correr procesado eventos).indices, i < 256 := by
  obtain ⟨avanza, coherente⟩ := correr_avanza (coherente_inicial buffer byte) sinReinicio
  refine ⟨?_, fun cabe => ?_, coherente.indices_lt⟩
  · obtain ⟨leidos, unread_eq, outcome_eq⟩ := avanza
    refine ⟨leidos, unread_eq, ?_⟩
    have calls_eq := congrArg Prod.fst (outcome_eq [])
    rwa [lector_outcome, lector_outcome, List.append_nil, List.append_nil,
      coherente.analiza_pendiente, llamadasTras_nil] at calls_eq
  · rw [vaciado_llamadas coherente cabe]
    have outcome_eq := congrArg Prod.fst (avanza.outcome_unread [])
    simp only [List.append_nil] at outcome_eq
    exact outcome_eq

/-- Noise, a block of two bytes cut in its type and in its data, and the header
of the next. -/
def dosTrozos : List Evento :=
  [.llegan [48, 58, 1], .sondeo, .tick, .sondeo, .sondeo, .llegan [2, 2], .sondeo, .sondeo,
    .llegan [7], .sondeo, .tick, .llegan [8, 58], .sondeo]

theorem recepcion_independiente_de_trozos_dosTrozos :
    (((Receptor.inicial (fun _ => 0) 0).correr (fun _ _ buffer => buffer) dosTrozos).vaciado
        fun _ _ buffer => buffer).llamadas.length = 1 ∧
      (((Receptor.inicial (fun _ => 0) 0).correr (fun _ _ buffer => buffer) dosTrozos).vaciado
          fun _ _ buffer => buffer).llamadas =
        llamadasTras (fun _ _ buffer => buffer) ([], fun _ => 0)
          (bloques [48, 58, 1, 2, 2, 7, 8, 58]) :=
  ⟨by decide,
    (recepcion_independiente_de_trozos (fun _ _ buffer => buffer) (fun _ => 0) 0 dosTrozos
      (by decide)).2.1 (by decide)⟩

end VeltiumCharger.Uart
