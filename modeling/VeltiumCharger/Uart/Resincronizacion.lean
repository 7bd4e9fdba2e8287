import VeltiumCharger.Uart.Recepcion

/-!
# Resynchronisation after a silence

`TIMEOUT_RX_BLOQUE` ticks of silence are to bring the receiver back to the
header.  The counter is set anew by every poll that finds bytes, also by one that
does not read them: a header followed by a single byte of a type is never given
up, and every other block cut short is once the bytes before it have been read.
-/

namespace VeltiumCharger.Uart

open VeltiumCharger.Buffer VeltiumCharger.Run VeltiumCharger.Stream

variable {procesado : Nat → Nat → (Nat → UInt8) → Nat → UInt8} {receptor : Receptor}

/-- The line is silent: only polls and ticks. -/
def Silencio (eventos : List Evento) : Prop :=
  ∀ evento ∈ eventos, evento = .sondeo ∨ evento = .tick

instance (eventos : List Evento) : Decidable (Silencio eventos) :=
  inferInstanceAs (Decidable (∀ evento ∈ eventos, _))

/-- What is unread can be counted in the `uint16` of `len`, as it always can in
the queue of the driver. -/
def Cabe (procesado : Nat → Nat → (Nat → UInt8) → Nat → UInt8) (receptor : Receptor)
    (evento : Evento) : Prop :=
  (receptor.paso procesado evento).available < 65536

instance (procesado : Nat → Nat → (Nat → UInt8) → Nat → UInt8) (receptor : Receptor)
    (evento : Evento) : Decidable (Cabe procesado receptor evento) :=
  inferInstanceAs (Decidable (_ < _))

/-- The block under way once the unread bytes have been read. -/
def Receptor.abierto (receptor : Receptor) : List UInt8 :=
  enCurso (receptor.pendiente ++ receptor.serialLocal)

/-- The ticks a silence needs, after the polls that read what is unread, for the
counter to come to zero. -/
def Receptor.plazo (receptor : Receptor) : Nat :=
  if receptor.serialLocal = [] then receptor.cntFinBloque else timeoutRxBloque

/-- The silence ends with no block under way: the unread bytes leave none, or
they leave one other than a header with one byte of the type and, after as many
polls as they take to be read, the silence has the ticks of the counter and then
a poll. -/
def Resincroniza (receptor : Receptor) (silencio : List Evento) : Prop :=
  receptor.abierto = [] ∨
    receptor.abierto.length ≠ 2 ∧ ∃ lee espera resto,
      silencio = lee ++ espera ++ Evento.sondeo :: resto ∧
        receptor.lecturas ≤ lee.count .sondeo ∧ receptor.plazo ≤ espera.count .tick

/-! ## One event of a silence -/

/-- With everything read, the block under way is what has been read of it. -/
theorem Receptor.Coherente.abierto_leido (coherente : receptor.Coherente)
    (leido : receptor.serialLocal = []) : receptor.abierto = receptor.pendiente := by
  rw [Receptor.abierto, leido, List.append_nil, enCurso, coherente.analiza_pendiente]

/-- The receiver never waits with exactly two bytes of a block read. -/
theorem length_pendiente_ne_two : receptor.pendiente.length ≠ 2 := by
  unfold Receptor.pendiente
  cases receptor.estadoRecepcion <;> simp

/-- A reset finds nothing to read and leaves no block under way. -/
theorem Receptor.Reinicia.leido (reinicia : receptor.Reinicia) (cabe : receptor.available < 65536) :
    receptor.serialLocal = [] := by
  have nada := reinicia.1
  rw [uint16, Nat.mod_eq_of_lt cabe] at nada
  exact List.eq_nil_of_length_eq_zero nada

/-- A poll that finds nothing reads nothing: the counter stays, and at zero the
receiver goes back to the header. -/
theorem procesoRecepcion_leido (leido : receptor.serialLocal = []) :
    receptor.procesoRecepcion procesado =
      if receptor.cntFinBloque = 0 then
        { receptor with punteroRxLocal := 0, estadoRecepcion := .esperandoHeader }
      else receptor := by
  have nada : uint16 receptor.available = 0 := by
    rw [Receptor.available, leido]
    rfl
  unfold Receptor.procesoRecepcion
  exact if_pos nada

/-- An event of a silence leaves no more to read than there was. -/
theorem paso_available_le (coherente : receptor.Coherente) (cabe : receptor.available < 65536)
    {evento : Evento} (calla : evento = .sondeo ∨ evento = .tick) :
    (receptor.paso procesado evento).available ≤ receptor.available := by
  rcases calla with rfl | rfl
  · by_cases reinicia : receptor.Reinicia
    · simp only [Receptor.paso, procesoRecepcion_leido (reinicia.leido cabe), reinicia.2.1,
        if_true]
      exact le_rfl
    · exact (procesoRecepcion_avanza coherente reinicia).length_unread_le
  · simp only [Receptor.paso, Receptor.onTimer10ms]
    split <;> exact le_rfl

/-- An event of a silence keeps the block under way, or resets the receiver. -/
theorem paso_abierto (coherente : receptor.Coherente) (cabe : receptor.available < 65536)
    {evento : Evento} (calla : evento = .sondeo ∨ evento = .tick) :
    evento = .sondeo ∧ receptor.Reinicia ∧ (receptor.paso procesado evento).abierto = [] ∨
      (receptor.paso procesado evento).abierto = receptor.abierto := by
  rcases calla with rfl | rfl
  · by_cases reinicia : receptor.Reinicia
    · left
      refine ⟨rfl, reinicia, ?_⟩
      have leido := reinicia.leido cabe
      simp only [Receptor.paso, procesoRecepcion_leido leido, reinicia.2.1, if_true,
        Receptor.abierto, leido, Receptor.pendiente, List.append_nil, enCurso, analiza_nil]
    · right
      have outcome_eq := (@procesoRecepcion_avanza procesado receptor coherente
        reinicia).outcome_unread []
      simp only [List.append_nil] at outcome_eq
      exact (congrArg Prod.snd outcome_eq :)
  · right
    simp only [Receptor.paso, Receptor.onTimer10ms]
    split <;> rfl

/-- The polls still needed, after an event of a silence. -/
theorem paso_lecturas (coherente : receptor.Coherente) (cabe : receptor.available < 65536)
    {evento : Evento} (calla : evento = .sondeo ∨ evento = .tick) :
    (receptor.paso procesado evento).lecturas = receptor.lecturas - [evento].count .sondeo := by
  rcases calla with rfl | rfl
  · rw [List.count_singleton_self]
    rcases Nat.eq_zero_or_pos receptor.lecturas with quieto | hay
    · have quieto' := (@procesoRecepcion_quieto procesado receptor cabe quieto).2.2
      rw [quieto]
      exact quieto'
    · have lecturas_eq := @procesoRecepcion_lecturas procesado receptor coherente cabe hay
      exact Nat.eq_sub_of_add_eq lecturas_eq
  · simp only [Receptor.paso, Receptor.onTimer10ms]
    split <;> rfl

/-- The automaton leaves the counter alone. -/
theorem automata_cntFinBloque (coherente : receptor.Coherente) :
    (receptor.automata procesado receptor.serialLocal.length).cntFinBloque =
      receptor.cntFinBloque := by
  unfold Receptor.automata
  split
  case h_1 =>
    unfold Receptor.esperandoHeader
    dsimp only
    split <;> simp
  case h_2 =>
    unfold Receptor.esperandoTipo
    split <;> simp
  case h_3 => simp [Receptor.esperandoLongitud]
  case h_4 estado =>
    rw [recibiendoBloque_eq le_rfl (coherente.longitud_pos estado) (coherente.longitud_le estado)]
    split <;> rfl

/-- A poll that finds bytes sets the counter. -/
theorem procesoRecepcion_cntFinBloque (coherente : receptor.Coherente)
    (cabe : receptor.available < 65536) (hay : receptor.serialLocal ≠ []) :
    (receptor.procesoRecepcion procesado).cntFinBloque = timeoutRxBloque := by
  have conPlazo : Receptor.Coherente { receptor with cntFinBloque := timeoutRxBloque } :=
    { coherente with cnt_le := le_rfl }
  rw [procesoRecepcion_eq cabe hay]
  exact automata_cntFinBloque conPlazo

theorem plazo_leido (leido : receptor.serialLocal = []) :
    receptor.plazo = receptor.cntFinBloque :=
  if_pos leido

theorem plazo_sinLeer (hay : receptor.serialLocal ≠ []) : receptor.plazo = timeoutRxBloque :=
  if_neg hay

/-- While bytes are left unread no time runs; then it runs tick by tick. -/
theorem paso_plazo (coherente : receptor.Coherente) (cabe : receptor.available < 65536)
    {evento : Evento} (calla : evento = .sondeo ∨ evento = .tick) :
    (receptor.paso procesado evento).plazo =
      if receptor.serialLocal = [] then receptor.plazo - [evento].count .tick
      else timeoutRxBloque := by
  by_cases leido : receptor.serialLocal = []
  · rw [if_pos leido, plazo_leido leido]
    rcases calla with rfl | rfl
    · simp only [Receptor.paso, procesoRecepcion_leido leido]
      split
      case isTrue cero => simp [plazo_leido, leido]
      case isFalse => simp [plazo_leido leido]
    · simp only [Receptor.paso, Receptor.onTimer10ms, List.count_singleton_self]
      split
      case isTrue => exact plazo_leido leido
      case isFalse cero =>
        rw [plazo_leido leido]
        omega
  · rw [if_neg leido]
    rcases calla with rfl | rfl
    · have cnt_eq := @procesoRecepcion_cntFinBloque procesado receptor coherente cabe leido
      by_cases leido' : (receptor.procesoRecepcion procesado).serialLocal = []
      · exact (plazo_leido leido').trans cnt_eq
      · exact plazo_sinLeer leido'
    · simp only [Receptor.paso, Receptor.onTimer10ms]
      split <;> exact plazo_sinLeer leido

/-! ## A whole silence -/

/-- What holds of the receiver throughout a silence. -/
structure Receptor.EnServicio (receptor : Receptor) : Prop where
  coherente : receptor.Coherente
  cabe : receptor.available < 65536

theorem Receptor.EnServicio.paso (servicio : receptor.EnServicio) {evento : Evento}
    (calla : evento = .sondeo ∨ evento = .tick) : (receptor.paso procesado evento).EnServicio where
  coherente := servicio.coherente.paso evento
  cabe :=
    Nat.lt_of_le_of_lt (paso_available_le servicio.coherente servicio.cabe calla) servicio.cabe

theorem silencio_cons {evento : Evento} {silencio : List Evento} :
    Silencio (evento :: silencio) ↔
      (evento = .sondeo ∨ evento = .tick) ∧ Silencio silencio :=
  List.forall_mem_cons

theorem silencio_append {primeros segundos : List Evento} :
    Silencio (primeros ++ segundos) ↔ Silencio primeros ∧ Silencio segundos :=
  List.forall_mem_append

/-- What every event of a silence preserves, the silence preserves. -/
theorem Silencio.preserva {silencio : List Evento} (calla : Silencio silencio)
    (servicio : receptor.EnServicio) (holds : Receptor → Prop) (base : holds receptor)
    (preserved : ∀ receptor evento, receptor.EnServicio → holds receptor →
      (evento = .sondeo ∨ evento = .tick) → holds (receptor.paso procesado evento)) :
    (receptor.correr procesado silencio).EnServicio ∧
      holds (receptor.correr procesado silencio) := by
  induction silencio generalizing receptor with
  | nil => exact ⟨servicio, base⟩
  | cons evento silencio ih =>
      obtain ⟨ahora, luego⟩ := silencio_cons.mp calla
      exact ih luego (servicio.paso ahora) (preserved _ _ servicio base ahora)

theorem Silencio.servicio {silencio : List Evento} (calla : Silencio silencio)
    (servicio : receptor.EnServicio) : (receptor.correr procesado silencio).EnServicio :=
  (calla.preserva servicio (fun _ => True) trivial fun _ _ _ _ _ => trivial).1

theorem correr_append (primeros segundos : List Evento) :
    receptor.correr procesado (primeros ++ segundos) =
      (receptor.correr procesado primeros).correr procesado segundos :=
  List.foldl_append

/-- A receiver with no block under way stays so. -/
theorem Silencio.abierto_nil {silencio : List Evento} (calla : Silencio silencio)
    (servicio : receptor.EnServicio) (ninguno : receptor.abierto = []) :
    (receptor.correr procesado silencio).abierto = [] := by
  refine (calla.preserva servicio (fun receptor => receptor.abierto = []) ninguno ?_).2
  intro receptor evento servicio ninguno ahora
  rcases paso_abierto servicio.coherente servicio.cabe ahora with ⟨-, -, nil⟩ | igual
  · exact nil
  · exact igual.trans ninguno

/-- A silence leaves no block under way, or the one there was. -/
theorem Silencio.abierto_igual {silencio : List Evento} (calla : Silencio silencio)
    (servicio : receptor.EnServicio) :
    (receptor.correr procesado silencio).abierto = [] ∨
      (receptor.correr procesado silencio).abierto = receptor.abierto := by
  refine (calla.preserva servicio
    (fun otro => otro.abierto = [] ∨ otro.abierto = receptor.abierto) (.inr rfl) ?_).2
  intro otro evento servicio antes ahora
  rcases paso_abierto servicio.coherente servicio.cabe ahora with ⟨-, -, nil⟩ | igual
  · exact .inl nil
  · rwa [igual]

/-- The polls of a silence are those taken off the ones needed. -/
theorem Silencio.lecturas {silencio : List Evento} (calla : Silencio silencio)
    (servicio : receptor.EnServicio) :
    (receptor.correr procesado silencio).lecturas =
      receptor.lecturas - silencio.count .sondeo := by
  induction silencio generalizing receptor with
  | nil => rfl
  | cons evento silencio ih =>
      obtain ⟨ahora, luego⟩ := silencio_cons.mp calla
      have siguen := @ih (receptor.paso procesado evento) luego (servicio.paso ahora)
      rw [paso_lecturas servicio.coherente servicio.cabe ahora] at siguen
      rw [← List.singleton_append, List.count_append, ← Nat.sub_sub]
      exact siguen

theorem Silencio.plazo_le {silencio : List Evento} (calla : Silencio silencio)
    (servicio : receptor.EnServicio) :
    (receptor.correr procesado silencio).plazo ≤ receptor.plazo := by
  refine (calla.preserva servicio (fun otro => otro.plazo ≤ receptor.plazo) le_rfl ?_).2
  intro otro evento servicio antes ahora
  rw [paso_plazo servicio.coherente servicio.cabe ahora]
  split
  case isTrue leido => omega
  case isFalse hay =>
    rwa [plazo_sinLeer hay] at antes

/-- With everything read, the ticks of a silence are those taken off the
counter. -/
theorem Silencio.plazo_leido {silencio : List Evento} (calla : Silencio silencio)
    (servicio : receptor.EnServicio) (leido : receptor.serialLocal = []) :
    (receptor.correr procesado silencio).serialLocal = [] ∧
      (receptor.correr procesado silencio).plazo =
        receptor.plazo - silencio.count .tick := by
  induction silencio generalizing receptor with
  | nil => exact ⟨leido, rfl⟩
  | cons evento silencio ih =>
      obtain ⟨ahora, luego⟩ := silencio_cons.mp calla
      have available_le := @paso_available_le procesado receptor servicio.coherente servicio.cabe
        evento ahora
      have leido' : (receptor.paso procesado evento).serialLocal = [] := by
        apply List.eq_nil_of_length_eq_zero
        simp only [Receptor.available, leido, List.length_nil] at available_le
        omega
      have siguen := @ih (receptor.paso procesado evento) luego (servicio.paso ahora) leido'
      rw [paso_plazo servicio.coherente servicio.cabe ahora, if_pos leido] at siguen
      rw [← List.singleton_append, List.count_append, ← Nat.sub_sub]
      exact siguen

/-- Where nothing can be read and the block under way has not two bytes, all has
been read. -/
theorem leido_of_lecturas (quieto : receptor.lecturas = 0)
    (noDos : receptor.abierto.length ≠ 2) : receptor.serialLocal = [] := by
  rcases lecturas_eq_zero.mp quieto with vacio | ⟨estado, octeto, uno⟩
  · exact vacio
  · have none_eq : leeBloque [octeto] = none := rfl
    rw [Receptor.abierto, uno, Receptor.pendiente, estado] at noDos
    rw [enCurso, List.singleton_append, analiza_incompleto none_eq] at noDos
    exact absurd rfl noDos

/-- A poll that finds all read and the counter at zero leaves no block under
way. -/
theorem sondeo_abierto_nil (leido : receptor.serialLocal = []) (cero : receptor.cntFinBloque = 0) :
    (receptor.paso procesado .sondeo).abierto = [] := by
  simp only [Receptor.paso, procesoRecepcion_leido leido, cero, if_true, Receptor.abierto, leido,
    Receptor.pendiente, List.append_nil, enCurso, analiza_nil]

/-- The condition is enough. -/
theorem Resincroniza.abierto_nil {silencio : List Evento}
    (resincroniza : Resincroniza receptor silencio) (calla : Silencio silencio)
    (servicio : receptor.EnServicio) : (receptor.correr procesado silencio).abierto = [] := by
  rcases resincroniza with ninguno | ⟨noDos, lee, espera, resto, rfl, bastan, vence⟩
  · exact calla.abierto_nil servicio ninguno
  · rw [silencio_append, silencio_append, silencio_cons] at calla
    obtain ⟨⟨callaLee, callaEspera⟩, -, callaResto⟩ := calla
    rw [correr_append, correr_append]
    -- the three stretches: reading out, waiting, and the poll that resets
    have servicio₁ : (receptor.correr procesado lee).EnServicio := callaLee.servicio servicio
    have servicio₂ : ((receptor.correr procesado lee).correr procesado espera).EnServicio :=
      callaEspera.servicio servicio₁
    refine callaResto.abierto_nil (servicio₂.paso (.inl rfl)) ?_
    rcases @Silencio.abierto_igual procesado receptor lee callaLee servicio with ninguno | igual
    · have ninguno₂ := @Silencio.abierto_nil procesado _ espera callaEspera servicio₁ ninguno
      exact @Silencio.abierto_nil procesado _ [.sondeo] (by decide) servicio₂ ninguno₂
    · have lecturas_eq := @Silencio.lecturas procesado receptor lee callaLee servicio
      have plazo_le := @Silencio.plazo_le procesado receptor lee callaLee servicio
      have leido₁ : (receptor.correr procesado lee).serialLocal = [] :=
        leido_of_lecturas (by omega) (by rwa [igual])
      obtain ⟨leido₂, plazo_eq⟩ :=
        @Silencio.plazo_leido procesado _ espera callaEspera servicio₁ leido₁
      have cero : ((receptor.correr procesado lee).correr procesado espera).cntFinBloque = 0 := by
        rw [← plazo_leido leido₂, plazo_eq]
        omega
      exact sondeo_abierto_nil leido₂ cero

/-- The condition is needed: a block cut short that a silence gives up had been
waited for. -/
theorem resincroniza_of_abierto_nil {silencio : List Evento} (calla : Silencio silencio)
    (servicio : receptor.EnServicio)
    (nil : (receptor.correr procesado silencio).abierto = []) : Resincroniza receptor silencio := by
  induction silencio generalizing receptor with
  | nil => exact .inl nil
  | cons evento silencio ih =>
      obtain ⟨ahora, luego⟩ := silencio_cons.mp calla
      rcases @paso_abierto procesado receptor servicio.coherente servicio.cabe evento ahora with
        ⟨rfl, reinicia, -⟩ | igual
      · have leido := reinicia.leido servicio.cabe
        by_cases ninguno : receptor.abierto = []
        · exact .inl ninguno
        · refine .inr ⟨?_, [], [], silencio, rfl, ?_, ?_⟩
          · rw [servicio.coherente.abierto_leido leido]
            exact length_pendiente_ne_two
          · rw [lecturas_eq_zero.mpr (.inl leido)]
            exact Nat.zero_le _
          · rw [plazo_leido leido, reinicia.2.1]
            exact Nat.zero_le _
      · have lecturas_eq := @paso_lecturas procesado receptor servicio.coherente servicio.cabe
          evento ahora
        have plazo_eq := @paso_plazo procesado receptor servicio.coherente servicio.cabe evento
          ahora
        rcases @ih (receptor.paso procesado evento) luego (servicio.paso ahora) nil with
          ninguno | ⟨noDos, lee, espera, resto, rfl, bastan, vence⟩
        · exact .inl (igual.symm.trans ninguno)
        · refine .inr ⟨by rwa [← igual], ?_⟩
          by_cases leido : receptor.serialLocal = []
          · -- nothing to read: the time runs from here on
            rw [if_pos leido] at plazo_eq
            refine ⟨[], evento :: (lee ++ espera), resto, by simp, ?_, ?_⟩
            · rw [lecturas_eq_zero.mpr (.inl leido)]
              exact Nat.zero_le _
            · rw [← List.singleton_append, List.count_append, List.count_append]
              omega
          · rw [if_neg leido] at plazo_eq
            refine ⟨evento :: lee, espera, resto, by simp, ?_, ?_⟩
            · rw [← List.singleton_append, List.count_append]
              omega
            · rw [plazo_sinLeer leido]
              omega

/-! ## The next block -/

/-- An event of the arrival of a block: no silence resets the receiver, and what
is unread can be counted. -/
def Llega (procesado : Nat → Nat → (Nat → UInt8) → Nat → UInt8) (receptor : Receptor)
    (evento : Evento) : Prop :=
  SinReinicio receptor evento ∧ Cabe procesado receptor evento

instance (procesado : Nat → Nat → (Nat → UInt8) → Nat → UInt8) (receptor : Receptor)
    (evento : Evento) : Decidable (Llega procesado receptor evento) :=
  inferInstanceAs (Decidable (_ ∧ _))

/-- However a block arrives, the calls made of what was unread are followed by
one with the type and the data of the block. -/
def Receptor.Atendido (procesado : Nat → Nat → (Nat → UInt8) → Nat → UInt8) (receptor : Receptor)
    (bloque : Bloque) : Prop :=
  ∀ entrega, llegados entrega = bloque.trama →
    Along (Llega procesado) (Receptor.paso procesado) entrega receptor →
    ∃ llamada,
      ((receptor.correr procesado entrega).vaciado procesado).llamadas =
          (receptor.vaciado procesado).llamadas ++ [llamada] ∧
        llamada.tipoBloque = bloque.tipo ∧ Begins llamada.bufferRxLocal bloque.datos

theorem llamadasTras_append (antes : List Llamada × (Nat → UInt8))
    (primeros segundos : List Bloque) :
    llamadasTras procesado antes (primeros ++ segundos) =
      llamadasTras procesado (primeros.foldl (atiende procesado) antes) segundos := by
  rw [llamadasTras, llamadasTras, List.foldl_append]

/-- Each block makes one call. -/
theorem length_llamadasTras (antes : List Llamada × (Nat → UInt8)) (bloques : List Bloque) :
    (llamadasTras procesado antes bloques).length = antes.1.length + bloques.length := by
  induction bloques generalizing antes with
  | nil => rfl
  | cons bloque bloques ih =>
      have siguen := ih (atiende procesado antes bloque)
      simp only [atiende, List.length_append, List.length_singleton] at siguen
      rw [List.length_cons, ← Nat.add_assoc, Nat.add_right_comm]
      exact siguen

/-- The calls made of what was unread and of what arrives behind it. -/
theorem llamadas_entrega (servicio : receptor.EnServicio) {entrega : List Evento}
    (llega : Along (Llega procesado) (Receptor.paso procesado) entrega receptor) :
    ((receptor.correr procesado entrega).vaciado procesado).llamadas =
      llamadasTras procesado
        ((bloques (receptor.pendiente ++ receptor.serialLocal)).foldl (atiende procesado)
          (receptor.llamadas, receptor.bufferRxLocal))
        (bloques (receptor.abierto ++ llegados entrega)) := by
  obtain ⟨avanza, coherente⟩ :=
    correr_avanza servicio.coherente (llega.imp fun _ _ guard => guard.1)
  have cabe : (receptor.correr procesado entrega).available < 65536 :=
    llega.invariant (fun receptor => receptor.available < 65536) servicio.cabe
      fun _ _ _ guard => guard.2
  have outcome_eq := congrArg Prod.fst (avanza.outcome_unread [])
  simp only [List.append_nil] at outcome_eq
  rw [vaciado_llamadas coherente cabe]
  refine outcome_eq.trans ?_
  rw [Receptor.abierto, ← llamadasTras_append, ← bloques_append, List.append_assoc]
  rfl

theorem llamadas_sinEntrega (servicio : receptor.EnServicio) :
    (receptor.vaciado procesado).llamadas =
      ((bloques (receptor.pendiente ++ receptor.serialLocal)).foldl (atiende procesado)
        (receptor.llamadas, receptor.bufferRxLocal)).1 :=
  vaciado_llamadas servicio.coherente servicio.cabe

/-- With no block under way, every block is dispatched. -/
theorem atendido_of_abierto_nil (servicio : receptor.EnServicio) (ninguno : receptor.abierto = [])
    {bloque : Bloque} (transmisible : bloque.Transmisible) :
    receptor.Atendido procesado bloque := by
  intro entrega llegados_eq llega
  have trama_eq : bloques bloque.trama = [bloque] := by
    have analiza_eq := transmisible.analiza_trama []
    rw [List.append_nil] at analiza_eq
    rw [bloques, analiza_eq, bloques, analiza_nil]
  let antes := (bloques (receptor.pendiente ++ receptor.serialLocal)).foldl (atiende procesado)
    (receptor.llamadas, receptor.bufferRxLocal)
  refine ⟨⟨bloque.tipo, write 0 bloque.datos antes.2⟩, ?_, rfl, begins_write_zero _ _⟩
  rw [llamadas_entrega servicio llega, llegados_eq, ninguno, List.nil_append, trama_eq,
    llamadas_sinEntrega servicio]
  rfl

/-- The first block read off the line has the type behind the first header. -/
theorem tipo_bloques {alto bajo : UInt8} {octetos : List UInt8} {bloque : Bloque}
    {otros : List Bloque}
    (bloques_eq : bloques (headerRx :: alto :: bajo :: octetos) = bloque :: otros) :
    bloque.tipo = palabra alto bajo := by
  rcases leido_eq : leeBloque (alto :: bajo :: octetos) with _ | leido
  · rw [bloques, analiza_incompleto leido_eq] at bloques_eq
    cases bloques_eq
  · rw [bloques, analiza_bloque leido_eq] at bloques_eq
    cases bloques_eq
    rcases octetos with _ | ⟨largo, datos⟩
    · cases leido_eq
    · rw [leeBloque] at leido_eq
      split at leido_eq
      · cases leido_eq
        rfl
      · cases leido_eq

/-- Behind a header that is under way, some block makes no call of its own: the
first type read is another. -/
theorem exists_tragado (cola : List UInt8) :
    ∃ tipo, tipo < 65536 ∧ ∀ bloque,
      bloques (headerRx :: cola ++ (Bloque.mk tipo [0]).trama) = [bloque] → bloque.tipo ≠ tipo := by
  rcases cola with _ | ⟨alto, _ | ⟨bajo, resto⟩⟩
  · refine ⟨0, by decide, fun bloque eq => ?_⟩
    rw [tipo_bloques eq]
    decide
  · refine ⟨0, by decide, fun bloque eq => ?_⟩
    rw [tipo_bloques eq, palabra]
    exact Nat.succ_ne_zero _
  · by_cases cero : palabra alto bajo = 0
    · refine ⟨1, by decide, fun bloque eq => ?_⟩
      rw [tipo_bloques eq, cero]
      decide
    · refine ⟨0, by decide, fun bloque eq => ?_⟩
      rwa [tipo_bloques eq]

/-- Polls read out what can be read, before a block arrives. -/
theorem exists_sondeos (servicio : receptor.EnServicio) :
    ∃ sondeos, Along (Llega procesado) (Receptor.paso procesado)
        (List.replicate sondeos .sondeo) receptor ∧
      (receptor.correr procesado (List.replicate sondeos .sondeo)).EnServicio ∧
      (receptor.correr procesado (List.replicate sondeos .sondeo)).lecturas = 0 := by
  generalize quedan : receptor.lecturas = lecturas
  induction lecturas generalizing receptor with
  | zero => exact ⟨0, trivial, servicio, quedan⟩
  | succ lecturas ih =>
      have lecturas_eq := @procesoRecepcion_lecturas procesado receptor servicio.coherente
        servicio.cabe (by omega)
      have sigue : ¬ receptor.Reinicia := by
        intro reinicia
        have quieto := lecturas_eq_zero.mpr (.inl (reinicia.leido servicio.cabe))
        omega
      have servicio' : (receptor.paso procesado .sondeo).EnServicio := servicio.paso (.inl rfl)
      obtain ⟨sondeos, llega, enServicio, quieto⟩ :=
        @ih (receptor.paso procesado .sondeo) servicio' (by
          show (receptor.procesoRecepcion procesado).lecturas = lecturas
          omega)
      exact ⟨sondeos + 1, ⟨⟨fun _ => sigue, servicio'.cabe⟩, llega⟩, enServicio, quieto⟩

theorem available_le_one (quieto : receptor.lecturas = 0) : receptor.available ≤ 1 := by
  rcases lecturas_eq_zero.mp quieto with vacio | ⟨-, octeto, uno⟩
  · simp [Receptor.available, vacio]
  · simp [Receptor.available, uno]

/-- With a block under way, some block is not dispatched. -/
theorem exists_noAtendido (servicio : receptor.EnServicio) (hay : receptor.abierto ≠ []) :
    ∃ bloque : Bloque, bloque.Transmisible ∧ ¬ receptor.Atendido procesado bloque := by
  rcases enCurso_incompleto (receptor.pendiente ++ receptor.serialLocal) with
    nil | ⟨cola, abierto_eq, -⟩
  · exact absurd nil hay
  · obtain ⟨tipo, tipo_lt, tragado⟩ := exists_tragado cola
    let bloque : Bloque := ⟨tipo, [0]⟩
    refine ⟨bloque, ⟨tipo_lt, Nat.one_pos, (by decide : 1 ≤ 256)⟩, fun atendido => ?_⟩
    obtain ⟨sondeos, llega, enServicio, quieto⟩ := @exists_sondeos procesado receptor servicio
    let entrega : List Evento := List.replicate sondeos .sondeo ++ [.llegan bloque.trama]
    have llega' : Along (Llega procesado) (Receptor.paso procesado) entrega receptor := by
      have uno := available_le_one quieto
      refine along_append.mpr ⟨llega, ⟨nofun, ?_⟩, trivial⟩
      simp only [Cabe, Receptor.paso, Receptor.available, List.length_append]
      exact Nat.lt_of_le_of_lt (Nat.add_le_add_right uno 5) (by decide)
    have llegados_eq : llegados entrega = bloque.trama := by
      simp [llegados, entrega, List.flatMap_append, Evento.octetos]
    obtain ⟨llamada, llamadas_eq, tipo_eq, -⟩ := atendido entrega llegados_eq llega'
    rw [llamadas_entrega servicio llega', llamadas_sinEntrega servicio, llegados_eq,
      Receptor.abierto, abierto_eq] at llamadas_eq
    -- one call more: one block, and its type is that of the call
    have length_eq := congrArg List.length llamadas_eq
    rw [length_llamadasTras, List.length_append, List.length_singleton] at length_eq
    obtain ⟨otro, otro_eq⟩ := List.length_eq_one_iff.mp (Nat.add_left_cancel length_eq)
    rw [otro_eq] at llamadas_eq
    have llamada_eq := List.append_cancel_left llamadas_eq
    cases llamada_eq
    exact tragado otro otro_eq tipo_eq

/-! ## Resynchronisation -/

/-- For the receiver at any moment of any run, and any silence that follows: the
next block, whatever it is, is dispatched if and only if the silence has left no
block under way. -/
theorem resincroniza_iff (procesado : Nat → Nat → (Nat → UInt8) → Nat → UInt8)
    (buffer : Nat → UInt8) (byte : UInt8) (previos silencio : List Evento)
    (cabe : Along (Cabe procesado) (Receptor.paso procesado) previos
      (Receptor.inicial buffer byte))
    (calla : Silencio silencio) :
    (∀ bloque : Bloque, bloque.Transmisible →
        (((Receptor.inicial buffer byte).correr procesado previos).correr procesado
          silencio).Atendido procesado bloque) ↔
      Resincroniza ((Receptor.inicial buffer byte).correr procesado previos) silencio := by
  have servicio : ((Receptor.inicial buffer byte).correr procesado previos).EnServicio :=
    cabe.invariant Receptor.EnServicio
      ⟨coherente_inicial buffer byte, (by decide : 0 < 65536)⟩
      fun receptor evento servicio cabe => ⟨servicio.coherente.paso evento, cabe⟩
  have servicio' : (((Receptor.inicial buffer byte).correr procesado previos).correr procesado
      silencio).EnServicio := calla.servicio servicio
  constructor
  · intro atendido
    refine @resincroniza_of_abierto_nil procesado _ _ calla servicio ?_
    by_contra hay
    obtain ⟨bloque, transmisible, noAtendido⟩ := exists_noAtendido servicio' hay
    exact noAtendido (atendido bloque transmisible)
  · intro resincroniza bloque transmisible
    exact atendido_of_abierto_nil servicio' (resincroniza.abierto_nil calla servicio) transmisible

/-- A silence of eleven ticks, a poll after each. -/
def onceTicks : List Evento :=
  (List.replicate 11 [.tick, .sondeo]).flatten

/-- A lone header that has been read. -/
def cabeceraSola : List Evento :=
  [.llegan [58], .sondeo]

/-- A lone header and one byte behind it, which is not read. -/
def cabeceraYOcteto : List Evento :=
  [.llegan [58, 7], .sondeo]

theorem resincroniza_iff_cabeceraSola :
    (∀ bloque : Bloque, bloque.Transmisible →
        (((Receptor.inicial (fun _ => 0) 0).correr (fun _ _ buffer => buffer)
          cabeceraSola).correr (fun _ _ buffer => buffer) onceTicks).Atendido
            (fun _ _ buffer => buffer) bloque) ↔
      Resincroniza ((Receptor.inicial (fun _ => 0) 0).correr (fun _ _ buffer => buffer)
        cabeceraSola) onceTicks :=
  resincroniza_iff (fun _ _ buffer => buffer) (fun _ => 0) 0 cabeceraSola onceTicks
    (by decide) (by decide)

/-- After the header and one byte no silence brings the receiver back: the next
block, of type 0 and one byte, makes no call. -/
theorem cabeceraYOcteto_pierde :
    timeoutRxBloque < onceTicks.count .tick ∧ Silencio onceTicks ∧
      (Bloque.mk 0 [0]).Transmisible ∧
      ¬ (((Receptor.inicial (fun _ => 0) 0).correr (fun _ _ buffer => buffer)
          cabeceraYOcteto).correr (fun _ _ buffer => buffer) onceTicks).Atendido
            (fun _ _ buffer => buffer) ⟨0, [0]⟩ := by
  refine ⟨by decide, by decide, ⟨by decide, by decide, by decide⟩, fun atendido => ?_⟩
  obtain ⟨llamada, llamadas_eq, -⟩ :=
    atendido [.llegan (Bloque.mk 0 [0]).trama] rfl (by decide)
  have length_eq := congrArg List.length llamadas_eq
  rw [List.length_append, List.length_singleton] at length_eq
  exact absurd length_eq (by decide)

end VeltiumCharger.Uart
