import VeltiumCharger.Bloques.Procesar

/-!
# The bytes that a block is read from

A case of `procesar_bloque` reads the bytes below a bound of its own, whatever the length
of the block: behind the block they are those of earlier ones.
-/

namespace VeltiumCharger.Bloques

open VeltiumCharger.Group VeltiumCharger.Loop VeltiumCharger.Buffer

/-- The number of bytes that a case reads. -/
def TipoBloque.alcance : TipoBloque → Nat
  | inicializacion => 245
  | status => 59
  | dateTime => 30
  | scheduleMatrix => 168
  | energyRecord => 256
  | lanIp => 12
  | recLast => 2
  | recLaps => 2
  | autenticationModes => 2
  | potenciaContratadaP1 => 2
  | potenciaContratadaP2 => 2
  | fwUpdatemode => 2
  | instalationCurrentLimit => 1
  | currentCommand => 1
  | bleManualStart => 1
  | bleManualStop => 1
  | userIndex => 1
  | searchExternalMeter => 1
  | errorCode => 1
  | dpcMode => 1
  | wifiOn => 1
  | ethOn => 1
  | ethAuto => 1
  | publica len _ => len
  | reset => 0
  | loadSwApp => 0
  | bloqueoCarga => 0
  | clearFlashSpace => 0
  | otro => 0

/-- The first `k` bytes are the same. -/
def Concuerdan (k : Nat) (buffer otro : Recibido) : Prop :=
  ∀ i, i < k → buffer i = otro i

section Concuerdan

variable {k : Nat} {buffer otro : Recibido} (igual : Concuerdan k buffer otro)

include igual

theorem Concuerdan.mono {j : Nat} (le : j ≤ k) : Concuerdan j buffer otro :=
  fun i below => igual i (Nat.lt_of_lt_of_le below le)

theorem Concuerdan.bytes {desde len : Nat} (le : desde + len ≤ k) :
    bytes buffer desde len = bytes otro desde len :=
  List.map_congr_left fun j inside => igual _ (by have := List.mem_range.mp inside; omega)

theorem Concuerdan.palabra {i : Nat} (below : i + 1 < k) :
    palabra buffer i = palabra otro i := by
  unfold Bloques.palabra
  rw [igual i (Nat.lt_of_succ_lt below), igual (i + 1) below]

theorem Concuerdan.modo {i : Nat} (below : i + 1 < k) : Modo.de buffer i = Modo.de otro i := by
  unfold Modo.de
  rw [igual i (Nat.lt_of_succ_lt below), igual (i + 1) below]

theorem Concuerdan.write (i : Nat) (cells : List UInt8) :
    Concuerdan k (write i cells buffer) (write i cells otro) := by
  intro j below
  unfold Buffer.write
  rw [igual j below]

end Concuerdan

namespace Control

section Congruencia

variable {buffer otro : Recibido} {s : Control}

theorem inicioDatos_congr (igual : Concuerdan 245 buffer otro) :
    s.inicioDatos buffer = s.inicioDatos otro := by
  unfold inicioDatos
  simp (disch := decide) only [igual _, igual.bytes, igual.palabra]

theorem inicioParams_congr (igual : Concuerdan 245 buffer otro) :
    s.inicioParams buffer = s.inicioParams otro := by
  unfold inicioParams inicioValores inicioSensor inicioTipoSensor inicioComs
  simp (disch := decide) only [igual _, igual.bytes, igual.palabra, igual.modo]

/-- The choice of the mode is the same, and the buffers still agree. -/
theorem modoAutenticacion_congr {k i : Nat} (igual : Concuerdan k buffer otro)
    (below : i + 1 < k) :
    (s.modoAutenticacion buffer i).1 = (s.modoAutenticacion otro i).1 ∧
      Concuerdan k (s.modoAutenticacion buffer i).2.1 (s.modoAutenticacion otro i).2.1 ∧
      (s.modoAutenticacion buffer i).2.2 = (s.modoAutenticacion otro i).2.2 := by
  unfold modoAutenticacion
  rw [igual.modo below]
  split_ifs
  · exact ⟨rfl, igual.write i _, rfl⟩
  · refine ⟨rfl, igual.write i _, ?_⟩
    dsimp only
    rw [(igual.write i (Modo.ofText 'W' 'A').bytes).bytes (by omega : i + 2 ≤ k)]
  · exact ⟨rfl, igual, rfl⟩

theorem casoInicializacion_congr (igual : Concuerdan 245 buffer otro) :
    (s.casoInicializacion buffer).1 = (s.casoInicializacion otro).1 := by
  unfold casoInicializacion
  rw [igual 239 (by decide), igual 238 (by decide), inicioDatos_congr igual]
  split_ifs
  · obtain ⟨sigue, trasModo, mismo⟩ :=
      (s.inicioDatos otro).modoAutenticacion_congr igual (by decide : 212 + 1 < 245)
    dsimp only
    rw [sigue, mismo, inicioParams_congr trasModo]
    split_ifs <;> rfl
  · rfl

theorem statusMedidas_congr (igual : Concuerdan 59 buffer otro) :
    s.statusMedidas buffer = s.statusMedidas otro := by
  have energia_eq : ∀ i, i + 3 < 59 → energia buffer i = energia otro i := by
    intro i below
    unfold energia
    rw [igual i (by omega), igual (i + 1) (by omega), igual (i + 2) (by omega), igual (i + 3) below]
  have entero_eq : ∀ i, i + 3 < 59 → entero buffer i = entero otro i := by
    intro i below
    unfold entero
    rw [igual i (by omega), igual (i + 1) (by omega), igual (i + 2) (by omega), igual (i + 3) below]
  have fase_eq : ∀ i, i + 9 < 59 → fase buffer i = fase otro i := by
    intro i below
    unfold fase
    rw [igual.palabra (by omega), igual.palabra (by omega), igual.palabra (by omega),
      energia_eq (i + 6) (by omega)]
  unfold statusMedidas
  simp -zeta (disch := decide) only
    [igual _, igual.palabra, igual.modo, energia_eq, entero_eq, fase_eq]

theorem casoStatus_congr (igual : Concuerdan 59 buffer otro) :
    s.casoStatus buffer = s.casoStatus otro := by
  have protecciones : ∀ t : Control, t.statusProtecciones buffer = t.statusProtecciones otro := by
    intro t
    unfold statusProtecciones
    simp (disch := decide) only [igual _, igual.bytes, igual.palabra]
  have corriente : ∀ t : Control, t.statusCorriente buffer = t.statusCorriente otro := by
    intro t
    unfold statusCorriente
    rw [igual.bytes (by decide), igual.bytes (by decide), igual.bytes (by decide)]
  have publica : ∀ t : Control, t.statusPublica buffer = t.statusPublica otro := by
    intro t
    unfold statusPublica
    simp (disch := decide) only [igual.bytes]
  unfold casoStatus statusAceptado
  dsimp only
  rw [igual 45 (by decide), igual.modo (by decide), igual.bytes (by decide), protecciones,
    corriente, publica, statusMedidas_congr igual]

theorem casoDateTime_congr (igual : Concuerdan 30 buffer otro) :
    s.casoDateTime buffer = s.casoDateTime otro := by
  unfold casoDateTime convertToEpoch
  simp (disch := decide) only [igual _, igual.bytes]

theorem casoScheduleMatrix_congr (igual : Concuerdan 168 buffer otro) :
    s.casoScheduleMatrix buffer = s.casoScheduleMatrix otro := by
  have ack : ((List.range 168).all fun i => s.globalScheduleBuffer i == buffer i) =
      (List.range 168).all fun i => s.globalScheduleBuffer i == otro i := by
    rw [Bool.eq_iff_iff, List.all_eq_true, List.all_eq_true]
    refine forall₂_congr fun i inside => ?_
    rw [igual i (List.mem_range.mp inside)]
  unfold casoScheduleMatrix
  rw [ack, igual.bytes (by decide)]

theorem leerMuestra_congr (igual : Concuerdan 256 buffer otro) :
    leerMuestra buffer = leerMuestra otro := by
  funext ronda l
  unfold leerMuestra
  dsimp only
  by_cases below : l.j < 252
  · rw [if_pos below, if_pos below, igual l.j (by omega), igual (l.j + 1) (by omega)]
  · rw [if_neg below, if_neg below]

theorem casoEnergyRecord_congr (igual : Concuerdan 256 buffer otro) :
    s.casoEnergyRecord buffer = s.casoEnergyRecord otro := by
  unfold casoEnergyRecord leerRegistro
  rw [leerMuestra_congr igual, igual.bytes (by decide), igual.bytes (by decide)]

theorem casoAutenticationModes_congr (igual : Concuerdan 2 buffer otro) :
    (s.casoAutenticationModes buffer).1 = (s.casoAutenticationModes otro).1 := by
  obtain ⟨sigue, trasModo, mismo⟩ :=
    s.modoAutenticacion_congr igual (by decide : 0 + 1 < 2)
  unfold casoAutenticationModes
  dsimp only
  rw [sigue, mismo]
  split_ifs
  · dsimp only
    rw [trasModo.bytes (by decide), trasModo.modo (by decide)]
  · rfl

/-- A case depends on the bytes below its bound only. -/
theorem procesarCaso_congr {tipo : TipoBloque} (igual : Concuerdan tipo.alcance buffer otro) :
    (s.procesarCaso buffer tipo).1 = (s.procesarCaso otro tipo).1 := by
  cases tipo with
  | inicializacion => exact casoInicializacion_congr igual
  | status => exact casoStatus_congr igual
  | dateTime => exact casoDateTime_congr igual
  | scheduleMatrix => exact casoScheduleMatrix_congr igual
  | energyRecord => exact casoEnergyRecord_congr igual
  | autenticationModes => exact casoAutenticationModes_congr igual
  | publica len attrHandle =>
      dsimp only [procesarCaso]
      rw [igual.bytes (Nat.le_of_eq (Nat.zero_add len))]
  | lanIp =>
      dsimp only [procesarCaso, casoLanIp]
      simp (disch := decide) only [igual _]
  | recLast =>
      dsimp only [procesarCaso, casoRecLast]
      simp (disch := decide) only [igual.bytes, igual.palabra]
  | recLaps =>
      dsimp only [procesarCaso, casoRecLaps]
      simp (disch := decide) only [igual.bytes, igual.palabra]
  | potenciaContratadaP1 =>
      dsimp only [procesarCaso]
      simp (disch := decide) only [igual.bytes, igual.palabra]
  | potenciaContratadaP2 =>
      dsimp only [procesarCaso]
      simp (disch := decide) only [igual.bytes, igual.palabra]
  | fwUpdatemode =>
      dsimp only [procesarCaso]
      rw [igual.modo (by decide)]
  | ethAuto =>
      dsimp only [procesarCaso]
      rw [igual 0 (by decide)]
  | searchExternalMeter =>
      change s.casoSearchExternalMeter buffer = s.casoSearchExternalMeter otro
      unfold casoSearchExternalMeter
      rw [igual 0 (by decide)]
  | ethOn =>
      change s.casoEthOn buffer = s.casoEthOn otro
      unfold casoEthOn
      rw [igual 0 (by decide), igual.bytes (by decide)]
  | dpcMode =>
      change s.casoDpcMode buffer = s.casoDpcMode otro
      unfold casoDpcMode
      rw [igual 0 (by decide), igual.bytes (by decide)]
  | instalationCurrentLimit | currentCommand | userIndex | errorCode | wifiOn =>
      dsimp only [procesarCaso]
      rw [igual 0 (by decide), igual.bytes (by decide)]
  | bleManualStart | bleManualStop =>
      dsimp only [procesarCaso]
      rw [igual.bytes (by decide)]
  | reset | loadSwApp | bloqueoCarga | clearFlashSpace | otro => rfl

end Congruencia

/-! ## Blocks and what is behind them -/

/-- The buffer once a block has been received over what it held. -/
def recibido (bloque : List UInt8) (resto : Recibido) : Recibido :=
  write 0 bloque resto

/-- The effect does not depend on the bytes behind the block, and a block that is shorter
than what its case reads has none. -/
def EfectoPropio (s : Control) (tipoBloque : UInt16) (bloque : List UInt8) : Prop :=
  (∀ resto otro, (s.procesarBloque (recibido bloque resto) tipoBloque).1 =
      (s.procesarBloque (recibido bloque otro) tipoBloque).1) ∧
    (bloque.length < (TipoBloque.de tipoBloque).alcance → ∀ resto,
      (s.procesarBloque (recibido bloque resto) tipoBloque).1 = s)

/-- The bytes that the block has of the two at `i` are those of `modo`. -/
def Compatible (bloque : List UInt8) (i : Nat) (modo : Modo) : Prop :=
  (∀ byte, bloque[i]? = some byte → byte = modo.c0) ∧
    ∀ byte, bloque[i + 1]? = some byte → byte = modo.c1

/-- A block that has no effect, whatever is behind it. -/
def Inerte (s : Control) (bloque : List UInt8) : TipoBloque → Prop
  | .inicializacion => s.systemStarted = true ∨
      240 ≤ bloque.length ∧ bloque[238]? ≠ some 0x36 ∧ bloque[239]? ≠ some 0x36
  | .status => s.systemStarted = false ∨ (46 ≤ bloque.length ∧ bloque[45]? ≠ some 0x36) ∨
      ∀ estado ∈ hptEstados, ¬ Compatible bloque 1 estado
  | .autenticationModes =>
      -- the default mode would be sent, and is not during an update
      s.updateTaskrunning = true ∧ s.configuracion.autenticationMode.valido = true ∧
        ∀ modo : Modo, modo.valido = true → ¬ Compatible bloque 0 modo
  | _ => False

section Recibido

variable {bloque : List UInt8} {resto : Recibido} {i : Nat}

theorem recibido_of_lt (below : i < bloque.length) :
    bloque[i]? = some (recibido bloque resto i) := by
  have cell := @write_inside _ 0 bloque resto i below
  rwa [Nat.zero_add] at cell

theorem recibido_of_ge (behind : bloque.length ≤ i) : recibido bloque resto i = resto i :=
  write_of_ge (by omega)

/-- A byte of the block, or what the rest has there. -/
theorem recibido_eq_of_some {byte : UInt8} (here : bloque[i]? = some byte) :
    recibido bloque resto i = byte := by
  obtain ⟨below, _⟩ := List.getElem?_eq_some_iff.mp here
  rw [@recibido_of_lt bloque resto i below] at here
  exact Option.some.inj here

/-- Blocks as long as what is read agree on it. -/
theorem concuerdan_recibido {otro : Recibido} {k : Nat} (le : k ≤ bloque.length) :
    Concuerdan k (recibido bloque resto) (recibido bloque otro) := by
  intro i below
  have first := @recibido_of_lt bloque resto i (Nat.lt_of_lt_of_le below le)
  have second := @recibido_of_lt bloque otro i (Nat.lt_of_lt_of_le below le)
  exact Option.some.inj (first.symm.trans second)

/-- Two bytes of the buffer are compatible with the block. -/
theorem compatible_recibido : Compatible bloque i (Modo.de (recibido bloque resto) i) :=
  ⟨fun _ here => (recibido_eq_of_some here).symm, fun _ here => (recibido_eq_of_some here).symm⟩

/-- Two bytes that are compatible with the block are read when the rest has them. -/
theorem modo_recibido {modo : Modo} (compatible : Compatible bloque i modo)
    (first : resto i = modo.c0) (second : resto (i + 1) = modo.c1) :
    Modo.de (recibido bloque resto) i = modo := by
  have read : ∀ j byte, (∀ found, bloque[j]? = some found → found = byte) → resto j = byte →
      recibido bloque resto j = byte := by
    intro j byte inside behind
    by_cases below : j < bloque.length
    · exact inside _ (recibido_of_lt below)
    · rw [recibido_of_ge (Nat.le_of_not_lt below), behind]
  unfold Modo.de
  rw [read i modo.c0 compatible.1 first, read (i + 1) modo.c1 compatible.2 second]

end Recibido

/-! ## Short blocks -/

section Corto

variable {s : Control} {buffer : Recibido} {bloque : List UInt8}

theorem ne_of_salida {t : Control} (longer : s.salida.length < t.salida.length) : t ≠ s := by
  rintro rfl
  exact Nat.lt_irrefl _ longer

theorem ponTiempo_salida {leer : DateTime → Int} {poner : Int → DateTime → DateTime}
    {timeStamp : Int} : (s.ponTiempo leer poner timeStamp).salida = s.salida := by
  unfold ponTiempo
  split_ifs <;> rfl

theorem casoDateTime_salida : s.salida.length < (s.casoDateTime buffer).salida.length := by
  unfold casoDateTime
  simp only [ponTiempo_salida]
  simp [modifyCharacteristic, anota]

theorem casoEnergyRecord_salida :
    s.salida.length < (s.casoEnergyRecord buffer).salida.length := by
  unfold casoEnergyRecord
  dsimp only
  split_ifs <;> simp [modifyCharacteristic, anota]

theorem casoRecLaps_salida : s.salida.length < (s.casoRecLaps buffer).salida.length := by
  unfold casoRecLaps sendToPSOC5
  dsimp only
  split_ifs <;> simp [modifyCharacteristic, anota]

/-- An inert block leaves the state as it was. -/
theorem procesarCaso_inerte {tipo : TipoBloque} (inerte : Inerte s bloque tipo)
    (resto : Recibido) : (s.procesarCaso (recibido bloque resto) tipo).1 = s := by
  cases tipo with
  | inicializacion =>
      have refused : (!s.systemStarted && (recibido bloque resto 239 == 0x36 ||
          recibido bloque resto 238 == 0x36)) = false := by
        rcases inerte with started | ⟨long, at238, at239⟩
        · rw [started]
          rfl
        · rw [@recibido_of_lt bloque resto 238 (by omega), Ne, Option.some_inj] at at238
          rw [@recibido_of_lt bloque resto 239 (by omega), Ne, Option.some_inj] at at239
          rw [beq_false_of_ne at238, beq_false_of_ne at239, Bool.or_self, Bool.and_false]
      dsimp only [procesarCaso, casoInicializacion]
      rw [refused, if_neg Bool.false_ne_true]
  | status =>
      dsimp only [procesarCaso, casoStatus]
      rcases inerte with stopped | ⟨long, at45⟩ | ninguno
      · rw [stopped, Bool.and_false, if_neg Bool.false_ne_true]
      · rw [@recibido_of_lt bloque resto 45 (by omega), Ne, Option.some_inj] at at45
        rw [beq_false_of_ne at45, Bool.false_and, if_neg Bool.false_ne_true]
      · have unknown : hptEstados.contains (Modo.de (recibido bloque resto) 1) = false := by
          rw [List.contains_eq_mem, decide_eq_false_iff_not]
          exact fun known => ninguno _ known compatible_recibido
        rw [unknown, Bool.not_false, if_pos rfl, ite_self]
  | autenticationModes =>
      obtain ⟨running, stored, ninguno⟩ := inerte
      have wrong : (Modo.de (recibido bloque resto) 0).valido = false := by
        rw [Bool.eq_false_iff]
        exact fun right => ninguno _ right compatible_recibido
      simp [procesarCaso, casoAutenticationModes, modoAutenticacion, wrong, stored, sendToPSOC5,
        running]
  | _ => exact inerte.elim

/-- The state that an accepted block leaves has the power that it brings. -/
theorem statusAceptado_externalMeterPower :
    (s.statusAceptado buffer).status.externalMeterPower = entero buffer 55 := by
  unfold statusAceptado statusMedidas
  dsimp only
  split_ifs <;> rfl

/-- With its mark an initialisation changes the state of a system that is not started. -/
theorem casoInicializacion_ne (stopped : s.systemStarted = false)
    (marked : (buffer 239 == 0x36 || buffer 238 == 0x36) = true) :
    (s.casoInicializacion buffer).1 ≠ s := by
  have accepted : (!s.systemStarted && (buffer 239 == 0x36 || buffer 238 == 0x36)) = true := by
    rw [stopped, marked]
    rfl
  unfold casoInicializacion
  rw [if_pos accepted]
  dsimp only
  cases sigue : ((s.inicioDatos buffer).modoAutenticacion buffer 212).1 with
  | true =>
      rw [if_pos rfl]
      intro same
      have started := congrArg systemStarted same
      rw [inicioSistema_iniciado.1, stopped] at started
      exact Bool.false_ne_true started.symm
  | false =>
      rw [if_neg Bool.false_ne_true]
      refine ne_of_salida ?_
      have sent : (s.inicioDatos buffer).salida.length = s.salida.length + 16 := by
        simp [inicioDatos, modifyCharacteristic, anota]
      have more : (s.inicioDatos buffer).salida.length ≤
          ((s.inicioDatos buffer).modoAutenticacion buffer 212).2.2.salida.length := by
        generalize s.inicioDatos buffer = t
        unfold modoAutenticacion sendToPSOC5
        split_ifs <;> simp [anota]
      exact Nat.lt_of_lt_of_le (by omega) more

/-- With a mark and a state that the block allows, the last byte of the power is not the
block's. -/
theorem casoStatus_depende {estado : Modo} (started : s.systemStarted = true)
    (marked : 46 ≤ bloque.length → bloque[45]? = some 0x36) (known : estado ∈ hptEstados)
    (compatible : Compatible bloque 1 estado) (behind : bloque.length ≤ 58)
    (nada : ∀ resto, s.casoStatus (recibido bloque resto) = s) : False := by
  let resto (ultimo : UInt8) : Recibido := fun i =>
    if i = 1 then estado.c0 else if i = 2 then estado.c1 else if i = 58 then ultimo else 0x36
  have power : ∀ ultimo, entero (recibido bloque (resto ultimo)) 55 =
      s.status.externalMeterPower := by
    intro ultimo
    have mark : recibido bloque (resto ultimo) 45 = 0x36 := by
      by_cases long : 46 ≤ bloque.length
      · exact recibido_eq_of_some (marked long)
      · exact recibido_of_ge (by omega)
    have read : Modo.de (recibido bloque (resto ultimo)) 1 = estado :=
      modo_recibido compatible rfl rfl
    have accepted : s.casoStatus (recibido bloque (resto ultimo)) =
        s.statusAceptado (recibido bloque (resto ultimo)) := by
      unfold casoStatus
      rw [mark, read, started, List.contains_iff_mem.mpr known]
      rfl
    have same := nada (resto ultimo)
    rw [accepted] at same
    rw [← statusAceptado_externalMeterPower, same]
  have before : ∀ i, i < 58 → i ≠ 1 → i ≠ 2 →
      recibido bloque (resto 0) i = recibido bloque (resto 1) i := by
    intro i below notFirst notSecond
    by_cases inside : i < bloque.length
    · exact concuerdan_recibido (Nat.le_refl _) i inside
    · rw [recibido_of_ge (Nat.le_of_not_lt inside), recibido_of_ge (Nat.le_of_not_lt inside)]
      simp only [resto, if_neg notFirst, if_neg notSecond, if_neg (Nat.ne_of_lt below)]
  have last := congrArg Int32.toUInt32 ((power 0).trans (power 1).symm)
  unfold entero at last
  rw [before 55 (by decide) (by decide) (by decide), before 56 (by decide) (by decide) (by decide),
    before 57 (by decide) (by decide) (by decide), recibido_of_ge behind, recibido_of_ge behind]
    at last
  simp [resto] at last
  exact absurd last (by decide)

theorem casoAutenticationModes_salida
    (answered : ¬ (s.updateTaskrunning = true ∧ s.configuracion.autenticationMode.valido = true ∧
      (Modo.de buffer 0).valido = false)) :
    s.salida.length < (s.casoAutenticationModes buffer).1.salida.length := by
  unfold casoAutenticationModes modoAutenticacion sendToPSOC5
  cases received : (Modo.de buffer 0).valido with
  | true => simp [modifyCharacteristic, anota]
  | false =>
      cases stored : s.configuracion.autenticationMode.valido with
      | false => simp [modifyCharacteristic, anota]
      | true =>
          cases running : s.updateTaskrunning with
          | true => exact absurd ⟨running, stored, received⟩ answered
          | false => simp [anota]

/-- An initialisation that its bytes do not exclude changes the state for some bytes behind
it. -/
theorem casoInicializacion_depende (activo : ¬Inerte s bloque .inicializacion) :
    ∃ resto, (s.casoInicializacion (recibido bloque resto)).1 ≠ s := by
  obtain ⟨stopped, incomplete⟩ := not_or.mp activo
  refine ⟨fun _ => 0x36, casoInicializacion_ne (Bool.eq_false_iff.mpr stopped) ?_⟩
  by_cases long : 240 ≤ bloque.length
  · rw [Bool.or_eq_true, beq_iff_eq, beq_iff_eq]
    by_cases at238 : bloque[238]? = some 0x36
    · exact .inr (recibido_eq_of_some at238)
    · exact .inl (recibido_eq_of_some (not_not.mp fun at239 => incomplete ⟨long, at238, at239⟩))
  · rw [recibido_of_ge (by omega : bloque.length ≤ 239)]
    rfl

/-- A status block that its bytes do not exclude has a state that it can be completed to. -/
theorem compatible_of_activo (activo : ¬Inerte s bloque .status) :
    s.systemStarted = true ∧ (46 ≤ bloque.length → bloque[45]? = some 0x36) ∧
      ∃ estado ∈ hptEstados, Compatible bloque 1 estado := by
  obtain ⟨stopped, more⟩ := not_or.mp activo
  obtain ⟨marked, conocido⟩ := not_or.mp more
  refine ⟨Bool.not_eq_false _ ▸ stopped,
    fun long => not_not.mp fun other => marked ⟨long, other⟩, ?_⟩
  by_contra ninguno
  exact conocido fun estado known compatible => ninguno ⟨estado, known, compatible⟩

/-- A choice of the mode that its bytes do not exclude is answered for some bytes behind it. -/
theorem casoAutenticationModes_depende (activo : ¬Inerte s bloque .autenticationModes) :
    ∃ resto, s.salida.length <
      (s.casoAutenticationModes (recibido bloque resto)).1.salida.length := by
  by_cases compatible : ∃ modo : Modo, modo.valido = true ∧ Compatible bloque 0 modo
  · obtain ⟨modo, right, compatible⟩ := compatible
    let resto : Recibido := fun i => if i = 0 then modo.c0 else modo.c1
    have read : Modo.de (recibido bloque resto) 0 = modo := modo_recibido compatible rfl rfl
    refine ⟨resto, casoAutenticationModes_salida fun both => ?_⟩
    rw [read, right] at both
    exact Bool.false_ne_true both.2.2.symm
  · refine ⟨fun _ => 0, casoAutenticationModes_salida fun both => activo ⟨both.1, both.2.1, ?_⟩⟩
    exact fun modo right other => compatible ⟨modo, right, other⟩

/-- What is read behind the block is not its own. -/
theorem exists_recibido_ne {i : Nat} (behind : bloque.length ≤ i) :
    ∃ uno otro, recibido bloque uno i ≠ recibido bloque otro i := by
  refine ⟨fun _ => 0, fun _ => 1, ?_⟩
  rw [recibido_of_ge behind, recibido_of_ge behind]
  decide

/-- A block that is shorter than what is read, and not inert, has an effect, or one that
depends on what is behind it. -/
theorem no_efectoPropio {tipoBloque : UInt16} (lleno : bloque ≠ [])
    (short : bloque.length < (TipoBloque.de tipoBloque).alcance)
    (activo : ¬ Inerte s bloque (TipoBloque.de tipoBloque)) :
    ¬ EfectoPropio s tipoBloque bloque := by
  rintro ⟨igual, nada⟩
  replace nada := nada short
  have size := List.length_pos_iff.mpr lleno
  have longer : (∃ resto, s.salida.length <
      (s.procesarBloque (recibido bloque resto) tipoBloque).1.salida.length) → False :=
    fun ⟨resto, more⟩ => ne_of_salida more (nada resto)
  unfold procesarBloque at igual nada longer
  cases tipo : TipoBloque.de tipoBloque with
  | inicializacion =>
      rw [tipo] at activo nada
      obtain ⟨resto, changed⟩ := casoInicializacion_depende activo
      exact changed (nada resto)
  | status =>
      rw [tipo] at activo nada short
      obtain ⟨started, marked, estado, known, compatible⟩ := compatible_of_activo activo
      exact casoStatus_depende started marked known compatible (Nat.le_of_lt_succ short) nada
  | dateTime =>
      rw [tipo] at longer
      exact longer ⟨fun _ => 0, casoDateTime_salida⟩
  | energyRecord =>
      rw [tipo] at longer
      exact longer ⟨fun _ => 0, casoEnergyRecord_salida⟩
  | recLaps =>
      rw [tipo] at longer
      exact longer ⟨fun _ => 0, casoRecLaps_salida⟩
  | scheduleMatrix | recLast | potenciaContratadaP1 | potenciaContratadaP2 | publica =>
      rw [tipo] at longer
      refine longer ⟨fun _ => 0, ?_⟩
      simp [procesarCaso, casoScheduleMatrix, casoRecLast, modifyCharacteristic, anota]
  | autenticationModes =>
      rw [tipo] at activo longer
      exact longer (casoAutenticationModes_depende activo)
  | fwUpdatemode =>
      rw [tipo] at short igual
      obtain ⟨uno, otro, differ⟩ := exists_recibido_ne (Nat.le_of_lt_succ short)
      exact differ (congrArg (fun t => t.params.fwUpdateMode.c1) (igual uno otro))
  | lanIp =>
      rw [tipo] at short igual
      obtain ⟨uno, otro, differ⟩ := exists_recibido_ne (Nat.le_of_lt_succ short)
      exact differ (congrArg (fun t => t.coms.mask.d) (igual uno otro))
  | _ =>
      rw [tipo] at short
      simp only [TipoBloque.alcance] at short
      omega

/-- The effect of a block is its own exactly when the block has all that is read, or has no
effect whatever is behind it. -/
theorem efectoPropio_iff (s : Control) (tipoBloque : UInt16) {bloque : List UInt8}
    (lleno : bloque ≠ []) :
    EfectoPropio s tipoBloque bloque ↔
      (TipoBloque.de tipoBloque).alcance ≤ bloque.length ∨
        Inerte s bloque (TipoBloque.de tipoBloque) := by
  constructor
  · intro propio
    by_contra neither
    obtain ⟨short, activo⟩ := not_or.mp neither
    exact no_efectoPropio lleno (Nat.lt_of_not_le short) activo propio
  · rintro (long | inerte)
    · exact ⟨fun resto otro => procesarCaso_congr (concuerdan_recibido long),
        fun short => absurd long (Nat.not_le_of_lt short)⟩
    · refine ⟨fun resto otro => ?_, fun _ => procesarCaso_inerte inerte⟩
      exact (procesarCaso_inerte inerte resto).trans (procesarCaso_inerte inerte otro).symm

end Corto

/-- A current command of one byte is read from its own byte. -/
theorem currentCommand_efectoPropio :
    EfectoPropio .inicial Handle.measuresCurrentCommand [16] :=
  (efectoPropio_iff .inicial Handle.measuresCurrentCommand (List.cons_ne_nil 16 [])).mpr
    (.inl (by decide))

/-- An initialisation of one byte is accepted by the mark of an earlier block. -/
theorem inicializacionCorta_noPropio :
    ¬ EfectoPropio .inicial Handle.bloqueInicializacion [0x56] := by
  rintro ⟨_, nada⟩
  exact casoInicializacion_ne rfl (by decide) (nada (by decide) fun _ => 0x36)

end Control

end VeltiumCharger.Bloques
