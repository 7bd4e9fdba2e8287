import VeltiumCharger.Bloques.Procesar

/-!
# The authentication mode

The mode that the other processor sends is taken when it is one of the three, and
otherwise the stored one or a default is to be.  It is kept in three places: the
published characteristic, `Configuracion` and `Params`.
-/

namespace VeltiumCharger.Bloques

open VeltiumCharger.Group VeltiumCharger.Buffer

/-- The mode that is to be used. -/
def Modo.elegido (recibido guardado : Modo) : Modo :=
  if recibido.valido then recibido
  else if guardado.valido then guardado
  else .ofText 'W' 'A'

/-! ## The published value -/

/-- The value of a characteristic after a call. -/
def Salida.publica (attrHandle : UInt16) (valor : Option (List UInt8)) :
    Salida → Option (List UInt8)
  | .modifyCharacteristic data handle => if handle = attrHandle then some data else valor
  | _ => valor

/-- The last value published under a handle. -/
def publicado (attrHandle : UInt16) (salida : List Salida) : Option (List UInt8) :=
  salida.foldl (Salida.publica attrHandle) none

section Publicado

variable {attrHandle : UInt16} {salida : List Salida}

theorem publicado_append (llamada : Salida) : publicado attrHandle (salida ++ [llamada]) =
    llamada.publica attrHandle (publicado attrHandle salida) :=
  List.foldl_append

theorem publicado_muda {llamada : Salida}
    (muda : ∀ valor, llamada.publica attrHandle valor = valor) :
    publicado attrHandle (salida ++ [llamada]) = publicado attrHandle salida := by
  rw [publicado_append]
  exact muda _

end Publicado

namespace Control

variable {s : Control} {buffer : Recibido} {attrHandle : UInt16}

@[simp]
theorem publicado_modifyCharacteristic (data : List UInt8) (handle : UInt16) :
    publicado attrHandle (s.modifyCharacteristic data handle).salida =
      if handle = attrHandle then some data else publicado attrHandle s.salida := by
  unfold modifyCharacteristic anota
  exact publicado_append _

@[simp]
theorem publicado_sendToPSOC5 (data : List UInt8) (handle : UInt16) :
    publicado attrHandle (s.sendToPSOC5 data handle).salida = publicado attrHandle s.salida := by
  unfold sendToPSOC5
  split_ifs
  · rfl
  · exact publicado_muda fun _ => rfl

@[simp]
theorem publicado_updateStatusComs (code : UInt16) (block : UInt8) :
    publicado attrHandle (s.updateStatusComs code block).salida = publicado attrHandle s.salida :=
  publicado_muda fun _ => rfl

/-! ## What is promised -/

/-- The serial number and the limits are those of the block. -/
structure TomaDatos (buffer : Recibido) (t : Control) : Prop where
  deviceSerNum : t.deviceSerNum = bytes buffer 219 10
  installCurrentLimit : t.configuracion.installCurrentLimit = buffer 11 ∧
    t.params.installCurrentLimit = buffer 11
  potenciaContratada1 : t.configuracion.potenciaContratada1 = palabra buffer 229 ∧
    t.params.potenciaContratada1 = palabra buffer 229
  potenciaContratada2 : t.configuracion.potenciaContratada2 = palabra buffer 241 ∧
    t.params.potenciaContratada2 = palabra buffer 241

/-- The mode is published and stored. -/
structure Guarda (modo : Modo) (t : Control) : Prop where
  publicado : publicado Handle.configuracionAutenticationModes t.salida = some modo.bytes
  configuracion : t.configuracion.autenticationMode = modo

/-- An initialisation is accepted. -/
def Acepta (s : Control) (buffer : Recibido) : Prop :=
  s.systemStarted = false ∧ (buffer 239 = 0x36 ∨ buffer 238 = 0x36)

/-- The mode for the bytes at `i`. -/
def elegido (s : Control) (buffer : Recibido) (i : Nat) : Modo :=
  (Modo.de buffer i).elegido s.configuracion.autenticationMode

/-- An accepted initialisation starts the system with the data of the block, and the mode
is published and stored. -/
def InicioSalvoParams (s : Control) (buffer : Recibido) : Prop :=
  s.Acepta buffer →
    (s.casoInicializacion buffer).1.systemStarted = true ∧
      (s.casoInicializacion buffer).1.psocInicializado = true ∧
      TomaDatos buffer (s.casoInicializacion buffer).1 ∧
      Guarda (s.elegido buffer 212) (s.casoInicializacion buffer).1

/-- It does, and `Params` has the mode too. -/
def InicioCorrecto (s : Control) (buffer : Recibido) : Prop :=
  s.InicioSalvoParams buffer ∧ (s.Acepta buffer →
    (s.casoInicializacion buffer).1.params.autenticationMode = s.elegido buffer 212)

/-- After a block with a mode all three have it. -/
def ModoCorrecto (s : Control) (buffer : Recibido) : Prop :=
  Guarda (s.elegido buffer 0) (s.casoAutenticationModes buffer).1 ∧
    (s.casoAutenticationModes buffer).1.params.autenticationMode = s.elegido buffer 0

/-! ## What the parts keep -/

/-- What an initialisation is about is the same in both. -/
structure Mantiene (s t : Control) : Prop where
  deviceSerNum : t.deviceSerNum = s.deviceSerNum
  modo : t.configuracion.autenticationMode = s.configuracion.autenticationMode
  limite : t.configuracion.installCurrentLimit = s.configuracion.installCurrentLimit
  contratada1 : t.configuracion.potenciaContratada1 = s.configuracion.potenciaContratada1
  contratada2 : t.configuracion.potenciaContratada2 = s.configuracion.potenciaContratada2
  paramsModo : t.params.autenticationMode = s.params.autenticationMode
  paramsLimite : t.params.installCurrentLimit = s.params.installCurrentLimit
  paramsContratada1 : t.params.potenciaContratada1 = s.params.potenciaContratada1
  paramsContratada2 : t.params.potenciaContratada2 = s.params.potenciaContratada2
  publicado : ∀ attrHandle, publicado attrHandle t.salida = publicado attrHandle s.salida

theorem Mantiene.refl (s : Control) : Mantiene s s :=
  ⟨rfl, rfl, rfl, rfl, rfl, rfl, rfl, rfl, rfl, fun _ => rfl⟩

theorem Mantiene.trans {s t u : Control} (first : Mantiene s t) (second : Mantiene t u) :
    Mantiene s u where
  deviceSerNum := second.deviceSerNum.trans first.deviceSerNum
  modo := second.modo.trans first.modo
  limite := second.limite.trans first.limite
  contratada1 := second.contratada1.trans first.contratada1
  contratada2 := second.contratada2.trans first.contratada2
  paramsModo := second.paramsModo.trans first.paramsModo
  paramsLimite := second.paramsLimite.trans first.paramsLimite
  paramsContratada1 := second.paramsContratada1.trans first.paramsContratada1
  paramsContratada2 := second.paramsContratada2.trans first.paramsContratada2
  publicado := fun attrHandle => (second.publicado attrHandle).trans (first.publicado attrHandle)

theorem mantiene_sendToPSOC5 (data : List UInt8) (handle : UInt16) :
    Mantiene s (s.sendToPSOC5 data handle) := by
  refine ⟨?_, ?_, ?_, ?_, ?_, ?_, ?_, ?_, ?_, fun _ => publicado_sendToPSOC5 data handle⟩
  all_goals
    unfold sendToPSOC5
    split_ifs <;> rfl

theorem mantiene_inicioTipoSensor : Mantiene s (s.inicioTipoSensor buffer) := by
  unfold inicioTipoSensor
  split_ifs
  · refine Mantiene.trans ?_ (mantiene_sendToPSOC5 _ _)
    exact ⟨rfl, rfl, rfl, rfl, rfl, rfl, rfl, rfl, rfl, fun _ => rfl⟩
  · exact ⟨rfl, rfl, rfl, rfl, rfl, rfl, rfl, rfl, rfl, fun _ => rfl⟩

theorem mantiene_inicioBloqueo : Mantiene s s.inicioBloqueo := by
  unfold inicioBloqueo enviaBloqueo
  split_ifs
  · refine Mantiene.trans ?_ (mantiene_sendToPSOC5 _ _)
    exact ⟨rfl, rfl, rfl, rfl, rfl, rfl, rfl, rfl, rfl, fun _ => publicado_updateStatusComs _ _⟩
  · exact Mantiene.refl s

theorem mantiene_inicioSensor : Mantiene s (s.inicioSensor buffer) := by
  unfold inicioSensor
  refine Mantiene.trans ?_ mantiene_inicioBloqueo
  refine (@mantiene_inicioTipoSensor s buffer).trans ?_
  exact ⟨rfl, rfl, rfl, rfl, rfl, rfl, rfl, rfl, rfl, fun _ => rfl⟩

theorem mantiene_borraFlash (espacios : List UInt8) : Mantiene s (s.borraFlash espacios) := by
  induction espacios generalizing s with
  | nil => exact Mantiene.refl s
  | cons espacio espacios ih => exact (mantiene_sendToPSOC5 [espacio] _).trans ih

theorem mantiene_inicioFlash : Mantiene s s.inicioFlash := by
  unfold inicioFlash
  dsimp only
  split_ifs
  · exact (mantiene_borraFlash _).trans (mantiene_borraFlash _)
  · exact mantiene_borraFlash _
  · exact Mantiene.refl s

theorem mantiene_inicioSistema : Mantiene s s.inicioSistema := by
  unfold inicioSistema
  refine Mantiene.trans ?_ mantiene_inicioFlash
  exact ⟨rfl, rfl, rfl, rfl, rfl, rfl, rfl, rfl, rfl, fun _ => publicado_append _⟩

theorem inicioValores_publicado :
    publicado Handle.configuracionAutenticationModes (s.inicioValores buffer).salida =
      some (bytes buffer 212 2) := by
  unfold inicioValores
  simp only [publicado_modifyCharacteristic]
  rfl

theorem inicioValores_tomaDatos : TomaDatos buffer (s.inicioValores buffer) :=
  ⟨rfl, ⟨rfl, rfl⟩, ⟨rfl, rfl⟩, rfl, rfl⟩

theorem TomaDatos.mantiene {t : Control} (datos : TomaDatos buffer s) (mantiene : Mantiene s t) :
    TomaDatos buffer t where
  deviceSerNum := mantiene.deviceSerNum.trans datos.deviceSerNum
  installCurrentLimit := ⟨mantiene.limite.trans datos.installCurrentLimit.1,
    mantiene.paramsLimite.trans datos.installCurrentLimit.2⟩
  potenciaContratada1 := ⟨mantiene.contratada1.trans datos.potenciaContratada1.1,
    mantiene.paramsContratada1.trans datos.potenciaContratada1.2⟩
  potenciaContratada2 := ⟨mantiene.contratada2.trans datos.potenciaContratada2.1,
    mantiene.paramsContratada2.trans datos.potenciaContratada2.2⟩

/-- The end of `Fw_Update_mode` is the first byte of the mode in `Params`. -/
theorem inicioComs_modo : (s.inicioComs buffer).params.autenticationMode =
    ⟨0, s.params.autenticationMode.c1⟩ :=
  rfl

theorem inicioComs_publicado :
    publicado Handle.configuracionAutenticationModes (s.inicioComs buffer).salida =
      publicado Handle.configuracionAutenticationModes s.salida := by
  refine (publicado_modifyCharacteristic _ _).trans ((if_neg (by decide)).trans ?_)
  exact (publicado_modifyCharacteristic _ _).trans (if_neg (by decide))

theorem TomaDatos.inicioComs (datos : TomaDatos buffer s) :
    TomaDatos buffer (s.inicioComs buffer) :=
  ⟨datos.deviceSerNum, datos.installCurrentLimit, datos.potenciaContratada1,
    datos.potenciaContratada2⟩

/-- The data and the mode once the parameters are set. -/
theorem inicioParams_spec :
    TomaDatos buffer (s.inicioParams buffer) ∧
      publicado Handle.configuracionAutenticationModes (s.inicioParams buffer).salida =
        some (bytes buffer 212 2) ∧
      (s.inicioParams buffer).configuracion.autenticationMode =
        s.configuracion.autenticationMode ∧
      (s.inicioParams buffer).params.autenticationMode = ⟨0, buffer 213⟩ := by
  have mantiene := @mantiene_inicioSensor (s.inicioValores buffer) buffer
  unfold inicioParams
  refine ⟨(inicioValores_tomaDatos.mantiene mantiene).inicioComs, ?_, mantiene.modo, ?_⟩
  · rw [inicioComs_publicado, mantiene.publicado, inicioValores_publicado]
  · rw [inicioComs_modo, mantiene.paramsModo]
    rfl

/-! ## The two handlers -/

/-- An initialisation with one of the three modes. -/
theorem casoInicializacion_valido (acepta : s.Acepta buffer)
    (valido : (Modo.de buffer 212).valido = true) :
    (s.casoInicializacion buffer).1 =
      (({ s.inicioDatos buffer with
        configuracion := { (s.inicioDatos buffer).configuracion with
          autenticationMode := Modo.de buffer 212 } } : Control).inicioParams
            buffer).inicioSistema := by
  have marked : (!s.systemStarted && (buffer 239 == 0x36 || buffer 238 == 0x36)) = true := by
    rw [acepta.1, Bool.not_false, Bool.true_and, Bool.or_eq_true, beq_iff_eq, beq_iff_eq]
    exact acepta.2
  unfold casoInicializacion modoAutenticacion
  rw [if_pos marked, valido]
  rfl

theorem inicioDatos_systemStarted : (s.inicioDatos buffer).systemStarted = s.systemStarted := by
  simp only [inicioDatos, modifyCharacteristic, anota]

theorem inicioDatos_modo : (s.inicioDatos buffer).configuracion.autenticationMode =
    s.configuracion.autenticationMode := by
  simp only [inicioDatos, modifyCharacteristic, anota]

/-- With one of the three modes all but the first byte of `Params` is right. -/
theorem inicio_valido (acepta : s.Acepta buffer)
    (valido : (Modo.de buffer 212).valido = true) :
    ((s.casoInicializacion buffer).1.systemStarted = true ∧
      (s.casoInicializacion buffer).1.psocInicializado = true ∧
      TomaDatos buffer (s.casoInicializacion buffer).1 ∧
      Guarda (s.elegido buffer 212) (s.casoInicializacion buffer).1) ∧
    (s.casoInicializacion buffer).1.params.autenticationMode = ⟨0, buffer 213⟩ := by
  have elegido : s.elegido buffer 212 = Modo.de buffer 212 := if_pos valido
  rw [casoInicializacion_valido acepta valido, elegido]
  generalize modo : ({ s.inicioDatos buffer with
    configuracion := { (s.inicioDatos buffer).configuracion with
      autenticationMode := Modo.de buffer 212 } } : Control) = t
  have taken : t.configuracion.autenticationMode = Modo.de buffer 212 := by
    rw [← modo]
  obtain ⟨datos, publicado, configuracion, params⟩ := @inicioParams_spec t buffer
  have mantiene := @mantiene_inicioSistema (t.inicioParams buffer)
  refine ⟨⟨inicioSistema_iniciado.1, inicioSistema_iniciado.2, datos.mantiene mantiene, ?_, ?_⟩,
    mantiene.paramsModo.trans params⟩
  · exact (mantiene.publicado _).trans publicado
  · exact mantiene.modo.trans (configuracion.trans taken)

theorem sendToPSOC5_systemStarted (data : List UInt8) (handle : UInt16) :
    (s.sendToPSOC5 data handle).systemStarted = s.systemStarted := by
  unfold sendToPSOC5
  split_ifs <;> rfl

theorem modoAutenticacion_invalido {i : Nat} (invalido : (Modo.de buffer i).valido = false) :
    s.modoAutenticacion buffer i =
      if s.configuracion.autenticationMode.valido then
        (false, write i (Modo.ofText 'W' 'A').bytes buffer, s.sendToPSOC5
          (bytes (write i (Modo.ofText 'W' 'A').bytes buffer) i 2)
          Handle.configuracionAutenticationModes)
      else (true, write i s.configuracion.autenticationMode.bytes buffer, s) := by
  unfold modoAutenticacion
  rw [invalido]
  cases s.configuracion.autenticationMode.valido <;> rfl

/-- With an invalid mode the default is sent when the stored one is valid, and the stored
one is taken otherwise. -/
theorem casoInicializacion_invalido (acepta : s.Acepta buffer)
    (invalido : (Modo.de buffer 212).valido = false) :
    (s.casoInicializacion buffer).1 =
      if s.configuracion.autenticationMode.valido then
        (s.inicioDatos buffer).sendToPSOC5
          (bytes (write 212 (Modo.ofText 'W' 'A').bytes buffer) 212 2)
          Handle.configuracionAutenticationModes
      else
        ((s.inicioDatos buffer).inicioParams
          (write 212 s.configuracion.autenticationMode.bytes buffer)).inicioSistema := by
  have marked : (!s.systemStarted && (buffer 239 == 0x36 || buffer 238 == 0x36)) = true := by
    rw [acepta.1, Bool.not_false, Bool.true_and, Bool.or_eq_true, beq_iff_eq, beq_iff_eq]
    exact acepta.2
  unfold casoInicializacion
  rw [if_pos marked]
  dsimp only
  rw [modoAutenticacion_invalido invalido, inicioDatos_modo]
  cases s.configuracion.autenticationMode.valido <;> rfl

/-- With another one either the system is not started or an invalid mode stays. -/
theorem inicio_no_valido (acepta : s.Acepta buffer)
    (invalido : (Modo.de buffer 212).valido = false) :
    (s.casoInicializacion buffer).1.systemStarted = false ∨
      (s.casoInicializacion buffer).1.configuracion.autenticationMode ≠ s.elegido buffer 212 := by
  rw [casoInicializacion_invalido acepta invalido]
  cases stored : s.configuracion.autenticationMode.valido with
  | true =>
      left
      rw [if_pos rfl, sendToPSOC5_systemStarted, inicioDatos_systemStarted]
      exact acepta.1
  | false =>
      right
      have elegido : s.elegido buffer 212 = .ofText 'W' 'A' := by
        unfold elegido Modo.elegido
        rw [invalido, stored]
        rfl
      rw [if_neg Bool.false_ne_true, mantiene_inicioSistema.modo, inicioParams_spec.2.2.1,
        inicioDatos_modo, elegido]
      intro same
      rw [same] at stored
      exact absurd stored (by decide)

theorem c0_ne_zero_of_valido {modo : Modo} (valido : modo.valido = true) : modo.c0 ≠ 0 := by
  intro zero
  unfold Modo.valido at valido
  rcases modo with ⟨c0, c1⟩
  dsimp only at zero
  subst zero
  simp only [Modo.ofText, Bool.or_eq_true, beq_iff_eq, Modo.mk.injEq] at valido
  rcases valido with (⟨first, _⟩ | ⟨first, _⟩) | ⟨first, _⟩
  · exact absurd first (by decide)
  · exact absurd first (by decide)
  · exact absurd first (by decide)

theorem inicioSalvoParams_iff : s.InicioSalvoParams buffer ↔
    (s.Acepta buffer → (Modo.de buffer 212).valido = true) := by
  refine forall_congr' fun acepta => ?_
  cases valido : (Modo.de buffer 212).valido with
  | true => exact iff_of_true (inicio_valido acepta valido).1 rfl
  | false =>
      refine iff_of_false (fun right => ?_) Bool.false_ne_true
      rcases inicio_no_valido acepta valido with stopped | otro
      · exact Bool.false_ne_true (stopped.symm.trans right.1)
      · exact otro right.2.2.2.configuracion

theorem inicioCorrecto_iff : s.InicioCorrecto buffer ↔ ¬ s.Acepta buffer := by
  constructor
  · rintro ⟨salvo, params⟩ acepta
    have valido := inicioSalvoParams_iff.mp salvo acepta
    have taken := params acepta
    rw [(inicio_valido acepta valido).2, show s.elegido buffer 212 = Modo.de buffer 212 from
      if_pos valido] at taken
    exact c0_ne_zero_of_valido valido (congrArg Modo.c0 taken).symm
  · exact fun refused => ⟨fun acepta => absurd acepta refused, fun acepta => absurd acepta refused⟩

/-- A mode that is taken is published and stored. -/
theorem casoAutenticationModes_sigue {otro : Recibido} {t : Control}
    (sigue : s.modoAutenticacion buffer 0 = (true, otro, t)) :
    Guarda (Modo.de otro 0) (s.casoAutenticationModes buffer).1 ∧
      (s.casoAutenticationModes buffer).1.params.autenticationMode = Modo.de otro 0 := by
  unfold casoAutenticationModes
  rw [sigue]
  refine ⟨⟨?_, rfl⟩, rfl⟩
  change publicado _ (t.modifyCharacteristic _ _).salida = _
  rw [publicado_modifyCharacteristic, if_pos rfl]
  rfl

/-- A valid mode is stored, published and kept. -/
theorem modoCorrecto_of_recibido (received : (Modo.de buffer 0).valido = true) :
    s.ModoCorrecto buffer := by
  unfold ModoCorrecto elegido Modo.elegido
  rw [if_pos received]
  refine casoAutenticationModes_sigue (t := { s with configuracion := { s.configuracion with
    autenticationMode := Modo.de buffer 0 } }) ?_
  unfold modoAutenticacion
  rw [received]
  rfl

/-- With an invalid one the stored mode is sent back, and nothing else happens. -/
theorem modoCorrecto_iff_of_guardado (received : (Modo.de buffer 0).valido = false)
    (stored : s.configuracion.autenticationMode.valido = true) :
    s.ModoCorrecto buffer ↔
      publicado Handle.configuracionAutenticationModes s.salida =
          some s.configuracion.autenticationMode.bytes ∧
        s.params.autenticationMode = s.configuracion.autenticationMode := by
  obtain ⟨nuevos, sent⟩ := @sendToPSOC5_eq s
    (bytes (write 0 (Modo.ofText 'W' 'A').bytes buffer) 0 2) Handle.configuracionAutenticationModes
  have same : (s.casoAutenticationModes buffer).1 = s.sendToPSOC5
      (bytes (write 0 (Modo.ofText 'W' 'A').bytes buffer) 0 2)
      Handle.configuracionAutenticationModes := by
    unfold casoAutenticationModes
    rw [modoAutenticacion_invalido received, stored]
    rfl
  have published := @publicado_sendToPSOC5 s Handle.configuracionAutenticationModes
    (bytes (write 0 (Modo.ofText 'W' 'A').bytes buffer) 0 2) Handle.configuracionAutenticationModes
  unfold ModoCorrecto elegido Modo.elegido
  rw [received, if_neg Bool.false_ne_true, stored, if_pos rfl, same]
  constructor
  · rintro ⟨⟨publicado, _⟩, params⟩
    refine ⟨published.symm.trans publicado, ?_⟩
    rwa [sent] at params
  · rintro ⟨publicado, params⟩
    refine ⟨⟨published.trans publicado, ?_⟩, ?_⟩
    · rw [sent]
    · rw [sent]
      exact params

/-- With both invalid the one that is published is not the one chosen. -/
theorem not_modoCorrecto (received : (Modo.de buffer 0).valido = false)
    (stored : s.configuracion.autenticationMode.valido = false) : ¬s.ModoCorrecto buffer := by
  unfold ModoCorrecto elegido Modo.elegido
  rw [received, if_neg Bool.false_ne_true, stored, if_neg Bool.false_ne_true]
  intro right
  have taken : Modo.de (write 0 s.configuracion.autenticationMode.bytes buffer) 0 =
      s.configuracion.autenticationMode := rfl
  have guarda := (@casoAutenticationModes_sigue s buffer _ s
    (by rw [modoAutenticacion_invalido received, stored]; rfl)).1.configuracion
  rw [right.1.configuracion, taken] at guarda
  rw [← guarda] at stored
  exact absurd stored (by decide)

/-- The mode in use without one of the three in the block. -/
theorem modoCorrecto_iff : s.ModoCorrecto buffer ↔
    (Modo.de buffer 0).valido = true ∨
      (s.configuracion.autenticationMode.valido = true ∧
        publicado Handle.configuracionAutenticationModes s.salida =
          some s.configuracion.autenticationMode.bytes ∧
        s.params.autenticationMode = s.configuracion.autenticationMode) := by
  cases received : (Modo.de buffer 0).valido with
  | true => exact iff_of_true (modoCorrecto_of_recibido received) (.inl rfl)
  | false =>
      rw [or_iff_right Bool.false_ne_true]
      cases stored : s.configuracion.autenticationMode.valido with
      | true => exact (modoCorrecto_iff_of_guardado received stored).trans (and_iff_right rfl).symm
      | false =>
          exact iff_of_false (not_modoCorrecto received stored) fun both =>
            Bool.false_ne_true both.1

/-- An accepted initialisation never leaves the mode in all three places, and in the first
two, with the system started, exactly for one of the three modes.  A block with a mode
leaves it in all three exactly when it is one of the three, or when the valid stored mode
was in all three before. -/
theorem modo_iff (s : Control) (buffer : Recibido) :
    (s.InicioCorrecto buffer ↔ ¬ s.Acepta buffer) ∧
    (s.InicioSalvoParams buffer ↔ (s.Acepta buffer → (Modo.de buffer 212).valido = true)) ∧
    (s.ModoCorrecto buffer ↔
      (Modo.de buffer 0).valido = true ∨
        (s.configuracion.autenticationMode.valido = true ∧
          publicado Handle.configuracionAutenticationModes s.salida =
            some s.configuracion.autenticationMode.bytes ∧
          s.params.autenticationMode = s.configuracion.autenticationMode)) :=
  ⟨inicioCorrecto_iff, inicioSalvoParams_iff, modoCorrecto_iff⟩

/-- A block of marks: the system is not started, and the mode `66` is not replaced.  With
`AA` in it, `Params` holds the second byte only. -/
theorem bloqueDeMarcas_incorrecto :
    ¬ inicial.InicioSalvoParams (fun _ => 0x36) ∧ ¬ inicial.ModoCorrecto (fun _ => 0x36) ∧
      (inicial.casoInicializacion fun i => if i = 212 ∨ i = 213 then 0x41 else 0x36
        ).1.params.autenticationMode = ⟨0, 0x41⟩ := by
  have acepta : inicial.Acepta (fun _ => 0x36) := ⟨rfl, .inl rfl⟩
  refine ⟨fun right => absurd (inicioSalvoParams_iff.mp right acepta) (by decide), ?_, ?_⟩
  · intro right
    rcases modoCorrecto_iff.mp right with other | ⟨_, published, _⟩
    · exact absurd other (by decide)
    · exact absurd published (by decide)
  · exact (inicio_valido ⟨rfl, .inl rfl⟩ (by decide)).2

end Control

end VeltiumCharger.Bloques
