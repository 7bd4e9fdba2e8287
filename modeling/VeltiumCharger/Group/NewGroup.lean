import VeltiumCharger.Group.Maestro

/-!
# Lists of chargers and of circuits

The producers of `charger_table` and `Circuitos`: the messages `CHARGERS` and
`CIRCUITS`, the lists written over Bluetooth, the lists loaded from flash, the
presence packets of the network, the order to delete the group, and the start of
the server, which puts the master first.

A function that may write outside one of the two arrays returns `none` when it
does.  Bytes read behind the end of a buffer are whatever is there.
-/

namespace VeltiumCharger.Group

open VeltiumCharger.Loop

/-! ## Numbers in text -/

/-- `isspace`. -/
def esEspacio (c : UInt8) : Bool :=
  c == 32 || (decide (9 ≤ c) && decide (c ≤ 13))

/-- The digits at the start of a text, after those that gave `leido`. -/
def digitos (leido : Nat) : List UInt8 → Nat
  | [] => leido
  | c :: resto =>
      if '0'.toUInt8 ≤ c ∧ c ≤ '9'.toUInt8 then
        digitos (10 * leido + (c.toNat - '0'.toNat)) resto
      else leido

/-- `atoi`. -/
def atoi (texto : List UInt8) : Int :=
  match texto.dropWhile esEspacio with
  | [] => 0
  | c :: resto =>
      if c = '-'.toUInt8 then -(digitos 0 resto : Int)
      else if c = '+'.toUInt8 then digitos 0 resto
      else digitos 0 (c :: resto)

/-! ## What a list of chargers says -/

/-- A list of chargers: their number, their names and the byte with the circuit
and the phase of each. -/
structure ListaGrupo where
  n : Nat
  id : Nat → Name
  valor : Nat → UInt8

/-- A `CHARGERS` message.  The texts `n` and `v` of `New_Group` have no
terminator; `pilaN` and `pilaV` are the bytes of the stack that follow them. -/
structure MensajeChargers where
  data : Nat → UInt8
  dataSize : Int
  pilaN : List UInt8
  pilaV : Nat → List UInt8

/-- A message of the given text, with nothing behind it. -/
def MensajeChargers.deTexto (texto : List Char) : MensajeChargers where
  data i := ((texto.map Char.toUInt8).getD i 0)
  dataSize := texto.length
  pilaN := []
  pilaV _ := []

/-- What `New_Group` reads. -/
def MensajeChargers.lista (m : MensajeChargers) : ListaGrupo where
  n := (UInt8.ofInt (atoi (m.data 0 :: m.data 1 :: m.pilaN))).toNat
  id i := fun j => m.data (2 + i * 11 + j)
  valor i := UInt8.ofInt (atoi (m.data (10 + i * 11) :: m.data (10 + i * 11 + 1) ::
    m.data (10 + i * 11 + 2) :: m.pilaV i))

/-- The buffer `group_data.group` as `Get_Stored_Group_Data` reads it; `pila`
follows the text `n`. -/
structure GrupoGuardado where
  group : Nat → UInt8
  pila : List UInt8

/-- What `Get_Stored_Group_Data` reads. -/
def GrupoGuardado.lista (b : GrupoGuardado) : ListaGrupo where
  n := (UInt8.ofInt (atoi (b.group 0 :: b.group 1 :: b.pila))).toNat
  id i := fun j => b.group (2 + i * 9 + j)
  valor i := b.group (10 + i * 9)

/-- The number of chargers as `sprintf` writes it, in two digits at least. -/
def textoNumero (size : UInt8) : List UInt8 :=
  if size < 10 then '0'.toUInt8 :: (Nat.toDigits 10 size.toNat).map Char.toUInt8
  else (Nat.toDigits 10 size.toNat).map Char.toUInt8

/-! ## The device -/

/-- The device: the state of group control, its own name, the flags of
`ChargingGroup` that the producers of the table read or write, and the chargers
seen on the network. -/
structure Equipo where
  grupo : GroupState
  deviceId : Name
  conected : Bool
  deleteOrder : Bool
  stopOrder : Bool
  sendNewGroup : Bool
  sendNewCircuits : Bool
  netGroup : Nat → CaracCharger
  netGroupSize : Nat

/-- `ChargingGroup.Params.GroupMaster`. -/
def Equipo.esMaestro (e : Equipo) : Bool :=
  e.grupo.params.groupMaster != 0

/-- The place of the device in the charging group. -/
def Equipo.lugar (e : Equipo) : Option Nat :=
  checkInGroup e.deviceId e.grupo.chargerTable e.grupo.chargerNumber

/-- Replace the charging group and its size. -/
def Equipo.conTabla (e : Equipo) (g : (Nat → CaracCharger) × Nat) : Equipo :=
  { e with grupo := { e.grupo with chargerTable := g.1, chargerNumber := g.2 } }

/-- `broadcast_a_grupo`: the address of each charger of the network that is in
the group goes to the first record of the table. -/
def broadcastAGrupo (e : Equipo) : Equipo :=
  { e with grupo := forUpTo e.netGroupSize (fun i s =>
      result (forBreak s.chargerNumber (fun j s =>
        if (checkInGroup (e.netGroup i).name s.chargerTable s.chargerNumber).isSome then
          .done (s.setCharger j { s.chargerTable j with ip := (e.netGroup i).ip })
        else .yield s) s)) e.grupo }

/-! ## Loading a list -/

/-- What is kept of a charger in `temp_chargers`. -/
def CaracCharger.temporal (charger : CaracCharger) : CaracCharger :=
  { CaracCharger.default with
    name := charger.name, hpt := charger.hpt, current := charger.current
    currentB := charger.currentB, currentC := charger.currentC, delta := charger.delta
    consigna := charger.consigna, deltaTimer := charger.deltaTimer
    fase := charger.fase, circuito := charger.circuito }

/-- The copy `temp_chargers` of the table. -/
def tempChargers (s : GroupState) : Nat → CaracCharger :=
  forUpTo s.chargerNumber (fun i temp =>
    Function.update temp i (s.chargerTable i).temporal) fun _ => CaracCharger.default

/-- The phase is in the two low bits of the byte and the circuit in the others. -/
def CaracCharger.cablear (valor : UInt8) (charger : CaracCharger) : CaracCharger :=
  { charger with fase := valor &&& 3, circuito := valor >>> 2 }

/-- Copy back what was kept of a charger. -/
def CaracCharger.recuperar (guardado charger : CaracCharger) : CaracCharger :=
  { charger with
    hpt := guardado.hpt, current := guardado.current, currentB := guardado.currentB
    currentC := guardado.currentC, delta := guardado.delta, consigna := guardado.consigna
    deltaTimer := guardado.deltaTimer }

/-- What the loop writes into the slot of a listed charger after adding it. -/
def CaracCharger.listado (id deviceId : Name) (valor : UInt8) (temp : Nat → CaracCharger)
    (tempSize : Nat) (charger : CaracCharger) : CaracCharger :=
  let charger := charger.cablear valor
  let charger :=
    match checkInGroup id temp tempSize with
    | none => charger
    | some index => (temp index).recuperar charger
  if id = deviceId then { charger with conected := true } else charger

/-- One round of the loop over the listed chargers, common to `New_Group` and
`Get_Stored_Group_Data`. -/
def cargarRound (e : Equipo) (lista : ListaGrupo) (temp : Nat → CaracCharger) (tempSize i : Nat)
    (s : GroupState) : Option GroupState :=
  let id := lista.id i
  let g := addToGroup id (getIP id e.netGroup e.netGroupSize) s.chargerTable s.chargerNumber
  if i < maxGroupSize then
    some { s with
      chargerTable := Function.update g.1 i
        ((g.1 i).listado id e.deviceId (lista.valor i) temp tempSize)
      chargerNumber := g.2 }
  else none

/-- The table is rebuilt from a list. -/
def cargarLista (e : Equipo) (lista : ListaGrupo) : Option Equipo :=
  let s := { e.grupo with newData := true }
  (forUpTo lista.n
    (fun i state => state.bind (cargarRound e lista (tempChargers s) s.chargerNumber i))
    (some { s with chargerNumber := 0 })).map fun s => { e with grupo := s }

/-- "Si llega un grupo en el que no estoy, significa que me han sacado de él". -/
def avisarFuera (e : Equipo) : Equipo :=
  if e.lugar.isNone && e.conected then { e with deleteOrder := true } else e

/-- "Ponerme el primero en el grupo para indicar que soy el maestro". -/
def ponermePrimero (restaurar : CaracCharger → CaracCharger → CaracCharger) (e : Equipo) :
    Equipo :=
  if (e.grupo.chargerTable 0).name ≠ e.deviceId then
    if 0 < e.grupo.chargerNumber ∧ e.lugar.isSome then
      { e.conTabla (maestroPrimero restaurar e.deviceId e.grupo.chargerTable
          e.grupo.chargerNumber) with sendNewGroup := true }
    else e
  else e

/-- `charger_table[Charger_number-1] = OldMaster`. -/
def restaurarTodo (oldMaster _ : CaracCharger) : CaracCharger :=
  oldMaster

/-- What `Get_Stored_Group_Data` copies from the record it moves. -/
def restaurarMedidas (oldMaster slot : CaracCharger) : CaracCharger :=
  { slot with
    fase := oldMaster.fase, circuito := oldMaster.circuito, current := oldMaster.current
    currentB := oldMaster.currentB, currentC := oldMaster.currentC
    consigna := oldMaster.consigna, delta := oldMaster.delta
    deltaTimer := oldMaster.deltaTimer, hpt := oldMaster.hpt }

/-- What `coap_start_server` copies from the record it moves. -/
def restaurarCableado (oldMaster slot : CaracCharger) : CaracCharger :=
  { slot with fase := oldMaster.fase, circuito := oldMaster.circuito }

/-- What `store_group_in_mem` does to the table, apart from storing it. -/
def storeGroupInMem (e : Equipo) : Equipo :=
  if 0 < e.grupo.chargerNumber then
    let e := avisarFuera e
    if e.esMaestro then ponermePrimero restaurarTodo e else e
  else e

/-- `New_Group`. -/
def newGroup (m : MensajeChargers) (e : Equipo) : Option Equipo :=
  if m.dataSize ≤ 0 then some e else (cargarLista e m.lista).map storeGroupInMem

/-- What `Get_Stored_Group_Data` does after its loop. -/
def ordenarGuardado (e : Equipo) : Equipo :=
  let e := avisarFuera e
  if e.esMaestro then broadcastAGrupo (ponermePrimero restaurarMedidas e) else e

/-- `Get_Stored_Group_Data`. -/
def getStoredGroupData (b : GrupoGuardado) (e : Equipo) : Option Equipo :=
  (cargarLista e b.lista).map ordenarGuardado

/-! ## Circuits -/

/-- Circuits beyond the fortieth leave `Circuitos`. -/
def cargarCircuitos (size : Nat) (limites : Nat → UInt8) (e : Equipo) : Option Equipo :=
  if size ≤ maxGroupSize then
    some { e with grupo := ponerCircuitos size limites e.grupo }
  else none

/-- A `CIRCUITS` message; `pila` follows the text `size_char`. -/
structure MensajeCircuits where
  data : Nat → UInt8
  dataSize : Int
  pila : List UInt8

/-- The number of circuits that `New_Circuit` reads. -/
def MensajeCircuits.size (m : MensajeCircuits) : Nat :=
  (UInt8.ofInt (atoi (m.data 0 :: m.data 1 :: m.pila))).toNat

/-- `New_Circuit`: only the master takes the list over. -/
def newCircuit (m : MensajeCircuits) (e : Equipo) : Option Equipo :=
  if m.dataSize ≤ 0 then some e
  else if e.esMaestro then cargarCircuitos m.size (fun i => m.data (i + 2)) e
  else some e

/-- The circuits in `group_data.circuits`, for `Get_Stored_Group_Circuits`. -/
def getStoredGroupCircuits (circuits : Nat → UInt8) (e : Equipo) : Option Equipo :=
  cargarCircuitos (circuits 0).toNat (fun i => circuits (i + 1))
    { e with grupo := { e.grupo with newData := true } }

/-- The circuits written over Bluetooth. -/
def bleCircuits (payload : Nat → UInt8) (e : Equipo) : Option Equipo :=
  (cargarCircuitos (payload 0).toNat (fun i => payload (i + 1)) e).map fun e =>
    { e with grupo := { e.grupo with newData := true }, sendNewCircuits := true }

/-! ## The other producers -/

/-- What the network task loads once it is connected. -/
def cargarFlash (b : GrupoGuardado) (circuits : Nat → UInt8) (e : Equipo) : Option Equipo :=
  (getStoredGroupData b e).bind (getStoredGroupCircuits circuits)

/-- A presence packet: the charger enters `net_group` anew, and is told that it
belongs to the group when this device is its master. -/
def presencia (id : Name) (remoteIP : UInt32) (e : Equipo) : Equipo :=
  let net := (removeFromGroup id e.netGroup e.netGroupSize)
  let e := { e with netGroup := net.1, netGroupSize := net.2 }
  if remoteIP = 0 then e
  else
    let net := addToGroup id remoteIP e.netGroup e.netGroupSize
    let e := { e with netGroup := net.1, netGroupSize := net.2 }
    if e.esMaestro && e.conected &&
        (checkInGroup id e.grupo.chargerTable e.netGroupSize).isSome then
      broadcastAGrupo e
    else e

/-- Set `Params.GroupMaster`. -/
def Equipo.conMaestro (groupMaster : UInt8) (e : Equipo) : Equipo :=
  { e with grupo := { e.grupo with params := { e.grupo.params with groupMaster } } }

/-- The device takes the role of master. -/
def Equipo.comoMaestro (e : Equipo) : Equipo :=
  { (if e.esMaestro then e else e.conMaestro 1) with conected := true }

/-- `coap_start_server`.  `otroMaestro` is the round of the search, if any, in
which another master answers and takes `GroupMaster` away from this device. -/
def coapStartServer (otroMaestro : Option Nat) (e : Equipo) : Equipo :=
  match otroMaestro with
  | some round =>
      { (forUpTo (round + 1) (fun _ => broadcastAGrupo) e.comoMaestro).conMaestro 0 with
        conected := false }
  | none =>
      let e := forUpTo 10 (fun _ => broadcastAGrupo) e.comoMaestro
      if 0 < e.grupo.chargerNumber ∧ e.lugar.isSome then
        broadcastAGrupo (e.conTabla (maestroPrimero restaurarCableado e.deviceId
          e.grupo.chargerTable e.grupo.chargerNumber))
      else
        { e with
          grupo := { e.grupo with params := { e.grupo.params with
            groupMaster := 0, groupActive := 0 } }
          conected := false }

/-- `New_Control` for the order `Delete`. -/
def newControlDelete (e : Equipo) : Equipo :=
  let e := e.conTabla (removeGroup e.grupo.chargerTable e.grupo.chargerNumber)
  { e with
    grupo := { e.grupo with params :=
      { groupMaster := 0, groupActive := 0, cdp := 0, contractPower := 0, potenciaMax := 0 } }
    deleteOrder := false, stopOrder := true, conected := false }

/-! ## What stays the same -/

/-- Sending to the group changes addresses only. -/
theorem broadcastAGrupo_spec (e : Equipo) :
    (broadcastAGrupo e).grupo =
        { e.grupo with chargerTable := (broadcastAGrupo e).grupo.chargerTable } ∧
      ∀ i, ∃ ip, (broadcastAGrupo e).grupo.chargerTable i =
        { e.grupo.chargerTable i with ip } := by
  unfold broadcastAGrupo
  refine forUpTo_induction (fun _ (current : GroupState) =>
    current = { e.grupo with chargerTable := current.chargerTable } ∧
      ∀ i, ∃ ip, current.chargerTable i = { e.grupo.chargerTable i with ip })
    ⟨rfl, fun i => ⟨(e.grupo.chargerTable i).ip, rfl⟩⟩ ?_
  intro i _ current kept
  refine forBreak_result (fun (current : GroupState) =>
    current = { e.grupo with chargerTable := current.chargerTable } ∧
      ∀ i, ∃ ip, current.chargerTable i = { e.grupo.chargerTable i with ip }) kept ?_
  rintro j _ next ⟨rest, table⟩
  split_ifs
  · refine ⟨by rw [GroupState.setCharger, result_done, rest], fun k => ?_⟩
    by_cases here : k = j
    · subst here
      rcases table k with ⟨ip, same⟩
      exact ⟨(e.netGroup i).ip, by simp [GroupState.setCharger, same]⟩
    · simpa [GroupState.setCharger, here] using table k
  · exact ⟨rest, table⟩

theorem avisarFuera_grupo (e : Equipo) : (avisarFuera e).grupo = e.grupo := by
  unfold avisarFuera
  split_ifs <;> rfl

/-! ## What loading a list does -/

/-- At most `maxGroupSize` chargers are listed, each once. -/
structure ListaGrupo.Nombra (lista : ListaGrupo) : Prop where
  acotada : lista.n ≤ maxGroupSize
  distintos : ∀ i j, i < lista.n → j < lista.n → lista.id i = lista.id j → i = j

instance (lista : ListaGrupo) : Decidable lista.Nombra :=
  decidable_of_iff
    (lista.n ≤ maxGroupSize ∧
      ∀ i, i < lista.n → ∀ j, j < lista.n → lista.id i = lista.id j → i = j)
    ⟨fun ⟨acotada, apart⟩ => ⟨acotada, fun i j belowI belowJ => apart i belowI j belowJ⟩,
      fun names => ⟨names.acotada, fun i belowI j belowJ => names.distintos i j belowI belowJ⟩⟩

section CargarLista

theorem checkInGroup_congr {id : Name} {first second : Nat → CaracCharger} {size : Nat}
    (same : ∀ j, j < size → (first j).name = (second j).name) :
    checkInGroup id first size = checkInGroup id second size := by
  cases found : checkInGroup id second size with
  | none =>
      rw [checkInGroup_eq_none_iff] at found ⊢
      intro j below
      rw [same j below]
      exact found j below
  | some k =>
      rw [checkInGroup_eq_some_iff] at found ⊢
      rcases found with ⟨below, named, first⟩
      refine ⟨below, (same k below).trans named, fun j earlier => ?_⟩
      rw [same j (earlier.trans below)]
      exact first j earlier

theorem tempChargers_of_lt {s : GroupState} {i : Nat} (below : i < s.chargerNumber) :
    tempChargers s i = (s.chargerTable i).temporal := by
  unfold tempChargers
  rw [forUpTo_update (fun i _ => (s.chargerTable i).temporal), if_pos below]

theorem checkInGroup_tempChargers (id : Name) (s : GroupState) :
    checkInGroup id (tempChargers s) s.chargerNumber =
      checkInGroup id s.chargerTable s.chargerNumber :=
  checkInGroup_congr fun j below => by rw [tempChargers_of_lt below]; rfl

variable (e : Equipo) (lista : ListaGrupo)

/-- The record of the charger at place `i` of a list, once loaded. -/
def Equipo.cargado (i : Nat) : CaracCharger :=
  ((e.grupo.chargerTable i).alta (lista.id i)
      (getIP (lista.id i) e.netGroup e.netGroupSize)).listado (lista.id i) e.deviceId
    (lista.valor i) (tempChargers e.grupo) e.grupo.chargerNumber

/-- The device after loading a list. -/
def Equipo.conLista : Equipo :=
  { e with grupo := { e.grupo with
      newData := true
      chargerTable := fun i => if i < lista.n then e.cargado lista i else e.grupo.chargerTable i
      chargerNumber := lista.n } }

variable {e lista}

@[simp]
theorem CaracCharger.listado_name (id deviceId : Name) (valor : UInt8)
    (temp : Nat → CaracCharger) (tempSize : Nat) (charger : CaracCharger) :
    (charger.listado id deviceId valor temp tempSize).name = charger.name := by
  unfold listado
  cases checkInGroup id temp tempSize <;> dsimp only <;> split_ifs <;> rfl

@[simp]
theorem CaracCharger.listado_fase (id deviceId : Name) (valor : UInt8)
    (temp : Nat → CaracCharger) (tempSize : Nat) (charger : CaracCharger) :
    (charger.listado id deviceId valor temp tempSize).fase = valor &&& 3 := by
  unfold listado
  cases checkInGroup id temp tempSize <;> dsimp only <;> split_ifs <;> rfl

@[simp]
theorem CaracCharger.listado_circuito (id deviceId : Name) (valor : UInt8)
    (temp : Nat → CaracCharger) (tempSize : Nat) (charger : CaracCharger) :
    (charger.listado id deviceId valor temp tempSize).circuito = valor >>> 2 := by
  unfold listado
  cases checkInGroup id temp tempSize <;> dsimp only <;> split_ifs <;> rfl

@[simp]
theorem Equipo.cargado_name (i : Nat) : (e.cargado lista i).name = lista.id i := by
  rw [cargado, CaracCharger.listado_name]
  rfl

@[simp]
theorem Equipo.cargado_fase (i : Nat) : (e.cargado lista i).fase = lista.valor i &&& 3 :=
  CaracCharger.listado_fase _ _ _ _ _ _

@[simp]
theorem Equipo.cargado_circuito (i : Nat) :
    (e.cargado lista i).circuito = lista.valor i >>> 2 :=
  CaracCharger.listado_circuito _ _ _ _ _ _

/-- A list that names at most forty chargers, each once, is loaded in its order. -/
theorem cargarLista_eq (names : lista.Nombra) : cargarLista e lista = some (e.conLista lista) := by
  have loop := @forUpTo_induction _
    (fun next (state : Option GroupState) => state = some { e.grupo with
      newData := true
      chargerTable := fun i => if i < next then e.cargado lista i else e.grupo.chargerTable i
      chargerNumber := next })
    lista.n
    (fun i state => state.bind (cargarRound e lista
      (tempChargers { e.grupo with newData := true }) e.grupo.chargerNumber i))
    (some { e.grupo with newData := true, chargerNumber := 0 }) ?start ?round
  case start => simp
  case round =>
    intro i below state same
    subst same
    have room : i < maxGroupSize := below.trans_le names.acotada
    have new : checkInGroup (lista.id i)
        (fun k => if k < i then e.cargado lista k else e.grupo.chargerTable k) i = none := by
      rw [checkInGroup_eq_none_iff]
      intro k earlier named
      rw [if_pos earlier, Equipo.cargado_name] at named
      exact absurd (names.distintos k i (earlier.trans below) below named) (Nat.ne_of_lt earlier)
    rw [Option.bind_some, cargarRound]
    dsimp only
    rw [addToGroup_of_new room new, if_pos room]
    dsimp only
    rw [Function.update_self, Function.update_idem, if_neg (Nat.lt_irrefl i)]
    congr 2
    funext k
    by_cases here : k = i
    · subst here
      rw [Function.update_self, if_pos (Nat.lt_succ_self k)]
      rfl
    · have sameSide : k < i + 1 ↔ k < i := by omega
      rw [Function.update_of_ne here]
      simp only [sameSide]
  unfold cargarLista
  dsimp only
  rw [loop]
  rfl

end CargarLista

end VeltiumCharger.Group
