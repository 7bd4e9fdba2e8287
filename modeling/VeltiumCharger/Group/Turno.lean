import Mathlib.Data.List.Iterate
import VeltiumCharger.Group.Chargers

/-!
# The turns of the group

Every 250 ms `coap_server` counts `turno` up and announces it; the charger in that
place of the table sends its data.  When the counter comes to `Charger_number` it
goes back to 1 and the master sends its own data.  Other tasks change
`Charger_number` meanwhile, and the counter is only compared with it for equality.
-/

namespace VeltiumCharger.Group

open VeltiumCharger.Buffer

/-- `turno` after a tick, and whether the master has sent its data. -/
structure TickTurno where
  turno : UInt8
  sendData : Bool
  deriving DecidableEq, Repr

/-- Before the first tick. -/
def TickTurno.inicial : TickTurno :=
  ⟨0, false⟩

/-- The turn tick of `coap_server`. -/
def turnTick (chargerNumber : UInt8) (antes : TickTurno) : TickTurno :=
  let turno := antes.turno + 1
  if turno = chargerNumber then ⟨1, true⟩ else ⟨turno, false⟩

/-- The ticks while `Charger_number` takes these values. -/
def trasHistoria (historia : List UInt8) : TickTurno :=
  historia.foldl (fun tick chargerNumber => turnTick chargerNumber tick) .inicial

/-- `TURNO` -/
def codigoTurno : UInt8 := 4

/-- The text of a turn. -/
def textoTurno (turno : UInt8) : List UInt8 :=
  decimal codigoTurno ++ decimal turno

/-- The `TURN` branch of `hnd_get`: its buffer, from what the stack held. -/
def hndGetTurn (turno : UInt8) (pila : Nat → UInt8) : Nat → UInt8 :=
  sprintf 0 (textoTurno turno) pila

/-- The `TURNO` branch of `message_handler`: whether the device sends its data.  The
text `turno` has no terminator; `pila` is what follows it in the stack. -/
def messageHandlerTurno (e : Equipo) (data : Nat → UInt8) (pila : List UInt8) : Bool :=
  let turno := atoi (data 1 :: data 2 :: pila)
  data 0 - '0'.toUInt8 == codigoTurno && decide (0 ≤ turno) &&
    decide ((e.grupo.chargerTable turno.toNat).name = e.deviceId)

/-! ## What is promised -/

/-- A window of ticks in a group of `n`: the master sends its data once, every slave
is announced once, and nothing beyond them is. -/
structure VentanaJusta (n : UInt8) (ticks : List TickTurno) : Prop where
  propios : ticks.countP TickTurno.sendData = 1
  anunciados : ∀ i, 1 ≤ i → i < n.toNat → (ticks.map (·.turno.toNat)).count i = 1
  dentro : ∀ tick ∈ ticks, tick.turno < n

/-- A device that receives the text of a turn, with no digit behind it, sends its data
exactly when it is in that place of the table. -/
def RespondeElSuyo (turno : UInt8) : Prop :=
  ∀ (e : Equipo) (pila data : Nat → UInt8) (detras : List UInt8),
    Begins data (cString 0 sizeofBuffer (hndGetTurn turno pila)) →
    SinDigito [data (textoTurno turno).length] → SinDigito detras →
      (messageHandlerTurno e data detras = true ↔
        (e.grupo.chargerTable turno.toNat).name = e.deviceId)

/-- From a tick on, while the number stays `n`: every window as long as a round, and
every turn that is announced. -/
structure TurnosJustos (n : UInt8) (tick : TickTurno) : Prop where
  ventanas : ∀ k, VentanaJusta n
    (List.iterate (turnTick n) ((turnTick n)^[k + 1] tick) (max 1 (n.toNat - 1)))
  respuestas : ∀ k, RespondeElSuyo ((turnTick n)^[k + 1] tick).turno

/-! ## The text -/

theorem length_decimal_le (value : UInt8) : (decimal value).length ≤ 3 := by
  have size := value.toNat_lt
  rw [decimal, List.length_map, Nat.length_toDigits_le_iff (by decide) (by decide)]
  omega

theorem decimal_codigoTurno : decimal codigoTurno = ['4'.toUInt8] :=
  rfl

theorem zero_notMem_textoTurno (turno : UInt8) : (0 : UInt8) ∉ textoTurno turno := by
  have digits (value : UInt8) : (0 : UInt8) ∉ decimal value :=
    zero_notMem_map fun c member => Nat.isDigit_of_mem_toDigits (by decide) (by decide) member
  exact fun member => (List.mem_append.mp member).elim (digits _) (digits _)

/-- What is sent is the text. -/
theorem cString_hndGetTurn (turno : UInt8) (pila : Nat → UInt8) :
    cString 0 sizeofBuffer (hndGetTurn turno pila) = textoTurno turno := by
  have begins : Begins (hndGetTurn turno pila) (textoTurno turno ++ [0]) :=
    begins_sprintf begins_nil rfl
  refine cString_of_begins begins (zero_notMem_textoTurno turno) ?_
  have short := length_decimal_le turno
  rw [textoTurno, decimal_codigoTurno, List.length_append]
  exact Nat.lt_of_le_of_lt (Nat.add_le_add_left short _) (by decide)

/-- A turn of one or two digits is read back. -/
theorem atoi_turno {turno : UInt8} (small : turno < 100) {data : Nat → UInt8}
    {detras : List UInt8} (begins : Begins data (textoTurno turno))
    (sinData : SinDigito [data (textoTurno turno).length]) (sinDetras : SinDigito detras) :
    atoi (data 1 :: data 2 :: detras) = turno.toNat := by
  have below : turno.toNat < 100 := UInt8.lt_iff_toNat_lt.mp small
  have texto (ultimo : List UInt8) (sin : SinDigito ultimo) :
      atoi (decimal turno ++ ultimo) = turno.toNat := by
    simpa [rellenado, decimal] using atoi_rellenado 0 turno.toNat sin
  have enData : Begins (fun k => data (1 + k)) (decimal turno) := begins.right
  rcases Nat.lt_or_ge turno.toNat 10 with units | tens
  · have one : (decimal turno).length = 1 := by
      rw [decimal, List.length_map, Nat.toDigits_of_lt_base units, List.length_singleton]
    have leido : decimal turno = [data 1] := by
      rw [← enData.eq_map, one]
      rfl
    have sin : SinDigito (data 2 :: detras) := by
      simpa [SinDigito, textoTurno, decimal_codigoTurno, one] using sinData
    rw [← texto _ sin, leido]
    rfl
  · have two : (decimal turno).length = 2 := by
      rw [decimal, List.length_map, length_toDigits_eq (k := 1) tens below]
    have leido : decimal turno = [data 1, data 2] := by
      rw [← enData.eq_map, two]
      rfl
    rw [← texto _ sinDetras, leido]
    rfl

theorem respondeElSuyo {turno : UInt8} (small : turno < 100) : RespondeElSuyo turno := by
  intro e pila data detras begins sinData sinDetras
  rw [cString_hndGetTurn] at begins
  have orden : data 0 = '4'.toUInt8 := Option.some_inj.mp (begins 0 (Nat.succ_pos _)).symm
  rw [messageHandlerTurno, atoi_turno small begins sinData sinDetras, orden, Int.toNat_natCast]
  have esTurno : ('4'.toUInt8 - '0'.toUInt8 == codigoTurno) = true := rfl
  simp [esTurno]

/-! ## The rotation -/

theorem turnTick_eq (n : UInt8) (antes : TickTurno) :
    turnTick n antes =
      if antes.turno + 1 = n then ⟨1, true⟩ else ⟨antes.turno + 1, false⟩ :=
  rfl

/-- The counter is in a round of the group. -/
def EnRonda (n turno : UInt8) : Prop :=
  1 ≤ turno.toNat ∧ turno.toNat < n.toNat

theorem toNat_succ {n turno : UInt8} (below : turno.toNat < n.toNat) :
    (turno + 1).toNat = turno.toNat + 1 := by
  have size := n.toNat_lt
  rw [UInt8.toNat_add, UInt8.toNat_one]
  omega

/-- Below the last place a tick announces the next one. -/
theorem turnTick_sube {n : UInt8} {tick : TickTurno} (below : tick.turno.toNat + 1 < n.toNat) :
    turnTick n tick = ⟨tick.turno + 1, false⟩ := by
  have next := toNat_succ (Nat.lt_of_succ_lt below)
  have other : tick.turno + 1 ≠ n := by
    rintro rfl
    omega
  rw [turnTick_eq, if_neg other]

/-- Behind the last place the master sends its data. -/
theorem turnTick_vuelve {n : UInt8} {tick : TickTurno} (last : tick.turno.toNat + 1 = n.toNat) :
    turnTick n tick = ⟨1, true⟩ := by
  have next := toNat_succ (Nat.lt_of_succ_le last.le)
  rw [turnTick_eq, if_pos (UInt8.toNat_inj.mp (next.trans last))]

/-- What a tick shows. -/
def TickTurno.muestra (tick : TickTurno) : Nat × Bool :=
  (tick.turno.toNat, tick.sendData)

/-- The places are announced one after the other. -/
theorem iterate_sube {n : UInt8} (rounds : Nat) {tick : TickTurno}
    (below : tick.turno.toNat + rounds < n.toNat) :
    (List.iterate (turnTick n) (turnTick n tick) rounds).map TickTurno.muestra =
        (List.range' (tick.turno.toNat + 1) rounds).map (·, false) ∧
      ((turnTick n)^[rounds] tick).turno.toNat = tick.turno.toNat + rounds := by
  induction rounds generalizing tick with
  | zero => exact ⟨rfl, rfl⟩
  | succ rounds ih =>
      have inside : tick.turno.toNat < n.toNat := by omega
      have next := toNat_succ inside
      have sube : turnTick n tick = ⟨tick.turno + 1, false⟩ := turnTick_sube (by omega)
      have despues : (turnTick n tick).turno.toNat = tick.turno.toNat + 1 := by
        rw [sube]
        exact next
      have ⟨lista, final⟩ := @ih (turnTick n tick) (by omega)
      constructor
      · rw [List.iterate, List.map_cons, lista, despues, List.range'_succ, List.map_cons, sube,
          TickTurno.muestra, next]
      · rw [Function.iterate_succ_apply, final, despues]
        omega

/-- A round from any place: up to the last one, the master, and up to the place again. -/
theorem iterate_ronda {n : UInt8} {tick : TickTurno} (enRonda : EnRonda n tick.turno) :
    (List.iterate (turnTick n) (turnTick n tick) (n.toNat - 1)).map TickTurno.muestra =
      (List.range' (tick.turno.toNat + 1) (n.toNat - 1 - tick.turno.toNat)).map (·, false) ++
        (1, true) :: (List.range' 2 (tick.turno.toNat - 1)).map (·, false) := by
  obtain ⟨low, high⟩ := enRonda
  have partes : n.toNat - 1 = (n.toNat - 1 - tick.turno.toNat) + (tick.turno.toNat - 1 + 1) := by
    omega
  obtain ⟨sube, final⟩ := @iterate_sube n (n.toNat - 1 - tick.turno.toNat) tick (by omega)
  have vuelve := @turnTick_vuelve n ((turnTick n)^[n.toNat - 1 - tick.turno.toNat] tick)
    (by omega)
  have one : (1 : UInt8).toNat = 1 := rfl
  obtain ⟨resto, -⟩ := @iterate_sube n (tick.turno.toNat - 1) ⟨1, true⟩
    (show (1 : UInt8).toNat + (tick.turno.toNat - 1) < n.toNat by omega)
  nth_rewrite 1 [partes]
  rw [List.iterate_add, List.map_append, sube, ← Function.iterate_succ_apply,
    Function.iterate_succ_apply', vuelve, List.iterate, List.map_cons, resto]
  rfl

/-- A window of a round, seen from what its ticks show. -/
theorem ventanaJusta_of_muestra {n : UInt8} {ticks : List TickTurno} {subida bajada : Nat}
    (total : bajada + 1 + subida = n.toNat - 1)
    (ronda : ticks.map TickTurno.muestra =
      (List.range' (bajada + 2) subida).map (·, false) ++
        (1, true) :: (List.range' 2 bajada).map (·, false)) :
    VentanaJusta n ticks := by
  have envios : ticks.map TickTurno.sendData =
      List.replicate subida false ++ true :: List.replicate bajada false := by
    have segundos := congrArg (List.map Prod.snd) ronda
    simpa [Function.comp_def, TickTurno.muestra] using segundos
  have turnos : ticks.map (·.turno.toNat) =
      List.range' (bajada + 2) subida ++ List.range' 1 (bajada + 1) := by
    have primeros := congrArg (List.map Prod.fst) ronda
    simpa [Function.comp_def, TickTurno.muestra, List.range'_succ] using primeros
  have todos : (ticks.map (·.turno.toNat)).Perm (List.range' 1 (n.toNat - 1)) := by
    have juntos : List.range' 1 (bajada + 1) ++ List.range' (bajada + 2) subida =
        List.range' 1 (n.toNat - 1) := by
      rw [← total, ← @List.range'_append_1 1 (bajada + 1) subida,
        show 1 + (bajada + 1) = bajada + 2 by omega]
    rw [turnos, ← juntos]
    exact List.perm_append_comm
  constructor
  case propios =>
    have cuenta : (ticks.map TickTurno.sendData).count true = 1 := by
      simp [envios, List.count_replicate]
    simpa [List.count, List.countP_map, Function.comp_def] using cuenta
  case anunciados =>
    intro i low high
    rw [todos.count_eq]
    exact List.count_eq_one_of_mem (List.nodup_range' _) (List.mem_range'_1.mpr (by omega))
  case dentro =>
    intro tick member
    have here := todos.mem_iff.mp (List.mem_map_of_mem member)
    rw [UInt8.lt_iff_toNat_lt]
    have := List.mem_range'_1.mp here
    omega

theorem ventanaJusta {n : UInt8} {tick : TickTurno} (enRonda : EnRonda n tick.turno) :
    VentanaJusta n (List.iterate (turnTick n) (turnTick n tick) (n.toNat - 1)) := by
  have ronda := iterate_ronda enRonda
  obtain ⟨low, high⟩ := enRonda
  apply @ventanaJusta_of_muestra n _ (n.toNat - 1 - tick.turno.toNat) (tick.turno.toNat - 1)
  · omega
  · rw [ronda, show tick.turno.toNat - 1 + 2 = tick.turno.toNat + 1 by omega]

/-- A tick stays in the round. -/
theorem EnRonda.turnTick {n : UInt8} {tick : TickTurno} (enRonda : EnRonda n tick.turno) :
    EnRonda n (turnTick n tick).turno := by
  obtain ⟨low, high⟩ := enRonda
  rcases Nat.lt_or_ge (tick.turno.toNat + 1) n.toNat with sube | vuelve
  · have next := toNat_succ high
    rw [turnTick_sube sube]
    show 1 ≤ (tick.turno + 1).toNat ∧ (tick.turno + 1).toNat < n.toNat
    omega
  · have one : (1 : UInt8).toNat = 1 := rfl
    rw [turnTick_vuelve (Nat.le_antisymm high vuelve)]
    show 1 ≤ (1 : UInt8).toNat ∧ (1 : UInt8).toNat < n.toNat
    omega

theorem EnRonda.iterate {n : UInt8} {tick : TickTurno} (enRonda : EnRonda n tick.turno) (k : Nat) :
    EnRonda n ((Group.turnTick n)^[k] tick).turno := by
  induction k with
  | zero => exact enRonda
  | succ k ih =>
    rw [Function.iterate_succ_apply']
    exact ih.turnTick

/-- A window without the data of the master. -/
theorem not_ventanaJusta_of_muestra {n : UInt8} {ticks : List TickTurno} {turnos : List Nat}
    (sube : ticks.map TickTurno.muestra = turnos.map (·, false)) : ¬ VentanaJusta n ticks := by
  intro justa
  have none : ticks.countP TickTurno.sendData = 0 := by
    refine List.countP_eq_zero.mpr fun tick member => ?_
    have shown := List.mem_map_of_mem (f := TickTurno.muestra) member
    rw [sube] at shown
    obtain ⟨_, _, same⟩ := List.mem_map.mp shown
    have sin : false = tick.sendData := congrArg Prod.snd same
    rw [← sin]
    exact Bool.false_ne_true
  rw [justa.propios] at none
  cases none

/-- In a group of one a tick announces a place of the group only if it sends nothing. -/
theorem not_ventanaJusta_de_uno {n : UInt8} {tick : TickTurno} (uno : n.toNat < 2) :
    ¬ VentanaJusta n [turnTick n tick] := by
  intro justa
  have dentro := UInt8.lt_iff_toNat_lt.mp (justa.dentro _ List.mem_cons_self)
  have propio : [turnTick n tick].countP TickTurno.sendData = 1 := justa.propios
  rw [turnTick_eq] at dentro propio
  split_ifs at dentro propio
  · have fuera : (1 : UInt8).toNat < n.toNat := dentro
    have one : (1 : UInt8).toNat = 1 := rfl
    omega
  · cases propio

/-- Above the group a tick counts on, up to 0. -/
theorem turnTick_arriba {n : UInt8} {tick : TickTurno} (dos : 2 ≤ n.toNat)
    (arriba : n.toNat ≤ tick.turno.toNat) :
    turnTick n tick = ⟨tick.turno + 1, false⟩ ∧
      (tick.turno + 1).toNat = (tick.turno.toNat + 1) % 256 := by
  have size := tick.turno.toNat_lt
  have siguiente : (tick.turno + 1).toNat = (tick.turno.toNat + 1) % 256 := by
    rw [UInt8.toNat_add]
    rfl
  have distinto : tick.turno + 1 ≠ n := by
    intro igual
    rw [igual] at siguiente
    omega
  rw [turnTick_eq, if_neg distinto]
  exact ⟨rfl, siguiente⟩

/-- From above the group the first window has a place beyond it or, when the counter comes
to 0, no data of the master. -/
theorem not_ventanaJusta_de_arriba {n : UInt8} {tick : TickTurno} (dos : 2 ≤ n.toNat)
    (arriba : n.toNat ≤ tick.turno.toNat) :
    ¬ VentanaJusta n (List.iterate (turnTick n) (turnTick n tick) (n.toNat - 1)) := by
  intro justa
  obtain ⟨primero, siguiente⟩ := turnTick_arriba dos arriba
  obtain ⟨resto, otros⟩ := Nat.exists_eq_add_of_le (show 1 ≤ n.toNat - 1 by omega)
  rw [otros, Nat.add_comm, List.iterate] at justa
  rcases Nat.eq_or_lt_of_le (Nat.le_of_lt_succ tick.turno.toNat_lt) with ultimo | antes
  · have cero : (turnTick n tick).turno.toNat = 0 := by
      rw [primero, siguiente, ultimo]
    have sube := (@iterate_sube n resto (turnTick n tick) (by omega)).1
    refine @not_ventanaJusta_of_muestra n _
      (0 :: List.range' ((turnTick n tick).turno.toNat + 1) resto) ?_ justa
    rw [List.map_cons, sube, List.map_cons, primero, TickTurno.muestra, siguiente, ultimo]
  · have dentro := UInt8.lt_iff_toNat_lt.mp (justa.dentro _ List.mem_cons_self)
    rw [primero] at dentro
    have fuera : (tick.turno + 1).toNat < n.toNat := dentro
    omega

/-- Outside of the round the first window is already unfair. -/
theorem enRonda_of_ventanaJusta {n : UInt8} {tick : TickTurno}
    (justa : VentanaJusta n
      (List.iterate (turnTick n) (turnTick n tick) (max 1 (n.toNat - 1)))) :
    EnRonda n tick.turno := by
  rcases Nat.lt_or_ge n.toNat 2 with uno | dos
  · have one : max 1 (n.toNat - 1) = 1 := by omega
    rw [one] at justa
    exact absurd justa (not_ventanaJusta_de_uno uno)
  · have larga : max 1 (n.toNat - 1) = n.toNat - 1 := by omega
    rw [larga] at justa
    constructor
    · by_contra cero
      exact not_ventanaJusta_of_muestra (iterate_sube (n.toNat - 1) (by omega)).1 justa
    · by_contra arriba
      exact not_ventanaJusta_de_arriba dos (Nat.not_lt.mp arriba) justa

/-- While the number stays `n`, the turns are a fair rotation exactly when the counter is
in the round at the beginning. -/
theorem turnos_justos (historia : List UInt8) (n : UInt8) (maximo : n ≤ 40) :
    TurnosJustos n (trasHistoria historia) ↔ EnRonda n (trasHistoria historia).turno := by
  constructor
  · intro justos
    exact enRonda_of_ventanaJusta (justos.ventanas 0)
  · intro enRonda
    have mas : max 1 (n.toNat - 1) = n.toNat - 1 := by
      have ⟨low, high⟩ := enRonda
      omega
    constructor
    · intro k
      rw [mas, Function.iterate_succ_apply']
      exact ventanaJusta (enRonda.iterate k)
    · intro k
      have ⟨_, high⟩ := enRonda.iterate (k + 1)
      have forty := UInt8.le_iff_toNat_le.mp maximo
      refine respondeElSuyo (UInt8.lt_iff_toNat_lt.mpr ?_)
      exact Nat.lt_trans (Nat.lt_of_lt_of_le high forty) (by decide)

theorem turnos_justos_tres : TurnosJustos 3 (trasHistoria [4, 4, 3]) :=
  (turnos_justos [4, 4, 3] 3 (by decide)).mpr ⟨by decide, by decide⟩

/-- The group is of ten, and of three when the seventh charger has been announced. -/
theorem turnos_injustos_menguante :
    ¬ TurnosJustos 3 (trasHistoria [10, 10, 10, 10, 10, 10, 10]) := by
  intro justos
  have dentro := (justos.ventanas 0).dentro ⟨8, false⟩ (by decide)
  exact absurd dentro (by decide)

/-! ## Groups that grow, and recovery -/

theorem EnRonda.mono {n m turno : UInt8} (enRonda : EnRonda n turno) (crece : n ≤ m) :
    EnRonda m turno :=
  ⟨enRonda.1, Nat.lt_of_lt_of_le enRonda.2 (UInt8.le_iff_toNat_le.mp crece)⟩

/-- The first tick from 0. -/
theorem enRonda_de_cero {n : UInt8} {tick : TickTurno} (cero : tick.turno.toNat = 0)
    (dos : 2 ≤ n) : EnRonda n (turnTick n tick).turno := by
  have two : 2 ≤ n.toNat := UInt8.le_iff_toNat_le.mp dos
  have next := @toNat_succ n tick.turno (by omega)
  rw [turnTick_sube (by omega)]
  show 1 ≤ (tick.turno + 1).toNat ∧ (tick.turno + 1).toNat < n.toNat
  omega

/-- A group of two or more that never gets smaller is in the round after a tick. -/
theorem enRonda_de_creciente {historia : List UInt8} {n : UInt8}
    (crece : historia.Pairwise (· ≤ ·)) (numeros : ∀ m ∈ historia, 2 ≤ m ∧ m ≤ n)
    (algo : historia ≠ []) : EnRonda n (trasHistoria historia).turno := by
  induction historia using List.reverseRecOn generalizing n with
  | nil => exact absurd rfl algo
  | append_singleton historia m ih =>
    obtain ⟨antes, -, hasta⟩ := List.pairwise_append.mp crece
    have ⟨dos, tope⟩ := numeros m (List.mem_append_right _ (List.mem_singleton_self m))
    have ultimo : trasHistoria (historia ++ [m]) = turnTick m (trasHistoria historia) := by
      rw [trasHistoria, List.foldl_append]
      rfl
    rw [ultimo]
    refine EnRonda.mono ?_ tope
    rcases List.eq_nil_or_concat historia with rfl | ⟨_, _, rfl⟩
    · exact enRonda_de_cero rfl dos
    · refine EnRonda.turnTick (ih antes (fun k member => ?_) (by simp))
      exact ⟨(numeros k (List.mem_append_left _ member)).1,
        hasta k member m (List.mem_singleton_self m)⟩

/-- Above the group the counter goes on until it comes to 0. -/
theorem iterate_desborda {n : UInt8} {tick : TickTurno} (arriba : n.toNat ≤ tick.turno.toNat)
    (dos : 2 ≤ n.toNat) (rounds : Nat) (hasta : tick.turno.toNat + rounds ≤ 256) :
    ((turnTick n)^[rounds] tick).turno.toNat = (tick.turno.toNat + rounds) % 256 := by
  induction rounds with
  | zero => exact (Nat.mod_eq_of_lt tick.turno.toNat_lt).symm
  | succ rounds ih =>
    have antes := ih (by omega)
    rw [Nat.mod_eq_of_lt (by omega)] at antes
    obtain ⟨primero, siguiente⟩ :=
      @turnTick_arriba n ((turnTick n)^[rounds] tick) dos (by omega)
    rw [Function.iterate_succ_apply', primero, siguiente, antes, Nat.add_assoc]

/-- In a group of two or more the counter is in the round again in less than 256 ticks. -/
theorem turnos_se_recuperan {n : UInt8} (dos : 2 ≤ n) (tick : TickTurno) :
    ∃ k < 256, EnRonda n ((turnTick n)^[k] tick).turno := by
  have two : 2 ≤ n.toNat := UInt8.le_iff_toNat_le.mp dos
  rcases Nat.eq_zero_or_pos tick.turno.toNat with cero | positivo
  · exact ⟨1, by decide, enRonda_de_cero cero dos⟩
  · rcases Nat.lt_or_ge tick.turno.toNat n.toNat with dentro | arriba
    · exact ⟨0, by decide, positivo, dentro⟩
    · have size := tick.turno.toNat_lt
      have cero := iterate_desborda arriba two (256 - tick.turno.toNat) (by omega)
      rw [Nat.add_sub_cancel' (by omega), Nat.mod_self] at cero
      refine ⟨256 - tick.turno.toNat + 1, by omega, ?_⟩
      rw [Function.iterate_succ_apply']
      exact enRonda_de_cero cero dos

end VeltiumCharger.Group
