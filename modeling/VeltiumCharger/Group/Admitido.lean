import VeltiumCharger.Group.Estabilidad
import VeltiumCharger.Group.Solicitud

/-!
# What is counted once a charger is admitted

An admission sends the charger to `C2`, and the evictions of the same tick send
theirs to `B1`.  The next pass counts both: the admitted charger by its
currents, which are zero when it was idle, and an evicted one as one unit.
This file gives what is counted then in terms of the table before the tick.
-/

namespace VeltiumCharger.Group

open Finset VeltiumCharger.Loop

/-! ## A record in `C2` -/

namespace CaracCharger

variable (charger : CaracCharger)

/-- The charger shows three phases once it is in `C2`: the currents of an idle one
are cleared before. -/
def trifasicoEnC2 : Bool :=
  !charger.hpt.idle && charger.threePhase

/-- The charger is marked as three-phase once it is counted in `C2`. -/
def marcaEnC2 : Prop :=
  charger.hpt.idle = false ∧ (charger.threePhase = true ∨ charger.trifasico ≠ 0)

instance : Decidable charger.marcaEnC2 :=
  inferInstanceAs (Decidable (_ ∧ _))

/-- The units counted for the charger in `C2`. -/
def pesoEnC2 : Nat :=
  if charger.trifasicoEnC2 then 3 else 1

/-- The current counted for the charger in `C2`. -/
def corrienteEnC2 : Nat :=
  if charger.hpt.idle then 0
  else charger.current.toNat +
    if charger.threePhase then charger.currentB.toNat + charger.currentC.toNat else 0

/-- How often the charger in `C2` is counted on phase `f` of circuit `k`. -/
def cargaEnC2 (k f : Nat) : Nat :=
  if charger.circuitoIdx = k then
    (if charger.faseA = f then 1 else 0) +
      if charger.trifasicoEnC2 then
        (if 0 < charger.currentB.toNat ∧ charger.faseB = f then 1 else 0) +
          (if 0 < charger.currentC.toNat ∧ charger.faseC = f then 1 else 0)
      else 0
  else 0

@[simp]
theorem contado_contado (charger : CaracCharger) :
    charger.contado.contado = charger.contado := by
  by_cases connected : charger.hpt.connected = true
  · have threePhase := contado_threePhase_of_connected connected
    rw [@contado_of_connected charger.contado (by simpa using connected), threePhase,
      contado_of_connected connected]
    split_ifs <;> rfl
  · by_cases idle : charger.hpt.idle = true
    · simp [contado, connected, idle, reposar]
    · simp [contado, connected, idle]

/-- The record of a charger that the pass has counted and the tick has admitted. -/
def admitido : CaracCharger :=
  { charger.contado with hpt := .ofText 'C' '2' }

variable {charger}

theorem admitido_connected : charger.admitido.hpt.connected = true :=
  rfl

@[simp]
theorem admitido_circuitoIdx : charger.admitido.circuitoIdx = charger.circuitoIdx :=
  contado_circuitoIdx charger

@[simp]
theorem admitido_faseA : charger.admitido.faseA = charger.faseA := by
  change charger.contado.faseA = charger.faseA
  rw [faseA, contado_fase, faseA]

/-- An idle record is cleared before it is admitted; of any other the counting
changes the mark only. -/
theorem admitido_cases (charger : CaracCharger) :
    (charger.hpt.idle = true ∧
        charger.admitido = { charger.reposar with hpt := .ofText 'C' '2' }) ∨
      (charger.hpt.idle = false ∧ ∃ trifasico,
        charger.admitido = { charger with hpt := .ofText 'C' '2', trifasico } ∧
        (trifasico = charger.trifasico ∨ charger.threePhase = true ∧ trifasico = 1)) := by
  unfold admitido
  by_cases connected : charger.hpt.connected = true
  · right
    refine ⟨Hpt.idle_eq_false_of_connected connected, ?_⟩
    rw [contado_of_connected connected]
    split_ifs with threePhase
    · exact ⟨1, rfl, .inr ⟨threePhase, rfl⟩⟩
    · exact ⟨charger.trifasico, rfl, .inl rfl⟩
  · cases idle : charger.hpt.idle with
    | true => exact .inl ⟨rfl, by simp [contado, connected, idle]⟩
    | false =>
        refine .inr ⟨rfl, charger.trifasico, ?_, .inl rfl⟩
        simp [contado, connected, idle]

theorem admitido_threePhase : charger.admitido.threePhase = charger.trifasicoEnC2 := by
  rcases admitido_cases charger with ⟨idle, equal⟩ | ⟨awake, _, equal, _⟩
  · rw [equal, trifasicoEnC2, idle]
    rfl
  · rw [equal, trifasicoEnC2, awake]
    rfl

theorem admitido_peso : charger.admitido.peso = charger.pesoEnC2 := by
  rw [peso, if_pos admitido_connected, admitido_threePhase, pesoEnC2]

theorem admitido_corrienteContada : charger.admitido.corrienteContada = charger.corrienteEnC2 := by
  rw [corrienteContada, if_pos admitido_connected]
  rcases admitido_cases charger with ⟨idle, equal⟩ | ⟨awake, _, equal, _⟩
  · rw [equal, corrienteEnC2, idle]
    rfl
  · rw [equal, corrienteEnC2, awake]
    rfl

theorem admitido_carga (k f : Nat) : charger.admitido.carga k f = charger.cargaEnC2 k f := by
  simp only [carga, admitido_connected, true_and, admitido_circuitoIdx, admitido_faseA,
    admitido_threePhase, cargaEnC2]
  rcases admitido_cases charger with ⟨idle, _⟩ | ⟨_, _, equal, _⟩
  · simp [trifasicoEnC2, idle]
  · rw [equal]
    rfl

theorem admitido_trifasico : charger.admitido.contado.trifasico ≠ 0 ↔ charger.marcaEnC2 := by
  rw [contado_of_connected admitido_connected, admitido_threePhase, trifasicoEnC2, marcaEnC2]
  rcases admitido_cases charger with ⟨idle, equal⟩ | ⟨awake, _, equal, mark⟩
  · simp [equal, idle, reposar]
  · rw [equal, awake]
    rcases mark with rfl | ⟨threePhase, rfl⟩
    · cases threePhase : charger.threePhase <;> simp
    · simp [threePhase]

/-- A connected charger is counted in `C2` as it was. -/
theorem enC2_of_connected (connected : charger.hpt.connected = true) :
    charger.pesoEnC2 = charger.peso ∧ charger.corrienteEnC2 = charger.corrienteContada ∧
      ∀ k f, charger.cargaEnC2 k f = charger.carga k f := by
  have awake := Hpt.idle_eq_false_of_connected connected
  simp [pesoEnC2, peso, corrienteEnC2, corrienteContada, cargaEnC2, carga, trifasicoEnC2, awake,
    connected]

end CaracCharger

/-! ## The table before the tick -/

namespace GroupState

variable (s : GroupState)

/-- The units counted once charger `i` is admitted: an evicted charger counts one. -/
def pesoCon (rondas i : Nat) : Nat :=
  ∑ j ∈ range s.chargerNumber,
    if s.expulsadoTras rondas j then 1
    else if j = i then (s.chargerTable j).pesoEnC2 else (s.chargerTable j).peso

/-- How often phase `f` of circuit `k` is counted once charger `i` is admitted: an
evicted charger loads its own phase. -/
def cargaCon (rondas i k f : Nat) : Nat :=
  ∑ j ∈ range s.chargerNumber,
    if s.expulsadoTras rondas j then
      if (s.chargerTable j).circuitoIdx = k ∧ (s.chargerTable j).faseA = f then 1 else 0
    else if j = i then (s.chargerTable j).cargaEnC2 k f else (s.chargerTable j).carga k f

/-- The current counted once charger `i` is admitted: an evicted charger takes none. -/
def corrienteTotalCon (rondas i : Nat) : Nat :=
  ∑ j ∈ range s.chargerNumber,
    if s.expulsadoTras rondas j then 0
    else if j = i then (s.chargerTable j).corrienteEnC2 else (s.chargerTable j).corrienteContada

/-- The current there is to share out once charger `i` is admitted. -/
def corrienteCon (rondas i : Nat) : Nat :=
  if s.params.contadorConfigurado ∧ s.contadorExt.gatewayConectado then
    limitadaPorContador (corrienteLimiteCdp s.params s.contadorExt.power
      (s.corrienteTotalCon rondas i % 65536 / 100 % 256)) s.numInformando s.chargerNumber
  else limitadaPorPotencia s s.numInformando

/-- Charger `j` is marked as three-phase once charger `i` is admitted. -/
def marcaCon (i j : Nat) : Prop :=
  if j = i then (s.chargerTable j).marcaEnC2 else (s.tablaContada j).trifasico ≠ 0

instance (i j : Nat) : Decidable (s.marcaCon i j) :=
  inferInstanceAs (Decidable (ite _ _ _))

/-- With charger `i` admitted there is room for charger `j` over again: 6 A of the
group for each unit counted and each of its own, and 7 A of each phase for
every charger counted and one more. -/
def cabeCon (rondas i j : Nat) : Prop :=
  6 * (s.pesoCon rondas i + if s.marcaCon i j then 3 else 1) ≤ s.corrienteCon rondas i ∧
    ∀ f, f < 3 → s.marcaCon i j ∨ (s.chargerTable j).faseA = f →
      7 * (s.cargaCon rondas i (s.chargerTable j).circuitoIdx f + 1) ≤ s.limiteDe j

/-- With charger `i` admitted, every charger that is given a setpoint and shows three
phases has 6 A of its own phase: all of it when nobody is counted there. -/
def trifasicosCaben (rondas i : Nat) : Prop :=
  ∀ j, j < s.chargerNumber → ¬ s.expulsadoTras rondas j →
    (if j = i then (s.chargerTable j).trifasicoEnC2 = true
      else (s.chargerTable j).hpt.assigned = true ∧ (s.chargerTable j).threePhase = true) →
    6 * max 1 (s.cargaCon rondas i (s.chargerTable j).circuitoIdx (s.chargerTable j).faseA) ≤
      s.limiteDe j

/-- The admission of charger `i` can last: there is room for it over again, for no
earlier charger that asks, and the phases leave the three-phase chargers 6 A. -/
structure Duradera (rondas i : Nat) : Prop where
  cabe : s.cabeCon rondas i i
  primero : ∀ j, j < i → s.solicita rondas j → ¬ s.cabeCon rondas i j
  trifasicos : s.trifasicosCaben rondas i

instance (rondas i j : Nat) : Decidable (s.cabeCon rondas i j) :=
  inferInstanceAs (Decidable (_ ∧ ∀ f, f < 3 → _ → _))

instance (rondas i : Nat) : Decidable (s.trifasicosCaben rondas i) :=
  inferInstanceAs (Decidable (∀ j, j < _ → _))

/-- The group right after the admission of charger `i`, with `rondas` evictions
before it in the same tick. -/
def conAdmitido (rondas i : Nat) : GroupState :=
  { s with
    chargerTable := Function.update (s.tablaTras rondas) i
      { s.tablaTras rondas i with hpt := .ofText 'C' '2' } }

variable {s} {rondas i : Nat}

/-- The records right after an admission. -/
theorem conAdmitido_cases (stays : ¬ s.expulsadoTras rondas i) {j : Nat}
    (below : j < s.chargerNumber) :
    (s.expulsadoTras rondas j ∧ j ≠ i ∧
        (s.conAdmitido rondas i).chargerTable j = (s.tablaContada j).expulsar) ∨
      (¬ s.expulsadoTras rondas j ∧
        (s.conAdmitido rondas i).chargerTable j =
          if j = i then (s.chargerTable j).admitido else (s.chargerTable j).contado) := by
  have counted : s.tablaContada j = (s.chargerTable j).contado := by
    rw [tablaContada, if_pos below]
  unfold conAdmitido
  by_cases gone : s.expulsadoTras rondas j
  · have other : j ≠ i := by
      rintro rfl
      exact stays gone
    refine .inl ⟨gone, other, ?_⟩
    dsimp only
    rw [Function.update_of_ne other, tablaTras, if_pos gone]
  · refine .inr ⟨gone, ?_⟩
    by_cases here : j = i
    · subst here
      rw [if_pos rfl]
      dsimp only
      rw [Function.update_self, tablaTras, if_neg gone, counted]
      rfl
    · rw [if_neg here]
      dsimp only
      rw [Function.update_of_ne here, tablaTras, if_neg gone, counted]

theorem hpt_conAdmitido (rondas i : Nat) :
    ((s.conAdmitido rondas i).chargerTable i).hpt = .ofText 'C' '2' := by
  simp [conAdmitido]

theorem fase_conAdmitido (rondas i j : Nat) :
    ((s.conAdmitido rondas i).chargerTable j).fase = (s.chargerTable j).fase := by
  unfold conAdmitido
  by_cases here : j = i
  · subst here
    simp [tablaTras_fase]
  · simp [here, tablaTras_fase]

theorem circuito_conAdmitido (rondas i j : Nat) :
    ((s.conAdmitido rondas i).chargerTable j).circuito = (s.chargerTable j).circuito := by
  unfold conAdmitido
  by_cases here : j = i
  · subst here
    simp [tablaTras_circuito]
  · simp [here, tablaTras_circuito]

theorem circuitoIdx_conAdmitido (rondas i j : Nat) :
    ((s.conAdmitido rondas i).chargerTable j).circuitoIdx = (s.chargerTable j).circuitoIdx := by
  rw [CaracCharger.circuitoIdx, circuito_conAdmitido, CaracCharger.circuitoIdx]

theorem faseA_conAdmitido (rondas i j : Nat) :
    ((s.conAdmitido rondas i).chargerTable j).faseA = (s.chargerTable j).faseA := by
  rw [CaracCharger.faseA, fase_conAdmitido, CaracCharger.faseA]

theorem cableado_conAdmitido (wired : s.cableado) : (s.conAdmitido rondas i).cableado :=
  fun j below => (CaracCharger.cableado_congr (fase_conAdmitido rondas i j)
    (circuito_conAdmitido rondas i j)).mpr (wired j below)

section Cuentas

variable (stays : ¬ s.expulsadoTras rondas i)

include stays

theorem pesoTotal_conAdmitido : (s.conAdmitido rondas i).pesoTotal = s.pesoCon rondas i := by
  refine sum_congr rfl fun j member => ?_
  rcases conAdmitido_cases stays (mem_range.mp member) with ⟨gone, _, cell⟩ | ⟨kept, cell⟩
  · rw [cell, if_pos gone]
    rfl
  · rw [cell, if_neg kept]
    split_ifs
    · exact CaracCharger.admitido_peso
    · exact CaracCharger.contado_peso _

theorem corrienteTotal_conAdmitido :
    (s.conAdmitido rondas i).corrienteTotal = s.corrienteTotalCon rondas i := by
  refine sum_congr rfl fun j member => ?_
  rcases conAdmitido_cases stays (mem_range.mp member) with ⟨gone, _, cell⟩ | ⟨kept, cell⟩
  · rw [cell, if_pos gone]
    rfl
  · rw [cell, if_neg kept]
    split_ifs
    · exact CaracCharger.admitido_corrienteContada
    · exact CaracCharger.contado_corrienteContada _

theorem cargaFase_conAdmitido (k f : Nat) :
    (s.conAdmitido rondas i).cargaFase k f = s.cargaCon rondas i k f := by
  refine sum_congr rfl fun j member => ?_
  have below := mem_range.mp member
  rcases conAdmitido_cases stays below with ⟨gone, _, cell⟩ | ⟨kept, cell⟩
  · have circuit := tablaTras_circuito (s := s) rondas j
    have phase := tablaTras_fase (s := s) rondas j
    rw [tablaTras, if_pos gone] at circuit phase
    have alone : (s.tablaContada j).expulsar.threePhase = false := rfl
    have counted : (s.tablaContada j).expulsar.hpt.connected = true := rfl
    rw [cell, if_pos gone, CaracCharger.carga, counted, alone, CaracCharger.circuitoIdx,
      CaracCharger.faseA, circuit, phase]
    simp only [true_and, Bool.false_eq_true, if_false, Nat.add_zero, ← ite_and]
    rfl
  · rw [cell, if_neg kept]
    split_ifs
    · exact CaracCharger.admitido_carga k f
    · exact CaracCharger.contado_carga _ k f

theorem numInformando_conAdmitido :
    (s.conAdmitido rondas i).numInformando = s.numInformando := by
  refine sum_congr rfl fun j member => ?_
  have below := mem_range.mp member
  have same : ((s.conAdmitido rondas i).chargerTable j).conected = (s.chargerTable j).conected := by
    rcases conAdmitido_cases stays below with ⟨_, _, cell⟩ | ⟨_, cell⟩
    · rw [cell, tablaContada, if_pos below]
      exact CaracCharger.contado_conected _
    · rw [cell]
      split_ifs <;> exact CaracCharger.contado_conected _
  rw [same]

/-- Somebody is counted: the admitted charger. -/
theorem pesoCon_pos (below : i < s.chargerNumber) : 0 < s.pesoCon rondas i := by
  refine sum_pos' (fun _ _ => Nat.zero_le _) ⟨i, mem_range.mpr below, ?_⟩
  rw [if_neg stays, if_pos rfl, CaracCharger.pesoEnC2]
  split_ifs <;> decide

theorem corrienteGrupo_conAdmitido (below : i < s.chargerNumber) :
    (s.conAdmitido rondas i).corrienteGrupo = s.corrienteCon rondas i := by
  have counted : 0 < (s.conAdmitido rondas i).pesoTotal := by
    rw [pesoTotal_conAdmitido stays]
    exact pesoCon_pos stays below
  unfold corrienteGrupo corrienteCon consumo limitadaPorPotencia
  rw [corrienteTotal_conAdmitido stays, numInformando_conAdmitido stays]
  simp only [counted, true_and]
  rfl

/-- The mark that the test reads right after the admission. -/
theorem trifasico_conAdmitido {j : Nat} (below : j < s.chargerNumber)
    (kept : ¬ s.expulsadoTras rondas j) :
    ((s.conAdmitido rondas i).tablaContada j).trifasico ≠ 0 ↔ s.marcaCon i j := by
  have counted : (s.conAdmitido rondas i).tablaContada j =
      ((s.conAdmitido rondas i).chargerTable j).contado := by
    rw [tablaContada]
    exact if_pos below
  rcases conAdmitido_cases stays below with ⟨gone, _, _⟩ | ⟨_, cell⟩
  · exact absurd gone kept
  · rw [counted, cell, marcaCon]
    split_ifs
    · exact CaracCharger.admitido_trifasico
    · rw [CaracCharger.contado_contado, tablaContada, if_pos below]

/-- The same chargers ask as before the tick, without those evicted. -/
theorem solicita_conAdmitido {j : Nat} (below : j < s.chargerNumber) :
    (s.conAdmitido rondas i).solicita 0 j ↔ s.solicita rondas j := by
  simp only [solicita, not_expulsadoTras_zero, not_false_eq_true, and_true]
  rcases conAdmitido_cases stays below with ⟨gone, _, cell⟩ | ⟨kept, cell⟩
  · rw [cell]
    exact iff_of_false Bool.false_ne_true fun asks => asks.2 gone
  · rw [cell, iff_of_eq (and_iff_left kept).eq]
    split_ifs
    · exact Iff.of_eq (congrArg (· = true) (CaracCharger.contado_chargeReq _))
    · rw [CaracCharger.contado_chargeReq]

/-- The test right after the admission, on the table before the tick. -/
theorem cabeSolicitud_conAdmitido (bounded : s.chargerNumber ≤ maxGroupSize)
    (below : i < s.chargerNumber) {j : Nat} (belowJ : j < s.chargerNumber)
    (kept : ¬ s.expulsadoTras rondas j) :
    (s.conAdmitido rondas i).cabeSolicitud 0 j ↔ s.cabeCon rondas i j := by
  have mark := trifasico_conAdmitido stays belowJ kept
  have limit : (s.conAdmitido rondas i).limiteDe j = s.limiteDe j := by
    unfold limiteDe
    rw [circuitoIdx_conAdmitido]
    rfl
  rw [cabeSolicitud_iff_cabeOtraVez]
  simp only [cabeOtraVez, cabeCon, descuento, pruebaFase, limit, mark]
  rw [unidadesTras_zero (s := s.conAdmitido rondas i) bounded, pesoTotal_conAdmitido stays,
    corrienteGrupo_conAdmitido stays below, circuitoIdx_conAdmitido, faseA_conAdmitido]
  simp only [cargaFase_conAdmitido stays]

end Cuentas

/-- While nobody is evicted, the admission of a charger that is counted already
changes nothing that the test reads. -/
theorem cabeCon_zero_iff (bounded : s.chargerNumber ≤ maxGroupSize) (below : i < s.chargerNumber)
    (connected : (s.chargerTable i).hpt.connected = true) {j : Nat} :
    s.cabeCon 0 i j ↔ s.cabeSolicitud 0 j := by
  obtain ⟨weight, current, load⟩ := CaracCharger.enC2_of_connected connected
  have units : s.pesoCon 0 i = s.pesoTotal := by
    refine sum_congr rfl fun k _ => ?_
    rw [if_neg not_expulsadoTras_zero]
    split_ifs with here
    · rw [here, weight]
    · rfl
  have loads : ∀ k f, s.cargaCon 0 i k f = s.cargaFase k f := by
    refine fun k f => sum_congr rfl fun l _ => ?_
    rw [if_neg not_expulsadoTras_zero]
    split_ifs with here
    · rw [here, load]
    · rfl
  have total : s.corrienteTotalCon 0 i = s.corrienteTotal := by
    refine sum_congr rfl fun k _ => ?_
    rw [if_neg not_expulsadoTras_zero]
    split_ifs with here
    · rw [here, current]
    · rfl
  have counted : 0 < s.pesoTotal := units ▸ pesoCon_pos not_expulsadoTras_zero below
  have group : s.corrienteCon 0 i = s.corrienteGrupo := by
    unfold corrienteCon corrienteGrupo consumo
    rw [total]
    simp only [counted, true_and]
  have mark : s.marcaCon i j ↔ (s.tablaContada j).trifasico ≠ 0 := by
    unfold marcaCon
    split_ifs with here
    · subst here
      rw [tablaContada, if_pos below, CaracCharger.contado_of_connected connected,
        CaracCharger.marcaEnC2, Hpt.idle_eq_false_of_connected connected]
      cases (s.chargerTable j).threePhase <;> simp
    · rfl
  rw [cabeSolicitud_iff_cabeOtraVez]
  simp only [cabeCon, cabeOtraVez, descuento, pruebaFase, mark, units, loads, group,
    unidadesTras_zero bounded]

end GroupState

end VeltiumCharger.Group
