import Mathlib.Algebra.BigOperators.Ring.Finset
import Mathlib.Data.Prod.Lex
import VeltiumCharger.Group.Recuento
import VeltiumCharger.Library.Rank

/-!
# The eviction loop in closed form

Each round of the eviction loop searches the table for the charger admitted
last and subtracts what it was counted for.  Since an eviction changes nothing
that the search or the subtraction reads of another charger, the state after
any number of rounds is a function of the table the pass started from: who has
been evicted is told by the rank of its admission order, and the units still
counted by a sum.

Once the search finds nobody it falls back to index `0`, evicting that charger
again and again.
-/

namespace VeltiumCharger.Group

open Finset VeltiumCharger.Loop

namespace GroupState

/-! ## The state after a number of evictions -/

section Abstract

variable (s : GroupState)

/-- The table as the counting loop leaves it. -/
def tablaContada (i : Nat) : CaracCharger :=
  if i < s.chargerNumber then (s.chargerTable i).contado else s.chargerTable i

/-- The consumption of the group in whole amperes, as the program stores it. -/
def consumo : Nat :=
  s.corrienteTotal % 65536 / 100 % 256

/-- The current the pass shares out. -/
def corrienteGrupo : Nat :=
  if 0 < s.pesoTotal ∧ s.params.contadorConfigurado ∧ s.contadorExt.gatewayConectado then
    limitadaPorContador (corrienteLimiteCdp s.params s.contadorExt.power s.consumo)
      s.numInformando s.chargerNumber
  else limitadaPorPotencia s s.numInformando

/-- The chargers that the search for the last one admitted can find. -/
def candidatos : Finset Nat :=
  {i ∈ range s.chargerNumber |
    (s.chargerTable i).hpt.charging ∧ 0 < (s.chargerTable i).order.toNat}

/-- The search finds `i` before `j`: the larger admission order counts, and the
smaller index among equal ones. -/
def antes (i j : Nat) : Prop :=
  (s.chargerTable j).order.toNat < (s.chargerTable i).order.toNat ∨
    ((s.chargerTable i).order.toNat = (s.chargerTable j).order.toNat ∧ i < j)

instance : DecidableRel s.antes := fun _ _ => inferInstanceAs (Decidable (_ ∨ _))

/-- The number of evictions before that of charger `j`. -/
def rango (j : Nat) : Nat :=
  #{i ∈ s.candidatos | s.antes i j}

/-- Charger `i` is among the first `rondas` evicted. -/
def expulsadoTras (rondas i : Nat) : Prop :=
  (i ∈ s.candidatos ∧ s.rango i < rondas) ∨ (i = 0 ∧ #s.candidatos < rondas)

instance (rondas : Nat) : DecidablePred (s.expulsadoTras rondas) :=
  fun _ => inferInstanceAs (Decidable (_ ∨ _))

/-- The table after `rondas` evictions. -/
def tablaTras (rondas i : Nat) : CaracCharger :=
  if s.expulsadoTras rondas i then (s.tablaContada i).expulsar else s.tablaContada i

/-- The units subtracted when charger `i` is evicted, by its three-phase mark. -/
def descuento (i : Nat) : Nat :=
  if (s.tablaContada i).trifasico ≠ 0 then 3 else 1

/-- The units subtracted by the first `rondas` evictions. -/
def descontado (rondas : Nat) : Nat :=
  ∑ i ∈ s.candidatos with s.rango i < rondas, s.descuento i +
    (rondas - #s.candidatos) * s.descuento 0

/-- `conex_con_tri` after `rondas` evictions. -/
def unidadesTras (rondas : Nat) : Nat :=
  (((s.pesoTotal : Int) - s.descontado rondas) % 256).toNat

/-- `corriente_disponible_total` after `rondas` evictions. -/
def cuotaTras : Nat → Nat
  | 0 =>
      if 0 < s.unidadesTras 0 then s.corrienteGrupo / s.unidadesTras 0
      else s.corrienteDisponibleTotal
  | rondas + 1 =>
      if 0 < s.unidadesTras (rondas + 1) then
        s.corrienteGrupo / s.unidadesTras (rondas + 1)
      else cuotaTras rondas

/-- After `rondas` evictions nobody is counted any more, or 6 A for each
counted unit fit in the current of the group. -/
def cabeTras (rondas : Nat) : Prop :=
  s.unidadesTras rondas = 0 ∨ 6 * s.unidadesTras rondas ≤ s.corrienteGrupo

instance : DecidablePred s.cabeTras := fun _ => inferInstanceAs (Decidable (_ ∨ _))

/-- The pass evicts `rondas` times: the least number after which the rest
fits. -/
def expulsaVeces (rondas : Nat) : Prop :=
  s.cabeTras rondas ∧ ∀ menos, menos < rondas → ¬ s.cabeTras menos

instance : DecidablePred s.expulsaVeces :=
  fun rondas => inferInstanceAs (Decidable (_ ∧ ∀ menos, menos < rondas → _))

end Abstract

/-! ## The search -/

section Busqueda

variable {s : GroupState}

theorem mem_candidatos {i : Nat} :
    i ∈ s.candidatos ↔ i < s.chargerNumber ∧
      (s.chargerTable i).hpt.charging = true ∧ 0 < (s.chargerTable i).order.toNat := by
  simp [candidatos]

theorem card_candidatos_le : #s.candidatos ≤ s.chargerNumber := by
  calc
    #s.candidatos ≤ #(range s.chargerNumber) := card_filter_le _ _
    _ = s.chargerNumber := card_range _

variable (s) in
/-- The key whose least value the search finds. -/
def prioridad (i : Nat) : OrderDual Nat ×ₗ Nat :=
  toLex (OrderDual.toDual (s.chargerTable i).order.toNat, i)

theorem prioridad_injective : Function.Injective s.prioridad := by
  intro i j same
  exact (Prod.ext_iff.mp (toLex.injective same)).2

theorem prioridad_lt_iff {i j : Nat} : s.prioridad i < s.prioridad j ↔ s.antes i j := by
  unfold prioridad antes
  rw [Prod.Lex.toLex_lt_toLex]
  simp [OrderDual.toDual_lt_toDual]

theorem rango_eq_rank : s.rango = Rank.rank s.prioridad s.candidatos := by
  funext i
  simp only [rango, Rank.rank, prioridad_lt_iff]

theorem rango_lt_card {i : Nat} (member : i ∈ s.candidatos) : s.rango i < #s.candidatos := by
  rw [rango_eq_rank]
  exact Rank.rank_lt_card member

theorem expulsadoTras_iff_of_le {rondas i : Nat} (enough : rondas ≤ #s.candidatos) :
    s.expulsadoTras rondas i ↔ i ∈ s.candidatos ∧ s.rango i < rondas := by
  simp [expulsadoTras, Nat.not_lt.mpr enough]

theorem expulsadoTras_of_mem {rondas i : Nat} (all : #s.candidatos ≤ rondas)
    (member : i ∈ s.candidatos) : s.expulsadoTras rondas i :=
  .inl ⟨member, (rango_lt_card member).trans_le all⟩

@[simp]
theorem not_expulsadoTras_zero {i : Nat} : ¬ s.expulsadoTras 0 i := by
  simp [expulsadoTras]

theorem tablaContada_hpt (i : Nat) : (s.tablaContada i).hpt = (s.chargerTable i).hpt := by
  unfold tablaContada
  split_ifs <;> simp

theorem tablaContada_chargeReq (i : Nat) :
    (s.tablaContada i).chargeReq = (s.chargerTable i).chargeReq := by
  unfold tablaContada
  split_ifs <;> simp

theorem tablaContada_order_of_charging {i : Nat}
    (charges : (s.chargerTable i).hpt.charging = true) :
    (s.tablaContada i).order = (s.chargerTable i).order := by
  have awake := Hpt.idle_eq_false_of_connected (Hpt.connected_of_charging charges)
  unfold tablaContada
  split_ifs <;> simp [CaracCharger.contado_order, awake]

@[simp]
theorem tablaTras_zero : s.tablaTras 0 = s.tablaContada := by
  funext i
  simp [tablaTras]

theorem tablaTras_order (rondas i : Nat) :
    (s.tablaTras rondas i).order = (s.tablaContada i).order := by
  unfold tablaTras
  split_ifs <;> rfl

theorem tablaTras_trifasico (rondas i : Nat) :
    (s.tablaTras rondas i).trifasico = (s.tablaContada i).trifasico := by
  unfold tablaTras
  split_ifs <;> rfl

theorem tablaTras_fase (rondas i : Nat) :
    (s.tablaTras rondas i).fase = (s.chargerTable i).fase := by
  unfold tablaTras tablaContada
  split_ifs <;> simp [CaracCharger.expulsar]

theorem tablaTras_circuito (rondas i : Nat) :
    (s.tablaTras rondas i).circuito = (s.chargerTable i).circuito := by
  unfold tablaTras tablaContada
  split_ifs <;> simp [CaracCharger.expulsar]

/-- Only the chargers not yet evicted are still charging. -/
theorem tablaTras_charging_iff {rondas i : Nat} :
    (s.tablaTras rondas i).hpt.charging = true ↔
      (s.chargerTable i).hpt.charging = true ∧ ¬ s.expulsadoTras rondas i := by
  unfold tablaTras
  split_ifs with gone
  · simp [gone, CaracCharger.expulsar_charging]
  · simp [gone, tablaContada_hpt]

/-- While candidates are left, a round evicts the one of the next rank. -/
theorem lastIndex_tablaTras {rondas : Nat} (remains : rondas < #s.candidatos) :
    lastIndex s.chargerNumber (s.tablaTras rondas) ∈ s.candidatos ∧
      s.rango (lastIndex s.chargerNumber (s.tablaTras rondas)) = rondas := by
  have spec := scanMax_spec (fun j => (s.tablaTras rondas j).hpt.charging)
    (fun j => (s.tablaTras rondas j).order.toNat) s.chargerNumber
  unfold lastIndex
  set best := scanMax (fun j => (s.tablaTras rondas j).hpt.charging)
    (fun j => (s.tablaTras rondas j).order.toNat) s.chargerNumber
  have left : ∀ i ∈ s.candidatos, rondas ≤ s.rango i →
      (s.tablaTras rondas i).hpt.charging = true ∧
        (s.tablaTras rondas i).order = (s.chargerTable i).order := by
    intro i member later
    have charges := (mem_candidatos.mp member).2.1
    refine ⟨tablaTras_charging_iff.mpr ⟨charges, ?_⟩, ?_⟩
    · rw [expulsadoTras_iff_of_le remains.le]
      exact fun evicted => absurd evicted.2 (by omega)
    · rw [tablaTras_order, tablaContada_order_of_charging charges]
  -- Somebody is left: the candidate whose rank is `rondas`.
  have positive : 0 < best.1 := by
    have position : rondas ∈ s.candidatos.image s.rango := by
      rw [rango_eq_rank, Rank.image_rank prioridad_injective, mem_range]
      exact remains
    rcases mem_image.mp position with ⟨i, member, atRondas⟩
    rcases left i member atRondas.ge with ⟨charges, sameOrder⟩
    have upper := spec.upper i (mem_candidatos.mp member).1 charges
    rw [sameOrder] at upper
    exact (mem_candidatos.mp member).2.2.trans_le upper
  rcases spec.attained positive with ⟨below, charges, attains, first⟩
  rcases tablaTras_charging_iff.mp charges with ⟨charging, stays⟩
  have sameOrder : (s.tablaTras rondas best.2).order = (s.chargerTable best.2).order := by
    rw [tablaTras_order, tablaContada_order_of_charging charging]
  have member : best.2 ∈ s.candidatos :=
    mem_candidatos.mpr ⟨below, charging, by rw [← sameOrder]; omega⟩
  refine ⟨member, ?_⟩
  rw [rango_eq_rank]
  apply Rank.rank_eq_of_least prioridad_injective member
  · rw [← rango_eq_rank]
    by_contra earlier
    exact stays ((expulsadoTras_iff_of_le remains.le).mpr ⟨member, by omega⟩)
  · intro i isCandidate later
    rw [← rango_eq_rank] at later
    rcases left i isCandidate later with ⟨chargesI, sameOrderI⟩
    have upper := spec.upper i (mem_candidatos.mp isCandidate).1 chargesI
    rw [sameOrderI, ← attains, sameOrder] at upper
    rw [← not_lt, prioridad_lt_iff]
    rintro (larger | ⟨equal, earlier⟩)
    · omega
    · have strict := first i earlier chargesI
      rw [sameOrderI, ← attains, sameOrder] at strict
      omega

/-- Once no candidate is left the search falls back to index `0`. -/
theorem lastIndex_tablaTras_of_le {rondas : Nat} (all : #s.candidatos ≤ rondas) :
    lastIndex s.chargerNumber (s.tablaTras rondas) = 0 := by
  apply (scanMax_spec _ _ s.chargerNumber).fallback
  rw [scanMax_eq_zero_iff]
  intro i below charges
  rcases tablaTras_charging_iff.mp charges with ⟨charging, stays⟩
  rw [tablaTras_order, tablaContada_order_of_charging charging]
  by_contra positive
  exact stays (expulsadoTras_of_mem all
    (mem_candidatos.mpr ⟨below, charging, Nat.pos_of_ne_zero positive⟩))

end Busqueda

/-! ## One more eviction -/

section Ronda

variable (s : GroupState)

/-- The charger evicted after `rondas` others. -/
def expulsadoEn (rondas : Nat) : Nat :=
  lastIndex s.chargerNumber (s.tablaTras rondas)

variable {s} {rondas : Nat}

theorem expulsadoTras_succ_iff {i : Nat} :
    s.expulsadoTras (rondas + 1) i ↔ s.expulsadoTras rondas i ∨ i = s.expulsadoEn rondas := by
  rcases Nat.lt_or_ge rondas #s.candidatos with remains | all
  · rcases lastIndex_tablaTras remains with ⟨member, position⟩
    rw [expulsadoTras_iff_of_le remains, expulsadoTras_iff_of_le remains.le]
    rw [rango_eq_rank] at position ⊢
    constructor
    · rintro ⟨isCandidate, below⟩
      have split := (Rank.rank_lt_succ_iff prioridad_injective member position isCandidate).mp below
      exact split.imp_left fun earlier => ⟨isCandidate, earlier⟩
    · rintro (⟨isCandidate, earlier⟩ | rfl)
      · exact ⟨isCandidate, by omega⟩
      · exact ⟨member, by unfold expulsadoEn; omega⟩
  · rw [expulsadoEn, lastIndex_tablaTras_of_le all]
    constructor
    · rintro (⟨isCandidate, _⟩ | ⟨rfl, _⟩)
      · exact .inl (expulsadoTras_of_mem all isCandidate)
      · exact .inr rfl
    · rintro ((⟨isCandidate, below⟩ | ⟨rfl, below⟩) | rfl)
      · exact .inl ⟨isCandidate, by omega⟩
      · exact .inr ⟨rfl, by omega⟩
      · exact .inr ⟨rfl, by omega⟩

theorem tablaTras_succ :
    Function.update (s.tablaTras rondas) (s.expulsadoEn rondas)
        (s.tablaTras rondas (s.expulsadoEn rondas)).expulsar =
      s.tablaTras (rondas + 1) := by
  funext i
  by_cases here : i = s.expulsadoEn rondas
  · subst here
    rw [Function.update_self, tablaTras, tablaTras, if_pos (expulsadoTras_succ_iff.mpr (.inr rfl))]
    split_ifs <;> simp
  · have same : s.expulsadoTras (rondas + 1) i ↔ s.expulsadoTras rondas i := by
      rw [expulsadoTras_succ_iff, or_iff_left here]
    rw [Function.update_of_ne here]
    simp only [tablaTras, same]

theorem descontado_succ :
    s.descontado (rondas + 1) = s.descontado rondas + s.descuento (s.expulsadoEn rondas) := by
  unfold descontado
  rcases Nat.lt_or_ge rondas #s.candidatos with remains | all
  · rcases lastIndex_tablaTras remains with ⟨member, position⟩
    change s.expulsadoEn rondas ∈ s.candidatos at member
    change s.rango (s.expulsadoEn rondas) = rondas at position
    have grows : ({i ∈ s.candidatos | s.rango i < rondas + 1} : Finset Nat) =
        insert (s.expulsadoEn rondas) {i ∈ s.candidatos | s.rango i < rondas} := by
      ext i
      have step := @expulsadoTras_succ_iff s rondas i
      rw [expulsadoTras_iff_of_le remains, expulsadoTras_iff_of_le remains.le] at step
      simp only [mem_filter, mem_insert, step]
      exact or_comm
    rw [grows, sum_insert (by simp [position]), Nat.sub_eq_zero_of_le remains,
      Nat.sub_eq_zero_of_le remains.le]
    omega
  · have everybody : ∀ rounds, rondas ≤ rounds →
        ({i ∈ s.candidatos | s.rango i < rounds} : Finset Nat) = s.candidatos := by
      intro rounds enough
      rw [filter_eq_self]
      exact fun i member => (rango_lt_card member).trans_le (all.trans enough)
    rw [everybody _ (Nat.le_succ rondas), everybody _ (Nat.le_refl rondas), expulsadoEn,
      lastIndex_tablaTras_of_le all, Nat.succ_sub all, Nat.succ_mul]
    omega

theorem cuotaTras_of_pos (counted : 0 < s.unidadesTras rondas) :
    s.cuotaTras rondas = s.corrienteGrupo / s.unidadesTras rondas := by
  cases rondas with
  | zero => rw [cuotaTras, if_pos counted]
  | succ rondas => rw [cuotaTras, if_pos counted]

theorem unidadesTras_lt : s.unidadesTras rondas < 256 := by
  unfold unidadesTras
  omega

/-- The two subtractions of a round, on a `uint8_t`. -/
theorem unidadesTras_succ :
    s.unidadesTras (rondas + 1) =
      if (s.tablaContada (s.expulsadoEn rondas)).trifasico ≠ 0 then
        sub8 (sub8 (s.unidadesTras rondas) 1) 2
      else sub8 (s.unidadesTras rondas) 1 := by
  unfold unidadesTras sub8
  rw [descontado_succ, descuento]
  split_ifs <;> push_cast <;> omega

end Ronda

end GroupState

/-! ## The loop -/

section Bucle

variable (s : GroupState)

/-- The state of the eviction loop after `rondas` rounds. -/
def trasRondas (rondas : Nat) : Expulsion :=
  (expulsarUltimo s.chargerNumber (limitada s))^[rondas] (expulsionInicial s)

theorem trasRondas_succ (rondas : Nat) :
    trasRondas s (rondas + 1) =
      expulsarUltimo s.chargerNumber (limitada s) (trasRondas s rondas) :=
  Function.iterate_succ_apply' _ _ _

theorem recuento_chargerTable_eq : (recuento s).chargerTable = s.tablaContada :=
  funext fun i => recuento_chargerTable s i

theorem trasRondas_chargerTable (rondas : Nat) :
    (trasRondas s rondas).chargerTable = s.tablaTras rondas := by
  induction rondas with
  | zero =>
      rw [GroupState.tablaTras_zero, ← recuento_chargerTable_eq]
      rfl
  | succ rondas ih =>
      rw [trasRondas_succ, ← GroupState.tablaTras_succ]
      simp only [expulsarUltimo, ih, GroupState.expulsadoEn]

theorem trasRondas_conex (rondas : Nat) :
    (trasRondas s rondas).conex = (((s.numConectados : Int) - rondas) % 256).toNat := by
  induction rondas with
  | zero =>
      have start : (trasRondas s 0).conex = (recuento s).conex := rfl
      rw [start, recuento_conex]
      omega
  | succ rondas ih =>
      rw [trasRondas_succ]
      simp only [expulsarUltimo, ih, sub8]
      omega

theorem trasRondas_conexConTri (rondas : Nat) :
    (trasRondas s rondas).conexConTri = s.unidadesTras rondas := by
  induction rondas with
  | zero =>
      have start : (trasRondas s 0).conexConTri = (recuento s).conexConTri := rfl
      rw [start, recuento_conexConTri, GroupState.unidadesTras]
      simp only [GroupState.descontado, Nat.not_lt_zero, filter_false, sum_empty,
        Nat.zero_sub, Nat.zero_mul]
      omega
  | succ rondas ih =>
      rw [trasRondas_succ, GroupState.unidadesTras_succ]
      simp only [expulsarUltimo, ih, trasRondas_chargerTable, GroupState.tablaTras_trifasico,
        GroupState.expulsadoEn]
      by_cases marked :
        (s.tablaContada (lastIndex s.chargerNumber (s.tablaTras rondas))).trifasico = 0
      · simp only [marked, ne_eq, not_true, if_false]
      · simp only [marked, ne_eq, not_false_eq_true, if_true]

/-- The history grows by one eviction for each round. -/
theorem trasRondas_historial (rondas : Nat) :
    (trasRondas s rondas).historial =
      (List.range rondas).reverse.map (fun ronda => .expulsion (s.expulsadoEn ronda)) ++
        (recuento s).historial := by
  induction rondas with
  | zero => rfl
  | succ rondas ih =>
      rw [trasRondas_succ, List.range_succ]
      simp [expulsarUltimo, ih, trasRondas_chargerTable, GroupState.expulsadoEn]

end Bucle

section Acotado

variable {s : GroupState} (bounded : s.chargerNumber ≤ maxGroupSize)

include bounded

theorem limitada_eq : limitada s = s.corrienteGrupo := by
  have informando : s.numInformando % 256 = s.numInformando := by
    have le := s.numInformando_le
    unfold maxGroupSize at bounded
    omega
  unfold limitada GroupState.corrienteGrupo limiteCdp usaContador consumoTotal
  simp only [recuento_conexConTri_eq bounded, recuento_conectados, recuento_totalPc, informando,
    GroupState.consumo]
  by_cases counted : 0 < s.pesoTotal <;>
    by_cases meter : s.params.contadorConfigurado = true <;>
    by_cases gateway : s.contadorExt.gatewayConectado = true <;>
    simp [counted, meter, gateway]

theorem trasRondas_total (rondas : Nat) :
    (trasRondas s rondas).corrienteDisponibleTotal = s.cuotaTras rondas := by
  induction rondas with
  | zero =>
      have units := trasRondas_conexConTri s 0
      change (recuento s).conexConTri = s.unidadesTras 0 at units
      have start : (trasRondas s 0).corrienteDisponibleTotal =
        (expulsionInicial s).corrienteDisponibleTotal := rfl
      rw [start, expulsionInicial, GroupState.cuotaTras, units, limitada_eq bounded]
  | succ rondas ih =>
      have units := trasRondas_conexConTri s (rondas + 1)
      rw [trasRondas_succ] at units ⊢
      rw [GroupState.cuotaTras, ← units, ← ih, ← limitada_eq bounded]
      rfl

theorem sigueExpulsando_trasRondas (rondas : Nat) :
    sigueExpulsando (trasRondas s rondas) = true ↔ ¬ s.cabeTras rondas := by
  unfold sigueExpulsando GroupState.cabeTras
  rw [trasRondas_conexConTri, trasRondas_total bounded, Bool.and_eq_true, decide_eq_true_eq,
    decide_eq_true_eq]
  by_cases counted : 0 < s.unidadesTras rondas
  · rw [GroupState.cuotaTras_of_pos counted, ← not_le, Share.le_share_iff counted]
    omega
  · omega

end Acotado

/-- Evicting index `0` over and over takes the counter through zero. -/
theorem GroupState.exists_cabeTras (s : GroupState) :
    ∃ rondas, rondas ≤ rondasExpulsion s.chargerNumber ∧ s.cabeTras rondas := by
  have size := s.card_candidatos_le
  have units := @unidadesTras_lt s #s.candidatos
  have later : ∀ more, s.unidadesTras (#s.candidatos + more) =
      (((s.unidadesTras #s.candidatos : Int) - more * s.descuento 0) % 256).toNat := by
    intro more
    induction more with
    | zero =>
        rw [Nat.add_zero]
        omega
    | succ more ih =>
        have fallback : s.expulsadoEn (#s.candidatos + more) = 0 :=
          lastIndex_tablaTras_of_le (Nat.le_add_right _ _)
        rw [← Nat.add_assoc]
        unfold unidadesTras at ih ⊢
        rw [descontado_succ, fallback]
        push_cast
        rw [add_mul]
        omega
  unfold rondasExpulsion
  by_cases marked : (s.tablaContada 0).trifasico = 0
  · refine ⟨#s.candidatos + s.unidadesTras #s.candidatos, by omega, .inl ?_⟩
    rw [later]
    simp [descuento, marked]
  · -- 3 is invertible modulo 256
    refine ⟨#s.candidatos + 171 * s.unidadesTras #s.candidatos % 256, by omega, .inl ?_⟩
    rw [later]
    simp only [descuento, ne_eq, marked, not_false_eq_true, if_true]
    push_cast
    omega

/-- The number of evictions of a pass is determined by the table. -/
theorem GroupState.exists_expulsaVeces (s : GroupState) :
    ∃ rondas, rondas ≤ rondasExpulsion s.chargerNumber ∧ s.expulsaVeces rondas := by
  rcases s.exists_cabeTras with ⟨bound, enough, fits⟩
  have bounded : ∃ rondas, s.cabeTras rondas := ⟨bound, fits⟩
  exact ⟨Nat.find bounded, (Nat.find_min' bounded fits).trans enough,
    Nat.find_spec bounded, fun _ below => Nat.find_min bounded below⟩

theorem GroupState.expulsaVeces_unique {s : GroupState} {m n : Nat}
    (first : s.expulsaVeces m) (second : s.expulsaVeces n) : m = n := by
  rcases Nat.lt_trichotomy m n with below | equal | above
  · exact absurd first.1 (second.2 m below)
  · exact equal
  · exact absurd second.1 (first.2 n above)

section Resultado

variable {s : GroupState} (bounded : s.chargerNumber ≤ maxGroupSize)

include bounded

/-- The eviction loop of one pass is left after exactly the evictions that are
needed; its bound on rounds plays no part. -/
theorem expulsiones_eq {rondas : Nat} (veces : s.expulsaVeces rondas) :
    expulsiones s = trasRondas s rondas := by
  rcases s.exists_expulsaVeces with ⟨least, enough, least'⟩
  obtain rfl := GroupState.expulsaVeces_unique veces least'
  refine whileFuel_eq_iterate enough ?enters ?leaves
  case enters =>
    exact fun ronda below =>
      (sigueExpulsando_trasRondas bounded ronda).mpr (veces.2 ronda below)
  case leaves =>
    rw [← Bool.not_eq_true]
    exact fun enters => (sigueExpulsando_trasRondas bounded rondas).mp enters veces.1

/-- The loop is always left by its own condition. -/
theorem sigueExpulsando_expulsiones : sigueExpulsando (expulsiones s) = false := by
  rcases s.exists_expulsaVeces with ⟨rondas, _, veces⟩
  rw [expulsiones_eq bounded veces, ← Bool.not_eq_true, sigueExpulsando_trasRondas bounded,
    not_not]
  exact veces.1

/-- The states in which the loop evaluates its condition. -/
theorem heads_expulsion_iff {e : Expulsion} :
    Heads sigueExpulsando (expulsarUltimo s.chargerNumber (limitada s)) (expulsionInicial s) e ↔
      ∃ rondas, (∀ menos, menos < rondas → ¬ s.cabeTras menos) ∧ e = trasRondas s rondas := by
  rw [heads_iff_iterate]
  simp only [← sigueExpulsando_trasRondas bounded]
  rfl

/-- The states from which the loop makes a round. -/
theorem entra_expulsion_iff {rondas : Nat} (veces : s.expulsaVeces rondas) {e : Expulsion} :
    (Heads sigueExpulsando (expulsarUltimo s.chargerNumber (limitada s)) (expulsionInicial s) e ∧
        sigueExpulsando e = true) ↔
      ∃ menos, menos < rondas ∧ e = trasRondas s menos := by
  rw [heads_expulsion_iff bounded]
  constructor
  · rintro ⟨⟨menos, before, rfl⟩, enters⟩
    have needs := (sigueExpulsando_trasRondas bounded menos).mp enters
    refine ⟨menos, ?_, rfl⟩
    by_contra beyond
    rcases Nat.lt_or_eq_of_le (Nat.not_lt.mp beyond) with later | rfl
    · exact before rondas later veces.1
    · exact needs veces.1
  · rintro ⟨menos, below, rfl⟩
    exact ⟨⟨menos, fun before earlier => veces.2 before (by omega), rfl⟩,
      (sigueExpulsando_trasRondas bounded menos).mpr (veces.2 menos below)⟩

end Resultado

end VeltiumCharger.Group
