import VeltiumCharger.Group.Estabilidad
import VeltiumCharger.Group.Historia
import VeltiumCharger.Group.Limites

/-!
# The counters of the eviction loop

The counting loop adds one or three units for a charger by its present currents; an
eviction subtracts them by the mark, which stays from earlier passes, and the search
may return a charger that is not counted or was evicted before.  The counters are
right exactly when neither happens.
-/

namespace VeltiumCharger.Group

open Finset VeltiumCharger.Loop

/-- The units that the next round subtracts. -/
def Expulsion.descuento (chargerNumber : Nat) (e : Expulsion) : Nat :=
  if (e.chargerTable (lastIndex chargerNumber e.chargerTable)).trifasico ≠ 0 then 3 else 1

namespace GroupState

variable (s : GroupState)

/-- A round of the loop of this pass starts from this state. -/
def Entra (e : Expulsion) : Prop :=
  Heads sigueExpulsando (expulsarUltimo s.chargerNumber (limitada s)) (expulsionInicial s) e ∧
    sigueExpulsando e = true

/-- Some round evicts charger `i`. -/
def seExpulsa (i : Nat) : Prop :=
  ∃ e, s.Entra e ∧ lastIndex s.chargerNumber e.chargerTable = i

open Classical in
/-- The counted chargers that no round evicts. -/
noncomputable def quedan : Finset Nat :=
  {i ∈ s.conectadosSet | ¬ s.seExpulsa i}

/-- What is promised of the loop: it ends, no subtraction goes below zero, and at the end
the counters are those of the chargers that remain, which are none unless 6 A are
reached. -/
structure ContadoresCorrectos : Prop where
  termina : sigueExpulsando (expulsiones s) = false
  sinDesborde : ∀ e, s.Entra e → 1 ≤ e.conex ∧ e.descuento s.chargerNumber ≤ e.conexConTri
  conex : (expulsiones s).conex = #s.quedan
  conexConTri : (expulsiones s).conexConTri = ∑ i ∈ s.quedan, (s.chargerTable i).peso
  alcanza : 6 ≤ (expulsiones s).corrienteDisponibleTotal ∨ s.quedan = ∅

/-- The charger that a round evicts is counted and has not been evicted before. -/
def nuevoEn (ronda : Nat) : Prop :=
  s.expulsadoEn ronda ∈ s.conectadosSet ∧ ¬ s.expulsadoTras ronda (s.expulsadoEn ronda)

/-- A charger that is marked as three-phase is so by its present currents. -/
def marcado (i : Nat) : Prop :=
  (s.chargerTable i).trifasico ≠ 0 → (s.chargerTable i).threePhase = true

/-- There are no more rounds than chargers that the search can find, or one more when the
first of the table is counted and cannot be found; and the mark of every charger evicted
is that of its present currents. -/
def expulsionesLimpias : Prop :=
  ∀ rondas, s.expulsaVeces rondas →
    (rondas ≤ #s.candidatos ∨
      rondas = #s.candidatos + 1 ∧ 0 ∈ s.conectadosSet \ s.candidatos) ∧
    ∀ i, s.expulsadoTras rondas i → s.marcado i

/-- The counted chargers among the first `rondas` evicted. -/
def expulsados (rondas : Nat) : Finset Nat :=
  {i ∈ s.conectadosSet | s.expulsadoTras rondas i}

/-! ## The chargers evicted -/

section Expulsados

variable {s} {rondas : Nat}

theorem expulsados_succ_subset :
    s.expulsados (rondas + 1) ⊆ insert (s.expulsadoEn rondas) (s.expulsados rondas) := by
  intro i member
  obtain ⟨counted, gone⟩ := mem_filter.mp member
  rcases expulsadoTras_succ_iff.mp gone with before | rfl
  · exact mem_insert_of_mem (mem_filter.mpr ⟨counted, before⟩)
  · exact mem_insert_self _ _

theorem expulsados_succ (nuevo : s.nuevoEn rondas) :
    s.expulsados (rondas + 1) = insert (s.expulsadoEn rondas) (s.expulsados rondas) := by
  refine subset_antisymm expulsados_succ_subset (insert_subset_iff.mpr ⟨?_, ?_⟩)
  · exact mem_filter.mpr ⟨nuevo.1, expulsadoTras_succ_iff.mpr (.inr rfl)⟩
  · intro i member
    obtain ⟨counted, gone⟩ := mem_filter.mp member
    exact mem_filter.mpr ⟨counted, expulsadoTras_succ_iff.mpr (.inl gone)⟩

theorem notMem_expulsados (nuevo : s.nuevoEn rondas) :
    s.expulsadoEn rondas ∉ s.expulsados rondas :=
  fun member => nuevo.2 (mem_filter.mp member).2

theorem expulsados_zero : s.expulsados 0 = ∅ := by
  simp [expulsados]

theorem expulsados_subset : s.expulsados rondas ⊆ s.conectadosSet :=
  filter_subset _ _

/-- A round that evicts nobody new leaves the counted chargers evicted so far. -/
theorem expulsados_succ_of_not (viejo : ¬ s.nuevoEn rondas) :
    s.expulsados (rondas + 1) = s.expulsados rondas := by
  ext i
  simp only [expulsados, mem_filter, expulsadoTras_succ_iff]
  constructor
  · rintro ⟨counted, before | rfl⟩
    · exact ⟨counted, before⟩
    · by_contra fresh
      exact viejo ⟨counted, fun before => fresh ⟨counted, before⟩⟩
  · exact fun ⟨counted, before⟩ => ⟨counted, .inl before⟩

/-- As many counted chargers are evicted as there are rounds exactly when every round
evicts a new one. -/
theorem card_expulsados :
    #(s.expulsados rondas) ≤ rondas ∧
      (#(s.expulsados rondas) = rondas ↔ ∀ ronda, ronda < rondas → s.nuevoEn ronda) := by
  induction rondas with
  | zero => simp [expulsados_zero]
  | succ rondas ih =>
      obtain ⟨atMost, exactly⟩ := ih
      by_cases nuevo : s.nuevoEn rondas
      · rw [expulsados_succ nuevo, card_insert_of_notMem (notMem_expulsados nuevo)]
        refine ⟨Nat.succ_le_succ atMost, ?_⟩
        rw [Nat.add_right_cancel_iff, exactly]
        constructor
        · intro all ronda below
          rcases Nat.lt_succ_iff_lt_or_eq.mp below with earlier | rfl
          · exact all ronda earlier
          · exact nuevo
        · exact fun all ronda below => all ronda (Nat.lt_succ_of_lt below)
      · rw [expulsados_succ_of_not nuevo]
        refine ⟨Nat.le_succ_of_le atMost, ?_⟩
        constructor
        · intro full
          omega
        · exact fun all => absurd (all rondas (Nat.lt_succ_self rondas)) nuevo

/-- A round evicts somebody new while the search finds somebody, and once more if it falls
back to a charger that is counted and could not be found. -/
theorem nuevoEn_iff {ronda : Nat} :
    s.nuevoEn ronda ↔ ronda < #s.candidatos ∨
      ronda = #s.candidatos ∧ 0 ∈ s.conectadosSet \ s.candidatos := by
  rcases Nat.lt_or_ge ronda #s.candidatos with remains | all
  · refine iff_of_true ?_ (.inl remains)
    obtain ⟨member, position⟩ := lastIndex_tablaTras remains
    refine ⟨candidatos_subset member, ?_⟩
    rw [expulsadoTras_iff_of_le remains.le]
    exact fun gone => absurd gone.2 (Nat.not_lt.mpr position.ge)
  · rw [nuevoEn, expulsadoEn, lastIndex_tablaTras_of_le all, mem_sdiff]
    constructor
    · rintro ⟨counted, fresh⟩
      have last : ronda = #s.candidatos := by
        by_contra beyond
        exact fresh (.inr ⟨rfl, by omega⟩)
      exact .inr ⟨last, counted, fun member => fresh (expulsadoTras_of_mem all member)⟩
    · rintro (remains | ⟨last, counted, lost⟩)
      · omega
      · refine ⟨counted, ?_⟩
        rintro (⟨member, -⟩ | ⟨-, beyond⟩)
        · exact lost member
        · omega

theorem nuevos_iff :
    (∀ ronda, ronda < rondas → s.nuevoEn ronda) ↔ rondas ≤ #s.candidatos ∨
      rondas = #s.candidatos + 1 ∧ 0 ∈ s.conectadosSet \ s.candidatos := by
  simp only [nuevoEn_iff]
  constructor
  · intro nuevos
    rcases Nat.lt_or_ge #s.candidatos rondas with more | enough
    · obtain ⟨-, primero⟩ := (nuevos #s.candidatos more).resolve_left (Nat.lt_irrefl _)
      refine .inr ⟨?_, primero⟩
      by_contra other
      have beyond := nuevos (#s.candidatos + 1) (by omega)
      omega
    · exact .inl enough
  · rintro (enough | ⟨rfl, primero⟩) ronda below
    · exact .inl (by omega)
    · rcases Nat.lt_succ_iff_lt_or_eq.mp below with earlier | last
      · exact .inl earlier
      · exact .inr ⟨last, primero⟩

end Expulsados

/-! ## The units subtracted -/

section Unidades

variable {s} {rondas : Nat}

/-- An eviction subtracts what was counted exactly when the mark is that of the present
currents. -/
theorem peso_eq_descuento_iff {i : Nat} (counted : i ∈ s.conectadosSet) :
    (s.chargerTable i).peso = s.descuento i ↔ s.marcado i := by
  have mark := trasContado counted
  rw [peso_of_counted counted, descuento, marcado]
  cases threePhase : (s.chargerTable i).threePhase with
  | true => simp [mark, threePhase]
  | false => by_cases marked : (s.chargerTable i).trifasico = 0 <;> simp [mark, threePhase, marked]

theorem descontado_zero : s.descontado 0 = 0 := by
  simp [descontado]

theorem descontado_mono {more : Nat} (le : rondas ≤ more) :
    s.descontado rondas ≤ s.descontado more := by
  refine monotone_nat_of_le_succ (fun ronda => ?_) le
  rw [descontado_succ]
  exact Nat.le_add_right _ _

/-- Rounds that evict new chargers subtract once for each of them. -/
theorem descontado_eq (nuevos : ∀ ronda, ronda < rondas → s.nuevoEn ronda) :
    s.descontado rondas = ∑ i ∈ s.expulsados rondas, s.descuento i := by
  induction rondas with
  | zero => rw [descontado_zero, expulsados_zero, sum_empty]
  | succ rondas ih =>
      have nuevo := nuevos rondas (Nat.lt_succ_self rondas)
      rw [descontado_succ, ih fun ronda below => nuevos ronda (Nat.lt_succ_of_lt below),
        expulsados_succ nuevo, sum_insert (notMem_expulsados nuevo), Nat.add_comm]

theorem sum_peso_conectados : ∑ i ∈ s.conectadosSet, (s.chargerTable i).peso = s.pesoTotal := by
  rw [conectadosSet, sum_filter, pesoTotal]
  refine sum_congr rfl fun i _ => ?_
  split_ifs with connected
  · rfl
  · rw [CaracCharger.peso, if_neg connected]

/-- The evictions subtract what was counted for the chargers they evict exactly when all
of these have the mark of their currents. -/
theorem sum_peso_eq_iff (nuevos : ∀ ronda, ronda < rondas → s.nuevoEn ronda) :
    ∑ i ∈ s.expulsados rondas, (s.chargerTable i).peso = s.descontado rondas ↔
      ∀ i, s.expulsadoTras rondas i → s.marcado i := by
  have termwise : ∀ i ∈ s.expulsados rondas, (s.chargerTable i).peso ≤ s.descuento i :=
    fun i member => peso_le_descuento (expulsados_subset member)
  rw [descontado_eq nuevos, sum_eq_sum_iff_of_le termwise]
  constructor
  · intro same i gone
    obtain ⟨ronda, below, rfl⟩ := List.mem_map.mp (expulsadoTras_iff_mem.mp gone)
    have counted := (nuevos ronda (List.mem_range.mp (List.mem_reverse.mp below))).1
    exact (peso_eq_descuento_iff counted).mp (same _ (mem_filter.mpr ⟨counted, gone⟩))
  · intro marks i member
    obtain ⟨counted, gone⟩ := mem_filter.mp member
    exact (peso_eq_descuento_iff counted).mpr (marks i gone)

end Unidades

/-! ## The counters -/

section Contadores

variable {s} {rondas : Nat} (bounded : s.chargerNumber ≤ maxGroupSize)

include bounded

theorem seExpulsa_iff (veces : s.expulsaVeces rondas) {i : Nat} :
    s.seExpulsa i ↔ s.expulsadoTras rondas i := by
  rw [expulsadoTras_iff_mem]
  simp only [List.mem_map, List.mem_reverse, List.mem_range]
  constructor
  · rintro ⟨e, entra, rfl⟩
    obtain ⟨ronda, below, rfl⟩ := (entra_expulsion_iff bounded veces).mp entra
    exact ⟨ronda, below, by rw [trasRondas_chargerTable, expulsadoEn]⟩
  · rintro ⟨ronda, below, rfl⟩
    refine ⟨_, (entra_expulsion_iff bounded veces).mpr ⟨ronda, below, rfl⟩, ?_⟩
    rw [trasRondas_chargerTable, expulsadoEn]

theorem quedan_eq (veces : s.expulsaVeces rondas) :
    s.quedan = s.conectadosSet \ s.expulsados rondas := by
  ext i
  simp only [quedan, expulsados, mem_filter, mem_sdiff, seExpulsa_iff bounded veces]
  tauto

theorem conexTras_of_le (enough : rondas ≤ s.numConectados) :
    (trasRondas s rondas).conex = s.numConectados - rondas := by
  have size := s.numConectados_le
  unfold maxGroupSize at bounded
  rw [trasRondas_conex]
  omega

/-- No subtraction goes below zero exactly when there is enough for all of them. -/
theorem sinDesborde_iff (veces : s.expulsaVeces rondas) :
    (∀ e, s.Entra e → 1 ≤ e.conex ∧ e.descuento s.chargerNumber ≤ e.conexConTri) ↔
      rondas ≤ s.numConectados ∧ s.descontado rondas ≤ s.pesoTotal := by
  have resta (ronda : Nat) :
      (trasRondas s ronda).descuento s.chargerNumber = s.descuento (s.expulsadoEn ronda) := by
    rw [Expulsion.descuento, trasRondas_chargerTable, tablaTras_trifasico]
    rfl
  constructor
  · intro sinDesborde
    suffices hasta : ∀ ronda, ronda ≤ rondas →
        ronda ≤ s.numConectados ∧ s.descontado ronda ≤ s.pesoTotal from
      hasta rondas (Nat.le_refl rondas)
    intro ronda
    induction ronda with
    | zero => simp [descontado_zero]
    | succ ronda ih =>
        intro below
        obtain ⟨conex, unidades⟩ := ih (by omega)
        have paso := sinDesborde _
          ((entra_expulsion_iff bounded veces).mpr ⟨ronda, below, rfl⟩)
        rw [conexTras_of_le bounded conex, resta, trasRondas_conexConTri,
          unidadesTras_of_le bounded unidades] at paso
        rw [descontado_succ]
        omega
  · rintro ⟨conex, unidades⟩ e entra
    obtain ⟨ronda, below, rfl⟩ := (entra_expulsion_iff bounded veces).mp entra
    have gastado : s.descontado (ronda + 1) ≤ s.descontado rondas := descontado_mono below
    rw [descontado_succ] at gastado
    rw [conexTras_of_le bounded (by omega), resta, trasRondas_conexConTri,
      unidadesTras_of_le bounded (by omega)]
    omega

theorem card_quedan (veces : s.expulsaVeces rondas) :
    #s.quedan + #(s.expulsados rondas) = s.numConectados := by
  rw [quedan_eq bounded veces, ← card_conectadosSet]
  exact card_sdiff_add_card_eq_card expulsados_subset

theorem sum_quedan (veces : s.expulsaVeces rondas) :
    ∑ i ∈ s.quedan, (s.chargerTable i).peso +
      ∑ i ∈ s.expulsados rondas, (s.chargerTable i).peso = s.pesoTotal := by
  rw [quedan_eq bounded veces, ← sum_peso_conectados]
  exact sum_sdiff expulsados_subset

/-- The last quotient is of 6 A at least, unless nothing is counted. -/
theorem alcanza_of_unidades (veces : s.expulsaVeces rondas)
    (unidades : s.unidadesTras rondas = ∑ i ∈ s.quedan, (s.chargerTable i).peso) :
    6 ≤ (expulsiones s).corrienteDisponibleTotal ∨ s.quedan = ∅ := by
  rw [expulsiones_eq bounded veces, trasRondas_total bounded]
  rcases Nat.eq_zero_or_pos (s.unidadesTras rondas) with none | some
  · right
    rw [unidades, sum_eq_zero_iff] at none
    refine eq_empty_of_forall_notMem fun i member => ?_
    have weight := none i member
    rw [quedan_eq bounded veces] at member
    have counted := (mem_sdiff.mp member).1
    rw [peso_of_counted counted] at weight
    split_ifs at weight
  · left
    rw [cuotaTras_of_pos some, Share.le_share_iff some]
    exact veces.1.resolve_left (Nat.ne_of_gt some)

theorem contadores_of_limpias (veces : s.expulsaVeces rondas)
    (nuevos : ∀ ronda, ronda < rondas → s.nuevoEn ronda)
    (marcas : ∀ i, s.expulsadoTras rondas i → s.marcado i) : s.ContadoresCorrectos := by
  have cuantos : #(s.expulsados rondas) = rondas := card_expulsados.2.mpr nuevos
  have pesos : ∑ i ∈ s.expulsados rondas, (s.chargerTable i).peso = s.descontado rondas :=
    (sum_peso_eq_iff nuevos).mpr marcas
  have cuentan := card_quedan bounded veces
  have pesan := sum_quedan bounded veces
  have unidades : s.unidadesTras rondas = ∑ i ∈ s.quedan, (s.chargerTable i).peso := by
    rw [unidadesTras_of_le bounded (by omega)]
    omega
  constructor
  case termina => exact sigueExpulsando_expulsiones bounded
  case sinDesborde => exact (sinDesborde_iff bounded veces).mpr ⟨by omega, by omega⟩
  case conex =>
    rw [expulsiones_eq bounded veces, conexTras_of_le bounded (by omega)]
    omega
  case conexConTri =>
    rw [expulsiones_eq bounded veces, trasRondas_conexConTri]
    exact unidades
  case alcanza => exact alcanza_of_unidades bounded veces unidades

/-- The loop of a pass ends, and its counters are right, exactly when it evicts counted
chargers only, each once, and subtracts what was counted for them. -/
theorem contadores_correctos_iff : s.ContadoresCorrectos ↔ s.expulsionesLimpias := by
  constructor
  · intro correctos rondas veces
    obtain ⟨enough, units⟩ := (sinDesborde_iff bounded veces).mp correctos.sinDesborde
    have cuentan := card_quedan bounded veces
    have pesan := sum_quedan bounded veces
    have conex := correctos.conex
    rw [expulsiones_eq bounded veces, conexTras_of_le bounded enough] at conex
    have nuevos := (@card_expulsados s rondas).2.mp (by omega)
    have conexConTri := correctos.conexConTri
    rw [expulsiones_eq bounded veces, trasRondas_conexConTri,
      unidadesTras_of_le bounded units] at conexConTri
    exact ⟨nuevos_iff.mp nuevos, (sum_peso_eq_iff nuevos).mp (by omega)⟩
  · intro limpias
    obtain ⟨rondas, -, veces⟩ := s.exists_expulsaVeces
    obtain ⟨nuevos, marcas⟩ := limpias rondas veces
    exact contadores_of_limpias bounded veces (nuevos_iff.mpr nuevos) marcas

end Contadores

end GroupState

/-- Of two chargers with 11 A between them one is evicted. -/
theorem dosQueNoCaben_contados : dosQueNoCaben.ContadoresCorrectos := by
  apply (GroupState.contadores_correctos_iff (by decide)).mpr
  intro rondas veces
  have una : dosQueNoCaben.expulsaVeces 1 := by decide
  obtain rfl := GroupState.expulsaVeces_unique veces una
  refine ⟨.inl (by decide), ?_⟩
  have sinMarca : ∀ i, i < 2 → (dosQueNoCaben.chargerTable i).trifasico = 0 := by decide
  rintro i (⟨member, -⟩ | ⟨-, more⟩)
  · exact fun marked => absurd (sinMarca i (GroupState.mem_candidatos.mp member).1) marked
  · exact absurd more (by decide)

/-- One charger with 4 A, marked as three-phase by an earlier pass. -/
def marcaAntigua : GroupState :=
  GroupState.inicio (.conPotencia 11) [{ CaracCharger.enEstado 'C' '2' 1 with trifasico := 1 }] [32]

/-- It is counted as one unit, and three are subtracted. -/
theorem marcaAntigua_desborda :
    marcaAntigua.chargerNumber ≤ maxGroupSize ∧ ¬ marcaAntigua.ContadoresCorrectos := by
  refine ⟨by decide, fun correctos => ?_⟩
  have entra : marcaAntigua.Entra (expulsionInicial marcaAntigua) := ⟨.first, by decide⟩
  have resta := (correctos.sinDesborde _ entra).2
  exact absurd resta (by decide)

end VeltiumCharger.Group
