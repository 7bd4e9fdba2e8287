import VeltiumCharger.Group.Asignacion

/-!
# Histories

What the history of group control tells about one charger: whether its last
admission is still in force, and when it was admitted.
-/

namespace VeltiumCharger.Group

open VeltiumCharger.Loop

/-- Charger `i` has been admitted and neither evicted nor rejected since. -/
def vigente (i : Nat) : List Suceso → Bool
  | [] => false
  | .admision j :: antes => if j = i then true else vigente i antes
  | .expulsion j :: antes => if j = i then false else vigente i antes
  | .rechazo j :: antes => if j = i then false else vigente i antes
  | .baja _ :: antes => vigente i antes

/-- The place in the history of the last admission of charger `i`, counted from
the oldest event, which is 1; it is 0 when the charger has not been admitted
since it was last idle. -/
def sello (i : Nat) : List Suceso → Nat
  | [] => 0
  | .admision j :: antes => if j = i then antes.length + 1 else sello i antes
  | .expulsion _ :: antes => sello i antes
  | .rechazo _ :: antes => sello i antes
  | .baja j :: antes => if j = i then 0 else sello i antes

section Historial

variable {i j : Nat} {historial : List Suceso}

@[simp]
theorem vigente_admision (j : Nat) :
    vigente i (.admision j :: historial) = (decide (j = i) || vigente i historial) := by
  rw [vigente]
  split_ifs with here <;> simp [here]

@[simp]
theorem vigente_expulsiones (indices : List Nat) :
    vigente i (indices.map .expulsion ++ historial) =
      (decide (i ∉ indices) && vigente i historial) := by
  induction indices with
  | nil => simp
  | cons j rest ih =>
      rw [List.map_cons, List.cons_append, vigente, ih]
      split_ifs with here
      · simp [here]
      · simp [Ne.symm here]

@[simp]
theorem vigente_rechazos (indices : List Nat) :
    vigente i (indices.map .rechazo ++ historial) =
      (decide (i ∉ indices) && vigente i historial) := by
  induction indices with
  | nil => simp
  | cons j rest ih =>
      rw [List.map_cons, List.cons_append, vigente, ih]
      split_ifs with here
      · simp [here]
      · simp [Ne.symm here]

@[simp]
theorem vigente_bajas (indices : List Nat) :
    vigente i (indices.map .baja ++ historial) = vigente i historial := by
  induction indices with
  | nil => rfl
  | cons j rest ih => rw [List.map_cons, List.cons_append, vigente, ih]

@[simp]
theorem sello_expulsiones (indices : List Nat) :
    sello i (indices.map .expulsion ++ historial) = sello i historial := by
  induction indices with
  | nil => rfl
  | cons j rest ih => rw [List.map_cons, List.cons_append, sello, ih]

@[simp]
theorem sello_rechazos (indices : List Nat) :
    sello i (indices.map .rechazo ++ historial) = sello i historial := by
  induction indices with
  | nil => rfl
  | cons j rest ih => rw [List.map_cons, List.cons_append, sello, ih]

@[simp]
theorem sello_bajas (indices : List Nat) :
    sello i (indices.map .baja ++ historial) =
      if i ∈ indices then 0 else sello i historial := by
  induction indices with
  | nil => simp
  | cons j rest ih =>
      rw [List.map_cons, List.cons_append, sello, ih]
      by_cases here : j = i
      · simp [here]
      · simp [here, Ne.symm here]

theorem sello_le (i : Nat) (historial : List Suceso) : sello i historial ≤ historial.length := by
  induction historial with
  | nil => exact Nat.le_refl 0
  | cons suceso antes ih =>
      have shorter : sello i antes ≤ antes.length + 1 := ih.trans (Nat.le_succ _)
      cases suceso with
      | admision j =>
          rw [sello]
          split_ifs
          · exact Nat.le_refl _
          · exact shorter
      | expulsion j => exact shorter
      | rechazo j => exact shorter
      | baja j =>
          rw [sello]
          split_ifs
          · exact Nat.zero_le _
          · exact shorter

/-- Two chargers are never admitted at the same moment. -/
theorem sello_injective (same : sello i historial = sello j historial)
    (admitted : 0 < sello i historial) : i = j := by
  induction historial with
  | nil => exact absurd admitted (Nat.not_lt_zero 0)
  | cons suceso antes ih =>
      cases suceso with
      | admision k =>
          have iLe := sello_le i antes
          have jLe := sello_le j antes
          rw [sello] at same admitted
          rw [sello] at same
          split_ifs at same admitted with isI isJ isJ
          · exact isI.symm.trans isJ
          · omega
          · omega
          · exact ih same admitted
      | expulsion k => exact ih same admitted
      | rechazo k => exact ih same admitted
      | baja k =>
          rw [sello] at same admitted
          rw [sello] at same
          split_ifs at same admitted with isI isJ isJ
          · exact absurd admitted (Nat.lt_irrefl 0)
          · exact absurd admitted (Nat.lt_irrefl 0)
          · omega
          · exact ih same admitted

end Historial

/-! ## The history after the pass -/

section Pasada

variable (s : GroupState)

theorem contar_historial (i : Nat) (r : Recuento) :
    (contar i r).historial =
      if (r.chargerTable i).hpt.idle then .baja i :: r.historial else r.historial := by
  unfold contar
  dsimp only
  split_ifs with informing isConnected isIdle isIdle <;>
    simp_all [contarConectado_historial, Hpt.idle_eq_false_of_connected]

/-- The counting loop records the idle chargers. -/
theorem recuento_historial :
    (recuento s).historial =
      ((List.range s.chargerNumber).reverse.filter fun i =>
        (s.chargerTable i).hpt.idle).map .baja ++ s.historial := by
  unfold recuento
  refine (forUpTo_induction (fun next (r : Recuento) =>
    (∀ j, next ≤ j → r.chargerTable j = s.chargerTable j) ∧
      r.historial = ((List.range next).reverse.filter fun i =>
        (s.chargerTable i).hpt.idle).map .baja ++ s.historial)
    ?start ?round).2
  case start => exact ⟨fun _ _ => rfl, rfl⟩
  case round =>
    rintro index _ current ⟨table, history⟩
    refine ⟨fun j later => ?_, ?_⟩
    · rw [contar_other current (by omega), table j (by omega)]
    · rw [contar_historial, table index (Nat.le_refl _), history, List.range_succ]
      split_ifs with isIdle <;> simp [isIdle]

variable {s}

/-- The chargers evicted first, by round. -/
theorem GroupState.expulsadoTras_iff_mem {rondas i : Nat} :
    s.expulsadoTras rondas i ↔ i ∈ (List.range rondas).reverse.map s.expulsadoEn := by
  induction rondas with
  | zero => simp
  | succ rondas ih =>
      rw [GroupState.expulsadoTras_succ_iff, ih, List.range_succ]
      simp [or_comm]

theorem trasRondas_historial_eq (rondas : Nat) :
    (trasRondas s rondas).historial =
      ((List.range rondas).reverse.map s.expulsadoEn).map .expulsion ++
        (recuento s).historial := by
  rw [trasRondas_historial, List.map_map]
  rfl

/-- The pass ends the admissions of those it evicts. -/
theorem vigente_trasRondas (rondas i : Nat) :
    vigente i (trasRondas s rondas).historial = true ↔
      vigente i s.historial = true ∧ ¬ s.expulsadoTras rondas i := by
  rw [trasRondas_historial_eq, vigente_expulsiones, recuento_historial, vigente_bajas,
    GroupState.expulsadoTras_iff_mem, Bool.and_eq_true, decide_eq_true_eq, and_comm]

/-- The pass forgets the admissions of the idle chargers. -/
theorem sello_trasRondas (rondas i : Nat) :
    sello i (trasRondas s rondas).historial =
      if i < s.chargerNumber ∧ (s.chargerTable i).hpt.idle = true then 0
      else sello i s.historial := by
  rw [trasRondas_historial_eq, sello_expulsiones, recuento_historial, sello_bajas]
  simp

variable (bounded : s.chargerNumber ≤ maxGroupSize) {rondas : Nat}
  (veces : s.expulsaVeces rondas)

include bounded veces

theorem calculoGeneral_historial_eq :
    (calculoGeneral s).estado.historial = (trasRondas s rondas).historial := by
  change (expulsiones s).historial = _
  rw [expulsiones_eq bounded veces]

theorem vigente_calculoGeneral (i : Nat) :
    vigente i (calculoGeneral s).estado.historial = true ↔
      vigente i s.historial = true ∧ ¬ s.expulsadoTras rondas i := by
  rw [calculoGeneral_historial_eq bounded veces, vigente_trasRondas]

theorem sello_calculoGeneral (i : Nat) :
    sello i (calculoGeneral s).estado.historial =
      if i < s.chargerNumber ∧ (s.chargerTable i).hpt.idle = true then 0
      else sello i s.historial := by
  rw [calculoGeneral_historial_eq bounded veces, sello_trasRondas]

end Pasada

end VeltiumCharger.Group
