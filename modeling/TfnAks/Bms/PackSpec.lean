/-
# TfnAks.Bms.PackSpec — what `computePack` computes

The loop of `computePack` keeps a sum and four extremes at once. Each of them is a loop of its own
(`packScan_max` and the lemmas beside it), so each field of the result has its meaning without the
loop: `PackSpec` lists them. None of them but the two indices depends on which cell is which
(`computePack_permute`), and a higher voltage never lowers the state of charge (`socPercent_mono`).
-/
import TfnAks.Bms.BmsAlgo
import TfnAks.Lib.FirstBest
import Mathlib.Algebra.BigOperators.Fin
import Mathlib.Algebra.Order.BigOperators.Group.Finset

namespace TfnAks.Bms

open TfnAks.Lib.FirstBest

/-! ## The orders of the machine words -/

instance isStrictTotalOrder_uint16_lt : IsStrictTotalOrder UInt16 (· < ·) where
  irrefl := UInt16.lt_irrefl
  trans _ _ _ := UInt16.lt_trans
  trichotomous _ _ hab hba := UInt16.le_antisymm (UInt16.not_lt.mp hba) (UInt16.not_lt.mp hab)

instance isStrictTotalOrder_int16_lt : IsStrictTotalOrder Int16 (· < ·) where
  irrefl _ := Int16.lt_irrefl
  trans _ _ _ := Int16.lt_trans
  trichotomous _ _ hab hba := Int16.le_antisymm (Int16.not_lt.mp hba) (Int16.not_lt.mp hab)

instance isStrictTotalOrder_uint16_gt : IsStrictTotalOrder UInt16 (· > ·) :=
  inferInstanceAs (IsStrictTotalOrder _ (Function.swap (· < ·)))

instance isStrictTotalOrder_int16_gt : IsStrictTotalOrder Int16 (· > ·) :=
  inferInstanceAs (IsStrictTotalOrder _ (Function.swap (· < ·)))

/-! ## The loop, one variable at a time -/

section Scan

variable (pack : BmsPackReading)

/-- One turn of the loop, variable by variable. -/
theorem step_eq (c : PackScan) (i : Fin bmsCellCount) :
    c.step pack i =
      { sumMv := c.sumMv + (pack.cellVoltageMv i).toUInt32
        maxMv := if c.maxMv < pack.cellVoltageMv i then pack.cellVoltageMv i else c.maxMv
        minMv := if pack.cellVoltageMv i < c.minMv then pack.cellVoltageMv i else c.minMv
        maxIdx := if c.maxMv < pack.cellVoltageMv i then i else c.maxIdx
        minIdx := if pack.cellVoltageMv i < c.minMv then i else c.minIdx
        tMax := if c.tMax < pack.cellTempC i then pack.cellTempC i else c.tMax
        tMin := if pack.cellTempC i < c.tMin then pack.cellTempC i else c.tMin } := by
  simp only [PackScan.step]
  split_ifs <;> rfl

theorem step_max (c : PackScan) (i : Fin bmsCellCount) :
    ((c.step pack i).maxMv, (c.step pack i).maxIdx) =
      keepBest (· < ·) pack.cellVoltageMv (c.maxMv, c.maxIdx) i := by
  rw [step_eq, keepBest]
  by_cases h : c.maxMv < pack.cellVoltageMv i
  · simp only [if_pos h]
  · simp only [if_neg h]

theorem step_min (c : PackScan) (i : Fin bmsCellCount) :
    ((c.step pack i).minMv, (c.step pack i).minIdx) =
      keepBest (· > ·) pack.cellVoltageMv (c.minMv, c.minIdx) i := by
  rw [step_eq, keepBest]
  by_cases h : pack.cellVoltageMv i < c.minMv
  · simp only [gt_iff_lt, if_pos h]
  · simp only [gt_iff_lt, if_neg h]

theorem bmsCellCount_pos : 0 < bmsCellCount := by decide

/-- The cells in the order the extremes meet them: cell 0 comes twice. -/
def scanned : List (Fin bmsCellCount) := ⟨0, bmsCellCount_pos⟩ :: List.finRange bmsCellCount

theorem mem_scanned (i : Fin bmsCellCount) : i ∈ scanned :=
  List.mem_cons_of_mem _ (List.mem_finRange i)

theorem scanned_sorted : scanned.Pairwise (· ≤ ·) :=
  List.pairwise_cons.mpr ⟨fun i _ => Nat.zero_le i, List.pairwise_le_finRange bmsCellCount⟩

/-- A scan over the cells that starts from cell 0 finds the best value and where it comes first. -/
theorem scan_cells {α : Type} (r : α → α → Prop) [DecidableRel r] [IsStrictTotalOrder α r]
    (f : Fin bmsCellCount → α) :
    IsFirstBest r f scanned ((List.finRange bmsCellCount).foldl (keepBest r f)
      (f ⟨0, by decide⟩, ⟨0, by decide⟩)) :=
  scan_isFirstBest f scanned_sorted

theorem packScan_max :
    IsFirstBest (· < ·) pack.cellVoltageMv scanned ((packScan pack).maxMv, (packScan pack).maxIdx) := by
  have hscan : ((packScan pack).maxMv, (packScan pack).maxIdx) = _ :=
    (List.foldl_hom (fun c : PackScan => (c.maxMv, c.maxIdx))
      fun c i => (step_max pack c i).symm).symm
  rw [hscan]
  exact scan_cells (· < ·) pack.cellVoltageMv

theorem packScan_min :
    IsFirstBest (· > ·) pack.cellVoltageMv scanned ((packScan pack).minMv, (packScan pack).minIdx) := by
  have hscan : ((packScan pack).minMv, (packScan pack).minIdx) = _ :=
    (List.foldl_hom (fun c : PackScan => (c.minMv, c.minIdx))
      fun c i => (step_min pack c i).symm).symm
  rw [hscan]
  exact scan_cells (· > ·) pack.cellVoltageMv

/-- A scan without the index: the loop of `tMax` and of `tMin`. -/
theorem scan_values {α : Type} (r : α → α → Prop) [DecidableRel r] [IsStrictTotalOrder α r]
    (f : Fin bmsCellCount → α) :
    ∃ i, IsFirstBest r f scanned ((List.finRange bmsCellCount).foldl
      (fun b i => if r b (f i) then f i else b) (f ⟨0, by decide⟩), i) := by
  rw [foldl_keepValue r f _ _ ⟨0, by decide⟩]
  exact ⟨_, scan_cells r f⟩

theorem packScan_tMax :
    ∃ i, IsFirstBest (· < ·) pack.cellTempC scanned ((packScan pack).tMax, i) := by
  have hscan : (packScan pack).tMax = (List.finRange bmsCellCount).foldl
      (fun b i => if b < pack.cellTempC i then pack.cellTempC i else b)
      (pack.cellTempC ⟨0, by decide⟩) :=
    (List.foldl_hom PackScan.tMax fun c i => (congrArg PackScan.tMax (step_eq pack c i)).symm).symm
  rw [hscan]
  exact scan_values (· < ·) pack.cellTempC

theorem packScan_tMin :
    ∃ i, IsFirstBest (· > ·) pack.cellTempC scanned ((packScan pack).tMin, i) := by
  have hscan : (packScan pack).tMin = (List.finRange bmsCellCount).foldl
      (fun b i => if b > pack.cellTempC i then pack.cellTempC i else b)
      (pack.cellTempC ⟨0, by decide⟩) :=
    (List.foldl_hom PackScan.tMin fun c i => (congrArg PackScan.tMin (step_eq pack c i)).symm).symm
  rw [hscan]
  exact scan_values (· > ·) pack.cellTempC

theorem foldl_step_sumMv (is : List (Fin bmsCellCount)) (c : PackScan) :
    (is.foldl (PackScan.step pack) c).sumMv.toNat =
      (c.sumMv.toNat + (is.map fun i => (pack.cellVoltageMv i).toNat).sum) % 2 ^ 32 := by
  induction is generalizing c with
  | nil => exact (Nat.mod_eq_of_lt (UInt32.toNat_lt c.sumMv)).symm
  | cons i is ih =>
      rw [List.foldl_cons, ih, step_eq, UInt32.toNat_add, UInt16.toNat_toUInt32, List.map_cons,
        List.sum_cons, Nat.mod_add_mod, Nat.add_assoc]

/-- The sum of the cell voltages. -/
def packMv : Nat := ∑ i, (pack.cellVoltageMv i).toNat

theorem packMv_le : packMv pack ≤ 24 * 65535 := by
  refine (Finset.sum_le_card_nsmul Finset.univ _ 65535 ?_).trans_eq ?_
  · intro i _
    exact Nat.le_of_lt_succ (UInt16.toNat_lt (pack.cellVoltageMv i))
  · rw [Finset.card_univ, Fintype.card_fin]
    rfl

/-- The sum does not wrap. -/
theorem packScan_sumMv : (packScan pack).sumMv.toNat = packMv pack := by
  have hle := packMv_le pack
  have hsum := foldl_step_sumMv pack (List.finRange bmsCellCount) (PackScan.start pack)
  rw [← Fin.sum_univ_def] at hsum
  replace hsum : (packScan pack).sumMv.toNat = (0 + packMv pack) % 2 ^ 32 := hsum
  rw [hsum]
  omega

end Scan

/-! ## The fields of the result -/

/-- The state of charge of an average: the position between empty and full, clamped. -/
theorem toNat_socFromAvgMv {avgMv : UInt32} (h : avgMv.toNat ≤ 65535) :
    (socFromAvgMv avgMv).toNat = min 100 ((avgMv.toNat - 2500) * 100 / 1150) := by
  unfold socFromAvgMv
  simp only [UInt32.le_iff_toNat_le]
  have hempty : (UInt32.ofNat bmsSocEmptyMv).toNat = 2500 := rfl
  have hfull : (UInt32.ofNat bmsSocFullMv).toNat = 3650 := rfl
  have hspan : (UInt32.ofNat bmsSocFullMv - UInt32.ofNat bmsSocEmptyMv).toNat = 1150 := rfl
  rw [hempty, hfull]
  split_ifs with h1 h2
  · show 0 = _
    omega
  · show 100 = _
    omega
  · have habove : (avgMv - UInt32.ofNat bmsSocEmptyMv).toNat = avgMv.toNat - 2500 :=
      UInt32.toNat_sub_of_le _ _ (UInt32.le_iff_toNat_le.mpr (by rw [hempty]; omega))
    rw [UInt32.toNat_toUInt8, UInt32.toNat_div, UInt32.toNat_mul, habove, hspan]
    show (avgMv.toNat - 2500) * 100 % 2 ^ 32 / 1150 % 2 ^ 8 = _
    have hquot : (avgMv.toNat - 2500) * 100 / 1150 ≤ 100 := by omega
    rw [Nat.mod_eq_of_lt (a := (avgMv.toNat - 2500) * 100) (by omega),
      Nat.mod_eq_of_lt (by omega), Nat.min_eq_right hquot]

theorem toNat_avgMv (pack : BmsPackReading) :
    ((packScan pack).sumMv / UInt32.ofNat bmsCellCount).toNat = packMv pack / 24 := by
  rw [UInt32.toNat_div, packScan_sumMv]
  rfl

/-- `lowBound` is the maximum less the margin. -/
theorem lowBound_le_iff (maxMv v : UInt16) : lowBound maxMv ≤ v ↔ maxMv.toNat ≤ v.toNat + 5 := by
  unfold lowBound
  have hmargin : bmsBalanceTopMarginMv.toNat = 5 := rfl
  simp only [UInt16.lt_iff_toNat_lt, hmargin]
  split_ifs with h
  · rw [UInt16.le_iff_toNat_le, UInt16.toNat_sub_of_le _ _
      (UInt16.le_iff_toNat_le.mpr (by rw [hmargin]; omega)), hmargin]
    omega
  · refine iff_of_true (UInt16.le_iff_toNat_le.mpr (Nat.zero_le _)) (by omega)

/-- A cell beyond one of three thresholds. -/
def CellBeyond (pack : BmsPackReading) (undervolt overvolt : UInt16) (overtemp : Int16)
    (i : Fin bmsCellCount) : Prop :=
  pack.cellVoltageMv i < undervolt ∨ overvolt < pack.cellVoltageMv i ∨ overtemp < pack.cellTempC i

instance (pack : BmsPackReading) (undervolt overvolt : UInt16) (overtemp : Int16) :
    DecidablePred (CellBeyond pack undervolt overvolt overtemp) :=
  fun _ => inferInstanceAs (Decidable (_ ∨ _))

/-- A cell beyond the critical limits. -/
abbrev CriticalCell (pack : BmsPackReading) : Fin bmsCellCount → Prop :=
  CellBeyond pack bmsCellUndervoltCritMv bmsCellOvervoltCritMv bmsTempOvertempCritC

/-- A cell beyond the warning limits. -/
abbrev WarningCell (pack : BmsPackReading) : Fin bmsCellCount → Prop :=
  CellBeyond pack bmsCellUndervoltWarnMv bmsCellOvervoltWarnMv bmsTempOvertempWarnC

/-- **What the fields of the result mean**, for a valid pack. -/
structure PackSpec (pack : BmsPackReading) (c : BmsComputedPack) : Prop where
  packVoltage : c.packVoltageMv.toNat = packMv pack
  le_max : ∀ i, pack.cellVoltageMv i ≤ c.cellMaxMv
  max_at : pack.cellVoltageMv c.cellMaxIndex = c.cellMaxMv
  max_first : ∀ i, i < c.cellMaxIndex → pack.cellVoltageMv i < c.cellMaxMv
  min_le : ∀ i, c.cellMinMv ≤ pack.cellVoltageMv i
  min_at : pack.cellVoltageMv c.cellMinIndex = c.cellMinMv
  min_first : ∀ i, i < c.cellMinIndex → c.cellMinMv < pack.cellVoltageMv i
  delta : c.cellDeltaMv.toNat = c.cellMaxMv.toNat - c.cellMinMv.toNat
  soc : (c.socPercent.toNat : ℤ) =
    max 0 (min 100 (100 * (((packMv pack / 24 : ℕ) : ℤ) - 2500) / 1150))
  balance : ∀ i, c.balanceFlag i = true ↔
    50 < c.cellDeltaMv.toNat ∧ c.cellMaxMv.toNat ≤ (pack.cellVoltageMv i).toNat + 5
  balance_max : 50 < c.cellDeltaMv.toNat → c.balanceFlag c.cellMaxIndex = true
  balance_min : ∀ i, pack.cellVoltageMv i = c.cellMinMv → c.balanceFlag i = false
  le_tempMax : ∀ i, pack.cellTempC i ≤ c.tempMaxC
  tempMax_at : ∃ i, pack.cellTempC i = c.tempMaxC
  tempMin_le : ∀ i, c.tempMinC ≤ pack.cellTempC i
  tempMin_at : ∃ i, pack.cellTempC i = c.tempMinC
  warning : c.warningLevel =
    if ∃ i, CriticalCell pack i then bmsWarnCritical
    else if ∃ i, WarningCell pack i then bmsWarnWarning
    else bmsWarnOk

theorem computePack_of_invalid {pack : BmsPackReading} (hvalid : pack.isValid = false) :
    computePack pack = makeSafeInvalid := by
  rw [computePack, hvalid]
  rfl

theorem computePack_of_valid {pack : BmsPackReading} (hvalid : pack.isValid = true) :
    computePack pack = (packScan pack).finish pack := by
  rw [computePack, hvalid]
  rfl

section Scanned

variable (pack : BmsPackReading)

theorem le_maxMv (i : Fin bmsCellCount) : pack.cellVoltageMv i ≤ (packScan pack).maxMv :=
  UInt16.not_lt.mp ((packScan_max pack).unbeaten i (mem_scanned i))

theorem minMv_le (i : Fin bmsCellCount) : (packScan pack).minMv ≤ pack.cellVoltageMv i :=
  UInt16.not_lt.mp ((packScan_min pack).unbeaten i (mem_scanned i))

theorem minMv_le_maxMv : (packScan pack).minMv ≤ (packScan pack).maxMv :=
  UInt16.le_trans (minMv_le pack ⟨0, by decide⟩) (le_maxMv pack ⟨0, by decide⟩)

theorem le_tMax (i : Fin bmsCellCount) : pack.cellTempC i ≤ (packScan pack).tMax := by
  obtain ⟨k, hk⟩ := packScan_tMax pack
  exact Int16.not_lt.mp (hk.unbeaten i (mem_scanned i))

theorem tMin_le (i : Fin bmsCellCount) : (packScan pack).tMin ≤ pack.cellTempC i := by
  obtain ⟨k, hk⟩ := packScan_tMin pack
  exact Int16.not_lt.mp (hk.unbeaten i (mem_scanned i))

theorem tMax_at : ∃ i, pack.cellTempC i = (packScan pack).tMax :=
  (packScan_tMax pack).imp fun _ h => h.value.symm

theorem tMin_at : ∃ i, pack.cellTempC i = (packScan pack).tMin :=
  (packScan_tMin pack).imp fun _ h => h.value.symm

theorem toNat_delta :
    ((packScan pack).maxMv - (packScan pack).minMv).toNat =
      (packScan pack).maxMv.toNat - (packScan pack).minMv.toNat :=
  UInt16.toNat_sub_of_le _ _ (minMv_le_maxMv pack)

/-- The extremes are beyond a threshold exactly when some cell is. -/
theorem extremes_beyond_iff (undervolt overvolt : UInt16) (overtemp : Int16) :
    ((packScan pack).minMv < undervolt ∨ overvolt < (packScan pack).maxMv ∨
        overtemp < (packScan pack).tMax) ↔
      ∃ i, CellBeyond pack undervolt overvolt overtemp i := by
  constructor
  · rintro (h | h | h)
    · refine ⟨(packScan pack).minIdx, .inl ?_⟩
      rw [← (packScan_min pack).value]
      exact h
    · refine ⟨(packScan pack).maxIdx, .inr (.inl ?_)⟩
      rw [← (packScan_max pack).value]
      exact h
    · obtain ⟨i, hi⟩ := tMax_at pack
      refine ⟨i, .inr (.inr ?_)⟩
      rw [hi]
      exact h
  · rintro ⟨i, h | h | h⟩
    · exact .inl (UInt16.lt_of_le_of_lt (minMv_le pack i) h)
    · exact .inr (.inl (UInt16.lt_of_lt_of_le h (le_maxMv pack i)))
    · exact .inr (.inr (Int16.lt_of_lt_of_le h (le_tMax pack i)))

theorem finish_balanceFlag (c : PackScan) (i : Fin bmsCellCount) :
    (c.finish pack).balanceFlag i = true ↔
      bmsBalanceThresholdMv < (c.finish pack).cellDeltaMv ∧
        lowBound c.maxMv ≤ pack.cellVoltageMv i := by
  show (if bmsBalanceThresholdMv < (c.finish pack).cellDeltaMv then
    decide (lowBound c.maxMv ≤ pack.cellVoltageMv i) else false) = true ↔ _
  by_cases hdelta : bmsBalanceThresholdMv < (c.finish pack).cellDeltaMv
  · rw [if_pos hdelta, decide_eq_true_iff]
    exact (and_iff_right hdelta).symm
  · rw [if_neg hdelta]
    exact iff_of_false Bool.false_ne_true fun h => hdelta h.1

theorem balanceFlag_finish_iff (i : Fin bmsCellCount) :
    ((packScan pack).finish pack).balanceFlag i = true ↔
      50 < ((packScan pack).finish pack).cellDeltaMv.toNat ∧
        (packScan pack).maxMv.toNat ≤ (pack.cellVoltageMv i).toNat + 5 := by
  rw [finish_balanceFlag, lowBound_le_iff]
  exact and_congr_left' UInt16.lt_iff_toNat_lt

theorem toNat_soc_finish :
    ((packScan pack).finish pack).socPercent.toNat =
      min 100 ((packMv pack / 24 - 2500) * 100 / 1150) := by
  have hle := packMv_le pack
  have havg : ((packScan pack).sumMv / UInt32.ofNat bmsCellCount).toNat ≤ 65535 := by
    rw [toNat_avgMv]
    omega
  show (socFromAvgMv ((packScan pack).sumMv / UInt32.ofNat bmsCellCount)).toNat = _
  rw [toNat_socFromAvgMv havg, toNat_avgMv]

/-- A cell at the minimum is far below the band that is balanced. -/
theorem not_balanced_of_min {i : Fin bmsCellCount}
    (hi : pack.cellVoltageMv i = (packScan pack).minMv) :
    ((packScan pack).finish pack).balanceFlag i = false := by
  rw [← Bool.not_eq_true, balanceFlag_finish_iff]
  rintro ⟨hdelta, hband⟩
  have hsub : ((packScan pack).finish pack).cellDeltaMv.toNat = _ := toNat_delta pack
  rw [hi] at hband
  omega

theorem packSpec_finish : PackSpec pack ((packScan pack).finish pack) where
  packVoltage := packScan_sumMv pack
  le_max := le_maxMv pack
  max_at := (packScan_max pack).value.symm
  max_first i := (packScan_max pack).first i (mem_scanned i)
  min_le := minMv_le pack
  min_at := (packScan_min pack).value.symm
  min_first i := (packScan_min pack).first i (mem_scanned i)
  delta := toNat_delta pack
  soc := by
    rw [toNat_soc_finish]
    omega
  balance := balanceFlag_finish_iff pack
  balance_max hdelta := by
    rw [balanceFlag_finish_iff]
    refine ⟨hdelta, ?_⟩
    show _ ≤ (pack.cellVoltageMv (packScan pack).maxIdx).toNat + 5
    rw [← (packScan_max pack).value]
    exact Nat.le_add_right _ 5
  balance_min _ := not_balanced_of_min pack
  le_tempMax := le_tMax pack
  tempMax_at := tMax_at pack
  tempMin_le := tMin_le pack
  tempMin_at := tMin_at pack
  warning := by
    simp only [← extremes_beyond_iff]
    rfl

end Scanned

/-! ## Packs compared -/

/-- The same cells in another order. -/
def BmsPackReading.permute (pack : BmsPackReading) (σ : Equiv.Perm (Fin bmsCellCount)) :
    BmsPackReading where
  cellVoltageMv := pack.cellVoltageMv ∘ σ
  cellTempC := pack.cellTempC ∘ σ
  isValid := pack.isValid

/-- The pack with the voltage of one cell replaced. -/
def BmsPackReading.withCell (pack : BmsPackReading) (i : Fin bmsCellCount) (v : UInt16) :
    BmsPackReading :=
  { pack with cellVoltageMv := Function.update pack.cellVoltageMv i v }

/-- The best value over the cells is the same in every order. -/
theorem best_permute {α : Type} {r : α → α → Prop} [IsStrictTotalOrder α r]
    {f : Fin bmsCellCount → α} (σ : Equiv.Perm (Fin bmsCellCount))
    {best best' : α × Fin bmsCellCount} (h : IsFirstBest r (f ∘ σ) scanned best)
    (h' : IsFirstBest r f scanned best') : best.1 = best'.1 := by
  refine h.value_eq h' ?_ ?_
  · intro i _
    exact ⟨σ i, mem_scanned (σ i), rfl⟩
  · intro k _
    refine ⟨σ.symm k, mem_scanned _, ?_⟩
    rw [Function.comp_apply, Equiv.apply_symm_apply]

/-- Reordering the cells leaves everything the loop keeps but the indices. -/
theorem packScan_permute (pack : BmsPackReading) (σ : Equiv.Perm (Fin bmsCellCount)) :
    packScan (pack.permute σ) =
      { packScan pack with
        maxIdx := (packScan (pack.permute σ)).maxIdx
        minIdx := (packScan (pack.permute σ)).minIdx } := by
  have hsum : (packScan (pack.permute σ)).sumMv = (packScan pack).sumMv := by
    rw [← UInt32.toNat_inj, packScan_sumMv, packScan_sumMv]
    exact Equiv.sum_comp σ fun i => (pack.cellVoltageMv i).toNat
  have hmax := best_permute σ (packScan_max (pack.permute σ)) (packScan_max pack)
  have hmin := best_permute σ (packScan_min (pack.permute σ)) (packScan_min pack)
  obtain ⟨_, htMax'⟩ := packScan_tMax (pack.permute σ)
  obtain ⟨_, htMax⟩ := packScan_tMax pack
  obtain ⟨_, htMin'⟩ := packScan_tMin (pack.permute σ)
  obtain ⟨_, htMin⟩ := packScan_tMin pack
  exact PackScan.ext hsum hmax hmin rfl rfl (best_permute σ htMax' htMax)
    (best_permute σ htMin' htMin)

theorem finish_permute (pack : BmsPackReading) (σ : Equiv.Perm (Fin bmsCellCount)) (c : PackScan)
    (maxIdx minIdx : Fin bmsCellCount) :
    PackScan.finish (pack.permute σ) { c with maxIdx := maxIdx, minIdx := minIdx } =
      { c.finish pack with
        balanceFlag := (c.finish pack).balanceFlag ∘ σ
        cellMaxIndex := maxIdx
        cellMinIndex := minIdx } := rfl

theorem computePack_permute (pack : BmsPackReading) (σ : Equiv.Perm (Fin bmsCellCount)) :
    computePack (pack.permute σ) =
      { computePack pack with
        balanceFlag := (computePack pack).balanceFlag ∘ σ
        cellMaxIndex := (computePack (pack.permute σ)).cellMaxIndex
        cellMinIndex := (computePack (pack.permute σ)).cellMinIndex } := by
  cases hvalid : pack.isValid with
  | false =>
      have hpermuted : (pack.permute σ).isValid = false := hvalid
      rw [computePack_of_invalid hvalid, computePack_of_invalid hpermuted]
      rfl
  | true =>
      have hpermuted : (pack.permute σ).isValid = true := hvalid
      rw [computePack_of_valid hvalid, computePack_of_valid hpermuted, packScan_permute]
      exact finish_permute pack σ (packScan pack) _ _

theorem packMv_mono {pack pack' : BmsPackReading}
    (h : ∀ i, pack.cellVoltageMv i ≤ pack'.cellVoltageMv i) : packMv pack ≤ packMv pack' :=
  Finset.sum_le_sum fun i _ => UInt16.le_iff_toNat_le.mp (h i)

/-- Higher voltages never lower the state of charge. -/
theorem socPercent_mono {pack pack' : BmsPackReading} (hvalid : pack.isValid = true)
    (hvalid' : pack'.isValid = true) (h : ∀ i, pack.cellVoltageMv i ≤ pack'.cellVoltageMv i) :
    (computePack pack).socPercent ≤ (computePack pack').socPercent := by
  have hmv := packMv_mono h
  rw [UInt8.le_iff_toNat_le, computePack_of_valid hvalid, computePack_of_valid hvalid',
    toNat_soc_finish, toNat_soc_finish]
  have havg : packMv pack / 24 ≤ packMv pack' / 24 := Nat.div_le_div_right hmv
  omega

/-- **`computePack` meets its specification** on every valid pack. In another order of the cells it
returns the same fields with the flags in that order, the two indices apart; and no cell whose
voltage rises lowers the state of charge. -/
theorem computePack_spec (pack : BmsPackReading) (hvalid : pack.isValid = true) :
    PackSpec pack (computePack pack) ∧
      (∀ σ, computePack (pack.permute σ) =
        { computePack pack with
          balanceFlag := (computePack pack).balanceFlag ∘ σ
          cellMaxIndex := (computePack (pack.permute σ)).cellMaxIndex
          cellMinIndex := (computePack (pack.permute σ)).cellMinIndex }) ∧
      ∀ i v, pack.cellVoltageMv i ≤ v →
        (computePack pack).socPercent ≤ (computePack (pack.withCell i v)).socPercent := by
  refine ⟨?_, computePack_permute pack, ?_⟩
  · rw [computePack_of_valid hvalid]
    exact packSpec_finish pack
  · intro i v hv
    refine socPercent_mono hvalid hvalid ?_
    intro k
    show pack.cellVoltageMv k ≤ Function.update pack.cellVoltageMv i v k
    by_cases hk : k = i
    · subst hk
      rw [Function.update_self]
      exact hv
    · rw [Function.update_of_ne hk]
      exact UInt16.le_refl _

/-- A pack out of balance: 3300 mV in cell 0 and 10 mV more in each cell after it. -/
def slopedPack : BmsPackReading where
  cellVoltageMv i := 3300 + 10 * UInt16.ofNat i
  cellTempC _ := 25
  isValid := true

theorem computePack_spec_sloped :
    PackSpec slopedPack (computePack slopedPack) ∧
      (computePack slopedPack).socPercent ≤
        (computePack (slopedPack.withCell ⟨0, by decide⟩ 3400)).socPercent :=
  ⟨(computePack_spec slopedPack rfl).1,
    (computePack_spec slopedPack rfl).2.2 ⟨0, by decide⟩ 3400 (by decide)⟩

end TfnAks.Bms
