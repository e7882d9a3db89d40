/-
# TfnAks.System.DisplayLevel — the display's warning level against the VCU's voltage rule

Two parts of the vehicle judge the pack voltage. The VCU compares the whole pack, in deciV, with the
critical thresholds of `SystemConfig.h`; the display looks at single cells, in mV, with thresholds
of its own. What links them is that a pack is 24 cells: some cell is not above the average and some
cell is not below it (`exists_cell_lt`, `exists_lt_cell`), and the cell thresholds of a warning lie
inside the band of the pack (`warn_inside_critical`).
-/
import TfnAks.Bms.PackSpec
import TfnAks.Vcu.VcuLogic

namespace TfnAks.System

open TfnAks.Bms TfnAks.Vcu

/-- The voltage of the pack as the VCU counts it: the sum of its cells in deciV, rounded down. -/
def packDeciV (pack : BmsPackReading) : Nat := packMv pack / 100

/-- The voltage clause of `hasCriticalCondition`. -/
def VoltageCritical (deciV : Nat) : Prop :=
  deciV ≤ bmsCriticalMinPackVoltageDeciV ∨ bmsCriticalMaxPackVoltageDeciV ≤ deciV

/-- When no other clause fires and the data are valid, the voltage clause is the whole condition. -/
theorem hasCriticalCondition_iff_voltage {d : TelemetryData} (hmotor : d.telMotorErrorFlags = 0)
    (hsys : d.telBmsSystemState ≠ 4) (hvalid : d.telBmsDataValid = true)
    (hmotorActive : d.telMotorTimeoutActive = false) (hbmsActive : d.telBmsTimeoutActive = false)
    (st : VcuState) :
    hasCriticalCondition d st = true ↔ VoltageCritical d.telBmsPackVoltageDeciV.toNat := by
  simp [hasCriticalCondition, VoltageCritical, hmotor, hsys, hvalid, hmotorActive, hbmsActive]

/-! ## From the pack to a cell -/

section Cells

variable {pack : BmsPackReading} {bound : Nat}

theorem sum_const_eq (bound : Nat) : ∑ _i : Fin bmsCellCount, bound = 24 * bound := by
  rw [Finset.sum_const, Finset.card_univ, Fintype.card_fin]
  rfl

/-- A pack below 24 times a bound has a cell below it. -/
theorem exists_cell_lt (h : packMv pack < 24 * bound) :
    ∃ i, (pack.cellVoltageMv i).toNat < bound := by
  rw [← sum_const_eq] at h
  obtain ⟨i, -, hi⟩ := Finset.exists_lt_of_sum_lt h
  exact ⟨i, hi⟩

/-- A pack above 24 times a bound has a cell above it. -/
theorem exists_lt_cell (h : 24 * bound < packMv pack) :
    ∃ i, bound < (pack.cellVoltageMv i).toNat := by
  rw [← sum_const_eq] at h
  obtain ⟨i, -, hi⟩ := Finset.exists_lt_of_sum_lt h
  exact ⟨i, hi⟩

end Cells

/-- The two sets of thresholds: 24 cells at the warning thresholds are inside the critical band of
the pack, a whole deciV away from its lower end. -/
theorem warn_inside_critical :
    (bmsCriticalMinPackVoltageDeciV + 1) * 100 ≤ 24 * bmsCellUndervoltWarnMv.toNat ∧
      24 * bmsCellOvervoltWarnMv.toNat < bmsCriticalMaxPackVoltageDeciV * 100 := by
  decide

/-- A pack at a critical voltage has a cell beyond a warning threshold. -/
theorem exists_warningCell {pack : BmsPackReading} (h : VoltageCritical (packDeciV pack)) :
    ∃ i, WarningCell pack i := by
  obtain ⟨hlow, hhigh⟩ := warn_inside_critical
  rcases h with h | h <;> rw [packDeciV] at h
  · have hsum : packMv pack < 24 * bmsCellUndervoltWarnMv.toNat := by omega
    obtain ⟨i, hi⟩ := exists_cell_lt hsum
    exact ⟨i, .inl (UInt16.lt_iff_toNat_lt.mpr hi)⟩
  · have hsum : 24 * bmsCellOvervoltWarnMv.toNat < packMv pack := by omega
    obtain ⟨i, hi⟩ := exists_lt_cell hsum
    exact ⟨i, .inr (.inl (UInt16.lt_iff_toNat_lt.mpr hi))⟩

/-! ## The display -/

/-- A cell beyond a warning threshold keeps the level off OK. -/
theorem warningLevel_of_warningCell {pack : BmsPackReading} (hvalid : pack.isValid = true)
    (h : ∃ i, WarningCell pack i) :
    (computePack pack).warningLevel = bmsWarnWarning ∨
      (computePack pack).warningLevel = bmsWarnCritical := by
  rw [computePack_of_valid hvalid, (packSpec_finish pack).warning]
  by_cases hcrit : ∃ i, CriticalCell pack i
  · exact .inr (if_pos hcrit)
  · rw [if_neg hcrit, if_pos h]
    exact .inl rfl

/-- **The display never shows OK on a voltage that is critical for the VCU**, for every 24 cell
voltages and all temperatures. -/
theorem display_not_ok {pack : BmsPackReading} (hvalid : pack.isValid = true)
    (h : packDeciV pack ≤ bmsCriticalMinPackVoltageDeciV ∨
      bmsCriticalMaxPackVoltageDeciV ≤ packDeciV pack) :
    (computePack pack).warningLevel = bmsWarnWarning ∨
      (computePack pack).warningLevel = bmsWarnCritical :=
  warningLevel_of_warningCell hvalid (exists_warningCell h)

/-- Two dead cells; the others are a little below the warning threshold. -/
def twoDeadCells : BmsPackReading where
  cellVoltageMv i := if i.val < 2 then 0 else 2700
  cellTempC _ := 25
  isValid := true

theorem display_not_ok_twoDeadCells :
    packDeciV twoDeadCells = 594 ∧
      ((computePack twoDeadCells).warningLevel = bmsWarnWarning ∨
        (computePack twoDeadCells).warningLevel = bmsWarnCritical) :=
  ⟨by decide, display_not_ok rfl (.inl (by decide))⟩

/-- **In the VCU's terms.** A telemetry snapshot with the voltage of these cells that takes the VCU
to FAULT by its voltage alone never stands beside an OK on the display. -/
theorem display_not_ok_of_hasCriticalCondition {pack : BmsPackReading} {d : TelemetryData}
    (hvalid : pack.isValid = true) (hvoltage : d.telBmsPackVoltageDeciV.toNat = packDeciV pack)
    (hmotor : d.telMotorErrorFlags = 0) (hsys : d.telBmsSystemState ≠ 4)
    (hbms : d.telBmsDataValid = true) (hmotorActive : d.telMotorTimeoutActive = false)
    (hbmsActive : d.telBmsTimeoutActive = false) {st : VcuState}
    (h : hasCriticalCondition d st = true) : (computePack pack).warningLevel ≠ bmsWarnOk := by
  rw [hasCriticalCondition_iff_voltage hmotor hsys hbms hmotorActive hbmsActive, hvoltage] at h
  rcases warningLevel_of_warningCell hvalid (exists_warningCell h) with hlevel | hlevel <;>
    rw [hlevel] <;> decide

end TfnAks.System
