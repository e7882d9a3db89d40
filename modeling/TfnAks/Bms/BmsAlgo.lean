/-
# TfnAks.Bms.BmsAlgo — the pack as the display shows it

`computePack` of `lib/BmsAlgo/BmsAlgo.cpp`: from the 24 cell voltages and temperatures of one
snapshot the pack voltage, the extremes, the state of charge, the balancing flags and the warning
level. One loop over the cells keeps the sum and the four extremes, a second one sets the flags.
-/
import TfnAks.Bms.NextionPacket

namespace TfnAks.Bms

/-- Cells are balanced when they differ by more than this. -/
def bmsBalanceThresholdMv : UInt16 := 50

/-- Balanced are all cells this close to the highest. -/
def bmsBalanceTopMarginMv : UInt16 := 5

/-- Below it a cell is critical. -/
def bmsCellUndervoltCritMv : UInt16 := 2500

/-- Above it a cell is critical. -/
def bmsCellOvervoltCritMv : UInt16 := 3650

/-- Above it a temperature is critical. -/
def bmsTempOvertempCritC : Int16 := 60

/-- Below it a cell is warned of. -/
def bmsCellUndervoltWarnMv : UInt16 := 2800

/-- Above it a cell is warned of. -/
def bmsCellOvervoltWarnMv : UInt16 := 3550

/-- Above it a temperature is warned of. -/
def bmsTempOvertempWarnC : Int16 := 50

/-- Warning level: none. -/
def bmsWarnOk : UInt8 := 0

/-- Warning level: warning. -/
def bmsWarnWarning : UInt8 := 1

/-- Warning level: critical; also that of a pack without valid data. -/
def bmsWarnCritical : UInt8 := 2

/-- `BmsPackData`, as far as `computePack` reads it. -/
structure BmsPackReading extends BmsPackData where
  cellTempC : Fin bmsCellCount → Int16
  isValid : Bool

/-- `BmsComputed`, whole. -/
structure BmsComputedPack extends BmsComputed where
  packVoltageMv : UInt32
  cellMaxIndex : Fin bmsCellCount
  cellMinIndex : Fin bmsCellCount
  cellDeltaMv : UInt16
  socPercent : UInt8
  tempMaxC : Int16
  tempMinC : Int16

/-- `makeSafeInvalid` -/
def makeSafeInvalid : BmsComputedPack where
  packVoltageMv := 0
  cellMaxMv := 0
  cellMinMv := 0
  cellMaxIndex := ⟨0, by decide⟩
  cellMinIndex := ⟨0, by decide⟩
  cellDeltaMv := 0
  socPercent := 0
  balanceFlag _ := false
  warningLevel := bmsWarnCritical
  tempMaxC := 0
  tempMinC := 0

/-- Linear between the empty and the full cell voltage, in percent. -/
def socFromAvgMv (avgMv : UInt32) : UInt8 :=
  if avgMv ≤ UInt32.ofNat bmsSocEmptyMv then 0
  else if UInt32.ofNat bmsSocFullMv ≤ avgMv then 100
  else
    let span := UInt32.ofNat bmsSocFullMv - UInt32.ofNat bmsSocEmptyMv
    let above := avgMv - UInt32.ofNat bmsSocEmptyMv
    (above * 100 / span).toUInt8

/-! ## The loop over the cells -/

/-- The variables of the loop. -/
@[ext]
structure PackScan where
  sumMv : UInt32
  maxMv : UInt16
  minMv : UInt16
  maxIdx : Fin bmsCellCount
  minIdx : Fin bmsCellCount
  tMax : Int16
  tMin : Int16

/-- The variables before the loop: the extremes are those of cell 0. -/
def PackScan.start (pack : BmsPackReading) : PackScan :=
  let first : Fin bmsCellCount := ⟨0, by decide⟩
  { sumMv := 0
    maxMv := pack.cellVoltageMv first
    minMv := pack.cellVoltageMv first
    maxIdx := first
    minIdx := first
    tMax := pack.cellTempC first
    tMin := pack.cellTempC first }

/-- One turn of the loop. -/
def PackScan.step (pack : BmsPackReading) (c : PackScan) (i : Fin bmsCellCount) : PackScan :=
  let v := pack.cellVoltageMv i
  let c := { c with sumMv := c.sumMv + v.toUInt32 }
  let c := if c.maxMv < v then { c with maxMv := v, maxIdx := i } else c
  let c := if v < c.minMv then { c with minMv := v, minIdx := i } else c
  let t := pack.cellTempC i
  let c := if c.tMax < t then { c with tMax := t } else c
  if t < c.tMin then { c with tMin := t } else c

/-- One loop over the cells. -/
def packScan (pack : BmsPackReading) : PackScan :=
  (List.finRange bmsCellCount).foldl (PackScan.step pack) (PackScan.start pack)

/-! ## The whole function -/

/-- The lowest voltage that is balanced: the maximum less the margin, without wrapping. -/
def lowBound (maxMv : UInt16) : UInt16 :=
  if bmsBalanceTopMarginMv < maxMv then maxMv - bmsBalanceTopMarginMv else 0

/-- The worst condition wins. -/
def packWarningLevel (minMv maxMv : UInt16) (tMax : Int16) : UInt8 :=
  if minMv < bmsCellUndervoltCritMv ∨ bmsCellOvervoltCritMv < maxMv ∨ bmsTempOvertempCritC < tMax then
    bmsWarnCritical
  else if minMv < bmsCellUndervoltWarnMv ∨ bmsCellOvervoltWarnMv < maxMv ∨
      bmsTempOvertempWarnC < tMax then
    bmsWarnWarning
  else bmsWarnOk

/-- The result, from the variables the loop leaves. -/
def PackScan.finish (pack : BmsPackReading) (c : PackScan) : BmsComputedPack :=
  let cellDeltaMv := c.maxMv - c.minMv
  { packVoltageMv := c.sumMv
    cellMaxMv := c.maxMv
    cellMinMv := c.minMv
    cellMaxIndex := c.maxIdx
    cellMinIndex := c.minIdx
    cellDeltaMv := cellDeltaMv
    tempMaxC := c.tMax
    tempMinC := c.tMin
    socPercent := socFromAvgMv (c.sumMv / UInt32.ofNat bmsCellCount)
    balanceFlag := fun i =>
      if bmsBalanceThresholdMv < cellDeltaMv then
        decide (lowBound c.maxMv ≤ pack.cellVoltageMv i)
      else false
    warningLevel := packWarningLevel c.minMv c.maxMv c.tMax }

/-- What the page shows of a pack; a pack without valid data gets the safe values. -/
def computePack (pack : BmsPackReading) : BmsComputedPack :=
  if !pack.isValid then makeSafeInvalid else (packScan pack).finish pack

end TfnAks.Bms
