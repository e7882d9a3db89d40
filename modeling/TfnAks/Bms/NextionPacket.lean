/-
# TfnAks.Bms.NextionPacket — the commands that paint the BMS page

`lib/BmsAlgo/BmsNextionPacket.cpp`. The page has 76 components: `cell`, `j` (the bar) and `bal` for
each of the 24 cells, and `cellmax`, `cellmin`, `warn`, `cellcan`. A call walks them in this order
and sends each one whose value is not the cached one (all of them when forced), until a command no
longer fits the byte budget of the call.

The source has one block of code for each kind of component; they differ in the name, the value and
the cache entry alone. `BmsComponent` names the components, the cache is a function on them, and
`Pass.refresh` is the block.
-/
import TfnAks.Lib.BudgetedRefresh
import TfnAks.Lib.Decimal

namespace TfnAks.Bms

open TfnAks.Lib.BudgetedRefresh TfnAks.Lib.Decimal

/-- Cells in series. -/
def bmsCellCount : Nat := 24

/-- Cell voltage at 0 %. -/
def bmsSocEmptyMv : Nat := 2500

/-- Cell voltage at 100 %. -/
def bmsSocFullMv : Nat := 3650

/-- `BmsPackData`, as far as it reaches the display. -/
structure BmsPackData where
  cellVoltageMv : Fin bmsCellCount → UInt16

/-- `BmsComputed`, as far as it reaches the display. -/
structure BmsComputed where
  cellMaxMv : UInt16
  cellMinMv : UInt16
  balanceFlag : Fin bmsCellCount → Bool
  warningLevel : UInt8

/-! ## The page -/

/-- The components of the BMS page: three for each cell, and four for the pack. -/
inductive BmsComponent where
  | cell (i : Fin bmsCellCount)
  | j (i : Fin bmsCellCount)
  | bal (i : Fin bmsCellCount)
  | cellmax
  | cellmin
  | warn
  | cellcan
  deriving DecidableEq, Repr

/-- The type of a component's cache entry. -/
abbrev BmsComponent.Value : BmsComponent → Type
  | .cell _ | .cellmax | .cellmin => UInt16
  | .j _ | .bal _ | .warn | .cellcan => UInt8

instance (c : BmsComponent) : DecidableEq c.Value :=
  match c with
  | .cell _ | .cellmax | .cellmin => inferInstanceAs (DecidableEq UInt16)
  | .j _ | .bal _ | .warn | .cellcan => inferInstanceAs (DecidableEq UInt8)

/-- `static_cast<int32_t>` of a value: every one is unsigned. -/
def BmsComponent.toNat : (c : BmsComponent) → c.Value → Nat
  | .cell _, v | .cellmax, v | .cellmin, v => UInt16.toNat v
  | .j _, v | .bal _, v | .warn, v | .cellcan, v => UInt8.toNat v

/-- `compName`, with its index if it has one. -/
def BmsComponent.name : BmsComponent → List Char
  | .cell i => "cell".toList ++ digits i
  | .j i => "j".toList ++ digits i
  | .bal i => "bal".toList ++ digits i
  | .cellmax => "cellmax".toList
  | .cellmin => "cellmin".toList
  | .warn => "warn".toList
  | .cellcan => "cellcan".toList

/-- The components of the three loops over the cells. -/
def cellComponents : List BmsComponent :=
  (List.finRange bmsCellCount).map .cell ++ (List.finRange bmsCellCount).map .j ++
    (List.finRange bmsCellCount).map .bal

/-- The four of the pack, in the order in which they are sent. -/
def summaryComponents : List BmsComponent := [.cellmax, .cellmin, .warn, .cellcan]

/-- The whole page, in the order a call walks it. -/
def page : List BmsComponent := cellComponents ++ summaryComponents

/-! ## The values -/

/-- `cellBarFill`: millivolts to a bar of 0..100. -/
def cellBarFill (mv : UInt16) : UInt8 :=
  if mv = 65535 then 0
  else if mv.toNat ≤ bmsSocEmptyMv then 0
  else if bmsSocFullMv ≤ mv.toNat then 100
  else UInt8.ofNat ((mv.toNat - bmsSocEmptyMv) * 100 / (bmsSocFullMv - bmsSocEmptyMv))

/-- The value a component has to show. -/
def currentValue (comp : BmsComputed) (raw : BmsPackData) (cellDataVerified : Bool) :
    (c : BmsComponent) → c.Value
  | .cell i => raw.cellVoltageMv i
  | .j i => cellBarFill (raw.cellVoltageMv i)
  | .bal i => if comp.balanceFlag i then (1 : UInt8) else 0
  | .cellmax => comp.cellMaxMv
  | .cellmin => comp.cellMinMv
  | .warn => comp.warningLevel
  | .cellcan => if cellDataVerified then (1 : UInt8) else 0

/-- What was last sent to each component; cold, it stands for nothing. -/
structure BmsNextionCache where
  entry : (c : BmsComponent) → c.Value
  isWarm : Bool

/-- `BmsNextionCache()` -/
def BmsNextionCache.fresh : BmsNextionCache where
  entry
    | .cell _ | .cellmax | .cellmin => (0 : UInt16)
    | .j _ | .bal _ | .warn | .cellcan => (255 : UInt8)
  isWarm := false

/-! ## One call -/

/-- A command that was handed to `emit`. -/
structure Command where
  component : BmsComponent
  text : List Char
  deriving DecidableEq

/-- `"%s%u.val=%ld"` or `"%s.val=%ld"` -/
def command (c : BmsComponent) (v : c.Value) : Command :=
  ⟨c, c.name ++ ".val=".toList ++ digits (c.toNat v)⟩

/-- The bytes a command takes: its text and the three end bytes the caller appends. -/
def Command.bytes (cmd : Command) : Nat := cmd.text.length + 3

/-- The locals of the builder in the middle of its walk. -/
structure Pass where
  cache : BmsNextionCache
  currentBytes : Nat
  budgetExhausted : Bool
  allProcessed : Bool
  emitted : List Command

/-- `emitAndCheck`: whether the command went out. -/
def Pass.emitAndCheck (maxBytes : Nat) (cmd : Command) (p : Pass) : Pass × Bool :=
  if p.budgetExhausted then (p, false)
  else if maxBytes < p.currentBytes + cmd.bytes then ({ p with budgetExhausted := true }, false)
  else
    ({ p with emitted := p.emitted ++ [cmd], currentBytes := p.currentBytes + cmd.bytes }, true)

/-- The block for one component. -/
def Pass.refresh (force : Bool) (maxBytes : Nat) (value : (c : BmsComponent) → c.Value) (p : Pass)
    (c : BmsComponent) : Pass :=
  if force || decide (value c ≠ p.cache.entry c) then
    match p.emitAndCheck maxBytes (command c (value c)) with
    | (p, true) =>
      { p with cache := { p.cache with entry := Function.update p.cache.entry c (value c) } }
    | (p, false) => { p with allProcessed := false }
  else p

/-- `buildBmsNextionCommands`: the commands it emits and the cache it leaves. -/
def buildBmsNextionCommands (comp : BmsComputed) (raw : BmsPackData) (cache : BmsNextionCache)
    (forceFullRefresh updateCells : Bool) (maxBytes : Nat) (cellDataVerified : Bool) :
    List Command × BmsNextionCache :=
  let value := currentValue comp raw cellDataVerified
  let mustProcessCells := updateCells || forceFullRefresh || !cache.isWarm
  let components := (if mustProcessCells then cellComponents else []) ++ summaryComponents
  let p := components.foldl (Pass.refresh forceFullRefresh maxBytes value) ⟨cache, 0, false, true, []⟩
  (p.emitted, if p.allProcessed then { p.cache with isWarm := true } else p.cache)

/-! ## The page as a list -/

theorem page_nodup : page.Nodup := by
  have hcells : ∀ f : Fin bmsCellCount → BmsComponent, Function.Injective f →
      ((List.finRange bmsCellCount).map f).Nodup := fun f hf => (List.nodup_finRange _).map hf
  have hcell := hcells .cell fun _ _ h => BmsComponent.cell.inj h
  have hj := hcells .j fun _ _ h => BmsComponent.j.inj h
  have hbal := hcells .bal fun _ _ h => BmsComponent.bal.inj h
  have hsummary : summaryComponents.Nodup := by decide
  refine (((hcell.append hj ?_).append hbal ?_).append hsummary ?_)
  all_goals
    intro c h₁ h₂
    cases c <;> simp_all [summaryComponents]

theorem mem_page (c : BmsComponent) : c ∈ page := by
  have hmap : ∀ (f : Fin bmsCellCount → BmsComponent) (i : Fin bmsCellCount),
      f i ∈ (List.finRange bmsCellCount).map f := fun f i => List.mem_map_of_mem (List.mem_finRange i)
  simp only [page, cellComponents, List.mem_append]
  cases c with
  | cell i => exact Or.inl (Or.inl (Or.inl (hmap _ i)))
  | j i => exact Or.inl (Or.inl (Or.inr (hmap _ i)))
  | bal i => exact Or.inl (Or.inr (hmap _ i))
  | _ => exact Or.inr (by decide)

theorem length_page : page.length = 76 := by
  simp only [page, cellComponents, summaryComponents, List.length_append, List.length_map,
    List.length_finRange]
  rfl

theorem name_cell_ne {i : Nat} {cs : List Char} {c : Char} (hc : c ∈ cs)
    (hdigit : c.isDigit = false) : "cell".toList ++ digits i ≠ "cell".toList ++ cs := by
  intro h
  rw [← List.append_cancel_left h] at hc
  rw [isDigit_of_mem_digits hc] at hdigit
  cases hdigit

theorem name_cell_ne_summary (i : Fin bmsCellCount) :
    (BmsComponent.cell i).name ≠ BmsComponent.cellmax.name ∧
      (BmsComponent.cell i).name ≠ BmsComponent.cellmin.name ∧
      (BmsComponent.cell i).name ≠ BmsComponent.cellcan.name :=
  ⟨name_cell_ne (show 'm' ∈ "max".toList by decide) (by decide),
    name_cell_ne (show 'm' ∈ "min".toList by decide) (by decide),
    name_cell_ne (show 'n' ∈ "can".toList by decide) (by decide)⟩

theorem index_eq {i j : Fin bmsCellCount} {cs : List Char} (h : cs ++ digits i = cs ++ digits j) :
    i = j :=
  Fin.ext (digits_injective (List.append_cancel_left h))

/-- Different components have different names. -/
theorem name_injective : Function.Injective BmsComponent.name := by
  intro c d h
  cases c with
  | cell i =>
      obtain ⟨hmax, hmin, hcan⟩ := name_cell_ne_summary i
      cases d with
      | cell k => exact congrArg BmsComponent.cell (index_eq h)
      | cellmax => exact absurd h hmax
      | cellmin => exact absurd h hmin
      | cellcan => exact absurd h hcan
      | _ => exact absurd (List.cons.inj h).1 (by decide)
  | j i =>
      cases d with
      | j k => exact congrArg BmsComponent.j (index_eq h)
      | _ => exact absurd (List.cons.inj h).1 (by decide)
  | bal i =>
      cases d with
      | bal k => exact congrArg BmsComponent.bal (index_eq h)
      | _ => exact absurd (List.cons.inj h).1 (by decide)
  | cellmax =>
      cases d with
      | cell k => exact absurd h.symm (name_cell_ne_summary k).1
      | cellmax => rfl
      | cellmin | cellcan => exact absurd h (by decide)
      | j k | bal k | warn => exact absurd (List.cons.inj h).1 (by decide)
  | cellmin =>
      cases d with
      | cell k => exact absurd h.symm (name_cell_ne_summary k).2.1
      | cellmin => rfl
      | cellmax | cellcan => exact absurd h (by decide)
      | j k | bal k | warn => exact absurd (List.cons.inj h).1 (by decide)
  | cellcan =>
      cases d with
      | cell k => exact absurd h.symm (name_cell_ne_summary k).2.2
      | cellcan => rfl
      | cellmax | cellmin => exact absurd h (by decide)
      | j k | bal k | warn => exact absurd (List.cons.inj h).1 (by decide)
  | warn =>
      cases d with
      | warn => rfl
      | _ => exact absurd (List.cons.inj h).1 (by decide)

theorem length_name_le (c : BmsComponent) : c.name.length ≤ 7 := by
  have hindex : ∀ i : Fin bmsCellCount, (digits i).length ≤ 2 := fun i =>
    length_digits_le (by decide) (i.isLt.trans (by decide))
  cases c with
  | cell i =>
      have hi := hindex i
      show ("cell".toList ++ digits i).length ≤ 7
      rw [List.length_append]
      show 4 + (digits i).length ≤ 7
      omega
  | j i =>
      have hi := hindex i
      show ("j".toList ++ digits i).length ≤ 7
      rw [List.length_append]
      show 1 + (digits i).length ≤ 7
      omega
  | bal i =>
      have hi := hindex i
      show ("bal".toList ++ digits i).length ≤ 7
      rw [List.length_append]
      show 3 + (digits i).length ≤ 7
      omega
  | _ => decide

theorem length_digits_value_le (c : BmsComponent) (v : c.Value) :
    (digits (c.toNat v)).length ≤ 5 := by
  apply length_digits_le (by decide)
  cases c with
  | cell i | cellmax | cellmin => exact (UInt16.toNat_lt v).trans (by decide)
  | j i | bal i | warn | cellcan => exact (UInt8.toNat_lt v).trans (by decide)

/-- No command is longer than 20 bytes: `cellmax.val=65535` and three end bytes. -/
theorem bytes_le (c : BmsComponent) (v : c.Value) : (command c v).bytes ≤ 20 := by
  have hname := length_name_le c
  have hvalue := length_digits_value_le c v
  unfold command Command.bytes
  simp only [List.length_append]
  show c.name.length + 5 + (digits (c.toNat v)).length + 3 ≤ 20
  omega

end TfnAks.Bms
