/-
# TfnAks.System.Cockpit — the display task beside the other two

`TfnAks.System.Aks` has the CAN task and the VCU task; this module adds `vTask_HMI_Display`. A pass
of it reads what the others write at up to thirteen points: the telemetry queue twice, the state of
the VCU, and the relays one channel after the other until the first that is open. It gives back the
event of a touch. A step is again one piece of one task.

Events are posted by the display task and by the callback of the CAN task only, so posts out of
nowhere (`Act.post`) are no steps here.
-/
import TfnAks.Hmi.HmiTask
import TfnAks.System.Noninterference

namespace TfnAks.System

open TfnAks.Lib.Runs TfnAks.Bms TfnAks.Can TfnAks.Hmi TfnAks.Relay TfnAks.Vcu

/-- Where the display task is in its pass, with what it has read so far. -/
inductive HmiPc where
  | start
  | getState (bmsForceFromReset : Bool) (screenQueue : Option TelemetryData)
  | getRelay (bmsForceFromReset : Bool) (screenQueue : Option TelemetryData) (vcuState : VcuState)
      (channel : UInt8)
  | paint (bmsForceFromReset : Bool) (data : HmiDisplayData)
  | touch

/-- The three tasks and the bytes of the display. -/
structure Cockpit where
  sys : Sys
  hmi : HmiTask
  hmiPc : HmiPc
  /-- the bytes the display has sent so far -/
  received : List UInt8

/-- Before any task has run. -/
def Cockpit.boot : Cockpit := ⟨.boot, .begun, .start, []⟩

/-- A piece of one of the tasks. -/
inductive CockpitAct where
  /-- a step of the other two tasks, or of time -/
  | task (a : Act)
  /-- a piece of the display task; the uptime and the bytes are read where the piece reads them -/
  | hmi (nowMs : UInt32) (received : List UInt8)

/-- `xQueuePeek` on the telemetry queue. -/
def Cockpit.peek (c : Cockpit) : Option TelemetryData := c.sys.slot.map Prod.fst

/-- One piece of the display task: what it leaves and what it writes to the display. -/
def Cockpit.hmiPiece (nowMs : UInt32) (received : List UInt8) (c : Cockpit) :
    Cockpit × HmiOutput :=
  match c.hmiPc with
  | .start =>
    let (hmi, force) := c.hmi.takeNextionResetFlag
    let queue := if hmi.sensorDataQueue then c.peek else none
    ({ c with hmi := hmi, hmiPc := .getState force queue }, ⟨[], [], none⟩)
  | .getState force queue =>
    ({ c with hmiPc := .getRelay force queue c.sys.vcu.state 0 }, ⟨[], [], none⟩)
  | .getRelay force queue state channel =>
    -- `HMI_areAllContactorsClosed` stops at the first open one
    if !c.sys.vcu.relays.getRelayState channel then
      ({ c with hmiPc := .paint force (screenData sourceVerified queue state false) }, ⟨[], [], none⟩)
    else if channel + 1 < relayTotalChannels then
      ({ c with hmiPc := .getRelay force queue state (channel + 1) }, ⟨[], [], none⟩)
    else ({ c with hmiPc := .paint force (screenData sourceVerified queue state true) }, ⟨[], [], none⟩)
  | .paint force data =>
    -- the BMS page peeks a second time, so it may show a later snapshot than the main page
    let (hmi, mainCommands, bmsCommands) := c.hmi.paint sourceVerified force data c.peek nowMs
    ({ c with hmi := hmi, hmiPc := .touch }, ⟨mainCommands, bmsCommands, none⟩)
  | .touch =>
    let (hmi, posted) := c.hmi.touch received
    let vcu := posted.elim c.sys.vcu c.sys.vcu.postEvent
    ({ c with
        sys := { c.sys with vcu := vcu }
        hmi := hmi
        hmiPc := .start
        received := c.received ++ received },
      ⟨[], [], posted⟩)

/-- One of these, when its task is at that point. -/
def Cockpit.step (rpmToSpeedKmhX10 : UInt16 → UInt16) (c : Cockpit) : CockpitAct → Option Cockpit
  | .task (.post _) => none
  | .task a => (c.sys.anyStep rpmToSpeedKmhX10 a).map fun sys => { c with sys := sys }
  | .hmi nowMs received => some (c.hmiPiece nowMs received).1

/-- A step of the other tasks is a step of `Aks`, and posts nothing out of nowhere. -/
theorem taskStep_cases {rpmToSpeedKmhX10 : UInt16 → UInt16} {c c' : Cockpit} {a : Act}
    (h : c.step rpmToSpeedKmhX10 (.task a) = some c') :
    (∀ event, a ≠ .post event) ∧
      ∃ sys, c.sys.anyStep rpmToSpeedKmhX10 a = some sys ∧ c' = { c with sys := sys } := by
  cases a with
  | post event => exact absurd h nofun
  | _ =>
      have hmap := h
      unfold Cockpit.step at hmap
      obtain ⟨sys, hsys, heq⟩ := Option.map_eq_some_iff.mp hmap
      exact ⟨nofun, sys, hsys, heq.symm⟩

end TfnAks.System
