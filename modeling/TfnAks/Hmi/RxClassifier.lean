/-
# TfnAks.Hmi.RxClassifier — what the display sends, byte by byte

`HMI_rxClassifyByte` of `lib/HMIHelpers/HMIHelpers.h`. A touch command is the frame `5A cmd ~cmd`; a
restart of the display shows as the byte `88` or as the sequence `00 00 00 FF FF FF`. The classifier
keeps the two half-seen patterns in its state and answers each byte with an event.
-/
import TfnAks.Lib.Mealy

namespace TfnAks.Hmi

open TfnAks.Lib.Mealy

/-- `HMI_RxEvent`; a `touch` carries what the source writes to `HMI_outCmd`. -/
inductive RxEvent where
  | none
  | touch (cmd : UInt8)
  | nextionReset
  deriving DecidableEq, Repr

/-- The state of the classifier: where it is in a touch frame, and its runs of `00` and `FF`. -/
structure RxState where
  /-- 0 idle, 1 after `5A`, 2 after the command -/
  touchState : UInt8
  pendingCmd : UInt8
  zeroRun : UInt8
  ffRun : UInt8
  deriving DecidableEq, Repr

/-- `HMI_RxState{}` -/
def RxState.start : RxState := ⟨0, 0, 0, 0⟩

/-- The bytes `00` and `FF`: they cancel a half-seen touch frame and feed the start-up pattern. -/
def RxState.trackStartup (st : RxState) (b : UInt8) : RxState × RxEvent :=
  let st := { st with touchState := 0, pendingCmd := 0 }
  if b = 0x00 then
    if 0 < st.ffRun then ({ st with ffRun := 0, zeroRun := 1 }, .none)
    else if st.zeroRun < 3 then ({ st with zeroRun := st.zeroRun + 1 }, .none)
    else (st, .none)
  else
    if 3 ≤ st.zeroRun then
      let st := { st with ffRun := st.ffRun + 1 }
      if 3 ≤ st.ffRun then (.start, .nextionReset) else (st, .none)
    else ({ st with ffRun := 0, zeroRun := 0 }, .none)

/-- Any other byte: it cancels the start-up pattern and feeds the touch frame. -/
def RxState.trackTouch (st : RxState) (b : UInt8) : RxState × RxEvent :=
  let st := { st with zeroRun := 0, ffRun := 0 }
  if st.touchState = 0 then
    if b = 0x5A then ({ st with touchState := 1 }, .none) else (st, .none)
  else if st.touchState = 1 then ({ st with pendingCmd := b, touchState := 2 }, .none)
  else if st.touchState = 2 then
    let expected := ~~~st.pendingCmd
    let st := { st with touchState := 0 }
    if b = expected then (st, .touch st.pendingCmd) else (st, .none)
  else ({ st with touchState := 0 }, .none)

/-- One byte. `88` is a restart wherever it comes; `00` and `FF` may be part of a start-up marker.
-/
def rxClassifyByte (st : RxState) (b : UInt8) : RxState × RxEvent :=
  if b = 0x88 then (.start, .nextionReset)
  else if b = 0x00 ∨ b = 0xFF then st.trackStartup b
  else st.trackTouch b

/-- The command of a touch event. -/
def RxEvent.cmd? : RxEvent → Option UInt8
  | .touch cmd => some cmd
  | _ => Option.none

/-- The touch commands among some events, in order. -/
def touchCommands (events : List RxEvent) : List UInt8 := events.filterMap RxEvent.cmd?

/-- The touch commands of a whole byte stream. -/
def streamCommands (st : RxState) (stream : List UInt8) : List UInt8 :=
  touchCommands (outputs rxClassifyByte st stream)

/-- The touch commands of each scan of a stream that is cut into scans. -/
def scanCommands (st : RxState) (scans : List (List UInt8)) : List (List UInt8) :=
  (chunkOutputs rxClassifyByte st scans).map touchCommands

/-- Cutting the stream into scans loses no touch command, wherever a frame is cut. -/
theorem flatten_scanCommands (st : RxState) (scans : List (List UInt8)) :
    (scanCommands st scans).flatten = streamCommands st scans.flatten := by
  unfold scanCommands streamCommands touchCommands
  rw [← flatten_chunkOutputs, List.filterMap_flatten]

end TfnAks.Hmi
