/-
# TfnAks.Hmi.DisplayHMI — one touch command for each scan

`DisplayHMI::readTouchCommand` of `lib/DisplayHMI/DisplayHMI.cpp`. A call drains the bytes the UART
has received and hands every one to the classifier, but it returns one command only: the first of
the scan. Later ones are dropped on purpose (`!HMI_gotCommand`, "a second touch does not come in
practice"); the scan goes on all the same, for the sake of a restart marker behind the command.
-/
import TfnAks.Hmi.RxClassifier

namespace TfnAks.Hmi

open TfnAks.Lib.Mealy

/-- The part of the object that `readTouchCommand` reads and writes. -/
structure DisplayHMI where
  isInitialized : Bool
  hasCachedScreen : Bool
  rxState : RxState
  nextionResetPending : Bool
  deriving DecidableEq, Repr

/-- The object after a successful `begin()`. -/
def DisplayHMI.begun : DisplayHMI := ⟨true, false, .start, false⟩

/-- The body of the scan loop for one byte. `gotCommand` is the command found so far in the scan
(`HMI_gotCommand` and `HMI_command`). -/
def DisplayHMI.scanByte (d : DisplayHMI) (gotCommand : Option UInt8) (b : UInt8) :
    DisplayHMI × Option UInt8 :=
  let (rxState, event) := rxClassifyByte d.rxState b
  let d := { d with rxState := rxState }
  match event with
  | .nextionReset => ({ d with hasCachedScreen := false, nextionResetPending := true }, gotCommand)
  | .touch cmd => if gotCommand.isNone then (d, some cmd) else (d, gotCommand)
  | .none => (d, gotCommand)

/-- The scan loop over the bytes that are available. -/
def DisplayHMI.scan (d : DisplayHMI) (gotCommand : Option UInt8) :
    List UInt8 → DisplayHMI × Option UInt8
  | [] => (d, gotCommand)
  | b :: bs =>
    let (d, gotCommand) := d.scanByte gotCommand b
    d.scan gotCommand bs

/-- `readTouchCommand`, with the bytes the UART delivers to this call: the command it returns, if
any. -/
def DisplayHMI.readTouchCommand (d : DisplayHMI) (bytes : List UInt8) :
    DisplayHMI × Option UInt8 :=
  if !d.isInitialized then (d, none)
  else
    match bytes with
    | [] => (d, none)
    | b :: bs => d.scan none (b :: bs)

/-- Reads the flag and clears it. -/
def DisplayHMI.takeNextionResetFlag (d : DisplayHMI) : DisplayHMI × Bool :=
  ({ d with nextionResetPending := false }, d.nextionResetPending)

/-- The commands returned by successive calls, one scan each. -/
def DisplayHMI.readAll (d : DisplayHMI) : List (List UInt8) → List UInt8
  | [] => []
  | bytes :: scans =>
    let (d, command) := d.readTouchCommand bytes
    command.toList ++ d.readAll scans

/-! ## One scan -/

/-- One byte moves the classifier on, and its command counts unless one was found before. -/
theorem scanByte_spec (d : DisplayHMI) (got : Option UInt8) (b : UInt8) :
    (d.scanByte got b).1.rxState = (rxClassifyByte d.rxState b).1 ∧
      (d.scanByte got b).1.isInitialized = d.isInitialized ∧
      (d.scanByte got b).2 = got.or (rxClassifyByte d.rxState b).2.cmd? := by
  unfold DisplayHMI.scanByte
  rcases rxClassifyByte d.rxState b with ⟨st, event⟩
  cases event with
  | touch cmd => cases got <;> exact ⟨rfl, rfl, rfl⟩
  | _ => cases got <;> exact ⟨rfl, rfl, rfl⟩

/-- A scan leaves the classifier where the bytes lead it, and finds the first command among them
unless one was found before. -/
theorem scan_spec (d : DisplayHMI) (got : Option UInt8) (bytes : List UInt8) :
    (d.scan got bytes).1.rxState = stateAfter rxClassifyByte d.rxState bytes ∧
      (d.scan got bytes).1.isInitialized = d.isInitialized ∧
      (d.scan got bytes).2 = got.or (streamCommands d.rxState bytes).head? := by
  induction bytes generalizing d got with
  | nil =>
      refine ⟨rfl, rfl, ?_⟩
      show got = got.or none
      rw [Option.or_none]
  | cons b bs ih =>
      obtain ⟨hrx, hinit, hcmd⟩ := scanByte_spec d got b
      obtain ⟨ih₁, ih₂, ih₃⟩ := ih (d.scanByte got b).1 (d.scanByte got b).2
      rw [hrx] at ih₁ ih₃
      refine ⟨ih₁, ih₂.trans hinit, ih₃.trans ?_⟩
      rw [hcmd, Option.or_assoc]
      congr 1
      simp only [streamCommands, touchCommands, outputs_cons, List.filterMap_cons]
      cases (rxClassifyByte d.rxState b).2.cmd? <;> rfl

theorem readTouchCommand_spec {d : DisplayHMI} (hinit : d.isInitialized = true)
    (bytes : List UInt8) :
    (d.readTouchCommand bytes).1.rxState = stateAfter rxClassifyByte d.rxState bytes ∧
      (d.readTouchCommand bytes).1.isInitialized = true ∧
      (d.readTouchCommand bytes).2 = (streamCommands d.rxState bytes).head? := by
  cases bytes with
  | nil => simp [DisplayHMI.readTouchCommand, hinit, streamCommands, touchCommands]
  | cons b bs =>
      have hscan := scan_spec d none (b :: bs)
      rw [hinit, Option.none_or] at hscan
      simpa [DisplayHMI.readTouchCommand, hinit] using hscan

/-- The bytes hold a restart marker that ends in them. -/
def ClassifiesReset (st : RxState) (bytes : List UInt8) : Prop :=
  .nextionReset ∈ outputs rxClassifyByte st bytes

instance (st : RxState) (bytes : List UInt8) : Decidable (ClassifiesReset st bytes) :=
  inferInstanceAs (Decidable (_ ∈ _))

theorem not_classifiesReset_nil (st : RxState) : ¬ ClassifiesReset st [] := List.not_mem_nil

theorem classifiesReset_cons (st : RxState) (b : UInt8) (bs : List UInt8) :
    ClassifiesReset st (b :: bs) ↔ (rxClassifyByte st b).2 = .nextionReset ∨
      ClassifiesReset (rxClassifyByte st b).1 bs := by
  unfold ClassifiesReset
  rw [outputs_cons, List.mem_cons, eq_comm]

theorem scanByte_hasCachedScreen (d : DisplayHMI) (got : Option UInt8) (b : UInt8) :
    (d.scanByte got b).1.hasCachedScreen =
      (d.hasCachedScreen && decide ((rxClassifyByte d.rxState b).2 ≠ .nextionReset)) := by
  unfold DisplayHMI.scanByte
  rcases rxClassifyByte d.rxState b with ⟨st, event⟩
  cases event with
  | none => simp
  | touch cmd => cases got <;> simp
  | nextionReset => simp

/-- A scan forgets the screen exactly when it classifies a restart marker. -/
theorem scan_hasCachedScreen (d : DisplayHMI) (got : Option UInt8) (bytes : List UInt8) :
    (d.scan got bytes).1.hasCachedScreen =
      (d.hasCachedScreen && decide (¬ ClassifiesReset d.rxState bytes)) := by
  induction bytes generalizing d got with
  | nil => simp [DisplayHMI.scan, not_classifiesReset_nil]
  | cons b bs ih =>
      have hrest := ih (d.scanByte got b).1 (d.scanByte got b).2
      rw [(scanByte_spec d got b).1, scanByte_hasCachedScreen] at hrest
      show ((d.scanByte got b).1.scan (d.scanByte got b).2 bs).1.hasCachedScreen = _
      rw [hrest, Bool.and_assoc, ← Bool.decide_and]
      simp only [classifiesReset_cons, not_or]

theorem readTouchCommand_hasCachedScreen {d : DisplayHMI} (hinit : d.isInitialized = true)
    (bytes : List UInt8) :
    (d.readTouchCommand bytes).1.hasCachedScreen =
      (d.hasCachedScreen && decide (¬ ClassifiesReset d.rxState bytes)) := by
  cases bytes with
  | nil => simp [DisplayHMI.readTouchCommand, hinit, not_classifiesReset_nil]
  | cons b bs => simpa [DisplayHMI.readTouchCommand, hinit] using scan_hasCachedScreen d none (b :: bs)

/-! ## Successive scans -/

/-- The calls return the first touch command of each scan, whatever the state of the classifier. -/
theorem readAll_eq {d : DisplayHMI} (hinit : d.isInitialized = true) (scans : List (List UInt8)) :
    d.readAll scans = (scanCommands d.rxState scans).filterMap List.head? := by
  induction scans generalizing d with
  | nil => rfl
  | cons bytes scans ih =>
      obtain ⟨hrx, hi, hcmd⟩ := readTouchCommand_spec hinit bytes
      have hrest := ih hi
      rw [hrx] at hrest
      show (d.readTouchCommand bytes).2.toList ++ (d.readTouchCommand bytes).1.readAll scans = _
      rw [hrest, hcmd]
      simp only [scanCommands, chunkOutputs_cons, List.map_cons, List.filterMap_cons]
      unfold streamCommands
      cases (touchCommands (outputs rxClassifyByte d.rxState bytes)).head? <;> rfl

/-- **What the touch path delivers.** For every stream and every way of cutting it into scans, the
scans together hold exactly the touch commands of the stream; the calls return the first command of
each scan; and they return them all exactly when no scan holds two. -/
theorem readAll_delivers (scans : List (List UInt8)) :
    (scanCommands .start scans).flatten = streamCommands .start scans.flatten ∧
      DisplayHMI.begun.readAll scans = (scanCommands .start scans).filterMap List.head? ∧
      (DisplayHMI.begun.readAll scans = streamCommands .start scans.flatten ↔
        ∀ commands ∈ scanCommands .start scans, commands.length ≤ 1) := by
  have hread := readAll_eq (d := .begun) rfl scans
  refine ⟨flatten_scanCommands .start scans, hread, ?_⟩
  rw [hread, ← flatten_scanCommands]
  exact filterMap_head?_eq_flatten_iff _

/-- START and EMERGENCY_STOP in one scan: both are decoded, the stop is not delivered. -/
theorem stop_behind_start_is_dropped :
    ¬ ∀ scans, DisplayHMI.begun.readAll scans = streamCommands .start scans.flatten := by
  intro h
  have hscan := h [[0x5A, 0x01, 0xFE, 0x5A, 0x03, 0xFC]]
  have hdecoded : streamCommands .start [0x5A, 0x01, 0xFE, 0x5A, 0x03, 0xFC] = [1, 3] := by decide
  have hreturned : DisplayHMI.begun.readAll [[0x5A, 0x01, 0xFE, 0x5A, 0x03, 0xFC]] = [1] := by decide
  rw [hreturned, List.flatten_singleton, hdecoded] at hscan
  exact absurd hscan (by decide)

end TfnAks.Hmi
