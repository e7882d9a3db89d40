/-
# TfnAks.Can.CanReplay — the checks on a recorded session

`tools/can_replay/can_replay.cpp` behind its line parser. Each frame of a log is counted and goes
through the parsers of the firmware; a corrupt line and a value that is not that of the recorded
session are violations, and with one the exit code is 1.

`main` keeps running totals, line by line. `Replay.of` says what they are at the end without any
state, from the lines that have content (`replayLog_eq_of`). The exit code is then a property of the
lines alone: 0 exactly if each of them is read and carries a frame that passes
(`exitCode_eq_zero_iff`).

The text of the report around the totals is left out. Counters are natural numbers, and `countsById`
is 0 at a key the map does not have.
-/
import TfnAks.Can.BusRecord
import TfnAks.Can.SnifferGrammar

namespace TfnAks.Can.Sniffer

open TfnAks.Lib.CText

/-! ## The checks -/

/-- 79.0 V, the pack voltage of the recorded session. -/
def kExpectedPackVDeciV : UInt16 := 790

/-- 88.0 V, the voltage setpoint of the session. -/
def kExpectedChargerVsetDeciV : UInt16 := 880

/-- 100.0 A, the current setpoint of the session. -/
def kExpectedChargerIsetDeciA : UInt16 := 1000

/-- The identifiers of standard frames the table knows. -/
def kKnownStdIds : List UInt32 := [canIdLbStd0x000]

/-- The identifiers of extended frames with a case of their own in `processExtFrame`. -/
def handledExtIds : List UInt32 :=
  [canIdLbBmsE000, canIdLbChargerCmd, canIdLbBmsE001, canIdLbBmsE002, canIdLbBmsE003,
    canIdLbBmsE004, canIdLbBmsE005, canIdLbBmsE032, canIdLbBmsE033]

/-- `%s 0x%08X` -/
def idKey (isExt : Bool) (id : UInt32) : String :=
  (if isExt then "EXT" else "STD") ++ " 0x" ++ String.ofList (hexText 8 id.toNat)

/-- `satir %d: `, with which each violation begins. -/
def lineMark (lineNo : ℕ) : String := "satir " ++ toString lineNo ++ ": "

/-- The case `0xE000`. Without the asserts of the session only the length is looked at. -/
def packViolations (f : Frame) (sessionAsserts : Bool) : List String :=
  match parseLbBmsE000 f.msg with
  | none => [lineMark f.lineNo ++ "parseLbBmsE000 false dondu (DLC<8)"]
  | some out =>
    if !sessionAsserts then []
    else
      (if out.bmsPackVoltageDeciV ≠ kExpectedPackVDeciV then
        [lineMark f.lineNo ++ "E000 packV=" ++ toString out.bmsPackVoltageDeciV.toNat ++
          " deciV, beklenen 790 (79.0 V)"]
      else []) ++
      (if f.msg.byte 2 ≠ 0x03 ∨ f.msg.byte 3 ≠ 0x16 then
        [lineMark f.lineNo ++ "E000 byte[2:3] != 0x0316"]
      else []) ++
      (if out.bmsCurrentCentiMa ≠ -10 ∧ out.bmsCurrentCentiMa ≠ -20 then
        [lineMark f.lineNo ++ "E000 akim " ++ toString out.bmsCurrentCentiMa.toInt ++
          ", beklenen \x7b-10,-20\x7d centiMa (idle)"]
      else [])

/-- The case `0x1806E5F4`. -/
def chargerViolations (f : Frame) (sessionAsserts : Bool) : List String :=
  match parseCharger1806E5F4 f.msg with
  | none => [lineMark f.lineNo ++ "parseCharger1806E5F4 false dondu (DLC<4)"]
  | some cmd =>
    if !sessionAsserts then []
    else if cmd.chargeVoltageSetpointDeciV ≠ kExpectedChargerVsetDeciV ∨
        cmd.chargeCurrentSetpointDeciA ≠ kExpectedChargerIsetDeciA then
      [lineMark f.lineNo ++ "charger setpoint Vset=" ++
        toString cmd.chargeVoltageSetpointDeciV.toNat ++ " Iset=" ++
        toString cmd.chargeCurrentSetpointDeciA.toNat ++ ", beklenen 880/1000 (88.0 V / 100.0 A)"]
    else []

/-- What `processExtFrame` passes to `addViolation`, in order. In the cases that are not verified
the parser is called and its answer thrown away. -/
def extViolations (f : Frame) (sessionAsserts : Bool) : List String :=
  if f.id = canIdLbBmsE000 then packViolations f sessionAsserts
  else if f.id = canIdLbChargerCmd then chargerViolations f sessionAsserts
  else []

/-! ## The totals -/

/-- The running totals; of the violations only the first few are kept, the others are counted. -/
structure Stats where
  total : ℕ
  countsById : String → ℕ
  unknownIds : Finset String
  violations : List String
  violationCount : ℕ

/-- Nothing counted yet. -/
def Stats.init : Stats := ⟨0, fun _ => 0, ∅, [], 0⟩

/-- How many violations the report shows. -/
def violationsShown : ℕ := 20

/-- One more violation. -/
def Stats.addViolation (st : Stats) (v : String) : Stats :=
  { st with
    violationCount := st.violationCount + 1
    violations :=
      if st.violations.length < violationsShown then st.violations ++ [v] else st.violations }

/-- An extended frame: its violations, and whether its identifier is known. -/
def processExtFrame (f : Frame) (sessionAsserts : Bool) (st : Stats) : Stats :=
  let st := (extViolations f sessionAsserts).foldl Stats.addViolation st
  if f.id ∈ handledExtIds then st
  else { st with unknownIds := insert (idKey true f.id) st.unknownIds }

/-- `st.total++` and the map. -/
def Stats.count (st : Stats) (key : String) : Stats :=
  { st with
    total := st.total + 1
    countsById := Function.update st.countsById key (st.countsById key + 1) }

/-- What the loop does with a frame. -/
def processFrame (f : Frame) (sessionAsserts : Bool) (st : Stats) : Stats :=
  let st := st.count (idKey f.isExt f.id)
  if f.isExt then processExtFrame f sessionAsserts st
  else if f.id ∉ kKnownStdIds then
    { st with unknownIds := insert (idKey false f.id) st.unknownIds }
  else st

/-- The locals of `main` that the loop changes. -/
structure Replay where
  st : Stats
  badLines : ℕ

/-- The violation of a line that is not read. -/
def corruptText (lineNo : ℕ) (err : String) : String :=
  lineMark lineNo ++ "log satiri bozuk — " ++ err

/-- The body of the loop over the lines. -/
def replayLine (w : LongWidth) (sessionAsserts : Bool) (lineNo : ℕ) (line : List Char)
    (r : Replay) : Replay :=
  let t := trim line
  if skipped t then r
  else
    match parseLine w t lineNo .init with
    | .error err => ⟨r.st.addViolation (corruptText lineNo err), r.badLines + 1⟩
    | .ok f => ⟨processFrame f sessionAsserts r.st, r.badLines⟩

/-- The loop over the lines of a file; lines are counted from 1. -/
def replayLog (w : LongWidth) (sessionAsserts : Bool) (file : List Char) : Replay :=
  (getlines '\n' file).zipIdx.foldl (fun r x => replayLine w sessionAsserts (x.2 + 1) x.1 r)
    ⟨.init, 0⟩

/-- 1 with a violation, else 0. -/
def Replay.exitCode (r : Replay) : ℕ := if 0 < r.st.violationCount then 1 else 0

/-- Whether the asserts are on, and the path: the last argument that is no flag. -/
def readArgs (args : List String) : Bool × String :=
  args.foldl (fun o arg => if arg = "--generic" then (false, o.2) else (o.1, arg)) (true, "")

/-- The exit code, and the totals of the report if there is one. `readFile` is the file system. -/
def main (w : LongWidth) (readFile : String → Option (List Char)) (args : List String) :
    ℕ × Option Replay :=
  let sessionAsserts := (readArgs args).1
  let path := (readArgs args).2
  if path.isEmpty then (2, none)
  else
    match readFile path with
    | none => (2, none)
    | some file =>
      let r := replayLog w sessionAsserts file
      (r.exitCode, some r)

/-! ## The lines of a log -/

/-- The lines with content among numbered lines, trimmed. -/
def content (lines : List (List Char × ℕ)) : List (ℕ × List Char) :=
  (lines.map fun x => (x.2 + 1, trim x.1)).filter fun x => !skipped x.2

/-- The lines of a file with content, numbered from 1. -/
def contentLines (file : List Char) : List (ℕ × List Char) := content (getlines '\n' file).zipIdx

theorem content_cons_of_skipped {x : List Char × ℕ} (h : skipped (trim x.1) = true)
    (lines : List (List Char × ℕ)) : content (x :: lines) = content lines := by
  rw [content, List.map_cons, List.filter_cons_of_neg (by simp [h])]
  rfl

theorem content_cons_of_not {x : List Char × ℕ} (h : skipped (trim x.1) = false)
    (lines : List (List Char × ℕ)) :
    content (x :: lines) = (x.2 + 1, trim x.1) :: content lines := by
  rw [content, List.map_cons, List.filter_cons_of_pos (by simp [h])]
  rfl

theorem content_concat (lines : List (List Char × ℕ)) (x : List Char × ℕ) :
    content (lines ++ [x]) = content lines ++ content [x] := by
  rw [content, List.map_append, List.filter_append]
  rfl

/-! ## The totals without the loop -/

/-- What a line read under its number adds to the violations. -/
def lineViolations (w : LongWidth) (sessionAsserts : Bool) (x : ℕ × List Char) : List String :=
  match parseLine w x.2 x.1 .init with
  | .error err => [corruptText x.1 err]
  | .ok f => if f.isExt then extViolations f sessionAsserts else []

/-- The frame in a line, if it is read. -/
def lineFrame? (w : LongWidth) (x : ℕ × List Char) : Option Frame :=
  (parseLine w x.2 x.1 .init).toOption

/-- One of the identifiers of the message table, in its format. -/
def Frame.known (f : Frame) : Bool :=
  if f.isExt then f.id ∈ handledExtIds else f.id ∈ kKnownStdIds

/-- Under what a frame is counted. -/
def Frame.key (f : Frame) : String := idKey f.isExt f.id

/-- The totals of some lines with content. -/
def Replay.of (w : LongWidth) (sessionAsserts : Bool) (lines : List (ℕ × List Char)) : Replay where
  st :=
    { total := (lines.filterMap (lineFrame? w)).length
      countsById := fun key => ((lines.filterMap (lineFrame? w)).map Frame.key).count key
      unknownIds :=
        (((lines.filterMap (lineFrame? w)).filter fun f => !f.known).map Frame.key).toFinset
      violations := (lines.flatMap (lineViolations w sessionAsserts)).take violationsShown
      violationCount := (lines.flatMap (lineViolations w sessionAsserts)).length }
  badLines := lines.countP fun x => (lineFrame? w x).isNone

/-- Some violations, one after the other: all are counted, and the first ones kept. -/
theorem foldl_addViolation (vs : List String) (st : Stats)
    (hshown : st.violations.length ≤ violationsShown) :
    vs.foldl Stats.addViolation st =
      { st with
        violations := (st.violations ++ vs).take violationsShown
        violationCount := st.violationCount + vs.length } := by
  induction vs generalizing st with
  | nil => rw [List.append_nil, List.take_of_length_le hshown]; rfl
  | cons v vs ih =>
      rw [List.foldl_cons, Stats.addViolation]
      by_cases hroom : st.violations.length < violationsShown
      · rw [if_pos hroom]
        have hlength : (st.violations ++ [v]).length ≤ violationsShown := by
          rw [List.length_append, List.length_singleton]
          exact hroom
        rw [ih _ hlength, List.append_assoc, List.length_cons, Nat.add_assoc, Nat.add_comm 1]
        rfl
      · -- the list is full, and stays as it is
        have hfull : violationsShown = st.violations.length := by omega
        rw [if_neg hroom]
        refine (ih { st with violationCount := st.violationCount + 1 } hshown).trans ?_
        rw [hfull, List.take_left, List.take_left, List.length_cons, Nat.add_assoc, Nat.add_comm 1]

theorem processExtFrame_eq (f : Frame) (sessionAsserts : Bool) (st : Stats)
    (hshown : st.violations.length ≤ violationsShown) :
    processExtFrame f sessionAsserts st =
      { st with
        unknownIds :=
          if f.id ∈ handledExtIds then st.unknownIds else insert (idKey true f.id) st.unknownIds
        violations := (st.violations ++ extViolations f sessionAsserts).take violationsShown
        violationCount := st.violationCount + (extViolations f sessionAsserts).length } := by
  unfold processExtFrame
  rw [foldl_addViolation _ st hshown]
  by_cases hid : f.id ∈ handledExtIds
  · rw [if_pos hid]
    simp only [if_pos hid]
  · rw [if_neg hid]
    simp only [if_neg hid]

/-- **One frame.** It is counted under its key; the key of an unknown one is kept, and what it
violates is appended. -/
theorem processFrame_eq (f : Frame) (sessionAsserts : Bool) (st : Stats)
    (hshown : st.violations.length ≤ violationsShown) :
    processFrame f sessionAsserts st =
      { total := st.total + 1
        countsById := Function.update st.countsById f.key (st.countsById f.key + 1)
        unknownIds := if f.known then st.unknownIds else insert f.key st.unknownIds
        violations :=
          (st.violations ++ if f.isExt then extViolations f sessionAsserts else []).take
            violationsShown
        violationCount :=
          st.violationCount +
            (if f.isExt then extViolations f sessionAsserts else []).length } := by
  unfold processFrame Frame.known Frame.key
  cases hext : f.isExt with
  | true =>
      simp only [if_true, decide_eq_true_eq]
      exact processExtFrame_eq f sessionAsserts (st.count (idKey true f.id)) hshown
  | false =>
      simp only [Bool.false_eq_true, if_false, List.append_nil, List.length_nil, Nat.add_zero,
        List.take_of_length_le hshown]
      by_cases hid : f.id ∈ kKnownStdIds
      · rw [if_neg (not_not.mpr hid)]
        simp only [hid, decide_true, if_true]
        rfl
      · rw [if_pos hid]
        simp only [hid, decide_false, Bool.false_eq_true, if_false]
        rfl

/-- What is kept of a list so far decides what is kept of it later. -/
theorem take_take_append {α : Type*} (n : ℕ) (xs ys : List α) :
    (xs.take n ++ ys).take n = (xs ++ ys).take n := by
  rw [List.take_append, List.take_append, List.take_take, Nat.min_self, List.length_take]
  congr 2
  omega

/-- One more key is one more under that key. -/
theorem count_concat (keys : List String) (k : String) :
    (fun key => (keys ++ [k]).count key) =
      Function.update (fun key => keys.count key) k (keys.count k + 1) := by
  funext key
  rw [List.count_append, List.count_singleton, Function.update_apply]
  by_cases hkey : key = k
  · simp [hkey]
  · simp [hkey, Ne.symm hkey]

/-- One more frame adds its key to the unknown ones unless it is known. -/
theorem unknown_concat (fs : List Frame) (f : Frame) :
    (((fs ++ [f]).filter fun f => !f.known).map Frame.key).toFinset =
      if f.known then ((fs.filter fun f => !f.known).map Frame.key).toFinset
      else insert f.key ((fs.filter fun f => !f.known).map Frame.key).toFinset := by
  rw [List.filter_append, List.map_append, List.toFinset_append]
  cases hknown : f.known with
  | true => simp [hknown]
  | false => simp [hknown, Finset.union_comm]

/-- One more line. -/
theorem Replay.of_concat (w : LongWidth) (sessionAsserts : Bool) (lines : List (ℕ × List Char))
    (x : ℕ × List Char) :
    Replay.of w sessionAsserts (lines ++ [x]) =
      match parseLine w x.2 x.1 .init with
      | .error err =>
        ⟨(Replay.of w sessionAsserts lines).st.addViolation (corruptText x.1 err),
          (Replay.of w sessionAsserts lines).badLines + 1⟩
      | .ok f =>
        ⟨processFrame f sessionAsserts (Replay.of w sessionAsserts lines).st,
          (Replay.of w sessionAsserts lines).badLines⟩ := by
  have hshown : (Replay.of w sessionAsserts lines).st.violations.length ≤ violationsShown :=
    List.length_take_le _ _
  have hviolations : ((lines ++ [x]).flatMap (lineViolations w sessionAsserts)) =
      lines.flatMap (lineViolations w sessionAsserts) ++ lineViolations w sessionAsserts x := by
    rw [List.flatMap_append, List.flatMap_singleton]
  have hframes : (lines ++ [x]).filterMap (lineFrame? w) =
      lines.filterMap (lineFrame? w) ++ (lineFrame? w x).toList := by
    rw [List.filterMap_append]
    cases h : lineFrame? w x <;> simp [h]
  have hbad : (lines ++ [x]).countP (fun x => (lineFrame? w x).isNone) =
      lines.countP (fun x => (lineFrame? w x).isNone) +
        if (lineFrame? w x).isNone then 1 else 0 := by
    rw [List.countP_append, List.countP_singleton]
  cases hparse : parseLine w x.2 x.1 .init with
  | error err =>
      -- a corrupt line is one violation and no frame
      have hframe : lineFrame? w x = none := by
        rw [lineFrame?, hparse]
        rfl
      have hline : lineViolations w sessionAsserts x = [corruptText x.1 err] := by
        rw [lineViolations, hparse]
      have hadd := foldl_addViolation [corruptText x.1 err] _ hshown
      rw [List.foldl_cons, List.foldl_nil] at hadd
      dsimp only
      rw [hadd]
      unfold Replay.of
      dsimp only
      rw [hviolations, hframes, hbad, hframe, hline, take_take_append, List.length_append]
      simp
  | ok f =>
      have hframe : lineFrame? w x = some f := by
        rw [lineFrame?, hparse]
        rfl
      have hline : lineViolations w sessionAsserts x =
          if f.isExt then extViolations f sessionAsserts else [] := by
        rw [lineViolations, hparse]
      dsimp only
      rw [processFrame_eq f sessionAsserts _ hshown]
      unfold Replay.of
      dsimp only
      rw [hviolations, hframes, hbad, hframe, hline, take_take_append, List.length_append]
      rw [Option.toList_some, List.map_append, List.map_singleton, count_concat, unknown_concat,
        List.length_append]
      simp

/-- **The loop computes the totals of the lines with content.** -/
theorem replayLog_eq_of (w : LongWidth) (sessionAsserts : Bool) (file : List Char) :
    replayLog w sessionAsserts file = Replay.of w sessionAsserts (contentLines file) := by
  unfold replayLog contentLines
  generalize (getlines '\n' file).zipIdx = lines
  induction lines using List.reverseRecOn with
  | nil => rfl
  | append_singleton lines x ih =>
      rw [List.foldl_append, ih, List.foldl_cons, List.foldl_nil, content_concat, replayLine]
      cases hskip : skipped (trim x.1) with
      | true => rw [content_cons_of_skipped hskip, if_pos rfl]; simp [content]
      | false =>
          rw [content_cons_of_not hskip, if_neg Bool.false_ne_true]
          exact (Replay.of_concat w sessionAsserts (content lines) (x.2 + 1, trim x.1)).symm

/-! ## What passes -/

/-- What the tool asks of a frame: the BMS and the charger frames are long enough for their parser
and, with the asserts of the session, carry its values. -/
structure Frame.Passes (sessionAsserts : Bool) (f : Frame) : Prop where
  pack : f.isExt = true → f.id = canIdLbBmsE000 → 8 ≤ f.msg.dataLengthCode ∧
    (sessionAsserts = true → f.msg.packVoltageDeciV = kExpectedPackVDeciV ∧
      (f.msg.currentCentiMa = -10 ∨ f.msg.currentCentiMa = -20))
  charger : f.isExt = true → f.id = canIdLbChargerCmd → 4 ≤ f.msg.dataLengthCode ∧
    (sessionAsserts = true →
      f.msg.chargerCommand = ⟨kExpectedChargerVsetDeciV, kExpectedChargerIsetDeciA⟩)

theorem toNat_word (hi lo : UInt8) : (word hi lo).toNat = hi.toNat * 256 + lo.toNat := by
  have hlo : lo.toNat < 2 ^ 8 := lo.toNat_lt
  have hhi : hi.toNat < 2 ^ 8 := hi.toNat_lt
  have hshift : hi.toNat <<< 8 = hi.toNat * 256 := Nat.shiftLeft_eq ..
  have hor : hi.toNat <<< 8 ||| lo.toNat = hi.toNat * 256 + lo.toNat := by
    rw [← Nat.shiftLeft_add_eq_or_of_lt hlo, hshift]
  have hsmall : hi.toNat <<< 8 < 65536 := by omega
  rw [word, UInt16.toNat_or, UInt16.toNat_shiftLeft, UInt8.toNat_toUInt16, UInt8.toNat_toUInt16]
  rw [show ((8 : UInt16).toNat % 16) = 8 from rfl, Nat.mod_eq_of_lt hsmall, hor]

/-- The check of the two bytes is the check of the voltage. -/
theorem word_eq_expected_iff (hi lo : UInt8) :
    word hi lo = kExpectedPackVDeciV ↔ hi = 0x03 ∧ lo = 0x16 := by
  have hlo : lo.toNat < 256 := lo.toNat_lt
  have hexpected : kExpectedPackVDeciV.toNat = 790 := rfl
  have hthree : (0x03 : UInt8).toNat = 3 := rfl
  have htwentytwo : (0x16 : UInt8).toNat = 22 := rfl
  rw [← UInt16.toNat_inj, ← UInt8.toNat_inj, ← UInt8.toNat_inj, toNat_word, hexpected, hthree,
    htwentytwo]
  omega

theorem packViolations_eq_nil_iff (f : Frame) (sessionAsserts : Bool) :
    packViolations f sessionAsserts = [] ↔ 8 ≤ f.msg.dataLengthCode ∧
      (sessionAsserts = true → f.msg.packVoltageDeciV = kExpectedPackVDeciV ∧
        (f.msg.currentCentiMa = -10 ∨ f.msg.currentCentiMa = -20)) := by
  unfold packViolations parseLbBmsE000
  by_cases hshort : f.msg.dataLengthCode < 8
  · rw [if_pos hshort]
    refine iff_of_false (List.cons_ne_nil _ _) fun h => ?_
    exact absurd hshort (UInt8.not_lt.mpr h.1)
  · rw [if_neg hshort]
    have hlong := UInt8.not_lt.mp hshort
    cases sessionAsserts with
    | false => simp [hlong]
    | true =>
        have hbytes := word_eq_expected_iff f.msg.data[2] f.msg.data[3]
        have hpack : f.msg.packVoltageDeciV = word f.msg.data[2] f.msg.data[3] := rfl
        have hcurrent : f.msg.currentCentiMa =
            (word f.msg.data[0] f.msg.data[1]).toInt16.toInt32 * 10 := rfl
        -- each of the three checks adds its text exactly if it fails
        have hone : ∀ (p : Prop) [Decidable p] (v : String),
            (if p then [v] else []) = [] ↔ ¬ p := by
          intro p _ v
          by_cases hp : p <;> simp [hp]
        rw [hpack, hcurrent]
        dsimp only
        rw [Bool.not_true, if_neg Bool.false_ne_true, List.append_eq_nil_iff,
          List.append_eq_nil_iff, hone, hone, hone, hbytes]
        simp only [hlong, ne_eq, hbytes, true_and, true_implies]
        tauto

theorem chargerViolations_eq_nil_iff (f : Frame) (sessionAsserts : Bool) :
    chargerViolations f sessionAsserts = [] ↔ 4 ≤ f.msg.dataLengthCode ∧
      (sessionAsserts = true →
        f.msg.chargerCommand = ⟨kExpectedChargerVsetDeciV, kExpectedChargerIsetDeciA⟩) := by
  unfold chargerViolations parseCharger1806E5F4
  by_cases hshort : f.msg.dataLengthCode < 4
  · rw [if_pos hshort]
    refine iff_of_false (List.cons_ne_nil _ _) fun h => ?_
    exact absurd hshort (UInt8.not_lt.mpr h.1)
  · rw [if_neg hshort]
    have hlong := UInt8.not_lt.mp hshort
    have hcommand : f.msg.chargerCommand =
        ⟨word f.msg.data[0] f.msg.data[1], word f.msg.data[2] f.msg.data[3]⟩ := rfl
    cases sessionAsserts with
    | false => simp [hlong]
    | true =>
        rw [hcommand]
        dsimp only
        rw [Bool.not_true, if_neg Bool.false_ne_true, ChargerCommand.mk.injEq]
        by_cases hvalues : word f.msg.data[0] f.msg.data[1] = kExpectedChargerVsetDeciV ∧
            word f.msg.data[2] f.msg.data[3] = kExpectedChargerIsetDeciA
        · simp [hlong, hvalues]
        · have hbad := not_and_or.mp hvalues
          rw [if_pos hbad]
          simp [hvalues]

/-- **A frame violates nothing exactly if it passes.** -/
theorem passes_iff (f : Frame) (sessionAsserts : Bool) :
    (if f.isExt then extViolations f sessionAsserts else []) = [] ↔ f.Passes sessionAsserts := by
  cases hext : f.isExt with
  | false =>
      refine iff_of_true rfl ⟨fun h => ?_, fun h => ?_⟩
      · exact absurd h (by rw [hext]; decide)
      · exact absurd h (by rw [hext]; decide)
  | true =>
      rw [if_pos rfl, extViolations]
      by_cases hpack : f.id = canIdLbBmsE000
      · have hcharger : f.id ≠ canIdLbChargerCmd := by
          rw [hpack]
          decide
        rw [if_pos hpack, packViolations_eq_nil_iff]
        exact ⟨fun h => ⟨fun _ _ => h, fun _ hid => absurd hid hcharger⟩,
          fun h => h.pack hext hpack⟩
      · rw [if_neg hpack]
        by_cases hcharger : f.id = canIdLbChargerCmd
        · rw [if_pos hcharger, chargerViolations_eq_nil_iff]
          exact ⟨fun h => ⟨fun _ hid => absurd hid hpack, fun _ _ => h⟩,
            fun h => h.charger hext hcharger⟩
        · rw [if_neg hcharger]
          exact iff_of_true rfl ⟨fun _ hid => absurd hid hpack, fun _ hid => absurd hid hcharger⟩

/-! ## The verdict -/

/-- A line that is read and carries a frame that passes. -/
def LinePasses (w : LongWidth) (sessionAsserts : Bool) (x : ℕ × List Char) : Prop :=
  ∃ f, parseLine w x.2 x.1 .init = .ok f ∧ f.Passes sessionAsserts

theorem lineViolations_eq_nil_iff (w : LongWidth) (sessionAsserts : Bool) (x : ℕ × List Char) :
    lineViolations w sessionAsserts x = [] ↔ LinePasses w sessionAsserts x := by
  unfold lineViolations LinePasses
  cases parseLine w x.2 x.1 .init with
  | error err => simp
  | ok f => simpa using passes_iff f sessionAsserts

/-- **The exit code is the verdict on the lines.** -/
theorem exitCode_eq_zero_iff (w : LongWidth) (sessionAsserts : Bool) (file : List Char) :
    (replayLog w sessionAsserts file).exitCode = 0 ↔
      ∀ x ∈ contentLines file, LinePasses w sessionAsserts x := by
  have hcount : (replayLog w sessionAsserts file).exitCode = 0 ↔
      (replayLog w sessionAsserts file).st.violationCount = 0 := by
    unfold Replay.exitCode
    split <;> omega
  rw [hcount, replayLog_eq_of]
  show ((contentLines file).flatMap (lineViolations w sessionAsserts)).length = 0 ↔ _
  rw [List.length_eq_zero_iff, List.flatMap_eq_nil_iff]
  exact forall₂_congr fun x _ => lineViolations_eq_nil_iff w sessionAsserts x

/-! ## The report -/

theorem idKey_inj {isExt isExt' : Bool} {id id' : UInt32} :
    idKey isExt id = idKey isExt' id' ↔ isExt = isExt' ∧ id = id' := by
  refine ⟨fun h => ?_, fun ⟨hext, hid⟩ => by rw [hext, hid]⟩
  have hlist : ∀ (e : Bool) (i : UInt32), (idKey e i).toList =
      ((if e then "EXT" else "STD") ++ " 0x").toList ++ hexText 8 i.toNat := by
    intro e i
    rw [idKey, String.toList_append, String.toList_ofList]
  have hchars := congrArg String.toList h
  rw [hlist, hlist] at hchars
  have hlength : (hexText 8 id.toNat).length = (hexText 8 id'.toNat).length := by
    rw [length_hexText, length_hexText]
  obtain ⟨hformat, hhex⟩ := List.append_inj' hchars hlength
  constructor
  · cases isExt <;> cases isExt' <;> first | rfl | exact absurd hformat (by decide)
  · have hfits : ∀ i : UInt32, i.toNat < 16 ^ 8 := fun i =>
      Nat.lt_of_lt_of_eq i.toNat_lt (by decide)
    have hnumber := congrArg (number 16) hhex
    rw [number_hexText (hfits id), number_hexText (hfits id')] at hnumber
    exact UInt32.toNat_inj.mp hnumber

theorem lineNo_of_parseLine {w : LongWidth} {line : List Char} {lineNo : ℕ} {out f : Frame}
    (h : parseLine w line lineNo out = .ok f) : f.lineNo = lineNo := by
  obtain ⟨r, -, rfl⟩ := (parseLine_eq_ok_iff w line lineNo out f).mp h
  rfl

/-- Each violation of a frame begins with the number of its line. -/
theorem lineMark_of_mem_ext {f : Frame} {sessionAsserts : Bool} {v : String}
    (h : v ∈ extViolations f sessionAsserts) : ∃ text, v = lineMark f.lineNo ++ text := by
  unfold extViolations packViolations chargerViolations at h
  split at h
  · split at h
    · rw [List.mem_singleton.mp h]
      exact ⟨_, rfl⟩
    · split at h
      · exact absurd h List.not_mem_nil
      · rw [List.mem_append, List.mem_append, List.mem_ite_nil_right, List.mem_ite_nil_right,
          List.mem_ite_nil_right, List.mem_singleton, List.mem_singleton, List.mem_singleton] at h
        rcases h with (⟨-, rfl⟩ | ⟨-, rfl⟩) | ⟨-, rfl⟩
        · exact ⟨_, by rw [String.append_assoc, String.append_assoc]⟩
        · exact ⟨_, rfl⟩
        · exact ⟨_, by rw [String.append_assoc, String.append_assoc]⟩
  · split at h
    · split at h
      · rw [List.mem_singleton.mp h]
        exact ⟨_, rfl⟩
      · split at h
        · exact absurd h List.not_mem_nil
        · rw [List.mem_ite_nil_right, List.mem_singleton] at h
          rw [h.2]
          exact ⟨_, by rw [String.append_assoc, String.append_assoc, String.append_assoc,
            String.append_assoc]⟩
    · exact absurd h List.not_mem_nil

theorem lineMark_of_mem {w : LongWidth} {sessionAsserts : Bool} {x : ℕ × List Char} {v : String}
    (h : v ∈ lineViolations w sessionAsserts x) : ∃ text, v = lineMark x.1 ++ text := by
  unfold lineViolations at h
  cases hparse : parseLine w x.2 x.1 .init with
  | error err =>
      rw [hparse] at h
      rw [List.mem_singleton.mp h, corruptText]
      exact ⟨_, String.append_assoc⟩
  | ok f =>
      rw [hparse] at h
      dsimp only at h
      rw [List.mem_ite_nil_right] at h
      rw [← lineNo_of_parseLine hparse]
      exact lineMark_of_mem_ext h.2

/-- The frames and the corrupt lines are those of `readLog`. -/
theorem readLog_eq (w : LongWidth) (file : List Char) :
    (readLog w file).frames = (contentLines file).filterMap (lineFrame? w) ∧
      (readLog w file).badLines.length =
        (contentLines file).countP fun x => (lineFrame? w x).isNone := by
  unfold readLog contentLines
  generalize (getlines '\n' file).zipIdx = lines
  induction lines using List.reverseRecOn with
  | nil => exact ⟨rfl, rfl⟩
  | append_singleton lines x ih =>
      rw [List.foldl_append, content_concat, List.filterMap_append, List.countP_append, ← ih.1,
        ← ih.2]
      generalize lines.foldl (fun st x => readLogLine w (x.2 + 1) x.1 st) ⟨[], []⟩ = st
      rw [List.foldl_cons, List.foldl_nil, readLogLine]
      cases hskip : skipped (trim x.1) with
      | true => rw [content_cons_of_skipped hskip]; simp [content]
      | false =>
          rw [content_cons_of_not hskip]
          cases hparse : parseLine w (trim x.1) (x.2 + 1) .init with
          | error err => simp [content, lineFrame?, hparse, Except.toOption]
          | ok f => simp [content, lineFrame?, hparse, Except.toOption]

theorem readArgs_eq (args : List String) :
    readArgs args = (!args.contains "--generic",
      ((args.filter (· ≠ "--generic")).getLast?).getD "") := by
  induction args using List.reverseRecOn with
  | nil => rfl
  | append_singleton args arg ih =>
      have hlast : readArgs (args ++ [arg]) =
          if arg = "--generic" then (false, (readArgs args).2) else ((readArgs args).1, arg) := by
        rw [readArgs, List.foldl_append]
        rfl
      rw [hlast, ih]
      by_cases hflag : arg = "--generic"
      · simp [hflag]
      · simp [hflag, Ne.symm hflag]

theorem main_of_file (w : LongWidth) {readFile : String → Option (List Char)} {args : List String}
    {file : List Char} (hpath : (readArgs args).2 ≠ "")
    (hfile : readFile (readArgs args).2 = some file) :
    main w readFile args =
      ((replayLog w (!args.contains "--generic") file).exitCode,
        some (replayLog w (!args.contains "--generic") file)) := by
  have hasserts : (readArgs args).1 = !args.contains "--generic" :=
    congrArg Prod.fst (readArgs_eq args)
  unfold main
  dsimp only
  rw [hasserts, if_neg (by simpa using hpath), hfile]

theorem mem_unknownIds_iff (w : LongWidth) (sessionAsserts : Bool) (file : List Char)
    (key : String) :
    key ∈ (replayLog w sessionAsserts file).st.unknownIds ↔
      ∃ f ∈ (readLog w file).frames, f.known = false ∧ f.key = key := by
  rw [replayLog_eq_of, (readLog_eq w file).1]
  show key ∈ ((((contentLines file).filterMap (lineFrame? w)).filter _).map Frame.key).toFinset ↔ _
  rw [List.mem_toFinset, List.mem_map]
  simp only [List.mem_filter, Bool.not_eq_true', and_assoc]

/-- **The report is exact.** For every file that can be read: the exit code is 0 exactly if every
line with content is read and its frame passes; the totals are the numbers of frames and of corrupt
lines, the count of an identifier in its format is the number of such frames, the unknown ones are
those of some unknown frame; and what is shown are the first violations of the lines, each under the
number of the line it is about. -/
theorem report_exact (w : LongWidth) {readFile : String → Option (List Char)} {args : List String}
    {file : List Char} (hpath : (readArgs args).2 ≠ "")
    (hfile : readFile (readArgs args).2 = some file) :
    let sessionAsserts := !args.contains "--generic"
    let frames := (readLog w file).frames
    let all := (contentLines file).flatMap (lineViolations w sessionAsserts)
    ∃ r, main w readFile args = (r.exitCode, some r) ∧
      (r.exitCode = 0 ↔ ∀ x ∈ contentLines file, LinePasses w sessionAsserts x) ∧
      r.st.total = frames.length ∧ r.badLines = (readLog w file).badLines.length ∧
      (∀ isExt id, r.st.countsById (idKey isExt id) =
        frames.countP fun f => f.isExt = isExt ∧ f.id = id) ∧
      (∀ key, key ∈ r.st.unknownIds ↔ ∃ f ∈ frames, f.known = false ∧ f.key = key) ∧
      r.st.violationCount = all.length ∧ r.st.violations = all.take violationsShown ∧
      ∀ v ∈ r.st.violations, ∃ x ∈ contentLines file,
        ¬ LinePasses w sessionAsserts x ∧ ∃ text, v = lineMark x.1 ++ text := by
  intro sessionAsserts frames all
  obtain ⟨hframes, hbad⟩ := readLog_eq w file
  have hof := replayLog_eq_of w sessionAsserts file
  have hunknown := mem_unknownIds_iff w sessionAsserts file
  refine ⟨replayLog w sessionAsserts file, main_of_file w hpath hfile,
    exitCode_eq_zero_iff w sessionAsserts file, ?_⟩
  rw [hof] at hunknown ⊢
  refine ⟨congrArg List.length hframes.symm, hbad.symm, fun isExt id => ?_, hunknown, rfl, rfl,
    fun v hv => ?_⟩
  · show (((contentLines file).filterMap (lineFrame? w)).map Frame.key).count (idKey isExt id) = _
    rw [← hframes, List.count_eq_countP, List.countP_map]
    refine List.countP_congr fun f _ => ?_
    simp [Frame.key, idKey_inj]
  · obtain ⟨x, hx, hmem⟩ := List.mem_flatMap.mp (List.mem_of_mem_take hv)
    refine ⟨x, hx, fun hpasses => ?_, lineMark_of_mem hmem⟩
    rw [(lineViolations_eq_nil_iff w sessionAsserts x).mpr hpasses] at hmem
    exact absurd hmem List.not_mem_nil

/-- A session of two lines, one of them too short for its frame. -/
def shortSession : List Char :=
  "EXT | 0xE000 | 8 | FF FF 03 16 0F 5E 09 71\nEXT | 0xE000 | 8 | FF".toList

/-- A file system with this log in it. -/
def readShortSession (_path : String) : Option (List Char) := some shortSession

theorem shortSession_report :
    ∃ r, main .bits64 readShortSession ["oturum.txt"] = (r.exitCode, some r) ∧
      (r.exitCode = 0 ↔ ∀ x ∈ contentLines shortSession, LinePasses .bits64 true x) := by
  have hpath : (readArgs ["oturum.txt"]).2 ≠ "" := by decide
  have hfile : readShortSession (readArgs ["oturum.txt"]).2 = some shortSession := rfl
  obtain ⟨r, hrun, hverdict, -⟩ := report_exact .bits64 hpath hfile
  exact ⟨r, hrun, hverdict⟩

end TfnAks.Can.Sniffer
