/-
# TfnAks.Hmi.NextionWire — the bytes between the task and the display

`HMI_sendEndBytes` of `lib/HMIHelpers/HMIHelpers.cpp` closes every command with `FF FF FF`. A
command is plain text, so its own bytes are below `80` and the end bytes cannot be mistaken. The
display cuts the stream at them and carries out each text `name.attribute=value`.

The module joins the bytes with the pages of `Hmi.ShownPass`: what the attributes of the display
hold is what the two pages show, because no two components of either page share a name.
-/
import TfnAks.Hmi.ShownPass
import TfnAks.Lib.Framing

namespace TfnAks.Hmi

open TfnAks.Bms TfnAks.Lib.BudgetedRefresh TfnAks.Lib.Decimal TfnAks.Lib.Framing TfnAks.Lib.Mealy
open TfnAks.Lib.Runs

/-! ## The bytes -/

/-- A byte of `uart_write_bytes`. -/
def uartByte (c : Char) : UInt8 := UInt8.ofNat c.toNat

/-- Three of these end a command. -/
def endByte : UInt8 := 0xFF

/-- A command and `HMI_sendEndBytes`. -/
def uartCommand (text : List Char) : List UInt8 := frame endByte 3 (text.map uartByte)

/-- The texts of a pass, in the order they are written. -/
def HmiOutput.texts (o : HmiOutput) : List (List Char) :=
  o.mainCommands.map MainCommand.text ++ o.bmsCommands.map Command.text

/-- The bytes of some passes. -/
def uartBytes (outs : List HmiOutput) : List UInt8 := (outs.flatMap HmiOutput.texts).flatMap uartCommand

theorem isAscii_snprintf {size : Nat} {text : List Char} (h : IsAscii text) :
    IsAscii (snprintf size text) := fun c hc => h c (List.mem_of_mem_take hc)

theorem uartByte_toNat {c : Char} (h : c.toNat < 128) : (uartByte c).toNat = c.toNat := by
  have hsize : c.toNat < 2 ^ 8 := by omega
  exact UInt8.toNat_ofNat_of_lt hsize

theorem endByte_notMem {text : List Char} (h : IsAscii text) : endByte ∉ text.map uartByte := by
  intro hmem
  obtain ⟨c, hc, heq⟩ := List.mem_map.mp hmem
  have htext := h c hc
  have hend : (uartByte c).toNat = 255 := congrArg UInt8.toNat heq
  rw [uartByte_toNat htext] at hend
  omega

/-- The characters of a message. -/
def messageText (body : List UInt8) : List Char := body.map fun b => Char.ofNat b.toNat

theorem messageText_map {text : List Char} (h : IsAscii text) :
    messageText (text.map uartByte) = text := by
  unfold messageText
  rw [List.map_map]
  conv => rhs; rw [← List.map_id text]
  refine List.map_congr_left fun c hc => ?_
  show Char.ofNat (uartByte c).toNat = c
  rw [uartByte_toNat (h c hc), Char.ofNat_toNat]

/-! ## The texts are plain -/

theorem isAscii_currentText (v : Int16) : IsAscii (currentText v) := by
  unfold currentText
  split
  · exact isAscii_of_all (by decide)
  · refine isAscii_append (isAscii_append (isAscii_append ?_ (isAscii_digits _))
      (isAscii_of_all (by decide))) (isAscii_digits _)
    split <;> exact isAscii_of_all (by decide)

theorem isAscii_errorText (errorFlags : UInt8) : IsAscii (errorText errorFlags) := by
  have hhex : ∀ n < 16, (([hexDigit n] : List Char).all fun c => decide (c.toNat < 128)) = true := by
    decide
  have hlt := UInt8.toNat_lt errorFlags
  have hmark : IsAscii "0x".toList := isAscii_of_all (by decide)
  exact isAscii_append (isAscii_append hmark
    (isAscii_of_all (hhex (errorFlags.toNat / 16) (by omega))))
    (isAscii_of_all (hhex (errorFlags.toNat % 16) (by omega)))

/-- The value a component shows is plain text. -/
theorem formatted_isAscii (data : HmiDisplayData) (c : MainComponent) (text : List Char)
    (h : data.formatted c = .txt text) : IsAscii text := by
  cases c with
  | speed | rpm | packv | torque => exact absurd h nofun
  | bat =>
      obtain rfl := ShownValue.txt.inj h
      refine isAscii_snprintf ?_
      unfold batteryText
      split
      · exact isAscii_of_all (by decide)
      · exact isAscii_digits _
  | temp =>
      obtain rfl := ShownValue.txt.inj h
      refine isAscii_snprintf ?_
      unfold tempText
      split
      · exact isAscii_of_all (by decide)
      · exact isAscii_signed _
  | packi =>
      obtain rfl := ShownValue.txt.inj h
      exact isAscii_snprintf (isAscii_currentText _)
  | motorErr =>
      obtain rfl := ShownValue.txt.inj h
      exact isAscii_snprintf (isAscii_errorText _)
  | state =>
      obtain rfl := ShownValue.txt.inj h
      have hunknown : IsAscii "UNK".toList := isAscii_of_all (by decide)
      cases data.vcuState with
      | other value hvalue => exact hunknown
      | _ => exact isAscii_of_all (by decide)
  | valid =>
      obtain rfl := ShownValue.txt.inj h
      cases data.motorDataValid <;> cases data.motorTimeoutActive <;>
        exact isAscii_of_all (by decide)
  | contactor =>
      obtain rfl := ShownValue.txt.inj h
      cases data.contactorClosed <;> exact isAscii_of_all (by decide)

theorem isAscii_mainName (c : MainComponent) : IsAscii c.name := by
  cases c <;> exact isAscii_of_all (by decide)

theorem isAscii_bmsName (c : BmsComponent) : IsAscii c.name := by
  cases c with
  | cell i => exact isAscii_append (isAscii_of_all (by decide)) (isAscii_digits i)
  | j i => exact isAscii_append (isAscii_of_all (by decide)) (isAscii_digits i)
  | bal i => exact isAscii_append (isAscii_of_all (by decide)) (isAscii_digits i)
  | _ => exact isAscii_of_all (by decide)

theorem isAscii_command (c : BmsComponent) (v : c.Value) : IsAscii (command c v).text :=
  isAscii_append (isAscii_append (isAscii_bmsName c) (isAscii_of_all (by decide)))
    (isAscii_digits _)

theorem isAscii_mainCommand {data : HmiDisplayData} {components : List MainComponent}
    {cmd : MainCommand} (h : cmd ∈ commandsFor data components) : IsAscii cmd.text := by
  obtain ⟨c, -, rfl⟩ := List.mem_map.mp h
  have hname := isAscii_mainName c
  unfold MainCommand.text
  cases hvalue : data.formatted c with
  | val n =>
      exact isAscii_append (isAscii_append hname (isAscii_of_all (by decide))) (isAscii_signed n)
  | txt text =>
      exact isAscii_append (isAscii_append (isAscii_append hname (isAscii_of_all (by decide)))
        (formatted_isAscii data c text hvalue)) (isAscii_of_all (by decide))

/-! ## What a pass writes -/

theorem pass_mainCommands {s : ShownTask} (hs : s.MainShown) (p : HmiPass) :
    (s.task.pass sourceVerified p).2.mainCommands =
      commandsFor p.screenData (due mainComponents (!s.task.display.hasCachedScreen)
        p.screenData.formatted s.task.display.lastScreenData.formatted) := by
  have hupdate := updateScreen_spec (o := s.task.display.takeNextionResetFlag) hs.initialized
    p.screenData
  obtain ⟨⟨queue, display, cache, lastCellUpdateMs, firstRun⟩, screen⟩ := s
  obtain rfl : queue = true := hs.queue
  exact congrArg Prod.snd hupdate

theorem pass_bmsCommands {s : ShownTask} (hs : s.MainShown) (p : HmiPass) :
    (s.task.pass sourceVerified p).2.bmsCommands =
      ((s.bmsCall p).sent s.task.bmsHmiCache).map fun c => command c ((s.bmsCall p).value c) := by
  have hcall := bmsCall_display s.task (s.task.display.takeNextionResetFlag.updateScreen
    p.screenData).1 s.task.display.nextionResetPending p.bmsQueue p.nowMs
  rw [← pageStep_commands]
  obtain ⟨⟨queue, display, cache, lastCellUpdateMs, firstRun⟩, screen⟩ := s
  obtain rfl : queue = true := hs.queue
  exact congrArg (fun call => (pageStep cache call).2) hcall

theorem isAscii_texts {s : ShownTask} (hs : s.MainShown) (p : HmiPass) {text : List Char}
    (h : text ∈ (s.task.pass sourceVerified p).2.texts) : IsAscii text := by
  rcases List.mem_append.mp h with h | h
  · obtain ⟨cmd, hcmd, rfl⟩ := List.mem_map.mp h
    rw [pass_mainCommands hs] at hcmd
    exact isAscii_mainCommand hcmd
  · obtain ⟨cmd, hcmd, rfl⟩ := List.mem_map.mp h
    rw [pass_bmsCommands hs] at hcmd
    obtain ⟨c, -, rfl⟩ := List.mem_map.mp hcmd
    exact isAscii_command c _

/-- The outputs of the passes of the firmware. -/
def hmiOutputs (ps : List HmiPass) : List HmiOutput :=
  outputs (HmiTask.pass sourceVerified) .begun ps

theorem task_after (screen : Screen) (ps : List HmiPass) :
    (exec ShownTask.pass (.begun screen) ps).task =
      stateAfter (HmiTask.pass sourceVerified) .begun ps := by
  induction ps using List.reverseRecOn with
  | nil => rfl
  | append_singleton ps p ih =>
      rw [exec_append, exec_cons, exec_nil, stateAfter_concat, ← ih]
      rfl

theorem hmiOutputs_concat (screen : Screen) (ps : List HmiPass) (p : HmiPass) :
    hmiOutputs (ps ++ [p]) =
      hmiOutputs ps ++ [((exec ShownTask.pass (.begun screen) ps).task.pass sourceVerified p).2] := by
  rw [hmiOutputs, outputs_append, outputs_cons, outputs_nil, task_after]
  rfl

theorem isAscii_hmiOutputs (ps : List HmiPass) {text : List Char}
    (h : text ∈ (hmiOutputs ps).flatMap HmiOutput.texts) : IsAscii text := by
  induction ps using List.reverseRecOn with
  | nil => exact absurd h (List.not_mem_nil)
  | append_singleton ps p ih =>
      rw [hmiOutputs_concat ⟨fun _ => none, fun _ => none⟩, List.flatMap_append,
        List.mem_append] at h
      rcases h with h | h
      · exact ih h
      · rw [List.flatMap_singleton] at h
        exact isAscii_texts (exec_mainShown _ ps) p h

theorem texts_ne_nil {o : HmiOutput} {text : List Char} (h : text ∈ o.texts)
    (hbms : ∀ cmd ∈ o.bmsCommands, cmd.text ≠ []) : text ≠ [] := by
  rcases List.mem_append.mp h with h | h
  · obtain ⟨cmd, -, rfl⟩ := List.mem_map.mp h
    unfold MainCommand.text
    cases cmd.value <;> simp
  · obtain ⟨cmd, hcmd, rfl⟩ := List.mem_map.mp h
    exact hbms cmd hcmd

theorem hmiOutputs_ne_nil (ps : List HmiPass) {text : List Char}
    (h : text ∈ (hmiOutputs ps).flatMap HmiOutput.texts) : text ≠ [] := by
  induction ps using List.reverseRecOn with
  | nil => exact absurd h (List.not_mem_nil)
  | append_singleton ps p ih =>
      rw [hmiOutputs_concat ⟨fun _ => none, fun _ => none⟩, List.flatMap_append,
        List.mem_append] at h
      rcases h with h | h
      · exact ih h
      · rw [List.flatMap_singleton] at h
        refine texts_ne_nil h fun cmd hcmd => ?_
        rw [pass_bmsCommands (exec_mainShown _ ps)] at hcmd
        obtain ⟨c, -, rfl⟩ := List.mem_map.mp hcmd
        simp [command]

/-! ## What the display reads -/

/-- The texts the end marks cut a stream into. -/
def readTexts (r : Reader UInt8) (bytes : List UInt8) : List (List Char) :=
  (read endByte 3 r bytes).map messageText

theorem flatMap_uartCommand (texts : List (List Char)) :
    texts.flatMap uartCommand = frames endByte 3 (texts.map fun text => text.map uartByte) := by
  rw [frames, List.flatMap_map]
  rfl

theorem uartBytes_eq_frames (outs : List HmiOutput) :
    uartBytes outs =
      frames endByte 3 ((outs.flatMap HmiOutput.texts).map fun text => text.map uartByte) :=
  flatMap_uartCommand _

theorem endByte_notMem_messages {texts : List (List Char)} (h : ∀ text ∈ texts, IsAscii text)
    {body : List UInt8} (hbody : body ∈ texts.map fun text => text.map uartByte) :
    endByte ∉ body := by
  obtain ⟨text, htext, rfl⟩ := List.mem_map.mp hbody
  exact endByte_notMem (h text htext)

theorem messageText_messages {texts : List (List Char)} (h : ∀ text ∈ texts, IsAscii text) :
    (texts.map fun text => text.map uartByte).map messageText = texts := by
  rw [List.map_map]
  conv => rhs; rw [← List.map_id texts]
  exact List.map_congr_left fun text htext => messageText_map (h text htext)

/-- The display cuts the stream into the commands that were written. -/
theorem readTexts_uartBytes {outs : List HmiOutput}
    (h : ∀ text ∈ outs.flatMap HmiOutput.texts, IsAscii text) :
    readTexts .start (uartBytes outs) = outs.flatMap HmiOutput.texts ∧
      readerAfter endByte 3 .start (uartBytes outs) = .start := by
  obtain ⟨hread, hafter⟩ := read_frames (m := endByte) (k := 3) (by decide) fun _ hbody =>
    endByte_notMem_messages h hbody
  rw [uartBytes_eq_frames, readTexts, hread, hafter, messageText_messages h]
  exact ⟨rfl, rfl⟩

/-- The display: the command it is reading, and its attributes by their paths. -/
structure NextionDisplay where
  reader : Reader UInt8
  attributes : List Char → Option (List Char)

/-- `name.attribute=value` -/
def assign (attributes : List Char → Option (List Char)) (text : List Char) :
    List Char → Option (List Char) :=
  Function.update attributes (text.takeWhile (· ≠ '=')) (some (text.dropWhile (· ≠ '=')).tail)

/-- Every command that is complete is carried out. -/
def NextionDisplay.receive (d : NextionDisplay) (bytes : List UInt8) : NextionDisplay where
  reader := readerAfter endByte 3 d.reader bytes
  attributes := (readTexts d.reader bytes).foldl assign d.attributes

/-- It makes no difference how the bytes are cut on their way. -/
theorem receive_append (d : NextionDisplay) (bytes more : List UInt8) :
    d.receive (bytes ++ more) = (d.receive bytes).receive more := by
  unfold NextionDisplay.receive readTexts
  rw [readerAfter_append, read_append, List.map_append, List.foldl_append]

/-- The path of an attribute of the main page. -/
def mainPath (c : MainComponent) : ShownValue → List Char
  | .val _ => c.name ++ ".val".toList
  | .txt _ => c.name ++ ".txt".toList

/-- A value as it stands in a command. -/
def shownText : ShownValue → List Char
  | .val n => signed n
  | .txt text => "\"".toList ++ text ++ "\"".toList

/-- The path of an attribute of the BMS page. -/
def bmsPath (c : BmsComponent) : List Char := c.name ++ ".val".toList

/-! ### Paths -/

theorem assign_eq {path value : List Char} (hpath : '=' ∉ path)
    (attributes : List Char → Option (List Char)) :
    assign attributes (path ++ '=' :: value) = Function.update attributes path (some value) := by
  have hall : ∀ c ∈ path, decide (c ≠ '=') = true :=
    fun c hc => decide_eq_true fun heq => hpath (heq ▸ hc)
  unfold assign
  rw [List.takeWhile_append_of_pos hall, List.dropWhile_append_of_pos hall]
  simp

theorem mainName_plain (c : MainComponent) : '=' ∉ c.name ∧ '.' ∉ c.name := by
  cases c <;> decide

theorem bmsName_plain (c : BmsComponent) : '=' ∉ c.name ∧ '.' ∉ c.name := by
  have hindex : ∀ (n : Nat) (sign : Char), sign.isDigit = false → sign ∉ digits n := by
    intro n sign hsign hmem
    rw [isDigit_of_mem_digits hmem] at hsign
    exact Bool.noConfusion hsign
  have hname : ∀ (text : List Char) (n : Nat), '=' ∉ text → '.' ∉ text →
      '=' ∉ text ++ digits n ∧ '.' ∉ text ++ digits n := by
    intro text n heq hdot
    rw [List.mem_append, List.mem_append, not_or, not_or]
    exact ⟨⟨heq, hindex n '=' (by decide)⟩, ⟨hdot, hindex n '.' (by decide)⟩⟩
  cases c with
  | cell i => exact hname "cell".toList i (by decide) (by decide)
  | j i => exact hname "j".toList i (by decide) (by decide)
  | bal i => exact hname "bal".toList i (by decide) (by decide)
  | _ => decide

/-- The two pages have no name in common. -/
theorem mainName_ne_bmsName (c : MainComponent) (b : BmsComponent) : c.name ≠ b.name := by
  intro h
  cases c with
  | contactor =>
      cases b with
      | cell i | cellmax | cellmin | cellcan =>
          exact absurd (List.cons.inj (List.cons.inj h).2).1 (by decide)
      | j i | bal i | warn => exact absurd (List.cons.inj h).1 (by decide)
  | bat =>
      cases b with
      | bal i => exact absurd (List.cons.inj (List.cons.inj (List.cons.inj h).2).2).1 (by decide)
      | _ => exact absurd (List.cons.inj h).1 (by decide)
  | _ => cases b <;> exact absurd (List.cons.inj h).1 (by decide)

/-- A path starts with the name, up to the dot. -/
theorem name_of_path {name other rest more : List Char} (hname : '.' ∉ name) (hother : '.' ∉ other)
    (h : name ++ '.' :: rest = other ++ '.' :: more) : name = other := by
  have hcut : ∀ text rest : List Char, '.' ∉ text →
      (text ++ '.' :: rest).takeWhile (fun c => decide (c ≠ '.')) = text := by
    intro text rest htext
    have hall : ∀ c ∈ text, decide (c ≠ '.') = true :=
      fun c hc => decide_eq_true fun heq => htext (heq ▸ hc)
    rw [List.takeWhile_append_of_pos hall]
    simp
  rw [← hcut name rest hname, h, hcut other more hother]

/-! ### Attributes and pages -/

/-- The attributes hold what the two pages show. -/
structure Carries (attributes : List Char → Option (List Char)) (screen : Screen) : Prop where
  main : ∀ c v, screen.main c = some v → attributes (mainPath c v) = some (shownText v)
  bms : ∀ c v, screen.bms c = some (command c v) →
    attributes (bmsPath c) = some (digits (c.toNat v))

theorem mainPath_ne {c k : MainComponent} (h : c ≠ k) (v w : ShownValue) :
    mainPath c v ≠ mainPath k w := by
  intro hpath
  refine h (mainComponent_name_injective ?_)
  cases v <;> cases w <;> exact name_of_path (mainName_plain c).2 (mainName_plain k).2 hpath

theorem mainPath_ne_bmsPath (c : MainComponent) (v : ShownValue) (b : BmsComponent) :
    mainPath c v ≠ bmsPath b := by
  intro hpath
  refine mainName_ne_bmsName c b ?_
  cases v <;> exact name_of_path (mainName_plain c).2 (bmsName_plain b).2 hpath

theorem bmsPath_ne {c k : BmsComponent} (h : c ≠ k) : bmsPath c ≠ bmsPath k := by
  intro hpath
  exact h (name_injective (name_of_path (bmsName_plain c).2 (bmsName_plain k).2 hpath))

theorem assign_mainCommand (attributes : List Char → Option (List Char)) (cmd : MainCommand) :
    assign attributes cmd.text =
      Function.update attributes (mainPath cmd.component cmd.value) (some (shownText cmd.value)) := by
  obtain ⟨c, value⟩ := cmd
  have hname := (mainName_plain c).1
  cases value with
  | val n =>
      have htext : MainCommand.text ⟨c, .val n⟩ = mainPath c (.val n) ++ '=' :: signed n := by
        simp [MainCommand.text, mainPath]
      rw [htext, assign_eq (by simp [mainPath, hname])]
      rfl
  | txt text =>
      have htext : MainCommand.text ⟨c, .txt text⟩ =
          mainPath c (.txt text) ++ '=' :: shownText (.txt text) := by
        simp [MainCommand.text, mainPath, shownText]
      rw [htext, assign_eq (by simp [mainPath, hname])]

theorem assign_bmsCommand (attributes : List Char → Option (List Char)) (c : BmsComponent)
    (v : c.Value) :
    assign attributes (command c v).text =
      Function.update attributes (bmsPath c) (some (digits (c.toNat v))) := by
  have hname := (bmsName_plain c).1
  have htext : (command c v).text = bmsPath c ++ '=' :: digits (c.toNat v) := by
    simp [command, bmsPath]
  rw [htext, assign_eq (by simp [bmsPath, hname])]

/-- One command for the main page. -/
theorem Carries.mainCommand {attributes : List Char → Option (List Char)} {screen : Screen}
    (h : Carries attributes screen) (cmd : MainCommand) :
    Carries (assign attributes cmd.text) { screen with main := screen.main.write cmd } := by
  rw [assign_mainCommand]
  constructor
  · intro c v hc
    by_cases hcmd : c = cmd.component
    · subst hcmd
      have hself : screen.main.write cmd cmd.component = some cmd.value := Function.update_self ..
      obtain rfl : cmd.value = v := Option.some.inj (hself.symm.trans hc)
      exact Function.update_self ..
    · have hshown : screen.main c = some v := (Function.update_of_ne hcmd ..).symm.trans hc
      rw [Function.update_of_ne (mainPath_ne hcmd v cmd.value)]
      exact h.main c v hshown
  · intro c v hc
    rw [Function.update_of_ne (mainPath_ne_bmsPath _ _ c).symm]
    exact h.bms c v hc

/-- One command for the BMS page. -/
theorem Carries.bmsCommand {attributes : List Char → Option (List Char)} {screen : Screen}
    (h : Carries attributes screen) (k : BmsComponent) (w : k.Value) :
    Carries (assign attributes (command k w).text)
      { screen with bms := writeBms screen.bms (command k w) } := by
  rw [assign_bmsCommand]
  constructor
  · intro c v hc
    rw [Function.update_of_ne (mainPath_ne_bmsPath c v k)]
    exact h.main c v hc
  · intro c v hc
    by_cases hcmd : c = k
    · subst hcmd
      have hself : writeBms screen.bms (command c w) c = some (command c w) :=
        Function.update_self ..
      have hsame : command c w = command c v := Option.some.inj (hself.symm.trans hc)
      have hdigits : digits (c.toNat w) = digits (c.toNat v) :=
        List.append_cancel_left (congrArg Command.text hsame)
      rw [Function.update_self, hdigits]
    · have hshown : screen.bms c = some (command c v) := (Function.update_of_ne hcmd ..).symm.trans hc
      rw [Function.update_of_ne (bmsPath_ne hcmd)]
      exact h.bms c v hshown

theorem Carries.mainCommands {attributes : List Char → Option (List Char)} {screen : Screen}
    (h : Carries attributes screen) (cmds : List MainCommand) :
    Carries ((cmds.map MainCommand.text).foldl assign attributes)
      { screen with main := cmds.foldl Page.write screen.main } := by
  induction cmds generalizing attributes screen with
  | nil => exact h
  | cons cmd cmds ih => exact ih (h.mainCommand cmd)

theorem Carries.bmsCommands {attributes : List Char → Option (List Char)} {screen : Screen}
    (h : Carries attributes screen) (cs : List BmsComponent) (value : (c : BmsComponent) → c.Value) :
    Carries (((cs.map fun c => command c (value c)).map Command.text).foldl assign attributes)
      { screen with bms := (cs.map fun c => command c (value c)).foldl writeBms screen.bms } := by
  induction cs generalizing attributes screen with
  | nil => exact h
  | cons c cs ih => exact ih (h.bmsCommand c (value c))

theorem pass_carries {s : ShownTask} (hs : s.MainShown) {attributes : List Char → Option (List Char)}
    (h : Carries attributes s.screen) (p : HmiPass) :
    Carries ((s.task.pass sourceVerified p).2.texts.foldl assign attributes) (s.pass p).screen := by
  have hmain := h.mainCommands (s.task.pass sourceVerified p).2.mainCommands
  have hboth := hmain.bmsCommands ((s.bmsCall p).sent s.task.bmsHmiCache) (s.bmsCall p).value
  rw [← pass_bmsCommands hs p] at hboth
  unfold HmiOutput.texts
  rw [List.foldl_append]
  exact hboth

/-- The attributes of the display after the texts of some passes. -/
theorem texts_carry (attributes : List Char → Option (List Char)) (ps : List HmiPass) :
    Carries (((hmiOutputs ps).flatMap HmiOutput.texts).foldl assign attributes)
      (exec ShownTask.pass (.begun ⟨fun _ => none, fun _ => none⟩) ps).screen := by
  induction ps using List.reverseRecOn with
  | nil => exact ⟨fun _ _ h => absurd h nofun, fun _ _ h => absurd h nofun⟩
  | append_singleton ps p ih =>
      rw [hmiOutputs_concat ⟨fun _ => none, fun _ => none⟩, List.flatMap_append, List.foldl_append,
        List.flatMap_singleton, exec_append, exec_cons, exec_nil]
      exact pass_carries (exec_mainShown _ ps) ih p

/-! ## Every run -/

/-- **The wire carries the commands.** The bytes of every run of the task are read back as the texts
of its commands, in order, with nothing left over. A display that comes in late, anywhere in the
stream, misreads one command at most and then gets the rest: of the commands that begin in what it
hears it misses none but the first. -/
theorem wire_carries_commands (ps : List HmiPass) :
    let outs := outputs (HmiTask.pass sourceVerified) .begun ps
    readTexts .start (uartBytes outs) = outs.flatMap HmiOutput.texts ∧
      readerAfter endByte 3 .start (uartBytes outs) = .start ∧
      ∀ late, late <:+ uartBytes outs →
        ∃ first later, readTexts .start late = first ++ later ∧ first.length ≤ 1 ∧
          later <:+ outs.flatMap HmiOutput.texts ∧
          ∀ begun, begun <:+ outs.flatMap HmiOutput.texts →
            begun.flatMap uartCommand <:+ late → begun.tail <:+ later := by
  intro outs
  have hascii : ∀ text ∈ outs.flatMap HmiOutput.texts, IsAscii text :=
    fun text htext => isAscii_hmiOutputs ps htext
  obtain ⟨hread, hafter⟩ := readTexts_uartBytes hascii
  refine ⟨hread, hafter, fun late hlate => ?_⟩
  -- on the wire the texts are frames of bytes, and the rest is about framing alone
  rw [uartBytes_eq_frames] at hlate
  have hmessages : ∀ body ∈ (outs.flatMap HmiOutput.texts).map fun text => text.map uartByte,
      endByte ∉ body ∧ body ≠ [] := by
    intro body hbody
    refine ⟨endByte_notMem_messages hascii hbody, ?_⟩
    obtain ⟨text, htext, rfl⟩ := List.mem_map.mp hbody
    rw [ne_eq, List.map_eq_nil_iff]
    exact hmiOutputs_ne_nil ps htext
  obtain ⟨first, later, hlater, hfirst, hsuffix, hgets⟩ := read_late (by decide) hmessages hlate
  refine ⟨first.map messageText, later.map messageText, ?_, ?_, ?_, ?_⟩
  · rw [readTexts, hlater, List.map_append]
  · rw [List.length_map]
    exact hfirst
  · have hback := hsuffix.map messageText
    rw [messageText_messages hascii] at hback
    exact hback
  · intro begun hbegun hlies
    rw [flatMap_uartCommand] at hlies
    have htail := (hgets _ (hbegun.map _) hlies).map messageText
    rw [← List.map_tail, messageText_messages fun text htext =>
      hascii text (hbegun.subset (List.mem_of_mem_tail htext))] at htail
    exact htail

/-- **The display shows the pass.** From the start of the task, whatever the attributes of the
display held, it has after every pass carried out all bytes so far, and each component of the main
page holds the value of the pass, with "--" for the three signals that are not verified. From the
fourteenth pass on, as long as the display has not restarted, each of the 76 components of the BMS
page holds the value of the pass too, and none of them tells a cell voltage. -/
theorem display_shows_the_pass (attributes : List Char → Option (List Char)) (ps : List HmiPass)
    (p : HmiPass) :
    let outs := outputs (HmiTask.pass sourceVerified) .begun (ps ++ [p])
    let display := NextionDisplay.receive ⟨.start, attributes⟩ (uartBytes outs)
    (∀ c, display.attributes (mainPath c (p.screenData.formatted c)) =
      some (shownText (p.screenData.formatted c))) ∧
      (∀ c ∈ [MainComponent.bat, .temp, .packi],
        display.attributes (c.name ++ ".txt".toList) = some "\"--\"".toList) ∧
      (13 ≤ ps.length → ¬ ClassifiesReset .start (received (ps ++ [p])) →
        ∀ c : BmsComponent, display.attributes (c.name ++ ".val".toList) =
          some (digits (c.toNat (noCellValue (bmsValid p.bmsQueue) c)))) := by
  intro outs display
  -- what the display shows of the bytes is what the screen of the commands shows
  have hcarries : Carries display.attributes
      (exec ShownTask.pass (.begun ⟨fun _ => none, fun _ => none⟩) (ps ++ [p])).screen := by
    have htexts := (readTexts_uartBytes fun text htext => isAscii_hmiOutputs (ps ++ [p]) htext).1
    show Carries ((readTexts .start (uartBytes (hmiOutputs (ps ++ [p])))).foldl assign attributes) _
    rw [htexts]
    exact texts_carry attributes (ps ++ [p])
  obtain ⟨hmain, hbms⟩ := pages_show_the_pass ⟨fun _ => none, fun _ => none⟩ ps p
  have hshown : ∀ c, display.attributes (mainPath c (p.screenData.formatted c)) =
      some (shownText (p.screenData.formatted c)) := fun c => hcarries.main c _ (hmain c)
  refine ⟨hshown, fun c hc => ?_, fun hlate hquiet c => ?_⟩
  · have hvalue := hshown c
    rw [formatted_noData p c hc] at hvalue
    exact hvalue
  · exact hcarries.bms c _ (hbms hlate hquiet c)

/-- A pass before anything has come over the bus. -/
def idlePass : HmiPass := ⟨none, .idle, fun _ => false, none, 0, []⟩

/-- Fourteen of them. -/
theorem display_shows_idlePass :
    (NextionDisplay.receive ⟨.start, fun _ => none⟩
      (uartBytes (outputs (HmiTask.pass sourceVerified) .begun
        (List.replicate 13 idlePass ++ [idlePass])))).attributes "warn.val".toList =
      some "2".toList :=
  (display_shows_the_pass (fun _ => none) (List.replicate 13 idlePass) idlePass).2.2 (by decide)
    (by decide) .warn

end TfnAks.Hmi
