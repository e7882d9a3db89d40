/-
# TfnAks.Uplink.LineStream — the lines read back from the byte stream

The UART has no lines: the ground unit gets one stream of characters, in pieces, and perhaps not
from its beginning. A line of telemetry is a message of `Lib.Framing` with the end mark `'\n'`, and
`parse_uks_frame` strips what is left of the line end. So the stream of any records in the ranges is
read back as those records with their numbers (`stream_read_back`), and a receiver that comes in
late misreads one line at most (`stream_read_late`).
-/
import TfnAks.Lib.Framing
import TfnAks.Uplink.SequenceNumbers

namespace TfnAks.Uplink

open TfnAks.Lib.Decimal TfnAks.Lib.Framing TfnAks.Lib.Numbering

/-- A line of telemetry up to its `'\n'`. -/
def lineBody (seq : UInt32) (d : TelemetryData) : List Char :=
  List.intercalate [','] (['T', 'E', 'L'] :: telFields seq d) ++ ['\r']

/-- What the receiver makes of a record in the ranges. -/
def receivedValues (seq : UInt32) (d : TelemetryData) :
    Except UksRejection (List (UksField × Int)) :=
  if telRpmMax < (d.telMotorRpm.toNat : Int) then .error .rangeFail else .ok (frameValues seq d)

theorem telText_eq_frame (seq : UInt32) (d : TelemetryData) :
    telText seq d = frame '\n' 1 (lineBody seq d) := by
  rw [telText, frame, lineBody, List.append_assoc]
  rfl

theorem newline_notMem_lineBody (seq : UInt32) (d : TelemetryData) : '\n' ∉ lineBody seq d := by
  intro hmem
  rcases List.mem_append.mp hmem with hmem | hmem
  · rcases mem_of_mem_intercalate hmem with hc | ⟨tok, htok, hc⟩
    · exact absurd hc (by decide)
    · exact not_mem_tel_fields htok (by decide) (by decide) hc
  · exact absurd (List.mem_singleton.mp hmem) (by decide)

theorem lineBody_ne_nil (seq : UInt32) (d : TelemetryData) : lineBody seq d ≠ [] :=
  List.append_ne_nil_of_right_ne_nil _ (List.cons_ne_nil _ _)

/-- The receiver strips `'\r'` and `'\n'` alike. -/
theorem parseUksFrame_lineBody (seq : UInt32) (d : TelemetryData) :
    parseUksFrame (lineBody seq d) = parseUksFrame (telText seq d) := by
  have hstrip : (telText seq d).rdropWhile (fun c => c == '\r' || c == '\n') =
      (lineBody seq d).rdropWhile (fun c => c == '\r' || c == '\n') := by
    rw [telText_eq_frame]
    exact List.rdropWhile_concat_pos _ _ _ (by decide)
  unfold parseUksFrame
  rw [hstrip]

theorem parseUksFrame_of_ranges {d : TelemetryData} (h : UksRanges d) (seq : UInt32) :
    parseUksFrame (lineBody seq d) = receivedValues seq d := by
  rw [parseUksFrame_lineBody, ← telPayload_eq, parseUksFrame_telPayload h]
  rfl

/-! ## The stream of some records -/

/-- The lines of `records`, with numbers from `k` on, one after the other. -/
def stream (k : ℕ) (records : List TxRecord) : List Char :=
  (numberedFrom TxRecord.line k records).flatten

/-- The messages of that stream. -/
def bodies (k : ℕ) (records : List TxRecord) : List (List Char) :=
  numberedFrom (fun k r => lineBody (UInt32.ofNat k) r.data) k records

/-- What the receiver makes of them. -/
def received (k : ℕ) (records : List TxRecord) :
    List (Except UksRejection (List (UksField × Int))) :=
  numberedFrom (fun k r => receivedValues (UInt32.ofNat k) r.data) k records

theorem stream_eq_frames (k : ℕ) (records : List TxRecord) :
    stream k records = frames '\n' 1 (bodies k records) := by
  rw [stream, bodies, frames, List.flatMap_def, map_numberedFrom]
  refine congrArg List.flatten (numberedFrom_congr fun k r _ => ?_)
  exact telText_eq_frame _ _

theorem newline_notMem_bodies {k : ℕ} {records : List TxRecord} {body : List Char}
    (h : body ∈ bodies k records) : '\n' ∉ body ∧ body ≠ [] := by
  obtain ⟨i, hi, rfl⟩ := List.mem_mapIdx.mp h
  exact ⟨newline_notMem_lineBody _ _, lineBody_ne_nil _ _⟩

theorem map_parseUksFrame_bodies {k : ℕ} {records : List TxRecord}
    (h : ∀ r ∈ records, UksRanges r.data) :
    (bodies k records).map parseUksFrame = received k records := by
  rw [bodies, received, map_numberedFrom]
  exact numberedFrom_congr fun k r hr => parseUksFrame_of_ranges (h r hr) _

/-- **The stream is read back**, however it is cut on its way. -/
theorem stream_read_back {k : ℕ} {records : List TxRecord} (h : ∀ r ∈ records, UksRanges r.data) :
    (read '\n' 1 .start (stream k records)).map parseUksFrame = received k records := by
  rw [stream_eq_frames, (read_frames Nat.one_pos fun body hb => (newline_notMem_bodies hb).1).1]
  exact map_parseUksFrame_bodies h

/-- **A late receiver** misreads one line at most and then has all that follow: of the lines that
end in what it hears it misses none but the first. -/
theorem stream_read_late {k : ℕ} {records : List TxRecord} (h : ∀ r ∈ records, UksRanges r.data)
    {late : List Char} (hlate : late <:+ stream k records) :
    ∃ first later, (read '\n' 1 .start late).map parseUksFrame = first ++ later ∧
      first.length ≤ 1 ∧ later <:+ received k records ∧ late.count '\n' ≤ later.length + 1 := by
  rw [stream_eq_frames] at hlate
  obtain ⟨first, later, hread, hfirst, hlater, -⟩ :=
    read_late Nat.one_pos (fun body hb => newline_notMem_bodies hb) hlate
  refine ⟨first.map parseUksFrame, later.map parseUksFrame, ?_, ?_, ?_, ?_⟩
  · rw [hread, List.map_append]
  · rw [List.length_map]
    exact hfirst
  · rw [← map_parseUksFrame_bodies h]
    exact hlater.map parseUksFrame
  · have hcount := length_read_one (m := '\n') .start rfl late
    rw [hread, List.length_append] at hcount
    rw [List.length_map]
    omega

/-! ## Where the records come from -/

namespace LoraTask

/-- Every sample in the offline buffer satisfies `P`. -/
def Stored (P : TelemetryData → Prop) (s : LoraTask) : Prop := ∀ d ∈ s.offline.toList, P d

variable {P : TelemetryData → Prop}

theorem Stored.congr {s s' : LoraTask} (h : s.Stored P) (heq : s'.offline = s.offline) :
    s'.Stored P := by
  unfold Stored
  rw [heq]
  exact h

/-- The records a task makes of samples that satisfy `P`. -/
def MadeOf (P : TelemetryData → Prop) (records : List TxRecord) : Prop :=
  ∀ r ∈ records, ∃ d, P d ∧ r.data = sanitizeForUplink d

theorem madeOf_nil : MadeOf P [] := fun _ h => absurd h List.not_mem_nil

theorem MadeOf.append {rs rs' : List TxRecord} (h : MadeOf P rs) (h' : MadeOf P rs') :
    MadeOf P (rs ++ rs') := by
  intro r hr
  rcases List.mem_append.mp hr with hr | hr
  · exact h r hr
  · exact h' r hr

theorem madeOf_sent {r : TxRecord} {d : TelemetryData} (hd : P d) (hr : r.data = sanitizeForUplink d)
    (written : Int) (t : Telemetry) : MadeOf P (t.sent written r) := by
  unfold Telemetry.sent
  split
  · intro r' hr'
    rw [List.mem_singleton.mp hr']
    exact ⟨d, hd, hr⟩
  · exact madeOf_nil

theorem replayLoop_stored (tx : Nat → TxAttempt) (n burst : Nat) {s : LoraTask} (h : s.Stored P) :
    (s.replayLoop tx n burst).Stored P ∧ MadeOf P (s.replayRecords tx n burst) := by
  induction n generalizing burst s with
  | zero => exact ⟨h, madeOf_nil⟩
  | succ n ih =>
      rw [replayLoop, replayRecords]
      cases hpeek : obPeek s.offline with
      | none => exact ⟨h, madeOf_nil⟩
      | some replay =>
          have hsplit := toList_eq_cons_of_obPeek hpeek
          have hreplay : P replay := h replay (hsplit ▸ List.mem_cons_self)
          have hnext : (s.sendReplay (tx burst).written replay).Stored P := fun d hd =>
            h d (hsplit ▸ List.mem_cons_of_mem _ hd)
          simp only
          split
          · exact ⟨h.congr rfl, madeOf_nil⟩
          · obtain ⟨hstored, hmade⟩ := ih (burst + 1) hnext
            exact ⟨hstored, (madeOf_sent hreplay rfl _ _).append hmade⟩

theorem liveRecords_madeOf {queue : Option TelemetryData} (hqueue : ∀ d, queue = some d → P d)
    (tx : TxAttempt) (s : LoraTask) : MadeOf P (s.liveRecords queue tx) := by
  unfold liveRecords
  cases queue with
  | none => exact madeOf_nil
  | some live =>
      simp only
      split
      · exact madeOf_sent (hqueue live rfl) rfl _ _
      · exact madeOf_nil

theorem sampleOffline_stored {queue : Option TelemetryData} (hqueue : ∀ d, queue = some d → P d)
    (nowMs : UInt64) {s : LoraTask} (h : s.Stored P) : (s.sampleOffline queue nowMs).Stored P := by
  unfold sampleOffline
  cases queue with
  | none => exact h
  | some buffered =>
      simp only
      split
      · intro d hd
        have hmem : d ∈ s.offline.toList ++ [buffered] := by
          rw [← evicted_append_obPush]
          exact List.mem_append_right _ hd
        rcases List.mem_append.mp hmem with hmem | hmem
        · exact h d hmem
        · exact hqueue d (congrArg some (List.mem_singleton.mp hmem).symm)
      · exact h

/-- **One pass** stores and sends only what was in the buffer or is in the queue. -/
theorem iterate_stored {i : Iteration} (hqueue : ∀ d, i.queue = some d → P d) {s : LoraTask}
    (h : s.Stored P) : (s.iterate i).Stored P ∧ MadeOf P (s.txRecords i) := by
  have hchecked : (s.linkChecked i).Stored P := h.congr (linkChecked_kept i s).offline
  have hstart : ((s.linkChecked i).startTick i.nowTick).Stored P := hchecked.congr rfl
  simp only [iterate, txRecords]
  by_cases hdue : (s.linkChecked i).telemetryDue i.nowTick = true
  · rw [if_pos hdue, if_pos hdue, telemetryTick, tickRecords]
    by_cases hup : (!((s.linkChecked i).startTick i.nowTick).linkDown) = true
    · rw [if_pos hup, if_pos hup]
      obtain ⟨hstored, hmade⟩ := replayLoop_stored i.replay replayBurstPerTick 0 hstart
      exact ⟨hstored.congr (sendLive_kept _ _ _).offline,
        hmade.append (liveRecords_madeOf hqueue _ _)⟩
    · rw [if_neg hup, if_neg hup]
      exact ⟨sampleOffline_stored hqueue _ hstart, madeOf_nil⟩
  · rw [if_neg hdue, if_neg hdue]
    exact ⟨hchecked, madeOf_nil⟩

end LoraTask

end TfnAks.Uplink
