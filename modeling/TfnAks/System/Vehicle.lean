/-
# TfnAks.System.Vehicle — from the bus to the ground unit

`vTask_LoRa_UKS` beside the CAN task and the VCU task. It shares the telemetry queue with them and
nothing else, and a pass reads the queue once, so a pass is one step, at the moment of that read.
What the UART has taken is kept as one stream of characters.

`Sys.Pictured` says that the record of the CAN task is the picture of the bus (`Can.BusRecord`), and
`Vehicle.Reports` that the stream is made of lines about such pictures. So the ground unit, which
reads the stream in pieces, gets the values of the last frames on the bus and nothing else
(`ground_reads_the_bus`).
-/
import TfnAks.Can.BusRecord
import TfnAks.System.DriveSafety
import TfnAks.Uplink.LineStream

namespace TfnAks.System

open TfnAks.Lib.Runs TfnAks.Lib.Framing TfnAks.Lib.Mealy TfnAks.Lib.Numbering TfnAks.Can TfnAks.Uplink
  TfnAks.Vcu

/-! ## The queue holds the picture of the bus -/

/-- A snapshot of the frames of `source`, published at an uptime. -/
structure Publication where
  source : Provenance
  timestampMs : UInt32

/-- The record of the frames, with the speed and the uptime. -/
def Publication.record (rpmToSpeedKmhX10 : UInt16 → UInt16) (p : Publication) : TelemetryData :=
  let d := busRecord p.source.frames p.source.motorUpdate p.source.bmsUpdate
  { d with
    telSpeedKmhX10 := rpmToSpeedKmhX10 d.telMotorRpm
    telTimestampMs := p.timestampMs }

/-- The values of the record are those of the frames. -/
def Sys.Valued (s : Sys) : Prop :=
  recordValues s.can.telemetryData = recordValues (busRecord s.frames s.motorUpdate s.bmsUpdate)

theorem boot_valued : Sys.boot.Valued := rfl

theorem Sys.Valued.congr {s s' : Sys} (h : s.Valued)
    (hcan : recordValues s'.can.telemetryData = recordValues s.can.telemetryData)
    (hframes : s'.frames = s.frames) : s'.Valued := by
  -- the values do not depend on the updates
  have hsame : recordValues (busRecord s.frames s'.motorUpdate s'.bmsUpdate) =
      recordValues (busRecord s.frames s.motorUpdate s.bmsUpdate) := rfl
  rw [Sys.Valued, hcan, hframes, hsame]
  exact h

theorem Sys.Valued.receive {s s' : Sys} (h : s.Valued) (msg : TwaiMessage)
    (hcan : s'.can = (s.can.handleFrame msg s.tickCount).1)
    (hframes : s'.frames = s.frames ++ [⟨msg, s.clock⟩]) : s'.Valued := by
  rw [Sys.Valued, hcan, hframes, handleFrame_values, busRecord_values_append, h]
  rfl

theorem update_valued {s s' : Sys} (hs : s.update = some s') (h : s.Valued) : s'.Valued := by
  unfold Sys.update at hs
  split at hs
  · obtain rfl := Option.some.inj (Option.ite_none_right_eq_some.mp hs).2
    exact h.congr (updateMotorStatusValidity_values _ _) rfl
  · obtain rfl := Option.some.inj (Option.ite_none_right_eq_some.mp hs).2
    exact h.congr (updateBmsValidity_values _ _) rfl
  · obtain rfl := Option.some.inj hs
    exact h.congr (updateChargerValidity_values _ _) rfl
  · exact absurd hs.symm (Option.some_ne_none _)

theorem step_valued {rpmToSpeedKmhX10 : UInt16 → UInt16} {s s' : Sys} {a : Act}
    (hs : s.step rpmToSpeedKmhX10 a = some s') (h : s.Valued) : s'.Valued := by
  cases a with
  | elapse ticks =>
      obtain rfl := Option.some.inj hs
      exact h
  | post event =>
      obtain rfl := Option.some.inj hs
      exact h
  | enterCall =>
      obtain rfl := Option.some.inj (Option.ite_none_right_eq_some.mp hs).2
      exact h.congr rfl rfl
  | receive msg =>
      simp only [Sys.step] at hs
      split at hs
      · obtain rfl := Option.some.inj (Option.ite_none_right_eq_some.mp hs).2
        exact h.receive msg rfl rfl
      · exact absurd hs.symm (Option.some_ne_none _)
  | callback | endReceive =>
      simp only [Sys.step] at hs
      split at hs
      · obtain rfl := Option.some.inj hs
        exact h
      · exact absurd hs.symm (Option.some_ne_none _)
  | update => exact update_valued hs h
  | publish timestampMs =>
      obtain rfl := Option.some.inj (Option.ite_none_right_eq_some.mp hs).2
      exact h
  | vcuTask =>
      obtain rfl := Option.some.inj hs
      unfold Sys.vcuTask
      split <;> exact h

/-- What is published is the picture of the bus. -/
theorem publishedData_eq_record (rpmToSpeedKmhX10 : UInt16 → UInt16) (timestampMs : UInt32) {s : Sys}
    (hinv : s.Inv) (hvalued : s.Valued) :
    s.can.publishedData rpmToSpeedKmhX10 timestampMs =
      Publication.record rpmToSpeedKmhX10
        ⟨⟨s.frames, s.motorUpdate, s.bmsUpdate⟩, timestampMs⟩ := by
  have hrecord := telemetryData_eq_busRecord hvalued hinv.motor hinv.bms
  rw [CanManager.publishedData, CanManager.getTelemetryData, hrecord]
  rfl

/-- **The CAN task refines the picture of the bus.** After every interleaving of the tasks, whatever
frames came and however often the tick counter has wrapped, the record is the stateless one: each
value that of the last accepted frame of its kind, each flag the freshness of the last frame at the
last update. The steps have one guard (`updateInTime`): the updates of a stream come less than
`2^32` ticks, minus its timeout, apart. -/
theorem canTask_refines_busRecord (rpmToSpeedKmhX10 : UInt16 → UInt16) {acts : List Act} {s : Sys}
    (hrun : execGuarded (Sys.step rpmToSpeedKmhX10) .boot acts = some s) :
    s.can.getTelemetryData = busRecord s.frames s.motorUpdate s.bmsUpdate := by
  have hboth : s.Inv ∧ s.Valued := by
    refine execGuarded_invariant (I := fun s => s.Inv ∧ s.Valued) ?_ ⟨boot_inv, boot_valued⟩ hrun
    rintro s a s' hs ⟨hinv, hvalued⟩
    exact ⟨step_inv rpmToSpeedKmhX10 s a s' hs hinv, step_valued hs hvalued⟩
  exact telemetryData_eq_busRecord hboth.2 hboth.1.motor hboth.1.bms

/-- A call that receives one frame of 70.0 V and -1.5 A. -/
def oneFrameCall : List Act :=
  [.enterCall, .receive ⟨true, canIdLbBmsE000, 8, #v[0xFF, 0x6A, 0x02, 0xBC, 0x1F, 0x40, 0, 0]⟩,
    .endReceive, .update, .update, .update, .publish 100]

theorem oneFrameCall_recorded :
    ((execGuarded (Sys.step id) .boot oneFrameCall).get (by decide)).can.getTelemetryData =
      busRecord [⟨⟨true, canIdLbBmsE000, 8, #v[0xFF, 0x6A, 0x02, 0xBC, 0x1F, 0x40, 0, 0]⟩, 0⟩] 0 0 :=
  canTask_refines_busRecord id (Option.some_get _).symm

/-! ## The vehicle -/

/-- The CAN and VCU tasks with the telemetry task. -/
structure Vehicle where
  sys : Sys
  lora : LoraTask
  /-- what the CAN task has published, in order -/
  published : List Publication
  /-- the characters the UART has taken -/
  uart : List Char

/-- Before any task has run. -/
def Vehicle.boot (bootMs : UInt64) : Vehicle := ⟨.boot, .booted bootMs, [], []⟩

/-- A piece of one of the tasks. -/
inductive VehicleAct where
  /-- a step of the other two tasks, or of time -/
  | task (a : Act)
  /-- a pass of the telemetry task; the queue is the one it finds -/
  | lora (i : Iteration)

/-- What the pass finds in the queue. -/
def Vehicle.meets (v : Vehicle) (i : Iteration) : Iteration :=
  { i with queue := v.sys.slot.map Prod.fst }

/-- What a step of the other tasks publishes. -/
def Vehicle.publishes (v : Vehicle) : Act → List Publication
  | .publish timestampMs => [⟨⟨v.sys.frames, v.sys.motorUpdate, v.sys.bmsUpdate⟩, timestampMs⟩]
  | _ => []

section Step

variable (rpmToSpeedKmhX10 : UInt16 → UInt16)

/-- One of these, when its task is at that point. -/
def Vehicle.step (v : Vehicle) : VehicleAct → Option Vehicle
  | .task a =>
    (v.sys.step rpmToSpeedKmhX10 a).map fun sys =>
      { v with
        sys := sys
        published := v.published ++ v.publishes a }
  | .lora i =>
    some
      { v with
        lora := v.lora.iterate (v.meets i)
        uart := v.uart ++ (v.lora.txLines (v.meets i)).flatten }

/-- A record of something published. -/
def Vehicle.Published (v : Vehicle) (d : TelemetryData) : Prop :=
  ∃ p ∈ v.published, d = p.record rpmToSpeedKmhX10

/-- The queue, the offline buffer and the stream hold records of what was published. -/
structure Vehicle.Reports (v : Vehicle) : Prop where
  inv : v.sys.Inv
  valued : v.sys.Valued
  slot : ∀ d source, v.sys.slot = some (d, source) → v.Published rpmToSpeedKmhX10 d
  stored : v.lora.Stored (v.Published rpmToSpeedKmhX10)
  sent : ∃ records, v.uart = stream 0 records ∧ v.lora.CountsAt records.length ∧
    LoraTask.MadeOf (v.Published rpmToSpeedKmhX10) records

theorem boot_reports (bootMs : UInt64) : (Vehicle.boot bootMs).Reports rpmToSpeedKmhX10 where
  inv := boot_inv
  valued := boot_valued
  slot := nofun
  stored := fun _ h => absurd h List.not_mem_nil
  sent := ⟨[], rfl, ⟨rfl, rfl⟩, LoraTask.madeOf_nil⟩

end Step

variable {rpmToSpeedKmhX10 : UInt16 → UInt16}

theorem Vehicle.Published.mono {v v' : Vehicle} (h : v.published ⊆ v'.published) {d : TelemetryData}
    (hd : v.Published rpmToSpeedKmhX10 d) : v'.Published rpmToSpeedKmhX10 d := by
  obtain ⟨p, hp, hrecord⟩ := hd
  exact ⟨p, h hp, hrecord⟩

theorem Vehicle.Reports.lora {v : Vehicle} (h : v.Reports rpmToSpeedKmhX10) (i : Iteration) :
    Vehicle.Reports rpmToSpeedKmhX10
      { v with
        lora := v.lora.iterate (v.meets i)
        uart := v.uart ++ (v.lora.txLines (v.meets i)).flatten } := by
  obtain ⟨records, hstream, hcounts, hmade⟩ := h.sent
  have hqueue : ∀ d, (v.meets i).queue = some d → v.Published rpmToSpeedKmhX10 d := by
    intro d hd
    obtain ⟨⟨d', source⟩, hslot, rfl⟩ := Option.map_eq_some_iff.mp hd
    exact h.slot d' source hslot
  obtain ⟨hstored, hsent⟩ := LoraTask.iterate_stored hqueue h.stored
  obtain ⟨hlines, hcounts'⟩ := LoraTask.iterate_numbered (v.meets i) hcounts
  refine { inv := h.inv, valued := h.valued, slot := h.slot, stored := hstored, sent := ?_ }
  refine ⟨records ++ v.lora.txRecords (v.meets i), ?_, ?_, hmade.append hsent⟩
  · show v.uart ++ _ = _
    rw [hstream, hlines, stream, stream, numberedFrom_append, Nat.zero_add,
      List.flatten_append]
  · rw [List.length_append]
    exact hcounts'

/-- A step of the other tasks keeps the queue, or publishes. -/
theorem step_slot {s s' : Sys} {a : Act} (hs : s.step rpmToSpeedKmhX10 a = some s') :
    s'.slot = s.slot ∨ ∃ timestampMs, a = .publish timestampMs ∧
      s'.slot = some (s.can.publishedData rpmToSpeedKmhX10 timestampMs,
        ⟨s.frames, s.motorUpdate, s.bmsUpdate⟩) := by
  -- the slot is written by the last step of a call and by no other
  cases a with
  | elapse ticks | post event =>
      obtain rfl := Option.some.inj hs
      exact .inl rfl
  | enterCall =>
      obtain rfl := Option.some.inj (Option.ite_none_right_eq_some.mp hs).2
      exact .inl rfl
  | receive msg =>
      simp only [Sys.step] at hs
      split at hs
      · obtain rfl := Option.some.inj (Option.ite_none_right_eq_some.mp hs).2
        exact .inl rfl
      · exact absurd hs.symm (Option.some_ne_none _)
  | callback | endReceive =>
      simp only [Sys.step] at hs
      split at hs
      · obtain rfl := Option.some.inj hs
        exact .inl rfl
      · exact absurd hs.symm (Option.some_ne_none _)
  | update =>
      have hup : s.update = some s' := hs
      unfold Sys.update at hup
      split at hup
      · obtain rfl := Option.some.inj (Option.ite_none_right_eq_some.mp hup).2
        exact .inl rfl
      · obtain rfl := Option.some.inj (Option.ite_none_right_eq_some.mp hup).2
        exact .inl rfl
      · obtain rfl := Option.some.inj hup
        exact .inl rfl
      · exact absurd hup.symm (Option.some_ne_none _)
  | publish timestampMs =>
      obtain rfl := Option.some.inj (Option.ite_none_right_eq_some.mp hs).2
      exact .inr ⟨timestampMs, rfl, rfl⟩
  | vcuTask =>
      obtain rfl := Option.some.inj hs
      left
      unfold Sys.vcuTask
      split <;> rfl

/-- **One step** of any of the three tasks. -/
theorem vehicleStep_reports (v : Vehicle) (a : VehicleAct) (v' : Vehicle)
    (hstep : v.step rpmToSpeedKmhX10 a = some v') (h : v.Reports rpmToSpeedKmhX10) :
    v'.Reports rpmToSpeedKmhX10 := by
  cases a with
  | lora i =>
      obtain rfl := Option.some.inj hstep
      exact h.lora i
  | task a =>
      obtain ⟨sys, hsys, rfl⟩ := Option.map_eq_some_iff.mp hstep
      obtain ⟨records, hstream, hcounts, hmade⟩ := h.sent
      have hmono : ∀ d, v.Published rpmToSpeedKmhX10 d → Vehicle.Published rpmToSpeedKmhX10
          { v with sys := sys, published := v.published ++ v.publishes a } d :=
        fun d hd => hd.mono (List.subset_append_left v.published (v.publishes a))
      refine
        { inv := step_inv rpmToSpeedKmhX10 v.sys a sys hsys h.inv
          valued := step_valued hsys h.valued
          slot := ?_
          stored := fun d hd => hmono d (h.stored d hd)
          sent := ⟨records, hstream, hcounts, fun r hr => ?_⟩ }
      · -- what the queue holds was published, now or before
        intro d source hslot
        rcases step_slot hsys with hkept | ⟨timestampMs, rfl, hnew⟩
        · exact hmono d (h.slot d source (hkept ▸ hslot))
        · obtain ⟨rfl, rfl⟩ := Prod.mk.inj (Option.some.inj (hslot.symm.trans hnew))
          exact ⟨⟨_, timestampMs⟩, List.mem_append_right _ List.mem_cons_self,
            publishedData_eq_record rpmToSpeedKmhX10 timestampMs h.inv h.valued⟩
      · obtain ⟨d, hd, hdata⟩ := hmade r hr
        exact ⟨d, hmono d hd, hdata⟩

/-! ## The ground unit -/

/-- What the receiver makes of the `k`-th line, when it is about `p`. -/
def Publication.received (rpmToSpeedKmhX10 : UInt16 → UInt16) (k : ℕ) (p : Publication) :
    Except UksRejection (List (UksField × Int)) :=
  receivedValues (UInt32.ofNat k) (sanitizeForUplink (p.record rpmToSpeedKmhX10))

/-- The publications the records are about. -/
theorem exists_publications {v : Vehicle} {records : List TxRecord}
    (h : LoraTask.MadeOf (v.Published rpmToSpeedKmhX10) records) :
    ∃ sent ⊆ v.published, records.map TxRecord.data =
      sent.map fun p => sanitizeForUplink (p.record rpmToSpeedKmhX10) := by
  induction records with
  | nil => exact ⟨[], List.nil_subset _, rfl⟩
  | cons r records ih =>
      obtain ⟨sent, hsent, hdata⟩ := ih fun r' hr' => h r' (List.mem_cons_of_mem r hr')
      obtain ⟨d, ⟨p, hp, rfl⟩, hr⟩ := h r List.mem_cons_self
      refine ⟨p :: sent, List.cons_subset.mpr ⟨hp, hsent⟩, ?_⟩
      rw [List.map_cons, List.map_cons, hr, hdata]

theorem received_eq {records : List TxRecord} {sent : List Publication}
    (h : records.map TxRecord.data =
      sent.map fun p => sanitizeForUplink (p.record rpmToSpeedKmhX10)) :
    Uplink.received 0 records = numberedFrom (Publication.received rpmToSpeedKmhX10) 0 sent := by
  have hrecords := numberedFrom_map (fun k d => receivedValues (UInt32.ofNat k) d) TxRecord.data 0
    records
  rw [Uplink.received, ← hrecords, h, numberedFrom_map]
  rfl

/-- **The ground unit reads the bus.** After every run of the tasks, the stream of the UART consists of
lines about snapshots that were published, numbered from 0 on. However it is cut on its way, the
receiver gets the values of the last frames before each of them, or rejects the line because of its
motor speed; a receiver that comes in late misreads one line at most and gets all others that end in
what it hears. The steps have the guard of `canTask_refines_busRecord`. Sends may fail, and then as
a whole: `uart_write_bytes` gives -1 at once or waits until all bytes are in the transmit ring. -/
theorem ground_reads_the_bus (hspd : ∀ rpm, (rpmToSpeedKmhX10 rpm).toNat ≤ telSpdX10Max)
    {bootMs : UInt64} {acts : List VehicleAct} {v : Vehicle}
    (hrun : execGuarded (Vehicle.step rpmToSpeedKmhX10) (.boot bootMs) acts = some v) :
    ∃ sent ⊆ v.published,
      (∀ chunks : List (List Char), chunks.flatten = v.uart →
        (((chunkOutputs (Reader.step '\n' 1) .start chunks).flatten).filterMap id).map
          parseUksFrame = numberedFrom (Publication.received rpmToSpeedKmhX10) 0 sent) ∧
      ∀ late, late <:+ v.uart → ∃ first later,
        (read '\n' 1 .start late).map parseUksFrame = first ++ later ∧ first.length ≤ 1 ∧
          later <:+ numberedFrom (Publication.received rpmToSpeedKmhX10) 0 sent ∧
          late.count '\n' ≤ later.length + 1 := by
  have hreports : v.Reports rpmToSpeedKmhX10 :=
    execGuarded_invariant vehicleStep_reports (boot_reports rpmToSpeedKmhX10 bootMs) hrun
  -- the records on the wire, then the publications behind them
  obtain ⟨records, hstream, -, hmade⟩ := hreports.sent
  obtain ⟨sent, hsent, hdata⟩ := exists_publications hmade
  have hranges : ∀ r ∈ records, UksRanges r.data := by
    intro r hr
    obtain ⟨d, ⟨p, -, rfl⟩, hr⟩ := hmade r hr
    rw [hr]
    exact sanitizeForUplink_ranges (hspd _)
  refine ⟨sent, hsent, ?_, ?_⟩
  · intro chunks hchunks
    rw [read_chunks, hchunks, hstream, stream_read_back hranges, received_eq hdata]
  · intro late hlate
    rw [← received_eq hdata]
    exact stream_read_late hranges (hstream ▸ hlate)

/-- The call of `oneFrameCall`, and a pass of the telemetry task that sends its snapshot. -/
def oneLineRun : List VehicleAct :=
  oneFrameCall.map .task ++ [.lora ⟨[], 100, 20, none, fun _ => ⟨1, 91⟩, ⟨1, 91⟩, 100⟩]

theorem oneLineRun_read :
    ∃ v, execGuarded (Vehicle.step fun _ => 0) (.boot 0) oneLineRun = some v ∧ v.uart ≠ [] ∧
      ∃ sent ⊆ v.published, (((chunkOutputs (Reader.step '\n' 1) .start [v.uart]).flatten).filterMap
        id).map parseUksFrame = numberedFrom (Publication.received fun _ => 0) 0 sent := by
  have hpossible : (execGuarded (Vehicle.step fun _ => 0) (.boot 0) oneLineRun).isSome = true := by
    decide
  obtain ⟨v, hv⟩ := Option.isSome_iff_exists.mp hpossible
  have hwritten : v.uart ≠ [] := by
    have hline : (execGuarded (Vehicle.step fun _ => 0) (.boot 0) oneLineRun).any
        (fun v => !v.uart.isEmpty) = true := by rfl
    rw [hv] at hline
    rintro hnil
    rw [Option.any_some, hnil] at hline
    exact Bool.noConfusion hline
  obtain ⟨sent, hsent, hread, -⟩ := ground_reads_the_bus (fun _ => Nat.zero_le _) hv
  exact ⟨v, hv, hwritten, sent, hsent, hread [v.uart] (List.append_nil _)⟩

end TfnAks.System
