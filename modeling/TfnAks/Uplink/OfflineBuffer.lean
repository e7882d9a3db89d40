/-
# TfnAks.Uplink.OfflineBuffer — telemetry kept while the link is down

`lib/OfflineBuffer`: a ring of `OB_CAPACITY` records. The functions that answer whether they found a
record answer an option here; `ob_push` always answers true.
-/
import TfnAks.Lib.RingBuffer
import TfnAks.SystemConfig
import TfnAks.Telemetry.Data

namespace TfnAks.Uplink

open TfnAks.Lib.RingBuffer

/-- The buffer of the samples of an outage. -/
abbrev OfflineBuffer := Ring TelemetryData obCapacity

theorem obCapacity_pos : 0 < obCapacity := by decide

/-- The static storage at boot. -/
def obBooted : OfflineBuffer := Ring.empty obCapacity_pos .zero

/-- A full buffer loses its oldest sample. -/
def obPush (data : TelemetryData) (b : OfflineBuffer) : OfflineBuffer := b.push data

/-- The oldest sample. -/
def obPeek (b : OfflineBuffer) : Option TelemetryData := b.peek

/-- Removes the oldest sample. -/
def obDropFront (b : OfflineBuffer) : OfflineBuffer := b.dropFront

/-- The oldest sample, removed. -/
def obPop (b : OfflineBuffer) : Option (TelemetryData × OfflineBuffer) :=
  (obPeek b).map fun out => (out, obDropFront b)

/-- How many samples wait. -/
def obCount (b : OfflineBuffer) : Nat := b.count

/-- The record `ob_push` overwrites: the oldest one of a full buffer. -/
def obEvicted (b : OfflineBuffer) : Option TelemetryData :=
  if obCount b = obCapacity then obPeek b else none

/-- What a push puts behind the buffer is what it held, less the record it evicts. -/
theorem evicted_append_obPush (data : TelemetryData) (b : OfflineBuffer) :
    (obEvicted b).toList ++ (obPush data b).toList = b.toList ++ [data] := by
  rw [obPush, Ring.toList_push, obEvicted, obPeek, Ring.peek_eq_head?]
  by_cases hfull : b.count = obCapacity
  · rw [if_pos hfull, if_pos (show obCount b = obCapacity from hfull)]
    cases hb : b.toList with
    | nil =>
        rw [Ring.toList_eq_nil_iff] at hb
        exact absurd hb (Ring.count_ne_zero_of_full hfull)
    | cons d ds => rfl
  · rw [if_neg hfull, if_neg (show ¬ obCount b = obCapacity from hfull)]
    rfl

/-- The record a peek finds is the one a drop takes out. -/
theorem toList_eq_cons_of_obPeek {b : OfflineBuffer} {d : TelemetryData} (h : obPeek b = some d) :
    b.toList = d :: (obDropFront b).toList := by
  rw [obPeek, Ring.peek_eq_head?, List.head?_eq_some_iff] at h
  obtain ⟨rest, hrest⟩ := h
  rw [obDropFront, Ring.toList_dropFront, hrest]
  rfl

theorem obPeek_eq_none_iff {b : OfflineBuffer} : obPeek b = none ↔ obCount b = 0 := by
  rw [obPeek, Ring.peek_eq_head?, List.head?_eq_none_iff, Ring.toList_eq_nil_iff]
  rfl

/-- `ob_pop` is a peek and a drop. -/
theorem toList_eq_cons_of_obPop {b b' : OfflineBuffer} {d : TelemetryData}
    (h : obPop b = some (d, b')) : b.toList = d :: b'.toList := by
  rw [obPop, Option.map_eq_some_iff] at h
  obtain ⟨out, hout, heq⟩ := h
  obtain ⟨rfl, rfl⟩ := Prod.mk.inj heq
  exact toList_eq_cons_of_obPeek hout

end TfnAks.Uplink
