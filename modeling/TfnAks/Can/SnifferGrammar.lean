/-
# TfnAks.Can.SnifferGrammar — which log lines are read as they are written

The grammar of a sniffer log (`Writes`): four fields between `|`, the format, a hexadecimal
identifier, a decimal length and as many bytes of one or two hexadecimal digits. A line is read as
written when the parser accepts it exactly if the grammar does, with the values of the grammar
(`ReadAsWritten`).

The parser checks the number of fields, the format, and that the number the third field begins with
is the number of words in the fourth (`Shape`); what stands in the numbers it never checks, and a
separator at the end of the line it does not see. So what it accepts is shape alone
(`parseLine_eq_ok_iff`), what the grammar accepts is shape and clean numerals (`writes_iff`), and
the condition is the difference (`Tidy`).
-/
import Mathlib.Data.List.Forall2
import TfnAks.Can.SnifferLog

namespace TfnAks.Can.Sniffer

open TfnAks.Lib.CText

/-! ## The grammar -/

/-- What a line says. -/
structure Record where
  isExt : Bool
  id : UInt32
  bytes : List UInt8

/-- The word of a format. -/
def formatText (isExt : Bool) : List Char := if isExt then "EXT".toList else "STD".toList

/-- A hexadecimal identifier, with or without `0x`, that fits 32 bits. -/
def HexId (tok : List Char) (id : UInt32) : Prop :=
  ∃ ds, (tok = ds ∨ tok = '0' :: 'x' :: ds ∨ tok = '0' :: 'X' :: ds) ∧ Numeral 16 ds id.toNat

/-- One or two hexadecimal digits. -/
def HexByte (tok : List Char) (b : UInt8) : Prop := tok.length ≤ 2 ∧ Numeral 16 tok b.toNat

/-- The fields of a well-formed line, and what they say. -/
inductive Writes : List (List Char) → Record → Prop where
  | mk {id dlc hex : List Char} {r : Record} (hid : HexId id r.id)
      (hdlc : Numeral 10 dlc r.bytes.length) (hmax : r.bytes.length ≤ twaiFrameMaxDlc)
      (hbytes : List.Forall₂ HexByte (words isSpace hex) r.bytes) :
      Writes [formatText r.isExt, id, dlc, hex] r

/-- The fields between all the separators of a line, trimmed. -/
def separated (line : List Char) : List (List Char) := (line.splitOn '|').map trim

/-- `bytes` over the first bytes of the data. -/
def overwrite (data : Vector UInt8 8) (bytes : List UInt8) : Vector UInt8 8 :=
  Vector.ofFn fun i => bytes[i.val]?.getD data[i]

/-- The frame that carries the values of `r`. -/
def Record.frame (r : Record) (lineNo : ℕ) (out : Frame) : Frame where
  isExt := r.isExt
  id := r.id
  msg :=
    { out.msg with
      identifier := r.id
      dataLengthCode := UInt8.ofNat r.bytes.length
      data := overwrite out.msg.data r.bytes }
  lineNo := lineNo

/-- The line is accepted exactly if it is well formed, and the frame carries exactly what it says.
-/
def ReadAsWritten (w : LongWidth) (line : List Char) : Prop :=
  ∀ lineNo out f,
    parseLine w line lineNo out = .ok f ↔ ∃ r, Writes (separated line) r ∧ f = r.frame lineNo out

/-! ## The condition -/

/-- Four fields, one of the two formats, and a number in front of the third field that is at most 8
and the number of words in the fourth. -/
inductive Shape : List (List Char) → Prop where
  | mk {id dlc hex : List Char} (isExt : Bool)
      (hdlc : leadingInt 10 dlc = (words isSpace hex).length)
      (hmax : (words isSpace hex).length ≤ twaiFrameMaxDlc) :
      Shape [formatText isExt, id, dlc, hex]

/-- Identifier, length and bytes are written as numerals and nothing else. -/
inductive Clean : List (List Char) → Prop where
  | mk {fmt id dlc hex : List Char} (hid : ∃ v, HexId id v) (hdlc : ∃ v, Numeral 10 dlc v)
      (hbytes : ∀ tok ∈ words isSpace hex, ∃ b, HexByte tok b) : Clean [fmt, id, dlc, hex]

/-- Either the line does not end with a separator, and if it has the shape its numerals are clean;
or it ends with one, is not well formed itself, and has not the shape without it. -/
def Tidy (line : List Char) : Prop :=
  if line.getLast? = some '|' then
    (¬ ∃ r, Writes (separated line) r) ∧ ¬ Shape (separated line.dropLast)
  else Shape (separated line) → Clean (separated line)

/-! ## What the parser reads -/

/-- A byte token as the parser reads it. -/
def byteRead (w : LongWidth) (tok : List Char) : UInt8 := UInt8.ofNat (strtoul w 16 tok)

/-- The fields the parser accepts, and what it reads in them. -/
inductive Reads (w : LongWidth) : List (List Char) → Record → Prop where
  | mk {id dlc hex : List Char} (isExt : Bool)
      (hdlc : leadingInt 10 dlc = (words isSpace hex).length)
      (hmax : (words isSpace hex).length ≤ twaiFrameMaxDlc) :
      Reads w [formatText isExt, id, dlc, hex]
        ⟨isExt, UInt32.ofNat (strtoul w 16 id), (words isSpace hex).map (byteRead w)⟩

theorem shape_iff (w : LongWidth) (fs : List (List Char)) : Shape fs ↔ ∃ r, Reads w fs r := by
  constructor
  · rintro ⟨isExt, hdlc, hmax⟩
    exact ⟨_, .mk isExt hdlc hmax⟩
  · rintro ⟨_, isExt, hdlc, hmax⟩
    exact .mk isExt hdlc hmax

/-- `bytes` over the data from number `n` on. -/
def overwriteFrom (n : ℕ) (data : Vector UInt8 8) (bytes : List UInt8) : Vector UInt8 8 :=
  Vector.ofFn fun i => if i.val < n then data[i] else bytes[i.val - n]?.getD data[i]

theorem overwriteFrom_zero (data : Vector UInt8 8) (bytes : List UInt8) :
    overwriteFrom 0 data bytes = overwrite data bytes := rfl

theorem overwriteFrom_nil (n : ℕ) (data : Vector UInt8 8) : overwriteFrom n data [] = data := by
  ext i hi
  simp [overwriteFrom]

theorem overwriteFrom_cons {n : ℕ} (hn : n < 8) (data : Vector UInt8 8) (b : UInt8)
    (bytes : List UInt8) :
    overwriteFrom n data (b :: bytes) = overwriteFrom (n + 1) (data.set n b hn) bytes := by
  ext i hi
  simp only [overwriteFrom, Vector.getElem_ofFn, Fin.getElem_fin]
  rcases Nat.lt_trichotomy i n with hlt | rfl | hgt
  · rw [if_pos hlt, if_pos (by omega), Vector.getElem_set_ne hn hi (by omega)]
  · rw [if_neg (lt_irrefl i), if_pos (Nat.lt_succ_self i), Vector.getElem_set_self, Nat.sub_self]
    rfl
  · have hpred : i - n = (i - (n + 1)) + 1 := by omega
    rw [if_neg (by omega), if_neg (by omega), Vector.getElem_set_ne hn hi (by omega), hpred,
      List.getElem?_cons_succ]

theorem readBytes_of_none (w : LongWidth) {hs : List Char} (h : extract isSpace hs = none) (n : ℕ)
    (data : Vector UInt8 8) : readBytes w hs n data = .ok (n, data) := by
  rw [readBytes]
  split
  · rfl
  · rename_i hsome
    rw [h] at hsome
    cases hsome

theorem readBytes_of_some (w : LongWidth) {hs byteStr rest : List Char}
    (h : extract isSpace hs = some (byteStr, rest)) (n : ℕ) (data : Vector UInt8 8) :
    readBytes w hs n data =
      if hn : n < twaiFrameMaxDlc then readBytes w rest (n + 1) (data.set n (byteRead w byteStr) hn)
      else .error "8'den fazla veri byte'i" := by
  rw [readBytes]
  split
  · rename_i hnone
    rw [h] at hnone
    cases hnone
  · rename_i hsome
    rw [h] at hsome
    cases hsome
    rfl

/-- **The byte loop** puts the words of the field into the data, if there is room for them. -/
theorem readBytes_eq (w : LongWidth) (hs : List Char) (n : ℕ) (hn : n ≤ twaiFrameMaxDlc)
    (data : Vector UInt8 8) :
    readBytes w hs n data =
      if n + (words isSpace hs).length ≤ twaiFrameMaxDlc then
        .ok (n + (words isSpace hs).length,
          overwriteFrom n data ((words isSpace hs).map (byteRead w)))
      else .error "8'den fazla veri byte'i" := by
  induction hs, n, data using readBytes.induct w with
  | case1 hs n data hnone =>
      rw [readBytes_of_none w hnone, words_of_extract_none isSpace hnone, List.map_nil,
        overwriteFrom_nil]
      exact (if_pos hn).symm
  | case2 hs n data byteStr rest hsome hroom ih =>
      have hrest := ih hroom
      rw [readBytes_of_some w hsome, dif_pos hroom, words_of_extract isSpace hsome, List.map_cons,
        overwriteFrom_cons hroom, List.length_cons, ← Nat.add_assoc, Nat.add_right_comm]
      exact hrest
  | case3 hs n data byteStr rest hsome hfull =>
      rw [readBytes_of_some w hsome, dif_neg hfull, words_of_extract isSpace hsome, List.length_cons,
        if_neg (by omega)]

/-- Past the check of the format. -/
theorem format_iff {fmt : List Char} :
    (¬ (fmt ≠ "EXT".toList ∧ fmt ≠ "STD".toList)) ↔
      fmt = formatText (decide (fmt = "EXT".toList)) := by
  by_cases hext : fmt = "EXT".toList
  · refine iff_of_true (fun h => h.1 hext) ?_
    rw [decide_eq_true hext]
    exact hext
  · rw [decide_eq_false hext, not_and, not_not]
    exact ⟨fun h => h hext, fun h _ => h⟩

theorem decide_formatText (isExt : Bool) : decide (formatText isExt = "EXT".toList) = isExt := by
  cases isExt <;> decide

/-- The length field, the words and the bytes of a line with four fields and a known format. -/
theorem parseLine_of_fields {w : LongWidth} {line id dlc hex : List Char} {isExt : Bool}
    (h : fields line = [formatText isExt, id, dlc, hex]) (lineNo : ℕ) (out f : Frame) :
    parseLine w line lineNo out = .ok f ↔
      leadingInt 10 dlc = (words isSpace hex).length ∧
        (words isSpace hex).length ≤ twaiFrameMaxDlc ∧
        f = Record.frame ⟨isExt, UInt32.ofNat (strtoul w 16 id),
          (words isSpace hex).map (byteRead w)⟩ lineNo out := by
  have hformat : ¬ (formatText isExt ≠ "EXT".toList ∧ formatText isExt ≠ "STD".toList) := by
    rw [format_iff, decide_formatText]
  have hmax8 : twaiFrameMaxDlc = 8 := rfl
  unfold parseLine
  rw [h]
  dsimp only
  rw [if_neg hformat, decide_formatText, readBytes_eq w hex 0 (Nat.zero_le _), Nat.zero_add,
    overwriteFrom_zero]
  generalize hlen : (words isSpace hex).length = len
  by_cases hroom : len ≤ twaiFrameMaxDlc
  · -- a count this small is read as it is by either width of `long`
    have hsmall : strtol w 10 dlc = len ↔ leadingInt 10 dlc = len :=
      strtol_eq_iff (Int.natCast_nonneg len) (by omega)
    rw [if_pos hroom, ← hsmall]
    generalize strtol w 10 dlc = v
    by_cases hv : v = len
    · subst hv
      have hbytes : ((words isSpace hex).map (byteRead w)).length = len := by
        rw [List.length_map, hlen]
      have hrange : ¬ ((len : ℤ) < 0 ∨ (twaiFrameMaxDlc : ℤ) < len) := by omega
      rw [if_neg hrange]
      dsimp only
      rw [if_neg (not_not.mpr rfl), Int.toNat_natCast, Except.ok.injEq, Record.frame, hbytes]
      simp only [hroom, true_and]
      exact eq_comm
    · refine iff_of_false ?_ fun h => hv h.1
      split
      · simp
      · dsimp only
        rw [if_pos (Ne.symm hv)]
        simp
  · rw [if_neg hroom]
    split
    · simp [hroom]
    · simp [hroom]

/-- **What the parser accepts.** -/
theorem parseLine_eq_ok_iff (w : LongWidth) (line : List Char) (lineNo : ℕ) (out f : Frame) :
    parseLine w line lineNo out = .ok f ↔
      ∃ r, Reads w (fields line) r ∧ f = r.frame lineNo out := by
  constructor
  · intro h
    have hparse := h
    unfold parseLine at hparse
    split at hparse
    · rename_i fmt id dlc hex hfields
      by_cases hformat : fmt ≠ "EXT".toList ∧ fmt ≠ "STD".toList
      · rw [if_pos hformat] at hparse
        cases hparse
      · rw [format_iff.mp hformat] at hfields
        obtain ⟨hdlc, hmax, hf⟩ := (parseLine_of_fields hfields lineNo out f).mp h
        rw [hfields]
        exact ⟨_, .mk _ hdlc hmax, hf⟩
    · cases hparse
  · rintro ⟨r, hreads, hf⟩
    generalize hfields : fields line = fs at hreads
    cases hreads with
    | mk isExt hdlc hmax => exact (parseLine_of_fields hfields lineNo out f).mpr ⟨hdlc, hmax, hf⟩

/-! ## What the grammar accepts -/

theorem HexId.read {w : LongWidth} {tok : List Char} {id : UInt32} (h : HexId tok id) :
    UInt32.ofNat (strtoul w 16 tok) = id := by
  obtain ⟨ds, htok, hds⟩ := h
  have hread : strtoul w 16 tok = id.toNat := by
    rcases htok with rfl | rfl | rfl
    · exact hds.strtoul id.toNat_lt
    · exact strtoul_of_subject (subject_prefixed (.inl rfl) hds.ne_nil hds.digits) hds.value
        id.toNat_lt
    · exact strtoul_of_subject (subject_prefixed (.inr rfl) hds.ne_nil hds.digits) hds.value
        id.toNat_lt
  rw [hread, UInt32.ofNat_toNat]

theorem HexByte.read {w : LongWidth} {tok : List Char} {b : UInt8} (h : HexByte tok b) :
    byteRead w tok = b := by
  have hsmall : b.toNat < 2 ^ 32 := Nat.lt_trans b.toNat_lt (by decide)
  rw [byteRead, h.2.strtoul hsmall, UInt8.ofNat_toNat]

theorem map_byteRead {w : LongWidth} {toks : List (List Char)} {bytes : List UInt8}
    (h : List.Forall₂ HexByte toks bytes) : toks.map (byteRead w) = bytes := by
  induction h with
  | nil => rfl
  | cons hb _ ih => rw [List.map_cons, hb.read, ih]

/-- The bytes of well-formed tokens are those the parser reads. -/
theorem forall₂_hexByte_iff (w : LongWidth) (toks : List (List Char)) (bytes : List UInt8) :
    List.Forall₂ HexByte toks bytes ↔
      toks.map (byteRead w) = bytes ∧ ∀ tok ∈ toks, ∃ b, HexByte tok b := by
  constructor
  · intro h
    have hmap := map_byteRead (w := w) h
    refine ⟨hmap, fun tok htok => ⟨byteRead w tok, ?_⟩⟩
    rw [← hmap, List.forall₂_map_right_iff, List.forall₂_same] at h
    exact h tok htok
  · rintro ⟨rfl, h⟩
    rw [List.forall₂_map_right_iff, List.forall₂_same]
    intro tok htok
    obtain ⟨b, hb⟩ := h tok htok
    rw [hb.read]
    exact hb

/-- **The grammar is the shape with clean numerals**, and then the parser reads what it says. -/
theorem writes_iff (w : LongWidth) (fs : List (List Char)) (r : Record) :
    Writes fs r ↔ Reads w fs r ∧ Clean fs := by
  constructor
  · rintro ⟨hid, hdlc, hmax, hbytes⟩
    rename_i id dlc hex
    obtain ⟨hmap, hclean⟩ := (forall₂_hexByte_iff w _ _).mp hbytes
    refine ⟨?_, ⟨r.id, hid⟩, ⟨_, hdlc⟩, hclean⟩
    have hlen : (words isSpace hex).length = r.bytes.length := by
      rw [← hmap, List.length_map]
    rw [← hlen] at hmax hdlc
    have hreads : Reads w [formatText r.isExt, id, dlc, hex] _ := .mk r.isExt hdlc.leadingInt hmax
    rw [hid.read, hmap] at hreads
    exact hreads
  · rintro ⟨⟨isExt, hdlc, hmax⟩, hclean⟩
    rename_i id dlc hex
    cases hclean with
    | mk hid hnum hbytes =>
        obtain ⟨v, hid⟩ := hid
        obtain ⟨k, hnum⟩ := hnum
        -- a clean length is the number the field begins with
        have hk : k = (words isSpace hex).length := by
          rw [hnum.leadingInt] at hdlc
          exact Int.ofNat_inj.mp hdlc
        rw [← hid.read (w := w)] at hid
        have hforall := (forall₂_hexByte_iff w _ _).mpr ⟨rfl, hbytes⟩
        rw [hk] at hnum
        rw [← List.length_map (byteRead w)] at hnum hmax
        let r : Record :=
          ⟨isExt, UInt32.ofNat (strtoul w 16 id), (words isSpace hex).map (byteRead w)⟩
        exact Writes.mk (r := r) hid hnum hmax hforall

theorem Writes.length_eq {fs : List (List Char)} {r : Record} (h : Writes fs r) : fs.length = 4 := by
  cases h
  rfl

theorem Shape.length_eq {fs : List (List Char)} (h : Shape fs) : fs.length = 4 := by
  cases h
  rfl

/-! ## The separator at the end -/

theorem fields_nil : fields [] = [] := by
  rw [fields, getlines_nil]
  rfl

theorem fields_concat (line : List Char) : fields (line ++ ['|']) = separated line := by
  rw [fields, getlines_concat, separated]

theorem separated_concat (line : List Char) :
    separated (line ++ ['|']) = separated line ++ [[]] := by
  rw [separated, List.splitOn_append_cons_self, List.splitOn_nil, List.map_append]
  rfl

theorem not_shape_nil : ¬ Shape (separated []) := by
  intro h
  exact absurd h.length_eq (by decide)

/-- Without a separator at the end the parser sees all fields. -/
theorem reads_fields_iff (w : LongWidth) {line : List Char} (hlast : line.getLast? ≠ some '|')
    (r : Record) : Reads w (fields line) r ↔ Reads w (separated line) r := by
  by_cases hline : line = []
  · subst hline
    rw [fields_nil]
    refine iff_of_false ?_ fun h => not_shape_nil ((shape_iff w _).mpr ⟨r, h⟩)
    intro h
    exact absurd ((shape_iff w _).mpr ⟨r, h⟩).length_eq (by decide)
  · rw [fields, getlines_of_getLast '|' hline hlast, separated]

/-- A line that ends with a separator is one field longer than the parser sees, so the two never
agree to accept it. -/
theorem not_shape_of_writes {front : List Char} {r : Record}
    (h : Writes (separated (front ++ ['|'])) r) : ¬ Shape (separated front) := by
  intro hshape
  have hlen := h.length_eq
  rw [separated_concat, List.length_append, hshape.length_eq] at hlen
  exact absurd hlen (by decide)

theorem tidy_of_readAsWritten {w : LongWidth} {line : List Char} (h : ReadAsWritten w line) :
    Tidy line := by
  unfold Tidy
  by_cases hlast : line.getLast? = some '|'
  · rw [if_pos hlast]
    obtain ⟨front, rfl⟩ := List.getLast?_eq_some_iff.mp hlast
    rw [List.dropLast_concat]
    -- the parser does not see the last `|`, so it reads what is in front of it
    constructor
    · rintro ⟨r, hwrites⟩
      have hparse := (h 0 .init _).mpr ⟨r, hwrites, rfl⟩
      rw [parseLine_eq_ok_iff, fields_concat] at hparse
      obtain ⟨r', hreads, -⟩ := hparse
      exact not_shape_of_writes hwrites ((shape_iff w _).mpr ⟨r', hreads⟩)
    · intro hshape
      obtain ⟨r, hreads⟩ := (shape_iff w _).mp hshape
      rw [← fields_concat] at hreads
      obtain ⟨r', hwrites, -⟩ := (h 0 .init _).mp ((parseLine_eq_ok_iff ..).mpr ⟨r, hreads, rfl⟩)
      exact not_shape_of_writes hwrites hshape
  · rw [if_neg hlast]
    intro hshape
    obtain ⟨r, hreads⟩ := (shape_iff w _).mp hshape
    rw [← reads_fields_iff w hlast] at hreads
    obtain ⟨r', hwrites, -⟩ := (h 0 .init _).mp ((parseLine_eq_ok_iff ..).mpr ⟨r, hreads, rfl⟩)
    exact ((writes_iff w _ _).mp hwrites).2

theorem readAsWritten_of_tidy (w : LongWidth) {line : List Char} (h : Tidy line) :
    ReadAsWritten w line := by
  unfold Tidy at h
  intro lineNo out f
  rw [parseLine_eq_ok_iff]
  by_cases hlast : line.getLast? = some '|'
  · rw [if_pos hlast] at h
    obtain ⟨front, rfl⟩ := List.getLast?_eq_some_iff.mp hlast
    rw [List.dropLast_concat] at h
    rw [fields_concat]
    refine iff_of_false ?_ ?_
    · rintro ⟨r, hreads, -⟩
      exact h.2 ((shape_iff w _).mpr ⟨r, hreads⟩)
    · rintro ⟨r, hwrites, -⟩
      exact h.1 ⟨r, hwrites⟩
  · rw [if_neg hlast] at h
    constructor
    · rintro ⟨r, hreads, hf⟩
      rw [reads_fields_iff w hlast] at hreads
      have hclean := h ((shape_iff w _).mpr ⟨r, hreads⟩)
      exact ⟨r, (writes_iff w _ _).mpr ⟨hreads, hclean⟩, hf⟩
    · rintro ⟨r, hwrites, hf⟩
      exact ⟨r, (reads_fields_iff w hlast r).mpr ((writes_iff w _ _).mp hwrites).1, hf⟩

/-- **When a log line is read as it is written.** For every line: the parser accepts it exactly if
it is four fields of the grammar, with exactly the values written there, if and only if the line is
tidy. -/
theorem log_line_read_as_written_iff (w : LongWidth) (line : List Char) :
    ReadAsWritten w line ↔ Tidy line :=
  ⟨tidy_of_readAsWritten, readAsWritten_of_tidy w⟩

/-- A byte token that is no number is read as 0. -/
theorem word_read_as_zero : ¬ ReadAsWritten .bits64 "EXT | 0xE000 | 1 | GG".toList := by
  intro h
  have htidy := tidy_of_readAsWritten h
  have hfields : separated "EXT | 0xE000 | 1 | GG".toList =
      [formatText true, "0xE000".toList, "1".toList, "GG".toList] := by decide
  rw [Tidy, if_neg (by decide), hfields] at htidy
  cases htidy (.mk true (by decide) (by decide)) with
  | mk hid hdlc hbytes =>
      obtain ⟨b, -, hnum⟩ := hbytes "GG".toList (by decide)
      exact absurd (hnum.digits 'G' (by decide)) (by decide)

end TfnAks.Can.Sniffer
