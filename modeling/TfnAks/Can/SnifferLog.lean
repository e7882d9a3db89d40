/-
# TfnAks.Can.SnifferLog — the parser of recorded CAN sessions

`tools/can_replay/can_replay.cpp`, from the lines of a log to the frames the checks run on. A line
is a list of characters, one for each byte. The frame a rejected line leaves half filled is thrown
away by the caller and not part of the result. Messages are those of the host stub; its `flags`,
here `extd`, are left alone by the parser.

The width of `long` depends on the host and is a parameter.
-/
import Mathlib.Data.List.DropRight
import TfnAks.Can.CanParse
import TfnAks.Lib.CText

namespace TfnAks.Can.Sniffer

open TfnAks.Lib.CText

/-- `TWAI_FRAME_MAX_DLC` -/
def twaiFrameMaxDlc : ℕ := 8

/-- A frame of a log, with the number of its line. -/
structure Frame where
  isExt : Bool
  id : UInt32
  msg : TwaiMessage
  lineNo : ℕ
  deriving DecidableEq

/-- `Frame f;` -/
def Frame.init : Frame := ⟨false, 0, ⟨false, 0, 0, Vector.replicate 8 0⟩, 0⟩

/-- The characters `trim` takes off. -/
def trimSpaces : List Char := " \t\r\n".toList

/-- The text without white space at its ends. -/
def trim (s : List Char) : List Char :=
  (s.dropWhile (trimSpaces.contains ·)).rdropWhile (trimSpaces.contains ·)

/-- `parts`: the trimmed fields of a line. -/
def fields (line : List Char) : List (List Char) := (getlines '|' line).map trim

/-- `while (hs >> byteStr)`: the number of bytes read and the data with them in it. -/
def readBytes (w : LongWidth) (hs : List Char) (n : ℕ) (data : Vector UInt8 8) :
    Except String (ℕ × Vector UInt8 8) :=
  match _h : extract isSpace hs with
  | none => .ok (n, data)
  | some (byteStr, rest) =>
    if hn : n < twaiFrameMaxDlc then
      readBytes w rest (n + 1) (data.set n (UInt8.ofNat (strtoul w 16 byteStr)) hn)
    else .error "8'den fazla veri byte'i"
termination_by hs.length
decreasing_by exact length_of_extract isSpace _h

/-- The line parser. It fills `out`; with an error it gives the message. -/
def parseLine (w : LongWidth) (line : List Char) (lineNo : ℕ) (out : Frame) :
    Except String Frame :=
  match fields line with
  | [fmt, id, dlc, hex] =>
    if fmt ≠ "EXT".toList ∧ fmt ≠ "STD".toList then
      .error ("bilinmeyen frame formati: '" ++ String.ofList fmt ++ "'")
    else
      let isExt := decide (fmt = "EXT".toList)
      -- no end pointer: what follows the digits is not looked at
      let id := UInt32.ofNat (strtoul w 16 id)
      let dlcValue := strtol w 10 dlc
      if dlcValue < 0 ∨ twaiFrameMaxDlc < dlcValue then
        .error ("gecersiz DLC: " ++ String.ofList dlc)
      else
        -- bytes behind the last one read stay as they are in `out`
        match readBytes w hex 0 out.msg.data with
        | .error err => .error err
        | .ok (n, data) =>
          if (n : ℤ) ≠ dlcValue then
            .error ("DLC=" ++ toString dlcValue ++ " ama " ++ toString n ++ " hex byte var")
          else
            .ok
              { isExt := isExt
                id := id
                msg :=
                  { out.msg with
                    identifier := id
                    dataLengthCode := UInt8.ofNat dlcValue.toNat
                    data := data }
                lineNo := lineNo }
  | parts =>
    .error ("beklenen 4 alan (FMT|ID|DLC|HEX), bulunan " ++ toString parts.length)

/-! ## A log -/

/-- What `main` keeps of a log: the frames for the checks, and the line number and error of each
line reported as corrupt. -/
structure LogResult where
  frames : List Frame
  badLines : List (ℕ × String)

/-- A line without content: blank, or a comment. -/
def skipped (t : List Char) : Bool := t.isEmpty || t.head? = some '#'

/-- The body of the loop over the lines. -/
def readLogLine (w : LongWidth) (lineNo : ℕ) (line : List Char) (st : LogResult) : LogResult :=
  let t := trim line
  if skipped t then st
  else
    match parseLine w t lineNo .init with
    | .error err => { st with badLines := st.badLines ++ [(lineNo, err)] }
    | .ok f => { st with frames := st.frames ++ [f] }

/-- The loop over the lines of a file; lines are counted from 1. -/
def readLog (w : LongWidth) (file : List Char) : LogResult :=
  (getlines '\n' file).zipIdx.foldl (fun st x => readLogLine w (x.2 + 1) x.1 st) ⟨[], []⟩

end TfnAks.Can.Sniffer
