/-
  The shape of comma-separated text, found in one pass.

  A line ends at a line feed, at a carriage return, or at both in this order, which count once.
  There is a row for each line end and one for text after the last of them. The columns are
  those of the first line: one more than its commas, where a comma right before the end of the
  line opens no column.
-/
import Gridscript.Grid.Fault

namespace Gridscript.Csv

def isLineEnd (c : Char) : Bool := c == '\n' || c == '\r'

/-- What is known between two characters: rows so far, columns once there is a row, and
    commas and presence of text on the line that is being read. -/
structure Tally where
  rows : Nat
  cols : Nat
  commas : Nat
  pending : Bool
deriving DecidableEq

namespace Tally

def start : Tally := ⟨0, 0, 0, false⟩

/-- The line that is being read becomes a row. -/
def endLine (s : Tally) : Tally :=
  ⟨s.rows + 1, if s.rows = 0 then s.commas + 1 else s.cols, 0, false⟩

/-- The text ends, or a line end follows. -/
def atEnd : List Char → Bool
  | [] => true
  | c :: _ => isLineEnd c

def run (s : Tally) : List Char → Tally
  | [] => if s.pending then s.endLine else s
  | c :: rest =>
      if c = '\r' ∧ rest.head? = some '\n' then run s rest
      else if isLineEnd c then run s.endLine rest
      else if c = ',' then
        run { s with commas := if atEnd rest then s.commas else s.commas + 1, pending := true } rest
      else run { s with pending := true } rest

end Tally

/-- The shape of a text. -/
def shapeOf (text : List Char) : Shape :=
  let s := Tally.start.run text
  ⟨s.rows, s.cols⟩

end Gridscript.Csv
