/-
  The lines of a text. A line feed ends a line, and a carriage return right before it belongs to
  the ending. What stands after the last line feed is a line if it is not empty.
-/

namespace Gridscript.Text

/-- A line without the carriage return at its end. -/
def withoutReturn (line : List Char) : List Char :=
  if line.getLast? = some '\r' then line.dropLast else line

def lines (text : List Char) : List (List Char) :=
  let pieces := text.splitOn '\n'
  let ended := pieces.dropLast.map withoutReturn
  match pieces.getLast? with
  | none => ended
  | some [] => ended
  | some last => ended ++ [last]

end Gridscript.Text
