/-
  One grid behind all accessors.

  A cell can be read with a check that reports the axis, with a check of both axes at once, out
  of a slice of the cells, out of a copy of its row, and out of the list of all rows, whether that
  is made row by row or by cutting the cells into pieces of one length. Each computes where the
  cell stands in its own way. On a well-formed grid they all give what `cell?` gives
  (`WellFormed.seen`), with one exception: the slice is taken without a look at the row. Where
  the offset of the row is no word the program either stops, and nothing is seen, or goes on with
  what is left of the offset (`rowSlice?_wraps`). Then a row outside of the grid is seen wherever
  a row's worth of cells follows (`rowCells?_eq_some_iff`). The offset of a place determines the
  place (`offset_inj`), so another cell at one place is seen there and nowhere else
  (`cell?_of_set?`).
-/
import Gridscript.Proofs.Grid.Access
import Gridscript.Proofs.Grid.Assembly

namespace Gridscript.Grid

variable {α : Type}

end Gridscript.Grid
