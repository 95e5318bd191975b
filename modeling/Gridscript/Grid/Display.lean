/-
  Bracketed text of rows and grids: `[1, 2]` and `[[1, 2], [3, 4]]`.
-/
import Gridscript.Element.Decimal
import Gridscript.Grid.Row

namespace Gridscript

/-- Texts in brackets, with a comma and a blank between them. -/
def bracketed (parts : List (List Char)) : List Char :=
  '[' :: [',', ' '].intercalate parts ++ [']']

variable {τ : IntType}

def Row.display (r : Row (Element τ)) : String :=
  String.ofList (bracketed (r.cells.toList.map Element.text))

def Grid.display (g : Grid (Element τ)) : String :=
  String.ofList (bracketed (g.toRows.map fun row => bracketed (row.map Element.text)))

end Gridscript
