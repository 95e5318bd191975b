/-
  One-shot commands: take grids from files, compute, and write the result to a file or print it.
-/
import Gridscript.Command.Failure
import Gridscript.Folder.Store
import Gridscript.Grid.Algebra
import Gridscript.Script.Token

namespace Gridscript.Command

/-! ## Input -/

/-- The path has the extension of grid files, in any case of letters. -/
def isGridPath (path : String) : Bool :=
  match Path.extension? path with
  | some ext => ext.toList.map Char.toLower == ['c', 's', 'v']
  | none => false

/-- The path is that of a grid file, and something is there. -/
def validate (folder : Folder) (path : String) : Except Failure Unit :=
  if !isGridPath path then .error ⟨[s!"File must have a .csv extension: {path}"]⟩
  else if !folder.has path then .error ⟨[s!"File does not exist: {path}"]⟩
  else .ok ()

/-- The grid in a file that has to be there. -/
def input (folder : Folder) (path : String) : Traced Failure (Grid Scalar) := do
  Traced.lift (validate folder path)
  (folder.loadGrid .i64 path).mapFault fun f =>
    Failure.under s!"Failed to load matrix: {path}" f.causes

/-! ## Computation -/

/-- What to make of one grid. -/
inductive Unary where
  | transpose
  | scale (s : Scalar)
  | shift (s : Scalar)
deriving DecidableEq

namespace Unary

def text : Unary → String
  | transpose => "Transpose"
  | scale s => s!"Scale({s.show})"
  | shift s => s!"Shift({s.show})"

def apply : Unary → Grid Scalar → Grid Scalar
  | transpose, g => g.transpose
  | scale s, g => g.scale s
  | shift s, g => g.shift s

end Unary

/-- How a log line or a message names the operation on two grids. -/
def jointText : Joint → String
  | .multiply => "Multiply"
  | .add => "Add"

def joined : Joint → Grid Scalar → Grid Scalar → Except GridFault (Grid Scalar)
  | .multiply, g, h => g.multiply h
  | .add, g, h => g.add h

/-- The result of an operation on the grid in a file. -/
def unary (folder : Folder) (path : String) (op : Unary) : Traced Failure (Grid Scalar) := do
  let grid ← input folder path
  let result := op.apply grid
  Traced.note .info .gridCommand
    s!"[CsvScript::Matrix] {op.text} {path} -> {result.shape.text}"
  return result

/-- The result of an operation on the grids in two files. -/
def binary (folder : Folder) (left right : String) (op : Joint) :
    Traced Failure (Grid Scalar) := do
  let g ← input folder left
  let h ← input folder right
  let result ← Traced.lift ((joined op g h).mapError fun f =>
    Failure.under s!"Cannot {jointText op} {left} and {right}" f.causes)
  Traced.note .info .gridCommand s!"[CsvScript::Matrix] {jointText op} -> {result.shape.text}"
  return result

/-- A row multiplied by one scalar and added to another, as far as they are given. -/
def adjust (scale shift : Option Scalar) (row : Row Scalar) : Row Scalar :=
  let row := match scale with
    | some s => row.scale s
    | none => row
  match shift with
  | some s => row.shift s
  | none => row

/-- One row of the grid in a file, scaled and shifted as asked. -/
def row (folder : Folder) (path : String) (index : Nat) (scale shift : Option Scalar) :
    Traced Failure (Row Scalar) := do
  let grid ← input folder path
  let row ← Traced.lift ((grid.row index).mapError fun f =>
    Failure.under s!"Cannot extract row {index} of {path}" f.causes)
  return adjust scale shift row

/-! ## Output -/

/-- What an output left behind: the tree and the text that was printed. -/
structure Written where
  folder : Folder
  printed : List Char

/-- Write a grid to a file, or print it when no file is named. -/
def writeGrid (folder : Folder) (grid : Grid Scalar) (output : Option String) :
    Traced Failure Written :=
  match output with
  | none => return ⟨folder, Csv.text grid⟩
  | some path => do
      let folder ← (folder.saveGrid path grid).mapFault fun f =>
        Failure.under s!"Failed to write matrix: {path}" f.causes
      return ⟨folder, []⟩

/-- Write a row as one line to a file, or print it when no file is named. -/
def writeRow (folder : Folder) (row : Row Scalar) (output : Option String) :
    Traced Failure Written :=
  let line := Csv.line row.cells.toList ++ ['\n']
  match output with
  | none => return ⟨folder, line⟩
  | some path => do
      let folder ← Traced.lift ((folder.write path (Utf8.encode line)).mapError fun f =>
        Failure.under "Failed to open output" [f.message])
      return ⟨folder, []⟩

end Gridscript.Command
