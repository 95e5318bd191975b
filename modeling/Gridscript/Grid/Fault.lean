/-
  Failures of operations on grids: files that cannot be used, text that holds no grid, shapes
  that do not fit, and positions outside of the grid. `GridFault.message` gives the wording,
  `GridFault.causes` the wording of the fault followed by that of the faults under it.
-/
import Gridscript.Folder.Fault

namespace Gridscript

/-- Number of rows and number of columns. -/
structure Shape where
  rows : Nat
  cols : Nat
deriving DecidableEq

namespace Shape

def text (s : Shape) : String := s!"{s.rows}x{s.cols}"

/-- A shape with no cells. -/
def isEmpty (s : Shape) : Bool := s.rows == 0 || s.cols == 0

end Shape

/-- Which way a position was counted. -/
inductive Axis where
  | row
  | column
  | element
deriving DecidableEq

def Axis.text : Axis → String
  | row => "row"
  | column => "column"
  | element => "element"

/-- An operation that joins two grids. -/
inductive Joint where
  | multiply
  | add
deriving DecidableEq

def Joint.text : Joint → String
  | multiply => "multiply"
  | add => "add"

/-- Why a text holds no grid. -/
inductive CsvIssue where
  | notInteger (field : String)
  | fieldCount (expected found : Nat)
  | rowCount (expected found : Nat)
  | noRows
deriving DecidableEq

def CsvIssue.message : CsvIssue → String
  | notInteger field => s!"'{field}' is not an integer"
  | fieldCount expected found => s!"expected {expected} fields, found {found}"
  | rowCount expected found => s!"expected {expected} rows, found {found}"
  | noRows => "input contains no rows"

/-- Why a shape does not fit. -/
inductive ShapeFault where
  | incompatible (joint : Joint) (lhs rhs : Shape)
  | cellCount (shape : Shape) (count : Nat)
  | zeroDimension (shape : Shape)
deriving DecidableEq

def ShapeFault.message : ShapeFault → String
  | incompatible joint lhs rhs =>
      s!"incompatible shapes for {joint.text}: {lhs.text} and {rhs.text}"
  | cellCount shape count =>
      s!"invalid shape ({shape.rows}, {shape.cols}) for buffer of length {count}"
  | zeroDimension shape => s!"shape ({shape.rows}, {shape.cols}) has a zero dimension"

/-- Why an operation on grids failed. -/
inductive GridFault where
  | file (path : String) (fault : FileFault)
  | csv (line : Nat) (issue : CsvIssue)
  | shape (fault : ShapeFault)
  | outOfBounds (axis : Axis) (index length : Nat)
deriving DecidableEq

namespace GridFault

def message : GridFault → String
  | file path fault => s!"I/O failure on {path}: {fault.message}"
  | csv line issue => s!"parse failure at line {line}: {issue.message}"
  | shape fault => fault.message
  | outOfBounds axis index length =>
      s!"{axis.text} index {index} out of bounds for length {length}"

/-- The fault, then what lies under it. Only a file fault has a cause of its own. -/
def causes (f : GridFault) : List String :=
  match f with
  | file _ fault => [f.message, fault.message]
  | _ => [f.message]

end GridFault

end Gridscript
