/-
  Rows: non-empty sequences of cells, as taken out of a grid.
-/
import Gridscript.Grid.Basic

namespace Gridscript

/-- A sequence of cells. -/
structure Row (α : Type) where
  cells : Array α
deriving DecidableEq

namespace Row

variable {α β : Type}

/-- A row has at least one cell. -/
def WellFormed (r : Row α) : Prop := 0 < r.cells.size

/-- A row from its cells. -/
def ofCells (cells : Array α) : Except GridFault (Row α) :=
  if cells.size = 0 then .error (.shape (.zeroDimension ⟨1, 0⟩)) else .ok ⟨cells⟩

/-- The row with `a` at every place. -/
def constant (length : Nat) (a : α) : Except GridFault (Row α) :=
  ofCells (Array.replicate length a)

def length (r : Row α) : Nat := r.cells.size

def cell? (r : Row α) (index : Nat) : Option α := r.cells[index]?

def get (r : Row α) (index : Nat) : Except GridFault α :=
  match r.cell? index with
  | some a => .ok a
  | none => .error (.outOfBounds .element index r.length)

/-- The row with another cell at a place, if it has that place. -/
def set? (r : Row α) (index : Nat) (a : α) : Option (Row α) :=
  if index < r.cells.size then some ⟨r.cells.setIfInBounds index a⟩ else none

def map (f : α → β) (r : Row α) : Row β := ⟨r.cells.map f⟩

end Row

namespace Grid

variable {α : Type}

/-- A copy of one row of the grid. -/
def row (g : Grid α) (index : Nat) : Except GridFault (Row α) :=
  if g.rows ≤ index then .error (.outOfBounds .row index g.rows)
  else .ok ⟨g.cells.extract (index * g.cols) ((index + 1) * g.cols)⟩

end Grid

end Gridscript
