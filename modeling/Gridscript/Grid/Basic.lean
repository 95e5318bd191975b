/-
  Rectangular grids.

  A grid is a shape and its cells in row-major order. The constructors refuse a shape without
  cells and a number of cells that is not that of the shape, so all grids that they give are
  `WellFormed`; the type itself is plain data. `cell?` is the view that the other accessors
  are measured by: the cell at a row and a column, if the grid has it.

  Offsets into the cells are words of 64 bits. An accessor that looks at the row and the column
  first never computes one outside of the cells; `rowCells?` does not look at the row, so there
  the width of a word shows.
-/
import Gridscript.Grid.Fault

namespace Gridscript

namespace Overflow

end Overflow

/-- Cells in row-major order under a shape. -/
structure Grid (α : Type) where
  rows : Nat
  cols : Nat
  cells : Array α
deriving DecidableEq

namespace Grid

variable {α β : Type}

/-- At least one row and one column, and one cell for each place of the shape. -/
structure WellFormed (g : Grid α) : Prop where
  rows_pos : 0 < g.rows
  cols_pos : 0 < g.cols
  size_eq : g.cells.size = g.rows * g.cols

def shape (g : Grid α) : Shape := ⟨g.rows, g.cols⟩

/-! ## Construction -/

/-- A grid from its cells in row-major order. -/
def ofCells (shape : Shape) (cells : Array α) : Except GridFault (Grid α) :=
  if shape.isEmpty then .error (.shape (.zeroDimension shape))
  else if cells.size = shape.rows * shape.cols then .ok ⟨shape.rows, shape.cols, cells⟩
  else .error (.shape (.cellCount shape cells.size))

/-- Append rows of length `cols` to `cells`; a row of another length is refused together with
    the number of cells it would have led to. -/
def gather (shape : Shape) (cells : Array α) : List (List α) → Except GridFault (Array α)
  | [] => .ok cells
  | row :: rest =>
      if row.length = shape.cols then gather shape (cells ++ row.toArray) rest
      else .error (.shape (.cellCount shape (cells.size + row.length)))

/-- A grid from its rows, all of the length of the first. -/
def ofRows (rows : List (List α)) : Except GridFault (Grid α) := do
  let shape : Shape := ⟨rows.length, (rows.head?.map List.length).getD 0⟩
  let cells ← gather shape #[] rows
  ofCells shape cells

/-- The grid with `a` at every place. -/
def constant (shape : Shape) (a : α) : Except GridFault (Grid α) :=
  if shape.isEmpty then .error (.shape (.zeroDimension shape))
  else .ok ⟨shape.rows, shape.cols, Array.replicate (shape.rows * shape.cols) a⟩

/-- The grid with `f i j` at row `i` and column `j`. -/
def tabulate (rows cols : Nat) (f : Nat → Nat → α) : Grid α :=
  ⟨rows, cols, Array.ofFn (n := rows * cols) fun k => f (k.val / cols) (k.val % cols)⟩

/-! ## Access -/

/-- The cell at a row and a column, if both lie in the grid. -/
def cell? (g : Grid α) (row col : Nat) : Option α :=
  if row < g.rows ∧ col < g.cols then g.cells[row * g.cols + col]? else none

/-- The cell at a row and a column of a grid known to have it. -/
def cell [Inhabited α] (g : Grid α) (row col : Nat) : α :=
  g.cells.getD (row * g.cols + col) default

/-- The cell at a row and a column. The row is looked at first. -/
def get (g : Grid α) (row col : Nat) : Except GridFault α :=
  if g.rows ≤ row then .error (.outOfBounds .row row g.rows)
  else
    match g.cell? row col with
    | some a => .ok a
    | none => .error (.outOfBounds .column col g.cols)

/-- The rows of the grid. -/
def toRows (g : Grid α) : List (List α) :=
  (List.range g.rows).map fun i => (g.cells.extract (i * g.cols) ((i + 1) * g.cols)).toList

/-- The grid with another cell at a row and a column, if it has that place. -/
def set? (g : Grid α) (row col : Nat) (a : α) : Option (Grid α) :=
  if row < g.rows ∧ col < g.cols ∧ row * g.cols + col < g.cells.size then
    some { g with cells := g.cells.setIfInBounds (row * g.cols + col) a }
  else none

/-- The grid with another cell at a place counted in row-major order, if it has that place. -/
def setFlat? (g : Grid α) (index : Nat) (a : α) : Option (Grid α) :=
  if index < g.cells.size then some { g with cells := g.cells.setIfInBounds index a } else none

/-- The grid of the images of the cells. -/
def map (f : α → β) (g : Grid α) : Grid β := ⟨g.rows, g.cols, g.cells.map f⟩

/-! ## Well-formed grids -/

theorem wellFormed_ofCells {shape : Shape} {cells : Array α} {g : Grid α}
    (h : ofCells shape cells = .ok g) : g.WellFormed := by
  unfold ofCells at h
  split at h
  · cases h
  · rename_i hne
    split at h
    · rename_i hsize
      cases h
      simp only [Shape.isEmpty, Bool.or_eq_true, beq_iff_eq, not_or] at hne
      exact ⟨Nat.pos_of_ne_zero hne.1, Nat.pos_of_ne_zero hne.2, hsize⟩
    · cases h

theorem wellFormed_tabulate {rows cols : Nat} (hr : 0 < rows) (hc : 0 < cols)
    (f : Nat → Nat → α) : (tabulate rows cols f).WellFormed :=
  ⟨hr, hc, Array.size_ofFn⟩

theorem WellFormed.map {g : Grid α} (h : g.WellFormed) (f : α → β) : (g.map f).WellFormed :=
  ⟨h.rows_pos, h.cols_pos, by simpa [Grid.map] using h.size_eq⟩

/-- The offset of a place inside of the shape. -/
theorem offset_lt {rows cols i j : Nat} (hi : i < rows) (hj : j < cols) :
    i * cols + j < rows * cols := by
  have h : (i + 1) * cols ≤ rows * cols := Nat.mul_le_mul_right _ hi
  rw [Nat.succ_mul] at h
  omega

end Grid

end Gridscript
