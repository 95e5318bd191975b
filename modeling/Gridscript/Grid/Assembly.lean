/-
  Grids built row by row.

  An assembly knows the shape of the grid to come and holds the cells of the rows it has taken.
  A row of the wrong length, or one too many, is refused and leaves the assembly as it was.
-/
import Gridscript.Grid.Basic

namespace Gridscript

/-- A grid under construction. -/
structure Assembly (α : Type) where
  shape : Shape
  cells : Array α
  filled : Nat
deriving DecidableEq

namespace Assembly

variable {α : Type}

/-- An assembly that holds no rows. -/
def start (shape : Shape) : Except GridFault (Assembly α) :=
  if shape.isEmpty then .error (.shape (.zeroDimension shape)) else .ok ⟨shape, #[], 0⟩

/-- All rows have been taken. -/
def isComplete (b : Assembly α) : Bool := b.filled == b.shape.rows

/-- Take one more row. The fault names the number of cells that the row would have led to. -/
def push (b : Assembly α) (row : List α) : Except GridFault (Assembly α) :=
  if b.isComplete then
    .error (.shape (.cellCount b.shape ((b.shape.rows + 1) * b.shape.cols)))
  else if row.length = b.shape.cols then
    .ok { b with cells := b.cells ++ row.toArray, filled := b.filled + 1 }
  else .error (.shape (.cellCount b.shape (b.cells.size + row.length)))

/-- Offer one more row to an assembly that is changed in place: whether it was taken, and the
    assembly after it. The cells of the row go to the end of the others before they are counted,
    and if they are not as many as the columns they are cut off again. -/
def offer (b : Assembly α) (row : List α) : Except GridFault Unit × Assembly α :=
  if b.isComplete then
    (.error (.shape (.cellCount b.shape ((b.shape.rows + 1) * b.shape.cols))), b)
  else
    let before := b.cells.size
    let cells := b.cells ++ row.toArray
    let found := cells.size - before
    if found = b.shape.cols then (.ok (), { b with cells := cells, filled := b.filled + 1 })
    else
      (.error (.shape (.cellCount b.shape (before + found))), { b with cells := cells.take before })

/-- The finished grid. Missing rows are reported for the line after the last row taken. -/
def finish (b : Assembly α) : Except GridFault (Grid α) :=
  if b.isComplete then .ok ⟨b.shape.rows, b.shape.cols, b.cells⟩
  else .error (.csv (b.filled + 1) (.rowCount b.shape.rows b.filled))

theorem isComplete_iff (b : Assembly α) : b.isComplete = true ↔ b.filled = b.shape.rows :=
  beq_iff_eq

theorem push_eq_ok_iff (b b' : Assembly α) (row : List α) :
    b.push row = .ok b' ↔
      b.filled ≠ b.shape.rows ∧ row.length = b.shape.cols ∧
        b' = { b with cells := b.cells ++ row.toArray, filled := b.filled + 1 } := by
  unfold push
  constructor
  · intro h
    split at h
    · cases h
    · rename_i hroom
      split at h
      · rename_i hrow
        cases h
        exact ⟨mt b.isComplete_iff.2 hroom, hrow, rfl⟩
      · cases h
  · rintro ⟨hfilled, hrow, rfl⟩
    rw [if_neg (mt b.isComplete_iff.1 hfilled), if_pos hrow]

theorem finish_eq_ok_iff (b : Assembly α) (g : Grid α) :
    b.finish = .ok g ↔ b.filled = b.shape.rows ∧ g = ⟨b.filled, b.shape.cols, b.cells⟩ := by
  unfold finish
  constructor
  · intro h
    split at h
    · rename_i hfull
      cases h
      have hfilled := b.isComplete_iff.1 hfull
      exact ⟨hfilled, by rw [hfilled]⟩
    · cases h
  · rintro ⟨hfilled, rfl⟩
    rw [if_pos (b.isComplete_iff.2 hfilled), hfilled]

end Assembly

end Gridscript
