/-
  A grid and the list of its rows.

  The rows of a well-formed grid have the length of its columns each, and one after the other
  they are its cells: the grid can be made from them again (`WellFormed.eq_mk_toRows`). Reading a
  cell by its row and column is reading it in a copy of its row (`get_eq_ok_iff`).
-/
import Gridscript.Grid.Row

namespace Gridscript

variable {α : Type}

theorem Row.get_eq_ok_iff (r : Row α) (j : Nat) (a : α) :
    r.get j = .ok a ↔ r.cell? j = some a := by
  unfold Row.get
  split
  · rename_i b hb
    rw [hb, Except.ok.injEq, Option.some.injEq]
  · rename_i hb
    rw [hb]
    exact iff_of_false nofun nofun

namespace Grid

theorem length_toRows (g : Grid α) : g.toRows.length = g.rows := by
  simp [toRows]

/-- The cells of row `i` are those from `i * cols` on. -/
theorem toList_extract_row (g : Grid α) (i : Nat) :
    (g.cells.extract (i * g.cols) ((i + 1) * g.cols)).toList =
      (g.cells.toList.drop (i * g.cols)).take g.cols := by
  have h : (i + 1) * g.cols - i * g.cols = g.cols := by rw [Nat.succ_mul]; omega
  rw [Array.toList_extract, List.extract_eq_take_drop, h]

theorem WellFormed.length_of_mem_toRows {g : Grid α} (h : g.WellFormed) {row : List α}
    (hrow : row ∈ g.toRows) : row.length = g.cols := by
  obtain ⟨i, hi, rfl⟩ := List.mem_map.1 hrow
  have hi := Nat.mul_le_mul_right g.cols (List.mem_range.1 hi)
  rw [toList_extract_row, List.length_take, List.length_drop, Array.length_toList, h.size_eq]
  rw [Nat.succ_mul] at hi
  omega

/-- The first `n` rows are the first `n * cols` cells. -/
theorem flatten_rows_below (g : Grid α) (n : Nat) :
    ((List.range n).map fun i =>
      (g.cells.extract (i * g.cols) ((i + 1) * g.cols)).toList).flatten =
      g.cells.toList.take (n * g.cols) := by
  induction n with
  | zero => simp
  | succ n ih =>
      rw [List.range_succ, List.map_append, List.flatten_append, ih, Nat.succ_mul, List.take_add,
        List.map_singleton, List.flatten_singleton, toList_extract_row]

theorem WellFormed.flatten_toRows {g : Grid α} (h : g.WellFormed) :
    g.toRows.flatten = g.cells.toList := by
  rw [toRows, flatten_rows_below, ← h.size_eq, ← Array.length_toList, List.take_length]

theorem WellFormed.eq_mk_toRows {g : Grid α} (h : g.WellFormed) :
    g = ⟨g.toRows.length, g.cols, g.toRows.flatten.toArray⟩ := by
  rw [length_toRows, h.flatten_toRows, Array.toArray_toList]

/-! ## A cell in its row -/

/-- The row ends where the columns end or the cells do, and so does access by row and column. -/
theorem getElem?_extract_row (g : Grid α) {i : Nat} (hi : i < g.rows) (j : Nat) :
    (g.cells.extract (i * g.cols) ((i + 1) * g.cols))[j]? = g.cell? i j := by
  have hnext : (i + 1) * g.cols = i * g.cols + g.cols := Nat.succ_mul _ _
  rw [Array.getElem?_extract, cell?]
  by_cases hj : j < g.cols
  · rw [if_pos (And.intro hi hj)]
    split
    · rfl
    · exact (Array.getElem?_eq_none (by omega)).symm
  · rw [if_neg (by omega), if_neg (by omega)]

/-- A cell is read by its row and column exactly if it is read in a copy of its row. -/
theorem get_eq_ok_iff (g : Grid α) (i j : Nat) (a : α) :
    g.get i j = .ok a ↔ ∃ r, g.row i = .ok r ∧ r.get j = .ok a := by
  unfold get row
  split
  · exact iff_of_false nofun fun ⟨_, h, _⟩ => (by cases h)
  · rename_i hi
    have hcell := g.getElem?_extract_row (Nat.lt_of_not_le hi) j
    simp only [Except.ok.injEq, exists_eq_left', Row.get_eq_ok_iff, Row.cell?, hcell]
    split
    · rename_i b hb
      rw [hb, Except.ok.injEq, Option.some.injEq]
    · rename_i hb
      rw [hb]
      exact iff_of_false nofun nofun

/-- A row of the images of the cells holds the images of the row. -/
theorem row_map {β : Type} (f : α → β) (g : Grid α) (i : Nat) :
    (g.map f).row i = (g.row i).map (Row.map f) := by
  unfold row Grid.map
  dsimp only
  split
  · rfl
  · rw [← Array.map_extract]
    rfl

end Grid

end Gridscript
