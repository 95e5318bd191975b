/-
  Accesses stay inside of the cells.

  The operations on grids reach into one sequence of cells by offsets that they compute from the
  shape. Here they are written once more with every access checked: `none` stands for an access
  outside of the cells. On well-formed grids each gives what the operation gives, so no offset
  `i * cols + j` leaves the cells, whatever the shapes, and no total access falls back on a
  default.
-/
import Mathlib.Data.List.OfFn
import Gridscript.Proofs.Grid.WellFormed

namespace Gridscript.Checked

variable {α : Type} {τ : IntType}

/-! ## Loops -/

/-- The cells from `start` up to `stop`. -/
def slice (cells : Array α) (start stop : Nat) : Option (Array α) :=
  if start ≤ stop ∧ stop ≤ cells.size then some (cells.extract start stop) else none

/-- The grid with the cell that `f i j` finds at row `i` and column `j`. -/
def tabulate (rows cols : Nat) (f : Nat → Nat → Option α) : Option (Grid α) := do
  let lines ← (List.range rows).mapM fun i => (List.range cols).mapM (f i)
  return ⟨rows, cols, lines.flatten.toArray⟩

theorem mapM_eq_some {ι : Type} {f : ι → Option α} {h : ι → α} {xs : List ι}
    (hf : ∀ x ∈ xs, f x = some (h x)) : xs.mapM f = some (xs.map h) := by
  induction xs with
  | nil => rfl
  | cons x xs ih =>
      rw [List.mapM_cons, hf x List.mem_cons_self,
        ih fun y hy => hf y (List.mem_cons_of_mem _ hy)]
      rfl

theorem foldlM_eq_some {ι : Type} {f : α → ι → Option α} {h : α → ι → α} {xs : List ι}
    (hf : ∀ x ∈ xs, ∀ a, f a x = some (h a x)) (a : α) :
    xs.foldlM f a = some (xs.foldl h a) := by
  induction xs generalizing a with
  | nil => rfl
  | cons x xs ih =>
      rw [List.foldlM_cons, hf x List.mem_cons_self]
      exact ih (fun y hy => hf y (List.mem_cons_of_mem _ hy)) (h a x)

theorem ofFn_eq_map_range (n : Nat) (f : Nat → α) :
    List.ofFn (fun k : Fin n => f k.val) = (List.range n).map f :=
  List.ext_getElem (by simp) (by simp)

/-- The cells of a tabulated grid, row after row. -/
theorem cells_tabulate (rows cols : Nat) (h : Nat → Nat → α) :
    (Grid.tabulate rows cols h).cells =
      ((List.range rows).map fun i => (List.range cols).map (h i)).flatten.toArray := by
  have hplace : ∀ (i : Fin rows) (j : Fin cols),
      h ((i.val * cols + j.val) / cols) ((i.val * cols + j.val) % cols) = h i.val j.val := by
    intro i j
    have hcols : 0 < cols := Nat.lt_of_le_of_lt (Nat.zero_le _) j.isLt
    rw [Nat.mul_comm, Nat.mul_add_div hcols, Nat.div_eq_of_lt j.isLt, Nat.mul_add_mod,
      Nat.mod_eq_of_lt j.isLt, Nat.add_zero]
  rw [Grid.tabulate, ← Array.toList_inj, Array.toList_ofFn, List.ofFn_mul]
  simp only [hplace, ofFn_eq_map_range]
  rw [ofFn_eq_map_range rows fun i => (List.range cols).map (h i)]

theorem tabulate_eq_some {rows cols : Nat} {f : Nat → Nat → Option α} {h : Nat → Nat → α}
    (hf : ∀ i < rows, ∀ j < cols, f i j = some (h i j)) :
    tabulate rows cols f = some (Grid.tabulate rows cols h) := by
  have hlines : ((List.range rows).mapM fun i => (List.range cols).mapM (f i)) =
      some ((List.range rows).map fun i => (List.range cols).map (h i)) :=
    mapM_eq_some fun i hi => mapM_eq_some fun j hj =>
      hf i (List.mem_range.1 hi) j (List.mem_range.1 hj)
  unfold tabulate
  rw [hlines, Option.bind_eq_bind, Option.bind_some, ← cells_tabulate]
  rfl

theorem slice_eq_some {cells : Array α} {start stop : Nat} (h : start ≤ stop)
    (h' : stop ≤ cells.size) : slice cells start stop = some (cells.extract start stop) :=
  if_pos ⟨h, h'⟩

/-! ## Operations -/

/-- The cell at a row and a column; the row is looked at first. -/
def get (g : Grid α) (row col : Nat) : Option (Except GridFault α) :=
  if g.rows ≤ row then some (.error (.outOfBounds .row row g.rows))
  else if g.cols ≤ col then some (.error (.outOfBounds .column col g.cols))
  else (g.cells[row * g.cols + col]?).map .ok

/-- A copy of one row. -/
def row (g : Grid α) (index : Nat) : Option (Except GridFault (Row α)) :=
  if g.rows ≤ index then some (.error (.outOfBounds .row index g.rows))
  else (slice g.cells (index * g.cols) ((index + 1) * g.cols)).map fun cells => .ok ⟨cells⟩

/-- The rows, as pieces of the cells of the length of a row. No pieces have length zero, and
    cells left over at the end are in none. -/
def rows (g : Grid α) : Option (List (List α)) :=
  if g.cols = 0 then none
  else (List.range (g.cells.size / g.cols)).mapM fun i =>
    (slice g.cells (i * g.cols) ((i + 1) * g.cols)).map Array.toList

/-- Rows and columns exchanged. -/
def transpose (g : Grid α) : Option (Grid α) :=
  tabulate g.cols g.rows fun i j => g.cells[j * g.cols + i]?

/-- Sum of the products of a row with column `j` of cells that are `cols` in each row. -/
def dot (row cells : Array (Element τ)) (cols j : Nat) : Option (Element τ) :=
  row.toList.zipIdx.foldlM (fun acc (a, k) => (cells[k * cols + j]?).map (acc + a * ·)) 0

def multiply (g h : Grid (Element τ)) : Option (Except GridFault (Grid (Element τ))) :=
  if g.cols = h.rows then
    (tabulate g.rows h.cols fun i j => do
      let row ← slice g.cells (i * g.cols) ((i + 1) * g.cols)
      dot row h.cells h.cols j).map .ok
  else some (.error (.shape (.incompatible .multiply g.shape h.shape)))

def add (g h : Grid (Element τ)) : Option (Except GridFault (Grid (Element τ))) :=
  if g.shape = h.shape then do
    let cells ← (List.range g.cells.size).mapM fun k => do
      return (← g.cells[k]?) + (← h.cells[k]?)
    return .ok ⟨g.rows, g.cols, cells.toArray⟩
  else some (.error (.shape (.incompatible .add g.shape h.shape)))

/-! ## On well-formed grids -/

section WellFormed

variable {g : Grid α}

theorem cells_offset [Inhabited α] (hg : g.WellFormed) {i j : Nat} (hi : i < g.rows)
    (hj : j < g.cols) : g.cells[i * g.cols + j]? = some (g.cell i j) := by
  have hlt := hg.offset_lt_size hi hj
  simp [Grid.cell, hlt]

theorem slice_row (hg : g.WellFormed) {i : Nat} (hi : i < g.rows) :
    slice g.cells (i * g.cols) ((i + 1) * g.cols) =
      some (g.cells.extract (i * g.cols) ((i + 1) * g.cols)) :=
  slice_eq_some (Nat.mul_le_mul_right _ (Nat.le_succ i)) (hg.row_end_le hi)

theorem get_eq_some (hg : g.WellFormed) (i j : Nat) : get g i j = some (g.get i j) := by
  unfold get Grid.get Grid.cell?
  split
  · rfl
  · rename_i hi
    have hi := Nat.lt_of_not_le hi
    split
    · rename_i hj
      rw [if_neg fun h => Nat.not_lt_of_le hj h.2]
    · rename_i hj
      have hj := Nat.lt_of_not_le hj
      rw [if_pos ⟨hi, hj⟩, Array.getElem?_eq_getElem (hg.offset_lt_size hi hj)]
      rfl

theorem row_eq_some (hg : g.WellFormed) (i : Nat) : row g i = some (g.row i) := by
  unfold row Grid.row
  split
  · rfl
  · rename_i hi
    rw [slice_row hg (Nat.lt_of_not_le hi)]
    rfl

theorem rows_eq_some (hg : g.WellFormed) : rows g = some g.toRows := by
  have hcount : g.cells.size / g.cols = g.rows := by
    rw [hg.size_eq, Nat.mul_div_cancel _ hg.cols_pos]
  unfold rows Grid.toRows
  rw [if_neg (Nat.ne_of_gt hg.cols_pos), hcount]
  refine mapM_eq_some fun i hi => ?_
  rw [slice_row hg (List.mem_range.1 hi)]
  rfl

theorem transpose_eq_some [Inhabited α] (hg : g.WellFormed) :
    transpose g = some g.transpose :=
  tabulate_eq_some fun _ hi _ hj => cells_offset hg hj hi

end WellFormed

section Algebra

variable {g h : Grid (Element τ)}

/-- The cells of a row, one by one. -/
theorem toList_row {α : Type} [Inhabited α] {g : Grid α} (hg : g.WellFormed) {i : Nat}
    (hi : i < g.rows) :
    (g.cells.extract (i * g.cols) ((i + 1) * g.cols)).toList =
      (List.range g.cols).map fun k => g.cell i k := by
  have hend := hg.row_end_le hi
  have hlen : (i + 1) * g.cols - i * g.cols = g.cols := by rw [Nat.succ_mul]; omega
  refine List.ext_getElem ?_ fun k hk hk' => ?_
  · rw [Array.length_toList, Array.size_extract, Nat.min_eq_left hend, hlen, List.length_map,
      List.length_range]
  · have hlt := hg.offset_lt_size hi (by simpa using hk')
    simp [Grid.cell, hlt]

theorem zipIdx_map_range {α : Type} (n : Nat) (f : Nat → α) :
    ((List.range n).map f).zipIdx = (List.range n).map fun k => (f k, k) :=
  List.ext_getElem (by simp) (by simp)

theorem dot_eq_some (hg : g.WellFormed) (hh : h.WellFormed) (hgh : g.cols = h.rows) {i j : Nat}
    (hi : i < g.rows) (hj : j < h.cols) :
    dot (g.cells.extract (i * g.cols) ((i + 1) * g.cols)) h.cells h.cols j =
      some (Grid.dot g.cols (fun k => g.cell i k) fun k => h.cell k j) := by
  unfold dot Grid.dot
  rw [toList_row hg hi, zipIdx_map_range, List.foldlM_map]
  refine foldlM_eq_some (fun k hk acc => ?_) 0
  have hk : k < h.rows := by
    rw [← hgh]
    exact List.mem_range.1 hk
  show (h.cells[k * h.cols + j]?).map (acc + g.cell i k * ·) = _
  rw [cells_offset hh hk hj]
  rfl

theorem multiply_eq_some (hg : g.WellFormed) (hh : h.WellFormed) :
    multiply g h = some (g.multiply h) := by
  unfold multiply Grid.multiply
  split
  · rename_i hgh
    rw [tabulate_eq_some fun i hi j hj => ?_]
    · rfl
    · rw [slice_row hg hi]
      exact dot_eq_some hg hh hgh hi hj
  · rfl

theorem add_eq_some (hg : g.WellFormed) (hh : h.WellFormed) : add g h = some (g.add h) := by
  unfold add Grid.add
  split
  · rename_i hshape
    have hsize := hg.size_eq_of_shape hh hshape
    have hcells : ((List.range g.cells.size).mapM fun k => do
        return (← g.cells[k]?) + (← h.cells[k]?)) =
        some ((List.range g.cells.size).map fun k => g.cells.getD k 0 + h.cells.getD k 0) := by
      refine mapM_eq_some fun k hk => ?_
      have hk := List.mem_range.1 hk
      simp [hk, hsize]
    have hsum : (List.range g.cells.size).map (fun k => g.cells.getD k 0 + h.cells.getD k 0) =
        (Array.zipWith (· + ·) g.cells h.cells).toList := by
      refine List.ext_getElem (by simp [hsize]) fun k hk hk' => ?_
      have hk : k < g.cells.size := by simpa using hk
      simp [hk, hsize]
    rw [hcells, hsum]
    rfl
  · rfl

end Algebra

end Gridscript.Checked
