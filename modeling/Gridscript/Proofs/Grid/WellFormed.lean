/-
  Operations that keep grids, rows and assemblies well formed.

  A grid is made with a check, or from grids and assemblies that are well formed already and
  then without one. So every operation gives a well-formed grid or row if its operands are, and
  an assembly holds as many cells as the rows it has taken.
-/
import Gridscript.Csv.Table
import Gridscript.Grid.Algebra
import Gridscript.Grid.Room
import Gridscript.Proofs.Outcome

namespace Gridscript

theorem Shape.isEmpty_eq_false_iff (s : Shape) : s.isEmpty = false ↔ 0 < s.rows ∧ 0 < s.cols := by
  simp only [isEmpty, Bool.or_eq_false_iff, beq_eq_false_iff_ne]
  omega

variable {α β : Type} {τ : IntType}

/-! ## Grids -/

namespace Grid

theorem wellFormed_ofRows {rows : List (List α)} {g : Grid α} (h : ofRows rows = .ok g) :
    g.WellFormed := by
  obtain ⟨cells, -, h⟩ := (Outcome.bind_eq_ok_iff _ _ _).1 h
  exact wellFormed_ofCells h

theorem wellFormed_constant {shape : Shape} {a : α} {g : Grid α}
    (h : constant shape a = .ok g) : g.WellFormed := by
  unfold constant at h
  split at h
  · cases h
  · rename_i hne
    obtain ⟨hr, hc⟩ := (Shape.isEmpty_eq_false_iff shape).1 (Bool.eq_false_iff.2 hne)
    cases h
    exact ⟨hr, hc, Array.size_replicate⟩

theorem WellFormed.transpose [Inhabited α] {g : Grid α} (h : g.WellFormed) :
    g.transpose.WellFormed :=
  wellFormed_tabulate h.cols_pos h.rows_pos _

theorem WellFormed.multiply {g h p : Grid (Element τ)} (hg : g.WellFormed) (hh : h.WellFormed)
    (hp : g.multiply h = .ok p) : p.WellFormed := by
  unfold Grid.multiply at hp
  split at hp
  · cases hp
    exact wellFormed_tabulate hg.rows_pos hh.cols_pos _
  · cases hp

theorem WellFormed.size_eq_of_shape {g : Grid α} {h : Grid β} (hg : g.WellFormed)
    (hh : h.WellFormed) (hshape : g.shape = h.shape) : h.cells.size = g.cells.size := by
  obtain ⟨hr, hc⟩ := Shape.mk.inj hshape
  rw [hg.size_eq, hh.size_eq, hr, hc]

theorem WellFormed.add {g h p : Grid (Element τ)} (hg : g.WellFormed) (hh : h.WellFormed)
    (hp : g.add h = .ok p) : p.WellFormed := by
  unfold Grid.add at hp
  split at hp
  · rename_i hshape
    cases hp
    refine ⟨hg.rows_pos, hg.cols_pos, ?_⟩
    rw [Array.size_zipWith, hg.size_eq_of_shape hh hshape, Nat.min_self]
    exact hg.size_eq
  · cases hp

theorem WellFormed.divide? {g q : Grid (Element τ)} {s : Element τ} (hg : g.WellFormed)
    (hq : g.divide? s = some q) : q.WellFormed := by
  unfold Grid.divide? at hq
  split at hq
  · cases hq
  · cases hq
    exact hg.map _

/-- Another cell at an offset changes neither the shape nor the number of cells. -/
theorem WellFormed.setIfInBounds {g : Grid α} (hg : g.WellFormed) (k : Nat) (a : α) :
    ({ g with cells := g.cells.setIfInBounds k a } : Grid α).WellFormed :=
  ⟨hg.rows_pos, hg.cols_pos, Array.size_setIfInBounds.trans hg.size_eq⟩

theorem WellFormed.set? {g g' : Grid α} {i j : Nat} {a : α} (hg : g.WellFormed)
    (h : g.set? i j a = some g') : g'.WellFormed := by
  unfold Grid.set? at h
  split at h
  · cases h
    exact hg.setIfInBounds _ a
  · cases h

theorem WellFormed.setFlat? {g g' : Grid α} {k : Nat} {a : α} (hg : g.WellFormed)
    (h : g.setFlat? k a = some g') : g'.WellFormed := by
  unfold Grid.setFlat? at h
  split at h
  · cases h
    exact hg.setIfInBounds _ a
  · cases h

/-- The offset of a place lies before the end of the cells. -/
theorem WellFormed.offset_lt_size {g : Grid α} (hg : g.WellFormed) {i j : Nat} (hi : i < g.rows)
    (hj : j < g.cols) : i * g.cols + j < g.cells.size := by
  rw [hg.size_eq]
  exact offset_lt hi hj

/-- The last cell of a row stands before the end of the cells. -/
theorem WellFormed.row_end_le {g : Grid α} (hg : g.WellFormed) {i : Nat} (hi : i < g.rows) :
    (i + 1) * g.cols ≤ g.cells.size := by
  rw [hg.size_eq]
  exact Nat.mul_le_mul_right _ hi

theorem WellFormed.row {g : Grid α} {i : Nat} {r : Row α} (hg : g.WellFormed)
    (h : g.row i = .ok r) : r.WellFormed := by
  unfold Grid.row at h
  split at h
  · cases h
  · rename_i hi
    have hle := hg.row_end_le (Nat.lt_of_not_le hi)
    have hcols := hg.cols_pos
    cases h
    unfold Row.WellFormed
    rw [Array.size_extract, Nat.min_eq_left hle, Nat.succ_mul]
    omega

end Grid

/-! ## Rows -/

namespace Row

theorem wellFormed_ofCells {cells : Array α} {r : Row α} (h : ofCells cells = .ok r) :
    r.WellFormed := by
  unfold ofCells at h
  split at h
  · cases h
  · cases h
    exact Nat.pos_of_ne_zero ‹_›

theorem WellFormed.map {r : Row α} (hr : r.WellFormed) (f : α → β) : (r.map f).WellFormed := by
  unfold WellFormed Row.map
  rw [Array.size_map]
  exact hr

theorem WellFormed.divide? {r q : Row (Element τ)} {s : Element τ} (hr : r.WellFormed)
    (hq : r.divide? s = some q) : q.WellFormed := by
  unfold Row.divide? at hq
  split at hq
  · cases hq
  · cases hq
    exact hr.map _

theorem WellFormed.set? {r r' : Row α} {k : Nat} {a : α} (hr : r.WellFormed)
    (h : r.set? k a = some r') : r'.WellFormed := by
  unfold Row.set? at h
  split at h
  · cases h
    unfold WellFormed
    rw [Array.size_setIfInBounds]
    exact hr
  · cases h

end Row

/-! ## Assemblies -/

namespace Assembly

/-- The shape has cells, and the cells are those of the rows taken, which are not too many. -/
structure WellFormed (b : Assembly α) : Prop where
  rows_pos : 0 < b.shape.rows
  cols_pos : 0 < b.shape.cols
  size_eq : b.cells.size = b.filled * b.shape.cols
  filled_le : b.filled ≤ b.shape.rows

theorem wellFormed_start {shape : Shape} {b : Assembly α} (h : start shape = .ok b) :
    b.WellFormed := by
  unfold start at h
  split at h
  · cases h
  · rename_i hne
    obtain ⟨hr, hc⟩ := (Shape.isEmpty_eq_false_iff shape).1 (Bool.eq_false_iff.2 hne)
    cases h
    exact ⟨hr, hc, (Nat.zero_mul _).symm, Nat.zero_le _⟩

theorem WellFormed.push {b b' : Assembly α} {row : List α} (hb : b.WellFormed)
    (h : b.push row = .ok b') : b'.WellFormed := by
  obtain ⟨hroom, hrow, rfl⟩ := (push_eq_ok_iff b b' row).1 h
  refine ⟨hb.rows_pos, hb.cols_pos, ?_, ?_⟩
  · simp only [Array.size_append, List.size_toArray]
    rw [hb.size_eq, hrow, Nat.succ_mul]
  · have hle := hb.filled_le
    show b.filled + 1 ≤ b.shape.rows
    omega

theorem WellFormed.finish {b : Assembly α} {g : Grid α} (hb : b.WellFormed)
    (h : b.finish = .ok g) : g.WellFormed := by
  obtain ⟨hfilled, rfl⟩ := (finish_eq_ok_iff b g).1 h
  refine ⟨?_, hb.cols_pos, hb.size_eq⟩
  show 0 < b.filled
  rw [hfilled]
  exact hb.rows_pos

end Assembly

/-! ## Where there is room -/

/-- What is made only where there is room is made as it is anywhere. -/
theorem ok_of_room {ε : Type} {c : Prop} [Decidable c] {x : Except ε α} {a : α}
    (h : (if c then some x else none).bind Except.toOption = some a) : x = .ok a := by
  split at h
  · cases x with
    | error e => cases h
    | ok b =>
        cases h
        rfl
  · cases h

theorem Grid.wellFormed_zeros? {shape : Shape} {g : Grid (Element τ)}
    (h : (Grid.zeros? τ shape).bind Except.toOption = some g) : g.WellFormed :=
  Grid.wellFormed_constant (ok_of_room h)

theorem Row.wellFormed_zeros? {length : Nat} {r : Row (Element τ)}
    (h : (Row.zeros? τ length).bind Except.toOption = some r) : r.WellFormed :=
  Row.wellFormed_ofCells (ok_of_room h)

theorem Assembly.wellFormed_reserve? {shape : Shape} {b : Assembly (Element τ)}
    (h : (Assembly.reserve? τ shape).bind Except.toOption = some b) : b.WellFormed :=
  Assembly.wellFormed_start (ok_of_room h)

/-! ## Loading -/

theorem Assembly.WellFormed.fill {b b' : Assembly (Element τ)} {rs : List Csv.Record}
    (hb : b.WellFormed) (h : Csv.fill b rs = .ok b') : b'.WellFormed := by
  induction rs generalizing b with
  | nil =>
      cases h
      exact hb
  | cons r rs ih =>
      unfold Csv.fill at h
      split at h
      · cases h
      · obtain ⟨row, -, h⟩ := (Outcome.bind_eq_ok_iff _ _ _).1 h
        obtain ⟨b₁, hpush, h⟩ := (Outcome.bind_eq_ok_iff _ _ _).1 h
        exact ih (hb.push hpush) h

theorem Csv.wellFormed_read {text : List Char} {g : Grid (Element τ)}
    (h : Csv.read τ text = .ok g) : g.WellFormed := by
  unfold Csv.read at h
  dsimp only at h
  split at h
  · cases h
  · obtain ⟨b, hstart, h⟩ := (Outcome.bind_eq_ok_iff _ _ _).1 h
    obtain ⟨b', hfill, h⟩ := (Outcome.bind_eq_ok_iff _ _ _).1 h
    exact ((Assembly.wellFormed_start hstart).fill hfill).finish h

theorem Csv.wellFormed_readBytes {bytes : List UInt8} {g : Grid (Element τ)}
    (h : Csv.readBytes τ bytes = .ok g) : g.WellFormed := by
  obtain ⟨text, -, h⟩ := (Outcome.bind_eq_ok_iff _ _ _).1 h
  exact Csv.wellFormed_read h

end Gridscript
