/-
  Grids built row by row.

  An assembly stands for the list of the rows that it has taken (`holding`). A row offered to it
  is taken exactly if it has as many cells as there are columns and rows are still missing. The
  cells of any other row are cut off again, and the assembly is what it was (`offer_cases`).
  So whatever rows are offered, and however those that fit stand among those that do not, the rows
  taken are the first that have the right length, up to the number of rows of the shape
  (`taken_holding`), and the assembly holds their cells and no others (`offerAll_holding`).

  An assembly for which room was set aside is the same as any other (`accounts_of_reserve?`).

  A grid made of a list of rows at once and a grid that an assembly makes of them one by one exist
  for the same lists, the tables (`IsTable`), and are the same grid.
-/
import Gridscript.Proofs.Grid.Rows
import Gridscript.Proofs.Grid.WellFormed
import Mathlib.Data.List.Flatten

namespace Gridscript

variable {α : Type}

/-! ## Tables -/

/-- There are rows, and all of them have `cols` cells, at least one. -/
structure IsTable (cols : Nat) (rows : List (List α)) : Prop where
  ne_nil : rows ≠ []
  cols_pos : 0 < cols
  length_eq : ∀ row ∈ rows, row.length = cols

theorem length_flatten_of_forall {cols : Nat} {rows : List (List α)}
    (h : ∀ row ∈ rows, row.length = cols) : rows.flatten.length = rows.length * cols := by
  induction rows with
  | nil => simp
  | cons row rows ih =>
      have hrow : row.length = cols := h row List.mem_cons_self
      have hrows := ih fun other hother => h other (List.mem_cons_of_mem _ hother)
      rw [List.flatten_cons, List.length_append, hrow, hrows, List.length_cons, Nat.succ_mul,
        Nat.add_comm]

namespace Grid

/-- The grid that has these rows one below the other. -/
def stacked (cols : Nat) (rows : List (List α)) : Grid α :=
  ⟨rows.length, cols, rows.flatten.toArray⟩

variable {cols : Nat} {rows : List (List α)}

theorem wellFormed_stacked (h : IsTable cols rows) : (stacked cols rows).WellFormed :=
  ⟨List.length_pos_iff.2 h.ne_nil, h.cols_pos, length_flatten_of_forall h.length_eq⟩

/-- The rows of a grid are those that it was made of. Both lists have the cells of the grid one
    after the other, cut into parts of one length. -/
theorem toRows_stacked (h : IsTable cols rows) : (stacked cols rows).toRows = rows := by
  have hgrid := wellFormed_stacked h
  have hlengths : (stacked cols rows).toRows.map List.length = rows.map List.length := by
    have hleft : (stacked cols rows).toRows.map List.length =
        List.replicate rows.length cols := by
      refine List.eq_replicate_iff.2 ⟨?_, fun n hn => ?_⟩
      · rw [List.length_map, length_toRows]
        rfl
      · obtain ⟨row, hrow, rfl⟩ := List.mem_map.1 hn
        exact hgrid.length_of_mem_toRows hrow
    have hright : rows.map List.length = List.replicate rows.length cols := by
      refine List.eq_replicate_iff.2 ⟨List.length_map _, fun n hn => ?_⟩
      obtain ⟨row, hrow, rfl⟩ := List.mem_map.1 hn
      exact h.length_eq row hrow
    rw [hleft, hright]
  exact List.eq_iff_flatten_eq.2 ⟨hgrid.flatten_toRows, hlengths⟩

/-! ## All rows at once -/

theorem gather_eq_ok_iff (shape : Shape) (cells cells' : Array α) (rows : List (List α)) :
    gather shape cells rows = .ok cells' ↔
      (∀ row ∈ rows, row.length = shape.cols) ∧ cells' = cells ++ rows.flatten.toArray := by
  induction rows generalizing cells with
  | nil =>
      rw [gather, Except.ok.injEq]
      simp [eq_comm]
  | cons row rows ih =>
      rw [gather]
      by_cases hrow : row.length = shape.cols
      · rw [if_pos hrow, ih]
        simp [hrow]
      · rw [if_neg hrow]
        exact iff_of_false nofun fun h => hrow (h.1 row List.mem_cons_self)

/-- The shape that a list of rows is given: as many columns as the first row has cells. -/
def rowsShape (rows : List (List α)) : Shape :=
  ⟨rows.length, (rows.head?.map List.length).getD 0⟩

/-- Rows are a table exactly if their shape has cells and no row is longer or shorter than the
    first. -/
theorem isTable_iff_rowsShape :
    IsTable cols rows ↔
      (rowsShape rows).isEmpty = false ∧ (∀ row ∈ rows, row.length = (rowsShape rows).cols) ∧
        (rowsShape rows).cols = cols := by
  rw [Shape.isEmpty_eq_false_iff]
  constructor
  · intro h
    have hcols : (rowsShape rows).cols = cols := by
      obtain ⟨row, rest, rfl⟩ := List.exists_cons_of_ne_nil h.ne_nil
      exact h.length_eq row List.mem_cons_self
    rw [hcols]
    exact ⟨⟨List.length_pos_iff.2 h.ne_nil, h.cols_pos⟩, h.length_eq, rfl⟩
  · rintro ⟨⟨hrows, hcols⟩, hlength, rfl⟩
    exact ⟨List.length_pos_iff.1 hrows, hcols, hlength⟩

theorem ofCells_eq_ok_iff (shape : Shape) (cells : Array α) (g : Grid α) :
    ofCells shape cells = .ok g ↔
      shape.isEmpty = false ∧ cells.size = shape.rows * shape.cols ∧
        g = ⟨shape.rows, shape.cols, cells⟩ := by
  unfold ofCells
  split
  · rename_i hempty
    exact iff_of_false nofun fun h => absurd (hempty.symm.trans h.1) (by decide)
  · rename_i hempty
    split
    · rename_i hsize
      rw [Except.ok.injEq]
      exact ⟨fun h => ⟨Bool.eq_false_iff.2 hempty, hsize, h.symm⟩, fun h => h.2.2.symm⟩
    · rename_i hsize
      exact iff_of_false nofun fun h => hsize h.2.1

theorem ofRows_eq_ok_iff (rows : List (List α)) (g : Grid α) :
    ofRows rows = .ok g ↔ ∃ cols, IsTable cols rows ∧ g = stacked cols rows := by
  have hbind : ofRows rows = .ok g ↔
      ∃ cells, gather (rowsShape rows) #[] rows = .ok cells ∧
        ofCells (rowsShape rows) cells = .ok g :=
    Outcome.bind_eq_ok_iff _ _ _
  rw [hbind]
  simp only [gather_eq_ok_iff, ofCells_eq_ok_iff, isTable_iff_rowsShape, Array.empty_append]
  constructor
  · rintro ⟨_, ⟨hlength, rfl⟩, hempty, -, rfl⟩
    exact ⟨_, ⟨hempty, hlength, rfl⟩, rfl⟩
  · rintro ⟨_, ⟨hempty, hlength, rfl⟩, rfl⟩
    exact ⟨_, ⟨hlength, rfl⟩, hempty, length_flatten_of_forall hlength, rfl⟩

end Grid

namespace Assembly

/-! ## One row -/

/-- A row that is taken leads to the same assembly in place. -/
theorem offer_of_push {b b' : Assembly α} {row : List α} (h : b.push row = .ok b') :
    b.offer row = (.ok (), b') := by
  obtain ⟨hfilled, hrow, rfl⟩ := (push_eq_ok_iff b b' row).1 h
  have hroom : ¬b.isComplete = true := mt b.isComplete_iff.1 hfilled
  have hfound : (b.cells ++ row.toArray).size - b.cells.size = b.shape.cols := by
    rw [Array.size_append, Nat.add_sub_cancel_left, List.size_toArray, hrow]
  rw [offer, if_neg hroom]
  exact if_pos hfound

/-- A row that is refused is refused in place with the same fault, and what had been done with
    its cells is undone. -/
theorem offer_of_push_error {b : Assembly α} {row : List α} {f : GridFault}
    (h : b.push row = .error f) : b.offer row = (.error f, b) := by
  have hfound : (b.cells ++ row.toArray).size - b.cells.size = row.length := by
    rw [Array.size_append, Nat.add_sub_cancel_left, List.size_toArray]
  have hback : (b.cells ++ row.toArray).take b.cells.size = b.cells := by simp
  unfold push at h
  unfold offer
  split at h
  · rename_i hfull
    cases h
    rw [if_pos hfull]
  · rename_i hroom
    split at h
    · cases h
    · rename_i hrow
      cases h
      rw [if_neg hroom]
      simp only [hfound, if_neg hrow, hback]

/-! ## What an assembly stands for -/

/-- The assembly that has taken these rows. -/
def holding (shape : Shape) (rows : List (List α)) : Assembly α :=
  ⟨shape, rows.flatten.toArray, rows.length⟩

variable {shape : Shape} {held : List (List α)}

theorem start_eq_ok_iff (shape : Shape) (b : Assembly α) :
    start shape = .ok b ↔ shape.isEmpty = false ∧ b = holding shape [] := by
  unfold start
  split
  · rename_i hempty
    exact iff_of_false nofun fun h => absurd (hempty.symm.trans h.1) (by decide)
  · rename_i hempty
    rw [Except.ok.injEq]
    exact ⟨fun h => ⟨Bool.eq_false_iff.2 hempty, h.symm⟩, fun h => h.2.symm⟩

theorem push_holding_iff (shape : Shape) (held : List (List α)) (row : List α)
    (b : Assembly α) :
    (holding shape held).push row = .ok b ↔
      held.length ≠ shape.rows ∧ row.length = shape.cols ∧ b = holding shape (held ++ [row]) := by
  have hcells : (holding shape (held ++ [row])) =
      ⟨shape, held.flatten.toArray ++ row.toArray, held.length + 1⟩ := by
    simp [holding]
  rw [push_eq_ok_iff, hcells]
  rfl

/-- All that can come of a row: it is taken, which takes the right length and a row that is missing,
    or the assembly is what it was. -/
theorem offer_cases (hle : held.length ≤ shape.rows) (row : List α) :
    (held.length < shape.rows ∧ row.length = shape.cols ∧
      (holding shape held).offer row = (.ok (), holding shape (held ++ [row]))) ∨
    (¬(row.length = shape.cols ∧ held.length < shape.rows) ∧
      ∃ f, (holding shape held).offer row = (.error f, holding shape held)) := by
  cases hpush : (holding shape held).push row with
  | ok b =>
      obtain ⟨hroom, hrow, rfl⟩ := (push_holding_iff shape held row b).1 hpush
      exact .inl ⟨by omega, hrow, offer_of_push hpush⟩
  | error f =>
      refine .inr ⟨fun ⟨hrow, hroom⟩ => ?_, f, offer_of_push_error hpush⟩
      have hok := (push_holding_iff shape held row _).2 ⟨Nat.ne_of_lt hroom, hrow, rfl⟩
      rw [hpush] at hok
      cases hok

theorem finish_of_full (h : held.length = shape.rows) :
    (holding shape held).finish = .ok (Grid.stacked shape.cols held) := by
  rw [finish_eq_ok_iff]
  exact ⟨h, rfl⟩

theorem finish_of_missing (h : held.length ≠ shape.rows) :
    (holding shape held).finish =
      .error (.csv (held.length + 1) (.rowCount shape.rows held.length)) := by
  have hcomplete : ¬(holding shape held).isComplete = true := mt (isComplete_iff _).1 h
  rw [finish, if_neg hcomplete]
  rfl

/-! ## Sequences of rows -/

/-- The assembly after rows have been offered in order, whatever came of each. -/
def offerAll (b : Assembly α) (rows : List (List α)) : Assembly α :=
  rows.foldl (fun b row => (b.offer row).2) b

/-- The rows that are taken when rows are offered in order. -/
def taken (b : Assembly α) : List (List α) → List (List α)
  | [] => []
  | row :: rest =>
      if (b.offer row).1 = .ok () then row :: (b.offer row).2.taken rest
      else (b.offer row).2.taken rest

/-- What is taken is told by the lengths alone: the first rows that have the right one, as many as
    are missing. -/
theorem taken_holding (rows : List (List α)) (hle : held.length ≤ shape.rows) :
    (holding shape held).taken rows =
      (rows.filter fun row => row.length = shape.cols).take (shape.rows - held.length) := by
  induction rows generalizing held with
  | nil => simp [taken]
  | cons row rows ih =>
      rw [taken]
      obtain ⟨hroom, hrow, htook⟩ | ⟨hmisfit, f, hrefused⟩ := offer_cases hle row
      · have hnext : (held ++ [row]).length = held.length + 1 := List.length_append
        have hcount : shape.rows - held.length = shape.rows - (held.length + 1) + 1 := by omega
        rw [htook, if_pos rfl, ih (by omega), hnext, hcount,
          List.filter_cons_of_pos (by simpa using hrow), List.take_succ_cons]
      · rw [hrefused, if_neg nofun, ih hle]
        by_cases hrow : row.length = shape.cols
        · -- The row is one too many: none is missing any more.
          have hfull : shape.rows - held.length = 0 := by omega
          rw [hfull, List.take_zero, List.take_zero]
        · rw [List.filter_cons_of_neg (by simpa using hrow)]

/-- An assembly holds the rows that it took, after those that it held before. -/
theorem offerAll_holding (rows : List (List α)) (hle : held.length ≤ shape.rows) :
    (holding shape held).offerAll rows =
      holding shape (held ++ (holding shape held).taken rows) := by
  induction rows generalizing held with
  | nil => simp [offerAll, taken]
  | cons row rows ih =>
      have hstep : (holding shape held).offerAll (row :: rows) =
          ((holding shape held).offer row).2.offerAll rows := rfl
      rw [hstep, taken]
      obtain ⟨hroom, -, htook⟩ | ⟨-, f, hrefused⟩ := offer_cases hle row
      · have hnext : (held ++ [row]).length ≤ shape.rows := by
          rw [List.length_append]
          exact hroom
        rw [htook, if_pos rfl, ih hnext, List.append_assoc]
        rfl
      · rw [hrefused, if_neg nofun, ih hle]

/-! ## Grids from assemblies -/

/-- The grid of rows that an assembly of their shape takes one by one, up to the first that it
    refuses. -/
def built (rows : List (List α)) : Except GridFault (Grid α) := do
  let b ← start (Grid.rowsShape rows)
  let b ← rows.foldlM push b
  b.finish

/-- The grid of rows that are all offered to an assembly of their shape, which may refuse some. -/
def offered (rows : List (List α)) : Except GridFault (Grid α) := do
  let b ← start (Grid.rowsShape rows)
  (b.offerAll rows).finish

theorem foldlM_push_holding (shape : Shape) (held rows : List (List α)) (b : Assembly α)
    (hle : held.length ≤ shape.rows) :
    rows.foldlM push (holding shape held) = .ok b ↔
      (∀ row ∈ rows, row.length = shape.cols) ∧ held.length + rows.length ≤ shape.rows ∧
        b = holding shape (held ++ rows) := by
  induction rows generalizing held with
  | nil =>
      have hnil : ([] : List (List α)).foldlM push (holding shape held) =
          .ok (holding shape held) := rfl
      rw [hnil, Except.ok.injEq]
      simp [hle, eq_comm]
  | cons row rows ih =>
      have hlength : (held ++ [row]).length = held.length + 1 := List.length_append
      rw [List.foldlM_cons, Outcome.bind_eq_ok_iff]
      simp only [push_holding_iff]
      constructor
      · rintro ⟨_, ⟨hroom, hrow, rfl⟩, hrest⟩
        obtain ⟨hrows, hcount, rfl⟩ := (ih _ (by omega)).1 hrest
        refine ⟨List.forall_mem_cons.2 ⟨hrow, hrows⟩, ?_, ?_⟩
        · rw [List.length_cons]
          omega
        · rw [List.append_assoc]
          rfl
      · rintro ⟨hrows, hcount, rfl⟩
        obtain ⟨hrow, hrest⟩ := List.forall_mem_cons.1 hrows
        rw [List.length_cons] at hcount
        refine ⟨_, ⟨by omega, hrow, rfl⟩, (ih _ (by omega)).2 ⟨hrest, by omega, ?_⟩⟩
        rw [List.append_assoc]
        rfl

theorem built_eq_ok_iff (rows : List (List α)) (g : Grid α) :
    built rows = .ok g ↔ ∃ cols, IsTable cols rows ∧ g = Grid.stacked cols rows := by
  have hfull : (holding (Grid.rowsShape rows) ([] ++ rows)).finish =
      .ok (Grid.stacked (Grid.rowsShape rows).cols rows) := finish_of_full rfl
  simp only [built, Outcome.bind_eq_ok_iff, start_eq_ok_iff, Grid.isTable_iff_rowsShape]
  constructor
  · rintro ⟨_, ⟨hempty, rfl⟩, _, hpush, hgrid⟩
    obtain ⟨hrows, -, rfl⟩ := (foldlM_push_holding _ [] rows _ (Nat.zero_le _)).1 hpush
    rw [hfull] at hgrid
    exact ⟨_, ⟨hempty, hrows, rfl⟩, (Except.ok.inj hgrid).symm⟩
  · rintro ⟨_, ⟨hempty, hrows, rfl⟩, rfl⟩
    have hcount : ([] : List (List α)).length + rows.length ≤ (Grid.rowsShape rows).rows :=
      Nat.le_of_eq (Nat.zero_add _)
    have hpush := (foldlM_push_holding _ [] rows _ (Nat.zero_le _)).2 ⟨hrows, hcount, rfl⟩
    exact ⟨_, ⟨hempty, rfl⟩, _, hpush, hfull⟩

/-- An assembly of the shape of the rows has none missing at the end exactly if it took all. -/
theorem offered_eq_ok_iff (rows : List (List α)) (g : Grid α) :
    offered rows = .ok g ↔ ∃ cols, IsTable cols rows ∧ g = Grid.stacked cols rows := by
  have htaken : (holding (Grid.rowsShape rows) ([] : List (List α))).taken rows =
      rows.filter fun row => row.length = (Grid.rowsShape rows).cols := by
    rw [taken_holding rows (Nat.zero_le _)]
    exact List.take_of_length_le (List.length_filter_le _ _)
  have hall : (rows.filter fun row => row.length = (Grid.rowsShape rows).cols).length =
      (Grid.rowsShape rows).rows ↔ ∀ row ∈ rows, row.length = (Grid.rowsShape rows).cols := by
    show _ = rows.length ↔ _
    simp only [List.length_filter_eq_length_iff, decide_eq_true_eq]
  have hself : (∀ row ∈ rows, row.length = (Grid.rowsShape rows).cols) →
      (rows.filter fun row => row.length = (Grid.rowsShape rows).cols) = rows := by
    intro h
    exact List.filter_eq_self.2 fun row hrow => decide_eq_true (h row hrow)
  simp only [offered, Outcome.bind_eq_ok_iff, start_eq_ok_iff, Grid.isTable_iff_rowsShape]
  constructor
  · rintro ⟨_, ⟨hempty, rfl⟩, hgrid⟩
    rw [offerAll_holding rows (Nat.zero_le _), List.nil_append, htaken] at hgrid
    by_cases hrows : ∀ row ∈ rows, row.length = (Grid.rowsShape rows).cols
    · rw [hself hrows, finish_of_full rfl] at hgrid
      exact ⟨_, ⟨hempty, hrows, rfl⟩, (Except.ok.inj hgrid).symm⟩
    · rw [finish_of_missing (mt hall.1 hrows)] at hgrid
      cases hgrid
  · rintro ⟨_, ⟨hempty, hrows, rfl⟩, rfl⟩
    refine ⟨_, ⟨hempty, rfl⟩, ?_⟩
    rw [offerAll_holding rows (Nat.zero_le _), List.nil_append, htaken, hself hrows]
    exact finish_of_full rfl

/-! ## All that is known of an assembly -/

/-- An assembly of a shape that has taken these rows: how many there are and how many cells it
    has, what it does with any row that comes next, and what it is finished as. -/
structure Accounts (shape : Shape) (rows : List (List α)) (b : Assembly α) : Prop where
  shape_eq : b.shape = shape
  filled_eq : b.filled = rows.length
  filled_le : b.filled ≤ shape.rows
  size_eq : b.cells.size = b.filled * shape.cols
  takes_iff : ∀ row,
    (b.offer row).1 = .ok () ↔ row.length = shape.cols ∧ rows.length < shape.rows
  undoes : ∀ row f, (b.offer row).1 = .error f → (b.offer row).2 = b
  finishes : rows.length = shape.rows →
    ∃ g, b.finish = .ok g ∧ g.shape = shape ∧ g.toRows = rows
  reports : rows.length ≠ shape.rows →
    b.finish = .error (.csv (rows.length + 1) (.rowCount shape.rows rows.length))

theorem accounts_holding (hempty : shape.isEmpty = false) (hle : held.length ≤ shape.rows)
    (hlength : ∀ row ∈ held, row.length = shape.cols) :
    Accounts shape held (holding shape held) where
  shape_eq := rfl
  filled_eq := rfl
  filled_le := hle
  size_eq := length_flatten_of_forall hlength
  takes_iff row := by
    obtain ⟨hroom, hrow, htook⟩ | ⟨hmisfit, f, hrefused⟩ := offer_cases hle row
    · rw [htook]
      exact iff_of_true rfl ⟨hrow, hroom⟩
    · rw [hrefused]
      exact iff_of_false nofun hmisfit
  undoes row f h := by
    obtain ⟨-, -, htook⟩ | ⟨-, f', hrefused⟩ := offer_cases hle row
    · rw [htook] at h
      cases h
    · rw [hrefused]
  finishes hfull := by
    obtain ⟨hrows, hcols⟩ := (Shape.isEmpty_eq_false_iff shape).1 hempty
    have htable : IsTable shape.cols held :=
      ⟨List.length_pos_iff.1 (by omega), hcols, hlength⟩
    refine ⟨_, finish_of_full hfull, ?_, Grid.toRows_stacked htable⟩
    rw [Grid.shape, Grid.stacked, hfull]
  reports hmissing := finish_of_missing hmissing

/-- An assembly of a shape accounts for all that it is offered. -/
theorem accounts_of_start {b : Assembly α} (h : start shape = .ok b) (rows : List (List α)) :
    Accounts shape (b.taken rows) (b.offerAll rows) ∧
      b.taken rows = (rows.filter fun row => row.length = shape.cols).take shape.rows := by
  obtain ⟨hempty, rfl⟩ := (start_eq_ok_iff shape b).1 h
  have htaken : (holding shape []).taken rows =
      (rows.filter fun row => row.length = shape.cols).take shape.rows :=
    taken_holding rows (Nat.zero_le _)
  refine ⟨?_, htaken⟩
  rw [offerAll_holding rows (Nat.zero_le _), List.nil_append, htaken]
  refine accounts_holding hempty (List.length_take_le _ _) fun row hrow => ?_
  have hmem := List.mem_of_mem_take hrow
  exact of_decide_eq_true (List.mem_filter.1 hmem).2

/-- So does one for which room was set aside, which there is wherever there is room. -/
theorem accounts_of_reserve? {τ : IntType} (hrows : 0 < shape.rows) (hcols : 0 < shape.cols)
    (hroom : τ.hasRoom (shape.rows * shape.cols) = true) :
    ∃ b : Assembly (Element τ), reserve? τ shape = some (.ok b) ∧ ∀ rows,
      Accounts shape (b.taken rows) (b.offerAll rows) ∧
        b.taken rows = (rows.filter fun row => row.length = shape.cols).take shape.rows := by
  have hempty : shape.isEmpty = false := (Shape.isEmpty_eq_false_iff shape).2 ⟨hrows, hcols⟩
  have hstart : start shape = .ok (holding shape ([] : List (List (Element τ)))) :=
    (start_eq_ok_iff shape _).2 ⟨hempty, rfl⟩
  exact ⟨_, reserve?_eq_some_iff.2 ⟨.inr hroom, hstart⟩, accounts_of_start hstart⟩

/-- An assembly yields exactly the rows that it took. Whatever rows of any lengths are offered, each
    is taken if and only if it has the length of the columns and fewer rows than the shape has were
    taken before, so that those taken are the first of that length. A row that is refused leaves
    the assembly exactly as it was. The assembly has the cells of the rows it has taken, and it is
    finished as the grid with those rows, or with a report of how many there are. Rows that are made
    a grid at once and rows that an assembly of their shape is given one by one, whether that stops
    at a row that is refused or goes on, make the same grid or none. -/
theorem accounts_of_offers (α : Type) :
    (∀ shape : Shape, 0 < shape.rows → 0 < shape.cols →
      ∃ b : Assembly α, start shape = .ok b ∧ ∀ rows : List (List α),
        Accounts shape (b.taken rows) (b.offerAll rows) ∧
        b.taken rows = (rows.filter fun row => row.length = shape.cols).take shape.rows) ∧
    ∀ (rows : List (List α)) (g : Grid α),
      (Grid.ofRows rows = .ok g ↔ built rows = .ok g) ∧
      (Grid.ofRows rows = .ok g ↔ offered rows = .ok g) := by
  refine ⟨fun shape hrows hcols => ?_, fun rows g => ?_⟩
  · have hempty : shape.isEmpty = false := (Shape.isEmpty_eq_false_iff shape).2 ⟨hrows, hcols⟩
    have hstart : start shape = .ok (holding shape ([] : List (List α))) :=
      (start_eq_ok_iff shape _).2 ⟨hempty, rfl⟩
    exact ⟨_, hstart, accounts_of_start hstart⟩
  · rw [Grid.ofRows_eq_ok_iff, built_eq_ok_iff, offered_eq_ok_iff]
    exact ⟨Iff.rfl, Iff.rfl⟩

/-- Rows of two cells, and rows that are too short, too long and too many among them. -/
def unevenRows : List (List Nat) := [[1], [1, 2], [3, 4, 5], [], [3, 4], [5, 6]]

theorem accounts_of_offers_unevenRows :
    ∃ b : Assembly Nat, start ⟨2, 2⟩ = .ok b ∧ b.taken unevenRows = [[1, 2], [3, 4]] ∧
      ∃ g, (b.offerAll unevenRows).finish = .ok g ∧ g.toRows = [[1, 2], [3, 4]] := by
  obtain ⟨b, hstart, hoffers⟩ := (accounts_of_offers Nat).1 ⟨2, 2⟩ (by decide) (by decide)
  obtain ⟨haccounts, htaken⟩ := hoffers unevenRows
  have hrows : b.taken unevenRows = [[1, 2], [3, 4]] := htaken
  rw [hrows] at haccounts
  obtain ⟨g, hfinish, -, htoRows⟩ := haccounts.finishes rfl
  exact ⟨b, hstart, hrows, g, hfinish, htoRows⟩

end Assembly

end Gridscript
