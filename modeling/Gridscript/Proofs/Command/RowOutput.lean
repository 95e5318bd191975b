/-
  The row command.

  A row is written by itself, as one line, and this is the text of the grid that has no other row
  (`writeRow_eq_ok_iff_text`). So what the command leaves, on the output or in a file, can be
  loaded like any grid: it is the row of the grid in the input, with each cell scaled and shifted.
  Cells are followed from the input to what is loaded through the lists of rows
  (`Grid.get_eq_ok_iff_toRows`), and the two steps of the computation are one operation on
  integers, wrapped once (`adjusted_eq_wrap`). Input and output are files of the working folder, as
  for the other commands.
-/
import Gridscript.Proofs.Command.OneShot
import Gridscript.Proofs.Element.Ring
import Gridscript.Proofs.Grid.Assembly

namespace Gridscript

/-! ## Grids of one row -/

namespace Grid

variable {α : Type}

theorem get_eq_ok_iff_toRows (g : Grid α) (i j : Nat) (a : α) :
    g.get i j = .ok a ↔ ∃ cells, g.toRows[i]? = some cells ∧ cells[j]? = some a := by
  rw [Grid.get_eq_ok_iff]
  constructor
  · rintro ⟨r, hrow, hcell⟩
    refine ⟨r.cells.toList, Grid.row_eq_ok_iff.1 hrow, ?_⟩
    rw [Array.getElem?_toList]
    exact (Row.get_eq_ok_iff r j a).1 hcell
  · rintro ⟨cells, hrow, hcell⟩
    refine ⟨⟨cells.toArray⟩, Grid.row_eq_ok_iff.2 hrow, (Row.get_eq_ok_iff _ j a).2 ?_⟩
    rw [Row.cell?, List.getElem?_toArray]
    exact hcell

/-- The grid that has this row and no other. -/
def oneRow (cells : List α) : Grid α := ⟨1, cells.length, cells.toArray⟩

theorem oneRow_eq_stacked (cells : List α) : oneRow cells = stacked cells.length [cells] := by
  rw [oneRow, stacked, List.flatten_singleton]
  rfl

theorem toRows_oneRow (cells : List α) : (oneRow cells).toRows = [cells] := by
  simp [toRows, oneRow]

theorem get_oneRow_eq_ok_iff (cells : List α) (j : Nat) (a : α) :
    (oneRow cells).get 0 j = .ok a ↔ cells[j]? = some a := by
  rw [get_eq_ok_iff_toRows, toRows_oneRow]
  simp

variable {cells : List α}

theorem isTable_singleton (h : cells ≠ []) : IsTable cells.length [cells] :=
  ⟨List.cons_ne_nil _ _, List.length_pos_iff.2 h, by simp⟩

theorem ofRows_singleton (h : cells ≠ []) : ofRows [cells] = .ok (oneRow cells) :=
  (ofRows_eq_ok_iff _ _).2 ⟨cells.length, isTable_singleton h, oneRow_eq_stacked cells⟩

theorem wellFormed_oneRow (h : cells ≠ []) : (oneRow cells).WellFormed := by
  rw [oneRow_eq_stacked]
  exact wellFormed_stacked (isTable_singleton h)

end Grid

namespace Command

/-- Scaling and shifting are one operation on integers, wrapped once. A scalar that is not given is
    the one that changes nothing. -/
theorem adjusted_eq_wrap (scale shift : Option Scalar) (a : Scalar) :
    adjusted scale shift a =
      .wrap .i64 (a.val * scale.elim 1 (·.val) + shift.elim 0 (·.val)) := by
  have hscale : a * .wrap .i64 (scale.elim 1 (·.val)) = adjusted scale none a := by
    cases scale with
    | none => exact mul_one a
    | some s => exact congrArg (a * ·) (Element.wrap_val s)
  have hshift : ∀ b : Scalar, b + .wrap .i64 (shift.elim 0 (·.val)) = adjusted none shift b := by
    intro b
    cases shift with
    | none => exact add_zero b
    | some t => exact congrArg (b + ·) (Element.wrap_val t)
  rw [Element.wrap_add, Element.wrap_mul, Element.wrap_val, hscale, hshift]
  rfl

/-! ## Output that is loaded again -/

theorem writeRow_eq_ok_iff_text {folder : Folder} (r : Row Scalar) (output : Option String)
    (w : Written) :
    (writeRow folder r output).result = .ok w ↔
      Delivers folder output (Csv.text (Grid.oneRow r.cells.toList)) w := by
  rw [writeRow_eq_ok_iff, ← Csv.text_single]
  rfl

end Command

namespace CommandLine

open Command

/-- What a command has printed, or written to the file that is named, is loaded as this grid. -/
def Yields (done : Performed) (output : Option String) (grid : Grid Scalar) : Prop :=
  match output with
  | none => Csv.read .i64 done.printed.toList = .ok grid
  | some path => (done.folder.loadGrid .i64 path).result = .ok grid

/-- A grid whose text was delivered is loaded again. -/
theorem yields_of_delivered {folder : Folder} {output : Option String} {done : Performed}
    {grid : Grid Scalar} (hgrid : grid.WellFormed)
    (h : Delivered folder output (Csv.text grid) done.folder done.printed) :
    Yields done output grid := by
  cases output with
  | none =>
      have hprinted : done.printed.toList = Csv.text grid := by
        rw [h.printed_eq]
        exact String.toList_ofList
      unfold Yields
      rw [hprinted, Csv.read_of_tableText (Csv.tableText_text hgrid) (.inl rfl),
        ← hgrid.eq_mk_toRows]
  | some path => exact Folder.loadGrid_of_read_text hgrid (h.file path rfl)

/-! ## The command -/

variable {folder : Folder} {input : String} {g : Grid Scalar} {index : Nat}

theorem wellFormed_of_holds (hg : Holds folder input g) : g.WellFormed := by
  obtain ⟨-, bytes, -, hread⟩ := hg
  exact Csv.wellFormed_readBytes hread

theorem perform_row_of_lt (hg : Holds folder input g) (hindex : index < g.rows)
    (scale shift : Option Scalar) {output : Option String} (hout : Writable folder output) :
    ∃ cells, g.toRows[index]? = some cells ∧ cells.length = g.cols ∧
      (perform folder (.row input index scale shift output)).result = .ok () ∧
      Yields (perform folder (.row input index scale shift output)) output
        (.oneRow (cells.map (adjusted scale shift))) := by
  have hwell := wellFormed_of_holds hg
  have hlt : index < g.toRows.length := by rwa [Grid.length_toRows]
  have hrow : g.toRows[index]? = some g.toRows[index] := List.getElem?_eq_getElem hlt
  have hlength : g.toRows[index].length = g.cols :=
    hwell.length_of_mem_toRows (List.getElem_mem hlt)
  generalize g.toRows[index] = cells at hrow hlength
  have hne : cells.map (adjusted scale shift) ≠ [] := by
    have hpos := hwell.cols_pos
    rw [← List.length_pos_iff, List.length_map]
    omega
  have htext : Computes folder (.row input index scale shift output)
      (Csv.text (.oneRow (cells.map (adjusted scale shift)))) := by
    rw [Grid.oneRow, List.length_map]
    exact .row hg hrow
  obtain ⟨hok, hdelivered⟩ := perform_of_computes rfl htext hout
  exact ⟨cells, hrow, hlength, hok, yields_of_delivered (Grid.wellFormed_oneRow hne) hdelivered⟩

/-- The failure of a command that asks for a row beyond the last. -/
def rowMissing (input : String) (index rows : Nat) : Failure :=
  .under s!"Cannot extract row {index} of {input}"
    [(GridFault.outOfBounds .row index rows).message]

theorem performWrite_of_error {t : Traced Failure Written} {failure : Failure}
    (h : t.result = .error failure) :
    performWrite folder t = ⟨folder, "", t.log.map .entry, .error failure⟩ := by
  simp only [performWrite, h]

/-- The row that is asked for is looked up before anything is written. -/
theorem perform_row_of_le (hg : Holds folder input g) (hindex : g.rows ≤ index)
    (scale shift : Option Scalar) (output : Option String) :
    (perform folder (.row input index scale shift output)).result =
        .error (rowMissing input index g.rows) ∧
      (perform folder (.row input index scale shift output)).folder = folder ∧
      (perform folder (.row input index scale shift output)).printed = "" := by
  have hmissing : g.row index = .error (.outOfBounds .row index g.rows) := if_pos hindex
  have hrow : (Command.row folder input index scale shift).result =
      .error (rowMissing input index g.rows) := by
    rw [Command.row, Traced.result_bind, input_eq_ok_iff.2 hg]
    show ((Traced.lift ((g.row index).mapError _)) >>= _).result = _
    rw [hmissing]
    rfl
  have hdone : (Command.row folder input index scale shift >>= fun row =>
      writeRow folder row output).result = .error (rowMissing input index g.rows) := by
    rw [Traced.result_bind, hrow]
    rfl
  have hperform : perform folder (.row input index scale shift output) =
      performWrite folder (Command.row folder input index scale shift >>= fun row =>
        writeRow folder row output) := rfl
  rw [hperform, performWrite_of_error hdone]
  exact ⟨rfl, rfl, rfl⟩

/-- The row command writes what can be loaded again. A row is written as the text of the grid
    that has no other. For each row of the grid in the input, and wherever the output goes, the
    command succeeds if there is a place for the output, and leaves what is loaded as the grid of
    that row with each cell multiplied by one scalar and added to another, wrapped; a scalar that
    is not given changes nothing. For a row that the grid does not have, the command fails and
    leaves everything as it was. -/
theorem row_output_loads :
    (∀ r : Row Scalar, r.WellFormed → ∃ grid, Grid.ofRows [r.cells.toList] = .ok grid ∧
      ∀ (folder : Folder) (output : Option String) (w : Written),
        (writeRow folder r output).result = .ok w ↔
          Delivers folder output (Csv.text grid) w) ∧
    ∀ (folder : Folder) (input : String) (g : Grid Scalar), Holds folder input g →
      ∀ (index : Nat) (scale shift : Option Scalar) (output : Option String),
        (index < g.rows → Writable folder output →
          (perform folder (.row input index scale shift output)).result = .ok () ∧
          ∃ grid, Yields (perform folder (.row input index scale shift output)) output grid ∧
            grid.shape = ⟨1, g.cols⟩ ∧
            ∀ j < g.cols, ∃ a, g.get index j = .ok a ∧ grid.get 0 j =
              .ok (.wrap .i64 (a.val * scale.elim 1 (·.val) + shift.elim 0 (·.val)))) ∧
        (g.rows ≤ index →
          (perform folder (.row input index scale shift output)).result =
            .error (rowMissing input index g.rows) ∧
          (perform folder (.row input index scale shift output)).folder = folder ∧
          (perform folder (.row input index scale shift output)).printed = "") := by
  refine ⟨fun r hr => ?_, fun folder input g hg index scale shift output => ⟨?_, ?_⟩⟩
  · have hne : r.cells.toList ≠ [] := List.length_pos_iff.1 hr
    exact ⟨_, Grid.ofRows_singleton hne, fun folder output w => writeRow_eq_ok_iff_text r output w⟩
  · intro hindex hout
    obtain ⟨cells, hrow, hlength, hok, hyields⟩ := perform_row_of_lt hg hindex scale shift hout
    refine ⟨hok, _, hyields, ?_, fun j hj => ?_⟩
    · rw [Grid.shape, Grid.oneRow, List.length_map, hlength]
    · have hlt : j < cells.length := by rwa [hlength]
      have hcell : cells[j]? = some cells[j] := List.getElem?_eq_getElem hlt
      generalize cells[j] = a at hcell
      refine ⟨a, (g.get_eq_ok_iff_toRows index j a).2 ⟨cells, hrow, hcell⟩, ?_⟩
      rw [← adjusted_eq_wrap, Grid.get_oneRow_eq_ok_iff, List.getElem?_map, hcell]
      rfl
  · intro hindex
    exact perform_row_of_le hg hindex scale shift output

/-- The only row of a file scaled, and the row after it. -/
theorem row_output_loads_twoCells :
    Holds twoCellsFile "A.csv" twoCells ∧
      (perform twoCellsFile (.row "A.csv" 0 (some (.wrap .i64 3)) none none)).result = .ok () ∧
      (∃ grid,
        Yields (perform twoCellsFile (.row "A.csv" 0 (some (.wrap .i64 3)) none none)) none grid ∧
        grid.shape = ⟨1, 2⟩ ∧ grid.get 0 1 = .ok (.wrap .i64 (-6))) ∧
      (perform twoCellsFile (.row "A.csv" 1 none none none)).result =
        .error (rowMissing "A.csv" 1 1) := by
  have hholds : Holds twoCellsFile "A.csv" twoCells :=
    ⟨by decide +kernel, _, by decide +kernel, Csv.readBytes_encode_text ⟨by decide, by decide, rfl⟩⟩
  have hrow := row_output_loads.2 twoCellsFile "A.csv" twoCells hholds
  obtain ⟨hok, grid, hyields, hshape, hcells⟩ :=
    (hrow 0 (some (.wrap .i64 3)) none none).1 (by decide) nofun
  obtain ⟨a, ha, hcell⟩ := hcells 1 (by decide)
  have hentry : twoCells.get 0 1 = .ok (.wrap .i64 (-2)) := rfl
  cases hentry.symm.trans ha
  exact ⟨hholds, hok, ⟨grid, hyields, hshape, hcell⟩, ((hrow 1 none none none).2 (by decide)).1⟩

end CommandLine

end Gridscript
