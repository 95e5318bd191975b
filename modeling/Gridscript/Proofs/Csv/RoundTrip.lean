/-
  Grids written as text and loaded again.

  What is written for rows of one length is a table of those rows (`tableText_rows`): each
  element is written as a numeral of it, each line as that of its row, and a line feed ends each
  line. Loading takes tables, so a written grid is loaded as it was.
-/
import Gridscript.Proofs.Csv.Acceptance
import Gridscript.Proofs.Grid.Rows

namespace Gridscript.Csv

open Decimal (Numeral)

variable {τ : IntType}

theorem numeral_text (a : Element τ) : Numeral τ.signed a.text a.val :=
  (Element.ofText?_eq_some_iff a.text a).1 (Element.ofText?_text a)

theorem rowText_line (row : List (Element τ)) : RowText τ row (line row) := by
  refine ⟨row.map Element.text, ?_, .inl rfl⟩
  rw [List.forall₂_map_left_iff, List.forall₂_same]
  exact fun a _ => numeral_text a

theorem laid_written (rows : List (List (Element τ))) (h : rows ≠ []) :
    Laid (rows.map line) (rows.flatMap fun row => line row ++ ['\n']) := by
  induction rows with
  | nil => exact absurd rfl h
  | cons row rows ih =>
      cases rows with
      | nil =>
          rw [List.flatMap_cons, List.flatMap_nil, List.append_nil]
          exact Laid.ended (line row) .feed
      | cons row' rows =>
          have h := Laid.next (line row) .feed (ih (List.cons_ne_nil _ _))
          rw [List.flatMap_cons, List.append_assoc]
          exact h

/-- Rows of one length are written as a table. -/
theorem tableText_rows {cols : Nat} (hcols : 0 < cols) {rows : List (List (Element τ))}
    (hne : rows ≠ []) (hlen : ∀ row ∈ rows, row.length = cols) :
    TableText τ cols rows (rows.flatMap fun row => line row ++ ['\n']) := by
  refine ⟨hcols, hlen, rows.map line, laid_written rows hne, ?_⟩
  rw [List.forall₂_map_right_iff, List.forall₂_same]
  exact fun row _ => rowText_line row

theorem tableText_text {g : Grid (Element τ)} (h : g.WellFormed) :
    TableText τ g.cols g.toRows (text g) := by
  refine tableText_rows h.cols_pos ?_ fun row hrow => h.length_of_mem_toRows hrow
  intro he
  have hrows := g.length_toRows
  rw [he] at hrows
  exact Nat.ne_of_gt h.rows_pos hrows.symm

/-- A grid is loaded from its text as it was. -/
theorem read_text (g : Grid (Element τ)) (h : g.WellFormed) : read τ (text g) = .ok g := by
  rw [read_of_tableText (tableText_text h) (.inl rfl), ← h.eq_mk_toRows]

/-- The least and the greatest value of a type among others. -/
def extremes : Grid (Element .i8) :=
  ⟨2, 2, #[⟨-128, by decide⟩, ⟨127, by decide⟩, ⟨0, by decide⟩, ⟨-1, by decide⟩]⟩

theorem read_text_extremes :
    extremes.WellFormed ∧ read .i8 (text extremes) = .ok extremes := by
  have h : extremes.WellFormed := ⟨by decide, by decide, rfl⟩
  exact ⟨h, read_text extremes h⟩

end Gridscript.Csv
