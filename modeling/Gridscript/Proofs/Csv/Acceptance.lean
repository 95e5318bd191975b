/-
  What loading takes.

  Loading finds the shape of a text first and reads its records against that shape. It takes
  exactly the texts of tables, after a byte order mark or none (`read_eq_ok_iff`). The scan and
  the records see different things: the scan counts blank lines and takes the mark for content,
  the records leave both out. A blank line makes the scan count more rows than there are
  records, so it is refused; the mark changes neither the number of rows nor the columns of the
  first, unless nothing follows it (`shapeOf_dropMark`). Since there is room for every record,
  loading is one walk over them and a look at their number (`read_eq_mapM`); what is taken, and
  what is reported of the rest, is read off that equation.
-/
import Gridscript.Csv.Table
import Gridscript.Proofs.Csv.Format
import Gridscript.Proofs.Outcome

namespace Gridscript.Csv

open Decimal (Numeral)

variable {τ : IntType}

/-! ## One record -/

theorem readField_eq_ok_iff (line : Nat) (f : List Char) (a : Element τ) :
    readField τ line f = .ok a ↔ Numeral τ.signed f a.val := by
  rw [← Element.ofText?_eq_some_iff, readField]
  cases Element.ofText? τ f with
  | none => exact ⟨fun h => (by cases h), fun h => (by cases h)⟩
  | some b => exact ⟨fun h => (by cases h; rfl), fun h => (by cases h; rfl)⟩

/-- The fields of a record without an empty one beyond the columns. -/
def kept (cols : Nat) (fields : List (List Char)) : List (List Char) :=
  if fields.length = cols + 1 ∧ fields.getLast? = some [] then fields.dropLast else fields

theorem kept_eq_iff {cols : Nat} {all fields : List (List Char)} (h : fields.length = cols) :
    kept cols all = fields ↔ all = fields ∨ all = fields ++ [[]] := by
  unfold kept
  constructor
  · intro hk
    split at hk
    · rename_i hlast
      rw [← hk]
      exact .inr (List.dropLast_append_getLast? [] hlast.2).symm
    · exact .inl hk
  · intro h'
    obtain rfl | rfl := h'
    · rw [if_neg (by omega)]
    · rw [if_pos (by simp [h]), List.dropLast_concat]

theorem readRecord_eq (cols : Nat) (r : Record) :
    readRecord τ cols r =
      if (kept cols r.fields).length = cols then (kept cols r.fields).mapM (readField τ r.line)
      else .error (.csv r.line (.fieldCount cols (kept cols r.fields).length)) := rfl

/-- A record is read as a row if its fields, but for an empty one beyond the columns, are the
    numerals of the row. -/
theorem readRecord_eq_ok_iff (cols : Nat) (r : Record) (row : List (Element τ)) :
    readRecord τ cols r = .ok row ↔
      row.length = cols ∧ ∃ fields, (r.fields = fields ∨ r.fields = fields ++ [[]]) ∧
        List.Forall₂ (fun f (a : Element τ) => Numeral τ.signed f a.val) fields row := by
  have hread : ∀ fields : List (List Char),
      fields.mapM (readField τ r.line) = .ok row ↔
        List.Forall₂ (fun f (a : Element τ) => Numeral τ.signed f a.val) fields row := by
    intro fields
    rw [Outcome.mapM_eq_ok_iff]
    simp only [readField_eq_ok_iff]
  rw [readRecord_eq]
  constructor
  · intro h
    split at h
    · rename_i hlen
      have hrow := (hread _).1 h
      exact ⟨hrow.length_eq.symm.trans hlen, _, (kept_eq_iff hlen).1 rfl, hrow⟩
    · cases h
  · intro h'
    obtain ⟨hlen, fields, hf, hrow⟩ := h'
    have hfields : fields.length = cols := hrow.length_eq.trans hlen
    rw [(kept_eq_iff hfields).2 hf, if_pos hfields]
    exact (hread fields).2 hrow

/-- The record that a line makes is read as a row exactly if the line is that of the row. -/
theorem readRecord_splitOn {cols : Nat} (hcols : 0 < cols) {r : Record} {l : List Char}
    (hr : r.fields = l.splitOn ',') (row : List (Element τ)) :
    readRecord τ cols r = .ok row ↔ row.length = cols ∧ RowText τ row l := by
  rw [readRecord_eq_ok_iff, hr, and_congr_right_iff]
  intro hlen
  refine exists_congr fun fields => ?_
  rw [and_comm, and_congr_right_iff]
  intro hrow
  have hne : fields ≠ [] := by
    intro h
    subst h
    cases hrow
    exact Nat.ne_of_gt hcols hlen.symm
  have hcomma : ∀ f ∈ fields, ',' ∉ f := by
    intro f hf
    obtain ⟨a, -, ha⟩ := exists_of_mem_left hrow hf
    exact ha.not_mem (by decide) (by decide) (by decide)
  have hcomma' : ∀ f ∈ fields ++ [[]], ',' ∉ f := by
    intro f hf
    rcases List.mem_append.1 hf with hf | hf
    · exact hcomma f hf
    · rw [List.mem_singleton.1 hf]
      exact List.not_mem_nil
  rw [← intercalate_append_nil hne]
  refine or_congr ⟨fun h => ?_, fun h => ?_⟩ ⟨fun h => ?_, fun h => ?_⟩
  · rw [← h, List.intercalate_splitOn]
  · rw [h, List.splitOn_intercalate ',' hcomma hne]
  · rw [← h, List.intercalate_splitOn]
  · rw [h, List.splitOn_intercalate ',' hcomma' (by simp)]

/-! ## The byte order mark -/

theorem eq_dropMark (text : List Char) :
    text = dropMark text ∨ text = '\uFEFF' :: dropMark text := by
  unfold dropMark
  split
  · exact .inr rfl
  · exact .inl rfl

/-- The mark takes part in the first line without changing its columns. -/
theorem shapeOf_mark {body : List Char} (h : body ≠ []) :
    shapeOf ('\uFEFF' :: body) = shapeOf body := by
  obtain ⟨l, ls, hl⟩ := List.exists_cons_of_ne_nil (mt (lines_eq_nil_iff body).1 h)
  rw [shapeOf_eq, shapeOf_eq, if_neg h, if_neg (List.cons_ne_nil _ _), lines_cons (by decide), hl]
  simp [prepend, columns_cons]

theorem shapeOf_dropMark {text : List Char} (h : dropMark text ≠ []) :
    shapeOf text = shapeOf (dropMark text) := by
  rcases eq_dropMark text with he | he
  · rw [← he]
  · exact (congrArg shapeOf he).trans (shapeOf_mark h)

/-! ## All records -/

/-- With room for all records, filling is reading them one after the other. -/
theorem fill_eq_mapM (b : Assembly (Element τ)) (rs : List Record)
    (hroom : b.filled + rs.length ≤ b.shape.rows) :
    fill b rs = (rs.mapM (readRecord τ b.shape.cols)).map fun rows =>
      ⟨b.shape, b.cells ++ rows.flatten.toArray, b.filled + rows.length⟩ := by
  induction rs generalizing b with
  | nil => simp [fill, Except.map, pure, Except.pure]
  | cons r rs ih =>
      simp only [List.length_cons] at hroom
      have hfilled : b.filled ≠ b.shape.rows := by omega
      rw [fill, if_neg (mt b.isComplete_iff.1 hfilled), List.mapM_cons]
      cases hrow : readRecord τ b.shape.cols r with
      | error fault => rfl
      | ok row =>
          have hnext := ih ⟨b.shape, b.cells ++ row.toArray, b.filled + 1⟩ (by simp only; omega)
          have hlength := ((readRecord_eq_ok_iff _ _ _).1 hrow).1
          have hpush := (b.push_eq_ok_iff _ row).2 ⟨hfilled, hlength, rfl⟩
          show (b.push row >>= fun b => fill b rs) = _
          rw [hpush]
          show fill _ rs = _
          rw [hnext]
          cases rs.mapM (readRecord τ b.shape.cols) with
          | error fault => rfl
          | ok rows =>
              show Except.ok _ = Except.ok _
              simp only [List.flatten_cons, List.length_cons, Except.ok.injEq, Assembly.mk.injEq,
                true_and]
              exact ⟨by simp, by omega⟩

/-- There is room for every record. -/
theorem length_records_le (text : List Char) :
    (records 1 (dropMark text)).length ≤ (shapeOf text).rows := by
  have hlength : (records 1 (dropMark text)).length = (filled (dropMark text)).length := by
    have hfields := congrArg List.length (fields_records 1 (dropMark text))
    rwa [List.length_map, List.length_map] at hfields
  have hfilled : (filled (dropMark text)).length ≤ (lines (dropMark text)).length :=
    List.length_filter_le _ _
  have hlines : (lines (dropMark text)).length ≤ (shapeOf text).rows := by
    by_cases hbody : dropMark text = []
    · rw [hbody]
      exact Nat.zero_le _
    · rw [shapeOf_dropMark hbody, shapeOf_eq]
  omega

/-- Only the empty text has a shape without cells. -/
theorem isEmpty_shapeOf_iff (text : List Char) : (shapeOf text).isEmpty = true ↔ text = [] := by
  rw [shapeOf_eq]
  by_cases h : text = []
  · rw [h]
    decide
  · have hlines := mt (lines_eq_nil_iff text).1 h
    simp [Shape.isEmpty, h, hlines, columns]

/-- Loading in one line: the records are read one after the other, and there has to be one for
    each row of the shape. -/
theorem read_eq_mapM {text : List Char} (h : text ≠ []) :
    read τ text =
      (records 1 (dropMark text)).mapM (readRecord τ (shapeOf text).cols) >>= fun rows =>
        Assembly.finish ⟨shapeOf text, rows.flatten.toArray, rows.length⟩ := by
  have hempty : ¬ (shapeOf text).isEmpty = true := mt (isEmpty_shapeOf_iff text).1 h
  have hstart : (Assembly.start (shapeOf text) : Except GridFault (Assembly (Element τ))) =
      .ok ⟨shapeOf text, #[], 0⟩ := if_neg hempty
  have hfill := fill_eq_mapM (⟨shapeOf text, #[], 0⟩ : Assembly (Element τ))
    (records 1 (dropMark text)) (by rw [Nat.zero_add]; exact length_records_le text)
  unfold read
  dsimp only
  rw [if_neg hempty, hstart]
  show (fill _ _ >>= fun b => b.finish) = _
  rw [hfill]
  cases (records 1 (dropMark text)).mapM (readRecord τ (shapeOf text).cols) with
  | error fault => rfl
  | ok rows =>
      show Assembly.finish _ = Assembly.finish _
      simp only [Array.empty_append, Nat.zero_add]

/-- Loading in terms of the shape and the records: there have to be as many records as rows,
    and each of them has to be read as a row. -/
theorem read_eq_ok_iff_records (text : List Char) (g : Grid (Element τ)) :
    read τ text = .ok g ↔
      (shapeOf text).isEmpty = false ∧
      ∃ rows, List.Forall₂ (fun r row => readRecord τ (shapeOf text).cols r = .ok row)
          (records 1 (dropMark text)) rows ∧
        rows.length = (shapeOf text).rows ∧
        g = ⟨rows.length, (shapeOf text).cols, rows.flatten.toArray⟩ := by
  by_cases h : text = []
  · subst h
    exact ⟨fun h => (by cases h), fun h => (by cases h.1)⟩
  · have hempty : (shapeOf text).isEmpty = false :=
      Bool.eq_false_iff.2 (mt (isEmpty_shapeOf_iff text).1 h)
    rw [read_eq_mapM h, Outcome.bind_eq_ok_iff, hempty, eq_self, true_and]
    refine exists_congr fun rows => ?_
    rw [Outcome.mapM_eq_ok_iff, Assembly.finish_eq_ok_iff]

/-- Only the fields of a record decide what it is read as. -/
theorem forall₂_records_iff {cols : Nat} (hcols : 0 < cols) (line : Nat) (text : List Char)
    (rows : List (List (Element τ))) :
    List.Forall₂ (fun r row => readRecord τ cols r = .ok row) (records line text) rows ↔
      List.Forall₂ (fun l row => row.length = cols ∧ RowText τ row l) (filled text) rows := by
  have hfields : ∀ (r : Record) (row : List (Element τ)),
      readRecord τ cols r = .ok row ↔ readRecord τ cols ⟨0, r.fields⟩ = .ok row := by
    intro r row
    rw [readRecord_eq_ok_iff, readRecord_eq_ok_iff]
  have hline : ∀ (l : List Char) (row : List (Element τ)),
      readRecord τ cols ⟨0, l.splitOn ','⟩ = .ok row ↔ row.length = cols ∧ RowText τ row l :=
    fun l row => readRecord_splitOn hcols rfl row
  calc List.Forall₂ (fun r row => readRecord τ cols r = .ok row) (records line text) rows
      ↔ List.Forall₂ (fun fs row => readRecord τ cols ⟨0, fs⟩ = .ok row)
          ((records line text).map Record.fields) rows := by
        rw [List.forall₂_map_left_iff]
        simp only [← hfields]
    _ ↔ List.Forall₂ (fun l row => readRecord τ cols ⟨0, l.splitOn ','⟩ = .ok row)
          (filled text) rows := by
        rw [fields_records, List.forall₂_map_left_iff]
    _ ↔ List.Forall₂ (fun l row => row.length = cols ∧ RowText τ row l) (filled text) rows := by
        simp only [hline]

/-! ## Acceptance -/

/-- What is loaded is a table. -/
theorem tableText_of_read {text : List Char} {g : Grid (Element τ)} (h : read τ text = .ok g) :
    ∃ cols rows, TableText τ cols rows (dropMark text) ∧
      g = ⟨rows.length, cols, rows.flatten.toArray⟩ := by
  obtain ⟨hempty, rows, hrows, hlen, hg⟩ := (read_eq_ok_iff_records text g).1 h
  simp only [Shape.isEmpty, Bool.or_eq_false_iff, beq_eq_false_iff_ne] at hempty
  have hcols : 0 < (shapeOf text).cols := Nat.pos_of_ne_zero hempty.2
  rw [forall₂_records_iff hcols] at hrows
  have hbody : dropMark text ≠ [] := by
    intro he
    rw [he] at hrows
    cases hrows
    exact hempty.1 hlen.symm
  -- As many lines as lines that are not blank: there is no blank one.
  have hfilled : filled (dropMark text) = lines (dropMark text) := by
    refine List.filter_sublist.eq_of_length ?_
    rw [show ((lines (dropMark text)).filter (· ≠ [])).length = rows.length from hrows.length_eq,
      hlen, shapeOf_dropMark hbody, shapeOf_eq]
  rw [hfilled] at hrows
  refine ⟨(shapeOf text).cols, rows, ⟨hcols, fun row hrow => ?_, _, laid_lines _ hbody, ?_⟩, hg⟩
  · obtain ⟨l, -, hl⟩ := exists_of_mem_right hrows hrow
    exact hl.1
  · exact (hrows.imp fun l row hl => hl.2).flip

/-- A table is loaded, with or without a mark before it. -/
theorem read_of_tableText {cols : Nat} {rows : List (List (Element τ))} {body text : List Char}
    (h : TableText τ cols rows body) (ht : text = body ∨ text = '\uFEFF' :: body) :
    read τ text = .ok ⟨rows.length, cols, rows.flatten.toArray⟩ := by
  have hdrop : dropMark text = body := by
    rcases ht with rfl | rfl
    · unfold dropMark
      split
      · rcases h.mem List.mem_cons_self with h | h | h | h | h <;> cases h
      · rfl
    · rfl
  have hshape : shapeOf text = ⟨rows.length, cols⟩ := by
    rw [shapeOf_dropMark (by rw [hdrop]; exact h.text_ne_nil), hdrop, h.shapeOf_eq]
  have hrows : rows ≠ [] := by
    intro h'
    subst h'
    exact h.text_ne_nil ((lines_eq_nil_iff body).1 (List.forall₂_nil_left_iff.1 h.forall₂_lines))
  rw [read_eq_ok_iff_records, hshape, hdrop]
  refine ⟨?_, rows, ?_, rfl, rfl⟩
  · simp only [Shape.isEmpty, Bool.or_eq_false_iff, beq_eq_false_iff_ne]
    exact ⟨mt List.length_eq_zero_iff.1 hrows, Nat.ne_of_gt h.cols_pos⟩
  · rw [forall₂_records_iff h.cols_pos, h.filled_eq]
    exact ((List.forall₂_and_left _ _).2 ⟨h.length_eq, h.forall₂_lines⟩).flip

/-- Ways of not being a table. -/
inductive Malformed (τ : IntType) (text : List Char) : Prop
  | blankLine (h : [] ∈ lines (dropMark text))
  | emptyField {l : List Char} (hl : l ∈ lines (dropMark text)) (h : [] ∈ fieldsOf l)
  | space (h : ' ' ∈ text)
  | ragged {l l' : List Char} (hl : l ∈ lines (dropMark text)) (hl' : l' ∈ lines (dropMark text))
      (h : (fieldsOf l).length ≠ (fieldsOf l').length)
  | outOfRange {l f : List Char} {n : Int} (hl : l ∈ lines (dropMark text)) (hf : f ∈ fieldsOf l)
      (hn : Numeral τ.signed f n) (h : ¬ τ.InRange n)

theorem not_malformed {cols : Nat} {rows : List (List (Element τ))} {text : List Char}
    (h : TableText τ cols rows (dropMark text)) : ¬ Malformed τ text := by
  have hfields : ∀ l ∈ lines (dropMark text), (fieldsOf l).length = cols ∧
      ∀ f ∈ fieldsOf l, ∃ a : Element τ, Numeral τ.signed f a.val := by
    intro l hl
    obtain ⟨row, hne, hlen, hr⟩ := h.exists_row hl
    have hf := (rowText_iff_fieldsOf hne l).1 hr
    refine ⟨hf.length_eq.trans hlen, fun f hmem => ?_⟩
    obtain ⟨a, -, ha⟩ := exists_of_mem_left hf hmem
    exact ⟨a, ha⟩
  intro h'
  obtain hblank | ⟨hl, hempty⟩ | hspace | ⟨hl, hl', hne⟩ | ⟨hl, hf, hn, hrange⟩ := h'
  · obtain ⟨row, hne, -, hr⟩ := h.exists_row hblank
    exact hr.ne_nil hne rfl
  · obtain ⟨a, ha⟩ := (hfields _ hl).2 [] hempty
    exact ha.ne_nil rfl
  · have hmem : ' ' ∈ dropMark text := by
      rcases eq_dropMark text with he | he
      · rwa [he] at hspace
      · rw [he] at hspace
        exact (List.mem_cons.1 hspace).resolve_left (by decide)
    rcases h.mem hmem with h | h | h | h | h <;> cases h
  · exact hne ((hfields _ hl).1.trans (hfields _ hl').1.symm)
  · obtain ⟨a, ha⟩ := (hfields _ hl).2 _ hf
    rw [hn.unique ha] at hrange
    exact hrange a.inRange

/-- Loading gives a grid exactly for a table, with or without a byte order mark before it: one
    row for each line, as many columns as there are numerals on each line, and their values in
    order. What is malformed is refused. -/
theorem read_eq_ok_iff (τ : IntType) (text : List Char) :
    (∀ g : Grid (Element τ), read τ text = .ok g ↔
      ∃ body cols rows, (text = body ∨ text = '\uFEFF' :: body) ∧ TableText τ cols rows body ∧
        g = ⟨rows.length, cols, rows.flatten.toArray⟩) ∧
    (Malformed τ text → ∃ fault, read τ text = .error fault) := by
  refine ⟨fun g => ⟨fun h => ?_, ?_⟩, fun hbad => ?_⟩
  · obtain ⟨cols, rows, htable, hg⟩ := tableText_of_read h
    exact ⟨dropMark text, cols, rows, eq_dropMark text, htable, hg⟩
  · intro h'
    obtain ⟨body, cols, rows, ht, htable, rfl⟩ := h'
    exact read_of_tableText htable ht
  · cases hread : read τ text with
    | error fault => exact ⟨fault, rfl⟩
    | ok g =>
        obtain ⟨cols, rows, htable, -⟩ := tableText_of_read hread
        exact absurd hbad (not_malformed htable)

end Gridscript.Csv
