/-
  Lines of comma-separated text.

  `lines` cuts a text at its line ends; a carriage return right before a line feed is part of
  the same line end. Loading passes over a text twice, and both passes are told here in terms
  of its lines. The scan finds as many rows as there are lines and the columns of the first of
  them (`shapeOf_eq`). The records are the lines that are not blank, cut at their commas
  (`fields_records`). The scan counts blank lines and the records do not, so the two agree on
  the number of rows exactly for texts without blank lines.
-/
import Gridscript.Csv.Record
import Mathlib.Data.List.TakeWhile

namespace Gridscript.Csv

/-- Lines with one more character at the start of the first. -/
def prepend (c : Char) : List (List Char) → List (List Char)
  | [] => [[c]]
  | l :: ls => (c :: l) :: ls

/-- The lines of a text. What follows the last line end is a line unless it is empty. -/
def lines : List Char → List (List Char)
  | [] => []
  | '\r' :: '\n' :: rest => [] :: lines rest
  | c :: rest => if isLineEnd c then [] :: lines rest else prepend c (lines rest)

theorem length_prepend (c : Char) (ls : List (List Char)) :
    (prepend c ls).length = max 1 ls.length := by
  cases ls with
  | nil => rfl
  | cons l ls => simp only [prepend, List.length_cons]; omega

theorem headD_prepend (c : Char) (ls : List (List Char)) :
    (prepend c ls).headD [] = c :: ls.headD [] := by
  cases ls <;> rfl

@[simp] theorem lines_nil : lines [] = [] := rfl

/-- The two characters of a line end count as the second of them alone. -/
theorem lines_crlf (rest : List Char) : lines ('\r' :: '\n' :: rest) = lines ('\n' :: rest) := by
  simp [lines, isLineEnd]

theorem lines_lineEnd {c : Char} {rest : List Char} (hc : isLineEnd c = true)
    (h : ¬ (c = '\r' ∧ rest.head? = some '\n')) : lines (c :: rest) = [] :: lines rest := by
  rw [lines, if_pos hc]
  intro r h' h2
  subst h'
  subst h2
  exact h ⟨rfl, rfl⟩

theorem lines_cons {c : Char} (hc : isLineEnd c = false) (rest : List Char) :
    lines (c :: rest) = prepend c (lines rest) := by
  rw [lines, if_neg (by simp [hc])]
  intro r h h2
  subst h
  subst h2
  simp [isLineEnd] at hc

/-- Induction over a text as its lines are cut: a character that a line end goes on with, the
    last character of a line end, and a character of a line. -/
theorem lines_induction {motive : List Char → Prop} (nil : motive [])
    (crlf : ∀ rest, motive ('\n' :: rest) → motive ('\r' :: '\n' :: rest))
    (lineEnd : ∀ c rest, isLineEnd c = true → ¬ (c = '\r' ∧ rest.head? = some '\n') →
      motive rest → motive (c :: rest))
    (char : ∀ c rest, isLineEnd c = false → motive rest → motive (c :: rest))
    (text : List Char) : motive text := by
  induction text with
  | nil => exact nil
  | cons c rest ih =>
      cases hc : isLineEnd c with
      | false => exact char c rest hc ih
      | true =>
          by_cases h : c = '\r' ∧ rest.head? = some '\n'
          · obtain ⟨rfl, hr⟩ := h
            obtain ⟨r, rfl⟩ := List.head?_eq_some_iff.1 hr
            exact crlf r ih
          · exact lineEnd c rest hc h ih

@[simp] theorem lines_eq_nil_iff (text : List Char) : lines text = [] ↔ text = [] := by
  refine ⟨fun h => ?_, fun h => by rw [h, lines_nil]⟩
  induction text using lines_induction with
  | nil => rfl
  | crlf rest ih => rw [lines_crlf] at h; exact absurd (ih h) (List.cons_ne_nil _ _)
  | lineEnd c rest hc hne ih => rw [lines_lineEnd hc hne] at h; cases h
  | char c rest hc ih =>
      rw [lines_cons hc] at h
      cases hl : lines rest with
      | nil => rw [hl] at h; cases h
      | cons l ls => rw [hl] at h; cases h

/-! ## Columns of a line -/

/-- A line without the comma at its end, if there is one. -/
def trimComma (l : List Char) : List Char := if l.getLast? = some ',' then l.dropLast else l

/-- The columns that a line opens. -/
def columns (l : List Char) : Nat := (trimComma l).count ',' + 1

theorem trimComma_cons (c : Char) {l : List Char} (hl : l ≠ []) :
    trimComma (c :: l) = c :: trimComma l := by
  obtain ⟨d, l, rfl⟩ := List.exists_cons_of_ne_nil hl
  simp only [trimComma, List.getLast?_cons_cons, List.dropLast_cons_cons]
  split <;> rfl

/-- A comma opens a column unless the line ends with it. -/
theorem columns_cons (c : Char) (l : List Char) :
    columns (c :: l) = if c = ',' ∧ l ≠ [] then columns l + 1 else columns l := by
  cases l with
  | nil =>
      by_cases hc : c = ','
      · subst hc; rfl
      · simp [columns, trimComma, hc]
  | cons d l =>
      simp only [columns, trimComma_cons c (List.cons_ne_nil d l), List.count_cons]
      by_cases hc : c = ','
      · simp [hc]
      · simp [hc]

/-! ## The scan -/

namespace Tally

theorem atEnd_iff_head_lines (text : List Char) :
    atEnd text = true ↔ (lines text).headD [] = [] := by
  induction text using lines_induction with
  | nil => simp [atEnd]
  | crlf rest _ => simp [atEnd, isLineEnd, lines]
  | lineEnd c rest hc h _ => simp [atEnd, hc, lines_lineEnd hc h]
  | char c rest hc _ => rw [lines_cons hc, headD_prepend]; simp [atEnd, hc]

/-- What is known after a character of a line. -/
def take (s : Tally) (c : Char) (rest : List Char) : Tally :=
  { s with
    commas := if c = ',' ∧ atEnd rest = false then s.commas + 1 else s.commas
    pending := true }

theorem run_crlf (s : Tally) (rest : List Char) :
    s.run ('\r' :: '\n' :: rest) = s.run ('\n' :: rest) := by
  rw [run, if_pos ⟨rfl, rfl⟩]

theorem run_lineEnd (s : Tally) {c : Char} {rest : List Char} (hc : isLineEnd c = true)
    (h : ¬ (c = '\r' ∧ rest.head? = some '\n')) : s.run (c :: rest) = s.endLine.run rest := by
  rw [run, if_neg h, if_pos hc]

theorem run_char (s : Tally) {c : Char} (hc : isLineEnd c = false) (rest : List Char) :
    s.run (c :: rest) = (s.take c rest).run rest := by
  have hr : ¬ (c = '\r' ∧ rest.head? = some '\n') := by
    intro h
    obtain ⟨rfl, _⟩ := h
    simp [isLineEnd] at hc
  rw [run, if_neg hr, if_neg (by simp [hc])]
  by_cases hcomma : c = ','
  · cases ha : atEnd rest <;> simp [take, hcomma, ha]
  · simp [take, hcomma]

/-- A line that is being read takes in the first of the lines that follow. -/
theorem run_rows (s : Tally) (text : List Char) :
    (s.run text).rows =
      s.rows + if s.pending then max 1 (lines text).length else (lines text).length := by
  induction text using lines_induction generalizing s with
  | nil =>
      unfold run
      split <;> simp [endLine]
  | crlf rest ih => rw [run_crlf, ih, lines_crlf]
  | lineEnd c rest hc h ih =>
      rw [run_lineEnd s hc h, ih, lines_lineEnd hc h]
      simp only [endLine, List.length_cons]
      cases s.pending <;> simp <;> omega
  | char c rest hc ih =>
      rw [run_char s hc, ih, lines_cons hc, length_prepend]
      simp only [take, if_true]
      split <;> omega

/-- Once there is a row, the columns stay. -/
theorem run_cols_of_pos (s : Tally) (hs : 0 < s.rows) (text : List Char) :
    (s.run text).cols = s.cols := by
  have hend : ∀ s : Tally, 0 < s.rows → s.endLine.cols = s.cols := by
    intro s hs
    simp only [endLine, if_neg (Nat.ne_of_gt hs)]
  induction text using lines_induction generalizing s with
  | nil => unfold run; split <;> simp [hend s hs]
  | crlf rest ih => rw [run_crlf, ih s hs]
  | lineEnd c rest hc h ih =>
      rw [run_lineEnd s hc h, ih s.endLine (Nat.succ_pos _), hend s hs]
  | char c rest hc ih => rw [run_char s hc]; exact ih (s.take c rest) hs

/-- Before there is a row, the first line to come decides the columns. -/
theorem run_cols (s : Tally) (hs : s.rows = 0) (text : List Char)
    (h : s.pending = true ∨ text ≠ []) :
    (s.run text).cols = s.commas + columns ((lines text).headD []) := by
  have hend : s.endLine.cols = s.commas + 1 := by simp [endLine, hs]
  induction text using lines_induction generalizing s with
  | nil =>
      have hp : s.pending = true := h.resolve_right (fun hne => hne rfl)
      rw [run, if_pos hp, hend]
      rfl
  | crlf rest ih =>
      rw [run_crlf, ih s hs (Or.inr (List.cons_ne_nil _ _)) hend, lines_crlf]
  | lineEnd c rest hc hne ih =>
      rw [run_lineEnd s hc hne, run_cols_of_pos s.endLine (Nat.succ_pos _), hend,
        lines_lineEnd hc hne]
      rfl
  | char c rest hc ih =>
      rw [run_char s hc, ih (s.take c rest) hs (Or.inl rfl) (by simp [endLine, take, hs]),
        lines_cons hc, headD_prepend, columns_cons]
      have ha : atEnd rest = false ↔ (lines rest).headD [] ≠ [] := by
        rw [← Bool.not_eq_true, atEnd_iff_head_lines]
      simp only [take, ha]
      split <;> omega

end Tally

/-- The shape of a text is the number of its lines and the columns of the first. -/
theorem shapeOf_eq (text : List Char) :
    shapeOf text =
      ⟨(lines text).length, if text = [] then 0 else columns ((lines text).headD [])⟩ := by
  simp only [shapeOf, Shape.mk.injEq]
  refine ⟨?_, ?_⟩
  · rw [Tally.run_rows]
    simp [Tally.start]
  · split
    · rename_i h
      rw [h]
      rfl
    · rename_i h
      rw [Tally.run_cols Tally.start rfl text (Or.inr h)]
      exact Nat.zero_add _

/-! ## The records -/

/-- What stands before the next line end is the first line. -/
theorem lines_append {content : List Char} (hne : content ≠ [])
    (hc : ∀ c ∈ content, isLineEnd c = false) {rest : List Char} (hr : Tally.atEnd rest = true) :
    lines (content ++ rest) = content :: (lines rest).tail := by
  induction content with
  | nil => exact absurd rfl hne
  | cons c content ih =>
      rw [List.cons_append, lines_cons (hc c List.mem_cons_self)]
      cases content with
      | nil =>
          have hh := (Tally.atEnd_iff_head_lines rest).1 hr
          cases hl : lines rest with
          | nil => simp [prepend, hl]
          | cons l ls =>
              rw [hl] at hh
              simp only [List.headD_cons] at hh
              simp [prepend, hl, hh]
      | cons d content =>
          rw [ih (List.cons_ne_nil _ _) fun x hx => hc x (List.mem_cons_of_mem _ hx)]
          rfl

/-- The lines that are not blank. -/
def filled (text : List Char) : List (List Char) := (lines text).filter (· ≠ [])

theorem filled_lineEnd {c : Char} (hc : isLineEnd c = true) (rest : List Char) :
    filled (c :: rest) = filled rest := by
  by_cases h : c = '\r' ∧ rest.head? = some '\n'
  · obtain ⟨rfl, hr⟩ := h
    obtain ⟨r, rfl⟩ := List.head?_eq_some_iff.1 hr
    rw [filled, lines_crlf, filled]
  · rw [filled, lines_lineEnd hc h]
    rfl

theorem filled_lineEnds_append {blank : List Char} (h : ∀ c ∈ blank, isLineEnd c = true)
    (rest : List Char) : filled (blank ++ rest) = filled rest := by
  induction blank with
  | nil => rfl
  | cons c blank ih =>
      rw [List.cons_append, filled_lineEnd (h c List.mem_cons_self),
        ih fun d hd => h d (List.mem_cons_of_mem _ hd)]

theorem filled_of_lineEnds {text : List Char} (h : ∀ c ∈ text, isLineEnd c = true) :
    filled text = [] := by
  rw [← List.append_nil text, filled_lineEnds_append h]
  rfl

theorem filled_append {content : List Char} (hne : content ≠ [])
    (hc : ∀ c ∈ content, isLineEnd c = false) {rest : List Char} (hr : Tally.atEnd rest = true) :
    filled (content ++ rest) = content :: filled (rest.drop 1) := by
  have htail : (lines rest).tail.filter (· ≠ []) = filled (rest.drop 1) := by
    cases rest with
    | nil => rfl
    | cons c r =>
        have hhead := (Tally.atEnd_iff_head_lines (c :: r)).1 hr
        rw [List.drop_one, List.tail_cons, ← filled_lineEnd hr r, filled]
        cases hl : lines (c :: r) with
        | nil => rfl
        | cons l ls =>
            rw [hl] at hhead
            simp only [List.headD_cons] at hhead
            simp [hhead]
  rw [filled, lines_append hne hc hr, List.filter_cons_of_pos (by simpa using hne), htail]

/-- Induction over a text as its records are read: line ends alone make no record; otherwise
    line ends are passed over, a line makes a record, and reading goes on behind the one
    character that ends the line. -/
theorem records_induction {motive : Nat → List Char → List Record → Prop}
    (nil : ∀ line text, (∀ c ∈ text, isLineEnd c = true) → motive line text [])
    (cons : ∀ line blank content rest rs, (∀ c ∈ blank, isLineEnd c = true) → content ≠ [] →
      (∀ c ∈ content, isLineEnd c = false) → Tally.atEnd rest = true →
      motive (line + blank.count '\n' + (rest.take 1).count '\n') (rest.drop 1) rs →
      motive line (blank ++ (content ++ rest)) (⟨line, content.splitOn ','⟩ :: rs))
    (line : Nat) (text : List Char) : motive line text (records line text) := by
  fun_induction records line text with
  | case1 line text body hbody => exact nil line text (List.dropWhile_eq_nil_iff.1 hbody)
  | case2 line text blank body hbody content rest ih =>
      have hblank : ∀ c ∈ blank, isLineEnd c = true := List.all_eq_true.1 List.all_takeWhile
      have hcontent : ∀ c ∈ content, isLineEnd c = false := by
        intro c hc
        simpa using List.all_eq_true.1 List.all_takeWhile c hc
      have hne : content ≠ [] := by
        have hd : isLineEnd (body.head hbody) = false := List.head_dropWhile_not isLineEnd hbody
        obtain ⟨d, body', hb⟩ := List.exists_cons_of_ne_nil hbody
        simp only [hb, List.head_cons] at hd
        simp [content, hb, hd]
      have hrest : Tally.atEnd rest = true := by
        have hh := List.head?_dropWhile_not (fun c => !isLineEnd c) body
        cases hr : rest with
        | nil => rfl
        | cons c r => simpa [rest, hr, Tally.atEnd] using hh
      have htext : text = blank ++ (content ++ rest) := by
        simp only [blank, content, rest, body, List.takeWhile_append_dropWhile]
      have hmotive := cons line blank content rest _ hblank hne hcontent hrest ih
      rwa [← htext] at hmotive

/-- The records are the lines that are not blank, cut at their commas. -/
theorem fields_records (line : Nat) (text : List Char) :
    (records line text).map Record.fields = (filled text).map (·.splitOn ',') := by
  induction line, text using records_induction with
  | nil line text htext => rw [filled_of_lineEnds htext]; rfl
  | cons line blank content rest rs hblank hne hcontent hrest ih =>
      rw [filled_lineEnds_append hblank, filled_append hne hcontent hrest, List.map_cons, ih,
        List.map_cons]

end Gridscript.Csv
