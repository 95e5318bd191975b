/-
  The line that a fault is reported for.

  Loading stops at the first line, blank ones aside, that is not read as a row. The number it
  reports counts the line feeds up to the place where the search for that line began, which is
  right after the one character that ended the line before. So it falls short of the number of
  the line by the carriage returns on their own before the line, and by the line feeds that are
  passed over on the way to it: those of blank lines, and the second half of a line end of two
  characters. It is right exactly for the first line of a text, and for a line with a single
  line feed between it and a line that is not blank, if no carriage return on its own stands
  before it (`line_of_read_error`).
-/
import Gridscript.Proofs.Csv.Acceptance

namespace Gridscript

/-- The issues that lie in a record. -/
def CsvIssue.inRecord : CsvIssue → Bool
  | notInteger _ => true
  | fieldCount _ _ => true
  | rowCount _ _ => false
  | noRows => false

namespace Csv

variable {τ : IntType}

/-! ## Numbers of lines -/

/-- Carriage returns that no line feed follows. -/
def loneReturns : List Char → Nat
  | [] => 0
  | c :: rest =>
      if c = '\r' ∧ rest.head? ≠ some '\n' then loneReturns rest + 1 else loneReturns rest

/-- No line is left open at the end. -/
def Closed (text : List Char) : Prop := ∀ c ∈ text.getLast?, isLineEnd c = true

theorem closed_nil : Closed [] := nofun

theorem closed_concat {e : Char} (he : isLineEnd e = true) (text : List Char) :
    Closed (text ++ [e]) := by
  intro c hc
  rw [List.getLast?_concat] at hc
  cases hc
  exact he

theorem Closed.tail {c : Char} {rest : List Char} (h : Closed (c :: rest)) : Closed rest := by
  cases rest with
  | nil => exact closed_nil
  | cons d rest => exact h

theorem Closed.ne_nil {c : Char} {rest : List Char} (h : Closed (c :: rest))
    (hc : isLineEnd c = false) : rest ≠ [] := by
  rintro rfl
  exact absurd (h c rfl) (by simp [hc])

/-- A line for each line feed and for each carriage return that no line feed follows. -/
theorem length_lines {text : List Char} (h : Closed text) :
    (lines text).length = text.count '\n' + loneReturns text := by
  induction text using lines_induction with
  | nil => rfl
  | crlf rest ih =>
      rw [lines_crlf, ih h.tail, loneReturns, if_neg (by simp)]
      rfl
  | lineEnd c rest hc hne ih =>
      rw [lines_lineEnd hc hne, List.length_cons, ih h.tail, loneReturns, List.count_cons]
      simp only [isLineEnd, Bool.or_eq_true, beq_iff_eq] at hc
      rcases hc with rfl | rfl
      · rw [if_pos (by decide), if_neg fun hr => absurd hr.1 (by decide)]
        omega
      · rw [if_neg (by decide), if_pos ⟨rfl, fun hr => hne ⟨rfl, hr⟩⟩]
        omega
  | char c rest hc ih =>
      have hlen : 0 < (lines rest).length :=
        List.length_pos_iff.2 (mt (lines_eq_nil_iff rest).1 (h.ne_nil hc))
      simp only [isLineEnd, Bool.or_eq_false_iff, beq_eq_false_iff_ne] at hc
      rw [lines_cons (by simp [isLineEnd, hc]), length_prepend, Nat.max_eq_right hlen, ih h.tail,
        loneReturns, if_neg (by simp [hc]), List.count_cons_of_ne hc.1]

/-- Lines that are closed stay as they are when more follows, unless that goes on with their
    last line end. -/
theorem lines_append_of_closed {before rest : List Char} (h : Closed before)
    (hrest : rest.head? ≠ some '\n') : lines (before ++ rest) = lines before ++ lines rest := by
  induction before using lines_induction with
  | nil => rfl
  | crlf before ih =>
      rw [lines_crlf, ← ih h.tail]
      exact lines_crlf _
  | lineEnd c before hc hne ih =>
      have hne' : ¬ (c = '\r' ∧ (before ++ rest).head? = some '\n') := by
        rintro ⟨hr, hhead⟩
        cases before with
        | nil => exact hrest hhead
        | cons d before => exact hne ⟨hr, hhead⟩
      rw [List.cons_append, lines_lineEnd hc hne', lines_lineEnd hc hne, ih h.tail]
      rfl
  | char c before hc ih =>
      obtain ⟨l, ls, hl⟩ :=
        List.exists_cons_of_ne_nil (mt (lines_eq_nil_iff before).1 (h.ne_nil hc))
      rw [List.cons_append, lines_cons hc, lines_cons hc, ih h.tail, hl]
      rfl

theorem loneReturns_concat_pos (text : List Char) : 0 < loneReturns (text ++ ['\r']) := by
  induction text with
  | nil => decide
  | cons c text ih =>
      rw [List.cons_append, loneReturns]
      split
      · exact Nat.succ_pos _
      · exact ih

/-! ## Places of records -/

/-- Nothing, or what comes up to one character that ends a line which is not blank. -/
def Begun (begun : List Char) : Prop :=
  begun = [] ∨ ∃ earlier c e, begun = earlier ++ [c, e] ∧ isLineEnd c = false ∧ isLineEnd e = true

theorem Begun.closed_append {begun blank : List Char} (h : Begun begun)
    (hblank : ∀ c ∈ blank, isLineEnd c = true) : Closed (begun ++ blank) := by
  rcases List.eq_nil_or_concat' blank with rfl | ⟨blank, e, rfl⟩
  · rw [List.append_nil]
    rcases h with rfl | ⟨earlier, c, e, rfl, -, he⟩
    · exact closed_nil
    · rw [List.append_cons]
      exact closed_concat he (earlier ++ [c])
  · rw [← List.append_assoc]
    exact closed_concat (hblank e (by simp)) _

/-- A record in a text: what comes up to the character that ended the record before, line ends
    that are passed over, and the line that makes the record. -/
structure RecordAt (text begun blank content : List Char) : Prop where
  text_eq : ∃ after, text = begun ++ blank ++ (content ++ after) ∧ Tally.atEnd after = true
  begun : Begun begun
  blank_ends : ∀ c ∈ blank, isLineEnd c = true
  content_ne : content ≠ []
  content_chars : ∀ c ∈ content, isLineEnd c = false

namespace RecordAt

variable {text begun blank content : List Char}

theorem closed (h : RecordAt text begun blank content) : Closed (begun ++ blank) :=
  h.begun.closed_append h.blank_ends

theorem text_ne_nil (h : RecordAt text begun blank content) : text ≠ [] := by
  obtain ⟨after, rfl, -⟩ := h.text_eq
  simp [h.content_ne]

/-- A place in what follows a line is one in the text with that line. -/
theorem behind (h : RecordAt text begun blank content) (front : List Char) {line : List Char}
    (hne : line ≠ []) (hline : ∀ c ∈ line, isLineEnd c = false) {e : Char}
    (he : isLineEnd e = true) :
    RecordAt (front ++ (line ++ e :: text)) (front ++ (line ++ e :: begun)) blank content := by
  obtain ⟨after, rfl, hafter⟩ := h.text_eq
  refine ⟨⟨after, by simp, hafter⟩, .inr ?_, h.blank_ends, h.content_ne, h.content_chars⟩
  rcases h.begun with rfl | ⟨earlier, c, e', rfl, hc, he'⟩
  · obtain ⟨line, c, rfl⟩ := (List.eq_nil_or_concat' line).resolve_left hne
    exact ⟨front ++ line, c, e, by simp, hline c (by simp), he⟩
  · exact ⟨front ++ (line ++ e :: earlier), c, e', by simp, hc, he'⟩

/-- The line of a record is the one after the lines before it. -/
theorem getElem?_lines (h : RecordAt text begun blank content) :
    (lines text)[(lines (begun ++ blank)).length]? = some content := by
  obtain ⟨after, rfl, hafter⟩ := h.text_eq
  obtain ⟨c, rest, rfl⟩ := List.exists_cons_of_ne_nil h.content_ne
  have hc : isLineEnd c = false := h.content_chars c List.mem_cons_self
  have hhead : (c :: rest ++ after).head? ≠ some '\n' := by
    intro hfeed
    cases hfeed
    cases hc
  rw [lines_append_of_closed h.closed hhead, lines_append h.content_ne h.content_chars hafter,
    List.getElem?_append_right (Nat.le_refl _), Nat.sub_self]
  rfl

/-- The line feeds up to where the search for a record began fall short of the lines before it
    by the carriage returns on their own and by the line feeds that are passed over. -/
theorem count_add_eq (h : RecordAt text begun blank content) :
    begun.count '\n' + loneReturns (begun ++ blank) + blank.count '\n' =
      (lines (begun ++ blank)).length := by
  rw [length_lines h.closed, List.count_append]
  omega

/-- Nothing is passed over and no carriage return is on its own exactly if the record is the
    first line or a line that is not blank and one line feed come right before it. -/
theorem count_eq_zero_iff (h : RecordAt text begun blank content) :
    loneReturns (begun ++ blank) = 0 ∧ blank.count '\n' = 0 ↔
      begun ++ blank = [] ∨ loneReturns (begun ++ blank) = 0 ∧
        ∃ earlier c, begun ++ blank = earlier ++ [c, '\n'] ∧ isLineEnd c = false := by
  -- A closed text without carriage returns on their own ends with a line feed.
  have hlast : ∀ {front : List Char} {e : Char}, isLineEnd e = true →
      loneReturns (front ++ [e]) = 0 → e = '\n' := by
    intro front e he hlone
    simp only [isLineEnd, Bool.or_eq_true, beq_iff_eq] at he
    rcases he with rfl | rfl
    · rfl
    · exact absurd hlone (Nat.ne_of_gt (loneReturns_concat_pos front))
  constructor
  · rintro ⟨hlone, hfeeds⟩
    rcases List.eq_nil_or_concat' blank with rfl | ⟨blank, e, rfl⟩
    · rw [List.append_nil] at hlone ⊢
      rcases h.begun with hnil | ⟨earlier, c, e, rfl, hc, he⟩
      · exact .inl hnil
      · obtain rfl := hlast he (List.append_cons earlier c [e] ▸ hlone)
        exact .inr ⟨hlone, earlier, c, rfl, hc⟩
    · rw [← List.append_assoc] at hlone
      obtain rfl := hlast (h.blank_ends e (by simp)) hlone
      simp at hfeeds
  · rintro (hnil | ⟨hlone, earlier, c, hbefore, hc⟩)
    · obtain ⟨rfl, rfl⟩ := List.append_eq_nil_iff.1 hnil
      exact ⟨rfl, rfl⟩
    · refine ⟨hlone, ?_⟩
      rcases List.eq_nil_or_concat' blank with rfl | ⟨blank, e, rfl⟩
      · rfl
      · -- The last but one character would end a line.
        have hfront : begun ++ blank = earlier ++ [c] := by
          rw [← List.append_assoc, List.append_cons earlier] at hbefore
          exact List.append_inj_left' hbefore rfl
        have hclosed := h.begun.closed_append fun d hd => h.blank_ends d (List.mem_append_left _ hd)
        rw [hfront] at hclosed
        exact absurd (hclosed c (by simp)) (by simp [hc])

end RecordAt

theorem count_eq_zero_of_chars {content : List Char} (h : ∀ c ∈ content, isLineEnd c = false) :
    content.count '\n' = 0 :=
  List.count_eq_zero.2 fun hmem => absurd (h _ hmem) (by decide)

/-- Every record is at some place. The line it is reported for counts the line feeds up to
    where the search for it began; the records before it are the lines before it. -/
theorem exists_recordAt (line : Nat) (text : List Char) {before after : List Record} {r : Record}
    (h : records line text = before ++ r :: after) :
    ∃ begun blank content, RecordAt text begun blank content ∧
      r = ⟨line + begun.count '\n', content.splitOn ','⟩ ∧
      before.map Record.fields = (filled (begun ++ blank)).map (·.splitOn ',') := by
  induction line, text using records_induction generalizing before with
  | nil line text htext => cases before <;> cases h
  | cons line front content rest rs hfront hne hcontent hrest ih =>
      cases before with
      | nil =>
          cases h
          refine ⟨[], front, content, ⟨⟨rest, rfl, hrest⟩, .inl rfl, hfront, hne, hcontent⟩, rfl,
            ?_⟩
          rw [List.nil_append, filled_of_lineEnds hfront]
          rfl
      | cons q before =>
          cases h
          -- The record comes after the first line, which is then added to what was begun.
          obtain ⟨begun, blank, content', hat, rfl, hbefore⟩ := ih rfl
          cases rest with
          | nil => exact absurd rfl hat.text_ne_nil
          | cons e rest =>
              refine ⟨_, blank, content', hat.behind front hne hcontent hrest, ?_, ?_⟩
              · have htake : (e :: rest).take 1 = [e] := rfl
                simp only [htake, Record.mk.injEq, and_true, List.count_append, List.count_cons,
                  List.count_nil, count_eq_zero_of_chars hcontent]
                omega
              · have hfilled : filled (content ++ e :: (begun ++ blank)) =
                    content :: filled (begun ++ blank) := filled_append hne hcontent hrest
                rw [List.append_assoc, List.append_assoc, List.cons_append,
                  filled_lineEnds_append hfront, hfilled, List.map_cons, List.map_cons, hbefore]

/-! ## The first record at fault -/

theorem line_of_readRecord_error {cols : Nat} {r : Record} {line : Nat} {issue : CsvIssue}
    (h : readRecord τ cols r = .error (.csv line issue)) : line = r.line := by
  rw [readRecord_eq] at h
  split at h
  · obtain ⟨-, field, -, -, -, hfield⟩ := (Outcome.mapM_eq_error_iff _ _ _).1 h
    unfold readField at hfield
    split at hfield
    · cases hfield
    · cases hfield
      rfl
  · cases h
    rfl

/-- An issue in a record is that of the first record which is not read as a row. -/
theorem exists_record_of_read_error {text : List Char} {line : Nat} {issue : CsvIssue}
    (h : read τ text = .error (.csv line issue)) (hissue : issue.inRecord = true) :
    0 < (shapeOf text).cols ∧ ∃ before r after, records 1 (dropMark text) = before ++ r :: after ∧
      (∀ q ∈ before, ∃ row, readRecord τ (shapeOf text).cols q = .ok row) ∧
      readRecord τ (shapeOf text).cols r = .error (.csv line issue) := by
  have hne : text ≠ [] := by
    rintro rfl
    cases h
    cases hissue
  have hempty := mt (isEmpty_shapeOf_iff text).1 hne
  simp only [Shape.isEmpty, Bool.or_eq_true, beq_iff_eq, not_or] at hempty
  refine ⟨Nat.pos_of_ne_zero hempty.2, (Outcome.mapM_eq_error_iff _ _ _).1 ?_⟩
  rw [read_eq_mapM hne] at h
  rcases (Outcome.bind_eq_error_iff _ _ _).1 h with h | ⟨rows, -, h⟩
  · exact h
  · unfold Assembly.finish at h
    split at h
    · cases h
    · cases h
      cases hissue

/-- The line reported for an issue in a record. Up to the record, the lines that are not blank
    are those of rows. The number reported and that of the line differ by the carriage returns
    on their own before the line and the line feeds that are passed over to get to it; they are
    equal exactly for the first line of the text, and for a line right behind a line that is not
    blank and ends with one line feed, with no carriage return on its own before it. -/
theorem line_of_read_error {text : List Char} {line : Nat} {issue : CsvIssue}
    (h : read τ text = .error (.csv line issue)) (hissue : issue.inRecord = true) :
    ∃ begun blank content, RecordAt (dropMark text) begun blank content ∧
      (∀ l ∈ filled (begun ++ blank), ∃ row, row.length = (shapeOf text).cols ∧ RowText τ row l) ∧
      readRecord τ (shapeOf text).cols ⟨line, content.splitOn ','⟩ = .error (.csv line issue) ∧
      let before := begun ++ blank
      let number := (lines before).length + 1
      (lines (dropMark text))[number - 1]? = some content ∧
      line + loneReturns before + blank.count '\n' = number ∧
      (line = number ↔ before = [] ∨ loneReturns before = 0 ∧
        ∃ earlier c, before = earlier ++ [c, '\n'] ∧ isLineEnd c = false) := by
  obtain ⟨hcols, earlier, r, later, hrecords, hearlier, hr⟩ := exists_record_of_read_error h hissue
  obtain ⟨begun, blank, content, hat, rfl, hfields⟩ := exists_recordAt 1 (dropMark text) hrecords
  obtain rfl : line = 1 + begun.count '\n' := line_of_readRecord_error hr
  have hcount := hat.count_add_eq
  refine ⟨begun, blank, content, hat, fun l hl => ?_, hr, hat.getElem?_lines, by omega, ?_⟩
  · have hmem : l.splitOn ',' ∈ earlier.map Record.fields := by
      rw [hfields]
      exact List.mem_map_of_mem hl
    obtain ⟨q, hq, hsplit⟩ := List.mem_map.1 hmem
    obtain ⟨row, hrow⟩ := hearlier q hq
    exact ⟨row, (readRecord_splitOn hcols hsplit row).1 hrow⟩
  · rw [← hat.count_eq_zero_iff]
    omega

/-- A byte order mark and lines with all kinds of line ends, one of them blank. -/
def mixedLines : List Char := "\uFEFF1\r\n2\r3\n\nx".toList

theorem line_of_read_error_mixedLines :
    read .i64 mixedLines = .error (.csv 3 (.notInteger "x")) ∧
      ∃ begun blank content, RecordAt (dropMark mixedLines) begun blank content ∧
        (lines (dropMark mixedLines))[(lines (begun ++ blank)).length]? = some content ∧
        3 + loneReturns (begun ++ blank) + blank.count '\n' =
          (lines (begun ++ blank)).length + 1 := by
  have hread : read .i64 mixedLines = .error (.csv 3 (.notInteger "x")) := by decide +kernel
  obtain ⟨begun, blank, content, hat, -, -, hline, hnumber, -⟩ := line_of_read_error hread rfl
  exact ⟨hread, begun, blank, content, hat, hline, hnumber⟩

/-- Lines that end with two characters. -/
def twoCharacterEnds : List Char := "1,2\r\n3,4\r\n5,x\r\n".toList

/-- The issue is in the third line and reported for the second. -/
theorem read_twoCharacterEnds :
    read .i64 twoCharacterEnds = .error (.csv 2 (.notInteger "x")) ∧
      lines twoCharacterEnds = ["1,2".toList, "3,4".toList, "5,x".toList] := by
  decide +kernel

end Csv

end Gridscript
