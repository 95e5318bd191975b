/-
  The format of comma-separated text.

  A table is a sequence of lines with one line end after each, which may be left out after the
  last. A line holds the numerals of a row with commas between them, and there may be one more
  comma at its end. All rows are of one length, which is at least one. This file says what that
  means (`Laid`, `RowText`, `TableText`) without the scan and the records that loading works
  with, and compares the two: `lines` takes a laid text apart again (`lines_of_laid`), and the
  fields of a line are numerals exactly if the line is that of a row (`rowText_iff_fieldsOf`).
-/
import Gridscript.Proofs.Csv.Lines
import Gridscript.Proofs.Element.Numeral
import Mathlib.Data.List.Forall2

namespace Gridscript.Csv

open Decimal (Numeral)

variable {τ : IntType}

/-! ## Lines and line ends -/

/-- What ends a line. -/
inductive LineEnd where
  | feed
  | returnFeed
  | carriageReturn
deriving DecidableEq

def LineEnd.text : LineEnd → List Char
  | feed => ['\n']
  | returnFeed => ['\r', '\n']
  | carriageReturn => ['\r']

/-- Lines one after the other, with one line end between any two and at most one after the
    last. There is at least one line. -/
inductive Laid : List (List Char) → List Char → Prop
  | last (l : List Char) : Laid [l] l
  | ended (l : List Char) (e : LineEnd) : Laid [l] (l ++ e.text)
  | next (l : List Char) (e : LineEnd) {ls : List (List Char)} {text : List Char}
      (h : Laid ls text) : Laid (l :: ls) (l ++ (e.text ++ text))

theorem Laid.prepend {ls : List (List Char)} {text : List Char} (h : Laid ls text) (c : Char) :
    Laid (Csv.prepend c ls) (c :: text) := by
  cases h with
  | last l => exact .last (c :: text)
  | ended l e => exact .ended (c :: l) e
  | next l e h => exact .next (c :: l) e h

theorem exists_lineEnd {c : Char} (hc : isLineEnd c = true) : ∃ e : LineEnd, e.text = [c] := by
  simp only [isLineEnd, Bool.or_eq_true, beq_iff_eq] at hc
  rcases hc with rfl | rfl
  · exact ⟨.feed, rfl⟩
  · exact ⟨.carriageReturn, rfl⟩

/-- Every text but the empty one is its lines, laid out. -/
theorem laid_lines (text : List Char) (h : text ≠ []) : Laid (lines text) text := by
  have hstep : ∀ (e : LineEnd) (rest : List Char), (rest ≠ [] → Laid (lines rest) rest) →
      Laid ([] :: lines rest) (e.text ++ rest) := by
    intro e rest ih
    cases rest with
    | nil => rw [lines_nil, List.append_nil]; exact .ended [] e
    | cons d rest => exact .next [] e (ih (List.cons_ne_nil _ _))
  fun_induction lines text with
  | case1 => exact absurd rfl h
  | case2 rest ih => exact hstep .returnFeed rest ih
  | case3 c rest hne hc ih =>
      obtain ⟨e, he⟩ := exists_lineEnd hc
      have h' := hstep e rest ih
      rwa [he] at h'
  | case4 c rest hne hc ih =>
      cases rest with
      | nil => exact .last [c]
      | cons d rest => exact (ih (List.cons_ne_nil _ _)).prepend c

/-- Every character stands in a line or ends one. -/
theorem Laid.mem {ls : List (List Char)} {text : List Char} (h : Laid ls text) {c : Char}
    (hc : c ∈ text) : (∃ l ∈ ls, c ∈ l) ∨ isLineEnd c = true := by
  have hend : ∀ e : LineEnd, c ∈ e.text → isLineEnd c = true := by
    intro e he
    cases e <;> grind [LineEnd.text, isLineEnd]
  induction h with
  | last l => exact .inl ⟨l, List.mem_cons_self, hc⟩
  | ended l e =>
      rcases List.mem_append.1 hc with hc | hc
      · exact .inl ⟨l, List.mem_cons_self, hc⟩
      · exact .inr (hend e hc)
  | next l e h ih =>
      rcases List.mem_append.1 hc with hc | hc
      · exact .inl ⟨l, List.mem_cons_self, hc⟩
      · rcases List.mem_append.1 hc with hc | hc
        · exact .inr (hend e hc)
        · rcases ih hc with ⟨l', hl', hcl⟩ | hc
          · exact .inl ⟨l', List.mem_cons_of_mem _ hl', hcl⟩
          · exact .inr hc

/-- The first line starts the text. -/
theorem Laid.exists_append {ls : List (List Char)} {text : List Char} (h : Laid ls text) :
    ∃ l ls' rest, ls = l :: ls' ∧ text = l ++ rest := by
  cases h with
  | last l => exact ⟨text, [], [], rfl, (List.append_nil _).symm⟩
  | ended l e => exact ⟨l, [], e.text, rfl, rfl⟩
  | next l e h => exact ⟨l, _, _, rfl, rfl⟩

theorem lines_lineEnd_append (e : LineEnd) {rest : List Char} (h : rest.head? ≠ some '\n') :
    lines (e.text ++ rest) = [] :: lines rest := by
  cases e with
  | feed => exact lines_lineEnd (by decide) (by simp)
  | returnFeed => rfl
  | carriageReturn => exact lines_lineEnd (by decide) (by simp [h])

theorem LineEnd.atEnd_append (e : LineEnd) (rest : List Char) :
    Tally.atEnd (e.text ++ rest) = true := by
  cases e <;> rfl

/-- A line that can be told apart in a text: not blank, and without line ends. -/
def IsPlain (l : List Char) : Prop := l ≠ [] ∧ ∀ c ∈ l, isLineEnd c = false

theorem IsPlain.head?_ne {l : List Char} (h : IsPlain l) (rest : List Char) :
    (l ++ rest).head? ≠ some '\n' := by
  obtain ⟨c, l, rfl⟩ := List.exists_cons_of_ne_nil h.1
  have hc := h.2 c List.mem_cons_self
  rw [List.cons_append, List.head?_cons]
  intro he
  rw [Option.some.inj he] at hc
  cases hc

/-- Lines that are not blank can be read off the text that they are laid out in. -/
theorem lines_of_laid {ls : List (List Char)} {text : List Char} (h : Laid ls text)
    (hp : ∀ l ∈ ls, IsPlain l) : lines text = ls := by
  induction h with
  | last l =>
      have hl := hp l List.mem_cons_self
      have h := lines_append hl.1 hl.2 (show Tally.atEnd [] = true from rfl)
      rwa [List.append_nil] at h
  | ended l e =>
      have hl := hp l List.mem_cons_self
      have he : lines (e.text ++ []) = [] :: lines [] := lines_lineEnd_append e (by simp)
      rw [List.append_nil] at he
      rw [lines_append hl.1 hl.2 (by simpa using e.atEnd_append []), he]
      rfl
  | @next l e ls text h ih =>
      have hl := hp l List.mem_cons_self
      have hls : ∀ l' ∈ ls, IsPlain l' := fun l' hl' => hp l' (List.mem_cons_of_mem _ hl')
      have hhead : text.head? ≠ some '\n' := by
        obtain ⟨l', ls', rest, rfl, rfl⟩ := h.exists_append
        exact (hls l' List.mem_cons_self).head?_ne rest
      rw [lines_append hl.1 hl.2 (e.atEnd_append text), lines_lineEnd_append e hhead, ih hls]
      rfl

/-! ## Rows -/

theorem exists_of_mem_left {α β : Type} {R : α → β → Prop} {xs : List α} {ys : List β}
    (h : List.Forall₂ R xs ys) {x : α} (hx : x ∈ xs) : ∃ y ∈ ys, R x y := by
  induction h with
  | nil => cases hx
  | cons hr _ ih =>
      rcases List.mem_cons.1 hx with rfl | hx
      · exact ⟨_, List.mem_cons_self, hr⟩
      · obtain ⟨y, hy, hxy⟩ := ih hx
        exact ⟨y, List.mem_cons_of_mem _ hy, hxy⟩

theorem exists_of_mem_right {α β : Type} {R : α → β → Prop} {xs : List α} {ys : List β}
    (h : List.Forall₂ R xs ys) {y : β} (hy : y ∈ ys) : ∃ x ∈ xs, R x y :=
  exists_of_mem_left (R := flip R) h.flip hy

/-- A line that holds a row: numerals with commas between them, and maybe one more comma. -/
def RowText (τ : IntType) (row : List (Element τ)) (l : List Char) : Prop :=
  ∃ fields, List.Forall₂ (fun f (a : Element τ) => Numeral τ.signed f a.val) fields row ∧
    (l = [','].intercalate fields ∨ l = [','].intercalate fields ++ [','])

/-- A text that holds rows of `cols` elements, one on each line. -/
structure TableText (τ : IntType) (cols : Nat) (rows : List (List (Element τ)))
    (text : List Char) : Prop where
  cols_pos : 0 < cols
  length_eq : ∀ row ∈ rows, row.length = cols
  laid : ∃ ls, Laid ls text ∧ List.Forall₂ (RowText τ) rows ls

/-- The fields of a line, without the one that a comma at the end would leave. -/
def fieldsOf (l : List Char) : List (List Char) := (trimComma l).splitOn ','

theorem length_splitOn (a : Char) (l : List Char) : (l.splitOn a).length = l.count a + 1 := by
  induction l with
  | nil => rfl
  | cons c l ih =>
      rw [List.splitOn_cons_eq_if_modifyHead, List.count_cons]
      split
      · rw [List.length_cons, ih]
      · rw [List.length_modifyHead, ih, Nat.add_zero]

theorem length_fieldsOf (l : List Char) : (fieldsOf l).length = columns l :=
  length_splitOn ',' (trimComma l)

theorem intercalate_fieldsOf (l : List Char) :
    l = [','].intercalate (fieldsOf l) ∨ l = [','].intercalate (fieldsOf l) ++ [','] := by
  rw [fieldsOf, List.intercalate_splitOn, trimComma]
  split
  · rename_i h
    exact .inr (List.dropLast_append_getLast? ',' h).symm
  · exact .inl rfl

/-- An empty field at the end is written as a comma. -/
theorem intercalate_append_nil {fields : List (List Char)} (h : fields ≠ []) :
    [','].intercalate (fields ++ [[]]) = [','].intercalate fields ++ [','] := by
  induction fields with
  | nil => exact absurd rfl h
  | cons f fields ih =>
      cases fields with
      | nil => simp [List.intercalate_cons_cons]
      | cons g fields =>
          have ih := ih (List.cons_ne_nil _ _)
          simp only [List.cons_append, List.intercalate_cons_cons] at ih ⊢
          rw [ih]
          simp

/-- The fields of a line are those that it is made of, if none of them holds a comma and the
    last is not empty. -/
theorem fieldsOf_intercalate {fields : List (List Char)} {l : List Char} (hne : fields ≠ [])
    (hcomma : ∀ f ∈ fields, ',' ∉ f) (hlast : [] ∉ fields)
    (hl : l = [','].intercalate fields ∨ l = [','].intercalate fields ++ [',']) :
    fieldsOf l = fields := by
  have hsplit := List.splitOn_intercalate ',' hcomma hne
  rcases hl with rfl | rfl
  · have htrim : ([','].intercalate fields).getLast? ≠ some ',' := by
      intro h
      -- A comma at the end would leave an empty field behind it.
      rw [← List.dropLast_append_getLast? ',' h, List.splitOn_append_cons_self] at hsplit
      apply hlast
      rw [← hsplit]
      simp
    rw [fieldsOf, trimComma, if_neg htrim, hsplit]
  · rw [fieldsOf, trimComma, if_pos (by simp), List.dropLast_concat, hsplit]

/-- A line is that of a row exactly if its fields are numerals of the elements. -/
theorem rowText_iff_fieldsOf {row : List (Element τ)} (hrow : row ≠ []) (l : List Char) :
    RowText τ row l ↔
      List.Forall₂ (fun f (a : Element τ) => Numeral τ.signed f a.val) (fieldsOf l) row := by
  constructor
  · intro h
    obtain ⟨fields, hf, hl⟩ := h
    have hnum : ∀ f ∈ fields, ∃ n, Numeral τ.signed f n := by
      intro f hmem
      obtain ⟨a, -, ha⟩ := exists_of_mem_left hf hmem
      exact ⟨a.val, ha⟩
    have hne : fields ≠ [] := by
      intro h'
      subst h'
      cases hf
      exact hrow rfl
    rw [fieldsOf_intercalate hne ?_ ?_ hl]
    · exact hf
    · intro f hmem
      obtain ⟨n, hn⟩ := hnum f hmem
      exact hn.not_mem (by decide) (by decide) (by decide)
    · intro hmem
      obtain ⟨n, hn⟩ := hnum [] hmem
      exact hn.ne_nil rfl
  · intro hf
    exact ⟨fieldsOf l, hf, intercalate_fieldsOf l⟩

theorem mem_intercalate {sep : Char} {fields : List (List Char)} {c : Char}
    (h : c ∈ [sep].intercalate fields) : c = sep ∨ ∃ f ∈ fields, c ∈ f := by
  induction fields with
  | nil => cases h
  | cons f fields ih =>
      cases fields with
      | nil => exact .inr ⟨f, List.mem_cons_self, by simpa using h⟩
      | cons g fields =>
          rw [List.intercalate_cons_cons, List.append_assoc, List.mem_append] at h
          rcases h with h | h
          · exact .inr ⟨f, List.mem_cons_self, h⟩
          · rcases List.mem_append.1 h with h | h
            · exact .inl (List.mem_singleton.1 h)
            · rcases ih h with h | ⟨f', hf', hc⟩
              · exact .inl h
              · exact .inr ⟨f', List.mem_cons_of_mem _ hf', hc⟩

/-- The line of a row holds commas, digits and signs. -/
theorem RowText.mem {row : List (Element τ)} {l : List Char} (h : RowText τ row l) {c : Char}
    (hc : c ∈ l) : c = ',' ∨ c.isDigit = true ∨ c = '+' ∨ c = '-' := by
  obtain ⟨fields, hf, hl⟩ := h
  have hin : c = ',' ∨ c ∈ [','].intercalate fields := by
    rcases hl with rfl | rfl
    · exact .inr hc
    · rcases List.mem_append.1 hc with hc | hc
      · exact .inr hc
      · exact .inl (List.mem_singleton.1 hc)
  rcases hin with rfl | hin
  · exact .inl rfl
  · rcases mem_intercalate hin with rfl | ⟨f, hmem, hcf⟩
    · exact .inl rfl
    · obtain ⟨a, -, ha⟩ := exists_of_mem_left hf hmem
      exact .inr (ha.mem hcf)

theorem RowText.ne_nil {row : List (Element τ)} {l : List Char} (h : RowText τ row l)
    (hrow : row ≠ []) : l ≠ [] := by
  intro h'
  subst h'
  obtain ⟨a, -, ha⟩ := exists_of_mem_left ((rowText_iff_fieldsOf hrow []).1 h)
    (show [] ∈ fieldsOf [] from List.mem_cons_self)
  exact ha.ne_nil rfl

theorem RowText.isPlain {row : List (Element τ)} {l : List Char} (h : RowText τ row l)
    (hrow : row ≠ []) : IsPlain l := by
  refine ⟨h.ne_nil hrow, fun c hc => ?_⟩
  rcases h.mem hc with rfl | hd | rfl | rfl
  · rfl
  · rw [Bool.eq_false_iff]
    intro he
    simp only [isLineEnd, Bool.or_eq_true, beq_iff_eq] at he
    rcases he with rfl | rfl <;> cases hd
  · rfl
  · rfl

theorem RowText.columns_eq {row : List (Element τ)} {l : List Char} (h : RowText τ row l)
    (hrow : row ≠ []) : columns l = row.length := by
  rw [← length_fieldsOf, ((rowText_iff_fieldsOf hrow l).1 h).length_eq]

/-! ## Tables -/

namespace TableText

variable {cols : Nat} {rows : List (List (Element τ))} {text : List Char}

theorem ne_nil_of_mem (h : TableText τ cols rows text) {row : List (Element τ)}
    (hrow : row ∈ rows) : row ≠ [] := by
  intro h'
  subst h'
  exact Nat.ne_of_gt h.cols_pos (h.length_eq [] hrow).symm

/-- The lines of a table hold its rows. -/
theorem forall₂_lines (h : TableText τ cols rows text) :
    List.Forall₂ (RowText τ) rows (lines text) := by
  obtain ⟨ls, hlaid, hrows⟩ := h.laid
  rw [lines_of_laid hlaid]
  · exact hrows
  · intro l hl
    obtain ⟨row, hrow, hr⟩ := exists_of_mem_right hrows hl
    exact hr.isPlain (h.ne_nil_of_mem hrow)

theorem exists_row (h : TableText τ cols rows text) {l : List Char} (hl : l ∈ lines text) :
    ∃ row, row ≠ [] ∧ row.length = cols ∧ RowText τ row l := by
  obtain ⟨row, hrow, hr⟩ := exists_of_mem_right h.forall₂_lines hl
  exact ⟨row, h.ne_nil_of_mem hrow, h.length_eq row hrow, hr⟩

theorem filled_eq (h : TableText τ cols rows text) : filled text = lines text := by
  refine List.filter_eq_self.2 fun l hl => ?_
  obtain ⟨row, hne, -, hr⟩ := h.exists_row hl
  simpa using hr.ne_nil hne

theorem text_ne_nil (h : TableText τ cols rows text) : text ≠ [] := by
  obtain ⟨ls, hlaid, hrows⟩ := h.laid
  obtain ⟨l, ls', rest, rfl, rfl⟩ := hlaid.exists_append
  obtain ⟨row, hrow, hr⟩ := exists_of_mem_right hrows (List.mem_cons_self (a := l))
  intro he
  exact hr.ne_nil (h.ne_nil_of_mem hrow) (List.append_eq_nil_iff.1 he).1

/-- A table has the shape that the scan finds. -/
theorem shapeOf_eq (h : TableText τ cols rows text) : shapeOf text = ⟨rows.length, cols⟩ := by
  have hlen := h.forall₂_lines.length_eq
  obtain ⟨l, ls, hl⟩ := List.exists_cons_of_ne_nil (mt (lines_eq_nil_iff text).1 h.text_ne_nil)
  obtain ⟨row, hne, hcols, hr⟩ := h.exists_row (l := l) (by rw [hl]; exact List.mem_cons_self)
  rw [Csv.shapeOf_eq, if_neg h.text_ne_nil, hlen, hl, List.headD_cons, hr.columns_eq hne, hcols]

/-- A table holds commas, digits, signs and line ends. -/
theorem mem (h : TableText τ cols rows text) {c : Char} (hc : c ∈ text) :
    c = ',' ∨ c.isDigit = true ∨ c = '+' ∨ c = '-' ∨ isLineEnd c = true := by
  obtain ⟨ls, hlaid, hrows⟩ := h.laid
  rcases hlaid.mem hc with ⟨l, hl, hcl⟩ | hend
  · obtain ⟨row, -, hr⟩ := exists_of_mem_right hrows hl
    rcases hr.mem hcl with h | h | h | h
    · exact .inl h
    · exact .inr (.inl h)
    · exact .inr (.inr (.inl h))
    · exact .inr (.inr (.inr (.inl h)))
  · exact .inr (.inr (.inr (.inr hend)))

end TableText

end Gridscript.Csv
