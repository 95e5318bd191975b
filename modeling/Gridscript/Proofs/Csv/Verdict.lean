/-
  What loading says about a text.

  There are four kinds of failure and one order among them. Only the empty text holds no rows.
  In any other text the records are looked at from the first on, and the first that has a flaw
  decides: a wrong number of fields is a flaw whatever the fields are, and otherwise the leftmost
  field that is no element of the type (`Flaw`). If no record has a flaw, there may still be
  fewer records than rows, since blank lines are rows for the scan and no records; there are
  never more, so the room for records is not used up before the last of them. All that is left
  is loaded (`read_verdict`).

  Flaws are told here by the fields alone. That reading a record fails exactly for a flaw is
  `readRecord_eq_error_iff`.
-/
import Gridscript.Proofs.Csv.FaultLine

namespace Gridscript.Csv

open Decimal (Numeral)

variable {τ : IntType}

/-! ## Flaws of a record -/

/-- The text of an element of the type. -/
def IsElement (τ : IntType) (f : List Char) : Prop := ∃ a : Element τ, Numeral τ.signed f a.val

/-- As many fields as there are columns, or one more that is empty and comes last. -/
def Fits (cols : Nat) (fields : List (List Char)) : Prop :=
  fields.length = cols ∨ fields.length = cols + 1 ∧ fields.getLast? = some []

/-- What is wrong with the fields of a record: their number or, if that is right, the first of
    them under the columns that is no element. -/
inductive Flaw (τ : IntType) (cols : Nat) (fields : List (List Char)) : CsvIssue → Prop
  | count (h : ¬ Fits cols fields) : Flaw τ cols fields (.fieldCount cols fields.length)
  | field {before after : List (List Char)} {f : List Char} (hfits : Fits cols fields)
      (hsplit : fields = before ++ f :: after) (hcol : before.length < cols)
      (hbefore : ∀ e ∈ before, IsElement τ e) (hf : ¬ IsElement τ f) :
      Flaw τ cols fields (.notInteger (String.ofList f))

/-- A record with a flaw. -/
def Bad (τ : IntType) (cols : Nat) (r : Record) : Prop := ∃ issue, Flaw τ cols r.fields issue

theorem kept_of_fits {cols : Nat} {fields : List (List Char)} (h : Fits cols fields) :
    kept cols fields = fields.take cols := by
  unfold kept
  rcases h with h | h
  · rw [if_neg (by omega), List.take_of_length_le (Nat.le_of_eq h)]
  · rw [if_pos h, List.dropLast_eq_take, h.1, Nat.add_sub_cancel]

theorem kept_of_not_fits {cols : Nat} {fields : List (List Char)} (h : ¬ Fits cols fields) :
    kept cols fields = fields := if_neg fun hlast => h (.inr hlast)

theorem length_kept_eq_iff (cols : Nat) (fields : List (List Char)) :
    (kept cols fields).length = cols ↔ Fits cols fields := by
  by_cases h : Fits cols fields
  · have hle : cols ≤ fields.length := by
      unfold Fits at h
      omega
    rw [kept_of_fits h, List.length_take]
    exact iff_of_true (Nat.min_eq_left hle) h
  · rw [kept_of_not_fits h]
    exact iff_of_false (fun hlen => h (.inl hlen)) h

theorem exists_readField_iff (line : Nat) (f : List Char) :
    (∃ a : Element τ, readField τ line f = .ok a) ↔ IsElement τ f :=
  exists_congr fun a => readField_eq_ok_iff line f a

theorem readField_eq_error_iff (line : Nat) (f : List Char) (fault : GridFault) :
    readField τ line f = .error fault ↔
      ¬ IsElement τ f ∧ fault = .csv line (.notInteger (String.ofList f)) := by
  rw [← exists_readField_iff line]
  unfold readField
  cases Element.ofText? τ f with
  | some a => exact ⟨fun h => (by cases h), fun h => absurd ⟨a, rfl⟩ h.1⟩
  | none =>
      constructor
      · intro h
        cases h
        refine ⟨?_, rfl⟩
        rintro ⟨a, ha⟩
        cases ha
      · rintro ⟨-, rfl⟩
        rfl

/-- A record is refused exactly for a flaw of its fields, on its line. -/
theorem readRecord_eq_error_iff (cols : Nat) (r : Record) (fault : GridFault) :
    readRecord τ cols r = .error fault ↔
      ∃ issue, Flaw τ cols r.fields issue ∧ fault = .csv r.line issue := by
  rw [readRecord_eq]
  by_cases hfits : Fits cols r.fields
  · rw [if_pos ((length_kept_eq_iff _ _).2 hfits), kept_of_fits hfits, Outcome.mapM_eq_error_iff]
    simp only [exists_readField_iff, readField_eq_error_iff]
    constructor
    · rintro ⟨before, f, after, htake, hbefore, hf, rfl⟩
      have hsplit : r.fields = before ++ f :: (after ++ r.fields.drop cols) := by
        have happend := List.take_append_drop cols r.fields
        rw [htake, List.append_assoc, List.cons_append] at happend
        exact happend.symm
      have hcol : before.length < cols := by
        have hlen := congrArg List.length htake
        simp only [List.length_take, List.length_append, List.length_cons] at hlen
        omega
      exact ⟨_, .field hfits hsplit hcol hbefore hf, rfl⟩
    · rintro ⟨issue, hflaw, rfl⟩
      cases hflaw with
      | count h => exact absurd hfits h
      | @field before after f _ hsplit hcol hbefore hf =>
          refine ⟨before, f, after.take (cols - before.length - 1), ?_, hbefore, hf, rfl⟩
          rw [hsplit, List.take_append, List.take_of_length_le (Nat.le_of_lt hcol),
            List.take_cons (by omega)]
  · rw [if_neg (mt (length_kept_eq_iff _ _).1 hfits), kept_of_not_fits hfits]
    constructor
    · intro h
      cases h
      exact ⟨_, .count hfits, rfl⟩
    · rintro ⟨issue, hflaw, rfl⟩
      cases hflaw with
      | count h => rfl
      | field h => exact absurd h hfits

theorem exists_readRecord_iff (cols : Nat) (r : Record) :
    (∃ row, readRecord τ cols r = .ok row) ↔ ¬ Bad τ cols r := by
  constructor
  · rintro ⟨row, hrow⟩ ⟨issue, hflaw⟩
    have herror := (readRecord_eq_error_iff cols r _).2 ⟨issue, hflaw, rfl⟩
    rw [hrow] at herror
    cases herror
  · intro hsound
    cases h : readRecord τ cols r with
    | ok row => exact ⟨row, rfl⟩
    | error fault =>
        obtain ⟨issue, hflaw, -⟩ := (readRecord_eq_error_iff cols r fault).1 h
        exact absurd ⟨issue, hflaw⟩ hsound

/-! ## Lines of records -/

theorem eq_feed_of_lineEnd {e : Char} {text : List Char} (hreturn : '\r' ∉ text) (hmem : e ∈ text)
    (he : isLineEnd e = true) : e = '\n' := by
  simp only [isLineEnd, Bool.or_eq_true, beq_iff_eq] at he
  rcases he with he | he
  · exact he
  · exact absurd (he ▸ hmem) hreturn

/-- Without carriage returns and blank lines, the records are on one line after the other. -/
theorem line_records (line : Nat) (text : List Char) (hreturn : '\r' ∉ text)
    (hblank : [] ∉ lines text) :
    (records line text).map Record.line = List.range' line (records line text).length := by
  -- The number of the next line is wrong behind a last line without a line end, where no record
  -- is left to have it.
  suffices h : (text = [] → records line text = []) ∧ ('\r' ∉ text → [] ∉ lines text →
      (records line text).map Record.line = List.range' line (records line text).length) from
    h.2 hreturn hblank
  clear hreturn hblank
  induction line, text using records_induction with
  | nil line text htext => exact ⟨fun _ => rfl, fun _ _ => rfl⟩
  | cons line blank content rest rs hends hne hcontent hrest ih =>
      refine ⟨fun hnil => absurd hnil (by simp [hne]), fun hreturn hblank => ?_⟩
      have hnone : blank = [] := by
        cases blank with
        | nil => rfl
        | cons e blank =>
            obtain rfl := eq_feed_of_lineEnd hreturn (by simp) (hends e List.mem_cons_self)
            rw [List.cons_append, lines_lineEnd (by decide) (by simp)] at hblank
            exact absurd List.mem_cons_self hblank
      subst hnone
      rw [List.nil_append] at hreturn hblank
      rw [List.map_cons, List.length_cons, List.range'_succ]
      congr 1
      cases rest with
      | nil =>
          rw [ih.1 rfl]
          rfl
      | cons e rest =>
          obtain rfl := eq_feed_of_lineEnd hreturn (by simp) hrest
          rw [lines_append hne hcontent hrest, lines_lineEnd (by decide) (by simp),
            List.tail_cons] at hblank
          refine ih.2 (fun hmem => hreturn ?_) fun hmem => hblank ?_
          · exact List.mem_append_right _ (List.mem_cons_of_mem _ hmem)
          · exact List.mem_cons_of_mem _ hmem

theorem dropMark_suffix (text : List Char) : dropMark text <:+ text := by
  unfold dropMark
  split
  · exact List.suffix_cons _ _
  · exact List.suffix_refl _

/-! ## Verdicts -/

/-- The room for records is not used up before the last of them. -/
theorem isComplete_fill_eq_false {text : List Char} {before after : List Record} {r : Record}
    (h : records 1 (dropMark text) = before ++ r :: after) {b : Assembly (Element τ)}
    (hb : fill ⟨shapeOf text, #[], 0⟩ before = .ok b) : b.isComplete = false := by
  have hroom := length_records_le text
  rw [h, List.length_append, List.length_cons] at hroom
  rw [fill_eq_mapM _ _ (by simp only; omega)] at hb
  obtain ⟨rows, hrows, rfl⟩ := (Outcome.map_eq_ok_iff _ _ _).1 hb
  have hlen := ((Outcome.mapM_eq_ok_iff _ _ _).1 hrows).length_eq
  simp only [Assembly.isComplete, beq_eq_false_iff_ne]
  omega

theorem eq_nil_of_read_noRows {text : List Char} {line : Nat}
    (h : read τ text = .error (.csv line .noRows)) : text = [] := by
  by_contra hne
  rw [read_eq_mapM hne, Outcome.bind_eq_error_iff] at h
  rcases h with h | ⟨rows, -, h⟩
  · obtain ⟨-, r, -, -, -, hr⟩ := (Outcome.mapM_eq_error_iff _ _ _).1 h
    obtain ⟨issue, hflaw, hissue⟩ := (readRecord_eq_error_iff _ r _).1 hr
    cases hissue
    cases hflaw
  · unfold Assembly.finish at h
    split at h
    · cases h
    · cases h

/-- The first record with a flaw decides. -/
theorem read_of_flaw {text : List Char} {before after : List Record} {r : Record}
    (h : records 1 (dropMark text) = before ++ r :: after)
    (hbefore : ∀ q ∈ before, ¬ Bad τ (shapeOf text).cols q) {issue : CsvIssue}
    (hflaw : Flaw τ (shapeOf text).cols r.fields issue) :
    read τ text = .error (.csv r.line issue) := by
  have hne : text ≠ [] := by
    rintro rfl
    have hroom := length_records_le []
    rw [h, List.length_append, List.length_cons] at hroom
    exact absurd hroom (Nat.not_succ_le_zero _)
  rw [read_eq_mapM hne, Outcome.bind_eq_error_iff, Outcome.mapM_eq_error_iff]
  refine .inl ⟨before, r, after, h, fun q hq => (exists_readRecord_iff _ q).2 (hbefore q hq), ?_⟩
  exact (readRecord_eq_error_iff _ r _).2 ⟨issue, hflaw, rfl⟩

/-- If no record has a flaw, their number decides. -/
theorem read_of_sound {text : List Char} (hne : text ≠ [])
    (hsound : ∀ r ∈ records 1 (dropMark text), ¬ Bad τ (shapeOf text).cols r) :
    ∃ rows : List (List (Element τ)), rows.length = (records 1 (dropMark text)).length ∧
      read τ text = Assembly.finish ⟨shapeOf text, rows.flatten.toArray, rows.length⟩ := by
  rw [read_eq_mapM hne]
  cases hrows : (records 1 (dropMark text)).mapM (readRecord τ (shapeOf text).cols) with
  | ok rows => exact ⟨rows, ((Outcome.mapM_eq_ok_iff _ _ _).1 hrows).length_eq.symm, rfl⟩
  | error fault =>
      obtain ⟨before, r, after, hsplit, -, hr⟩ := (Outcome.mapM_eq_error_iff _ _ _).1 hrows
      obtain ⟨issue, hflaw, -⟩ := (readRecord_eq_error_iff _ r fault).1 hr
      exact absurd ⟨issue, hflaw⟩ (hsound r (by simp [hsplit]))

/-- The verdict on every text. Its records, the lines that are not blank after a byte order
    mark, are at most as many as the rows of its shape, so that there is always room for the
    next one. Only the empty text is refused for want of rows; else the first record with a flaw
    is reported, then missing records, and what has neither is loaded. In a text without
    carriage returns and blank lines, a line with nothing but the mark among these, the records
    are reported for the lines from the first on. -/
theorem read_verdict (τ : IntType) (text : List Char) :
    let shape := shapeOf text
    let rs := records 1 (dropMark text)
    rs.map Record.fields = (filled (dropMark text)).map (·.splitOn ',') ∧
    rs.length ≤ shape.rows ∧
    (∀ before r after, rs = before ++ r :: after → ∀ b : Assembly (Element τ),
      fill ⟨shape, #[], 0⟩ before = .ok b → b.isComplete = false) ∧
    ((∃ line, read τ text = .error (.csv line .noRows)) ↔ text = []) ∧
    (∀ before r after, rs = before ++ r :: after → (∀ q ∈ before, ¬ Bad τ shape.cols q) →
      ∀ issue, Flaw τ shape.cols r.fields issue → read τ text = .error (.csv r.line issue)) ∧
    (text ≠ [] → (∀ r ∈ rs, ¬ Bad τ shape.cols r) →
      (rs.length < shape.rows →
        read τ text = .error (.csv (rs.length + 1) (.rowCount shape.rows rs.length))) ∧
      (rs.length = shape.rows → ∃ g, read τ text = .ok g ∧ g.shape = shape)) ∧
    ('\r' ∉ text → [] ∉ lines (dropMark text) → ∀ k r, rs[k]? = some r → r.line = k + 1) := by
  dsimp only
  refine ⟨fields_records 1 _, length_records_le text, fun before r after hsplit b hb => ?_,
    ⟨fun h => ?_, fun h => ?_⟩, fun before r after hsplit hbefore issue hflaw => ?_,
    fun hne hsound => ?_, fun hreturn hblank k r hr => ?_⟩
  · exact isComplete_fill_eq_false hsplit hb
  · obtain ⟨line, h⟩ := h
    exact eq_nil_of_read_noRows h
  · rw [h]
    exact ⟨1, rfl⟩
  · exact read_of_flaw hsplit hbefore hflaw
  · obtain ⟨rows, hlen, hread⟩ := read_of_sound hne hsound
    rw [hread, Assembly.finish]
    constructor
    · intro hlt
      rw [if_neg (by simp only [Assembly.isComplete, beq_iff_eq]; omega), hlen]
    · intro heq
      rw [if_pos (by simp only [Assembly.isComplete, beq_iff_eq]; omega)]
      exact ⟨_, rfl, rfl⟩
  · have hmark : '\r' ∉ dropMark text := fun hmem => hreturn ((dropMark_suffix text).mem hmem)
    have hline := congrArg (·[k]?) (line_records 1 (dropMark text) hmark hblank)
    have hk : k < (records 1 (dropMark text)).length := (List.getElem?_eq_some_iff.1 hr).1
    simp only [List.getElem?_map, hr, List.getElem?_range' hk, Option.map_some, Option.some.injEq]
      at hline
    omega

/-- A flaw comes before a blank line, wherever the two stand. -/
example : read .i8 "1,2,\n\n3,128\n4\n".toList = .error (.csv 2 (.notInteger "128")) := by
  decide +kernel

end Gridscript.Csv
